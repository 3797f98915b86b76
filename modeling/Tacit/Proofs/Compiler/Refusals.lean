import Tacit.Catalogue
import Tacit.Proofs.Compiler.Calls
import Tacit.Word.Dictionary

/-!
# Calls that are refused

A call that is refused changes nothing, and a finished compiler refuses every call.

* `Compiler.results`, `Compiler.successes`: what the calls of a run answer, and those of them that
  succeed.
* `Session`: a compiler with the func variables that finished programs are stored in.
* `perform_error`, `perform_finished`: one call that is refused, and one call after the end.
* `refusals_leave_no_trace`: runs of calls without those that are refused, and after the end.
-/

namespace Tacit

section

variable [Declarations]

/-- If the call applies a func, the func is an operator. -/
def Call.Admissible : Call → Prop
  | apply host fn => ∃ w, Word.named host [] fn = .ok w
  | _ => True

/-- The answer is a finished program. -/
def finishes : Except Failure (Option Callable) → Bool
  | .ok (some _) => true
  | _ => false

namespace Compiler

/-- What calls answer, one after the other. -/
def results (c : Compiler) : List Call → List (Except Failure (Option Callable))
  | [] => []
  | call :: calls => (c.perform call).result :: (c.perform call).compiler.results calls

/-- Those of the calls that succeed. -/
def successes (c : Compiler) : List Call → List Call
  | [] => []
  | call :: calls => (if (c.perform call).result.isOk then [call] else []) ++
      (c.perform call).compiler.successes calls

theorem performAll_append : ∀ (before after : List Call) (c : Compiler),
    c.performAll (before ++ after) = (c.performAll before).performAll after
  | [], _, _ => rfl
  | call :: before, after, c => performAll_append before after (c.perform call).compiler

/-! ### One call -/

theorem perform_error {c : Compiler} {call : Call} {f : Failure}
    (h : (c.perform call).result = .error f) : (c.perform call).compiler = c := by
  rcases perform_cases c call with ⟨-, hc⟩ | ⟨-, i, -, hr, -⟩ | ⟨-, -, fn, hr, -⟩
  · exact hc
  · rw [hr] at h
    cases h
  · rw [hr] at h
    cases h

theorem perform_finishes {c : Compiler} {call : Call} {fn : Callable}
    (h : (c.perform call).result = .ok (some fn)) : (c.perform call).compiler.finished = true := by
  rcases perform_cases c call with ⟨⟨f, hf⟩, -⟩ | ⟨-, i, -, hr, -⟩ | ⟨-, -, -, -, hc⟩
  · rw [hf] at h
    cases h
  · rw [hr] at h
    cases h
  · rw [hc]

/-- After the end every call is refused. -/
theorem perform_finished {c : Compiler} (h : c.finished = true) (call : Call) :
    ∃ f, (c.perform call).result = .error f := by
  rcases perform_cases c call with ⟨hf, -⟩ | ⟨hopen, -⟩ | ⟨hopen, -⟩
  · exact hf
  · rw [h] at hopen
    cases hopen
  · rw [h] at hopen
    cases hopen

/-- The reason is that the program is finished, whatever else might be wrong with the call, unless
it applies something that is no operator. -/
theorem perform_finished_result {c : Compiler} (h : c.finished = true) {call : Call}
    (hcall : call.Admissible) : (c.perform call).result = .error (.error .finished) := by
  cases call with
  | push value t => simp only [perform, push, h, if_true]; rfl
  | applyWord w => simp only [perform, applyWord, h, if_true]; rfl
  | finish s target => simp only [perform, finish, h, if_true]; rfl
  | finishType s sig => simp only [perform, finishType, h, if_true]; rfl
  | apply host fn =>
      obtain ⟨w, hw⟩ := hcall
      simp only [perform, apply, hw, applyWord, h, if_true]
      rfl

/-! ### Runs of calls -/

theorem performAll_finished {c : Compiler} (h : c.finished = true) :
    ∀ calls : List Call, c.performAll calls = c
  | [] => rfl
  | call :: calls => by
      obtain ⟨f, hf⟩ := perform_finished h call
      rw [performAll, perform_error hf]
      exact performAll_finished h calls

theorem countP_results_finished {c : Compiler} (h : c.finished = true) :
    ∀ calls : List Call, (c.results calls).countP finishes = 0
  | [] => rfl
  | call :: calls => by
      obtain ⟨f, hf⟩ := perform_finished h call
      rw [results, perform_error hf, hf, List.countP_cons_of_neg (by simp [finishes])]
      exact countP_results_finished h calls

/-- A run finishes once at most. -/
theorem countP_results_le : ∀ (calls : List Call) (c : Compiler),
    (c.results calls).countP finishes ≤ 1
  | [], _ => by simp [results]
  | call :: calls, c => by
      rw [results]
      by_cases hfin : finishes (c.perform call).result = true
      · obtain ⟨fn, hfn⟩ : ∃ fn, (c.perform call).result = .ok (some fn) := by
          cases hr : (c.perform call).result with
          | error f => simp [hr, finishes] at hfin
          | ok fn =>
              cases fn with
              | none => simp [hr, finishes] at hfin
              | some fn => exact ⟨fn, rfl⟩
        have hrest := countP_results_finished (perform_finishes hfn) calls
        rw [List.countP_cons_of_pos hfin]
        omega
      · rw [List.countP_cons_of_neg hfin]
        exact countP_results_le calls _

/-- Without the calls that are refused, the others answer what they answered. -/
theorem results_successes : ∀ (calls : List Call) (c : Compiler),
    c.results (c.successes calls) = (c.results calls).filter (·.isOk)
  | [], _ => rfl
  | call :: calls, c => by
      cases hr : (c.perform call).result with
      | error f =>
          have hs : c.successes (call :: calls) = c.successes calls := by
            rw [successes, hr, perform_error hr]
            rfl
          rw [hs, results, hr, perform_error hr, List.filter_cons_of_neg (by simp [Except.isOk,
            Except.toBool])]
          exact results_successes calls c
      | ok fn =>
          have hs : c.successes (call :: calls) =
              call :: (c.perform call).compiler.successes calls := by
            rw [successes, hr]
            rfl
          rw [hs, results, results_successes calls, results, hr, List.filter_cons_of_pos rfl]

end Compiler

/-! ### Sessions -/

/-- A compiler and the func variables that finished programs are stored in. -/
structure Session where
  compiler : Compiler
  /-- The program that the variable at an address holds, if one was stored there. -/
  held : Addr → Option Callable

/-- The address of the variable that the call stores the program in, if it succeeds. -/
def Call.target? : Call → Option Addr
  | finish _ (some ⟨_, .pointer a _⟩) => some a
  | _ => none

namespace Session

/-- The session after a call. -/
def perform (s : Session) (call : Call) : Session where
  compiler := (s.compiler.perform call).compiler
  held := match (s.compiler.perform call).result, call.target? with
    | .ok fn, some a => fun b => if b = a then fn else s.held b
    | _, _ => s.held

/-- The session after calls. -/
def performAll (s : Session) (calls : List Call) : Session := calls.foldl perform s

/-- A call that is refused leaves the compiler and all variables as they were. -/
theorem perform_error {s : Session} {call : Call} {f : Failure}
    (h : (s.compiler.perform call).result = .error f) : s.perform call = s := by
  simp only [perform, h, Compiler.perform_error h]

/-- A program that is finished is what its variable holds then. -/
theorem held_perform {s : Session} {call : Call} {fn : Callable} {a : Addr}
    (h : (s.compiler.perform call).result = .ok (some fn)) (ha : call.target? = some a) :
    (s.perform call).held a = some fn := by
  simp only [perform, h, ha, if_true]

theorem performAll_finished {s : Session} (h : s.compiler.finished = true) (calls : List Call) :
    s.performAll calls = s := by
  induction calls with
  | nil => rfl
  | cons call calls ih =>
      obtain ⟨f, hf⟩ := Compiler.perform_finished h call
      show (s.perform call).performAll calls = s
      rw [perform_error hf]
      exact ih

theorem performAll_successes (calls : List Call) (s : Session) :
    s.performAll (s.compiler.successes calls) = s.performAll calls := by
  induction calls generalizing s with
  | nil => rfl
  | cons call calls ih =>
      show _ = (s.perform call).performAll calls
      rw [← ih, Compiler.successes]
      cases hr : (s.compiler.perform call).result with
      | error f =>
          rw [Compiler.perform_error hr, perform_error hr]
          rfl
      | ok fn => rfl

/-- **Calls that are refused leave no trace.** In every state, a call that fails leaves the compiler
and the variables as they were, also a call that fails when it has taken operands off the stack and
declared inputs. So a run ends where it ends without the calls that fail, and the
others answer the same. After a call that finishes the program, nothing changes any more, and every
call answers that the program is finished; so a run finishes once at most. -/
theorem refusals_leave_no_trace (s : Session) (calls : List Call) :
    (∀ call f, (s.compiler.perform call).result = .error f → s.perform call = s) ∧
    s.performAll (s.compiler.successes calls) = s.performAll calls ∧
    s.compiler.results (s.compiler.successes calls) =
      (s.compiler.results calls).filter (·.isOk) ∧
    (∀ call fn, ((s.performAll calls).compiler.perform call).result = .ok (some fn) →
      ∀ later, s.performAll (calls ++ call :: later) = s.performAll (calls ++ [call]) ∧
        ∀ next : Call, next.Admissible →
          ((s.performAll (calls ++ call :: later)).compiler.perform next).result =
            .error (.error .finished)) ∧
    (s.compiler.results calls).countP finishes ≤ 1 := by
  refine ⟨fun call f h => perform_error h, performAll_successes calls s,
    Compiler.results_successes calls s.compiler, fun call fn hfn later => ?_,
    Compiler.countP_results_le calls s.compiler⟩
  have hfinished : ((s.performAll calls).perform call).compiler.finished = true :=
    Compiler.perform_finishes hfn
  have hsplit : ∀ later, s.performAll (calls ++ call :: later) =
      (s.performAll calls).perform call := by
    intro later
    rw [performAll, List.foldl_append]
    exact performAll_finished hfinished later
  rw [hsplit, hsplit]
  exact ⟨rfl, fun next hnext => Compiler.perform_finished_result hfinished hnext⟩

end Session

end

namespace Session

open scoped Catalogue

/-- An integer is pushed; a word that takes a text and a truth value is refused by an eager
compiler, after it took the integer and made an input; a word that takes two integers is applied. -/
def refused : List Call :=
  [.push (some ⟨.int, .int 3⟩) none,
    .apply (Dictionary.host []) (some ⟨.func [.string, .bool] [] false, .func 0 []⟩),
    .apply (Dictionary.host []) (some ⟨.func [.int, .int] [] false, .func 1 []⟩)]

/-- Stores the program in a variable for funcs that take an integer. -/
def store : Call := .finish .empty (some ⟨.pointer (.func [.int] [] false), .pointer 0 none⟩)

theorem refusals_leave_no_trace_eager :
    let s : Session := ⟨Compiler.new { eager := true }, fun _ => none⟩
    (∃ f, s.compiler.results refused = [.ok none, .error f, .ok none]) ∧
    (s.performAll (s.compiler.successes refused)).compiler.inputs =
      (s.performAll refused).compiler.inputs ∧
    ∃ fn, ((s.performAll refused).compiler.perform store).result = .ok (some fn) ∧
      (s.performAll (refused ++ [store, store])).held 0 = some fn ∧
      ((s.performAll (refused ++ [store, store])).compiler.perform store).result =
        .error (.error .finished) := by
  intro s
  obtain ⟨-, hrun, -, hend, -⟩ := refusals_leave_no_trace s refused
  obtain ⟨fn, hfn⟩ : ∃ fn, ((s.performAll refused).compiler.perform store).result =
      .ok (some fn) := ⟨_, rfl⟩
  obtain ⟨hsame, hrefused⟩ := hend store fn hfn [store]
  have hstore : s.performAll (refused ++ [store]) = (s.performAll refused).perform store := by
    rw [performAll, performAll, List.foldl_append, List.foldl_cons, List.foldl_nil]
  refine ⟨⟨_, rfl⟩, by rw [hrun], fn, hfn, ?_, hrefused store trivial⟩
  rw [hsame, hstore]
  exact held_perform hfn rfl

end Session

end Tacit
