import Mathlib.Data.List.Induction
import Tacit.Proofs.Compiler.Acceptance
import Tacit.Proofs.Compiler.Refusals

/-!
# Calls that build a program

What pushing and applying do in either mode of checking, and what finishing says about the calls
that came before it.

* `Compiler.Admits c i`: everything that the instruction `i` takes off the stack of `c` fits.
* `checkOperands_decides`: the check at an application decides just that.
* `perform_instr`, `perform_no_instr`: a call that stands for an instruction adds it, unless the
  compiler is eager and does not admit it; any other call is refused for a reason of its own.
* `Formed.performAll_cases`: the first call of a run, and what is left of the run after it.
* `finishType_decides`: finishing decides whether all that was taken off the stack fits.
* `fits_of_finished`: a run that finished took nothing off the stack that does not fit.
-/

namespace Tacit

/-- The check reports a mismatch of types. -/
def Check.Mismatches {α : Type} (x : Check α) : Prop :=
  ∃ e fault, x = .error (.error e) ∧ e.cause = .mismatch fault

theorem Check.Decides.mismatches {α : Type} {x : Check α} {P : Prop} (h : x.Decides P)
    (hP : ¬ P) : x.Mismatches := by
  rcases h with ⟨hP', -⟩ | ⟨-, h⟩
  · exact absurd hP' hP
  · exact h

theorem Check.Decides.ok_iff {α : Type} {x : Check α} {P : Prop} (h : x.Decides P) :
    (∃ a, x = .ok a) ↔ P := by
  rcases h with ⟨hP, h⟩ | ⟨hP, e, fault, rfl, -⟩
  · exact iff_of_true h hP
  · exact iff_of_false (by simp) hP

theorem Check.Decides.mismatches_iff {α : Type} {x : Check α} {P : Prop} (h : x.Decides P) :
    x.Mismatches ↔ ¬ P := by
  refine ⟨?_, h.mismatches⟩
  rintro ⟨e, fault, herr, -⟩ hP
  obtain ⟨a, hok⟩ := h.ok_iff.mpr hP
  rw [hok] at herr
  cases herr

variable [Declarations]

/-- The call pushes or applies; it does not finish. -/
def Call.Builds : Call → Prop
  | finish _ _ | finishType _ _ => False
  | _ => True

namespace Compiler

variable {c : Compiler} {call : Call} {i : Instr} {temps : List Slot}

/-! ### The check at an application -/

/-- Everything that the instruction takes off the stack fits the parameter it goes to. -/
def Admits (c : Compiler) : Instr → Prop
  | .literal _ => True
  | .word w => ∀ p ∈ c.stack.zip w.params, Bindable p

theorem popped_cons (c : Compiler) (i : Instr) (is : List Instr) :
    (∀ p ∈ c.popped (i :: is), Bindable p) ↔
      c.Admits i ∧ ∀ p ∈ (c.add i).popped is, Bindable p := by
  cases i with
  | literal v => exact ⟨fun h => ⟨trivial, h⟩, And.right⟩
  | word w => exact List.forall_mem_append

theorem checkOperands_fresh (name : String) : ∀ (ts : List Ty) (i n : Nat),
    checkOperands name i ((numbered "i" n ts).map .param) ts = .ok ()
  | [], _, _ => rfl
  | t :: ts, i, n => by
      have hb : (Expr.param ⟨n, some t, "i" ++ Nat.repr n⟩).checkBind (some t) = .ok () :=
        if_pos t.assignable_self
      rw [numbered, List.map_cons, checkOperands, hb]
      exact checkOperands_fresh name ts (i + 1) (n + 1)

/-- The check of a word's operands decides whether what the word takes off the stack fits. -/
theorem checkOperands_decides (name : String) : ∀ (ts : List Ty) (stack : List Expr) (i n : Nat),
    (∀ e ∈ stack, OnStack temps e ∧ ∃ s, e.type = .ok (some s)) →
    (checkOperands name i (List.zipWith coerce stack ts ++
      (numbered "i" n (ts.drop stack.length)).map .param) ts).Decides
        (∀ p ∈ stack.zip ts, Bindable p)
  | ts, [], i, n, _ => Check.decides_of_ok (checkOperands_fresh name ts i n) (by simp)
  | [], e :: stack, i, n, _ =>
      Check.decides_of_ok (a := ()) (by simp [numbered, checkOperands]) (by simp)
  | t :: ts, e :: stack, i, n, hstack => by
      obtain ⟨he, s, hs⟩ := hstack e List.mem_cons_self
      have htail := checkOperands_decides name ts stack (i + 1) n fun e' he' =>
        hstack e' (List.mem_cons_of_mem _ he')
      rw [List.zipWith_cons_cons, List.cons_append, checkOperands, List.zip_cons_cons]
      refine (((he.checkBind_decides hs t).inside _).bind fun _ _ => htail).congr ?_
      exact List.forall_mem_cons.symm

theorem applyWord_plain (hopen : c.finished = false) (hmode : c.settings.eager = false) (w : Word) :
    (c.applyWord (some w)).result = .ok () := by
  simp [applyWord, hopen, hmode]

theorem Formed.applyWord_decides (h : c.Formed) (hopen : c.finished = false)
    (hmode : c.settings.eager = true) (w : Word) :
    Check.Decides (c.applyWord (some w)).result (c.Admits (.word w)) := by
  have hcheck := checkOperands_decides w.name w.params c.stack 0 c.inputs.length fun e he =>
    ⟨h.stack e he, h.type_stack he⟩
  simp only [applyWord, hopen, hmode, takeOperands_eq, Bool.false_eq_true, if_false, if_true]
  rcases hcheck with ⟨hfit, a, hok⟩ | ⟨hfit, e, fault, herr, he⟩
  · rw [hok]
    exact Check.decides_of_ok rfl hfit
  · rw [herr]
    exact .inr ⟨hfit, e, fault, rfl, he⟩

/-! ### One call -/

/-- A call that stands for a word applies it. -/
theorem perform_word {w : Word} (h : call.instr? = some (.word w)) (c : Compiler) :
    c.perform call = (c.applyWord (some w)).map fun _ => none := by
  cases call with
  | push value t =>
      obtain ⟨v, -, hv⟩ := Option.map_eq_some_iff.mp h
      cases hv
  | apply host fn =>
      obtain ⟨w', hw, hw'⟩ := Option.map_eq_some_iff.mp h
      cases hw'
      cases hn : Word.named host [] fn with
      | error fault => rw [hn] at hw; cases hw
      | ok w' =>
          rw [hn] at hw
          cases hw
          rw [perform, apply, hn]
  | applyWord w' =>
      obtain ⟨w', rfl, hw'⟩ := Option.map_eq_some_iff.mp h
      cases hw'
      rfl
  | finish | finishType => cases h

/-- A call that stands for a literal pushes it. -/
theorem perform_literal {v : Value} (h : call.instr? = some (.literal v))
    (hopen : c.finished = false) :
    (c.perform call).result = .ok none ∧ (c.perform call).compiler = c.add (.literal v) := by
  cases call with
  | push value t =>
      obtain ⟨v', hv, hv'⟩ := Option.map_eq_some_iff.mp h
      cases hv'
      cases hl : literal value t with
      | error fault => rw [hl] at hv; cases hv
      | ok v' =>
          rw [hl] at hv
          cases hv
          simp only [perform, push, hl]
          rw [if_neg (by simp [hopen])]
          exact ⟨rfl, rfl⟩
  | apply host fn =>
      obtain ⟨w, -, hw⟩ := Option.map_eq_some_iff.mp h
      cases hw
  | applyWord w =>
      obtain ⟨w, -, hw⟩ := Option.map_eq_some_iff.mp h
      cases hw
  | finish | finishType => cases h

/-- **A call that stands for an instruction** adds it, unless the compiler is eager and does not
admit it. -/
theorem Formed.perform_instr (h : c.Formed) (hopen : c.finished = false)
    (hi : call.instr? = some i) :
    ((c.settings.eager = true → c.Admits i) ∧ (c.perform call).result = .ok none ∧
      (c.perform call).compiler = c.add i) ∨
    (c.settings.eager = true ∧ ¬ c.Admits i ∧ Check.Mismatches (c.perform call).result) := by
  cases i with
  | literal v =>
      obtain ⟨hr, hc⟩ := perform_literal hi hopen
      exact .inl ⟨fun _ => trivial, hr, hc⟩
  | word w =>
      rw [perform_word hi]
      have hadd : (c.applyWord (some w)).result = .ok () →
          (c.applyWord (some w)).compiler = c.add (.word w) := by
        intro hok
        rcases applyWord_cases c (some w) with ⟨⟨f, hf⟩, -⟩ | ⟨-, w', hw', -, hc⟩
        · rw [hok] at hf
          cases hf
        · cases hw'
          exact hc
      cases hmode : c.settings.eager with
      | false =>
          have hok := applyWord_plain hopen hmode w
          exact .inl ⟨by simp, by rw [Reply.map, hok]; rfl, hadd hok⟩
      | true =>
          rcases h.applyWord_decides hopen hmode w with ⟨hfit, a, hok⟩ | ⟨hfit, e, fault, herr, he⟩
          · exact .inl ⟨fun _ => hfit, by rw [Reply.map, hok]; rfl, hadd hok⟩
          · exact .inr ⟨rfl, hfit, e, fault, by rw [Reply.map, herr]; rfl, he⟩

/-- A call that builds and stands for no instruction is refused, whatever the compiler, and not for
a mismatch of types. -/
theorem perform_no_instr (hcall : call.Builds) (hi : call.instr? = none) :
    ∃ e : Error, (∀ fault, e.cause ≠ .mismatch fault) ∧
      ∀ c : Compiler, c.finished = false → c.perform call = c.refuse e := by
  cases call with
  | push value t =>
      cases hl : literal value t with
      | error fault =>
          refine ⟨.literal fault, by simp [Error.cause], fun c hopen => ?_⟩
          simp only [perform, push, hopen, hl, Bool.false_eq_true, if_false]
          rfl
      | ok v => simp [Call.instr?, hl, Except.toOption] at hi
  | apply host fn =>
      cases hn : Word.named host [] fn with
      | error fault =>
          refine ⟨.within .apply (.operator fault), by simp [Error.cause], fun c hopen => ?_⟩
          simp only [perform, apply, hn]
          rfl
      | ok w => simp [Call.instr?, hn, Except.toOption] at hi
  | applyWord w =>
      cases w with
      | none =>
          refine ⟨.within .apply (.operator (.nil none)), by simp [Error.cause], fun c hopen => ?_⟩
          simp only [perform, applyWord, Option.map_none, hopen, Bool.false_eq_true, if_false]
          rfl
      | some w => cases hi
  | finish | finishType => exact hcall.elim

/-! ### Runs of calls -/

theorem finished_addAll : ∀ (is : List Instr) (c : Compiler), (c.addAll is).finished = c.finished
  | [], _ => rfl
  | .literal v :: is, c => finished_addAll is (c.add (.literal v))
  | .word w :: is, c => (finished_addAll is (c.add (.word w))).trans (by rw [add_word])

theorem finished_of_performAll {calls : List Call} (h : (c.performAll calls).finished = false) :
    c.finished = false := by
  cases hc : c.finished with
  | false => rfl
  | true => rw [performAll_finished hc, hc] at h; cases h

/-- A run after which the program is not finished leaves what its instructions add up to. -/
theorem performAll_eq_addAll {calls : List Call} (h : (c.performAll calls).finished = false) :
    c.performAll calls = c.addAll (c.carriedOut calls) := by
  obtain ⟨b, hb⟩ := performAll_eq calls c
  have hadd := (finished_addAll (c.carriedOut calls) c).trans (finished_of_performAll h)
  have hb' : b = false := by
    rw [hb] at h
    exact h
  rw [hb, hb', ← hadd]

/-- **The first call of a run** that does not finish the program changes nothing, or adds its
instruction. -/
theorem Formed.performAll_cases (h : c.Formed) {calls : List Call}
    (hopen : (c.performAll (call :: calls)).finished = false) :
    ((∀ i, call.instr? = some i → c.settings.eager = true ∧ ¬ c.Admits i) ∧
      c.carriedOut (call :: calls) = c.carriedOut calls ∧
      c.performAll (call :: calls) = c.performAll calls) ∨
    ∃ i, call.instr? = some i ∧ (c.settings.eager = true → c.Admits i) ∧
      c.carriedOut (call :: calls) = i :: (c.add i).carriedOut calls ∧
      c.performAll (call :: calls) = (c.add i).performAll calls := by
  rw [carriedOut, performAll]
  rcases perform_cases c call with ⟨⟨f, hf⟩, hc⟩ | ⟨hfin, i, hi, hr, hc⟩ | ⟨-, -, fn, -, hc⟩
  · refine .inl ⟨fun i hi => ?_, by rw [hc, hf]; rfl, by rw [hc]⟩
    rcases h.perform_instr (finished_of_performAll hopen) hi with ⟨-, hr, -⟩ | ⟨hmode, hfit, -⟩
    · rw [hf] at hr
      cases hr
    · exact ⟨hmode, hfit⟩
  · refine .inr ⟨i, hi, fun hmode => ?_, by rw [hc, hr, hi]; rfl, by rw [hc]⟩
    rcases h.perform_instr hfin hi with ⟨hfit, -⟩ | ⟨-, -, e, fault, herr, -⟩
    · exact hfit hmode
    · rw [hr] at herr
      cases herr
  · -- a program that is finished stays so
    rw [performAll, hc, performAll_finished rfl] at hopen
    cases hopen

theorem carriedOut_append : ∀ (before after : List Call) (c : Compiler),
    c.carriedOut (before ++ after) = c.carriedOut before ++ (c.performAll before).carriedOut after
  | [], _, _ => rfl
  | call :: before, after, c => by
      rw [List.cons_append, carriedOut, carriedOut, carriedOut_append before after,
        List.append_assoc]
      rfl

theorem carriedOut_finished (hfin : c.finished = true) : ∀ calls : List Call,
    c.carriedOut calls = []
  | [] => rfl
  | call :: calls => by
      obtain ⟨f, hf⟩ := perform_finished hfin call
      rw [carriedOut, perform_error hf, hf]
      exact carriedOut_finished hfin calls

theorem popped_append : ∀ (is js : List Instr) (c : Compiler),
    c.popped (is ++ js) = c.popped is ++ (c.addAll is).popped js
  | [], _, _ => rfl
  | .literal v :: is, js, c => popped_append is js (c.add (.literal v))
  | .word w :: is, js, c => by
      rw [List.cons_append, popped, popped, popped_append is js, List.append_assoc]
      rfl

/-! ### Finishing -/

/-- The func type that takes the inputs of the program. -/
def signature (c : Compiler) : Ty := .func (c.inputs.filterMap (·.type)) [] false

theorem Formed.matches_signature (h : c.Formed) : c.assemble.Matches (some c.signature) := by
  obtain ⟨ts, hts⟩ := h.inputs
  have htypes : c.inputs.map (·.type) = ts.map some := by rw [hts, types_numbered]
  have hfilter : c.inputs.filterMap (·.type) = ts := by
    rw [← Function.id_comp (fun s : Slot => s.type), ← List.filterMap_map, htypes]
    simp
  exact ⟨ts, by rw [signature, hfilter]; rfl, htypes⟩

theorem formed_performAll (settings : Settings) (calls : List Call) :
    ((new settings).performAll calls).Formed := by
  obtain ⟨b, hb⟩ := performAll_eq calls (new settings)
  have h := (formed_new settings).addAll ((new settings).carriedOut calls)
  rw [hb]
  exact ⟨h.inputs, h.temps, h.stack⟩

theorem used_performAll (settings : Settings) (calls : List Call) :
    ((new settings).performAll calls).Used ((new settings).pushed calls) := by
  obtain ⟨b, hb⟩ := performAll_eq calls (new settings)
  have h := (used_new settings).addAll (formed_new settings) ((new settings).carriedOut calls)
  rw [hb]
  exact ⟨h.ops, h.places, h.assigned, h.order⟩

theorem isApplication_performAll (settings : Settings) (calls : List Call) :
    ∀ op ∈ ((new settings).performAll calls).ops, op.IsApplication :=
  (used_performAll settings calls).ops

variable {settings : Settings} {calls : List Call}

/-- Finishing under the signature of the program decides whether all that was taken off the stack
fits. -/
theorem finishType_decides (hreal : settings.realizer = routineRealizer)
    (hopen : ((new settings).performAll calls).finished = false) {sig : Option Ty}
    (hm : ((new settings).performAll calls).assemble.Matches sig) (st : Store) :
    Check.Decides (((new settings).performAll calls).finishType st sig).result
      ((new settings).Fits calls) := by
  rw [finishType_result hopen, settings_performAll,
    show (new settings).settings.realizer = routineRealizer from hreal]
  rw [performAll_eq_addAll hopen] at hm ⊢
  exact (realizer_decides (carriedOut_valid calls _) hm).inside .finish

/-- A program that the realizer accepts took nothing off the stack that does not fit. -/
theorem fits_of_realizer {sig : Option Ty} {fn : Callable}
    (h : routineRealizer ((new settings).performAll calls).assemble sig = .ok fn) :
    (new settings).Fits calls := by
  rw [assemble_performAll] at h
  by_cases hm : ((new settings).addAll ((new settings).carriedOut calls)).assemble.Matches sig
  · rcases realizer_decides (carriedOut_valid calls _) hm with ⟨hfit, -⟩ | ⟨-, e, fault, herr, -⟩
    · exact hfit
    · rw [h] at herr
      cases herr
  · obtain ⟨fault, hfail⟩ := realizer_signature hm
    rw [h] at hfail
    cases hfail

/-- A call that finishes was answered by the realizer, and adds nothing to the program. -/
theorem realizer_of_finishes {fn : Callable} (h : (c.perform call).result = .ok (some fn)) :
    call.instr? = none ∧ ∃ sig, c.settings.realizer c.assemble sig = .ok fn := by
  have hfinish : ∀ {s sig}, (c.finishType s sig).result = .ok fn →
      ∃ sig, c.settings.realizer c.assemble sig = .ok fn := by
    intro s sig hok
    rcases finishType_cases c s sig with ⟨⟨f, hf⟩, -⟩ | ⟨-, fn', hfn', hr, -⟩
    · rw [hok] at hf
      cases hf
    · rw [hok] at hfn'
      cases hfn'
      exact ⟨sig, hr⟩
  have hmap : ∀ {r : Reply Callable}, (r.map some).result = .ok (some fn) → r.result = .ok fn := by
    intro r hr
    cases hres : r.result with
    | error f => rw [Reply.map, hres] at hr; cases hr
    | ok fn' => rw [Reply.map, hres] at hr; cases hr; rfl
  have hnone : ∀ {r : Reply Unit}, (r.map fun _ => none).result ≠ .ok (some fn) := by
    intro r hr
    cases hres : r.result with
    | error f => rw [Reply.map, hres] at hr; cases hr
    | ok u => rw [Reply.map, hres] at hr; cases hr
  cases call with
  | push | apply | applyWord => exact absurd h hnone
  | finishType s sig => exact ⟨rfl, hfinish (hmap h)⟩
  | finish s target =>
      have h' := hmap h
      simp only [finish] at h'
      split at h'
      · cases h'
      split at h'
      · cases h'
      · exact ⟨rfl, hfinish h'⟩

/-- **A run that finished** took nothing off the stack that does not fit. -/
theorem fits_of_finished (hreal : settings.realizer = routineRealizer) :
    ((new settings).performAll calls).finished = true → (new settings).Fits calls := by
  induction calls using List.reverseRecOn with
  | nil =>
      intro hfin
      cases hfin
  | append_singleton before call ih =>
      intro hfin
      rw [Fits, carriedOut_append]
      cases hopen : ((new settings).performAll before).finished with
      | true =>
          -- after the end nothing is added
          rw [carriedOut_finished hopen, List.append_nil]
          exact ih hopen
      | false =>
          rw [performAll_append] at hfin
          rcases perform_cases ((new settings).performAll before) call with
            ⟨-, hc⟩ | ⟨-, i, -, -, hc⟩ | ⟨-, hi, fn, hr, -⟩
          · rw [performAll, hc, performAll, hopen] at hfin
            cases hfin
          · rw [performAll, hc, performAll] at hfin
            rw [← finished_addAll [i], addAll, List.foldl] at hopen
            cases hfin.symm.trans hopen
          · obtain ⟨-, sig, hsig⟩ := realizer_of_finishes hr
            rw [settings_performAll, show (new settings).settings.realizer = routineRealizer
              from hreal] at hsig
            have hnone : ((new settings).performAll before).carriedOut [call] = [] := by
              simp [carriedOut, hi]
            rw [hnone, List.append_nil]
            exact fits_of_realizer hsig

end Compiler

end Tacit
