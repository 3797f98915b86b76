import Tacit.Compiler.Basic
import Tacit.Proofs.Effects
import Tacit.Proofs.Word.Identifiers

/-!
# Runs of calls on a compiler

A compiler is used through a sequence of calls, each of which may succeed or be refused.

* `Call`, `Compiler.perform`, `Compiler.performAll`: the calls, what one does, what a run leaves.
* `Instr`, `Compiler.add`: what a call that succeeds adds to the program.
* `restore_taken`: what an eager compiler undoes when the operands it has taken do not pass.
* `perform_cases`: a call is refused and changes nothing, or adds its instruction, or finishes.
* `performAll_eq`: after any run the program is the one its instructions add up to.
* `takeOperands_eq`, `add_word`: how a word takes its operands, without the recursion. The values on
  the stack go to the first parameters, and a new input to each parameter that is left.
-/

namespace Tacit

/-! ### The slots and the stack of a compiler -/

namespace Compiler

/-- Slots for types, numbered from `n` on and named for their numbers. -/
def numbered (letter : String) : Nat → List Ty → List Slot
  | _, [] => []
  | n, t :: ts => ⟨n, some t, letter ++ Nat.repr n⟩ :: numbered letter (n + 1) ts

theorem length_numbered (letter : String) : ∀ (n : Nat) (ts : List Ty),
    (numbered letter n ts).length = ts.length
  | _, [] => rfl
  | n, _ :: ts => by rw [numbered, List.length_cons, length_numbered letter (n + 1) ts]; rfl

theorem types_numbered (letter : String) : ∀ (n : Nat) (ts : List Ty),
    (numbered letter n ts).map (·.type) = ts.map some
  | _, [] => rfl
  | n, _ :: ts => by rw [numbered, List.map_cons, types_numbered letter (n + 1) ts]; rfl

theorem numbered_append (letter : String) : ∀ (n : Nat) (ts us : List Ty),
    numbered letter n (ts ++ us) = numbered letter n ts ++ numbered letter (n + ts.length) us
  | _, [], _ => rfl
  | n, t :: ts, us => by
      rw [List.cons_append, numbered, numbered, numbered_append letter (n + 1) ts us,
        List.length_cons, Nat.add_right_comm]
      rfl

theorem getElem?_numbered (letter : String) : ∀ (n : Nat) (ts : List Ty) (k : Nat),
    (numbered letter n ts)[k]? =
      ts[k]?.map fun t => ⟨n + k, some t, letter ++ Nat.repr (n + k)⟩
  | _, [], _ => rfl
  | n, t :: ts, 0 => rfl
  | n, t :: ts, k + 1 => by
      rw [numbered, List.getElem?_cons_succ, List.getElem?_cons_succ,
        getElem?_numbered letter (n + 1) ts k, Nat.add_right_comm, Nat.add_assoc]

theorem numbered_extend {letter : String} {slots : List Slot} (us : List Ty)
    (h : ∃ ts, slots = numbered letter 0 ts) :
    ∃ ts, slots ++ numbered letter slots.length us = numbered letter 0 ts := by
  obtain ⟨ts, rfl⟩ := h
  exact ⟨ts ++ us, by rw [numbered_append, length_numbered, Nat.zero_add]⟩

/-- What the stack of a compiler is made of. -/
def OnStack (temps : List Slot) (e : Expr) : Prop :=
  (∃ v, e = .const (some v)) ∨ ∃ s ∈ temps, e = .temp s

/-- The slots of a compiler are numbered, and its stack holds literals and temporaries. -/
structure Formed (c : Compiler) : Prop where
  inputs : ∃ ts, c.inputs = numbered "i" 0 ts
  temps : ∃ ts, c.temps = numbered "o" 0 ts
  stack : ∀ e ∈ c.stack, OnStack c.temps e

theorem OnStack.mono {temps new : List Slot} {e : Expr} (h : OnStack temps e) :
    OnStack (temps ++ new) e := by
  rcases h with ⟨v, rfl⟩ | ⟨s, hs, rfl⟩
  · exact .inl ⟨v, rfl⟩
  · exact .inr ⟨s, List.mem_append_left _ hs, rfl⟩

theorem formed_new (settings : Settings) : (new settings).Formed :=
  ⟨⟨[], rfl⟩, ⟨[], rfl⟩, by simp [new]⟩

end Compiler

variable [Declarations]

/-! ### Words -/

/-- The word came out of a validation. -/
def Word.Valid (w : Word) : Prop := ∃ host name fn, Word.named host name fn = .ok w

theorem Word.named_ok {host : Host} {name : Bytes} {fn : Option Value} {w : Word}
    (h : Word.named host name fn = .ok w) :
    w.fn.type.func? = some (w.params, w.result.toList, false) ∧
      ∃ code captured, w.fn.data = .func code captured := by
  obtain ⟨results, code, captured, -, hfunc, hdata, hlen, hresult, -⟩ := Word.named_cases h
  have hresults : results = results.head?.toList := by
    rcases results with _ | ⟨r, _ | ⟨r', rs⟩⟩
    · rfl
    · rfl
    · simp at hlen
  rw [hresults, ← hresult] at hfunc
  exact ⟨hfunc, code, captured, hdata⟩

/-- A word passes the validation if it is such a func and its name is let pass. -/
theorem Word.Valid.intro {w : Word} {code : Nat} {captured : List Data}
    (hfunc : w.fn.type.func? = some (w.params, w.result.toList, false))
    (hdata : w.fn.data = .func code captured)
    (hname : Text.isIdentifier (.ofString w.name) = true) : w.Valid := by
  have hne : (Bytes.ofString w.name).isEmpty = false := by
    cases hbytes : Bytes.ofString w.name with
    | nil =>
        rw [hbytes, Text.isIdentifier, Bytes.runes] at hname
        cases hname
    | cons b bs => rfl
  have hlen : ¬ 1 < w.result.toList.length := by cases w.result <;> simp
  have hresult : w.result.toList.head? = w.result := by cases w.result <;> rfl
  refine ⟨⟨fun _ _ _ => pure [], fun _ => none⟩, .ofString w.name, some w.fn, ?_⟩
  simp [Word.named, hfunc, hdata, hlen, hne, hname, hresult]

/-- A valid word is a func that is not nil and not variadic, with the word's signature. -/
theorem Word.Valid.func {w : Word} (h : w.Valid) :
    w.fn.type.func? = some (w.params, w.result.toList, false) ∧
      ∃ code captured, w.fn.data = .func code captured := by
  obtain ⟨host, name, fn, h⟩ := h
  exact Word.named_ok h

/-! ### Calls -/

/-- The calls on a compiler. Each has with it what it finds around it: the symbols of funcs, or the
store that is shown when a program is logged. -/
inductive Call where
  | push (value : Option Value) (type : Option Ty)
  | apply (host : Host) (fn : Option Value)
  | applyWord (word : Option { w : Word // w.Valid })
  | finish (store : Store) (target : Option Value)
  | finishType (store : Store) (sig : Option Ty)

/-- The reply with another result. -/
def Reply.map {α β : Type} (f : α → β) (r : Reply α) : Reply β :=
  ⟨r.compiler, r.log, f <$> r.result⟩

/-- What a call adds to a program. -/
inductive Instr where
  | literal (v : Value)
  | word (w : Word)

/-- What the call adds to the program if it succeeds. -/
def Call.instr? : Call → Option Instr
  | push value t => (Compiler.literal value t).toOption.map .literal
  | apply host fn => (Word.named host [] fn).toOption.map .word
  | applyWord w => w.map (.word ·.1)
  | finish _ _ | finishType _ _ => none

/-- The word, if it is one, came out of a validation. -/
def Instr.Valid : Instr → Prop
  | literal _ => True
  | word w => w.Valid

theorem Call.instr?_valid {call : Call} {i : Instr} (h : call.instr? = some i) : i.Valid := by
  cases call with
  | push value t =>
      obtain ⟨v, -, rfl⟩ := Option.map_eq_some_iff.mp h
      trivial
  | apply host fn =>
      obtain ⟨w, hw, rfl⟩ := Option.map_eq_some_iff.mp h
      refine ⟨host, [], fn, ?_⟩
      cases hn : Word.named host [] fn with
      | error e => rw [hn] at hw; cases hw
      | ok w' => rw [hn] at hw; cases hw; rfl
  | applyWord w =>
      obtain ⟨⟨w, hw⟩, -, rfl⟩ := Option.map_eq_some_iff.mp h
      exact hw
  | finish | finishType => cases h

namespace Compiler

/-- Carries a call out. Only finishing has a result. -/
def perform (c : Compiler) : Call → Reply (Option Callable)
  | .push value t => (c.push value t).map fun _ => none
  | .apply host fn => (c.apply host fn).map fun _ => none
  | .applyWord w => (c.applyWord (w.map (·.1))).map fun _ => none
  | .finish s target => (c.finish s target).map some
  | .finishType s sig => (c.finishType s sig).map some

/-- The compiler with an instruction added. -/
def add (c : Compiler) : Instr → Compiler
  | .literal v => { c with stack := .const (some v) :: c.stack }
  | .word w =>
    let o := takeOperands w.params c.stack c.inputs
    (c.taken o).extend w o.operands

/-- The compiler after calls. -/
def performAll (c : Compiler) : List Call → Compiler
  | [] => c
  | call :: calls => (c.perform call).compiler.performAll calls

/-- The instructions of those calls that succeed. -/
def carriedOut (c : Compiler) : List Call → List Instr
  | [] => []
  | call :: calls => (if (c.perform call).result.isOk then call.instr?.toList else []) ++
      (c.perform call).compiler.carriedOut calls

/-- The compiler with instructions added. -/
def addAll (c : Compiler) (is : List Instr) : Compiler := is.foldl add c

/-! ### What one call does -/

/-- Taking operands declares inputs after those there are, one for each that the stack lacks. -/
theorem takeOperands_declares (ts : List Ty) (stack : List Expr) (inputs : List Slot) :
    inputs <+: (takeOperands ts stack inputs).inputs := by
  induction ts generalizing stack inputs with
  | nil => exact List.prefix_rfl
  | cons t ts ih =>
      cases stack with
      | nil => exact (List.prefix_append inputs [newInput inputs t]).trans (ih [] _)
      | cons e stack => exact ih stack inputs

/-- **Taking operands can be undone**: the saved stack and the number of inputs that were declared
before are all it takes. -/
theorem restore_taken (c : Compiler) (ts : List Ty) :
    (c.taken (takeOperands ts c.stack c.inputs)).restore c.stack c.inputs.length = c := by
  have hinputs : (takeOperands ts c.stack c.inputs).inputs.take c.inputs.length = c.inputs :=
    List.prefix_iff_eq_take.mp (takeOperands_declares ts c.stack c.inputs) |>.symm
  rw [taken, restore, hinputs]

theorem applyWord_cases (c : Compiler) (w : Option Word) :
    ((∃ f, (c.applyWord w).result = .error f) ∧ (c.applyWord w).compiler = c) ∨
    (c.finished = false ∧ ∃ w', w = some w' ∧ (c.applyWord w).result = .ok () ∧
      (c.applyWord w).compiler = c.add (.word w')) := by
  unfold applyWord
  split
  · exact .inl ⟨⟨_, rfl⟩, rfl⟩
  rename_i hfin
  split
  · exact .inl ⟨⟨_, rfl⟩, rfl⟩
  · rename_i w
    simp only
    split
    · rename_i f hcheck
      refine .inl ⟨⟨f, rfl⟩, ?_⟩
      -- only an eager compiler checks here, and it has saved the stack
      have hmode : c.settings.eager = true := by
        by_contra hmode
        rw [if_neg hmode] at hcheck
        cases hcheck
      rw [if_pos hmode]
      exact restore_taken c w.params
    · exact .inr ⟨by simpa using hfin, w, rfl, rfl, rfl⟩

theorem finishType_cases (c : Compiler) (s : Store) (sig : Option Ty) :
    ((∃ f, (c.finishType s sig).result = .error f) ∧ (c.finishType s sig).compiler = c) ∨
    (c.finished = false ∧ ∃ fn, (c.finishType s sig).result = .ok fn ∧
      c.settings.realizer c.assemble sig = .ok fn ∧
      (c.finishType s sig).compiler = { c with finished := true }) := by
  unfold finishType
  split
  · exact .inl ⟨⟨_, rfl⟩, rfl⟩
  rename_i hfin
  simp only
  split
  · exact .inl ⟨⟨_, rfl⟩, rfl⟩
  · rename_i fn hfn
    exact .inr ⟨by simpa using hfin, fn, rfl, Check.inside_eq_ok.mp hfn, rfl⟩

/-- **What one call does**: it is refused and leaves the compiler as it was, or it adds its
instruction, or it finishes the program. The last two happen only before the program is finished. -/
theorem perform_cases (c : Compiler) (call : Call) :
    ((∃ f, (c.perform call).result = .error f) ∧ (c.perform call).compiler = c) ∨
    (c.finished = false ∧ ∃ i, call.instr? = some i ∧ (c.perform call).result = .ok none ∧
      (c.perform call).compiler = c.add i) ∨
    (c.finished = false ∧ call.instr? = none ∧ ∃ fn, (c.perform call).result = .ok (some fn) ∧
      (c.perform call).compiler = { c with finished := true }) := by
  cases call with
  | push value t =>
      simp only [perform, push, Call.instr?, Reply.map]
      split
      · exact .inl ⟨⟨_, rfl⟩, rfl⟩
      rename_i hfin
      split
      · exact .inl ⟨⟨_, rfl⟩, rfl⟩
      · rename_i v hv
        rw [hv]
        exact .inr (.inl ⟨by simpa using hfin, .literal v, rfl, rfl, rfl⟩)
  | apply host fn =>
      simp only [perform, apply, Call.instr?, Reply.map]
      split
      · exact .inl ⟨⟨_, rfl⟩, rfl⟩
      · rename_i w hw
        rw [hw]
        rcases applyWord_cases c (some w) with ⟨⟨f, hf⟩, hc⟩ | ⟨hfin, w', hw', hr, hc⟩
        · exact .inl ⟨⟨f, by rw [hf]; rfl⟩, hc⟩
        · cases hw'
          exact .inr (.inl ⟨hfin, .word w, rfl, by rw [hr]; rfl, hc⟩)
  | applyWord w =>
      simp only [perform, Call.instr?, Reply.map]
      rcases applyWord_cases c (w.map (·.1)) with ⟨⟨f, hf⟩, hc⟩ | ⟨hfin, w', hw', hr, hc⟩
      · exact .inl ⟨⟨f, by rw [hf]; rfl⟩, hc⟩
      · obtain ⟨v, rfl, rfl⟩ := Option.map_eq_some_iff.mp hw'
        exact .inr (.inl ⟨hfin, .word v.1, rfl, by rw [hr]; rfl, hc⟩)
  | finishType s sig =>
      simp only [perform, Call.instr?, Reply.map]
      rcases finishType_cases c s sig with ⟨⟨f, hf⟩, hc⟩ | ⟨hfin, fn, hr, -, hc⟩
      · exact .inl ⟨⟨f, by rw [hf]; rfl⟩, hc⟩
      · exact .inr (.inr ⟨hfin, trivial, fn, by rw [hr]; rfl, hc⟩)
  | finish s target =>
      simp only [perform, finish, Call.instr?, Reply.map]
      split
      · exact .inl ⟨⟨_, rfl⟩, rfl⟩
      split
      · exact .inl ⟨⟨_, rfl⟩, rfl⟩
      · rename_i t _
        rcases finishType_cases c s (some t) with ⟨⟨f, hf⟩, hc⟩ | ⟨hfin, fn, hr, -, hc⟩
        · exact .inl ⟨⟨f, by rw [hf]; rfl⟩, hc⟩
        · exact .inr (.inr ⟨hfin, trivial, fn, by rw [hr]; rfl, hc⟩)

/-! ### What a run of calls does -/

theorem add_finished (c : Compiler) (b : Bool) (i : Instr) :
    ({ c with finished := b } : Compiler).add i = { c.add i with finished := b } := by
  cases i with
  | literal v => rfl
  | word w =>
      simp only [add, extend]
      cases w.result <;> rfl

theorem addAll_finished (b : Bool) : ∀ (is : List Instr) (c : Compiler),
    ({ c with finished := b } : Compiler).addAll is = { c.addAll is with finished := b }
  | [], _ => rfl
  | i :: is, c => by
      show addAll (({ c with finished := b } : Compiler).add i) is = _
      rw [add_finished, addAll_finished b is]
      rfl

/-- **A run of calls** leaves the program that its instructions add up to. -/
theorem performAll_eq : ∀ (calls : List Call) (c : Compiler),
    ∃ b, c.performAll calls = { c.addAll (c.carriedOut calls) with finished := b }
  | [], c => ⟨c.finished, rfl⟩
  | call :: calls, c => by
      obtain ⟨b, hb⟩ := performAll_eq calls (c.perform call).compiler
      refine ⟨b, ?_⟩
      rw [performAll, hb, carriedOut]
      -- a call that is refused adds nothing, and finishing leaves the program as it is
      rcases perform_cases c call with ⟨⟨f, hf⟩, hc⟩ | ⟨-, i, hi, hr, hc⟩ | ⟨-, hi, fn, hr, hc⟩
      · rw [hc, hf]
        rfl
      · rw [hc, hr, hi]
        rfl
      · rw [hc, hr, hi, addAll_finished]
        rfl

theorem carriedOut_valid : ∀ (calls : List Call) (c : Compiler), ∀ i ∈ c.carriedOut calls, i.Valid
  | [], _ => by simp [carriedOut]
  | call :: calls, c => by
      intro i hi
      rw [carriedOut, List.mem_append] at hi
      rcases hi with hi | hi
      · split at hi
        · exact Call.instr?_valid (Option.mem_toList.mp hi)
        · simp at hi
      · exact carriedOut_valid calls _ i hi

/-- Every one of the calls succeeds. -/
def Succeed (c : Compiler) : List Call → Prop
  | [] => True
  | call :: calls => (c.perform call).result.isOk = true ∧ (c.perform call).compiler.Succeed calls

theorem carriedOut_of_succeed : ∀ {calls : List Call} {c : Compiler}, c.Succeed calls →
    c.carriedOut calls = calls.filterMap Call.instr?
  | [], _, _ => rfl
  | call :: calls, c, h => by
      rw [carriedOut, if_pos h.1, carriedOut_of_succeed h.2]
      cases hi : call.instr? <;> simp [hi]

/-! ### The operands of a word -/

/-- The inputs that a word brings in: one for each parameter that finds the stack empty. -/
def fresh (c : Compiler) (w : Word) : List Slot :=
  numbered "i" c.inputs.length (w.params.drop c.stack.length)

/-- The operands of a word: values of the stack, converted where needed, and then new inputs. -/
def operands (c : Compiler) (w : Word) : List Expr :=
  List.zipWith coerce c.stack w.params ++ (c.fresh w).map .param

/-- The temporary for the result of a word, if it has one. -/
def newTemp (c : Compiler) (w : Word) : List Slot := numbered "o" c.temps.length w.result.toList

/-- The operation that a word becomes. -/
def operation (c : Compiler) (w : Word) : Expr :=
  let call := Expr.invoke w.name (.const (some w.fn)) (c.operands w)
  (c.newTemp w).head?.elim call (.assign · call)

theorem coerce_of_type {e : Expr} {s : Ty} (h : e.type = .ok (some s)) (t : Ty) :
    coerce e t = if s.needsConversion t = true then .convert e (some t) else e := by
  rw [coerce, h]

theorem takeOperands_eq (ts : List Ty) (stack : List Expr) (inputs : List Slot) :
    takeOperands ts stack inputs =
      let new := numbered "i" inputs.length (ts.drop stack.length)
      ⟨List.zipWith coerce stack ts ++ new.map .param, stack.drop ts.length, inputs ++ new⟩ := by
  induction ts generalizing stack inputs with
  | nil => simp [takeOperands, numbered]
  | cons t ts ih =>
      cases stack with
      | nil =>
          simp only [takeOperands, ih]
          simp [numbered, newInput]
      | cons e stack => simp [takeOperands, ih]

/-- **What a word does to the program.** -/
theorem add_word (c : Compiler) (w : Word) : c.add (.word w) =
    { c with
      inputs := c.inputs ++ c.fresh w
      temps := c.temps ++ c.newTemp w
      ops := c.ops ++ [c.operation w]
      stack := (c.newTemp w).map .temp ++ c.stack.drop w.params.length } := by
  simp only [add, taken, extend, takeOperands_eq, fresh, operation, operands, newTemp]
  cases w.result <;> simp [numbered]

theorem operation_cases (c : Compiler) (w : Word) :
    (w.result = none ∧ c.newTemp w = [] ∧
      c.operation w = .invoke w.name (.const (some w.fn)) (c.operands w)) ∨
    ∃ s t, w.result = some t ∧ s.type = some t ∧ c.newTemp w = [s] ∧
      c.operation w = .assign s (.invoke w.name (.const (some w.fn)) (c.operands w)) := by
  unfold operation newTemp
  cases w.result with
  | none => exact .inl ⟨rfl, rfl, rfl⟩
  | some t => exact .inr ⟨_, t, rfl, rfl, rfl, rfl⟩

@[simp] theorem inputs_add_word (c : Compiler) (w : Word) :
    (c.add (.word w)).inputs = c.inputs ++ c.fresh w := by rw [add_word]

@[simp] theorem temps_add_word (c : Compiler) (w : Word) :
    (c.add (.word w)).temps = c.temps ++ c.newTemp w := by rw [add_word]

@[simp] theorem ops_add_word (c : Compiler) (w : Word) :
    (c.add (.word w)).ops = c.ops ++ [c.operation w] := by rw [add_word]

@[simp] theorem stack_add_word (c : Compiler) (w : Word) : (c.add (.word w)).stack =
    (c.newTemp w).map .temp ++ c.stack.drop w.params.length := by rw [add_word]

@[simp] theorem settings_add_word (c : Compiler) (w : Word) :
    (c.add (.word w)).settings = c.settings := by rw [add_word]

/-! ### Every compiler is formed -/

theorem Formed.add {c : Compiler} (h : c.Formed) (i : Instr) : (c.add i).Formed := by
  cases i with
  | literal v =>
      refine ⟨h.inputs, h.temps, fun e he => ?_⟩
      rcases List.mem_cons.mp he with rfl | he
      · exact .inl ⟨v, rfl⟩
      · exact h.stack e he
  | word w =>
      rw [add_word]
      refine ⟨numbered_extend _ h.inputs, numbered_extend _ h.temps, fun e he => ?_⟩
      rcases List.mem_append.mp he with he | he
      · obtain ⟨s, hs, rfl⟩ := List.mem_map.mp he
        exact .inr ⟨s, List.mem_append_right _ hs, rfl⟩
      · exact (h.stack e (List.mem_of_mem_drop he)).mono

theorem Formed.addAll {c : Compiler} (h : c.Formed) : ∀ is : List Instr, (c.addAll is).Formed := by
  intro is
  induction is generalizing c with
  | nil => exact h
  | cons i is ih => exact ih (h.add i)

/-! ### What instructions add -/

/-- The operations that instructions become, one for each word. -/
def operations (c : Compiler) : List Instr → List Expr
  | [] => []
  | .literal v :: is => (c.add (.literal v)).operations is
  | .word w :: is => c.operation w :: (c.add (.word w)).operations is

theorem ops_addAll : ∀ (is : List Instr) (c : Compiler),
    (c.addAll is).ops = c.ops ++ c.operations is
  | [], c => (List.append_nil c.ops).symm
  | .literal v :: is, c => ops_addAll is (c.add (.literal v))
  | .word w :: is, c => by
      refine (ops_addAll is (c.add (.word w))).trans ?_
      rw [ops_add_word, List.append_assoc]
      rfl

theorem mem_operations {op : Expr} {is : List Instr} {c : Compiler} (h : op ∈ c.operations is) :
    ∃ c' w, .word w ∈ is ∧ op = operation c' w := by
  induction is generalizing c with
  | nil => cases h
  | cons i is ih =>
      have hlater : ∀ {c'' : Compiler}, op ∈ c''.operations is →
          ∃ c' w, .word w ∈ i :: is ∧ op = operation c' w := by
        intro c'' hop
        obtain ⟨c', w, hw, rfl⟩ := ih hop
        exact ⟨c', w, List.mem_cons_of_mem _ hw, rfl⟩
      cases i with
      | literal v => exact hlater h
      | word w =>
          rcases List.mem_cons.mp h with rfl | hop
          · exact ⟨c, w, List.mem_cons_self, rfl⟩
          · exact hlater hop

/-- Instructions declare slots after those that are there. -/
theorem slots_addAll : ∀ (is : List Instr) (c : Compiler),
    c.inputs <+: (c.addAll is).inputs ∧ c.temps <+: (c.addAll is).temps
  | [], c => ⟨List.prefix_refl _, List.prefix_refl _⟩
  | .literal v :: is, c => slots_addAll is (c.add (.literal v))
  | .word w :: is, c => by
      obtain ⟨hi, ht⟩ := slots_addAll is (c.add (.word w))
      rw [inputs_add_word] at hi
      rw [temps_add_word] at ht
      exact ⟨(List.prefix_append _ _).trans hi, (List.prefix_append _ _).trans ht⟩

theorem settings_addAll : ∀ (is : List Instr) (c : Compiler), (c.addAll is).settings = c.settings
  | [], _ => rfl
  | .literal v :: is, c => settings_addAll is (c.add (.literal v))
  | .word w :: is, c => (settings_addAll is (c.add (.word w))).trans (settings_add_word c w)

theorem settings_performAll (calls : List Call) (c : Compiler) :
    (c.performAll calls).settings = c.settings := by
  obtain ⟨b, hb⟩ := performAll_eq calls c
  rw [hb]
  exact settings_addAll _ c

theorem assemble_performAll (calls : List Call) (c : Compiler) :
    (c.performAll calls).assemble = (c.addAll (c.carriedOut calls)).assemble := by
  obtain ⟨b, hb⟩ := performAll_eq calls c
  rw [hb]
  rfl

end Compiler

end Tacit
