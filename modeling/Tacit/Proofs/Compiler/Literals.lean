import Tacit.Catalogue
import Tacit.Proofs.Compiler.Coercion
import Tacit.Proofs.Compiler.Extension

/-!
# Literals

A literal is pushed under a declared type or under its own, and a word that comes next takes it.

* `Compiler.Pushable`: the value can be assigned to the type, or there is none and the type is one
  of references.
* `Compiler.Keeps`: the constant has the declared type and holds the value.
* `literal_cases`: the compiler makes a constant just if the value is pushable, and it keeps it.
* `performAll_literal_word`, `fits_literal_word`, `Machine.run_literal_word`: a literal and a word
  of its type can be added to any program, make no demands on it, and add the call of the word.
* `literals_kept`: what is pushed, what is refused, and what the word receives.
* `unsafe_nil_refused`: the one type of references that no nil can be pushed under.
-/

namespace Tacit

section

variable [Declarations]

/-- An operand of the parameter's type is handed over as it is. -/
theorem Machine.operand_self (x : Value) : Machine.operand x x.type = pure x := by
  rw [operand, Ty.needsConversion]
  simp

/-- At the end of a run, a literal and a word that takes its type and has no result are a call of
the word with the literal. -/
theorem Machine.run_literal_word {x : Value} {w : Word} (hparams : w.params = [x.type])
    (hresult : w.result = none) (host : Host) (is : List Instr) (args : List Value) :
    run host (is ++ [.literal x, .word w]) args =
      run host is args >>= fun _ => w.fn.call host [x] >>= fun _ => pure () := by
  simp only [run, execAll_append, bind_assoc, pure_bind]
  refine bind_congr fun m => ?_
  simp [execAll, exec, fill, hparams, hresult, operand_self]

namespace Compiler

variable {c : Compiler} {settings : Settings} {calls : List Call} {x : Value} {w : Word}

/-! ### The constant of a literal -/

/-- A value, or nil, that can be pushed under a declared type, or else its own. -/
inductive Pushable : Option Value → Option Ty → Prop where
  | own (v : Value) : Pushable (some v) none
  | assigned {v : Value} {t : Ty} (h : v.type.assignable t = true) : Pushable (some v) (some t)
  | nil {t : Ty} (href : t.isValue = false) (htyped : t.underlying ≠ .basic .unsafePointer) :
      Pushable none (some t)

/-- The constant `x` is the value under the declared type, or else its own. -/
structure Keeps (value : Option Value) (t : Option Ty) (x : Value) : Prop where
  type : (t <|> value.map (·.type)) = some x.type
  /-- A nil is the zero of its type. -/
  zero : value = none → x = .zero x.type
  /-- In an interface, the value keeps its own type. -/
  content : ∀ v, value = some v → x.type.isInterface = true → x.content = v.content
  data : ∀ v, value = some v → x.type.isInterface = false → x.data = v.data

theorem nillable_iff (t : Ty) :
    nillable t = true ↔ t.isValue = false ∧ t.underlying ≠ .basic .unsafePointer := by
  rw [nillable, Ty.isValue]
  cases t.underlying with
  | basic b => cases b <;> simp
  | _ => simp

theorem zero_of_nillable {t : Ty} (h : nillable t = true) : t.zero = .nil := by
  rw [← t.zero_underlying]
  rw [nillable] at h
  cases hu : t.underlying with
  | pointer | interface | map | slice | channel | func => rfl
  | _ => rw [hu] at h; cases h

/-- **The constant of a literal** is made just if the value is pushable, and keeps it. -/
theorem literal_cases (value : Option Value) (t : Option Ty) :
    (Pushable value t ∧ ∃ x, literal value t = .ok x ∧ Keeps value t x) ∨
      (¬ Pushable value t ∧ ∃ fault, literal value t = .error fault) := by
  cases value with
  | none =>
      cases t with
      | none =>
          refine .inr ⟨fun h => ?_, _, rfl⟩
          cases h
      | some t =>
          rw [literal]
          cases hn : nillable t with
          | true =>
              obtain ⟨href, htyped⟩ := (nillable_iff t).mp hn
              refine .inl ⟨.nil href htyped, _, if_pos rfl, rfl, fun _ => ?_, by simp, by simp⟩
              rw [Value.zero, zero_of_nillable hn]
          | false =>
              refine .inr ⟨fun h => ?_, _, if_neg (by simp)⟩
              cases h with
              | nil href htyped =>
                  rw [(nillable_iff t).mpr ⟨href, htyped⟩] at hn
                  cases hn
  | some v =>
      cases t with
      | none =>
          refine .inl ⟨.own v, v, rfl, rfl, by simp, ?_, ?_⟩
          · rintro _ ⟨⟩ -
            rfl
          · rintro _ ⟨⟩ -
            rfl
      | some t =>
          rw [literal]
          cases ha : v.type.assignable t with
          | true =>
              refine .inl ⟨.assigned ha, _, if_pos rfl, rfl, by simp, ?_, ?_⟩
              · rintro _ ⟨⟩ hbox
                rw [v.stored_eq_assigned ha]
                exact v.content_assigned hbox
              · rintro _ ⟨⟩ hbox
                rw [v.stored_eq_assigned ha]
                exact if_neg (by simp [show t.isInterface = false from hbox])
          | false =>
              refine .inr ⟨fun h => ?_, _, if_neg (by simp)⟩
              cases h with
              | assigned h => rw [h] at ha; cases ha

/-- Pushing answers with the constant of the literal. -/
theorem push_cases (hopen : c.finished = false) (value : Option Value) (t : Option Ty) :
    (Pushable value t ∧ (c.push value t).result = .ok () ∧ ∃ x, Keeps value t x ∧
      (Call.push value t).instr? = some (.literal x) ∧
      (c.push value t).compiler = c.add (.literal x)) ∨
    (¬ Pushable value t ∧ ∃ fault, c.push value t = c.refuse (.literal fault)) := by
  rw [push, if_neg (by simp [hopen])]
  rcases literal_cases value t with ⟨hp, x, hx, hkeeps⟩ | ⟨hp, fault, hfault⟩
  · rw [hx]
    exact .inl ⟨hp, rfl, x, hkeeps, by rw [Call.instr?, hx]; rfl, rfl⟩
  · rw [hfault]
    exact .inr ⟨hp, fault, rfl⟩

/-! ### A literal and a word of its type -/

section

variable {push call : Call} (hpush : push.instr? = some (.literal x))
  (hcall : call.instr? = some (.word w)) (hparams : w.params = [x.type])

/-- The word takes the literal as it is. -/
theorem admits_literal (c : Compiler) (hparams : w.params = [x.type]) :
    (c.add (.literal x)).Admits (.word w) := by
  have hfits : Bindable (.const (some x), x.type) := (bindable_iff rfl).mpr (.inl rfl)
  rw [Admits, hparams]
  simpa [add] using hfits

/-- The word can be applied, in either mode of checking. -/
theorem Formed.perform_literal_word (h : c.Formed) (hopen : c.finished = false)
    (hcall : call.instr? = some (.word w)) (hparams : w.params = [x.type]) :
    ((c.add (.literal x)).perform call).result = .ok none ∧
      ((c.add (.literal x)).perform call).compiler = (c.add (.literal x)).add (.word w) := by
  rcases (h.add (.literal x)).perform_instr hopen hcall with ⟨-, hok⟩ | ⟨-, hnot, -⟩
  · exact hok
  · exact absurd (admits_literal c hparams) hnot

theorem inputs_literal_word (c : Compiler) (hparams : w.params = [x.type]) :
    ((c.add (.literal x)).add (.word w)).inputs = c.inputs := by
  rw [inputs_add_word, fresh, hparams]
  simp [add, numbered]

variable (hopen : ((new settings).performAll calls).finished = false)

include hpush hcall hparams hopen

theorem performAll_literal_word : (new settings).performAll (calls ++ [push, call]) =
    (((new settings).performAll calls).add (.literal x)).add (.word w) := by
  obtain ⟨-, hadd⟩ := perform_literal hpush hopen
  obtain ⟨-, hword⟩ := (formed_performAll settings calls).perform_literal_word hopen hcall hparams
  rw [performAll_append, performAll, hadd, performAll, hword, performAll]

theorem carriedOut_literal_word : (new settings).carriedOut (calls ++ [push, call]) =
    (new settings).carriedOut calls ++ [.literal x, .word w] := by
  obtain ⟨hok, hadd⟩ := perform_literal hpush hopen
  obtain ⟨hok', -⟩ := (formed_performAll settings calls).perform_literal_word hopen hcall hparams
  have hsucceed : ((new settings).performAll calls).Succeed [push, call] :=
    ⟨by rw [hok]; rfl, by rw [hadd, hok']; rfl, trivial⟩
  rw [carriedOut_append, carriedOut_of_succeed hsucceed]
  simp [hpush, hcall]

/-- Nothing that was on the stack before is taken off it. -/
theorem fits_literal_word :
    (new settings).Fits (calls ++ [push, call]) ↔ (new settings).Fits calls := by
  rw [Fits, carriedOut_literal_word hpush hcall hparams hopen, popped_append,
    List.forall_mem_append, popped_cons, popped_cons]
  exact and_iff_left ⟨trivial, admits_literal _ hparams, by simp [popped]⟩

end

/-- A program can be finished just under a signature that matches it, and if all that was taken off
the stack fits. -/
theorem finishes_iff (hreal : settings.realizer = routineRealizer)
    (hopen : ((new settings).performAll calls).finished = false) (st : Store) (sig : Option Ty) :
    (∃ fn, (((new settings).performAll calls).finishType st sig).result = .ok fn) ↔
      ((new settings).performAll calls).assemble.Matches sig ∧ (new settings).Fits calls := by
  constructor
  · rintro ⟨fn, hfin⟩
    have hm := matches_of_finishType hreal rfl hfin
    exact ⟨hm, (finishType_decides hreal hopen hm st).ok_iff.mp ⟨fn, hfin⟩⟩
  · rintro ⟨hm, hfits⟩
    exact (finishType_decides hreal hopen hm st).ok_iff.mpr hfits

/-- **Literals keep their type and value.** Let any calls have led to a compiler that is not
finished. A value, or nil, can be pushed just if it is pushable under the declared type; otherwise
it is refused for the literal, and nothing changes. What is pushed is a constant of exactly the
declared type that keeps the value. A word that takes this type can be applied next, in either mode
of checking. The program can then be finished just if it could be before, and invoking it does what
it did before and then calls the word with the constant, from every store, so the word receives the
data of the constant whatever has become of variables that the value was read from. -/
theorem literals_kept {settings : Settings} (hreal : settings.realizer = routineRealizer)
    {calls : List Call} {c : Compiler} (hc : (new settings).performAll calls = c)
    (hopen : c.finished = false) (value : Option Value) (t : Option Ty) :
    ((c.push value t).result = .ok () ↔ Pushable value t) ∧
    (¬ Pushable value t → ∃ fault, c.push value t = c.refuse (.literal fault)) ∧
    (Pushable value t → ∃ x, Keeps value t x ∧
      (c.push value t).compiler = { c with stack := .const (some x) :: c.stack } ∧
      (Expr.const (some x)).type = .ok (t <|> value.map (·.type)) ∧
      ∀ (w : Word) (call : Call), call.instr? = some (.word w) → w.params = [x.type] →
        w.result = none →
        w.Receives [x] [x.data] ∧
        ((c.push value t).compiler.perform call).result = .ok none ∧
        ∀ c', ((c.push value t).compiler.perform call).compiler = c' →
          ∀ (st : Store) (sig : Option Ty),
          ((∃ fn', (c'.finishType st sig).result = .ok fn') ↔
            ∃ fn, (c.finishType st sig).result = .ok fn) ∧
          ∀ fn fn', (c.finishType st sig).result = .ok fn →
            (c'.finishType st sig).result = .ok fn' →
            ∀ (host : Host) (args : List Value), c.inputs.map (·.type) = args.map (some ·.type) →
            fn'.invoke host args =
              fn.invoke host args >>= fun _ => w.fn.call host [x] >>= fun _ => pure ()) := by
  have hformed : c.Formed := hc ▸ formed_performAll settings calls
  rcases push_cases hopen value t with ⟨hp, hr, x, hkeeps, hpush, hadd⟩ | ⟨hp, fault, hfault⟩
  · refine ⟨iff_of_true hr hp, fun hnot => absurd hp hnot, fun _ => ⟨x, hkeeps, hadd, ?_, ?_⟩⟩
    · rw [hkeeps.type]
      rfl
    intro w call hcall hparams hresult
    have hvalid : w.Valid := Call.instr?_valid hcall
    obtain ⟨hok, hword⟩ := hformed.perform_literal_word hopen hcall hparams
    rw [hadd]
    refine ⟨hvalid.receives_self hparams, hok, fun c' hc' st sig => ?_⟩
    -- the longer program is that of the calls, the literal and the word
    subst hc
    have hall := performAll_literal_word hpush hcall hparams hopen
    rw [← hword, hc'] at hall
    have hinputs : c'.inputs = ((new settings).performAll calls).inputs := by
      rw [← hc', hword, inputs_literal_word _ hparams]
    have hopen' : c'.finished = false := by
      rw [← hc', hword]
      exact (finished_addAll [.literal x, .word w] _).trans hopen
    have hmatches : c'.assemble.Matches sig ↔
        ((new settings).performAll calls).assemble.Matches sig := by
      simp only [Lambda.Matches, Lambda.paramTypes, assemble, hinputs]
    constructor
    · rw [finishes_iff hreal hopen, ← hmatches, ← fits_literal_word hpush hcall hparams hopen,
        ← hall]
      exact finishes_iff hreal (hall ▸ hopen') st sig
    · intro fn fn' hfin hfin' host args hargs
      rw [invoke_eq_run_machine hreal rfl hfin hargs host,
        invoke_eq_run_machine hreal hall hfin' (hinputs ▸ hargs) host,
        carriedOut_literal_word hpush hcall hparams hopen,
        Machine.run_literal_word hparams hresult]
  · refine ⟨iff_of_false ?_ hp, fun _ => ⟨fault, hfault⟩, fun h => absurd h hp⟩
    rw [hfault]
    simp [refuse]

end Compiler

end

namespace Compiler

open scoped Catalogue

/-- Two numbers, held whole. -/
def twoNumbers : Value := ⟨.array 2 .int, .tuple [.int 1, .int 2]⟩

/-- A word that takes anything and has no result. -/
def takesAny : Call := .apply (Dictionary.host []) (some ⟨.func [.any] [] false, .func 0 []⟩)

/-- An array is pushed as a value of any type, with eager checking. The word receives the numbers
with their type. -/
theorem literals_kept_array : Pushable (some twoNumbers) (some .any) ∧
    ∃ fn, ((((new { eager := true }).push (some twoNumbers) (some .any)).compiler.perform
        takesAny).compiler.finishType .empty (some (.func [] [] false))).result = .ok fn ∧
      ∀ host, fn.invoke host [] =
        host.call 0 [] [.boxed (.array 2 .int) (.tuple [.int 1, .int 2])] >>= fun _ => pure () := by
  have hp : Pushable (some twoNumbers) (some .any) := .assigned rfl
  obtain ⟨w, hcall, hparams, hresult, hfn⟩ : ∃ w, takesAny.instr? = some (.word w) ∧
      w.params = [.any] ∧ w.result = none ∧ w.fn.data = .func 0 [] := ⟨_, rfl, rfl, rfl, rfl⟩
  obtain ⟨-, -, hkept⟩ :=
    @literals_kept _ { eager := true } rfl [] _ rfl rfl (some twoNumbers) (some .any)
  obtain ⟨x, -, hpushed, -, hword⟩ := hkept hp
  obtain rfl : x = ⟨.any, .boxed (.array 2 .int) (.tuple [.int 1, .int 2])⟩ := by
    cases congrArg stack hpushed
    rfl
  obtain ⟨⟨code, captured, hdata, hcalled⟩, -, hfinish⟩ := hword w _ hcall hparams hresult
  cases hfn.symm.trans hdata
  obtain ⟨hiff, hinvoke⟩ := hfinish _ rfl .empty (some (.func [] [] false))
  obtain ⟨fn, hfin⟩ : ∃ fn, (((new { eager := true }).performAll []).finishType .empty
    (some (.func [] [] false))).result = .ok fn := ⟨_, rfl⟩
  obtain ⟨fn', hfin'⟩ := hiff.mpr ⟨fn, hfin⟩
  refine ⟨hp, fn', hfin', fun host => ?_⟩
  have hempty : fn.invoke host [] = pure () :=
    (invoke_eq_run_machine rfl rfl hfin rfl host).trans (pure_bind _ _)
  rw [hinvoke fn fn' hfin hfin' host [] rfl, hempty, hcalled]
  simp

/-- **A nil that is refused.** An unsafe pointer is a reference, and is unset if it is nil, but no
nil can be pushed as one. -/
theorem unsafe_nil_refused : (Ty.basic .unsafePointer).isValue = false ∧
    (Ty.basic .unsafePointer).zero = .nil ∧ ∀ settings,
      (new settings).push none (some (.basic .unsafePointer)) =
        (new settings).refuse (.literal (.notNillable (.basic .unsafePointer))) :=
  ⟨rfl, rfl, fun _ => rfl⟩

end Compiler

end Tacit
