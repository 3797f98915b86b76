import Tacit.Catalogue
import Tacit.Proofs.Compiler.Linearity
import Tacit.Proofs.Program.Typing
import Tacit.Word.Dictionary

/-!
# Which programs are accepted

A program is refused when it is finished for one of two reasons: the signature is not its own, or an
operand does not fit the parameter it went to.

* `Ty.Binds s t`: a value of type `s` can be handed over for a parameter of type `t`.
* `Compiler.popped`: the operands that words took off the stack, each with its parameter.
* `Check.Decides x P`: the check `x` passes if `P` holds and reports a mismatch of types if not.
* `steps_decides`: the realization of compiled operations decides whether what was popped binds.
* `finishType_exact`: finishing, for every run of calls and every signature.
-/

namespace Tacit

/-! ### Checks that decide -/

namespace Check

variable {α β : Type} {x : Check α} {f : α → Check β} {P Q : Prop}

/-- The check passes if `P` holds, and reports a mismatch of types if it does not. -/
def Decides (x : Check α) (P : Prop) : Prop :=
  (P ∧ ∃ a, x = .ok a) ∨ (¬ P ∧ ∃ e fault, x = .error (.error e) ∧ e.cause = .mismatch fault)

theorem decides_of_ok {a : α} (h : x = .ok a) (hP : P) : x.Decides P := .inl ⟨hP, a, h⟩

theorem decides_of_fail {fault : Mismatch} (h : x = fail (.mismatch fault)) (hP : ¬ P) :
    x.Decides P := .inr ⟨hP, _, fault, h, rfl⟩

theorem Decides.congr (h : x.Decides P) (hPQ : P ↔ Q) : x.Decides Q := by
  rwa [propext hPQ] at h

theorem Decides.bind (hx : x.Decides P) (hf : ∀ a, P → (f a).Decides Q) :
    (x >>= f).Decides (P ∧ Q) := by
  rcases hx with ⟨hP, a, rfl⟩ | ⟨hP, e, fault, rfl, he⟩
  · rcases hf a hP with ⟨hQ, b, hb⟩ | ⟨hQ, e, fault, hb, he⟩
    · exact .inl ⟨⟨hP, hQ⟩, b, hb⟩
    · exact .inr ⟨fun h => hQ h.2, e, fault, hb, he⟩
  · exact .inr ⟨fun h => hP h.1, e, fault, rfl, he⟩

/-- A step that always passes does not change what is decided. -/
theorem Decides.of_ok {a : α} (hx : x = .ok a) (hf : (f a).Decides Q) : (x >>= f).Decides Q := by
  rw [hx]
  exact hf

theorem Decides.inside (hx : x.Decides P) (ctx : Context) : (inside ctx x).Decides P := by
  rcases hx with ⟨hP, a, rfl⟩ | ⟨hP, e, fault, rfl, he⟩
  · exact .inl ⟨hP, a, rfl⟩
  · exact .inr ⟨hP, .within ctx e, fault, rfl, he⟩

/-- What is done with the result does not change what is decided. -/
theorem Decides.bind_pure (hx : x.Decides P) (g : α → β) :
    (x >>= fun a => pure (g a)).Decides P := by
  refine (hx.bind (Q := True) fun a _ => decides_of_ok rfl trivial).congr ?_
  exact and_iff_left trivial

end Check

section

variable [Declarations]

/-! ### Binding -/

/-- A value of type `s` can be handed over for a parameter of type `t`: the types are the same, or
one of them is held by itself and the value converts, or both are held by reference and the value
can be stored as it is. -/
def Ty.Binds (s t : Ty) : Prop :=
  s = t ∨ ((s.isValue = true ∨ t.isValue = true) ∧ s.canConvert t = true) ∨
    (s.isValue = false ∧ t.isValue = false ∧ s.assignable t = true)

instance (s t : Ty) : Decidable (s.Binds t) := inferInstanceAs (Decidable (_ ∨ _ ∨ _))

theorem Ty.binds_of_needsConversion {s t : Ty} (h : s.needsConversion t = true) :
    s.Binds t ↔ s.canConvert t = true := by
  simp only [needsConversion, Bool.and_eq_true, decide_eq_true_eq, Bool.or_eq_true] at h
  obtain ⟨hne, hv⟩ := h
  constructor
  · rintro (rfl | ⟨-, h⟩ | ⟨hs, ht, -⟩)
    · exact absurd rfl hne
    · exact h
    · rcases hv with hv | hv
      · rw [hs] at hv; cases hv
      · rw [ht] at hv; cases hv
  · intro h
    exact .inr (.inl ⟨hv, h⟩)

theorem Ty.binds_of_not_needsConversion {s t : Ty} (h : s.needsConversion t = false) :
    s.Binds t ↔ s.assignable t = true := by
  by_cases hst : s = t
  · subst hst
    exact ⟨fun _ => s.assignable_self, fun _ => .inl rfl⟩
  · simp only [needsConversion, ne_eq, hst, not_false_eq_true, decide_true, Bool.true_and,
      Bool.or_eq_false_iff] at h
    obtain ⟨hs, ht⟩ := h
    constructor
    · rintro (rfl | ⟨hv | hv, -⟩ | ⟨-, -, h⟩)
      · exact absurd rfl hst
      · rw [hs] at hv; cases hv
      · rw [ht] at hv; cases hv
      · exact h
    · intro h
      exact .inr (.inr ⟨hs, ht, h⟩)

/-- The expression and the parameter that it went to. -/
def Bindable (p : Expr × Ty) : Prop := ∃ s, p.1.type = .ok (some s) ∧ s.Binds p.2

theorem bindable_iff {e : Expr} {s t : Ty} (h : e.type = .ok (some s)) :
    Bindable (e, t) ↔ s.Binds t := by
  constructor
  · rintro ⟨s', hs', hb⟩
    rw [h] at hs'
    cases hs'
    exact hb
  · intro hb
    exact ⟨s, h, hb⟩

namespace Compiler

/-- The operands that instructions take off the stack, each with the type of its parameter. -/
def popped (c : Compiler) : List Instr → List (Expr × Ty)
  | [] => []
  | .literal v :: is => (c.add (.literal v)).popped is
  | .word w :: is => c.stack.zip w.params ++ (c.add (.word w)).popped is

end Compiler

/-! ### Operands -/

/-- The check of a node that is no conversion looks at its type only. -/
theorem Expr.checkBind_decides {e : Expr} {s : Ty} (h : e.type = .ok (some s))
    (hc : e.checkConversion s = .ok ()) (t : Ty) :
    (e.checkBind (some t)).Decides (s.assignable t = true) := by
  refine .of_ok (typeOf_eq_ok.mpr h) (.of_ok hc ?_)
  by_cases ha : s.assignable t = true
  · exact Check.decides_of_ok (if_pos ha) ha
  · exact Check.decides_of_fail (if_neg ha) ha

/-- The check of a conversion looks at the type of its operand. -/
theorem Expr.checkBind_convert_decides {e : Expr} {s : Ty} (h : e.type = .ok (some s)) (t : Ty) :
    ((Expr.convert e (some t)).checkBind (some t)).Decides (s.canConvert t = true) := by
  have hconv : ((Expr.convert e (some t)).checkConversion t).Decides (s.canConvert t = true) := by
    refine .of_ok (typeOf_eq_ok.mpr h) ?_
    by_cases hc : s.canConvert t = true
    · exact Check.decides_of_ok (if_pos hc) hc
    · exact Check.decides_of_fail (if_neg hc) hc
  refine .of_ok rfl ((hconv.bind (Q := True) fun _ _ => ?_).congr (and_iff_left trivial))
  exact Check.decides_of_ok (if_pos t.assignable_self) trivial

namespace Compiler

variable {c : Compiler} {sc : Scope} {temps : List Slot} {e : Expr} {s t : Ty}

theorem OnStack.checkConversion (h : OnStack temps e) (t : Ty) : e.checkConversion t = .ok () := by
  rcases h with ⟨v, rfl⟩ | ⟨slot, -, rfl⟩ <;> rfl

/-- The check of an operand decides whether the value binds. -/
theorem OnStack.checkBind_decides (h : OnStack temps e) (hs : e.type = .ok (some s)) (t : Ty) :
    ((coerce e t).checkBind (some t)).Decides (Bindable (e, t)) := by
  rw [coerce_of_type hs]
  cases hn : s.needsConversion t with
  | true =>
      exact (Expr.checkBind_convert_decides hs t).congr
        ((Ty.binds_of_needsConversion hn).symm.trans (bindable_iff hs).symm)
  | false =>
      exact (Expr.checkBind_decides hs (h.checkConversion s) t).congr
        ((Ty.binds_of_not_needsConversion hn).symm.trans (bindable_iff hs).symm)

/-- The code of an operand can be made if the value binds. -/
theorem OnStack.code_coerce (h : OnStack temps e) (hsub : temps ⊆ sc.temps)
    (hs : e.type = .ok (some s)) (hb : Bindable (e, t)) : ∃ x, (coerce e t).code sc = .ok x := by
  obtain ⟨x, hx⟩ : ∃ x, e.code sc = .ok x := by
    rcases h with ⟨v, rfl⟩ | ⟨slot, hslot, rfl⟩
    · exact ⟨.const v, by rw [Expr.code]; rfl⟩
    · obtain ⟨i, hi⟩ := Scope.temp_of_listed (.of_mem (hsub hslot))
      exact ⟨.temp i, by rw [Expr.code, hi]; rfl⟩
  rw [coerce_of_type hs]
  cases hn : s.needsConversion t with
  | true =>
      have hcan := (Ty.binds_of_needsConversion hn).mp ((bindable_iff hs).mp hb)
      refine ⟨conversionCode s t x, ?_⟩
      rw [if_pos rfl, Expr.code, conversionTypes_of_type hs hcan, hx]
      rfl
  | false => exact ⟨x, hx⟩

/-- The type of a value on the stack is known. -/
theorem Formed.type_stack (h : c.Formed) (he : e ∈ c.stack) : ∃ s, e.type = .ok (some s) := by
  rcases h.stack e he with ⟨v, rfl⟩ | ⟨slot, hslot, rfl⟩
  · exact ⟨v.type, rfl⟩
  · obtain ⟨ts, hts⟩ := h.temps
    have ht : slot.type ∈ c.temps.map (·.type) := List.mem_map_of_mem hslot
    rw [hts, types_numbered] at ht
    obtain ⟨t, -, ht⟩ := List.mem_map.mp ht
    exact ⟨t, by rw [Expr.type, ht]⟩

/-- An input passes the check of the parameter that it was made for. -/
theorem operandCodes_fresh (name : String) : ∀ (ts : List Ty) (i n : Nat),
    numbered "i" n ts ⊆ sc.params →
    ∃ xs, Expr.operandCodes sc name i ts ((numbered "i" n ts).map .param) = .ok xs
  | [], _, _, _ => ⟨[], by simp [numbered, Expr.operandCodes]⟩
  | t :: ts, i, n, hsub => by
      obtain ⟨k, hk⟩ := Scope.param_of_listed (.of_mem (hsub List.mem_cons_self))
      obtain ⟨xs, hxs⟩ := operandCodes_fresh name ts (i + 1) (n + 1) fun x hx =>
        hsub (List.mem_cons_of_mem _ hx)
      refine ⟨.param k :: xs, ?_⟩
      have hb : (Expr.param ⟨n, some t, "i" ++ Nat.repr n⟩).checkBind (some t) = .ok () :=
        if_pos t.assignable_self
      rw [numbered, List.map_cons, Expr.operandCodes, hb, Expr.code, hk, hxs]
      rfl

/-- The checks of a word's operands decide whether what it popped binds. -/
theorem operandCodes_decides (name : String) (hsub : temps ⊆ sc.temps) :
    ∀ (ts : List Ty) (stack : List Expr) (i n : Nat),
    (∀ e ∈ stack, OnStack temps e ∧ ∃ s, e.type = .ok (some s)) →
    numbered "i" n (ts.drop stack.length) ⊆ sc.params →
    (Expr.operandCodes sc name i ts (List.zipWith coerce stack ts ++
      (numbered "i" n (ts.drop stack.length)).map .param)).Decides
        (∀ p ∈ stack.zip ts, Bindable p)
  | ts, [], i, n, _, hfresh => by
      obtain ⟨xs, hxs⟩ := operandCodes_fresh name ts i n hfresh
      exact Check.decides_of_ok hxs (by simp)
  | [], e :: stack, i, n, _, _ =>
      Check.decides_of_ok (a := []) (by simp [numbered, Expr.operandCodes]) (by simp)
  | t :: ts, e :: stack, i, n, hstack, hfresh => by
      obtain ⟨he, s, hs⟩ := hstack e List.mem_cons_self
      have htail := operandCodes_decides name hsub ts stack (i + 1) n
        (fun e' he' => hstack e' (List.mem_cons_of_mem _ he')) hfresh
      rw [List.zipWith_cons_cons, List.cons_append, Expr.operandCodes]
      -- the code of an operand is made only after its check, when it is known to bind
      refine (((he.checkBind_decides hs t).inside _).bind
        (Q := ∀ p ∈ stack.zip ts, Bindable p) fun _ hb => ?_).congr ?_
      · obtain ⟨x, hx⟩ := he.code_coerce hsub hs hb
        exact .of_ok hx (htail.bind_pure _)
      · rw [List.zip_cons_cons, List.forall_mem_cons]

/-! ### Operations -/

theorem length_operands (c : Compiler) (w : Word) : (c.operands w).length = w.params.length := by
  rw [operands, List.length_append, List.length_zipWith, List.length_map, fresh, length_numbered,
    List.length_drop]
  omega

theorem callParams_word {w : Word} (hw : w.Valid) {n : Nat} (hn : n = w.params.length) :
    callParams w.name (.const (some w.fn)) n = .ok w.params := by
  obtain ⟨hf, -⟩ := hw.func
  simp [callParams, Expr.typeOf, Expr.type, Check.ofPanicking, bind, Except.bind, hf, hn]

theorem type_word {w : Word} (hw : w.Valid) {t : Ty} (ht : w.result = some t)
    (operands : List Expr) :
    (Expr.invoke w.name (.const (some w.fn)) operands).type = .ok (some t) := by
  obtain ⟨hf, -⟩ := hw.func
  simp [Expr.type, Functor.map, Except.map, Expr.resultType, hf, ht]

/-- The realization of a word's operation decides whether what the word popped binds. -/
theorem Formed.step_decides (h : c.Formed) {w : Word} (hw : w.Valid)
    (hin : (c.add (.word w)).inputs ⊆ sc.params) (htemps : (c.add (.word w)).temps ⊆ sc.temps) :
    ((c.operation w).step sc).Decides (∀ p ∈ c.stack.zip w.params, Bindable p) := by
  rw [inputs_add_word] at hin
  rw [temps_add_word] at htemps
  have hcodes : (Expr.operandCodes sc w.name 0 w.params (c.operands w)).Decides
      (∀ p ∈ c.stack.zip w.params, Bindable p) :=
    operandCodes_decides w.name (fun x hx => htemps (List.mem_append_left _ hx)) w.params c.stack 0
      c.inputs.length (fun e he => ⟨h.stack e he, h.type_stack he⟩)
      fun x hx => hin (List.mem_append_right _ hx)
  -- the func and the temporary pass their checks, so all depends on the operands
  have hparams := callParams_word hw (length_operands c w)
  have hfn : (Expr.const (some w.fn)).code sc = .ok (.const w.fn) := by rw [Expr.code]; rfl
  rcases operation_cases c w with ⟨-, -, hop⟩ | ⟨slot, t, hres, hslot, hnew, hop⟩
  · rw [hop, Expr.step]
    exact .of_ok hparams (.of_ok hfn (hcodes.bind_pure _))
  · have hmem : slot ∈ sc.temps := htemps (List.mem_append_right _ (hnew ▸ List.mem_cons_self))
    obtain ⟨i, hi⟩ := Scope.temp_of_listed (.of_mem hmem)
    have htype := type_word hw hres (c.operands w)
    have hbind : (Expr.invoke w.name (.const (some w.fn)) (c.operands w)).checkBind slot.type =
        .ok () := by
      rw [hslot]
      refine Check.bind_eq_ok.mpr ⟨some t, Expr.typeOf_eq_ok.mpr htype, ?_⟩
      exact if_pos t.assignable_self
    rw [hop, Expr.step]
    refine .of_ok hi (.of_ok (Check.inside_eq_ok.mpr hbind) (Check.Decides.bind_pure ?_ _))
    rw [Expr.code]
    exact .of_ok (Expr.typeOf_eq_ok.mpr htype) (.of_ok hparams (.of_ok hfn (hcodes.bind_pure _)))

/-- The realization of compiled operations decides whether all that was popped binds. -/
theorem Formed.steps_decides : ∀ {c : Compiler}, c.Formed → ∀ (is : List Instr) (i : Nat),
    (∀ x ∈ is, x.Valid) → (c.addAll is).inputs ⊆ sc.params → (c.addAll is).temps ⊆ sc.temps →
    (Expr.steps sc i (c.operations is)).Decides (∀ p ∈ c.popped is, Bindable p)
  | c, _, [], i, _, _, _ => Check.decides_of_ok rfl (by simp [popped])
  | c, h, .literal v :: is, i, hv, hin, htemps =>
      Formed.steps_decides (h.add (.literal v)) is i (fun x hx => hv x (List.mem_cons_of_mem _ hx))
        hin htemps
  | c, h, .word w :: is, i, hv, hin, htemps => by
      obtain ⟨hpi, hpt⟩ := slots_addAll is (c.add (.word w))
      have hop := h.step_decides (hv _ List.mem_cons_self) (List.Subset.trans hpi.subset hin)
        (List.Subset.trans hpt.subset htemps)
      have hrest := Formed.steps_decides (h.add (.word w)) is (i + 1)
        (fun x hx => hv x (List.mem_cons_of_mem _ hx)) hin htemps
      refine ((hop.inside (.operation i)).bind fun st _ => hrest.bind_pure (st :: ·)).congr ?_
      rw [popped, List.forall_mem_append]

end Compiler

namespace Compiler

variable {c : Compiler}

/-- Finishing answers what the realizer answers. -/
theorem finishType_result (hopen : c.finished = false) (st : Store) (sig : Option Ty) :
    (c.finishType st sig).result = Check.inside .finish (c.settings.realizer c.assemble sig) := by
  unfold finishType
  rw [hopen]
  simp only [Bool.false_eq_true, if_false]
  split
  · rename_i f hf
    rw [hf]
  · rename_i fn hfn
    rw [hfn]

/-! ### Finishing -/

/-- Everything that calls took off the stack fits the parameter it went to. -/
def Fits (c : Compiler) (calls : List Call) : Prop :=
  ∀ p ∈ c.popped (c.carriedOut calls), Bindable p

theorem realizer_signature {sig : Option Ty} (h : ¬ c.assemble.Matches sig) :
    ∃ fault, routineRealizer c.assemble sig = Check.fail (.signature fault) := by
  rcases checkSignature_cases c.assemble sig with ⟨hm, -⟩ | ⟨-, fault, hsig⟩
  · exact absurd hm h
  · refine ⟨fault, ?_⟩
    have hreal : c.assemble.realize sig = Check.fail (.signature fault) := by
      simp only [Lambda.realize, assemble] at hsig ⊢
      rw [hsig]
      rfl
    rw [routineRealizer, hreal]
    rfl

/-- Under its own signature, the realization of a program decides whether what was popped binds. -/
theorem realizer_decides {settings : Settings} {is : List Instr} (hv : ∀ x ∈ is, x.Valid)
    {sig : Option Ty} (h : ((new settings).addAll is).assemble.Matches sig) :
    (routineRealizer ((new settings).addAll is).assemble sig).Decides
      (∀ p ∈ (new settings).popped is, Bindable p) := by
  have hsteps : (Expr.steps ((new settings).addAll is).assemble.scope 0
      ((new settings).operations is)).Decides (∀ p ∈ (new settings).popped is, Bindable p) :=
    (formed_new settings).steps_decides is 0 hv (List.Subset.refl _) (List.Subset.refl _)
  have hops : ((new settings).addAll is).ops = (new settings).operations is :=
    (ops_addAll is (new settings)).trans (List.nil_append _)
  rcases checkSignature_cases ((new settings).addAll is).assemble sig with ⟨-, t, -, hsig⟩ | ⟨hm, -⟩
  · refine Check.Decides.bind_pure ?_ _
    rw [← hops] at hsteps
    exact .of_ok hsig (hsteps.bind_pure _)
  · exact absurd h hm

/-- **Which programs are accepted.** In every state before a program is finished, and for every
signature: finishing succeeds exactly if the signature is that of the program and every operand that
a word took off the stack fits its parameter. If not, the error says which of the two it is, the
signature first; it is never about the form of the program, and there is no panic. -/
theorem finishType_exact {settings : Settings} (hreal : settings.realizer = routineRealizer)
    (calls : List Call) {c : Compiler} (hc : (new settings).performAll calls = c)
    (hopen : c.finished = false) (st : Store) (sig : Option Ty) :
    ((∃ fn, (c.finishType st sig).result = .ok fn) ↔
      c.assemble.Matches sig ∧ (new settings).Fits calls) ∧
    (¬ c.assemble.Matches sig → ∃ e fault, (c.finishType st sig).result = .error (.error e) ∧
      e.cause = .signature fault) ∧
    (c.assemble.Matches sig → ¬ (new settings).Fits calls → ∃ e fault,
      (c.finishType st sig).result = .error (.error e) ∧ e.cause = .mismatch fault) ∧
    (∀ f, (c.finishType st sig).result = .error f →
      ∃ e, f = .error e ∧ ∀ fault, e.cause ≠ .malformed fault) := by
  obtain ⟨b, hb⟩ := performAll_eq calls (new settings)
  have hused := (used_new settings).addAll (formed_new settings) ((new settings).carriedOut calls)
  have hsettings : c.settings.realizer = routineRealizer := by
    rw [← hc, settings_performAll]
    exact hreal
  have hassemble : c.assemble =
      ((new settings).addAll ((new settings).carriedOut calls)).assemble := by
    rw [← hc, assemble_performAll]
  rw [finishType_result hopen, hsettings]
  -- the signature is looked at first, so its error hides what the operations would say
  by_cases hm : c.assemble.Matches sig
  · have hd : (routineRealizer c.assemble sig).Decides ((new settings).Fits calls) := by
      rw [hassemble] at hm ⊢
      exact realizer_decides (carriedOut_valid calls _) hm
    rcases hd.inside .finish with ⟨hf, fn, hok⟩ | ⟨hf, e, fault, herr, he⟩
    · rw [hok]
      simp [hm, hf]
    · rw [herr]
      simp [hm, hf, he]
  · obtain ⟨fault, hsig⟩ := realizer_signature hm
    rw [hsig]
    simp [hm, Check.fail, Check.inside, Error.cause]

end Compiler

end

namespace Compiler

open scoped Catalogue

/-- An integer goes to a parameter of floating-point numbers, and the other parameter of the word
becomes an input. The program is finished under the signature that takes that input, and not without
a signature. -/
theorem finishType_exact_float : ∃ c : Compiler,
    (new {}).performAll [.push (some ⟨.int, .int 3⟩) none, .apply (Dictionary.host [])
      (some ⟨.func [.basic .float64, .any] [.int] false, .func 0 []⟩)] = c ∧
    c.finished = false ∧
    (∃ fn, (c.finishType .empty (some (.func [.any] [] false))).result = .ok fn) ∧
    ∃ e fault, (c.finishType .empty none).result = .error (.error e) ∧
      e.cause = .signature fault := by
  refine ⟨_, rfl, rfl, (finishType_exact rfl _ rfl rfl _ _).1.mpr ⟨⟨[.any], rfl, rfl⟩, ?_⟩,
    (finishType_exact rfl _ rfl rfl _ _).2.1 ?_⟩
  · intro p hp
    obtain rfl : p = (.const (some ⟨.int, .int 3⟩), .basic .float64) := List.mem_singleton.mp hp
    exact ⟨.int, rfl, by decide⟩
  · rintro ⟨ps, hps, -⟩
    cases hps

end Compiler

end Tacit
