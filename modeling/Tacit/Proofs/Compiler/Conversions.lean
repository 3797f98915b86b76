import Tacit.Catalogue
import Tacit.Proofs.Compiler.Building
import Tacit.Proofs.Compiler.Machine
import Tacit.Proofs.Program.Conversion

/-!
# Conversions in compiled programs

A compiled program converts operands only, each of them at most once, and only where it has to.

* `stepsReach_convert`: a conversion that an invocation comes to is an operand of an operation.
* `Formed.needsConversion_operations`: an operand that is converted needs it.
* `conversion_panics`: when a conversion in a compiled program breaks off, and with what panic.
* `shortened_panics`: a slice that is too short is not noticed before the conversion is carried out,
  in an interface or not.
-/

namespace Tacit

/-! ### Which conversions an invocation comes to -/

namespace Expr

variable [Declarations] {host : Host} {sc : Scope} {fr : Frame} {s s' : Store} {e x : Expr}
  {t : Ty} {v : Value}

theorem IsOperand.reaches_convert (h : e.IsOperand)
    (hr : e.Reaches host sc fr s s' (.convert x t v)) : e = .convert x (some t) := by
  rcases h with ⟨p, rfl⟩ | ⟨y, hy, rfl | ⟨u, rfl⟩⟩
  · simp [Reaches] at hr
  · rcases hy with ⟨w, rfl⟩ | ⟨p, rfl⟩ <;> simp [Reaches] at hr
  · rcases hy with ⟨w, rfl⟩ | ⟨p, rfl⟩ <;> simp_all [Reaches]

theorem reachesAny_convert : ∀ {es : List Expr} {s : Store}, (∀ e ∈ es, e.IsOperand) →
    ReachesAny host sc fr es s s' (.convert x t v) → .convert x (some t) ∈ es
  | [], _, _, hr => by simp [ReachesAny] at hr
  | e :: es, s, h, hr => by
      rw [ReachesAny] at hr
      rcases hr with hr | ⟨w, s₁, -, hr⟩
      · rw [(h e List.mem_cons_self).reaches_convert hr]
        exact List.mem_cons_self
      · exact List.mem_cons_of_mem _
          (reachesAny_convert (fun e' he' => h e' (List.mem_cons_of_mem _ he')) hr)

theorem IsApplication.stepReaches_convert (h : e.IsApplication)
    (hr : e.StepReaches host sc fr s s' (.convert x t v)) : .convert x (some t) ∈ e.operands := by
  obtain ⟨name, fn, operands, he, hoperands⟩ := h
  have hcall : DuringCall (anySealed (const (some fn)) operands) (evalAll host sc fr operands)
      ((const (some fn)).eval host sc fr) (ReachesAny host sc fr operands)
      ((const (some fn)).Reaches host sc fr) s s' (.convert x t v) := by
    rcases he with rfl | ⟨dst, rfl⟩
    · exact hr
    · simpa [StepReaches, Reaches] using hr
  have hmem : .convert x (some t) ∈ operands := by
    rcases hcall with hin | ⟨vs, s₁, -, hin | ⟨f, -, hact | ⟨-, hact⟩⟩⟩
    · exact reachesAny_convert hoperands hin
    · simp [Reaches] at hin
    · cases hact
    · cases hact
  rcases he with rfl | ⟨dst, rfl⟩ <;> exact hmem

/-- A conversion that operations come to is an operand of one of them. -/
theorem stepsReach_convert {pt : Point} (hact : pt.act = .convert x t v) :
    ∀ {es : List Expr} {fr : Frame} {s : Store}, (∀ e ∈ es, e.IsApplication) →
      StepsReach host sc pt fr es s → ∃ op ∈ es, .convert x (some t) ∈ op.operands
  | [], _, _, _, hr => hr.elim
  | e :: es, fr, s, h, hr => by
      rcases hr with ⟨-, hr⟩ | ⟨fr', s', -, hr⟩
      · rw [hact] at hr
        exact ⟨e, List.mem_cons_self, (h e List.mem_cons_self).stepReaches_convert hr⟩
      · obtain ⟨op, hop, hx⟩ :=
          stepsReach_convert hact (fun e' he' => h e' (List.mem_cons_of_mem _ he')) hr
        exact ⟨op, List.mem_cons_of_mem _ hop, hx⟩

end Expr

/-! ### Which conversions are compiled -/

namespace Compiler

variable {c : Compiler} {x : Expr} {t : Ty}

section

variable [Declarations]

theorem Formed.needsConversion_operands (h : c.Formed) {w : Word}
    (hx : .convert x (some t) ∈ c.operands w) :
    ∃ s, x.type = .ok (some s) ∧ s.needsConversion t = true := by
  rcases List.mem_append.mp hx with hx | hx
  · obtain ⟨k, hk⟩ := List.mem_iff_getElem?.mp hx
    obtain ⟨e, u, he, -, hcoerce⟩ := List.getElem?_zipWith_eq_some.mp hk
    obtain ⟨s, hs⟩ := h.type_stack (List.mem_of_getElem? he)
    rw [coerce_of_type hs] at hcoerce
    split at hcoerce
    · rename_i hneed
      cases hcoerce
      exact ⟨s, hs, hneed⟩
    · -- what is on the stack is no conversion
      rcases h.stack e (List.mem_of_getElem? he) with ⟨v, rfl⟩ | ⟨slot, -, rfl⟩ <;> cases hcoerce
  · obtain ⟨slot, -, hslot⟩ := List.mem_map.mp hx
    cases hslot

/-- An operand of a compiled operation that is converted needs it. -/
theorem Formed.needsConversion_operations : ∀ {c : Compiler}, c.Formed → ∀ {is : List Instr}
    {op : Expr}, op ∈ c.operations is → .convert x (some t) ∈ op.operands →
    ∃ s, x.type = .ok (some s) ∧ s.needsConversion t = true
  | c, h, .literal v :: is, op, hop, hx =>
      Formed.needsConversion_operations (h.add (.literal v)) hop hx
  | c, h, .word w :: is, op, hop, hx => by
      rcases List.mem_cons.mp hop with rfl | hop
      · rw [operands_operation] at hx
        exact h.needsConversion_operands hx
      · exact Formed.needsConversion_operations (h.add (.word w)) hop hx

theorem needsConversion_performAll {settings : Settings} {calls : List Call} {op : Expr}
    (hop : op ∈ ((new settings).performAll calls).ops) (hx : .convert x (some t) ∈ op.operands) :
    ∃ s, x.type = .ok (some s) ∧ s.needsConversion t = true := by
  obtain ⟨b, hb⟩ := performAll_eq calls (new settings)
  rw [hb] at hop
  have hops : ((new settings).addAll ((new settings).carriedOut calls)).ops =
      (new settings).operations ((new settings).carriedOut calls) :=
    (ops_addAll _ _).trans (List.nil_append _)
  exact (formed_new settings).needsConversion_operations (hops ▸ hop) hx

/-- **When a conversion breaks off.** Let calls be made on a new compiler and let the program be
finished under a signature. Whatever the funcs that it calls do, an invocation with arguments of the
signature's parameter types does what the program means. A conversion that it comes to is that of a
value of the type that the program says, and breaks off in two cases only: the type is an interface
and what the interface holds does not convert, and then the panic is a mismatch of types; or a
slice, in an interface or not, is too short for an array, and then it is not. -/
theorem conversion_panics {settings : Settings} (hreal : settings.realizer = routineRealizer)
    {calls : List Call} {c : Compiler} (hc : (new settings).performAll calls = c) {st : Store}
    {sig : Option Ty} {fn : Callable} (hfin : (c.finishType st sig).result = .ok fn)
    {args : List Value} {rs : List Ty} {b : Bool}
    (hargs : sig.bind Ty.func? = some (args.map (·.type), rs, b)) (host : Host) :
    fn.invoke host args = c.assemble.run host args ∧
    ∀ s pt x t v, c.assemble.Reaches host args s pt → pt.act = .convert x t v →
      x.type = .ok (some v.type) ∧
      ∀ p, pt.act.Panics host pt.store p ↔
        (v.type.isInterface = true ∧ v.Misfits t p ∧ p.isTypeMismatch = true) ∨
        (v.FallsShort t pt.store p ∧ p.isTypeMismatch = false) := by
  obtain ⟨r, hr, hinvoke⟩ := realize_of_finishType hreal hc hfin
  refine ⟨by rw [hinvoke, invoke_eq_run hr], ?_⟩
  rintro s pt x t v ⟨body, temps, hbody, hunset, hreach⟩ hact
  cases hbody
  obtain ⟨body, hbody, hsig, hsteps, -⟩ := Lambda.realize_ok hr
  cases hbody
  -- the value has the type of the operand, and the types allow the conversion
  have hframe : (Frame.mk args temps).Typed ⟨c.inputs, c.temps⟩ := by
    have htypes := paramTypes_of_checkSignature hsig hargs
    rw [List.map_map] at htypes
    exact ⟨htypes, unsetTemps_types hunset⟩
  obtain ⟨-, hsound⟩ := stepsReach_sound hframe (isOperation_of_steps hsteps) hreach
  rw [hact] at hsound
  obtain ⟨htype, hcan⟩ := hsound
  -- and it is made because it is needed
  have hneed : v.type.needsConversion t = true := by
    subst hc
    obtain ⟨op, hop, hx⟩ :=
      Expr.stepsReach_convert hact (isApplication_performAll settings calls) hreach
    obtain ⟨u, hu, hneed⟩ := needsConversion_performAll hop hx
    rw [htype] at hu
    cases hu
    exact hneed
  refine ⟨htype, fun p => ?_⟩
  rw [hact, Act.Panics, Value.cast_panics hcan hneed]
  constructor
  · rintro (⟨hbox, h⟩ | h)
    · exact .inl ⟨hbox, h, h.isTypeMismatch⟩
    · exact .inr ⟨h, h.isTypeMismatch⟩
  · rintro (⟨hbox, h, -⟩ | ⟨h, -⟩)
    · exact .inl ⟨hbox, h⟩
    · exact .inr h

end

open scoped Catalogue

/-- A slice. -/
def someSlice : Value := ⟨.slice .int, .slice 0⟩

/-- A store in which the slice has one item. -/
def oneItem : Store := ⟨[.slots [.int 1]]⟩

/-- The slice is pushed as a value of type `t`, and a word takes it as an array of two items. -/
def shortened (t : Ty) : List Call :=
  [.push (some someSlice) (some t),
    .apply (Dictionary.host []) (some ⟨.func [.array 2 .int] [] false, .func 0 []⟩)]

/-- Where the program of `shortened t` converts the slice. -/
def shortening (t : Ty) : Point :=
  let v : Value := ⟨t, someSlice.stored t⟩
  ⟨⟨[], []⟩, oneItem, .convert (.const (some v)) (.array 2 .int) v⟩

/-- A host whose words do nothing. -/
def idleHost : Host := Dictionary.host [.described "take" [.array 2 .int] [] false .zero]

theorem reachesAny_shortening (sc : Scope) (t : Ty) :
    Expr.ReachesAny idleHost sc ⟨[], []⟩
      [.convert (.const (some ⟨t, someSlice.stored t⟩)) (some (.array 2 .int))] oneItem oneItem
      (shortening t).act := by
  simp [Expr.ReachesAny, Expr.Reaches, Expr.eval, shortening]

theorem shortened_panics : ∃ fn, (((new {}).performAll (shortened (.slice .int))).finishType oneItem
      (some (.func [] [] false))).result = .ok fn ∧
    ((new {}).performAll (shortened (.slice .int))).assemble.Reaches idleHost [] oneItem
      (shortening (.slice .int)) ∧
    (shortening (.slice .int)).act.Panics idleHost oneItem (.shortSlice 1 2 false) ∧
    (fn.invoke idleHost []).Panics oneItem (.shortSlice 1 2 false) ∧
    (Ty.slice .int).isInterface = false ∧ (Panic.shortSlice 1 2 false).isTypeMismatch = false := by
  refine ⟨_, rfl, ?_, ?_, ?_, rfl, rfl⟩
  · exact ⟨⟨[], _⟩, [], rfl, rfl, .inl ⟨rfl, .inl (reachesAny_shortening _ _)⟩⟩
  · rfl
  · rfl

theorem conversion_panics_boxed : ∃ fn, (((new {}).performAll (shortened .any)).finishType oneItem
      (some (.func [] [] false))).result = .ok fn ∧
    ((new {}).performAll (shortened .any)).assemble.Reaches idleHost [] oneItem
      (shortening .any) ∧
    (shortening .any).act.Panics idleHost oneItem (.shortSlice 1 2 false) := by
  obtain ⟨fn, hfin⟩ : ∃ fn, (((new {}).performAll (shortened .any)).finishType oneItem
      (some (.func [] [] false))).result = .ok fn := ⟨_, rfl⟩
  have hreach : ((new {}).performAll (shortened .any)).assemble.Reaches idleHost [] oneItem
      (shortening .any) :=
    ⟨⟨[], _⟩, [], rfl, rfl, .inl ⟨rfl, .inl (reachesAny_shortening _ _)⟩⟩
  obtain ⟨-, hconv⟩ := @conversion_panics _ {} rfl _ _ rfl _ _ _ hfin [] _ _ rfl idleHost
  obtain ⟨-, hiff⟩ := hconv oneItem (shortening .any) _ _ _ hreach rfl
  refine ⟨fn, hfin, hreach, (hiff _).mpr (.inr ⟨⟨someSlice, .int, 2, rfl, rfl, rfl, ?_, rfl⟩, rfl⟩)⟩
  decide

end Compiler

end Tacit
