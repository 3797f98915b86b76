import Mathlib.Data.List.Forall2
import Tacit.Catalogue
import Tacit.Proofs.Compiler.Linearity
import Tacit.Proofs.Program.Soundness
import Tacit.Word.Dictionary

/-!
# Compiled programs and a stack machine

The calls on a compiler can be carried out on the spot, by a machine with a stack of values.

* `Machine`: the stack and the arguments that nothing has used yet. A literal is pushed; a word
  takes its operands off the stack, and arguments once the stack is empty, is called, and its result
  is pushed.
* `Simulates`: what a compiler, the frame of an invocation and a machine have to do with each other
  after the same instructions. Every expression on the compiler's stack denotes the value on the
  machine's stack at its position.
* `Simulates.word`, `Simulates.execAll`: one operation, and then all of them, do what the machine
  does.
* `invoke_eq_machine`: a compiled program does what the machine does with the calls it came from.
-/

namespace Tacit

/-! ### Slots are at their numbers -/

namespace Compiler

variable {letter : String} {slots : List Slot} {s : Slot}

theorem id_numbered {n k : Nat} {ts : List Ty} (h : (numbered letter n ts)[k]? = some s) :
    s.id = n + k := by
  rw [getElem?_numbered] at h
  obtain ⟨t, -, rfl⟩ := Option.map_eq_some_iff.mp h
  rfl

theorem lastIndex?_numbered (h : ∃ ts, slots = numbered letter 0 ts) (hs : s ∈ slots) :
    lastIndex? s slots = some s.id := by
  obtain ⟨ts, rfl⟩ := h
  obtain ⟨i, hi⟩ := (Slot.Listed.of_mem hs).lastIndex?
  obtain ⟨p, hp, hps⟩ := lastIndex?_eq_some hi
  obtain ⟨hid, -⟩ := Slot.is_iff.mp hps
  rw [hi, ← hid, id_numbered hp, Nat.zero_add]

theorem id_lt_length (h : ∃ ts, slots = numbered letter 0 ts) (hs : s ∈ slots) :
    s.id < slots.length := by
  obtain ⟨ts, rfl⟩ := h
  obtain ⟨k, hk⟩ := List.mem_iff_getElem?.mp hs
  obtain ⟨hlt, -⟩ := List.getElem?_eq_some_iff.mp hk
  rw [id_numbered hk, Nat.zero_add]
  exact hlt

/-- What a numbered slot stands for is at its number. -/
theorem lastValue_numbered (h : ∃ ts, slots = numbered letter 0 ts) (hs : s ∈ slots)
    {vs : List Value} {v : Value} (hv : vs[s.id]? = some v) : lastValue s slots vs = pure v := by
  simp only [lastValue, lastIndex?_numbered h hs, hv]
  rfl

end Compiler

/-- The slots of the scope are numbered as those of a compiler are. -/
structure Scope.Numbered (sc : Scope) : Prop where
  params : ∃ ts, sc.params = Compiler.numbered "i" 0 ts
  temps : ∃ ts, sc.temps = Compiler.numbered "o" 0 ts

/-! ### Expressions that denote values -/

/-- The expression, on the stack of a compiler with the given temporaries, stands for the value in a
frame. -/
def Expr.Denotes (temps : List Slot) (fr : Frame) (e : Expr) (v : Value) : Prop :=
  e = .const (some v) ∨
    ∃ s ∈ temps, e = .temp s ∧ s.type = some v.type ∧ fr.temps[s.id]? = some v

/-- What an expression denotes does not depend on later temporaries. -/
theorem Expr.Denotes.extend {temps : List Slot} {fr : Frame} {e : Expr} {v : Value}
    (h : e.Denotes temps fr v) {fr' : Frame} (new : List Slot)
    (hfr : ∀ s ∈ temps, fr'.temps[s.id]? = fr.temps[s.id]?) : e.Denotes (temps ++ new) fr' v := by
  rcases h with rfl | ⟨s, hs, rfl, ht, hv⟩
  · exact .inl rfl
  · exact .inr ⟨s, List.mem_append_left _ hs, rfl, ht, by rw [hfr s hs, hv]⟩

/-! ### The machine -/

/-- A stack of values, the top first, and the arguments that are not used yet. -/
structure Machine where
  stack : List Value
  args : List Value

section

variable [Declarations]

namespace Machine

/-- A value off the stack as an operand of type `t`. -/
def operand (v : Value) (t : Ty) : Run Value :=
  if v.type.needsConversion t then v.cast v.type t else pure v

/-- An operand for each parameter, in order, and the machine that is left. -/
def fill : List Ty → Machine → Run (List Value × Machine)
  | [], m => pure ([], m)
  | t :: ts, ⟨v :: stack, args⟩ => do
    let x ← operand v t
    let (xs, m) ← fill ts ⟨stack, args⟩
    return (x :: xs, m)
  | _ :: ts, ⟨[], a :: args⟩ => do
    let (xs, m) ← fill ts ⟨[], args⟩
    return (a :: xs, m)
  | _ :: _, ⟨[], []⟩ => Run.panic .tooFewOperands

/-- Carries an instruction out. -/
def exec (host : Host) (m : Machine) : Instr → Run Machine
  | .literal v => pure { m with stack := v :: m.stack }
  | .word w => do
    let (xs, m) ← fill w.params m
    let results ← w.fn.call host xs
    match w.result, results with
    | none, _ => pure m
    | some _, v :: _ => pure { m with stack := v :: m.stack }
    | some _, [] => Run.panic .nilDereference

/-- Carries instructions out. -/
def execAll (host : Host) : Machine → List Instr → Run Machine
  | m, [] => pure m
  | m, i :: is => do execAll host (← exec host m i) is

/-- Carries instructions out on arguments, from an empty stack. -/
def run (host : Host) (is : List Instr) (args : List Value) : Run Unit := do
  let _ ← execAll host ⟨[], args⟩ is
  return ()

end Machine

section Operands

variable {sc : Scope} {fr : Frame} {temps : List Slot} {e : Expr} {v : Value}

namespace Expr.Denotes

theorem type (h : e.Denotes temps fr v) : e.type = .ok (some v.type) := by
  rcases h with rfl | ⟨s, -, rfl, ht, -⟩
  · rfl
  · rw [Expr.type, ht]

theorem eval (h : e.Denotes temps fr v) (hsc : sc.Numbered) (hsub : temps ⊆ sc.temps)
    (host : Host) : e.eval host sc fr = pure v := by
  rcases h with rfl | ⟨s, hs, rfl, -, hv⟩
  · rw [Expr.eval]
  · rw [Expr.eval, Compiler.lastValue_numbered hsc.temps (hsub hs) hv]

end Expr.Denotes

/-! ### Operands -/

/-- An expression in its conversion does what the machine does with the value of the expression. -/
theorem eval_coerce {host : Host} (hs : e.type = .ok (some v.type))
    (he : e.eval host sc fr = pure v) (t : Ty) :
    (Compiler.coerce e t).eval host sc fr = Machine.operand v t := by
  rw [Compiler.coerce_of_type hs, Machine.operand]
  split
  · rw [Expr.eval, he, pure_bind, hs]
  · exact he

/-- **Filling the parameters of a word is evaluating its operands**: the same conversions, in the
same order, and arguments where the stack has run out. -/
theorem fill_eq (hsc : sc.Numbered) (hsub : temps ⊆ sc.temps)
    (hlen : fr.params.length = sc.params.length) (host : Host) : ∀ (ts : List Ty)
    {stack : List Expr} {vs : List Value} (n : Nat),
    List.Forall₂ (Expr.Denotes temps fr) stack vs →
    Compiler.numbered "i" n (ts.drop stack.length) ⊆ sc.params →
    Machine.fill ts ⟨vs, fr.params.drop n⟩ =
      Expr.evalAll host sc fr (List.zipWith Compiler.coerce stack ts ++
        (Compiler.numbered "i" n (ts.drop stack.length)).map .param) >>= fun xs =>
      pure (xs, ⟨vs.drop ts.length, fr.params.drop (n + (ts.length - stack.length))⟩)
  | [], stack, vs, n, _, _ => by
      simp [Machine.fill, Compiler.numbered, Expr.evalAll]
  | t :: ts, [], _, n, .nil, hfresh => by
      -- the parameter takes the argument at the number of its input
      have hmem := hfresh List.mem_cons_self
      have hn : n < fr.params.length := by
        rw [hlen]
        exact Compiler.id_lt_length hsc.params hmem
      have heval : (Expr.param ⟨n, some t, "i" ++ Nat.repr n⟩).eval host sc fr =
          pure (fr.params.get ⟨n, hn⟩) := by
        rw [Expr.eval]
        exact Compiler.lastValue_numbered hsc.params hmem (List.getElem?_eq_getElem hn)
      have htail := fill_eq hsc hsub hlen host ts (n + 1) .nil fun x hx =>
        hfresh (List.mem_cons_of_mem _ hx)
      have hnext : n + 1 + ts.length = n + (ts.length + 1) := by omega
      rw [List.drop_eq_getElem_cons hn, Machine.fill, htail]
      simp [Compiler.numbered, Expr.evalAll, heval, hnext]
  | t :: ts, e :: stack, v :: vs, n, .cons he hstack, hfresh => by
      have htail := fill_eq hsc hsub hlen host ts n hstack hfresh
      rw [Machine.fill, htail]
      simp [Expr.evalAll, eval_coerce he.type (he.eval hsc hsub host)]

end Operands

/-! ### The simulation -/

/-- A compiler, the frame of an invocation and a machine after the same instructions. The scope is
that of the finished program. -/
structure Simulates (sc : Scope) (c : Compiler) (fr : Frame) (m : Machine) : Prop where
  scope : sc.Numbered
  formed : c.Formed
  typed : fr.Typed sc
  args : m.args = fr.params.drop c.inputs.length
  stack : List.Forall₂ (Expr.Denotes c.temps fr) c.stack m.stack

theorem Value.stored_self (v : Value) : v.stored v.type = v.data := by
  simp [Value.stored, Ty.sameRepresentation]

namespace Simulates

variable {sc : Scope} {c : Compiler} {fr : Frame} {m : Machine} {w : Word}

theorem literal (h : Simulates sc c fr m) (v : Value) :
    Simulates sc (c.add (.literal v)) fr { m with stack := v :: m.stack } :=
  ⟨h.scope, h.formed.add (.literal v), h.typed, h.args, .cons (.inl rfl) h.stack⟩

/-- The machine takes the operands of a word as the operation of the word does. -/
theorem fill (h : Simulates sc c fr m) (hin : c.fresh w ⊆ sc.params) (hsub : c.temps ⊆ sc.temps)
    (host : Host) :
    Machine.fill w.params m = Expr.evalAll host sc fr (c.operands w) >>= fun xs =>
      pure (xs, ⟨m.stack.drop w.params.length, fr.params.drop (c.inputs ++ c.fresh w).length⟩) := by
  have hlen : fr.params.length = sc.params.length := by
    simpa using (congrArg List.length h.typed.params).symm
  have hfill := fill_eq h.scope hsub hlen host w.params c.inputs.length h.stack hin
  rw [← h.args] at hfill
  rw [List.length_append, Compiler.fresh, Compiler.length_numbered, List.length_drop]
  exact hfill

/-- After a word that yields nothing. -/
theorem effect (h : Simulates sc c fr m) (hw : c.newTemp w = []) :
    Simulates sc (c.add (.word w)) fr
      ⟨m.stack.drop w.params.length, fr.params.drop (c.inputs ++ c.fresh w).length⟩ := by
  refine ⟨h.scope, h.formed.add (.word w), h.typed, by rw [Compiler.inputs_add_word], ?_⟩
  rw [Compiler.temps_add_word, Compiler.stack_add_word, hw, List.append_nil, List.map_nil,
    List.nil_append]
  exact List.forall₂_drop _ h.stack

/-- After a word whose result is stored in its temporary. -/
theorem result (h : Simulates sc c fr m) {s : Slot} (hw : c.newTemp w = [s]) (hs : s ∈ sc.temps)
    {v : Value} (hv : s.type = some v.type) : ∃ fr', fr.store s.id v = .ok fr' ∧
      Simulates sc (c.add (.word w)) fr' ⟨v :: m.stack.drop w.params.length,
        fr.params.drop (c.inputs ++ c.fresh w).length⟩ := by
  have hlast := Compiler.lastIndex?_numbered h.scope.temps hs
  obtain ⟨old, hold, hty⟩ := lastIndex?_typed h.typed.temps hlast hv
  have hstore : fr.store s.id v = .ok { fr with temps := fr.temps.set s.id v } := by
    simp only [Frame.store, hold, hty, v.type.assignable_self, v.stored_self, if_true]
  have htyped : ({ fr with temps := fr.temps.set s.id v } : Frame).Typed sc := by
    obtain ⟨fr', hfr', htyped⟩ := Frame.store_typed h.typed hlast hv v.type.assignable_self
    rw [hstore] at hfr'
    cases hfr'
    exact htyped
  have hid : s.id = c.temps.length := by
    have hs0 : (c.newTemp w)[0]? = some s := by rw [hw]; rfl
    exact Compiler.id_numbered hs0
  refine ⟨_, hstore, h.scope, h.formed.add (.word w), htyped, by rw [Compiler.inputs_add_word], ?_⟩
  rw [Compiler.temps_add_word, Compiler.stack_add_word, hw]
  refine .cons (.inr ⟨s, List.mem_append_right _ List.mem_cons_self, rfl, hv, ?_⟩) ?_
  · exact List.getElem?_set_self (List.getElem?_eq_some_iff.mp hold).1
  · -- the temporaries that were there keep what they hold
    refine (List.forall₂_drop _ h.stack).imp fun e x hx => hx.extend [s] fun s' hs' => ?_
    have hlt := Compiler.id_lt_length h.formed.temps hs'
    exact List.getElem?_set_ne (by omega)

/-- **One word.** Its operation does what the machine does with the word, whatever comes after. -/
theorem word (h : Simulates sc c fr m) (hw : w.Valid)
    (hin : (c.add (.word w)).inputs ⊆ sc.params) (hsub : (c.add (.word w)).temps ⊆ sc.temps)
    (host : Host) {α : Type} {k : Frame → Run α} {k' : Machine → Run α}
    (hk : ∀ fr' m', Simulates sc (c.add (.word w)) fr' m' → k fr' = k' m') :
    (c.operation w).exec host sc fr >>= k = Machine.exec host m (.word w) >>= k' := by
  rw [Compiler.inputs_add_word] at hin
  rw [Compiler.temps_add_word] at hsub
  have hfill := h.fill (fun x hx => hin (List.mem_append_right _ hx))
    (fun x hx => hsub (List.mem_append_left _ hx)) host
  have hfn : (Expr.const (some w.fn)).eval host sc fr = pure w.fn := by rw [Expr.eval]
  have hopen : (c.operands w).any Expr.isSealed = false := Expr.any_isSealed (h.formed.isOperand w)
  obtain ⟨hf, code, captured, hd⟩ := hw.func
  -- both sides evaluate the operands and call the func; they differ in what becomes of its result
  rcases Compiler.operation_cases c w with ⟨hres, hnew, hop⟩ | ⟨s, t, hres, hs, hnew, hop⟩
  · rw [hop, Expr.exec, Machine.exec, hfill, hfn, hres, hopen]
    simp only [bind_assoc, pure_bind, Expr.isSealed, Value.handOver_open]
    refine bind_congr fun xs => bind_congr fun results => ?_
    exact hk _ _ (h.effect hnew)
  · rw [hop, Expr.exec, Machine.exec, hfill, Expr.eval, hfn, hres, hopen]
    simp only [bind_assoc, pure_bind, Expr.isSealed, Value.handOver_open]
    refine bind_congr fun xs => ?_
    rw [hres] at hf
    rw [Value.call_eq hd hf]
    simp only [bind_assoc, pure_bind]
    refine bind_congr fun ds => bind_congr fun ds' => ?_
    cases ds' with
    | nil => rfl
    | cons d ds' =>
        have hmem : s ∈ sc.temps := hsub (List.mem_append_right _ (hnew ▸ List.mem_cons_self))
        have hlast := Compiler.lastIndex?_numbered h.scope.temps hmem
        obtain ⟨fr', hstore, hsim⟩ := h.result hnew hmem (v := ⟨t, d⟩) hs
        simp only [hlast, List.zipWith_cons_cons, Option.toList_some, pure_bind, hstore,
          Run.ofExcept_ok, Bool.false_eq_true, if_false]
        exact hk _ _ hsim

/-- **All instructions.** Their operations do what the machine does with them. -/
theorem execAll (host : Host) : ∀ (is : List Instr) {c : Compiler} {fr : Frame} {m : Machine},
    Simulates sc c fr m → (∀ i ∈ is, i.Valid) →
    (c.addAll is).inputs = sc.params → (c.addAll is).temps = sc.temps →
    (Expr.execAll host sc fr (c.operations is) >>= fun _ => pure ()) =
      (Machine.execAll host m is >>= fun _ => pure ())
  | [], c, fr, m, _, _, _, _ => by
      rw [Compiler.operations, Expr.execAll, Machine.execAll, pure_bind, pure_bind]
  | .literal v :: is, c, fr, m, h, hv, hin, ht => by
      rw [Compiler.operations, Machine.execAll, Machine.exec, pure_bind]
      exact execAll host is (h.literal v) (fun i hi => hv i (List.mem_cons_of_mem _ hi)) hin ht
  | .word w :: is, c, fr, m, h, hv, hin, ht => by
      obtain ⟨hpi, hpt⟩ := Compiler.slots_addAll is (c.add (.word w))
      rw [Compiler.operations, Expr.execAll, Machine.execAll, bind_assoc, bind_assoc]
      refine h.word (hv _ List.mem_cons_self) (hin ▸ hpi.subset) (ht ▸ hpt.subset) host
        fun fr' m' h' => ?_
      exact execAll host is h' (fun i hi => hv i (List.mem_cons_of_mem _ hi)) hin ht

end Simulates

/-! ### Compiled programs -/

namespace Compiler

theorem routineRealizer_ok {l : Lambda} {sig : Option Ty} {fn : Callable}
    (h : routineRealizer l sig = .ok fn) :
    ∃ r, l.realize sig = .ok r ∧ ∀ host args, fn.invoke host args = r.invoke host args := by
  obtain ⟨r, hr, h⟩ := Check.bind_eq_ok.mp h
  cases Check.pure_eq_ok.mp h
  exact ⟨r, hr, fun _ _ => rfl⟩

/-- A program that is finished was realized. -/
theorem realize_of_finishType {settings : Settings} (hreal : settings.realizer = routineRealizer)
    {calls : List Call} {c : Compiler} (hc : (new settings).performAll calls = c) {st : Store}
    {sig : Option Ty} {fn : Callable} (hfin : (c.finishType st sig).result = .ok fn) :
    ∃ r, c.assemble.realize sig = .ok r ∧
      ∀ host args, fn.invoke host args = r.invoke host args := by
  rcases finishType_cases c st sig with ⟨⟨f, hf⟩, -⟩ | ⟨-, fn', hfn', h, -⟩
  · rw [hfin] at hf
    cases hf
  · rw [hfin] at hfn'
    cases hfn'
    have hsettings : c.settings.realizer = routineRealizer := by
      rw [← hc, settings_performAll]
      exact hreal
    rw [hsettings] at h
    exact routineRealizer_ok h

/-- The program of instructions does what the machine does with them. -/
theorem run_eq_machine {settings : Settings} {is : List Instr} (hv : ∀ i ∈ is, i.Valid)
    {args : List Value} (hargs : ((new settings).addAll is).assemble.paramTypes =
      args.map (some ·.type)) (host : Host) :
    ((new settings).addAll is).assemble.run host args = Machine.run host is args := by
  have hformed := (formed_new settings).addAll is
  have hops : ((new settings).addAll is).ops = (new settings).operations is :=
    (ops_addAll is (new settings)).trans (List.nil_append _)
  obtain ⟨temps, hunset⟩ : ∃ temps,
      (((new settings).addAll is).temps.map (·.type)).mapM unsetTemp = .ok temps := by
    refine unsetTemps_ok fun t ht => ?_
    obtain ⟨ts, hts⟩ := hformed.temps
    rw [hts, types_numbered] at ht
    obtain ⟨u, -, rfl⟩ := List.mem_map.mp ht
    exact Option.some_ne_none u
  have hstart : Simulates ((new settings).addAll is).assemble.scope (new settings) ⟨args, temps⟩
      ⟨[], args⟩ :=
    ⟨⟨hformed.inputs, hformed.temps⟩, formed_new settings, ⟨hargs, unsetTemps_types hunset⟩, rfl,
      .nil⟩
  have hsim := hstart.execAll host is hv rfl rfl
  rw [← hops] at hsim
  rw [Lambda.run, Machine.run]
  simp only [assemble, hunset, Run.ofExcept_ok, pure_bind]
  exact hsim

/-- **Compiler correctness.** Let calls on a new compiler succeed, and let the program be finished
under a signature. Whatever the funcs it calls do, invoking the program with arguments of the
signature's parameter types is carrying the calls out on a stack machine: from every store it gives
rise to the same events, leaves the same store, and returns or panics alike. -/
theorem invoke_eq_machine {settings : Settings} (hreal : settings.realizer = routineRealizer)
    {calls : List Call} (hcalls : (new settings).Succeed calls) {c : Compiler}
    (hc : (new settings).performAll calls = c) {st : Store} {sig : Option Ty} {fn : Callable}
    (hfin : (c.finishType st sig).result = .ok fn) {args : List Value} {rs : List Ty} {b : Bool}
    (hargs : sig.bind Ty.func? = some (args.map (·.type), rs, b)) (host : Host) :
    fn.invoke host args = Machine.run host (calls.filterMap Call.instr?) args := by
  have hassemble := assemble_performAll calls (new settings)
  have hvalid := carriedOut_valid calls (new settings)
  rw [carriedOut_of_succeed hcalls] at hassemble hvalid
  rw [hc] at hassemble
  have hrealized : routineRealizer c.assemble sig = .ok fn := by
    rcases finishType_cases c st sig with ⟨⟨f, hf⟩, -⟩ | ⟨-, fn', hfn', h, -⟩
    · rw [hfin] at hf
      cases hf
    · rw [hfin] at hfn'
      cases hfn'
      rw [← hc, settings_performAll, hc] at h
      rw [← h]
      exact congrArg (fun r : Realizer => r c.assemble sig) hreal.symm
  obtain ⟨r, hr, hinvoke⟩ := routineRealizer_ok hrealized
  rw [hassemble] at hr
  obtain ⟨-, -, hsig, -, -⟩ := Lambda.realize_ok hr
  have htypes := paramTypes_of_checkSignature hsig hargs
  rw [List.map_map] at htypes
  rw [hinvoke, invoke_eq_run hr, run_eq_machine hvalid htypes]

end Compiler

end

namespace Compiler

open scoped Catalogue

/-- An integer in an interface, a word that takes it out, and a word that takes the result and an
argument. -/
def unboxing : List Call :=
  [.push (some ⟨.int, .int 3⟩) (some .any),
    .apply (Dictionary.host []) (some ⟨.func [.int] [.int] false, .func 0 []⟩),
    .apply (Dictionary.host []) (some ⟨.func [.any, .string] [] false, .func 1 []⟩)]

theorem invoke_eq_machine_unboxing : (new {}).Succeed unboxing ∧ ∃ fn,
    (((new {}).performAll unboxing).finishType .empty (some (.func [.string] [] false))).result =
      .ok fn ∧
    fn.invoke (Dictionary.host [.described "same" [.int] [.int] false (.operand 0),
      .described "show" [.any, .string] [] false .zero]) [⟨.string, .text [104, 105]⟩] =
    Machine.run (Dictionary.host [.described "same" [.int] [.int] false (.operand 0),
      .described "show" [.any, .string] [] false .zero]) (unboxing.filterMap Call.instr?)
      [⟨.string, .text [104, 105]⟩] := by
  have hsucceed : (new {}).Succeed unboxing := ⟨rfl, rfl, rfl, trivial⟩
  obtain ⟨fn, hfin⟩ : ∃ fn, (((new {}).performAll unboxing).finishType .empty
      (some (.func [.string] [] false))).result = .ok fn := ⟨_, rfl⟩
  exact ⟨hsucceed, fn, hfin, invoke_eq_machine rfl hsucceed rfl hfin rfl _⟩

end Compiler

end Tacit
