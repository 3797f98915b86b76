import Mathlib.Data.List.Nodup
import Tacit.Proofs.Compiler.Calls

/-!
# Every value is used once

What a compiler has produced is in one place: it waits on the stack, or it is an operand of one
operation.

* `Compiler.places`: everything on the stack and every operand, out of its conversion if it has one.
* `Compiler.Used`: the places are, in some order, the literals that were pushed, the temporaries and
  the inputs, each once; the operations assign the temporaries in order, each before it is used.
* `Compiler.Linear`: the invariant. With that, the slots have different names, and no input is on
  the stack.
* `performAll_linear`: the invariant holds after any run of calls, refused ones among them.
-/

namespace Tacit

/-! ### Places -/

/-- The operands of an operation. -/
def Expr.operands : Expr → List Expr
  | .invoke _ _ operands | .assign _ (.invoke _ _ operands) => operands
  | _ => []

/-- The temporary that an operation assigns. -/
def Expr.dst? : Expr → Option Slot
  | .assign dst _ => some dst
  | _ => none

/-- An operand out of its conversion, if it is in one. -/
def Expr.bare : Expr → Expr
  | .convert x _ => x
  | e => e

/-- The constant that an operand is. -/
def Expr.literal? (e : Expr) : Option Value :=
  match e.bare with
  | .const v => v
  | _ => none

/-- An operand as compilation makes them: an input, or a literal or a temporary in at most one
conversion. -/
def Expr.IsOperand (e : Expr) : Prop :=
  (∃ s, e = .param s) ∨ ∃ x, ((∃ v, x = .const (some v)) ∨ ∃ s, x = .temp s) ∧
    (e = x ∨ ∃ t, e = .convert x (some t))

/-- What compilation makes is never sealed. -/
theorem Expr.IsOperand.isSealed {e : Expr} (h : e.IsOperand) : e.isSealed = false := by
  rcases h with ⟨s, rfl⟩ | ⟨x, ⟨v, rfl⟩ | ⟨s, rfl⟩, rfl | ⟨t, rfl⟩⟩ <;> rfl

theorem Expr.any_isSealed {es : List Expr} (h : ∀ e ∈ es, e.IsOperand) :
    es.any Expr.isSealed = false := by
  rw [List.any_eq_false]
  intro e he
  rw [(h e he).isSealed]
  exact Bool.false_ne_true

/-- An operation as compilation makes them: the call of a func on such operands, with or without an
assignment of its result. -/
def Expr.IsApplication (e : Expr) : Prop :=
  ∃ name fn operands, (e = .invoke name (.const (some fn)) operands ∨
    ∃ dst, e = .assign dst (.invoke name (.const (some fn)) operands)) ∧
    ∀ x ∈ operands, x.IsOperand

/-- The literal that an instruction pushes. -/
def Instr.literal? : Instr → Option Value
  | literal v => some v
  | word _ => none

namespace Compiler

/-- Where values are: on the stack, or as operands. -/
def places (c : Compiler) : List Expr :=
  c.stack ++ c.ops.flatMap fun op => op.operands.map Expr.bare

/-- Every one of the `literals`, the temporaries and the inputs is in one place. -/
structure Used (literals : List Value) (c : Compiler) : Prop where
  ops : ∀ op ∈ c.ops, op.IsApplication
  places : c.places.Perm
    (literals.map (fun v => .const (some v)) ++ c.temps.map .temp ++ c.inputs.map .param)
  /-- The operations assign each temporary once, in order. -/
  assigned : c.ops.filterMap Expr.dst? = c.temps
  /-- An operation that uses a temporary comes after the one that assigns it. -/
  order : ∀ (k : Nat) (op : Expr) (s : Slot), c.ops[k]? = some op →
    .temp s ∈ op.operands.map Expr.bare → ∃ j < k, ∃ src, c.ops[j]? = some (.assign s src)

/-- Every value is used once, and no slot is declared twice. -/
structure Linear (literals : List Value) (c : Compiler) : Prop extends Used literals c where
  input_names : c.inputs.map (·.name) =
    (List.range c.inputs.length).map fun k => "i" ++ Nat.repr k
  temp_names : c.temps.map (·.name) = (List.range c.temps.length).map fun k => "o" ++ Nat.repr k
  inputs_nodup : c.inputs.Nodup
  temps_nodup : c.temps.Nodup
  /-- Inputs are never on the stack. -/
  stack : ∀ e ∈ c.stack, OnStack c.temps e

theorem map_bare_param (slots : List Slot) :
    (slots.map Expr.param).map Expr.bare = slots.map Expr.param := by
  rw [List.map_map]
  rfl

theorem names_numbered (letter : String) (ts : List Ty) : (numbered letter 0 ts).map (·.name) =
    (List.range (numbered letter 0 ts).length).map fun k => letter ++ Nat.repr k := by
  refine List.ext_getElem? fun k => ?_
  rw [List.getElem?_map, List.getElem?_map, getElem?_numbered, length_numbered]
  by_cases hk : k < ts.length
  · simp [hk]
  · simp [hk]

theorem nodup_numbered (letter : String) (ts : List Ty) : (numbered letter 0 ts).Nodup := by
  refine List.nodup_iff_getElem?_ne_getElem?.mpr fun i j hij hj => ?_
  rw [length_numbered] at hj
  rw [getElem?_numbered, getElem?_numbered, List.getElem?_eq_getElem hj,
    List.getElem?_eq_getElem (by omega)]
  simp
  omega

theorem used_new (settings : Settings) : (new settings).Used [] :=
  ⟨by simp [new], by simp [new, Compiler.places], rfl, by simp [new]⟩

/-- A temporary that exists was assigned by an operation. -/
theorem Used.exists_assign {literals : List Value} {c : Compiler} (h : c.Used literals) {s : Slot}
    (hs : s ∈ c.temps) : ∃ j < c.ops.length, ∃ src, c.ops[j]? = some (.assign s src) := by
  rw [← h.assigned, List.mem_filterMap] at hs
  obtain ⟨op, hop, hdst⟩ := hs
  obtain ⟨j, hj, rfl⟩ := List.mem_iff_getElem.mp hop
  refine ⟨j, hj, ?_⟩
  rw [List.getElem?_eq_getElem hj]
  cases hop' : c.ops[j] with
  | assign dst src =>
      rw [hop'] at hdst
      cases hdst
      exact ⟨src, rfl⟩
  | missing | const | sealed | param | temp | invoke | convert | block =>
      rw [hop'] at hdst
      cases hdst

/-! ### The literals of a run -/

variable [Declarations]

/-- The literals that calls push, without the calls that are refused. -/
def pushed (c : Compiler) (calls : List Call) : List Value :=
  (c.carriedOut calls).filterMap Instr.literal?

/-! ### The operation of a word -/

theorem coerce_cases (e : Expr) (t : Ty) : coerce e t = e ∨ coerce e t = .convert e (some t) := by
  unfold coerce
  split
  · split
    · exact .inr rfl
    · exact .inl rfl
  · exact .inl rfl

theorem OnStack.bare_coerce {temps : List Slot} {e : Expr} (h : OnStack temps e) (t : Ty) :
    (coerce e t).bare = e := by
  rcases coerce_cases e t with hc | hc
  · rw [hc]
    rcases h with ⟨v, rfl⟩ | ⟨s, -, rfl⟩ <;> rfl
  · rw [hc]
    rfl

theorem OnStack.isOperand_coerce {temps : List Slot} {e : Expr} (h : OnStack temps e) (t : Ty) :
    (coerce e t).IsOperand := by
  have hx : (∃ v, e = .const (some v)) ∨ ∃ s, e = .temp s := by
    rcases h with hv | ⟨s, -, hs⟩
    · exact .inl hv
    · exact .inr ⟨s, hs⟩
  rcases coerce_cases e t with hc | hc
  · exact .inr ⟨e, hx, .inl hc⟩
  · exact .inr ⟨e, hx, .inr ⟨t, hc⟩⟩

/-- The values that a word takes off the stack are its first operands, out of their conversions. -/
theorem map_bare_zipWith {temps : List Slot} : ∀ {stack : List Expr} {ts : List Ty},
    (∀ e ∈ stack, OnStack temps e) →
    (List.zipWith coerce stack ts).map Expr.bare = stack.take ts.length
  | [], _, _ => by simp
  | _ :: _, [], _ => by simp
  | e :: stack, t :: ts, h => by
      rw [List.zipWith_cons_cons, List.map_cons, List.length_cons, List.take_succ_cons,
        (h e List.mem_cons_self).bare_coerce,
        map_bare_zipWith fun e' he' => h e' (List.mem_cons_of_mem _ he')]

theorem operands_operation (c : Compiler) (w : Word) : (c.operation w).operands = c.operands w := by
  rcases operation_cases c w with ⟨-, -, h⟩ | ⟨s, t, -, -, -, h⟩ <;> rw [h] <;> rfl

theorem dst?_operation (c : Compiler) (w : Word) : (c.operation w).dst?.toList = c.newTemp w := by
  rcases operation_cases c w with ⟨-, h', h⟩ | ⟨s, t, -, -, h', h⟩ <;> rw [h, h'] <;> rfl

theorem Formed.map_bare_operands {c : Compiler} (h : c.Formed) (w : Word) :
    (c.operands w).map Expr.bare =
      c.stack.take w.params.length ++ (c.fresh w).map .param := by
  rw [operands, List.map_append, map_bare_zipWith h.stack, map_bare_param]

theorem Formed.isOperand {c : Compiler} (h : c.Formed) (w : Word) :
    ∀ x ∈ c.operands w, x.IsOperand := by
  intro x hx
  rcases List.mem_append.mp hx with hx | hx
  · obtain ⟨k, hk, rfl⟩ := List.mem_iff_getElem.mp hx
    rw [List.getElem_zipWith]
    exact (h.stack _ (List.getElem_mem _)).isOperand_coerce _
  · obtain ⟨s, -, rfl⟩ := List.mem_map.mp hx
    exact .inl ⟨s, rfl⟩

theorem Formed.isApplication_operation {c : Compiler} (h : c.Formed) (w : Word) :
    (c.operation w).IsApplication := by
  refine ⟨w.name, w.fn, c.operands w, ?_, h.isOperand w⟩
  rcases operation_cases c w with ⟨-, -, h⟩ | ⟨s, t, -, -, -, h⟩
  · exact .inl h
  · exact .inr ⟨s, h⟩

/-! ### The invariant -/

theorem Used.literal {literals : List Value} {c : Compiler} (h : c.Used literals) (v : Value) :
    (c.add (.literal v)).Used (literals ++ [v]) := by
  refine ⟨h.ops, ?_, h.assigned, h.order⟩
  have hp : (c.add (.literal v)).places.Perm (.const (some v) :: (literals.map
      (fun v => .const (some v)) ++ c.temps.map .temp ++ c.inputs.map .param)) :=
    h.places.cons _
  refine hp.trans ?_
  simp only [List.map_append, List.map_cons, List.map_nil, List.append_assoc, List.cons_append,
    List.nil_append]
  exact List.perm_middle.symm

open List in
/-- A word moves the values it takes from the stack to the new operation, and adds its own inputs
and its temporary. -/
theorem places_word {c : Compiler} (hc : c.Formed) (w : Word) :
    (c.add (.word w)).places.Perm
      (c.places ++ (c.newTemp w).map .temp ++ (c.fresh w).map .param) := by
  rw [add_word]
  simp only [places, List.flatMap_append, List.flatMap_cons, List.flatMap_nil, List.append_nil,
    operands_operation, hc.map_bare_operands]
  generalize (c.newTemp w).map Expr.temp = new, (c.fresh w).map Expr.param = ins,
    c.ops.flatMap (fun op => op.operands.map Expr.bare) = used, w.params.length = n
  -- what is taken moves to the front, before everything that stays, and the new temporary behind it
  calc new ++ c.stack.drop n ++ (used ++ (c.stack.take n ++ ins))
    _ ~ new ++ (c.stack.drop n ++ used) ++ c.stack.take n ++ ins := .of_eq (by simp)
    _ ~ c.stack.take n ++ (new ++ (c.stack.drop n ++ used)) ++ ins :=
      perm_append_comm.append_right ins
    _ ~ c.stack.take n ++ (c.stack.drop n ++ used ++ new) ++ ins :=
      (perm_append_comm.append_left _).append_right ins
    _ ~ c.stack ++ used ++ new ++ ins := .of_eq (by
      rw [← append_assoc, ← append_assoc, take_append_drop])

theorem Used.word {literals : List Value} {c : Compiler} (hc : c.Formed) (h : c.Used literals)
    (w : Word) : (c.add (.word w)).Used literals := by
  have hplaces := places_word hc w
  rw [add_word] at hplaces ⊢
  refine ⟨fun op hop => ?_, hplaces.trans ?_, ?_, fun k op s hk hs => ?_⟩
  · rcases List.mem_append.mp hop with hop | hop
    · exact h.ops op hop
    · rw [List.mem_singleton.mp hop]
      exact hc.isApplication_operation w
  · rw [List.map_append, List.map_append]
    refine ((h.places.append_right _).append_right _).trans ?_
    simp only [List.append_assoc]
    refine (List.Perm.append_left _ (List.Perm.append_left _ ?_))
    rw [← List.append_assoc, ← List.append_assoc]
    exact List.perm_append_comm.append_right _
  · rw [List.filterMap_append, h.assigned, ← dst?_operation]
    cases hdst : (c.operation w).dst? <;> simp [hdst]
  · -- the new operation is the last one; what it takes from the stack was assigned before it
    rcases Nat.lt_or_ge k c.ops.length with hlt | hge
    · rw [List.getElem?_append_left hlt] at hk
      obtain ⟨j, hj, src, hsrc⟩ := h.order k op s hk hs
      exact ⟨j, hj, src, by rw [List.getElem?_append_left (by omega), hsrc]⟩
    · rw [List.getElem?_append_right hge, List.getElem?_singleton] at hk
      split at hk
      · rename_i hk0
        cases hk
        rw [operands_operation, hc.map_bare_operands] at hs
        have hs' : .temp s ∈ c.stack := by
          rcases List.mem_append.mp hs with hs | hs
          · exact List.mem_of_mem_take hs
          · obtain ⟨p, -, hp⟩ := List.mem_map.mp hs
            cases hp
        obtain ⟨s', hs', he⟩ : ∃ s' ∈ c.temps, Expr.temp s = .temp s' := by
          rcases hc.stack _ hs' with ⟨v, hv⟩ | hs'
          · cases hv
          · exact hs'
        cases he
        obtain ⟨j, hj, src, hsrc⟩ := h.exists_assign hs'
        exact ⟨j, by omega, src, by rw [List.getElem?_append_left hj, hsrc]⟩
      · cases hk

theorem Used.addAll {literals : List Value} {c : Compiler} (hc : c.Formed) (h : c.Used literals)
    (is : List Instr) : (c.addAll is).Used (literals ++ is.filterMap Instr.literal?) := by
  induction is generalizing c literals with
  | nil =>
      rw [List.filterMap_nil, List.append_nil]
      exact h
  | cons i is ih =>
      cases i with
      | literal v =>
          have hv := ih (hc.add (.literal v)) (h.literal v)
          rw [List.append_assoc] at hv
          exact hv
      | word w => exact ih (hc.add (.word w)) (h.word hc w)

/-- **Every value is used once.** After any run of calls on a new compiler, refused ones among them,
the literals that were pushed, the temporaries and the inputs are each in one place. -/
theorem performAll_linear (settings : Settings) (calls : List Call) :
    ((new settings).performAll calls).Linear ((new settings).pushed calls) := by
  obtain ⟨b, hb⟩ := performAll_eq calls (new settings)
  have hc := (formed_new settings).addAll ((new settings).carriedOut calls)
  have hu := (used_new settings).addAll (formed_new settings) ((new settings).carriedOut calls)
  rw [hb]
  obtain ⟨ts, hts⟩ := hc.inputs
  obtain ⟨us, hus⟩ := hc.temps
  exact {
    hu with
    input_names := by rw [hts]; exact names_numbered "i" ts
    temp_names := by rw [hus]; exact names_numbered "o" us
    inputs_nodup := by rw [hts]; exact nodup_numbered "i" ts
    temps_nodup := by rw [hus]; exact nodup_numbered "o" us
    stack := hc.stack }

end Compiler

end Tacit
