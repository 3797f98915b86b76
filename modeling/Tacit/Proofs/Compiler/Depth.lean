import Tacit.Catalogue
import Tacit.Proofs.Compiler.Supply

/-!
# How deep the stack is and how many inputs there are

An instruction takes values and leaves values; what it finds missing becomes an input. Both numbers
after a run of calls can be told from these counts alone.

* `Instr.takes`, `Instr.leaves`: the two counts of an instruction; `Instr.total` adds them up.
* `Instr.shortfalls`: for every instruction, what it and those before it take, less what those
  before it leave. The largest of them is how deep a stack has to be for no input to be needed:
  `length_demands` has it by induction from `largest_cons`.
* `Compiler.unmet`: the types of the parameters that find the stack empty, along a run.
* `depth_and_inputs`: the depth and the inputs after any run of calls, in closed form.
-/

namespace Tacit

namespace Instr

/-- The number of values that the instruction takes. -/
def takes : Instr → Int
  | literal _ => 0
  | word w => w.arity

/-- The number of values that the instruction leaves. -/
def leaves : Instr → Int
  | literal _ => 1
  | word w => if w.producing then 1 else 0

/-- A count of instructions, added up. -/
def total (count : Instr → Int) (is : List Instr) : Int := (is.map count).foldr (· + ·) 0

/-- For each instruction, what it and those before it take, less what those before it leave. -/
def shortfalls (is : List Instr) : List Int :=
  (List.range is.length).map fun k => total takes (is.take (k + 1)) - total leaves (is.take k)

/-- The types of the parameters of the instruction. -/
def params : Instr → List Ty
  | literal _ => []
  | word w => w.params

@[simp] theorem total_nil (count : Instr → Int) : total count [] = 0 := rfl

@[simp] theorem total_cons (count : Instr → Int) (i : Instr) (is : List Instr) :
    total count (i :: is) = count i + total count is := rfl

theorem takes_eq (i : Instr) : i.takes = i.params.length := by
  cases i <;> rfl

theorem leaves_nonneg (i : Instr) : 0 ≤ i.leaves := by
  cases i with
  | literal v => exact Int.zero_le_ofNat 1
  | word w =>
      rw [leaves]
      split <;> decide

theorem demand_eq (d : Nat) (i : Instr) : i.demand d = i.params.drop d := by
  cases i with
  | literal v => exact List.drop_nil.symm
  | word w => rfl

/-- What is on the stack afterwards, from the two counts. -/
theorem depthAfter_eq (d : Nat) (i : Instr) :
    (i.depthAfter d : Int) = i.leaves + (d - i.params.length : Nat) := by
  cases i with
  | literal v =>
      simp only [depthAfter, leaves, params, List.length_nil]
      omega
  | word w =>
      rw [depthAfter, leaves, params, Word.producing]
      cases w.result <;> simp

/-! ### The largest shortfall -/

theorem shortfalls_cons (i : Instr) (is : List Instr) : shortfalls (i :: is) =
    i.takes :: (shortfalls is).map (i.takes - i.leaves + ·) := by
  simp only [shortfalls, List.length_cons, List.range_succ_eq_map, List.map_cons, List.map_map]
  refine List.cons_eq_cons.mpr ⟨by simp, List.map_congr_left fun k _ => ?_⟩
  simp only [Function.comp_apply, Nat.succ_eq_add_one, List.take_succ_cons, total_cons]
  omega

/-- The largest of some numbers that are all moved by `x`, next to one that is no smaller than `x`
or zero. -/
theorem max_foldr_add {x y : Int} (hx : x ≤ y) (hy : 0 ≤ y) (ns : List Int) :
    max y ((ns.map (x + ·)).foldr max 0) = max y (x + ns.foldr max 0) := by
  induction ns with
  | nil =>
      simp only [List.map_nil, List.foldr_nil]
      omega
  | cons n ns ih =>
      simp only [List.map_cons, List.foldr_cons]
      omega

/-- What the first instruction takes, or what those after it lack of what it leaves. -/
theorem largest_cons (i : Instr) (is : List Instr) : (shortfalls (i :: is)).foldr max 0 =
    max i.takes (i.takes - i.leaves + (shortfalls is).foldr max 0) := by
  have hleaves := i.leaves_nonneg
  have htakes : 0 ≤ i.takes := by
    rw [takes_eq]
    exact Int.natCast_nonneg _
  rw [shortfalls_cons, List.foldr_cons, max_foldr_add (by omega) htakes]

theorem largest_nonneg (is : List Instr) : 0 ≤ (shortfalls is).foldr max 0 := by
  cases is with
  | nil => exact Int.le_refl 0
  | cons i is =>
      have htakes := i.takes_eq
      rw [largest_cons]
      omega

/-- **The number of inputs.** On a stack of depth `d`, instructions ask for as many inputs as the
largest shortfall is beyond `d`. -/
theorem length_demands (is : List Instr) (d : Nat) :
    ((demands d is).length : Int) = max 0 ((shortfalls is).foldr max 0 - d) := by
  induction is generalizing d with
  | nil =>
      simp only [demands, shortfalls, List.length_nil, List.range_zero, List.map_nil,
        List.foldr_nil]
      omega
  | cons i is ih =>
      have hdepth := i.depthAfter_eq d
      have htakes := i.takes_eq
      have hleaves := i.leaves_nonneg
      have hrest := ih (i.depthAfter d)
      rw [demands, List.length_append, demand_eq, List.length_drop, largest_cons]
      omega

end Instr

namespace Compiler

open Instr (demands total takes leaves shortfalls)

theorem zipIdx_filter_le (d : Nat) (ts : List Ty) (n : Nat) :
    ((ts.zipIdx n).filter fun p => decide (d ≤ p.2)).map (·.1) = ts.drop (d - n) := by
  induction ts generalizing n with
  | nil => simp
  | cons t ts ih =>
      rw [List.zipIdx_cons, List.filter_cons]
      by_cases hn : d ≤ n
      · rw [if_pos (decide_eq_true hn), List.map_cons, ih]
        simp [Nat.sub_eq_zero_of_le hn, Nat.sub_eq_zero_of_le (Nat.le_succ_of_le hn)]
      · rw [if_neg (by simpa using hn), ih, show d - n = d - (n + 1) + 1 by omega,
          List.drop_succ_cons]

section

variable [Declarations]

/-- **The depth of the stack** is what was there, what instructions lacked and what they left, less
what they took. -/
theorem depth_addAll (is : List Instr) (c : Compiler) : ((c.addAll is).depth : Int) =
    c.depth + (demands c.depth is).length + total leaves is - total takes is := by
  induction is generalizing c with
  | nil => simp [addAll, demands]
  | cons i is ih =>
      have hdepth := i.depthAfter_eq c.depth
      have htakes := i.takes_eq
      have hrest := ih (c.add i)
      rw [depth_add] at hrest
      rw [demands, List.length_append, Instr.demand_eq, List.length_drop, Instr.total_cons,
        Instr.total_cons]
      refine Eq.trans hrest ?_
      omega

/-! ### Parameters that find the stack empty -/

/-- Nothing is left on the stack for the parameter at a position, once the parameters before it have
their operands. -/
def findsEmpty (c : Compiler) (i : Instr) (position : Nat) : Bool :=
  (takeOperands (i.params.take position) c.stack c.inputs).stack.isEmpty

/-- The types of the parameters of the instruction that find the stack empty, in order. -/
def unmetBy (c : Compiler) (i : Instr) : List Ty :=
  (i.params.zipIdx.filter fun (_, position) => c.findsEmpty i position).map (·.1)

/-- The types of the parameters that find the stack empty, in the order in which the calls are made
and in that of the parameters. A call that is refused has none. -/
def unmet (c : Compiler) : List Call → List Ty
  | [] => []
  | call :: calls =>
    (if (c.perform call).result.isOk then call.instr?.toList.flatMap c.unmetBy else []) ++
      (c.perform call).compiler.unmet calls

/-- The parameters that find the stack empty are those that the instruction asks for inputs for. -/
theorem unmetBy_eq (c : Compiler) (i : Instr) : c.unmetBy i = i.demand c.depth := by
  have hempty : ∀ p ∈ i.params.zipIdx, c.findsEmpty i p.2 = decide (c.depth ≤ p.2) := by
    intro p hp
    have hlt : p.2 < i.params.length := by
      simpa using (List.mem_zipIdx hp).2.1
    have hleft : (c.stack.drop p.2).isEmpty = true ↔ c.depth ≤ p.2 := by
      rw [List.isEmpty_iff, List.drop_eq_nil_iff, depth]
    rw [findsEmpty, takeOperands_eq]
    simp only [List.length_take, Nat.min_eq_left (Nat.le_of_lt hlt)]
    rw [Bool.eq_iff_iff, hleft, decide_eq_true_iff]
  rw [unmetBy, List.filter_congr hempty, zipIdx_filter_le, Nat.sub_zero, Instr.demand_eq]

theorem unmet_eq (calls : List Call) (c : Compiler) :
    c.unmet calls = demands c.depth (c.carriedOut calls) := by
  induction calls generalizing c with
  | nil => rfl
  | cons call calls ih =>
      rw [unmet, carriedOut, ih]
      rcases perform_cases c call with ⟨⟨f, hf⟩, hc⟩ | ⟨-, i, hi, hr, hc⟩ | ⟨-, hi, fn, hr, hc⟩
      · rw [hc, hf]
        rfl
      · have hunmet : [i].flatMap c.unmetBy = i.demand c.depth := by
          rw [List.flatMap_singleton, unmetBy_eq]
        rw [hc, hr, hi, depth_add]
        exact congrArg (· ++ _) hunmet
      · rw [hc, hr, hi]
        rfl

/-- **Depth and inputs in closed form.** Let any calls be made on a new compiler, and look at those
that succeed and add an instruction. The number of inputs is the largest shortfall, and at least
zero; the depth of the stack is the number of inputs and of all values that were left, less that of
all values that were taken; and the types of the inputs are those of the parameters that found the
stack empty, in order. -/
theorem depth_and_inputs (settings : Settings) (calls : List Call) {c : Compiler}
    {is : List Instr} (hc : (new settings).performAll calls = c)
    (his : (new settings).carriedOut calls = is) :
    (c.inputs.length : Int) = (shortfalls is).foldr max 0 ∧
      (c.depth : Int) = c.inputs.length + total leaves is - total takes is ∧
      c.inputs.map (·.type) = ((new settings).unmet calls).map some := by
  obtain ⟨b, hb⟩ := performAll_eq calls (new settings)
  rw [hc, his] at hb
  have htypes : c.inputs.map (·.type) = (demands 0 is).map some := by
    rw [hb]
    exact types_inputs_addAll is (new settings)
  have hlength : c.inputs.length = (demands 0 is).length := by
    simpa using congrArg List.length htypes
  have hneed := Instr.length_demands is 0
  have hlargest := Instr.largest_nonneg is
  have hdepth : (c.depth : Int) = 0 + (demands 0 is).length + total leaves is - total takes is := by
    rw [hb]
    exact depth_addAll is (new settings)
  refine ⟨?_, ?_, ?_⟩
  · rw [hlength, hneed]
    omega
  · rw [hdepth, hlength, Int.zero_add]
  · rw [htypes, unmet_eq, his]
    rfl

end

open scoped Catalogue

/-- A literal, a word that takes it and one value more, a call that is refused, and a word that
takes the result and two values more. -/
def difference : List Call :=
  [.push (some ⟨.int, .int 10⟩) none,
    .apply (Dictionary.host []) (some ⟨.func [.int, .int] [.int] false, .func 0 []⟩),
    .push none none,
    .apply (Dictionary.host []) (some ⟨.func [.int, .string, .bool] [] false, .func 1 []⟩)]

theorem depth_and_inputs_difference :
    ∃ is, (new {}).carriedOut difference = is ∧ shortfalls is = [0, 1, 3] ∧
      total leaves is = 2 ∧ total takes is = 5 ∧
      ((new {}).performAll difference).inputs.length = 3 ∧
      ((new {}).performAll difference).depth = 0 ∧
      ((new {}).performAll difference).inputs.map (·.type) =
        [some .int, some .string, some .bool] := by
  obtain ⟨is, his⟩ : ∃ is, (new {}).carriedOut difference = is := ⟨_, rfl⟩
  obtain ⟨hshort, hleaves, htakes⟩ :
      shortfalls is = [0, 1, 3] ∧ total leaves is = 2 ∧ total takes is = 5 := by
    subst his
    exact ⟨rfl, rfl, rfl⟩
  obtain ⟨hcount, hdepth, htypes⟩ := depth_and_inputs {} difference rfl his
  rw [hshort] at hcount
  rw [hcount, hleaves, htakes] at hdepth
  exact ⟨is, his, hshort, hleaves, htakes, Int.ofNat.inj hcount, Int.ofNat.inj hdepth, htypes⟩

end Compiler

end Tacit
