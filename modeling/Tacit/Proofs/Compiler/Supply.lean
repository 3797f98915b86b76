import Mathlib.Data.List.Infix
import Tacit.Catalogue
import Tacit.Proofs.Compiler.Building
import Tacit.Proofs.Compiler.Machine

/-!
# Literals in the place of arguments

A program can be given its first inputs in advance, by pushing literals before anything else.

* `Instr.demands`: the inputs that instructions ask for, from the depth of the stack only. A deeper
  stack asks for fewer of them, and leaves out the first (`demands_add`).
* `Compiler.Supplied vs c c'`: `c'` is `c` with the literals `vs` at the bottom of its stack. One
  instruction uses up those of them that `c` declares inputs for (`Supplied.add`).
* `Supplied.carriedOut`, `Supplied.popped_iff`: the same calls succeed on both, and what they take
  off the stack fits in both or in neither.
* `Machine.execAll_supply`: to a machine, values at the bottom of the stack are arguments.
* `supply_literals`: a program on literals is the program without them, on more arguments.
-/

namespace Tacit

/-! ### The inputs that instructions ask for -/

namespace Instr

/-- The types of the inputs that the instruction asks for, on a stack of depth `d`. -/
def demand (d : Nat) : Instr → List Ty
  | literal _ => []
  | word w => w.params.drop d

/-- The depth of the stack after the instruction. -/
def depthAfter (d : Nat) : Instr → Nat
  | literal _ => d + 1
  | word w => w.result.toList.length + (d - w.params.length)

/-- The types of the inputs that instructions ask for, in order. -/
def demands : Nat → List Instr → List Ty
  | _, [] => []
  | d, i :: is => i.demand d ++ demands (i.depthAfter d) is

theorem depthAfter_add (d k : Nat) (i : Instr) :
    i.depthAfter (d + k) = i.depthAfter d + (k - (i.demand d).length) := by
  cases i with
  | literal v =>
      simp only [depthAfter, demand, List.length_nil]
      omega
  | word w =>
      simp only [depthAfter, demand, List.length_drop]
      omega

/-- A stack that is deeper by `k` saves the first `k` inputs. -/
theorem demands_add : ∀ (is : List Instr) (d k : Nat), demands (d + k) is = (demands d is).drop k
  | [], _, _ => List.drop_nil.symm
  | i :: is, d, k => by
      have hdemand : i.demand (d + k) = (i.demand d).drop k := by
        cases i with
        | literal v => exact List.drop_nil.symm
        | word w => exact List.drop_drop.symm
      rw [demands, demands, hdemand, depthAfter_add, demands_add is, List.drop_append]

theorem demands_literals (is : List Instr) : ∀ (vs : List Value) (d : Nat),
    demands d (vs.map .literal ++ is) = demands (d + vs.length) is
  | [], _ => rfl
  | v :: vs, d => by
      refine (demands_literals is vs (d + 1)).trans ?_
      rw [List.length_cons, Nat.add_right_comm, Nat.add_assoc]

/-- Values of the types of the first inputs, when an instruction has used up those it asks for. -/
theorem demands_next {vs : List Value} {d : Nat} {i : Instr} {is : List Instr}
    (h : vs.map (·.type) <+: demands d (i :: is)) :
    (vs.drop (i.demand d).length).map (·.type) <+: demands (i.depthAfter d) is := by
  have hdrop := h.drop (i.demand d).length
  rwa [demands, List.drop_left, ← List.map_drop] at hdrop

end Instr

namespace Compiler

open Instr (demands)

theorem zip_append_left {α β : Type} : ∀ (as bs : List α) (cs : List β),
    (as ++ bs).zip cs = as.zip cs ++ bs.zip (cs.drop as.length)
  | [], _, _ => rfl
  | _ :: _, _, [] => by simp
  | a :: as, bs, c :: cs => by simp [zip_append_left as bs cs]

variable [Declarations] {vs : List Value} {c c' : Compiler}

theorem depth_add (c : Compiler) (i : Instr) : (c.add i).depth = i.depthAfter c.depth := by
  cases i with
  | literal v => rfl
  | word w =>
      simp [depth, Instr.depthAfter, newTemp, length_numbered]

theorem types_inputs_add (c : Compiler) (i : Instr) : (c.add i).inputs.map (·.type) =
    c.inputs.map (·.type) ++ (i.demand c.depth).map some := by
  cases i with
  | literal v => exact (List.append_nil _).symm
  | word w =>
      rw [inputs_add_word, List.map_append, fresh, types_numbered]
      rfl

/-- The inputs of a program are those that its instructions asked for. -/
theorem types_inputs_addAll : ∀ (is : List Instr) (c : Compiler),
    (c.addAll is).inputs.map (·.type) =
      c.inputs.map (·.type) ++ (demands c.depth is).map some
  | [], c => (List.append_nil _).symm
  | i :: is, c => by
      refine (types_inputs_addAll is (c.add i)).trans ?_
      rw [types_inputs_add, depth_add, demands, List.map_append, List.append_assoc]

/-! ### Literals at the bottom of the stack -/

/-- The second compiler is the first with literals at the bottom of its stack. The inputs and the
operations of the two are different. -/
structure Supplied (vs : List Value) (c c' : Compiler) : Prop where
  settings : c'.settings = c.settings
  temps : c'.temps = c.temps
  stack : c'.stack = c.stack ++ vs.map fun v => .const (some v)

/-- **One instruction** uses up the literals that take the place of inputs. -/
theorem Supplied.add (h : Supplied vs c c') (i : Instr) :
    Supplied (vs.drop (i.demand c.depth).length) (c.add i) (c'.add i) := by
  cases i with
  | literal v =>
      refine ⟨h.settings, h.temps, ?_⟩
      simp [Compiler.add, Instr.demand, h.stack]
  | word w =>
      have hnew : c'.newTemp w = c.newTemp w := by rw [newTemp, h.temps, newTemp]
      refine ⟨?_, ?_, ?_⟩
      · rw [settings_add_word, settings_add_word, h.settings]
      · rw [temps_add_word, temps_add_word, hnew, h.temps]
      · rw [stack_add_word, stack_add_word, hnew, h.stack, List.drop_append, List.append_assoc,
          List.map_drop, Instr.demand, List.length_drop, depth]

theorem bindable_of_types : ∀ {vs : List Value} {ts us : List Ty},
    vs.map (·.type) <+: ts ++ us →
    ∀ p ∈ (vs.map fun v => Expr.const (some v)).zip ts, Bindable p
  | [], _, _, _, p, hp => by simp at hp
  | _ :: _, [], _, _, p, hp => by simp at hp
  | v :: vs, t :: ts, us, h, p, hp => by
      obtain ⟨hv, h⟩ := List.cons_prefix_cons.mp h
      rw [List.map_cons, List.zip_cons_cons] at hp
      rcases List.mem_cons.mp hp with rfl | hp
      · exact ⟨v.type, rfl, .inl hv⟩
      · exact bindable_of_types h p hp

/-- The second compiler admits what the first admits, if the literals that it takes fit. -/
theorem Supplied.admits_iff (h : Supplied vs c c') (i : Instr) : c'.Admits i ↔ c.Admits i ∧
    ∀ p ∈ (vs.map fun v => Expr.const (some v)).zip (i.demand c.depth), Bindable p := by
  cases i with
  | literal v => simp [Admits, Instr.demand]
  | word w =>
      rw [Admits, h.stack, zip_append_left, List.forall_mem_append, Admits, Instr.demand, depth]

theorem Supplied.popped_iff : ∀ (is : List Instr) {vs : List Value} {c c' : Compiler},
    Supplied vs c c' → vs.map (·.type) <+: demands c.depth is →
    ((∀ p ∈ c'.popped is, Bindable p) ↔ ∀ p ∈ c.popped is, Bindable p)
  | [], _, _, _, _, _ => Iff.rfl
  | i :: is, vs, c, c', h, hvs => by
      have hnext := popped_iff is (h.add i) (by rw [depth_add]; exact Instr.demands_next hvs)
      rw [popped_cons, popped_cons, h.admits_iff, hnext, and_iff_left (bindable_of_types hvs)]

/-- **The same calls succeed** on both compilers, if neither is finished by them. -/
theorem Supplied.carriedOut : ∀ (calls : List Call) {vs : List Value} {c c' : Compiler},
    Supplied vs c c' → c.Formed → c'.Formed → (c.performAll calls).finished = false →
    (c'.performAll calls).finished = false →
    vs.map (·.type) <+: demands c.depth (c.carriedOut calls) →
    c'.carriedOut calls = c.carriedOut calls
  | [], _, _, _, _, _, _, _, _, _ => rfl
  | call :: calls, vs, c, c', h, hc, hc', hopen, hopen', hvs => by
      rcases hc.performAll_cases hopen with ⟨hno, hout, hall⟩ | ⟨i, hi, hyes, hout, hall⟩
      · rw [hall] at hopen
        rw [hout] at hvs ⊢
        rcases hc'.performAll_cases hopen' with ⟨-, hout', hall'⟩ | ⟨i, hi, hyes', -, -⟩
        · rw [hall'] at hopen'
          rw [hout']
          exact Supplied.carriedOut calls h hc hc' hopen hopen' hvs
        · -- what the first does not admit, the second does not admit either
          obtain ⟨hmode, hnot⟩ := hno i hi
          rw [← h.settings] at hmode
          exact absurd ((h.admits_iff i).mp (hyes' hmode)).1 hnot
      · rw [hall] at hopen
        rw [hout] at hvs ⊢
        rcases hc'.performAll_cases hopen' with ⟨hno', -, -⟩ | ⟨i', hi', -, hout', hall'⟩
        · -- the literals fit, so the second admits what the first admits
          obtain ⟨hmode, hnot⟩ := hno' i hi
          rw [h.settings] at hmode
          exact absurd ((h.admits_iff i).mpr ⟨hyes hmode, bindable_of_types hvs⟩) hnot
        · cases hi.symm.trans hi'
          rw [hall'] at hopen'
          rw [hout', Supplied.carriedOut calls (h.add i) (hc.add i) (hc'.add i) hopen hopen'
            (by rw [depth_add]; exact Instr.demands_next hvs)]

/-! ### Pushing literals -/

theorem addAll_literals : ∀ (vs : List Value) (c : Compiler), c.addAll (vs.map .literal) =
    { c with stack := vs.reverse.map (fun v => .const (some v)) ++ c.stack }
  | [], c => rfl
  | v :: vs, c => by
      refine (addAll_literals vs (c.add (.literal v))).trans ?_
      simp [Compiler.add]

theorem popped_literals : ∀ (vs : List Value) (c : Compiler), c.popped (vs.map .literal) = []
  | [], _ => rfl
  | v :: vs, c => popped_literals vs (c.add (.literal v))

/-- Calls that push literals succeed. -/
theorem performAll_literals : ∀ {pushes : List Call} {vs : List Value} {c : Compiler},
    c.finished = false → pushes.map Call.instr? = vs.map (fun v => some (.literal v)) →
    c.performAll pushes = c.addAll (vs.map .literal) ∧ c.carriedOut pushes = vs.map .literal
  | [], [], _, _, _ => ⟨rfl, rfl⟩
  | call :: pushes, v :: vs, c, hopen, h => by
      obtain ⟨hi, h⟩ := List.cons.inj h
      obtain ⟨hr, hc⟩ := perform_literal hi hopen
      obtain ⟨hall, hout⟩ := performAll_literals (c := c.add (.literal v)) hopen h
      rw [performAll, carriedOut, hc, hall, hout, hr, hi]
      exact ⟨rfl, rfl⟩

end Compiler

namespace Machine

open Instr (demands)

variable [Declarations] {α : Type}

/-- Filling parameters from values at the bottom of the stack is filling them from arguments. -/
theorem fill_supply : ∀ (ts : List Ty) {us : List Ty} (stack : List Value) {vs xs : List Value}
    {k k' : List Value × Machine → Run α}, vs.map (·.type) <+: ts.drop stack.length ++ us →
    (∀ ys xs', k (ys, ⟨stack.drop ts.length ++ vs.drop (ts.length - stack.length), xs'⟩) =
      k' (ys, ⟨stack.drop ts.length, vs.drop (ts.length - stack.length) ++ xs'⟩)) →
    fill ts ⟨stack ++ vs, xs⟩ >>= k = fill ts ⟨stack, vs ++ xs⟩ >>= k'
  | [], us, stack, vs, xs, k, k', _, hk => by
      simpa [fill] using hk [] xs
  | t :: ts, us, v :: stack, vs, xs, k, k', hvs, hk => by
      simp only [List.cons_append, fill, bind_assoc, pure_bind]
      refine bind_congr fun x => ?_
      exact fill_supply ts stack hvs fun ys xs' => by simpa using hk (x :: ys) xs'
  | t :: ts, us, [], v :: vs, xs, k, k', hvs, hk => by
      obtain ⟨hv, hvs⟩ := List.cons_prefix_cons.mp hvs
      have hoperand : operand v t = pure v := by simp [operand, Ty.needsConversion, hv]
      simp only [List.nil_append, List.cons_append, fill, hoperand, bind_assoc, pure_bind]
      exact fill_supply ts [] hvs fun ys xs' => by simpa using hk (v :: ys) xs'
  | t :: ts, us, [], [], [], k, k', _, _ => rfl
  | t :: ts, us, [], [], x :: xs, k, k', _, hk => by
      simp only [List.nil_append, fill, bind_assoc, pure_bind]
      have hnil : ([] : List Value).map (·.type) <+: ts.drop 0 ++ us := ⟨_, rfl⟩
      exact fill_supply ts [] hnil fun ys xs' => by simpa using hk (x :: ys) xs'

/-- **One instruction.** Whatever comes after, values at the bottom of the stack are arguments. -/
theorem exec_supply (host : Host) {i : Instr} {us : List Ty} {stack vs xs : List Value}
    {k k' : Machine → Run α} (hvs : vs.map (·.type) <+: i.demand stack.length ++ us)
    (hk : ∀ stack' xs', stack'.length = i.depthAfter stack.length →
      k ⟨stack' ++ vs.drop (i.demand stack.length).length, xs'⟩ =
        k' ⟨stack', vs.drop (i.demand stack.length).length ++ xs'⟩) :
    exec host ⟨stack ++ vs, xs⟩ i >>= k = exec host ⟨stack, vs ++ xs⟩ i >>= k' := by
  cases i with
  | literal v =>
      simpa [exec, Instr.demand] using hk (v :: stack) xs rfl
  | word w =>
      simp only [exec, bind_assoc]
      refine fill_supply w.params stack hvs fun ys xs' => ?_
      refine bind_congr fun results => ?_
      simp only [Instr.demand, Instr.depthAfter, List.length_drop] at hk
      cases hres : w.result with
      | none =>
          simp only [pure_bind]
          exact hk _ _ (by simp [hres])
      | some t =>
          cases results with
          | nil => rfl
          | cons v results =>
              simp only [pure_bind]
              exact hk (v :: stack.drop w.params.length) xs' (by simp [hres, Nat.add_comm])

/-- **All instructions.** Values at the bottom of the stack are arguments, if they are of the types
of the first inputs. -/
theorem execAll_supply (host : Host) : ∀ (is : List Instr) (stack : List Value)
    {vs xs : List Value}, vs.map (·.type) <+: demands stack.length is →
    (execAll host ⟨stack ++ vs, xs⟩ is >>= fun _ => pure ()) =
      (execAll host ⟨stack, vs ++ xs⟩ is >>= fun _ => pure ())
  | [], _, _, _, _ => by simp only [execAll, pure_bind]
  | i :: is, stack, vs, xs, hvs => by
      simp only [execAll, bind_assoc]
      refine exec_supply host hvs fun stack' xs' hdepth => ?_
      exact execAll_supply host is stack' (hdepth ▸ Instr.demands_next hvs)

theorem execAll_literals (host : Host) (is : List Instr) {xs : List Value} :
    ∀ (vs stack : List Value), execAll host ⟨stack, xs⟩ (vs.map .literal ++ is) =
      execAll host ⟨vs.reverse ++ stack, xs⟩ is
  | [], _ => rfl
  | v :: vs, stack => by
      rw [List.map_cons, List.cons_append, execAll, exec, pure_bind, execAll_literals host is vs]
      simp

end Machine

namespace Compiler

open Instr (demands)

section

variable [Declarations]

/-- What a finished program does, also if some of the calls before were refused. -/
theorem invoke_eq_carriedOut {settings : Settings} (hreal : settings.realizer = routineRealizer)
    {calls : List Call} {c : Compiler} (hc : (new settings).performAll calls = c) {st : Store}
    {sig : Option Ty} {fn : Callable} (hfin : (c.finishType st sig).result = .ok fn)
    {args : List Value} {rs : List Ty} {b : Bool}
    (hargs : sig.bind Ty.func? = some (args.map (·.type), rs, b)) (host : Host) :
    fn.invoke host args = Machine.run host ((new settings).carriedOut calls) args := by
  obtain ⟨r, hr, hinvoke⟩ := realize_of_finishType hreal hc hfin
  rw [← hc, assemble_performAll] at hr
  obtain ⟨-, -, hsig, -, -⟩ := Lambda.realize_ok hr
  have htypes := paramTypes_of_checkSignature hsig hargs
  rw [List.map_map] at htypes
  rw [hinvoke, invoke_eq_run hr, run_eq_machine (carriedOut_valid calls _) htypes]

/-! ### Two runs -/

section

variable {settings : Settings} {pushes calls : List Call} {vs : List Value}

theorem supplied_literals (settings : Settings) (vs : List Value) :
    Supplied vs (new settings) ((new settings).addAll (vs.reverse.map .literal)) := by
  rw [addAll_literals]
  exact ⟨rfl, rfl, by simp [new]⟩

theorem carriedOut_supply
    (hpushes : pushes.map Call.instr? = vs.reverse.map fun v => some (.literal v))
    (hopen : ((new settings).performAll calls).finished = false)
    (hopen' : ((new settings).performAll (pushes ++ calls)).finished = false)
    (hvs : vs.map (·.type) <+: demands 0 ((new settings).carriedOut calls)) :
    (new settings).carriedOut (pushes ++ calls) =
      vs.reverse.map .literal ++ (new settings).carriedOut calls := by
  obtain ⟨hall, hout⟩ := performAll_literals (c := new settings) rfl hpushes
  rw [performAll_append, hall] at hopen'
  rw [carriedOut_append, hout, hall, (supplied_literals settings vs).carriedOut calls
    (formed_new settings) ((formed_new settings).addAll _) hopen hopen' hvs]

theorem fits_supply
    (hout : (new settings).carriedOut (pushes ++ calls) =
      vs.reverse.map .literal ++ (new settings).carriedOut calls)
    (hvs : vs.map (·.type) <+: demands 0 ((new settings).carriedOut calls)) :
    (new settings).Fits (pushes ++ calls) ↔ (new settings).Fits calls := by
  rw [Fits, hout, popped_append, popped_literals, List.nil_append]
  exact (supplied_literals settings vs).popped_iff _ hvs

end

/-- **Literals in the place of arguments.** Let calls ask for inputs of the types of `vs` and then
of the types `rest`, and let the literals `vs` be pushed before these calls, the first of them last;
let the calls finish neither program. Then the inputs that are left are those of the types `rest`;
the program can be finished under its signature exactly if the program without the literals can be
finished under its own; and invoking it is invoking the program without the literals with `vs` put
before the arguments: from every store there are the same events, the same store is left, and both
return or panic alike. -/
theorem supply_literals {settings : Settings} (hreal : settings.realizer = routineRealizer)
    {pushes calls : List Call} {vs : List Value}
    (hpushes : pushes.map Call.instr? = vs.reverse.map fun v => some (.literal v))
    {c c' : Compiler} (hc : (new settings).performAll calls = c)
    (hc' : (new settings).performAll (pushes ++ calls) = c') (hopen : c.finished = false)
    (hopen' : c'.finished = false) {rest : List Ty}
    (hinputs : c.inputs.map (·.type) = (vs.map (·.type) ++ rest).map some) :
    c'.inputs.map (·.type) = rest.map some ∧
    ∀ st st' : Store,
      ((∃ fn', (c'.finishType st' (some (.func rest [] false))).result = .ok fn') ↔
        ∃ fn, (c.finishType st (some (.func (vs.map (·.type) ++ rest) [] false))).result = .ok fn) ∧
      ∀ fn fn',
        (c.finishType st (some (.func (vs.map (·.type) ++ rest) [] false))).result = .ok fn →
        (c'.finishType st' (some (.func rest [] false))).result = .ok fn' →
        ∀ (host : Host) (xs : List Value), xs.map (·.type) = rest →
          fn'.invoke host xs = fn.invoke host (vs ++ xs) := by
  subst hc hc'
  have hdemands : demands 0 ((new settings).carriedOut calls) = vs.map (·.type) ++ rest := by
    rw [performAll_eq_addAll hopen, types_inputs_addAll] at hinputs
    exact (List.map_inj_right fun _ _ => Option.some.inj).mp hinputs
  have hvs : vs.map (·.type) <+: demands 0 ((new settings).carriedOut calls) :=
    ⟨rest, hdemands.symm⟩
  have hout := carriedOut_supply hpushes hopen hopen' hvs
  have hinputs' : ((new settings).performAll (pushes ++ calls)).inputs.map (·.type) =
      rest.map some := by
    rw [performAll_eq_addAll hopen', hout, types_inputs_addAll, Instr.demands_literals,
      Instr.demands_add, List.length_reverse, show (new settings).depth = 0 from rfl, hdemands,
      List.drop_left' (by simp)]
    rfl
  refine ⟨hinputs', fun st st' => ⟨?_, ?_⟩⟩
  · have hm : ((new settings).performAll calls).assemble.Matches
        (some (.func (vs.map (·.type) ++ rest) [] false)) := ⟨_, rfl, hinputs⟩
    have hm' : ((new settings).performAll (pushes ++ calls)).assemble.Matches
        (some (.func rest [] false)) := ⟨_, rfl, hinputs'⟩
    exact (finishType_decides hreal hopen' hm' st').ok_iff.trans
      ((fits_supply hout hvs).trans (finishType_decides hreal hopen hm st).ok_iff.symm)
  · rintro fn fn' hfin hfin' host xs rfl
    rw [← List.map_append] at hfin
    rw [invoke_eq_carriedOut hreal rfl hfin' rfl host, invoke_eq_carriedOut hreal rfl hfin rfl host,
      hout, Machine.run, Machine.run, Machine.execAll_literals, List.reverse_reverse,
      List.append_nil]
    exact Machine.execAll_supply host _ [] hvs

end

open scoped Catalogue

/-- A word that takes an integer and anything, a call that is refused, and a word that takes the
result and two arguments more. -/
def fourInputs : List Call :=
  [.apply (Dictionary.host []) (some ⟨.func [.int, .any] [.string] false, .func 0 []⟩),
    .push none none,
    .apply (Dictionary.host []) (some ⟨.func [.string, .int, .string] [] false, .func 1 []⟩)]

/-- Literals for the first three inputs, the third of which the second word takes. -/
def threeLiterals : List Call :=
  [.push (some ⟨.int, .int 5⟩) none, .push (some ⟨.string, .text [104]⟩) (some .any),
    .push (some ⟨.int, .int 3⟩) (some .int)]

/-- The host of the two words. -/
def joinHost : Host :=
  Dictionary.host [.described "join" [.int, .any] [.string] false .zero,
    .described "show" [.string, .int, .string] [] false .zero]

theorem supply_literals_three :
    ((new { eager := true }).performAll (threeLiterals ++ fourInputs)).inputs.map (·.type) =
      [some .string] ∧
    ∃ fn fn', (((new { eager := true }).performAll fourInputs).finishType .empty
        (some (.func [.int, .any, .int, .string] [] false))).result = .ok fn ∧
      (((new { eager := true }).performAll (threeLiterals ++ fourInputs)).finishType .empty
        (some (.func [.string] [] false))).result = .ok fn' ∧
      fn'.invoke joinHost [⟨.string, .text [105]⟩] =
        fn.invoke joinHost [⟨.int, .int 3⟩, ⟨.any, .boxed .string (.text [104])⟩, ⟨.int, .int 5⟩,
          ⟨.string, .text [105]⟩] := by
  obtain ⟨hinputs, hfinish⟩ := @supply_literals _ { eager := true } rfl threeLiterals fourInputs
    [⟨.int, .int 3⟩, ⟨.any, .boxed .string (.text [104])⟩, ⟨.int, .int 5⟩] rfl _ _ rfl rfl rfl rfl
    [.string] rfl
  obtain ⟨fn, hfn⟩ : ∃ fn, (((new { eager := true }).performAll fourInputs).finishType .empty
      (some (.func [.int, .any, .int, .string] [] false))).result = .ok fn := ⟨_, rfl⟩
  obtain ⟨hiff, hinvoke⟩ := hfinish .empty .empty
  obtain ⟨fn', hfn'⟩ := hiff.mpr ⟨fn, hfn⟩
  exact ⟨hinputs, fn, fn', hfn, hfn', hinvoke fn fn' hfn hfn' joinHost _ rfl⟩

end Compiler

end Tacit
