import Tacit.Catalogue
import Tacit.Proofs.Compiler.Eagerness
import Tacit.Proofs.Compiler.Supply

/-!
# Programs that are extended

What calls have made of a program, later calls do not undo.

* `Machine.more`: a machine with more arguments behind those it has. Instructions that do not ask
  for them do what they do without them (`exec_more`, `execAll_more`).
* `Machine.run_append`: a run of instructions and more instructions is the run of the first, on the
  first arguments, and then the run of the others.
* `finishes_of_extended`: what can be finished could have been finished before.
* `extension_keeps`: a program that is extended does what it did, and then possibly more.
-/

namespace Tacit

/-! ### What comes first in a run -/

namespace Run

variable {α β : Type} (x : Run α) (f : α → Run β) (s : Store)

theorem events_of_bind : (x s).events <+: ((x >>= f) s).events := by
  rw [bind_apply]
  split
  · exact List.prefix_append _ _
  · exact List.prefix_rfl

theorem bind_of_error {p : Panic} (h : (x s).outcome = .error p) :
    (x >>= f) s = ⟨(x s).events, (x s).store, .error p⟩ := by
  rw [bind_apply, h]

theorem events_discard : ((x >>= fun _ => pure ()) s).events = (x s).events := by
  rw [bind_apply]
  split
  · exact List.append_nil _
  · rfl

end Run

/-! ### More instructions, and more arguments -/

namespace Machine

open Instr (demands)

variable {α : Type}

/-- The machine with more arguments, to be used last. -/
def more (ys : List Value) (m : Machine) : Machine := { m with args := m.args ++ ys }

variable [Declarations]

/-- Filling parameters, if there are arguments for those that the stack leaves open. Here and below,
`k` and `k'` are what is done with the machine that is left. -/
theorem fill_more : ∀ (ts : List Ty) {stack xs ys : List Value}
    {k k' : List Value × Machine → Run α}, ts.length ≤ stack.length + xs.length →
    (∀ vs, k (vs, ⟨stack.drop ts.length, xs.drop (ts.length - stack.length) ++ ys⟩) =
      k' (vs, ⟨stack.drop ts.length, xs.drop (ts.length - stack.length)⟩)) →
    fill ts ⟨stack, xs ++ ys⟩ >>= k = fill ts ⟨stack, xs⟩ >>= k'
  | [], stack, xs, ys, k, k', _, hk => by
      simpa [fill] using hk []
  | t :: ts, v :: stack, xs, ys, k, k', hlen, hk => by
      simp only [fill, bind_assoc, pure_bind]
      refine bind_congr fun x => ?_
      refine fill_more ts ?_ fun vs => ?_
      · simp only [List.length_cons] at hlen
        omega
      · simpa using hk (x :: vs)
  | t :: ts, [], x :: xs, ys, k, k', hlen, hk => by
      simp only [List.cons_append, fill, bind_assoc, pure_bind]
      refine fill_more ts ?_ fun vs => ?_
      · simp only [List.length_cons, List.length_nil] at hlen ⊢
        omega
      · simpa using hk (x :: vs)
  | t :: ts, [], [], _, _, _, hlen, _ => by simp at hlen

/-- **One instruction**, if there are arguments for all that it asks for. -/
theorem exec_more (host : Host) {i : Instr} {stack xs ys : List Value} {k k' : Machine → Run α}
    (hxs : (i.demand stack.length).length ≤ xs.length)
    (hk : ∀ stack', stack'.length = i.depthAfter stack.length →
      k ⟨stack', xs.drop (i.demand stack.length).length ++ ys⟩ =
        k' ⟨stack', xs.drop (i.demand stack.length).length⟩) :
    exec host ⟨stack, xs ++ ys⟩ i >>= k = exec host ⟨stack, xs⟩ i >>= k' := by
  cases i with
  | literal v => simpa [exec, Instr.demand] using hk (v :: stack) rfl
  | word w =>
      simp only [Instr.demand, Instr.depthAfter, List.length_drop] at hxs hk
      simp only [exec, bind_assoc]
      refine fill_more w.params (by omega) fun vs => bind_congr fun results => ?_
      cases hres : w.result with
      | none =>
          simp only [pure_bind]
          exact hk _ (by simp [hres])
      | some t =>
          cases results with
          | nil => rfl
          | cons v results =>
              simp only [pure_bind]
              exact hk (v :: stack.drop w.params.length) (by simp [hres, Nat.add_comm])

/-- **All instructions.** -/
theorem execAll_more (host : Host) : ∀ (is : List Instr) {stack xs ys : List Value}
    {k k' : Machine → Run α}, (demands stack.length is).length ≤ xs.length →
    (∀ m, k (m.more ys) = k' m) →
    execAll host ⟨stack, xs ++ ys⟩ is >>= k = execAll host ⟨stack, xs⟩ is >>= k'
  | [], stack, xs, ys, k, k', _, hk => by
      simp only [execAll, pure_bind]
      exact hk ⟨stack, xs⟩
  | i :: is, stack, xs, ys, k, k', hxs, hk => by
      rw [demands, List.length_append] at hxs
      simp only [execAll, bind_assoc]
      refine exec_more host (by omega) fun stack' hdepth => ?_
      -- what the instruction has not used is enough for those that come after it
      refine execAll_more host is ?_ hk
      rw [hdepth, List.length_drop]
      omega

theorem execAll_append (host : Host) : ∀ (is js : List Instr) (m : Machine),
    execAll host m (is ++ js) = execAll host m is >>= fun m' => execAll host m' js
  | [], js, m => by rw [execAll, pure_bind, List.nil_append]
  | i :: is, js, m => by
      rw [List.cons_append, execAll, execAll, bind_assoc]
      exact bind_congr fun m' => execAll_append host is js m'

/-- **More instructions and more arguments.** The first arguments go to the first instructions. -/
theorem run_append (host : Host) {is : List Instr} (js : List Instr) {xs : List Value}
    (ys : List Value) (hxs : (demands 0 is).length ≤ xs.length) :
    run host (is ++ js) (xs ++ ys) = execAll host ⟨[], xs⟩ is >>= fun m =>
      execAll host (m.more ys) js >>= fun _ => pure () := by
  rw [run, execAll_append, bind_assoc]
  exact execAll_more host is hxs fun m => rfl

end Machine

/-! ### The longer program and the shorter -/

namespace Compiler

open Instr (demands)

section

variable [Declarations]

variable {settings : Settings} {before after : List Call}

theorem inputs_of_extended (h : ((new settings).performAll (before ++ after)).finished = false) :
    ((new settings).performAll before).inputs <+:
      ((new settings).performAll (before ++ after)).inputs := by
  rw [performAll_append] at h ⊢
  rw [performAll_eq_addAll h]
  exact (slots_addAll _ _).1

theorem finishType_open {c : Compiler} {st : Store} {sig : Option Ty} {fn : Callable}
    (hfin : (c.finishType st sig).result = .ok fn) : c.finished = false := by
  rcases finishType_cases c st sig with ⟨⟨f, hf⟩, -⟩ | ⟨hopen, -⟩
  · rw [hfin] at hf
    cases hf
  · exact hopen

/-- A program that is finished was finished under a signature that matches it. -/
theorem matches_of_finishType (hreal : settings.realizer = routineRealizer) {calls : List Call}
    {c : Compiler} (hc : (new settings).performAll calls = c) {st : Store} {sig : Option Ty}
    {fn : Callable} (hfin : (c.finishType st sig).result = .ok fn) : c.assemble.Matches sig := by
  obtain ⟨r, hr, -⟩ := realize_of_finishType hreal hc hfin
  obtain ⟨t, -, hsig, -⟩ := Lambda.realize_ok hr
  rcases checkSignature_cases c.assemble sig with ⟨hm, -⟩ | ⟨-, fault, hfail⟩
  · exact hm
  · rw [hsig] at hfail
    cases hfail

/-- Invoking a finished program, on arguments of the types of its inputs. -/
theorem invoke_eq_run_machine (hreal : settings.realizer = routineRealizer) {calls : List Call}
    {c : Compiler} (hc : (new settings).performAll calls = c) {st : Store} {sig : Option Ty}
    {fn : Callable} (hfin : (c.finishType st sig).result = .ok fn) {xs : List Value}
    (hxs : c.inputs.map (·.type) = xs.map (some ·.type)) (host : Host) :
    fn.invoke host xs = Machine.run host ((new settings).carriedOut calls) xs := by
  obtain ⟨ps, hps, hparams⟩ := matches_of_finishType hreal hc hfin
  have hxs' : c.inputs.map (·.type) = (xs.map (·.type)).map some := by rw [hxs, List.map_map]; rfl
  have htypes : xs.map (·.type) = ps :=
    (List.map_inj_right fun _ _ => Option.some.inj).mp (hxs'.symm.trans hparams)
  rw [← htypes] at hps
  exact invoke_eq_carriedOut hreal hc hfin hps host

/-- **What can be finished could have been finished before**, under any signature that matches the
program as it was. -/
theorem finishes_of_extended (hreal : settings.realizer = routineRealizer) {st' : Store}
    {sig' : Option Ty} {fn' : Callable}
    (hfin' : (((new settings).performAll (before ++ after)).finishType st' sig').result = .ok fn')
    {sig : Option Ty} (hm : ((new settings).performAll before).assemble.Matches sig) (st : Store) :
    ∃ fn, (((new settings).performAll before).finishType st sig).result = .ok fn := by
  have hm' := matches_of_finishType hreal rfl hfin'
  have hopen' := finishType_open hfin'
  have hfits := (finishType_decides hreal hopen' hm' st').ok_iff.mp ⟨fn', hfin'⟩
  rw [performAll_append] at hopen'
  exact (finishType_decides hreal (finished_of_performAll hopen') hm st).ok_iff.mpr
    (fits_append hfits)

/-- **A program that is extended does what it did.** Let calls be made on a new compiler, and then
more calls, after which the program can be finished. Then it could have been finished before the
other calls were made, under its own signature or any that matches it. Its inputs then are the first
inputs of the longer program. From every store, the events of invoking it are the first of the
events of invoking the longer program, on the same arguments and the further ones. If it panics, the
longer program does the same: there are no other events, it leaves the same store, and the panic is
the same. -/
theorem extension_keeps {settings : Settings} (hreal : settings.realizer = routineRealizer)
    {before after : List Call} {c c' : Compiler} (hc : (new settings).performAll before = c)
    (hc' : c.performAll after = c') {st' : Store} {sig' : Option Ty} {fn' : Callable}
    (hfin' : (c'.finishType st' sig').result = .ok fn') :
    c.inputs.map (·.type) <+: c'.inputs.map (·.type) ∧
    c.assemble.Matches (some c.signature) ∧
    ∀ (st : Store) (sig : Option Ty), c.assemble.Matches sig →
      ∃ fn, (c.finishType st sig).result = .ok fn ∧
        ∀ (host : Host) (xs ys : List Value) (s : Store),
          c.inputs.map (·.type) = xs.map (some ·.type) →
          c'.inputs.map (·.type) = (xs ++ ys).map (some ·.type) →
          (fn.invoke host xs s).events <+: (fn'.invoke host (xs ++ ys) s).events ∧
          ∀ p, (fn.invoke host xs s).outcome = .error p →
            fn'.invoke host (xs ++ ys) s = fn.invoke host xs s := by
  subst hc hc'
  rw [← performAll_append] at hfin' ⊢
  have hopen := finishType_open hfin'
  refine ⟨(inputs_of_extended hopen).map _, (formed_performAll settings before).matches_signature,
    fun st sig hm => ?_⟩
  obtain ⟨fn, hfin⟩ := finishes_of_extended hreal hfin' hm st
  refine ⟨fn, hfin, fun host xs ys s hxs hys => ?_⟩
  -- the arguments of the shorter program are all that its instructions ask for
  have hdemands : (demands 0 ((new settings).carriedOut before)).length ≤ xs.length := by
    have hlen := congrArg List.length hxs
    rw [performAll_eq_addAll (finishType_open hfin), types_inputs_addAll] at hlen
    simp only [List.length_append, List.length_map] at hlen
    have hdepth : (new settings).depth = 0 := rfl
    rw [hdepth] at hlen
    omega
  rw [invoke_eq_run_machine hreal rfl hfin hxs host, invoke_eq_run_machine hreal rfl hfin' hys host,
    carriedOut_append, Machine.run_append host _ ys hdemands, Machine.run]
  constructor
  · rw [Run.events_discard]
    exact Run.events_of_bind _ _ s
  · intro p hp
    have hpanics : (Machine.execAll host ⟨[], xs⟩ ((new settings).carriedOut before) s).outcome =
        .error p := by
      rcases Run.panics_bind.mp hp with h | ⟨_, _, -, h⟩
      · exact h
      · cases h
    rw [Run.bind_of_error _ _ s hpanics, Run.bind_of_error _ _ s hpanics]

end

open scoped Catalogue

/-- A word that only takes an integer and always panics, after a call that is refused. -/
def halting : List Call :=
  [.push none none,
    .apply (Dictionary.host []) (some ⟨.func [.int] [.string] false, .func 0 []⟩)]

/-- A word that takes what the first word yields, and an argument more. -/
def noting : List Call :=
  [.apply (Dictionary.host []) (some ⟨.func [.any, .int] [] false, .func 1 []⟩)]

/-- The host of the two words. -/
def haltHost : Host :=
  Dictionary.host [.described "halt" [.int] [.string] false (.raise [33]),
    .described "note" [.any, .int] [] false .zero]

theorem extension_keeps_halting : ∃ fn fn',
    (((new {}).performAll halting).finishType .empty (some (.func [.int] [] false))).result =
      .ok fn ∧
    ((((new {}).performAll halting).performAll noting).finishType .empty
      (some (.func [.int, .int] [] false))).result = .ok fn' ∧
    (fn.invoke haltHost [⟨.int, .int 3⟩] .empty).outcome = .error (.raised [33]) ∧
    fn'.invoke haltHost [⟨.int, .int 3⟩, ⟨.int, .int 4⟩] .empty =
      fn.invoke haltHost [⟨.int, .int 3⟩] .empty := by
  obtain ⟨fn', hfin'⟩ : ∃ fn', ((((new {}).performAll halting).performAll noting).finishType .empty
      (some (.func [.int, .int] [] false))).result = .ok fn' := ⟨_, rfl⟩
  obtain ⟨-, -, hkeeps⟩ := @extension_keeps _ {} rfl halting noting _ _ rfl rfl _ _ _ hfin'
  obtain ⟨fn, hfin, hinvoke⟩ := hkeeps .empty (some (.func [.int] [] false)) ⟨[.int], rfl, rfl⟩
  obtain ⟨-, hpanic⟩ := hinvoke haltHost [⟨.int, .int 3⟩] [⟨.int, .int 4⟩] .empty rfl rfl
  have hraised : (fn.invoke haltHost [⟨.int, .int 3⟩] .empty).outcome = .error (.raised [33]) := by
    rw [invoke_eq_run_machine rfl rfl hfin rfl haltHost]
    rfl
  exact ⟨fn, fn', hfin, hfin', hraised, hpanic _ hraised⟩

end Compiler

end Tacit
