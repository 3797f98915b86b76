import Tacit.Command.Run
import Tacit.Proofs.Args.Decoding
import Tacit.Proofs.Command.Canonical
import Tacit.Proofs.Compiler.Logging
import Tacit.Proofs.Formula.Reading

/-!
# How the command ends

Every stage of the command settles what the next one relies on: the command line names a
demonstration program, the program compiles and fits its signature, and the arguments that it is
invoked with are integers, as many as it takes.

* `Demo.compiled`, `Demo.Compiles`: a demonstration program after its steps, and what holds of it
  under every logger.
* `Compiles.runWith`: a run of such a program shows it if asked to, and then ends with a fault in
  the arguments or with an invocation.
* `Compiles.writes_runWith`: all that such a run logs can be written.
* `command_outcome`: the outcomes that the command has, for every command line.
-/

namespace Tacit

open scoped Catalogue

open Log (Logger)

namespace Demo

/-! ### Compilation -/

/-- The compiler after the steps of the program. -/
def compiled (d : Demo) (lg : Logger) : Compiler :=
  (d.build (Compiler.new ⟨false, lg, routineRealizer⟩)).compiler

/-- What holds of a demonstration program, whatever is logged: it compiles to one program, which is
realized as `fn` under its signature and can be shown. -/
structure Compiles (d : Demo) (fn : Callable) : Prop where
  built : ∀ lg, (d.build (Compiler.new ⟨false, lg, routineRealizer⟩)).result = .ok ()
  program : ∀ lg, (d.compiled lg).assemble = (d.compiled .discard).assemble
  unfinished : ∀ lg, (d.compiled lg).finished = false
  realizer : ∀ lg, (d.compiled lg).settings.realizer = routineRealizer
  realized : routineRealizer (d.compiled .discard).assemble (some d.sig) = .ok fn
  shown : ∀ s, ∃ text, Dump.program s (d.compiled .discard).assemble = .ok text

/-- What is written of the program if it is to be shown. -/
def Shows (d : Demo) (dump : Bool) (output : Bytes) : Prop :=
  ∃ text, Dump.program .empty (d.compiled .discard).assemble = .ok text ∧
    output = if dump then Bytes.ofString text else []

variable {d : Demo} {fn : Callable}

theorem Compiles.finishType (h : d.Compiles fn) (lg : Logger) (s : Store) :
    ((d.compiled lg).finishType s (some d.sig)).result = .ok fn := by
  rw [Compiler.finishType_result (h.unfinished lg), h.realizer, h.program, h.realized]
  rfl

theorem Compiles.showCompiled (h : d.Compiles fn) (dump : Bool) (lg : Logger) :
    ∃ text, d.showCompiled true dump (d.compiled lg) = .ok text ∧ d.Shows dump text := by
  obtain ⟨text, htext⟩ := h.shown .empty
  refine ⟨if dump then Bytes.ofString text else [], ?_, text, htext, rfl⟩
  unfold Demo.showCompiled
  rw [h.program, htext]
  cases dump <;> rfl

/-! ### Runs -/

/-- What a finished program does is all that is left of its run. -/
theorem Compiles.finish (h : d.Compiles fn) (lg : Logger) (vs : List Value) (s : Store) :
    let effect := fn.invoke Stock.dictionary.host vs s
    (d.finish true lg (d.compiled lg) vs s).result = effect.outcome.mapError .panic ∧
      (d.finish true lg (d.compiled lg) vs s).output = writtenText effect.events := by
  intro effect
  unfold Demo.finish
  simp only [RunReport.after, h.finishType lg s, Demo.call, if_true]
  cases effect.outcome with
  | ok u => simp [effect, Except.mapError]
  | error p => simp [effect, Except.mapError]

theorem Compiles.runCompiled (h : d.Compiles fn) (lg : Logger) (args : Bytes) :
    let report := d.runCompiled true (Log.Context.empty.withLogger (some lg)) (d.compiled lg) args
    (∃ e, Args.decode args d.inputs .empty = .error e ∧
        report.result = .error (.error (.args e)) ∧ report.output = []) ∨
      ∃ vs s, Args.decode args d.inputs .empty = .ok (vs, s) ∧
        report.result = (fn.invoke Stock.dictionary.host vs s).outcome.mapError .panic ∧
        report.output = writtenText (fn.invoke Stock.dictionary.host vs s).events := by
  intro report
  cases hdecode : Args.decode args d.inputs .empty with
  | error e =>
      refine .inl ⟨e, rfl, ?_⟩
      simp only [report, Demo.runCompiled, hdecode]
      exact ⟨rfl, rfl⟩
  | ok r =>
      obtain ⟨hresult, houtput⟩ := h.finish lg r.1 r.2
      refine .inr ⟨r.1, r.2, rfl, ?_⟩
      simp only [report, Demo.runCompiled, hdecode]
      exact ⟨hresult, houtput⟩

/-- A run of a demonstration program: it is shown if asked for; then its arguments are refused, or
it is invoked with them. -/
theorem Compiles.runWith (h : d.Compiles fn) (config : Config) (lg : Logger) :
    ∃ shown, d.Shows config.dump shown ∧
      ((∃ e, Args.decode config.args d.inputs .empty = .error e ∧
          (d.runWith true config lg).result = .error (.error (.args e)) ∧
          (d.runWith true config lg).output = shown) ∨
        ∃ vs s, Args.decode config.args d.inputs .empty = .ok (vs, s) ∧
          (d.runWith true config lg).result =
            (fn.invoke Stock.dictionary.host vs s).outcome.mapError .panic ∧
          (d.runWith true config lg).output =
            shown ++ writtenText (fn.invoke Stock.dictionary.host vs s).events) := by
  obtain ⟨shown, hshown, hshows⟩ := h.showCompiled config.dump lg
  refine ⟨shown, hshows, ?_⟩
  have hbuilt := h.built lg
  have hrun := h.runCompiled lg config.args
  unfold compiled at hshown hrun
  unfold Demo.runWith
  simp only [RunReport.after, hbuilt, hshown, List.nil_append]
  rcases hrun with ⟨e, he, hresult, houtput⟩ | ⟨vs, s, hvs, hresult, houtput⟩
  · exact .inl ⟨e, he, hresult, by rw [houtput, List.append_nil]⟩
  · exact .inr ⟨vs, s, hvs, hresult, by rw [houtput]⟩

/-! ### Logs -/

/-- The records can be written where nothing is stored. -/
def Writes (rs : List Log.Record) : Prop := ∀ r ∈ rs, ∀ p, ¬ r.Breaks .empty p

theorem writes_append {rs rs' : List Log.Record} : Writes (rs ++ rs') ↔ Writes rs ∧ Writes rs' :=
  List.forall_mem_append

theorem Writes.write {rs : List Log.Record} (h : Writes rs) (lg : Logger) :
    ∃ text, lg.write .empty rs = .ok text := by
  cases hwrite : lg.write .empty rs with
  | ok text => exact ⟨text, rfl⟩
  | error p =>
      obtain ⟨r, hr, hbreaks⟩ := Log.write_error hwrite
      exact absurd hbreaks (h r hr p)

/-- Records of texts and numbers can be written. -/
theorem writes_log {lg : Logger} {level : Log.Level} {message : String}
    {attrs : List (String × Log.Attr)} (h : ∀ p, ¬ ∃ field ∈ attrs, field.2.Breaks .empty p) :
    Writes (lg.log level message attrs) := by
  intro r hr p hbreaks
  exact h p (hbreaks.of_log hr).2

/-- The steps of a program log the literals, in which nothing is stored yet. -/
theorem writes_run : ∀ (steps : List DemoStep) (c : Compiler), Writes (run c steps).log
  | [], _ => List.forall_mem_nil _
  | .push v :: steps, c => by
      have hpush : Writes (c.push (some v) (some v.type)).log := by
        intro r hr p hbreaks
        exact Store.not_loops_empty _ (Compiler.push_breaks hbreaks hr).2.2
      rw [run, Reply.andThen]
      split
      · exact hpush
      · exact writes_append.mpr ⟨hpush, writes_run steps _⟩
  | .apply w :: steps, c => by
      have hword : Writes (c.applyWord (some w)).log := by
        intro r hr p hbreaks
        exact Compiler.applyWord_writes hr hbreaks
      rw [run, Reply.andThen]
      split
      · exact hword
      · exact writes_append.mpr ⟨hword, writes_run steps _⟩

theorem Compiles.writes_finishType (h : d.Compiles fn) (lg : Logger) (s : Store) :
    Writes ((d.compiled lg).finishType s (some d.sig)).log := by
  intro r hr p hbreaks
  obtain ⟨text, htext⟩ := h.shown s
  obtain ⟨-, hprogram⟩ := Compiler.finishType_breaks hbreaks hr
  rw [h.program, htext] at hprogram
  cases hprogram

theorem Compiles.writes_finish (h : d.Compiles fn) (lg : Logger) (vs : List Value) (s : Store) :
    Writes (d.finish true lg (d.compiled lg) vs s).log := by
  unfold Demo.finish
  simp only [RunReport.after, h.finishType lg s]
  refine writes_append.mpr ⟨h.writes_finishType lg s, ?_⟩
  have hstart : Writes (lg.log Log.info "Running compiled program."
      [("program", .text d.name), ("signature", .text d.sig.text)] ++ []) := by
    rw [List.append_nil]
    exact writes_log (by simp [Log.Attr.Breaks])
  split
  · exact writes_append.mpr ⟨hstart, writes_log (by simp)⟩
  · exact hstart

theorem Compiles.writes_runCompiled (h : d.Compiles fn) (lg : Logger) (args : Bytes) :
    let context := Log.Context.empty.withLogger (some lg)
    Writes (d.runCompiled true context (d.compiled lg) args).log := by
  intro context
  unfold Demo.runCompiled
  split
  · exact List.forall_mem_nil _
  · exact writes_append.mpr ⟨writes_log (by simp [Log.Attr.Breaks]), h.writes_finish lg _ _⟩

/-- Whatever a run of a demonstration program logs can be written. -/
theorem Compiles.writes_runWith (h : d.Compiles fn) (config : Config) (lg : Logger) :
    Writes (d.runWith true config lg).log := by
  have hbuilt := h.built lg
  have hrun := h.writes_runCompiled lg config.args
  obtain ⟨text, htext, -⟩ := h.showCompiled config.dump lg
  unfold compiled at hrun htext
  unfold Demo.runWith
  simp only [RunReport.after, hbuilt, htext, List.nil_append]
  exact writes_append.mpr ⟨writes_run _ _,
    writes_append.mpr ⟨writes_log (by simp [Log.Attr.Breaks]), hrun⟩⟩

/-! ### The demonstration programs -/

theorem mem_all_cases {d : Demo} (h : d ∈ all) : d = hello ∨ d = sum := by
  simpa [all] using h

/-- The text of the value is `text`, whatever is stored. -/
def Prints (v : Value) (text : Bytes) : Prop := ∀ s, v.show s = .ok text

theorem prints_int (n : Int) : Prints ⟨.int, .int n⟩ (.ofString (Text.decimal n))
  | ⟨[]⟩ | ⟨_ :: _⟩ => rfl

theorem prints_text (b : Bytes) : Prints ⟨.string, .text b⟩ b
  | ⟨[]⟩ | ⟨_ :: _⟩ => rfl

variable {t : Ty} {v : Data} {text : Bytes}

theorem print_boxed (h : Prints ⟨t, v⟩ text) :
    Stock.print [.boxed t v] = Run.emit (.wrote (text ++ [10])) >>= fun _ => pure [] := by
  funext s
  have hprint : Stock.print [.boxed t v] s = (Run.ofExcept (Value.show ⟨t, v⟩ s) >>=
      fun text => Run.emit (.wrote (text ++ [10])) >>= fun _ => pure []) s := rfl
  rw [hprint, h s]
  rfl

/-- A step that prints writes a line, and leaves everything as it was. -/
theorem exec_print {fr : Frame} {x : Code}
    (hx : Code.evalAll Stock.dictionary.host fr [x] = pure [⟨.any, .boxed t v⟩])
    (hopen : x.isSealed = false) (h : Prints ⟨t, v⟩ text) :
    Step.exec Stock.dictionary.host fr (.run (.const print.fn) [x]) =
      Run.emit (.wrote (text ++ [10])) >>= fun _ => pure fr := by
  have hcall : print.fn.call Stock.dictionary.host [⟨.any, .boxed t v⟩] =
      Stock.print [.boxed t v] >>= fun _ => pure [] := by
    funext s
    rfl
  rw [Step.exec, hx, pure_bind, Code.eval, pure_bind, List.any_cons, hopen]
  simp [Value.handOver, Code.isSealed, hcall, print_boxed h]

/-- A program with one temporary, which is an integer. -/
def routine (d : Demo) (steps : List Step) : Callable :=
  ⟨d.sig, fun host args => Routine.invoke host ⟨d.sig, [some .int], steps⟩ args⟩

/-- Adds up and prints the sum. -/
def printSum (x y : Code) : List Step :=
  [.assign 0 (.call (.const add.fn) [x, y]), .run (.const print.fn) [.convert (.temp 0) .any]]

/-- The sum of two machine integers, on a line of its own. -/
def sumText (a b : Int) : Bytes :=
  Bytes.ofString (Text.decimal ((a + b).bmod (Nat.pow 2 64)) ++ "\n")

theorem sumText_eq (a b : Int) :
    sumText a b = Bytes.ofString (Text.decimal ((a + b).bmod (Nat.pow 2 64))) ++ [10] := by
  rw [sumText, Bytes.ofString_append]
  rfl

/-- The sum is printed before anything else is done. -/
theorem execAll_printSum (args : List Value) {x y : Code} {a b : Int} (steps : List Step)
    (hadd : Step.exec Stock.dictionary.host ⟨args, [⟨.int, .int 0⟩]⟩
      (.assign 0 (.call (.const add.fn) [x, y])) =
        pure ⟨args, [⟨.int, .int ((a + b).bmod (Nat.pow 2 64))⟩]⟩) :
    Step.execAll Stock.dictionary.host ⟨args, [⟨.int, .int 0⟩]⟩ (printSum x y ++ steps) =
      Run.emit (.wrote (sumText a b)) >>= fun _ =>
        Step.execAll Stock.dictionary.host
          ⟨args, [⟨.int, .int ((a + b).bmod (Nat.pow 2 64))⟩]⟩ steps := by
  have hprint : Step.exec Stock.dictionary.host
      ⟨args, [⟨.int, .int ((a + b).bmod (Nat.pow 2 64))⟩]⟩
        (.run (.const print.fn) [.convert (.temp 0) .any]) = _ :=
    exec_print rfl rfl (prints_int ((a + b).bmod (Nat.pow 2 64)))
  rw [printSum, List.cons_append, List.cons_append, List.nil_append, Step.execAll, hadd, pure_bind,
    Step.execAll, hprint, sumText_eq, bind_assoc]
  simp only [pure_bind]

/-- What is left of the greeting when the sum is printed. -/
def greet : Step :=
  .run (.const print.fn) [.convert (.const ⟨.string, .text (.ofString "Hello World")⟩) .any]

theorem compiles_hello : hello.Compiles
    (hello.routine (printSum (.const ⟨.int, .int 3⟩) (.const ⟨.int, .int 2⟩) ++ [greet])) := by
  refine ⟨fun _ => rfl, fun _ => rfl, fun _ => rfl, fun _ => rfl, ?_, fun _ => ⟨_, rfl⟩⟩
  rfl

theorem invoke_hello (s : Store) :
    ((hello.routine (printSum (.const ⟨.int, .int 3⟩) (.const ⟨.int, .int 2⟩) ++ [greet])).invoke
      Stock.dictionary.host [] s).outcome = .ok () := by
  have hsum := execAll_printSum [] (x := .const ⟨.int, .int 3⟩) (y := .const ⟨.int, .int 2⟩)
    (a := 3) (b := 2) [greet] rfl
  have hgreet : Step.exec Stock.dictionary.host ⟨[], [⟨.int, .int 5⟩]⟩ greet = _ :=
    exec_print rfl rfl (prints_text _)
  have htemps : Run.ofExcept ([some Ty.int].mapM unsetTemp) = pure [⟨.int, .int 0⟩] := rfl
  have hfive : ((3 + 2 : Int).bmod (Nat.pow 2 64)) = 5 := rfl
  simp only [routine, Routine.invoke, htemps, pure_bind, hsum, hfive, Step.execAll, hgreet]
  rfl

theorem compiles_sum : sum.Compiles (sum.routine (printSum (.param 0) (.param 1))) := by
  refine ⟨fun _ => rfl, fun _ => rfl, fun _ => rfl, fun _ => rfl, ?_, fun _ => ⟨_, rfl⟩⟩
  rfl

theorem invoke_sum (a b : Int) (s : Store) :
    (sum.routine (printSum (.param 0) (.param 1))).invoke Stock.dictionary.host
      [⟨.int, .int a⟩, ⟨.int, .int b⟩] s = ⟨[.wrote (sumText a b)], s, .ok ()⟩ := by
  have hsum := execAll_printSum [⟨.int, .int a⟩, ⟨.int, .int b⟩] (x := .param 0) (y := .param 1)
    (a := a) (b := b) [] rfl
  rw [List.append_nil] at hsum
  have htemps : Run.ofExcept ([some Ty.int].mapM unsetTemp) = pure [⟨.int, .int 0⟩] := rfl
  simp only [routine, Routine.invoke, htemps, pure_bind, hsum, Step.execAll]
  rfl

end Demo

/-! ### The command -/

namespace Command

/-- Integers as arguments. -/
def ints (ns : List Int) : List Value := ns.map fun n => ⟨.int, .int n⟩

/-- The arguments are refused without breaking off, and nothing but `shown` is written. -/
structure RefusesArgs (r : Result) (shown : Bytes) (e : ArgsError) : Prop where
  outcome : r.outcome = .error (.error (.args e))
  panic : e.panic? = none
  output : r.output = shown

/-- The program is invoked with arguments, and what it writes comes after `shown`. -/
structure Invokes (r : Result) (shown : Bytes) (fn : Callable) (vs : List Value) : Prop where
  outcome : r.outcome = (fn.invoke Stock.dictionary.host vs .empty).outcome.mapError .panic
  output : r.output = shown ++ writtenText (fn.invoke Stock.dictionary.host vs .empty).events

/-- How a run that was configured ends, if the program takes integers. -/
theorem run_config {args : List Bytes} {config : Config} {d : Demo} {fn : Callable}
    (hline : (CommandLine.parse args).result = .ok (some config))
    (hd : Demo.find? config.program = some d) (hfn : d.Compiles fn)
    (hints : ∀ t ∈ d.inputs, t = .int) :
    ∃ shown, d.Shows config.dump shown ∧
      ((∃ e, Args.decode config.args d.inputs .empty = .error e ∧ RefusesArgs (run args) shown e) ∨
        ∃ ns, ns.length = d.inputs.length ∧
          Args.decode config.args d.inputs .empty = .ok (ints ns, .empty) ∧
          Invokes (run args) shown fn (ints ns)) := by
  obtain ⟨hout, -⟩ := CommandLine.parse_config hline
  have hlog : Demo.Writes (config.run true).log := by
    simp only [Config.run, hd, RunReport.after]
    refine Demo.writes_append.mpr ⟨Demo.writes_append.mpr ⟨?_, ?_⟩, hfn.writes_runWith config _⟩
    · exact Demo.writes_log (by simp)
    · exact Demo.writes_log (by simp [Log.Attr.Breaks])
  obtain ⟨text, htext⟩ := hlog.write config.logger
  have hrun : (run args).outcome = (d.runWith true config config.logger).result ∧
      (run args).output = (d.runWith true config config.logger).output := by
    simp only [run, hline, hout, htext]
    simp only [Config.run, hd, RunReport.after, List.nil_append, and_self]
  obtain ⟨shown, hshown, hends⟩ := hfn.runWith config config.logger
  refine ⟨shown, hshown, ?_⟩
  rw [← hrun.1, ← hrun.2] at hends
  rcases Args.decode_ints config.args .empty hints with ⟨e, he, hpanic⟩ | ⟨ns, hlen, hns⟩
  · rw [he] at hends ⊢
    rcases hends with ⟨e', he', houtcome, houtput⟩ | ⟨vs, s, hvs, -⟩
    · cases he'
      exact .inl ⟨e, rfl, houtcome, hpanic, houtput⟩
    · cases hvs
  · rw [hns] at hends ⊢
    rcases hends with ⟨e', he', -⟩ | ⟨vs, s, hvs, houtcome, houtput⟩
    · cases he'
    · cases hvs
      exact .inr ⟨ns, hlen, rfl, houtcome, houtput⟩

theorem run_hello {args : List Bytes} {config : Config}
    (hline : (CommandLine.parse args).result = .ok (some config))
    (hd : Demo.find? config.program = some Demo.hello) :
    ∃ shown, Demo.hello.Shows config.dump shown ∧
      ((∃ e, RefusesArgs (run args) shown e) ∨ (run args).outcome = .ok ()) := by
  have hinputs : Demo.hello.inputs = [] := rfl
  obtain ⟨shown, hshown, ⟨e, -, he⟩ | ⟨ns, hlen, -, hns⟩⟩ :=
    run_config hline hd Demo.compiles_hello (by simp [hinputs])
  · exact ⟨shown, hshown, .inl ⟨e, he⟩⟩
  · obtain rfl := List.eq_nil_of_length_eq_zero hlen
    refine ⟨shown, hshown, .inr ?_⟩
    rw [hns.outcome, ints, List.map_nil, Demo.invoke_hello]
    rfl

theorem run_sum {args : List Bytes} {config : Config}
    (hline : (CommandLine.parse args).result = .ok (some config))
    (hd : Demo.find? config.program = some Demo.sum) :
    ∃ shown, Demo.sum.Shows config.dump shown ∧
      ((∃ e, Args.decode config.args [.int, .int] .empty = .error e ∧
          RefusesArgs (run args) shown e) ∨
        ∃ a b, Args.decode config.args [.int, .int] .empty = .ok (ints [a, b], .empty) ∧
          (run args).outcome = .ok () ∧ (run args).output = shown ++ Demo.sumText a b) := by
  have hinputs : Demo.sum.inputs = [.int, .int] := rfl
  obtain ⟨shown, hshown, ⟨e, he, hrefused⟩ | ⟨ns, hlen, hdecode, hns⟩⟩ :=
    run_config hline hd Demo.compiles_sum (by simp [hinputs])
  · exact ⟨shown, hshown, .inl ⟨e, he, hrefused⟩⟩
  · obtain ⟨a, b, rfl⟩ := List.length_eq_two.mp hlen
    have hinvoke := Demo.invoke_sum a b .empty
    refine ⟨shown, hshown, .inr ⟨a, b, hdecode, ?_, ?_⟩⟩
    · rw [hns.outcome, ints, List.map_cons, List.map_cons, List.map_nil, hinvoke]
      rfl
    · rw [hns.output, ints, List.map_cons, List.map_cons, List.map_nil, hinvoke]
      exact congrArg (shown ++ ·) (List.append_nil _)

/-- Whatever the program is, its arguments are refused or the run succeeds. -/
theorem run_ends {args : List Bytes} {config : Config}
    (hline : (CommandLine.parse args).result = .ok (some config)) :
    ∃ d shown, Demo.find? config.program = some d ∧ d.Shows config.dump shown ∧
      ((∃ e, RefusesArgs (run args) shown e) ∨ (run args).outcome = .ok ()) := by
  obtain ⟨-, hknown⟩ := CommandLine.parse_config hline
  obtain ⟨d, hd⟩ := hknown.exists_demo
  rcases Demo.mem_all_cases (List.mem_of_find?_eq_some hd) with rfl | rfl
  · obtain ⟨shown, hshown, hends⟩ := run_hello hline hd
    exact ⟨_, shown, hd, hshown, hends⟩
  · obtain ⟨shown, hshown, ⟨e, -, he⟩ | ⟨a, b, -, houtcome, -⟩⟩ := run_sum hline hd
    · exact ⟨_, shown, hd, hshown, .inl ⟨e, he⟩⟩
    · exact ⟨_, shown, hd, hshown, .inr houtcome⟩

/-- **The outcomes of the command.** For every command line, the command succeeds, or refuses the
command line and ends with code 2, or refuses the arguments of the program; nothing else happens,
and nothing breaks off. If the arguments are refused, only the dump is written, and that only if it
is asked for. The program `sum` succeeds exactly if its arguments are two integers, and writes their
sum as a machine integer after the dump. -/
theorem command_outcome (args : List Bytes) :
    let line := CommandLine.parse args
    let r := run args
    (r.outcome = .ok () ∨
      (∃ e, r.outcome = .error (.error (.usage e)) ∧ (RunError.usage e).code = 2) ∨
      ∃ e, r.outcome = .error (.error (.args e)) ∧ e.panic? = none) ∧
    (∀ e, r.outcome = .error (.error (.args e)) →
      ∃ config d, line.result = .ok (some config) ∧ Demo.find? config.program = some d ∧
        d.Shows config.dump r.output) ∧
    ∀ config, line.result = .ok (some config) → config.program = "sum" →
      (r.outcome = .ok () ↔ ∃ a b s, Args.decode config.args [.int, .int] .empty =
        .ok (ints [a, b], s)) ∧
      ∀ a b s, Args.decode config.args [.int, .int] .empty = .ok (ints [a, b], s) →
        ∃ shown, Demo.sum.Shows config.dump shown ∧ r.output = shown ++ Demo.sumText a b := by
  intro line r
  cases hline : line.result with
  | error e =>
      have houtcome : r.outcome = .error (.error (.usage e)) := by
        simp only [r, run]
        rw [show (CommandLine.parse args).result = .error e from hline]
      rw [houtcome]
      exact ⟨.inr (.inl ⟨e, rfl, rfl⟩), by simp, by simp⟩
  | ok config? =>
      cases config? with
      | none =>
          have houtcome : r.outcome = .ok () := by
            simp only [r, run]
            rw [show (CommandLine.parse args).result = .ok none from hline]
          rw [houtcome]
          exact ⟨.inl rfl, by simp, by simp⟩
      | some config =>
          obtain ⟨d, shown, hd, hshown, hends⟩ := run_ends hline
          refine ⟨?_, fun e he => ?_, ?_⟩
          · rcases hends with ⟨e, he⟩ | hok
            · exact .inr (.inr ⟨e, he.outcome, he.panic⟩)
            · exact .inl hok
          · rcases hends with ⟨e', he'⟩ | hok
            · exact ⟨config, d, rfl, hd, he'.output ▸ hshown⟩
            · rw [hok] at he
              cases he
          · intro config' hconfig hname
            cases hconfig
            obtain ⟨shown, hshown, ⟨e, hdecode, he⟩ | ⟨a, b, hdecode, hok, hout⟩⟩ :=
              run_sum hline (hname ▸ rfl)
            · rw [hdecode]
              refine ⟨⟨fun h => ?_, by simp⟩, by simp⟩
              cases he.outcome.symm.trans h
            · refine ⟨⟨fun _ => ⟨a, b, .empty, hdecode⟩, fun _ => hok⟩, fun a' b' s h => ?_⟩
              rw [hdecode] at h
              cases h
              exact ⟨shown, hshown, hout⟩

/-- The program in capitals, and arguments whose sum is more than a machine integer. -/
def overflowing : List Bytes :=
  ["-dump", "-program", "SUM", "-args", "[1, 9223372036854775807]"].map Bytes.ofString

def overflowingConfig : Config :=
  ⟨"sum", .ofString "[1, 9223372036854775807]", true, "text", "info"⟩

theorem parse_overflowing :
    (CommandLine.parse overflowing).result = .ok (some overflowingConfig) := by
  have hread : Options.initial.read overflowing =
      .ok (⟨.ofString "[1, 9223372036854775807]", true, .ofString "text", .ofString "info",
        .ofString "SUM"⟩, []) := rfl
  unfold CommandLine.parse
  rw [hread]
  simp only [CommandLine.configOf, Bytes.toText_ofString, Text.lower_chars]
  rfl

theorem decode_overflowing : Args.decode overflowingConfig.args [.int, .int] .empty =
    .ok (ints [1, 9223372036854775807], .empty) := by
  have htokens : Formula.Token.ofText overflowingConfig.args =
      [.sign .openBracket, .number (Nat.repr 1), .sign .comma,
        .number (Nat.repr 9223372036854775807), .sign .closeBracket] := by
    rw [overflowingConfig, Formula.Token.ofText, Bytes.runes_ofString]
    rfl
  have hformula : Formula.ofText? overflowingConfig.args =
      (Formula.number? (Nat.repr 1)).bind fun x =>
        (Formula.number? (Nat.repr 9223372036854775807)).bind fun y => some (.tuple [x, y]) := by
    rw [Formula.ofText?, htokens]
    rfl
  rw [Formula.number?_repr (by decide), Formula.number?_repr (by decide)] at hformula
  have hblank : Text.isBlankText overflowingConfig.args = false := by
    rw [overflowingConfig, Text.isBlankText, Bytes.runes_ofString]
    rfl
  unfold Args.decode
  rw [Args.formula?, hblank]
  simp only [hformula]
  rfl

theorem command_outcome_overflow :
    (CommandLine.parse overflowing).result = .ok (some overflowingConfig) ∧
    Args.decode overflowingConfig.args [.int, .int] .empty =
      .ok (ints [1, 9223372036854775807], .empty) ∧
    (run overflowing).outcome = .ok () ∧
    ∃ shown, Demo.sum.Shows true shown ∧
      (run overflowing).output = shown ++ .ofString "-9223372036854775808\n" := by
  obtain ⟨-, -, hsum⟩ := command_outcome overflowing
  obtain ⟨hiff, hout⟩ := hsum overflowingConfig parse_overflowing rfl
  obtain ⟨shown, hshown, houtput⟩ := hout _ _ _ decode_overflowing
  refine ⟨parse_overflowing, decode_overflowing, hiff.mpr ⟨_, _, _, decode_overflowing⟩, shown,
    hshown, ?_⟩
  rw [houtput]
  rfl

end Command

end Tacit
