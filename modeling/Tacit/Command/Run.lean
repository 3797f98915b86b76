import Tacit.Args
import Tacit.Command.Flags
import Tacit.Log.Line
import Tacit.Log.Record

/-!
# The command

`Config.run` compiles a demonstration program, shows it if asked to, reads its arguments, and runs
it. `Command.run` does that for a command line, and `Command.process` gives what is seen of it from
outside.
-/

namespace Tacit

open Log (Logger Record)
open scoped Catalogue

/-- Why a run of the command fails. -/
inductive RunError where
  | unknownProgram (name : String)
  | compile (name : String) (e : Error)
  /-- The program could not be shown. -/
  | dump (name : String)
  | args (e : ArgsError)
  | finish (name : String) (e : Error)
  | usage (e : UsageError)

namespace RunError

/-- What could not be done with a program, and why. -/
def failed (verb name reason : String) : Bytes :=
  .ofString ("failed to " ++ verb ++ " program " ++ Text.quote name ++ ": " ++ reason)

/-- What a failed run is reported as. -/
def message : RunError → Bytes
  | unknownProgram name => .ofString ("unknown program " ++ Text.quote name)
  | compile name e => failed "compile" name e.message
  | dump name => failed "dump" name "broken writer"
  | args e => .ofString e.message
  | finish name e => failed "finish" name e.message
  | usage e => e.message

/-- What the process then ends with. -/
def code : RunError → Nat
  | usage e => e.code
  | _ => 1

end RunError

/-- How a run of the command ends badly: with an error, or with a panic. -/
inductive Breakdown where
  | error (e : RunError)
  | panic (p : Panic)

/-- What a run of the command writes, what it logs, and how it ends. -/
structure RunReport where
  output : Bytes
  log : List Record
  result : Except Breakdown Unit

namespace RunReport

/-- The report after more output and records before it. -/
def after (output : Bytes) (log : List Record) (r : RunReport) : RunReport :=
  ⟨output ++ r.output, log ++ r.log, r.result⟩

/-- A report of an error and nothing else. -/
def error (e : RunError) : RunReport := ⟨[], [], .error (.error e)⟩

/-- A report of a failed call on the compiler. -/
def failure (f : Failure) (wrap : Error → RunError) : RunReport :=
  match f with
  | .error e => error (wrap e)
  | .panic p => ⟨[], [], .error (.panic p)⟩

end RunReport

/-- All that a run writes. -/
def writtenText (es : List Event) : Bytes :=
  es.flatMap fun
    | .wrote t => t
    | .called _ _ _ => []

namespace Demo

/-- Runs a finished program. Output is lost if nothing can be written. -/
def call (canWrite : Bool) (fn : Callable) (args : List Value) (s : Store) : RunReport :=
  let effect := fn.invoke Stock.dictionary.host args s
  ⟨if canWrite then writtenText effect.events else [], [], effect.outcome.mapError .panic⟩

/-- Finishes a program and runs it on arguments. -/
def finish (d : Demo) (canWrite : Bool) (lg : Logger) (c : Compiler) (args : List Value)
    (s : Store) : RunReport :=
  let reply := c.finishType s (some d.sig)
  RunReport.after [] reply.log <|
    match reply.result with
    | .error f => .failure f (.finish d.name)
    | .ok fn =>
      let start := lg.log Log.info "Running compiled program."
        [("program", .text d.name), ("signature", .text d.sig.text)]
      let report := (call canWrite fn args s).after [] start
      match report.result with
      | .ok _ => { report with log := report.log ++ lg.log Log.debug "App.Run method finished." [] }
      | .error _ => report

/-- The parameter types of a program. -/
def inputs (d : Demo) : List Ty := (d.sig.func?.map (·.1)).getD []

/-- Reads the arguments of a compiled program, finishes it and runs it. -/
def runCompiled (d : Demo) (canWrite : Bool) (context : Log.Context) (c : Compiler) (args : Bytes) :
    RunReport :=
  match Args.decode args d.inputs Store.empty with
  | .error e => .error (.args e)
  | .ok (vs, s) =>
    let decoded := context.logger.log Log.debug "Program arguments decoded."
      [("count", .number vs.length)]
    (d.finish canWrite context.logger c vs s).after [] decoded

/-- Shows a compiled program if that is asked for. -/
def showCompiled (d : Demo) (canWrite dump : Bool) (c : Compiler) : Except Breakdown Bytes :=
  if dump then
    match Dump.program Store.empty c.assemble with
    | .error p => .error (.panic p)
    | .ok text => if canWrite then .ok (.ofString text) else .error (.error (.dump d.name))
  else .ok []

/-- Compiles a program and runs it. -/
def runWith (d : Demo) (canWrite : Bool) (config : Config) (lg : Logger) : RunReport :=
  let context := Log.Context.empty.withLogger (some lg)
  let reply := d.build (Compiler.new ⟨false, lg, routineRealizer⟩)
  RunReport.after [] reply.log <|
    match reply.result with
    | .error f => .failure f (.compile d.name)
    | .ok _ =>
      let c := reply.compiler
      let compiled := lg.log Log.debug "Program compiled."
        [("inputs", .number c.inputs.length), ("pending", .number c.depth)]
      RunReport.after [] compiled <|
        match d.showCompiled canWrite config.dump c with
        | .error b => ⟨[], [], .error b⟩
        | .ok text => (d.runCompiled canWrite context c config.args).after text []

end Demo

/-- The logger of a configuration. -/
def Config.logger (config : Config) : Logger := .ofText config.logLevel config.logFormat

/-- Runs the program of a configuration. Nothing can be written if `canWrite` is false. -/
def Config.run (config : Config) (canWrite : Bool) : RunReport :=
  let lg := config.logger
  let start := lg.log Log.debug "Logger configured successfully." [] ++
    lg.log Log.debug "App.Run method started." [("program", .text config.program)]
  RunReport.after [] start <|
    match Demo.find? config.program with
    | none => .error (.unknownProgram config.program)
    | some d => d.runWith canWrite config lg

namespace Command

/-- What a run of the command leaves: its output, its log and how it ends. -/
structure Result where
  output : Bytes
  log : Bytes
  outcome : Except Breakdown Unit

/-- Runs the command. -/
def run (args : List Bytes) : Result :=
  let line := CommandLine.parse args
  match line.result with
  | .error e => ⟨line.output, [], .error (.error (.usage e))⟩
  | .ok none => ⟨line.output, [], .ok ()⟩
  | .ok (some config) =>
    let report := config.run true
    match config.logger.write Store.empty report.log with
    | .ok log => ⟨line.output ++ report.output, log, report.result⟩
    | .error p => ⟨line.output, [], .error (.panic p)⟩

/-- What is seen of the command from outside. -/
structure Exit where
  stdout : Bytes
  stderr : Bytes
  code : Nat

/-- Runs the command and reports how it ends. -/
def process (args : List Bytes) : Exit :=
  let r := run args
  match r.outcome with
  | .ok _ => ⟨r.output, r.log, 0⟩
  | .error (.error e) => ⟨r.output, r.log ++ e.message ++ .ofString "\n", e.code⟩
  | .error (.panic p) => ⟨r.output, r.log ++ .ofString "panic: " ++ p.text ++ .ofString "\n", 2⟩

end Command

end Tacit
