import Tacit.Command.Config
import Tacit.Text.Casing

/-!
# The command line

Settings are made by flags, `-name value` or `-name=value`, with one dash or two. The switch `dump`
takes a value only after an equals sign. Flags end at the first argument that is none, or after two
dashes alone; a later flag overrides an earlier one. `CommandLine.parse` reads a whole command line.
-/

namespace Tacit

/-- The settings that flags make. -/
inductive Setting where
  | args | dump | logFormat | logLevel | program
deriving DecidableEq, Repr

namespace Setting

/-- All settings, sorted by the names of their flags. -/
def all : List Setting := [args, dump, logFormat, logLevel, program]

/-- The name of the flag. -/
def name : Setting → String
  | args => "args"
  | dump => "dump"
  | logFormat => "log-format"
  | logLevel => "log-level"
  | program => "program"

/-- What the flag is for. -/
def help : Setting → String
  | args => "Values for the program's inputs as an HCL list, e.g. \"[2, 3]\"."
  | dump => "Print the assembled program before running it."
  | logFormat => "Log output format. Options: 'text' or 'json'."
  | logLevel => "Set the logging level. Options: 'debug', 'info', 'warn', 'error'."
  | program => "Demo program to compile and run."

/-- What the setting is without a flag. -/
def default : Setting → String
  | args | dump => ""
  | logFormat => "text"
  | logLevel => "info"
  | program => "hello"

/-- The setting whose flag has a name. -/
def named? (name : Bytes) : Option Setting := all.find? fun s => Bytes.ofString s.name = name

end Setting

/-! ### Usage -/

/-- A text with blanks after it up to a width. -/
def padded (width : Nat) (s : String) : String :=
  s ++ String.ofList (List.replicate (width - s.length) ' ')

/-- The description of a flag. -/
def Setting.usage (s : Setting) : String :=
  "  -" ++ s.name ++ (if s = .dump then "" else " string") ++ "\n    \t" ++ s.help ++
    (if s.default = "" then "" else " (default \"" ++ s.default ++ "\")") ++ "\n"

/-- What the command says of itself. -/
def usage : String :=
  "\nneforth - compiles a tiny stack program into a Go func and runs it.\n\n" ++
  "Usage:\n  neforth [options]\n\nPrograms:\n" ++
  String.join (Demo.all.map fun d => "  " ++ padded 8 d.name ++ " " ++ d.description ++ "\n") ++
  "\nOptions:\n" ++ String.join (Setting.all.map Setting.usage)

/-! ### Reading flags -/

/-- The settings as they are given. -/
structure Options where
  args : Bytes
  dump : Bool
  logFormat : Bytes
  logLevel : Bytes
  program : Bytes
deriving DecidableEq

namespace Options

/-- The settings without any flag. -/
def initial : Options where
  args := .ofString Setting.args.default
  dump := false
  logFormat := .ofString Setting.logFormat.default
  logLevel := .ofString Setting.logLevel.default
  program := .ofString Setting.program.default

/-- The settings with one that is a text changed. -/
def set (o : Options) : Setting → Bytes → Options
  | .args, v => { o with args := v }
  | .dump, _ => o
  | .logFormat, v => { o with logFormat := v }
  | .logLevel, v => { o with logLevel := v }
  | .program, v => { o with program := v }

end Options

/-- Why reading flags stops. -/
inductive FlagFault where
  /-- The description of the flags is asked for. -/
  | help
  | malformed (arg : Bytes)
  | unknown (name : Bytes)
  | needsArgument (s : Setting)
  | notBool (value : Bytes)
deriving DecidableEq

/-- What an argument is. -/
inductive Argument where
  /-- No flag. -/
  | operand
  /-- The end of the flags. -/
  | terminator
  | malformed
  | flag (name : Bytes) (value : Option Bytes)
deriving DecidableEq

namespace Argument

/-- A flag without its dashes: a name, and perhaps an equals sign and a value. -/
def ofName : Bytes → Argument
  | [] => malformed
  | b :: bs =>
    if b = 45 || b = 61 then malformed
    else
      let name := b :: bs.takeWhile (· ≠ 61)
      match bs.dropWhile (· ≠ 61) with
      | [] => flag name none
      | _ :: value => flag name (some value)

/-- Tells what an argument is. -/
def of : Bytes → Argument
  | [45, 45] => terminator
  | 45 :: 45 :: name => ofName name
  | 45 :: b :: name => ofName (b :: name)
  | _ => operand

end Argument

/-- The truth value that a text stands for. -/
def readBool? (s : Bytes) : Option Bool :=
  if ["1", "t", "T", "true", "TRUE", "True"].any fun x => Bytes.ofString x = s then some true
  else if ["0", "f", "F", "false", "FALSE", "False"].any fun x => Bytes.ofString x = s then
    some false
  else none

namespace Options

/-- Reads flags; what is left are the arguments after them. -/
def read (o : Options) : List Bytes → Except FlagFault (Options × List Bytes)
  | [] => .ok (o, [])
  | a :: rest =>
    match Argument.of a with
    | .operand => .ok (o, a :: rest)
    | .terminator => .ok (o, rest)
    | .malformed => .error (.malformed a)
    | .flag name value =>
      match Setting.named? name, value with
      | none, _ =>
        if name = .ofString "help" || name = .ofString "h" then .error .help
        else .error (.unknown name)
      | some .dump, none => read { o with dump := true } rest
      | some .dump, some v =>
        match readBool? v with
        | some b => read { o with dump := b } rest
        | none => .error (.notBool v)
      | some s, some v => read (o.set s v) rest
      | some s, none =>
        match rest with
        | [] => .error (.needsArgument s)
        | v :: rest => read (o.set s v) rest

end Options

/-! ### Command lines -/

/-- Why a command line is refused. -/
inductive UsageError where
  | flag (f : FlagFault)
  | unexpected (arg : Bytes)
  | logFormat
  | logLevel
  | config (e : ConfigError)
deriving DecidableEq

/-- What a fault in the flags is reported as. -/
def FlagFault.message : FlagFault → Bytes
  | help => .ofString "flag: help requested"
  | malformed arg => .ofString "bad flag syntax: " ++ arg
  | unknown name => .ofString "flag provided but not defined: -" ++ name
  | needsArgument s => .ofString ("flag needs an argument: -" ++ s.name)
  | notBool v =>
    .ofString ("invalid boolean value " ++ Text.quoteBytes v ++ " for -dump: parse error")

namespace UsageError

/-- What a refused command line is reported as. -/
def message : UsageError → Bytes
  | flag f => f.message
  | unexpected arg => .ofString ("unexpected argument " ++ Text.quoteBytes arg)
  | logFormat => .ofString "invalid log-format: must be 'text' or 'json'"
  | logLevel => .ofString "invalid log-level: must be 'debug', 'info', 'warn', or 'error'"
  | config e => .ofString e.message

/-- What the process then ends with. -/
def code (_ : UsageError) : Nat := 2

end UsageError

/-- What reading a command line gives: something to do, or nothing after help, or an error. -/
structure CommandLine where
  output : Bytes
  result : Except UsageError (Option Config)

namespace CommandLine

/-- The log formats there are. -/
def formats : List String := ["text", "json"]

/-- The log levels there are. -/
def levels : List String := ["debug", "info", "warn", "error"]

/-- The configuration that settings amount to. -/
def configOf (o : Options) : Except UsageError Config :=
  let logFormat := Text.lower o.logFormat.toText
  let logLevel := Text.lower o.logLevel.toText
  if logFormat ∉ formats then .error .logFormat
  else if logLevel ∉ levels then .error .logLevel
  else
    let config : Config := ⟨Text.lower o.program.toText, o.args, o.dump, logFormat, logLevel⟩
    config.check.mapError .config

/-- Reads a command line. -/
def parse (args : List Bytes) : CommandLine :=
  match Options.initial.read args with
  | .error .help => ⟨.ofString usage, .ok none⟩
  | .error f => ⟨f.message ++ .ofString ("\n" ++ usage), .error (.flag f)⟩
  | .ok (_, a :: _) => ⟨[], .error (.unexpected a)⟩
  | .ok (o, []) => ⟨[], (configOf o).map some⟩

end CommandLine

end Tacit
