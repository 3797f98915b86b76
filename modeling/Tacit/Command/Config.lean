import Tacit.Compiler.Demo
import Tacit.Text.Printable

/-!
# Configurations

What the command is to do: which demonstration program to run, with which arguments, and what to
show on the way.
-/

namespace Tacit

/-- What the command is to do. -/
structure Config where
  program : String
  args : Bytes
  dump : Bool
  logFormat : String
  logLevel : String
deriving DecidableEq

/-- Why a configuration is refused. -/
inductive ConfigError where
  | noProgram
  | unknownProgram (name : String)
deriving DecidableEq, Repr

namespace Demo

/-- The names of the demonstration programs, sorted. -/
def names : List String := all.map (·.name)

/-- The description of a demonstration program; there is none of another. -/
def describe (name : String) : String := ((find? name).map (·.description)).getD ""

end Demo

/-- What a refused configuration is reported as. -/
def ConfigError.message : ConfigError → String
  | noProgram => "Program is a required configuration field and cannot be empty"
  | unknownProgram name =>
    "unknown program " ++ Text.quote name ++ ": must be one of [" ++
      " ".intercalate Demo.names ++ "]"

/-- The configuration, if it names a demonstration program. -/
def Config.check (c : Config) : Except ConfigError Config :=
  if c.program = "" then .error .noProgram
  else if (Demo.find? c.program).isSome then .ok c
  else .error (.unknownProgram c.program)

end Tacit
