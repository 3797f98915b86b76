import Tacit.Number.Shortest
import Tacit.Value.Convert
import Tacit.Value.Show

/-!
# Log records

A record has a level, a message and named attributes. A logger lets records from its level on pass
and drops the others; one without a level drops all. What a logger knows, such as a name, is in
every record it lets pass. A context carries the logger that is in force; without one nothing is
kept.
-/

namespace Tacit.Log

/-- How important a record is; larger is more. -/
abbrev Level := Int

def debug : Level := -4
def info : Level := 0
def warn : Level := 4
def error : Level := 8

/-- The name of a level: that of the nearest named one below it, and the distance from there. -/
def levelName (l : Level) : String :=
  let offset (name : String) (base : Level) : String :=
    if l = base then name
    else if l < base then name ++ Text.decimal (l - base)
    else name ++ "+" ++ Text.decimal (l - base)
  if l < info then offset "DEBUG" debug
  else if l < warn then offset "INFO" info
  else if l < error then offset "WARN" warn
  else offset "ERROR" error

/-- What an attribute holds. -/
inductive Attr where
  | text (s : String)
  | number (n : Int)
  /-- A value of a program, or nil. -/
  | value (v : Option Value)
  /-- A text that is made for the record, or what making it breaks off with. -/
  | made (text : Except Panic String)

/-- A log record. -/
structure Record where
  level : Level
  message : String
  attrs : List (String × Attr)

/-- A floating-point number in a record has sixty-four bits. -/
def widened (v : Value) : Value :=
  if v.type = .basic .float32 then ⟨.basic .float64, Basic.ofNumber .float64 v.data⟩ else v

/-- The plain text of an attribute. -/
def Attr.plain [Declarations] (s : Store) : Attr → Except Panic Bytes
  | text t => .ok (.ofString t)
  | number n => .ok (.ofString (Text.decimal n))
  | value v => showContent (v.map widened) s
  | made t => t.map Bytes.ofString

/-- How records are written. -/
inductive Format where
  | pairs | json
deriving DecidableEq, Repr

/-- Which records are kept, and what is done with them. -/
structure Logger where
  minimum : Option Level
  /-- The format that records are written in; without one they are passed on as they are. -/
  format : Option Format := none
  /-- What is known of every record, each with its name. -/
  known : List (String × String) := []

/-- Keeps nothing. -/
def Logger.discard : Logger := ⟨none, none, []⟩

/-- Whether records of a level are kept. -/
def Logger.enabled (lg : Logger) (l : Level) : Bool :=
  match lg.minimum with
  | some m => m ≤ l
  | none => false

/-- The record, if it is kept. -/
def Logger.log (lg : Logger) (level : Level) (message : String) (attrs : List (String × Attr)) :
    List Record :=
  if lg.enabled level then [⟨level, message, lg.known.map (fun (k, x) => (k, .text x)) ++ attrs⟩]
  else []

/-! ### The logger in force -/

/-- What is carried along from call to call. -/
structure Context where
  current : Option Logger := none

namespace Context

/-- No logger is in force. -/
def empty : Context := ⟨none⟩

/-- The context in which another logger, or none, is in force. -/
def withLogger (_ : Context) (lg : Option Logger) : Context := ⟨lg⟩

/-- The logger in force. -/
def logger (c : Context) : Logger := c.current.getD .discard

@[simp] theorem logger_empty : empty.logger = .discard := rfl

@[simp] theorem logger_withLogger (c : Context) (lg : Option Logger) :
    (c.withLogger lg).logger = lg.getD .discard := rfl

end Context

end Tacit.Log
