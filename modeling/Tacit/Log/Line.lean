import Tacit.Log.Record
import Tacit.Text.Basic
import Tacit.Text.Casing
import Tacit.Text.Printable

/-!
# Log lines

Records are written one to a line, as `key=value` pairs or as objects in JSON. In pairs a text is
quoted only if it has to be. Levels and formats are chosen by texts; any other text chooses what is
usual.
-/

namespace Tacit.Log

/-! ### Levels -/

/-- The capital of a letter, where that is a letter from A to Z; other characters stay. -/
def capital (c : Char) : Char :=
  if c = 'ı' then 'I' else if c = 'ſ' then 'S' else c.toUpper

/-- The level of a name, in letters of any case. -/
def namedLevel? (name : List Char) : Option Level :=
  match String.ofList (name.map capital) with
  | "DEBUG" => some debug
  | "INFO" => some info
  | "WARN" => some warn
  | "ERROR" => some error
  | _ => none

/-- The largest distance from a named level. -/
def maxOffset : Int := Nat.pow 2 63 - 1

/-- A signed distance from a named level; the sign has to be there. -/
def offset? : List Char → Option Int
  | sign :: digits =>
    if digits.isEmpty || !digits.all Char.isDigit then none
    else
      let n : Int := digits.foldl (fun n c => 10 * n + (c.toNat - 48)) 0
      if sign = '-' then if n ≤ maxOffset + 1 then some (-n) else none
      else if n ≤ maxOffset then some n else none
  | [] => some 0

/-- The level that a text chooses: a name, and perhaps a distance from there. -/
def readLevel? (s : String) : Option Level := do
  let cs := (Text.lower s).toList
  let isSign (c : Char) : Bool := c = '+' || c = '-'
  let base ← namedLevel? (cs.takeWhile (!isSign ·))
  let n ← offset? (cs.dropWhile (!isSign ·))
  return (base + n).bmod (Nat.pow 2 64)

/-! ### Formats -/

/-- The format that a text chooses. -/
def Format.ofText (s : String) : Format := if Text.sameLetters s "json" then .json else .pairs

/-- The logger that texts for the level and the format choose. -/
def Logger.ofText (level format : String) : Logger :=
  ⟨some ((readLevel? level).getD info), some (.ofText format), []⟩

/-! ### Pairs -/

/-- Whether a text with the character has to be quoted. -/
def needsQuotes (c : Char) : Bool :=
  if c.toNat < 0x80 then c.toNat < 0x20 || c = ' ' || c = '=' || c = '"'
  else c = '�' || Text.isBlank c || !Text.isPrintable c

/-- A text as the value of a pair. -/
def pairText (s : Bytes) : Bytes :=
  if s.isEmpty || s.runes.any fun r => r.char?.all needsQuotes then .ofString (Text.quoteBytes s)
  else s

/-! ### Lines -/

/-- Texts with a separator between. -/
def separated (sep : Bytes) : List Bytes → Bytes
  | [] => []
  | [b] => b
  | b :: bs => b ++ sep ++ separated sep bs

/-- What is written in place of a text that there is none of. -/
def complaint (reason : Bytes) : Bytes := .ofString "!ERROR:" ++ reason

variable [Declarations]

/-- The bytes in a list of bytes. -/
def bytes? (v : Value) (s : Store) : Option Bytes :=
  match v.type.underlying with
  | .slice t =>
    if t.underlying = .basic .uint8 then
      some ((s.sliceItems v.data).map fun | .int n => n.toNat.toUInt8 | _ => 0)
    else none
  | _ => none

/-- A value as the value of a pair. -/
def valuePair (s : Store) (v : Value) : Except Panic Bytes :=
  match Declarations.marshal v s, bytes? v s with
  | some (.ok x), _ => .ok (pairText x)
  | some (.error e), _ => .ok (pairText (complaint e))
  | none, some x => .ok (.ofString (Text.quoteBytes x))
  | none, none => (v.showAs true s).map pairText

/-- A value in JSON. -/
def valueJson (s : Store) (v : Value) : Bytes :=
  match Declarations.json v s with
  | .ok x => x
  | .error e => Text.jsonText (complaint e)

/-- An attribute in a format. -/
def Attr.written (f : Format) (s : Store) : Attr → Except Panic Bytes
  | .number n => .ok (.ofString (Text.decimal n))
  | .text t => .ok (quoted (.ofString t))
  | .made t => t.map fun t => quoted (.ofString t)
  | .value none => .ok (.ofString (match f with | .pairs => "<nil>" | .json => "null"))
  | .value (some v) =>
    match f with
    | .pairs => valuePair s (widened v)
    | .json => .ok (valueJson s (widened v))
where
  quoted : Bytes → Bytes := match f with | .pairs => pairText | .json => Text.jsonText

/-- A named attribute in a format. -/
def writtenField (f : Format) (s : Store) (field : String × Attr) : Except Panic Bytes :=
  let name := Bytes.ofString field.1
  (field.2.written f s).map fun x => match f with
    | .pairs => pairText name ++ .ofString "=" ++ x
    | .json => Text.jsonText name ++ .ofString ":" ++ x

/-- The level, the message and the attributes of a record. -/
def Record.fields (r : Record) : List (String × Attr) :=
  ("level", .text (levelName r.level)) :: ("msg", .text r.message) :: r.attrs

/-- A record as a line. -/
def Record.line (f : Format) (s : Store) (r : Record) : Except Panic Bytes := do
  let fields ← r.fields.mapM (writtenField f s)
  return match f with
    | .pairs => separated (.ofString " ") fields ++ .ofString "\n"
    | .json => .ofString "\x7b" ++ separated (.ofString ",") fields ++ .ofString "\x7d\n"

/-- Makes the text of an attribute that is made for its record. -/
def Attr.make : Attr → Except Panic Unit
  | .made t => t.map fun _ => ()
  | _ => .ok ()

/-- What a logger makes of a record that it keeps: a line, or nothing if the record is passed on as
it is. -/
def Logger.handle (lg : Logger) (s : Store) (r : Record) : Except Panic Bytes :=
  match lg.format with
  | some f => r.line f s
  | none => do
    r.attrs.forM fun (_, a) => a.make
    return []

/-- What a logger makes of records, one after the other. -/
def Logger.write (lg : Logger) (s : Store) (rs : List Record) : Except Panic Bytes :=
  (rs.mapM (lg.handle s)).map List.flatten

end Tacit.Log
