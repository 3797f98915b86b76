import Tacit.Catalogue
import Tacit.Type.Text

/-!
# Reading the text of a type

`Ty.ofText?` reads what `Ty.text` writes, except for struct types with tags.
-/

namespace Tacit.Ty

open scoped Catalogue

/-- Types that are written as a name. -/
def named : List (String × Ty) :=
  [Basic.bool, .string, .int, .int8, .int16, .int32, .int64, .uint, .uint8, .uint16, .uint32,
    .uint64, .uintptr, .float32, .float64, .complex64, .complex128, .unsafePointer].map
      (fun b => (b.text, .basic b)) ++
  [Interface.any, .error, .stringer, .writer, .both, .stringMethod].map
      (fun i => (i.text, .interface i)) ++
  Declarations.all.map (fun d => (d.text, .declared d))

/-- What follows `front` at the start of a text. -/
def after? (front : String) (cs : List Char) : Option (List Char) :=
  if front.toList.isPrefixOf cs then some (cs.drop front.length) else none

/-- The longest name of a type that a text starts with. -/
def readName? (cs : List Char) : Option (Ty × List Char) :=
  let hits := named.filterMap fun (n, t) => (after? n cs).map fun rest => (t, rest)
  hits.foldl (fun best hit =>
    match best with
    | some b => if hit.2.length < b.2.length then some hit else some b
    | none => some hit) none

mutual
/-- A type at the start of a text, and the rest. -/
def read? : (fuel : Nat) → List Char → Option (Ty × List Char)
  | 0, _ => none
  | fuel + 1, cs =>
    match cs with
    | '[' :: ']' :: rest => (read? fuel rest).map fun (t, r) => (.slice t, r)
    | '*' :: rest => (read? fuel rest).map fun (t, r) => (.pointer t, r)
    | '[' :: rest => do
      let digits := rest.takeWhile Char.isDigit
      let n ← (String.ofList digits).toNat?
      let rest ← after? "]" (rest.drop digits.length)
      let (t, r) ← read? fuel rest
      return (.array n t, r)
    | cs =>
      if let some rest := after? "map[" cs then do
        let (k, rest) ← read? fuel rest
        let (t, r) ← read? fuel (← after? "]" rest)
        return (.map k t, r)
      else if let some rest := after? "<-chan " cs then
        (read? fuel rest).map fun (t, r) => (.channel .receive t, r)
      else if let some rest := after? "chan<- " cs then
        (read? fuel rest).map fun (t, r) => (.channel .send t, r)
      else if let some rest := after? "chan (" cs then do
        let (t, rest) ← read? fuel rest
        return (.channel .both t, ← after? ")" rest)
      else if let some rest := after? "chan " cs then
        (read? fuel rest).map fun (t, r) => (.channel .both t, r)
      else if let some rest := after? "func(" cs then do
        let (ps, variadic, rest) ← readParams? fuel rest
        match after? " (" rest with
        | some rest => do
          let (rs, _, rest) ← readParams? fuel rest
          return (.func ps rs variadic, rest)
        | none =>
          match (after? " " rest).bind (read? fuel) with
          | some (r, rest) => return (.func ps [r] variadic, rest)
          | none => return (.func ps [] variadic, rest)
      else if let some rest := after? "struct \x7b\x7d" cs then some (.struct [], rest)
      else if let some rest := after? "struct \x7b " cs then do
        let (fs, rest) ← readFields? fuel rest
        return (.struct fs, rest)
      else readName? cs
/-- Types up to a closing parenthesis, and whether the last one has dots. -/
def readParams? : (fuel : Nat) → List Char → Option (List Ty × Bool × List Char)
  | 0, _ => none
  | fuel + 1, cs =>
    match cs with
    | ')' :: rest => some ([], false, rest)
    | '.' :: '.' :: '.' :: rest => do
      let (t, rest) ← read? fuel rest
      return ([.slice t], true, ← after? ")" rest)
    | cs => do
      let (t, rest) ← read? fuel cs
      match after? ", " rest with
      | some rest => do
        let (ts, v, rest) ← readParams? fuel rest
        return (t :: ts, v, rest)
      | none => return ([t], false, ← after? ")" rest)
/-- Fields up to a closing brace. -/
def readFields? : (fuel : Nat) → List Char → Option (List (Field Ty) × List Char)
  | 0, _ => none
  | fuel + 1, cs => do
    let name := cs.takeWhile (· ≠ ' ')
    let (t, rest) ← read? fuel (cs.drop (name.length + 1))
    let f := Field.plain (String.ofList name) t
    match after? "; " rest with
    | some rest => do
      let (fs, rest) ← readFields? fuel rest
      return (f :: fs, rest)
    | none => return ([f], ← after? " \x7d" rest)
end

/-- The type with a text. -/
def ofText? (s : String) : Option Ty :=
  match read? (s.length + 1) s.toList with
  | some (t, []) => some t
  | _ => none

end Tacit.Ty
