import Tacit.Datum.Basic
import Tacit.Value.Run

/-!
# Declarations

What the declarations of a program say about its declared types: what each is made of, which
methods it has and what they answer. Everything about types and values is stated for arbitrary
declarations.

* `Carrier`: how the values of a type hold data of literal notation.
* `Declarations`: the declarations of a program.
* `Ty.underlying`, `Ty.methods`, `Ty.zero`: what they make of types.
-/

namespace Tacit

/-- How the values of a type hold data of literal notation, unknown ones among them. -/
structure Carrier where
  read : Data → Datum
  write : Datum → Data

/-- The declarations of a program. -/
class Declarations where
  /-- The declared types, other than interfaces. -/
  all : List Declared
  /-- What a declared type is made of. -/
  underlying : Declared → Ty
  /-- The methods on values of the type. -/
  methods : Declared → List Method
  /-- The methods that only a pointer to the type has. -/
  pointerMethods : Declared → List Method
  /-- What a method that tells a text answers; it does come back. The receiver is the data that the
  method is declared on, a value or a pointer. -/
  answer : Declared → Method → (receiver : Data) → Store → Except Panic Bytes
  /-- How values of the type hold data, for a type that is made for that. -/
  carrier : Declared → Option Carrier
  /-- The text of a value in JSON, or why it has none. It is there for every value: one that
  contains itself has none. -/
  json : Value → Store → Except Bytes Bytes
  /-- The text that a value is written as, or why it has none, where its type has a method of its
  own for that. -/
  marshal : Value → Store → Option (Except Bytes Bytes)
  /-- The data of an unset variable of the type. -/
  zero : Declared → Data
  underlying_isPlain : ∀ d, (underlying d).isPlain = true
  /-- A variable starts out as its parts do. There is one solution to this at most, and none for a
  type that is a part of itself. -/
  zeroWith_underlying : ∀ d, (underlying d).zeroWith zero = zero d
  /-- What is not declared is made of nothing. -/
  underlying_undeclared : ∀ d, d ∉ all → underlying d = .struct []
  carrier_undeclared : ∀ d, d ∉ all → carrier d = none
  /-- A type that holds data is a struct. -/
  underlying_carrier : ∀ d, (carrier d).isSome = true → (underlying d).isStruct = true

section

variable [Declarations]

/-- What a declared type is made of. -/
def Declared.underlying (d : Declared) : Ty := Declarations.underlying d

namespace Ty

/-- The type without its declaration. -/
def underlying : Ty → Ty
  | declared d => d.underlying
  | t => t

/-- The methods a value of the type can be asked for. -/
def methods : Ty → List Method
  | declared d => Declarations.methods d
  | pointer (declared d) => Declarations.methods d ++ Declarations.pointerMethods d
  | interface i => i.methods
  | _ => []

/-- How values of the type hold data, for a type that is made for that. -/
def carrier? : Ty → Option Carrier
  | declared d => Declarations.carrier d
  | _ => none

/-- Parameters, results and whether it is variadic, for a func type. -/
def func? (t : Ty) : Option (List Ty × List Ty × Bool) :=
  match t.underlying with
  | func ps rs v => some (ps, rs, v)
  | _ => none

theorem isPlain_underlying (d : Declared) : d.underlying.isPlain = true :=
  Declarations.underlying_isPlain d

/-- No type is made of a declared one. -/
theorem underlying_ne_declared (t : Ty) (d : Declared) : t.underlying ≠ declared d := by
  intro h
  cases t with
  | declared d' =>
      have hplain := isPlain_underlying d'
      rw [show d'.underlying = declared d from h] at hplain
      cases hplain
  | _ => cases h

/-- What a type is made of is made of itself. -/
theorem underlying_underlying (t : Ty) : t.underlying.underlying = t.underlying := by
  cases h : t.underlying with
  | declared d => exact absurd h (t.underlying_ne_declared d)
  | _ => rfl

/-! ### Unset variables -/

/-- The data of an unset variable. -/
def zero (t : Ty) : Data := t.zeroWith Declarations.zero

/-- The data of unset fields. -/
def zeros (fs : List (Field Ty)) : List Data := zerosWith Declarations.zero fs

/-- A declared type and what it is made of have the same zero. -/
theorem zero_underlying (t : Ty) : t.underlying.zero = t.zero := by
  cases t with
  | declared d => exact Declarations.zeroWith_underlying d
  | _ => rfl

theorem zeros_eq_map : ∀ fs : List (Field Ty), zeros fs = fs.map fun f => f.type.zero
  | [] => rfl
  | ⟨_, t, _, _, _⟩ :: fs => by
      show t.zero :: zeros fs = _
      rw [zeros_eq_map fs]
      rfl

/-- **Induction along unset variables.** An array and a struct start out as their parts do, and a
declared type as what it is made of. No type is a part of itself, as the data of a part is smaller
than that of the whole. -/
theorem zero_induction {motive : Ty → Prop} (basic : ∀ b, motive (.basic b))
    (array : ∀ n t, (n ≠ 0 → motive t) → motive (.array n t))
    (struct : ∀ fs : List (Field Ty), (∀ f ∈ fs, motive f.type) → motive (.struct fs))
    (declared : ∀ d : Declared, motive d.underlying → motive (.declared d))
    (nil : ∀ t : Ty, t.zero = .nil → motive t) (t : Ty) : motive t := by
  induction hsize : sizeOf t.zero using Nat.strongRecOn generalizing t with
  | ind size ih =>
      -- what a declared type is made of has the same data, so it is dealt with apart
      have plain : ∀ u : Ty, sizeOf u.zero = size → (∀ d, u ≠ .declared d) → motive u := by
        intro u hu hplain
        have part : ∀ v : Ty, ∀ ds, u.zero = .tuple ds → v.zero ∈ ds → motive v := by
          intro v ds hds hv
          refine ih _ ?_ v rfl
          have := List.sizeOf_lt_of_mem hv
          rw [← hu, hds, Data.tuple.sizeOf_spec]
          omega
        cases u with
        | basic b => exact basic b
        | declared d => exact absurd rfl (hplain d)
        | array n v =>
            refine array n v fun hn => part v _ rfl ?_
            exact List.mem_replicate.mpr ⟨hn, rfl⟩
        | struct fs =>
            refine struct fs fun f hf => part f.type _ rfl ?_
            show f.type.zero ∈ zeros fs
            rw [zeros_eq_map]
            exact List.mem_map_of_mem hf
        | _ => exact nil _ rfl
      cases t with
      | declared d =>
          refine declared d (plain _ ?_ (underlying_ne_declared (.declared d)))
          rw [← hsize, ← zero_underlying (.declared d)]
          rfl
      | _ => exact plain _ hsize fun d hd => by cases hd

end Ty

/-- The value of an unset variable. -/
def Value.zero (t : Ty) : Value := ⟨t, t.zero⟩

end

/-! ### Tables of declarations -/

/-- What the declaration of a type says. -/
structure Declaration where
  underlying : Ty
  zero : Data
  methods : List Method := []
  pointerMethods : List Method := []
  answer : Method → Data → Store → Except Panic Bytes := fun _ _ _ => .ok []
  carrier : Option Carrier := Option.none

/-- The declaration of what is not declared. -/
def Declaration.none : Declaration := { underlying := .struct [], zero := .tuple [] }

/-- The declaration of a type in a table. -/
def Declaration.find (table : List (Declared × Declaration)) (d : Declared) : Declaration :=
  (table.lookup d).getD .none

/-- A type is declared in a table, or it has the declaration of what is not declared. -/
theorem Declaration.find_cases (table : List (Declared × Declaration)) (d : Declared) :
    (d, find table d) ∈ table ∨ find table d = .none := by
  unfold find
  cases h : table.lookup d with
  | none => exact .inr rfl
  | some x =>
      obtain ⟨l₁, l₂, rfl, -⟩ := List.lookup_eq_some_iff.mp h
      exact .inl (List.mem_append_right _ List.mem_cons_self)

/-- The declarations in a table, if each of them is in order. None of the types has a method for
how it is written. -/
@[reducible]
def Declarations.ofTable (table : List (Declared × Declaration))
    (json : Value → Store → Except Bytes Bytes)
    (hplain : ∀ p ∈ table, p.2.underlying.isPlain = true)
    (hzero : ∀ p ∈ table,
      p.2.underlying.zeroWith (fun d => (Declaration.find table d).zero) = p.2.zero)
    (hcarrier : ∀ p ∈ table, p.2.carrier.isSome = true → p.2.underlying.isStruct = true) :
    Declarations where
  all := table.map (·.1)
  underlying d := (Declaration.find table d).underlying
  methods d := (Declaration.find table d).methods
  pointerMethods d := (Declaration.find table d).pointerMethods
  answer d := (Declaration.find table d).answer
  carrier d := (Declaration.find table d).carrier
  json := json
  marshal _ _ := Option.none
  zero d := (Declaration.find table d).zero
  underlying_isPlain d := by
    rcases Declaration.find_cases table d with h | h
    · exact hplain _ h
    · rw [h]
      rfl
  zeroWith_underlying d := by
    rcases Declaration.find_cases table d with h | h
    · exact hzero _ h
    · rw [h]
      rfl
  underlying_undeclared d hd := by
    rcases Declaration.find_cases table d with h | h
    · exact absurd (List.mem_map_of_mem h) hd
    · rw [h]
      rfl
  carrier_undeclared d hd := by
    rcases Declaration.find_cases table d with h | h
    · exact absurd (List.mem_map_of_mem h) hd
    · rw [h]
      rfl
  underlying_carrier d hc := by
    rcases Declaration.find_cases table d with h | h
    · exact hcarrier _ h hc
    · rw [h] at hc
      cases hc

end Tacit
