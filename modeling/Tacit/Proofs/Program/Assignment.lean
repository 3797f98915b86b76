import Tacit.Proofs.Program.Conversion

/-!
# Assignment, and conversions that change nothing

An assignment puts a value into a variable of another type without a conversion. Where a conversion
is made all the same, it has to do what the assignment would have done.

* `Ty.assignable_cases`: when a value of one type can be assigned to a variable of another.
* `Value.assigned v t`: what a variable of type `t` holds after `v` is assigned to it.
* `Ty.conversion?_of_assignable`: a conversion between such types, where one is needed, puts the
  value under the other type or into the interface.
* `Value.stored_eq_assigned`, `Value.cast_of_assignable`: with and without a conversion, the
  parameter holds what an assignment stores.
* `Value.Proper`: the value is one that a variable of its type can hold. `Value.convert_self`: the
  conversion of such a value to its own type leaves it as it is.
-/

namespace Tacit

/-! ### Types -/

namespace Ty

variable {a b : Ty}

mutual
theorem alike_self : ∀ t : Ty, alike t t = true
  | basic _ | interface _ | declared _ => by simp [alike]
  | slice t | pointer t => by rw [alike, alike_self t]
  | array _ t | channel _ t => by simp [alike, alike_self t]
  | map k t => by rw [alike, alike_self k, alike_self t]; rfl
  | func ps rs _ => by simp [alike, alikeAll_self ps, alikeAll_self rs]
  | struct fs => by rw [alike, alikeFields_self fs]
theorem alikeAll_self : ∀ ts : List Ty, alikeAll ts ts = true
  | [] => by rw [alikeAll]
  | t :: ts => by rw [alikeAll, alike_self t, alikeAll_self ts]; rfl
theorem alikeFields_self : ∀ fs : List (Field Ty), alikeFields fs fs = true
  | [] => by rw [alikeFields]
  | ⟨_, t, _, _, _⟩ :: fs => by simp [alikeFields, alike_self t, alikeFields_self fs]
end

variable [Declarations]

/-- No declared type is made of an interface. -/
theorem eq_of_underlying_interface {i : Interface} (h : a.underlying = interface i) :
    a = interface i := by
  cases a with
  | declared d =>
      have hplain := isPlain_underlying d
      rw [show d.underlying = interface i from h] at hplain
      cases hplain
  | _ => exact h

/-- A type that is made of a predeclared one has a name. -/
theorem isNamed_of_underlying_basic {x : Basic} (h : a.underlying = basic x) :
    a.isNamed = true := by
  cases a with
  | basic | declared => rfl
  | _ => cases h

theorem channelFits_eq_true (h : channelFits a b = true) :
    ∃ dir elem elem', a.underlying = channel .both elem ∧ b.underlying = channel dir elem' := by
  unfold channelFits at h
  split at h
  · rename_i ha hb
    exact ⟨_, _, _, ha, hb⟩
  · cases h

/-- **When a value can be assigned** to a variable of a different type: one of the types has no name
and they are made of the same type, or of channels that fit; or the variable is an interface. -/
theorem assignable_cases (h : a.assignable b = true) (hne : a ≠ b) :
    (sameRepresentation a b = true ∧ (a.isNamed = false ∨ b.isNamed = false) ∧
      (channelFits a b = true ∨ a.underlying = b.underlying)) ∨
    (sameRepresentation a b = false ∧ ∃ i, b = interface i ∧ a.implements i = true) := by
  cases hsame : sameRepresentation a b with
  | true =>
      simp only [sameRepresentation, hne, decide_false, Bool.false_or, Bool.and_eq_true,
        Bool.or_eq_true, Bool.not_eq_true', decide_eq_true_eq] at hsame
      exact .inl ⟨rfl, hsame⟩
  | false =>
      rw [assignable, hsame, Bool.false_or] at h
      cases b with
      | interface i => exact .inr ⟨rfl, i, rfl, h⟩
      | _ => cases h

/-- A variable that takes a value as it stands is an interface only if the value is of that type. -/
theorem isInterface_of_sameRepresentation (h : sameRepresentation a b = true)
    (hb : b.isInterface = true) : a.isInterface = true := by
  by_cases hab : a = b
  · rw [hab]
    exact hb
  rcases assignable_cases (by rw [assignable, h]; rfl) hab with ⟨-, -, hfits | hu⟩ | ⟨hsame, -⟩
  · obtain ⟨dir, elem, elem', -, hch⟩ := channelFits_eq_true hfits
    cases b with
    | interface i => cases hch
    | _ => cases hb
  · cases b with
    | interface i =>
        rw [eq_of_underlying_interface hu]
        rfl
    | _ => cases hb
  · rw [h] at hsame
    cases hsame

/-- Between types that differ, an assignment never asks for other contents. -/
theorem contentConversion?_of_assignable (h : a.assignable b = true) (hne : a ≠ b) :
    contentConversion? a b = none := by
  cases hc : contentConversion? a b with
  | none => rfl
  | some c =>
      exfalso
      have hconv := contentConversion?_eq_some.mp hc
      rcases assignable_cases h hne with ⟨-, hnamed, hfits | hu⟩ | ⟨-, i, rfl, -⟩
      · obtain ⟨dir, elem, elem', ha, -⟩ := channelFits_eq_true hfits
        rw [ha] at hconv
        cases hconv
      · -- numbers have names, so two types of the same numbers are not assignable
        have hbasic : ∀ {x}, a.underlying = basic x → False := by
          intro x hx
          rw [isNamed_of_underlying_basic hx, isNamed_of_underlying_basic (hu ▸ hx)] at hnamed
          simp at hnamed
        rw [← hu] at hconv
        generalize hau : a.underlying = u at hconv hbasic
        cases hconv with
        | real | complex => exact hbasic rfl
      · generalize a.underlying = u at hconv
        cases hconv

/-- Channels that fit and types made of the same type are put under each other's names. -/
theorem relabels_of_fits (h : channelFits a b = true ∨ a.underlying = b.underlying) :
    relabels a b = true := by
  unfold relabels
  rcases h with h | h
  · simp [h]
  · simp [h, alike_self]

/-- Nothing but an interface is put under the name of one. -/
theorem relabels_interface (ha : a.isInterface = false) (i : Interface) :
    relabels a (interface i) = false := by
  cases hr : relabels a (interface i) with
  | false => rfl
  | true =>
      exfalso
      simp only [relabels, Bool.or_eq_true] at hr
      rcases hr with (hfits | halike) | hpointer
      · obtain ⟨dir, elem, elem', -, hch⟩ := channelFits_eq_true hfits
        cases hch
      · have hu : ∃ j, a.underlying = interface j := by
          generalize a.underlying = u at halike
          cases u with
          | interface j => exact ⟨j, rfl⟩
          | _ => simp [alike, underlying] at halike
        obtain ⟨j, hj⟩ := hu
        rw [eq_of_underlying_interface hj] at ha
        cases ha
      · simp at hpointer

theorem isInterface_of_isValue (h : a.isValue = true) : a.isInterface = false := by
  cases hbox : a.isInterface with
  | false => rfl
  | true =>
      rw [isValue_of_isInterface hbox] at h
      cases h

theorem isValue_of_fits (h : channelFits a b = true ∨ a.underlying = b.underlying) :
    a.isValue = b.isValue := by
  rcases h with h | h
  · obtain ⟨dir, elem, elem', ha, hb⟩ := channelFits_eq_true h
    rw [isValue, ha, isValue, hb]
  · rw [isValue, h, isValue]

/-- **A conversion where an assignment would do** puts the value under the other type, or into the
interface. -/
theorem conversion?_of_assignable (h : a.assignable b = true) (hneed : a.needsConversion b = true) :
    a.isInterface = false ∧
      ((b.isInterface = false ∧ conversion? a b = some .relabel) ∨
        (b.isInterface = true ∧ conversion? a b = some .box)) := by
  simp only [needsConversion, Bool.and_eq_true, Bool.or_eq_true, decide_eq_true_eq] at hneed
  obtain ⟨hne, hvalue⟩ := hneed
  rw [conversion?, contentConversion?_of_assignable h hne]
  rcases assignable_cases h hne with ⟨-, -, hfits⟩ | ⟨-, i, rfl, himpl⟩
  · -- the types are held alike, and one of them by itself
    have hb : b.isValue = true := by
      rw [isValue_of_fits hfits, or_self] at hvalue
      exact hvalue
    have ha : a.isValue = true := (isValue_of_fits hfits).trans hb
    exact ⟨isInterface_of_isValue ha,
      .inl ⟨isInterface_of_isValue hb, if_pos (relabels_of_fits hfits)⟩⟩
  · have ha : a.isInterface = false := by
      rcases hvalue with hvalue | hvalue
      · exact isInterface_of_isValue hvalue
      · cases hvalue
    refine ⟨ha, .inr ⟨rfl, ?_⟩⟩
    rw [relabels_interface ha]
    exact if_pos himpl

/-- A value can be converted to its own type. -/
theorem conversion?_self (t : Ty) : conversion? t t = some .relabel ∨
    ∃ x, t.underlying = basic x ∧ (x.isReal = true ∨ x.isComplex = true) ∧
      conversion? t t = some (.number x) := by
  rw [conversion?]
  cases hc : contentConversion? t t with
  | none => exact .inl (if_pos (relabels_of_fits (.inr rfl)))
  | some c =>
      have hconv := contentConversion?_eq_some.mp hc
      generalize t.underlying = u at hconv
      cases hconv with
      | real hx _ => exact .inr ⟨_, rfl, .inl hx, rfl⟩
      | complex hx _ => exact .inr ⟨_, rfl, .inr hx, rfl⟩

end Ty

/-! ### What an assignment stores -/

namespace Value

variable {v : Value} {t : Ty}

/-- What a variable of type `t` holds after the value is assigned to it. An interface holds the
value with its type, or, if the value is itself an interface, what that holds; a variable of any
other type holds the same data. -/
def assigned (v : Value) (t : Ty) : Data := if t.isInterface then v.boxed else v.data

/-- An interface that a value was assigned to holds that value. -/
theorem content_assigned (v : Value) (ht : t.isInterface = true) :
    (Value.mk t (v.assigned t)).content = v.content := by
  simp only [assigned, ht, if_true, content, boxed]
  cases hv : v.type.isInterface with
  | true => rfl
  | false => rfl

variable [Declarations]

theorem stored_eq_assigned (h : v.type.assignable t = true) : v.stored t = v.assigned t := by
  unfold stored assigned
  cases hsame : Ty.sameRepresentation v.type t with
  | true =>
      cases ht : t.isInterface with
      | true => simp [boxed, Ty.isInterface_of_sameRepresentation hsame ht]
      | false => rfl
  | false =>
      have hne : v.type ≠ t := by
        intro heq
        rw [Ty.sameRepresentation, heq] at hsame
        simp at hsame
      rcases Ty.assignable_cases h hne with ⟨hsame', -⟩ | ⟨-, i, rfl, -⟩
      · rw [hsame] at hsame'
        cases hsame'
      · rfl

/-- A conversion that is made where an assignment would do does what the assignment does. -/
theorem cast_of_assignable (h : v.type.assignable t = true)
    (hneed : v.type.needsConversion t = true) : v.cast v.type t = pure ⟨t, v.assigned t⟩ := by
  obtain ⟨hbox, hconv⟩ := Ty.conversion?_of_assignable h hneed
  rw [cast, hbox, if_neg (by simp), convert]
  rcases hconv with ⟨ht, hc⟩ | ⟨ht, hc⟩
  · simp [hc, apply, assigned, ht]
  · simp [hc, apply, assigned, ht]

end Value

/-! ### Values as variables hold them -/

/-- What a variable of a predeclared type can hold: an integer in the range of the type, or data of
the type's own kind. -/
def Basic.Holds (b : Basic) (d : Data) : Prop :=
  match b.integer? with
  | some (true, bits) =>
    ∃ n, d = .int n ∧ -(Nat.pow 2 (bits - 1) : Int) ≤ n ∧ n < Nat.pow 2 (bits - 1)
  | some (false, bits) => ∃ n, d = .int n ∧ 0 ≤ n ∧ n < Nat.pow 2 bits
  | none =>
    match b with
    | .bool => ∃ x, d = .bool x
    | .string => ∃ s, d = .text s
    | .float32 => ∃ bits, d = .float32 bits
    | .float64 => ∃ bits, d = .float64 bits
    | .complex64 => ∃ re im, d = .complex64 re im
    | .complex128 => ∃ re im, d = .complex128 re im
    | _ => d = .nil

/-- An integer in the range of the type is the one that agrees with it in the type's bits. -/
theorem Basic.ofNumber_int {b : Basic} {signed : Bool} {bits : Nat}
    (hb : b.integer? = some (signed, bits)) {d : Data} (hd : b.Holds d) : b.ofNumber d = d := by
  have hbits : bits = 8 ∨ bits = 16 ∨ bits = 32 ∨ bits = 64 := by
    cases b <;> simp_all [integer?]
  have hint : b.isInteger = true := by rw [isInteger, hb]; rfl
  unfold Holds at hd
  rw [hb] at hd
  cases signed with
  | true =>
      obtain ⟨n, rfl, hlo, hhi⟩ := hd
      simp only [ofNumber, hint, if_true, wrap, hb]
      congr 1
      rcases hbits with rfl | rfl | rfl | rfl <;>
        exact Int.bmod_eq_of_le (by simpa using hlo) (by simpa using hhi)
  | false =>
      obtain ⟨n, rfl, hlo, hhi⟩ := hd
      simp only [ofNumber, hint, if_true, wrap, hb]
      congr 1
      exact Int.emod_eq_of_lt hlo hhi

/-- A number of the type, converted to the type, is the number. -/
theorem Basic.ofNumber_self {b : Basic} (hb : b.isReal = true ∨ b.isComplex = true) {d : Data}
    (hd : b.Holds d) : b.ofNumber d = d := by
  cases hint : b.integer? with
  | some kind => exact ofNumber_int hint hd
  | none =>
      unfold Holds at hd
      rw [hint] at hd
      cases b with
      | float32 =>
          obtain ⟨bits, rfl⟩ := hd
          simp [ofNumber]
      | complex64 | complex128 =>
          obtain ⟨re, im, rfl⟩ := hd
          simp [ofNumber]
      | float64 =>
          obtain ⟨bits, rfl⟩ := hd
          simp [ofNumber, ofReal, integer?, ofDouble]
      | _ => simp_all [isReal, isInteger, isFloat, isComplex, integer?]

variable [Declarations]

/-- The value is one that a variable of its type can hold, as far as the type is made of a
predeclared one. -/
def Value.Proper (v : Value) : Prop := ∀ b, v.type.underlying = .basic b → b.Holds v.data

/-- **A value converted to its own type** is the value. -/
theorem Value.convert_self {v : Value} (hv : v.Proper) : v.convert v.type = pure v := by
  rw [convert]
  rcases Ty.conversion?_self v.type with hc | ⟨x, hx, hnumber, hc⟩
  · simp [hc, apply]
  · simp [hc, apply, Basic.ofNumber_self hnumber (hv x hx)]

end Tacit
