import Tacit.Proofs.Program.Meaning

/-!
# When a conversion breaks off

Which conversions between types there are says what can go wrong with a value.

* `Ty.Converts`: the conversions between numbers, and between texts, slices and arrays, as a
  relation on underlying types; `contentConversion?_eq_some` says that these are found.
* `Value.apply_panics`: a conversion breaks off only where a slice is too short for an array.
* `Value.Misfits`: what an interface holds does not convert. `Value.FallsShort`: a slice, out of its
  interface if it is in one, has fewer items than the array that it should become.
* `Value.cast_panics`: a conversion that the types allow, and that is needed, breaks off for one of
  these two reasons.
-/

namespace Tacit

/-- A conversion breaks off only where a slice is too short for an array. -/
theorem Value.apply_panics {v : Value} {s : Store} {p : Panic} {c : Ty.Conversion} :
    (Value.apply c v).Panics s p ↔
    ∃ n, (s.sliceItems v.data).length < n ∧
      (c = .sliceToArray n ∧ p = .shortSlice (s.sliceItems v.data).length n false ∨
        c = .sliceToArrayPointer n ∧ p = .shortSlice (s.sliceItems v.data).length n true) := by
  cases c with
  | sliceToArray n =>
      by_cases hlen : (s.sliceItems v.data).length < n
      · simp [apply, Run.panics_bind, hlen, eq_comm]
      · simp [apply, Run.panics_bind, hlen]
  | sliceToArrayPointer n =>
      by_cases hlen : (s.sliceItems v.data).length < n
      · simp [apply, Run.panics_bind, hlen, eq_comm]
      · cases hd : v.data <;> rw [hd] at hlen <;> simp [apply, Run.panics_bind, hd, hlen]
  | textToBytes | textToRunes => cases hd : v.data <;> simp [apply, hd]
  | number | bytesToText | runesToText | relabel | box => simp [apply]

variable [Declarations]

/-! ### Which conversions there are -/

namespace Ty

/-- The conversion turns values of one underlying type into values of another. -/
inductive Converts : Ty → Ty → Conversion → Prop
  | real {x y : Basic} : x.isReal = true → y.isReal = true →
      Converts (basic x) (basic y) (.number y)
  | complex {x y : Basic} : x.isComplex = true → y.isComplex = true →
      Converts (basic x) (basic y) (.number y)
  | textToBytes : Converts .string (slice (basic .uint8)) .textToBytes
  | textToRunes : Converts .string (slice (basic .int32)) .textToRunes
  | bytesToText : Converts (slice (basic .uint8)) .string .bytesToText
  | runesToText : Converts (slice (basic .int32)) .string .runesToText
  | sliceToArray {elem : Ty} {n : Nat} : Converts (slice elem) (array n elem) (.sliceToArray n)
  | sliceToArrayPointer {elem target : Ty} {n : Nat} : target.underlying = array n elem →
      Converts (slice elem) (pointer target) (.sliceToArrayPointer n)

theorem contentConversion?_eq_some {a b : Ty} {c : Conversion} :
    contentConversion? a b = some c ↔ Converts a.underlying b.underlying c := by
  unfold contentConversion?
  generalize a.underlying = a, b.underlying = b
  constructor
  · intro h
    split at h
    · split at h
      · rename_i hxy
        cases h
        rcases (Bool.or_eq_true _ _).mp hxy with hxy | hxy
        · exact .real (Bool.and_eq_true _ _ ▸ hxy).1 (Bool.and_eq_true _ _ ▸ hxy).2
        · exact .complex (Bool.and_eq_true _ _ ▸ hxy).1 (Bool.and_eq_true _ _ ▸ hxy).2
      · cases h
    · cases h; exact .textToBytes
    · cases h; exact .textToRunes
    · cases h; exact .bytesToText
    · cases h; exact .runesToText
    · split at h
      · rename_i hxy
        cases h
        cases hxy
        exact .sliceToArray
      · cases h
    · split at h
      · split at h
        · rename_i htarget hxy
          cases h
          cases hxy
          exact .sliceToArrayPointer htarget
        · cases h
      · cases h
    · cases h
  · intro h
    cases h with
    | real hx hy => simp [hx, hy]
    | complex hx hy => simp [hx, hy]
    | textToBytes | textToRunes | bytesToText | runesToText => rfl
    | sliceToArray => simp
    | sliceToArrayPointer h => simp [h]

/-- A conversion that changes what a value is made of is the one that is found. -/
theorem conversion?_eq_some {a b : Ty} {c : Conversion} (hr : c ≠ .relabel) (hb : c ≠ .box) :
    conversion? a b = some c ↔ Converts a.underlying b.underlying c := by
  rw [← contentConversion?_eq_some, conversion?]
  cases contentConversion? a b with
  | some c' => rfl
  | none =>
      refine ⟨fun h => ?_, fun h => by cases h⟩
      simp only at h
      split at h
      · cases h
        exact absurd rfl hr
      · split at h
        · cases h
          exact absurd rfl hb
        · cases h

theorem conversion?_eq_sliceToArray {a b : Ty} {n : Nat} :
    conversion? a b = some (.sliceToArray n) ↔
      ∃ elem, a.underlying = slice elem ∧ b.underlying = array n elem := by
  rw [conversion?_eq_some (c := .sliceToArray n) (by simp) (by simp)]
  generalize a.underlying = a, b.underlying = b
  constructor
  · rintro ⟨⟩
    exact ⟨_, rfl, rfl⟩
  · rintro ⟨elem, rfl, rfl⟩
    exact .sliceToArray

/-- Where one of the types is held by itself, there is no conversion to a pointer to an array. -/
theorem conversion?_ne_sliceToArrayPointer {a b : Ty} (h : a.isValue = true ∨ b.isValue = true)
    (n : Nat) : conversion? a b ≠ some (.sliceToArrayPointer n) := by
  intro hc
  rw [conversion?_eq_some (c := .sliceToArrayPointer n) (by simp) (by simp)] at hc
  unfold isValue at h
  generalize a.underlying = a, b.underlying = b at h hc
  cases hc
  simp at h

/-- An interface is held by reference. -/
theorem isValue_of_isInterface {t : Ty} (h : t.isInterface = true) : t.isValue = false := by
  cases t with
  | interface i => rfl
  | _ => cases h

end Ty

/-! ### What can go wrong -/

namespace Value

variable {v : Value} {t : Ty} {s : Store} {p : Panic}

/-- What an interface holds does not convert to `t`, if it holds anything: `p` says which. -/
def Misfits (v : Value) (t : Ty) (p : Panic) : Prop :=
  match v.content with
  | none => p = .emptyBox v.type t
  | some c => c.type.convertible t = false ∧ p = .boxContent c.type t

/-- The value, or what it holds if it is an interface, is a slice, and `t` an array of the same
elements that is longer: `p` gives the lengths. -/
def FallsShort (v : Value) (t : Ty) (s : Store) (p : Panic) : Prop :=
  ∃ c elem n, v.content = some c ∧ c.type.underlying = .slice elem ∧ t.underlying = .array n elem ∧
    (s.sliceItems c.data).length < n ∧ p = .shortSlice (s.sliceItems c.data).length n false

theorem Misfits.isTypeMismatch (h : v.Misfits t p) : p.isTypeMismatch = true := by
  unfold Misfits at h
  split at h
  · rw [h]
    rfl
  · rw [h.2]
    rfl

theorem FallsShort.isTypeMismatch (h : v.FallsShort t s p) : p.isTypeMismatch = false := by
  obtain ⟨c, elem, n, -, -, -, -, rfl⟩ := h
  rfl

/-- A conversion between types one of which is held by itself. -/
theorem convert_panics (hv : v.type.isValue = true ∨ t.isValue = true) :
    (v.convert t).Panics s p ↔ (v.type.convertible t = false ∧ p = .boxContent v.type t) ∨
      ∃ elem n, v.type.underlying = .slice elem ∧ t.underlying = .array n elem ∧
        (s.sliceItems v.data).length < n ∧
        p = .shortSlice (s.sliceItems v.data).length n false := by
  unfold convert Ty.convertible
  constructor
  · intro h
    split at h
    · rename_i c hc
      rw [Run.panics_bind] at h
      rcases h with h | ⟨d, s₁, -, h⟩
      · obtain ⟨n, hlen, ⟨rfl, rfl⟩ | ⟨rfl, -⟩⟩ := apply_panics.mp h
        · obtain ⟨elem, ha, hb⟩ := Ty.conversion?_eq_sliceToArray.mp hc
          exact .inr ⟨elem, n, ha, hb, hlen, rfl⟩
        · exact absurd hc (Ty.conversion?_ne_sliceToArrayPointer hv n)
      · simp at h
    · rename_i hc
      rw [hc]
      exact .inl ⟨rfl, (Run.panics_panic.mp h).symm⟩
  · rintro (⟨hc, rfl⟩ | ⟨elem, n, ha, hb, hlen, rfl⟩)
    · rw [Option.isSome_eq_false_iff, Option.isNone_iff_eq_none] at hc
      rw [hc]
      exact Run.panics_panic.mpr rfl
    · rw [Ty.conversion?_eq_sliceToArray.mpr ⟨elem, ha, hb⟩]
      exact Run.panics_bind.mpr (.inl (apply_panics.mpr ⟨n, hlen, .inl ⟨rfl, rfl⟩⟩))

/-- **When a conversion breaks off** that the types allow and that is needed. Out of an interface,
because of what the interface holds; and from any type, because a slice is too short. -/
theorem cast_panics (hcan : v.type.canConvert t = true) (hneed : v.type.needsConversion t = true) :
    (v.cast v.type t).Panics s p ↔
      (v.type.isInterface = true ∧ v.Misfits t p) ∨ v.FallsShort t s p := by
  simp only [Ty.needsConversion, Bool.and_eq_true, Bool.or_eq_true] at hneed
  obtain ⟨-, hv⟩ := hneed
  unfold cast Misfits FallsShort
  cases hbox : v.type.isInterface with
  | true =>
      have ht : t.isValue = true := by
        rw [Ty.isValue_of_isInterface hbox] at hv
        simpa using hv
      rw [if_pos rfl, unbox]
      cases hcont : v.content with
      | none => simp [eq_comm]
      | some c => simp [convert_panics (.inr ht)]
  | false =>
      have hcont : v.content = some v := by simp [content, hbox]
      have hconv : v.type.convertible t = true := by simpa [Ty.canConvert, hbox] using hcan
      simp [hcont, convert_panics hv, hconv]

end Value

end Tacit
