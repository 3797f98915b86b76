import Mathlib.Tactic.Common
import Tacit.Args
import Tacit.Proofs.Text.Encoding

/-!
# What decoding arguments yields

* `convert_length`: as many elements come out of the conversion as there are parameters.
* `decode_cases`: decoding fails before any argument is stored, or stores one element for each
  parameter.
* `decode_ints`: arguments for integer parameters are integers, and nothing that is wrong with them
  breaks off.
-/

namespace Tacit

namespace Datum

theorem length_reshapeAll : ∀ {ds : List Datum} {ss : List Shape} {xs : List Datum},
    reshapeAll ds ss = .ok xs → ds.length = ss.length → xs.length = ss.length
  | [], [], xs, h, _ => by
      rw [reshapeAll] at h
      · cases h
        rfl
      · simp
  | d :: ds, s :: ss, xs, h, hlen => by
      rw [reshapeAll] at h
      cases hd : reshape d s with
      | error e =>
          rw [hd] at h
          cases h
      | ok y =>
          cases hds : reshapeAll ds ss with
          | error e =>
              rw [hd, hds] at h
              cases h
          | ok ys =>
              rw [hd, hds] at h
              cases h
              simpa using length_reshapeAll hds (by simpa using hlen)

variable [Declarations]

/-- An integer variable takes an integer, and no misfit there breaks off. -/
theorem assign_int (d : Datum) (s : Store) :
    (∃ m, d.assign .int s = .error m ∧ m.panic? = none) ∨
      ∃ n, d.assign .int s = .ok (.int n, s) := by
  have hassign : d.assign .int = d.fill .free .int := rfl
  rw [hassign]
  cases d with
  | number x =>
      have hfill : fill (.number x) .free .int s = (numberData x .int).map (·, s) := by
        rw [fill]
        show (do Build.behind 0 (← Build.set .free .int
          (← (liftM (numberData x .int) : Build Data))) : Build Data) s = _
        cases numberData x .int <;> rfl
      rw [hfill, numberData]
      split
      · split
        · split
          · exact .inr ⟨_, rfl⟩
          · exact .inl ⟨_, rfl, rfl⟩
        · exact .inl ⟨_, rfl, rfl⟩
      · rename_i h
        cases h
  | null t =>
      left
      rw [fill]
      cases t <;> exact ⟨_, rfl, rfl⟩
  | _ =>
      left
      rw [fill]
      exact ⟨_, rfl, rfl⟩

end Datum

namespace Args

theorem isBlankText_brackets (text : String) :
    Text.isBlankText (.ofString ("[" ++ text ++ "]")) = false := by
  have hopen : Text.isBlankRune (.char '[') = false := by decide
  rw [Text.isBlankText, Bytes.runes_ofString]
  simp [hopen]

theorem convert_list (e : Shape) (items : List Datum) (ss : List Shape) :
    (Datum.list e items).convert (.tuple ss) = .error (.shape (.tuple ss)) := by
  have hshape : (Datum.list e items).shape ≠ .tuple ss := by simp [Datum.shape]
  have hconv : (Datum.list e items).shape.convertible (.tuple ss) = false := by
    simp [Datum.shape, Shape.convertible, Shape.convertibleWith]
  rw [Datum.convert, if_neg hshape, hconv]
  rfl

/-- A sequence is brought into a tuple of as many elements, or not at all. -/
theorem convert_tuple {d y : Datum} {ds : List Datum} {ss : List Shape}
    (hseq : sequence? d = some ds) (hlen : ds.length = ss.length)
    (h : d.convert (.tuple ss) = .ok y) : ∃ ys, y = .tuple ys ∧ ys.length = ss.length := by
  cases d with
  | tuple items =>
      have hitems : items = ds := by
        simp only [sequence?] at hseq
        split at hseq
        · exact Option.some.inj hseq
        · cases hseq
      subst hitems
      unfold Datum.convert at h
      split at h
      · cases h
        exact ⟨items, rfl, hlen⟩
      split at h
      · rw [Datum.reshape] at h
        cases hall : Datum.reshapeAll items ss with
        | error e =>
            rw [hall] at h
            cases h
        | ok ys =>
            rw [hall] at h
            cases h
            exact ⟨ys, rfl, Datum.length_reshapeAll hall hlen⟩
      · cases h
  | list e items =>
      rw [convert_list] at h
      cases h
  | _ => cases hseq

variable [Declarations]

/-- As many elements come out of the conversion as there are parameters. -/
theorem convert_length {d : Datum} {ds xs : List Datum} {types : List Ty}
    (hseq : sequence? d = some ds) (hlen : ds.length = types.length)
    (h : Args.convert d types = .ok xs) : xs.length = types.length := by
  have hshapes : (types.map wantedShape).length = types.length := List.length_map _
  unfold Args.convert at h
  cases hc : d.convert (.tuple (types.map wantedShape)) with
  | error e =>
      rw [hc] at h
      cases h
  | ok y =>
      obtain ⟨ys, rfl, hys⟩ := convert_tuple hseq (hlen.trans hshapes.symm) hc
      rw [hc] at h
      cases h
      exact hys.trans hshapes

/-- Decoding fails before any argument is stored, or does not end, as there is no end to the shape
of a parameter's type, or stores one element for each parameter. -/
theorem decode_cases (text : Bytes) (types : List Ty) (s : Store) :
    (∃ e, decode text types s = .error e ∧ e.panic? = none) ∨
    (types.any Ty.isEndless = true ∧ decode text types s = .error .endless) ∨
      ∃ ds, ds.length = types.length ∧ decode text types s = assignAll 0 ds types s := by
  unfold decode
  cases hd : (formula? text).bind Formula.value? with
  | none => exact .inl ⟨_, rfl, rfl⟩
  | some d =>
      simp only
      cases hseq : sequence? d with
      | none => exact .inl ⟨_, rfl, rfl⟩
      | some ds =>
          simp only
          split
          · rename_i hlen
            split
            · rename_i hendless
              exact .inr (.inl ⟨hendless, rfl⟩)
            cases hconv : Args.convert d types with
            | error e =>
                have hpanic : e.panic? = none := by
                  unfold Args.convert at hconv
                  split at hconv <;> cases hconv
                  rfl
                exact .inl ⟨e, rfl, hpanic⟩
            | ok xs => exact .inr (.inr ⟨xs, convert_length hseq hlen hconv, rfl⟩)
          · exact .inl ⟨_, rfl, rfl⟩

theorem assignAll_ints : ∀ {ds : List Datum} {types : List Ty} (i : Nat) (s : Store),
    ds.length = types.length → (∀ t ∈ types, t = .int) →
    (∃ e, assignAll i ds types s = .error e ∧ e.panic? = none) ∨
      ∃ ns : List Int, ns.length = types.length ∧
        assignAll i ds types s = .ok (ns.map fun n => ⟨.int, .int n⟩, s)
  | [], [], i, s, _, _ => .inr ⟨[], rfl, rfl⟩
  | d :: ds, t :: types, i, s, hlen, hint => by
      obtain rfl := hint t List.mem_cons_self
      rw [assignAll]
      rcases d.assign_int s with ⟨m, hm, hpanic⟩ | ⟨n, hn⟩
      · exact .inl ⟨.input i m, by rw [hm]; rfl, hpanic⟩
      · rcases assignAll_ints (i + 1) s (by simpa using hlen)
          fun t ht => hint t (List.mem_cons_of_mem _ ht) with ⟨e, he, hpanic⟩ | ⟨ns, hns, hok⟩
        · refine .inl ⟨e, ?_, hpanic⟩
          rw [hn]
          show (assignAll (i + 1) ds types s >>= _) = _
          rw [he]
          rfl
        · refine .inr ⟨n :: ns, by simpa using hns, ?_⟩
          rw [hn]
          show (assignAll (i + 1) ds types s >>= _) = _
          rw [hok]
          rfl

/-- Arguments for integer parameters are integers, and nothing that is wrong with them breaks
off. -/
theorem decode_ints (text : Bytes) {types : List Ty} (s : Store) (hint : ∀ t ∈ types, t = .int) :
    (∃ e, decode text types s = .error e ∧ e.panic? = none) ∨
      ∃ ns : List Int, ns.length = types.length ∧
        decode text types s = .ok (ns.map fun n => ⟨.int, .int n⟩, s) := by
  rcases decode_cases text types s with he | ⟨hendless, -⟩ | ⟨ds, hlen, hok⟩
  · exact .inl he
  · obtain ⟨t, ht, hend⟩ := List.any_eq_true.mp hendless
    obtain rfl := hint t ht
    cases hend
  · rw [hok]
    exact assignAll_ints 0 s hlen hint

end Args

end Tacit
