import Mathlib.Data.List.Forall2
import Tacit.Proofs.Program.Assignment

/-!
# Data of a type

Data is what a variable holds, and what it refers to is in the store. `Data.HasType s t d` says that
`d` is what a variable of type `t` can hold, all the way through the store `s`.

* `HasType.interface_cases`: an interface holds nil or a value that implements it.
* `HasType.mono`: more cells in the store do no harm.
* `hasType_zero`: what an unset variable holds is of its type.
* `hasType_stored`: a text that can be assigned is of the type that it is stored under.
-/

namespace Tacit

/-- A cell stays as it is when cells are added. -/
theorem Store.cell_kept {s s' : Store} (hs : s.cells <+: s'.cells) {a : Addr} {c : Cell}
    (ha : s.cells[a]? = some c) : s'.cells[a]? = some c := by
  obtain ⟨more, hmore⟩ := hs
  obtain ⟨hlt, -⟩ := List.getElem?_eq_some_iff.mp ha
  rw [← hmore, List.getElem?_append_left hlt, ha]

theorem Basic.holds_zero (b : Basic) : b.Holds b.zero := by
  cases b <;> simp [Holds, integer?, zero]

variable [Declarations]

/-- The data is that of a variable of the type, and so is all that it refers to. Channels and funcs
are there only if they are nil: nothing that is written out stands for any other. -/
inductive Data.HasType (s : Store) : Ty → Data → Prop where
  | basic {t : Ty} {b : Basic} {d : Data} (ht : t.underlying = .basic b) (hd : b.Holds d) :
      HasType s t d
  | nil {t : Ty} (ht : t.isValue = false) : HasType s t .nil
  /-- A value in an interface has a type of its own, with the methods that are asked for. -/
  | boxed {t u : Ty} {d : Data} (ht : t.isInterface = true) (hu : u.isInterface = false)
      (hm : u.assignable t = true) (hd : HasType s u d) : HasType s t (.boxed u d)
  | pointer {t u : Ty} {a : Addr} {d : Data} (ht : t.underlying = .pointer u)
      (ha : s.cells[a]? = some (.slots [d])) (hd : HasType s u d) : HasType s t (.pointer a none)
  | slice {t u : Ty} {a : Addr} {ds : List Data} (ht : t.underlying = .slice u)
      (ha : s.cells[a]? = some (.slots ds)) (hds : ∀ d ∈ ds, HasType s u d) :
      HasType s t (.slice a)
  | array {t u : Ty} {ds : List Data} (ht : t.underlying = .array ds.length u)
      (hds : ∀ d ∈ ds, HasType s u d) : HasType s t (.tuple ds)
  | map {t k u : Ty} {a : Addr} {es : List (Data × Data)} (ht : t.underlying = .map k u)
      (ha : s.cells[a]? = some (.entries es)) (hks : ∀ e ∈ es, HasType s k e.1)
      (hds : ∀ e ∈ es, HasType s u e.2) : HasType s t (.map a)
  | struct {t : Ty} {fs : List (Field Ty)} {ds : List Data} (ht : t.underlying = .struct fs)
      (hlen : fs.length = ds.length) (hds : ∀ f d, (f, d) ∈ fs.zip ds → HasType s f.type d) :
      HasType s t (.tuple ds)
  /-- A type that is made to hold data of literal notation holds any. -/
  | carried {name : Declared} {c : Carrier} (hc : Declarations.carrier name = some c) (x : Datum) :
      HasType s (.declared name) (c.write x)

namespace Data

variable {s s' : Store} {t u : Ty} {d : Data} {fs : List (Field Ty)} {ds : List Data}

/-- The data of fields, in order. -/
abbrev HaveTypes (s : Store) : List (Field Ty) → List Data → Prop :=
  List.Forall₂ fun f d => HasType s f.type d

theorem HasType.ofFields (ht : t.underlying = .struct fs) (h : HaveTypes s fs ds) :
    HasType s t (.tuple ds) := by
  obtain ⟨hlen, hds⟩ := List.forall₂_iff_zip.mp h
  exact .struct ht hlen fun f d hfd => hds hfd

/-- **An interface** holds nil or a value that implements it. -/
theorem HasType.interface_cases (h : HasType s t d) (ht : t.isInterface = true) :
    d = .nil ∨ ∃ u d', d = .boxed u d' ∧ u.isInterface = false ∧ u.assignable t = true ∧
      HasType s u d' := by
  cases t with
  | interface i =>
      cases h with
      | nil => exact .inl rfl
      | boxed _ hu hm hd => exact .inr ⟨_, _, rfl, hu, hm, hd⟩
      | basic hb => cases hb
      | pointer hb => cases hb
      | slice hb => cases hb
      | array hb => cases hb
      | map hb => cases hb
      | struct hb => cases hb
  | _ => cases ht

/-- A variable holds what a variable of the underlying type holds. -/
theorem HasType.of_underlying (h : HasType s t.underlying d) : HasType s t d := by
  generalize hu : t.underlying = u at h
  have hsame : u.underlying = t.underlying := by rw [← hu, Ty.underlying_underlying]
  cases h with
  | basic ht hd => exact .basic (hsame.symm.trans ht) hd
  | nil ht => exact .nil (by rwa [Ty.isValue, ← hsame, ← Ty.isValue])
  | boxed ht hbox hm hd =>
      cases u with
      | interface i =>
          obtain rfl := Ty.eq_of_underlying_interface hu
          exact .boxed ht hbox hm hd
      | _ => cases ht
  | pointer ht ha hd => exact .pointer (hsame.symm.trans ht) ha hd
  | slice ht ha hds => exact .slice (hsame.symm.trans ht) ha hds
  | array ht hds => exact .array (hsame.symm.trans ht) hds
  | map ht ha hks hds => exact .map (hsame.symm.trans ht) ha hks hds
  | struct ht hlen hds => exact .struct (hsame.symm.trans ht) hlen hds
  | carried hc x => exact absurd hu (t.underlying_ne_declared _)

/-! ### Larger stores -/

/-- **More cells do no harm.** -/
theorem HasType.mono (h : HasType s t d) (hs : s.cells <+: s'.cells) : HasType s' t d := by
  induction h with
  | basic ht hd => exact .basic ht hd
  | nil ht => exact .nil ht
  | boxed ht hu hm _ ih => exact .boxed ht hu hm ih
  | pointer ht ha _ ih => exact .pointer ht (Store.cell_kept hs ha) ih
  | slice ht ha _ ih => exact .slice ht (Store.cell_kept hs ha) ih
  | array ht _ ih => exact .array ht ih
  | map ht ha _ _ ihk ih => exact .map ht (Store.cell_kept hs ha) ihk ih
  | struct ht hlen _ ih => exact .struct ht hlen ih
  | carried hc x => exact .carried hc x

theorem HaveTypes.mono (h : HaveTypes s fs ds) (hs : s.cells <+: s'.cells) : HaveTypes s' fs ds :=
  List.Forall₂.imp (fun _ _ hd => hd.mono hs) h

/-- A field that is set to data of its type. -/
theorem HaveTypes.set (h : HaveTypes s fs ds) {i : Nat} {f : Field Ty} (hf : fs[i]? = some f)
    (hd : HasType s f.type d) : HaveTypes s fs (ds.set i d) := by
  induction h generalizing i with
  | nil => cases hf
  | cons hhead htail ih =>
      cases i with
      | zero =>
          cases hf
          exact .cons hd htail
      | succ i => exact .cons hhead (ih hf)

/-! ### Unset variables -/

/-- What starts out as nil is held by reference. -/
theorem isValue_of_zero_eq_nil {t : Ty} (h : t.zero = .nil) : t.isValue = false := by
  rw [← Ty.zero_underlying] at h
  rw [Ty.isValue]
  cases hu : t.underlying with
  | basic b =>
      rw [hu] at h
      cases b <;> first | rfl | cases h
  | declared d => exact absurd hu (t.underlying_ne_declared d)
  | array n u => rw [hu] at h; cases h
  | struct fs => rw [hu] at h; cases h
  | _ => rfl

/-- **Unset variables** hold data of their type. -/
theorem hasType_zero (s : Store) (t : Ty) : HasType s t t.zero := by
  induction t using Ty.zero_induction with
  | basic b => exact .basic rfl b.holds_zero
  | array n u ih =>
      refine .array (by rw [List.length_replicate]; rfl) fun d hd => ?_
      obtain ⟨hn, rfl⟩ := List.mem_replicate.mp hd
      exact ih hn
  | struct fs ih =>
      refine .ofFields rfl ?_
      show HaveTypes s fs (Ty.zeros fs)
      rw [Ty.zeros_eq_map]
      exact List.forall₂_map_right_iff.mpr (List.forall₂_same.mpr ih)
  | declared d ih =>
      rw [← Ty.zero_underlying]
      exact .of_underlying ih
  | nil t h =>
      rw [h]
      exact .nil (isValue_of_zero_eq_nil h)

theorem haveTypes_zeros (s : Store) (fs : List (Field Ty)) : HaveTypes s fs (Ty.zeros fs) := by
  rw [Ty.zeros_eq_map]
  exact List.forall₂_map_right_iff.mpr (List.forall₂_same.mpr fun f _ => hasType_zero s f.type)

/-! ### Stored texts -/

/-- A text that can be assigned is of the type that it is stored under. -/
theorem hasType_stored (s : Store) {t : Ty} (x : Bytes) (h : Ty.string.assignable t = true) :
    HasType s t (Value.stored ⟨.string, .text x⟩ t) := by
  have htext : HasType s .string (.text x) := .basic rfl ⟨x, rfl⟩
  rw [Value.stored_eq_assigned h, Value.assigned]
  cases ht : t.isInterface with
  | true => exact .boxed ht rfl h htext
  | false =>
      -- a type other than that of texts would have to be without a name
      obtain rfl : Ty.string = t := by
        by_contra hne
        rcases Ty.assignable_cases h hne with ⟨-, hnamed, hfits | hu⟩ | ⟨-, i, rfl, -⟩
        · obtain ⟨_, _, _, hch, -⟩ := Ty.channelFits_eq_true hfits
          cases hch
        · rw [Ty.isNamed_of_underlying_basic hu.symm] at hnamed
          cases hnamed with
          | inl h => cases h
          | inr h => cases h
        · cases ht
      exact htext

end Data

end Tacit
