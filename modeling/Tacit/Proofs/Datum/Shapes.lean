import Mathlib.Data.List.Chain
import Mathlib.Data.List.Duplicate
import Mathlib.Data.List.Perm.Subperm
import Mathlib.Logic.Relation
import Tacit.Datum.OfValue

/-!
# Shapes of recursive types

The shape of a type is found by looking at the declared types that it is made of, at those that they
are made of, and so on. `Ty.isEndless` says that this takes more steps than there are types.

* `Declared.Asks d e`: to find the shape of `d`, that of `e` has to be found.
* `isEndless_iff`: looking does not end just if it comes back to a type that it started from.
* `shape?_declared`: if it does end, a declared type has the shape of what it is made of.
-/

namespace Tacit

variable [Declarations]

namespace Declared

/-- To find the shape of the first type, that of the second has to be found. -/
def Asks (d e : Declared) : Prop :=
  Declarations.carrier d = none ∧ e ∈ d.underlying.askedFor

theorem exceeds_succ_iff {n : Nat} {d : Declared} :
    exceeds (n + 1) d = true ↔ ∃ e, d.Asks e ∧ exceeds n e = true := by
  rw [exceeds, Bool.and_eq_true, Option.isNone_iff_eq_none, List.any_eq_true]
  constructor
  · rintro ⟨hplain, e, he, hn⟩
    exact ⟨e, ⟨hplain, he⟩, hn⟩
  · rintro ⟨e, ⟨hplain, he⟩, hn⟩
    exact ⟨hplain, e, he, hn⟩

/-- What is not declared asks for nothing. -/
theorem Asks.mem_all {d e : Declared} (h : d.Asks e) : d ∈ Declarations.all := by
  by_contra hd
  have hasked := h.2
  rw [underlying, Declarations.underlying_undeclared d hd] at hasked
  cases hasked

/-! ### Coming back -/

theorem exceeds_of_succ : ∀ {n : Nat} {d : Declared}, exceeds (n + 1) d = true →
    exceeds n d = true
  | 0, _, _ => rfl
  | n + 1, d, h => by
      obtain ⟨e, he, hn⟩ := exceeds_succ_iff.mp h
      exact exceeds_succ_iff.mpr ⟨e, he, exceeds_of_succ hn⟩

theorem exceeds_of_transGen {n : Nat} {d e : Declared} (h : Relation.TransGen Asks d e)
    (hn : exceeds n e = true) : exceeds (n + 1) d = true := by
  induction h using Relation.TransGen.head_induction_on with
  | single he => exact exceeds_succ_iff.mpr ⟨e, he, hn⟩
  | head hd _ ih => exact exceeds_succ_iff.mpr ⟨_, hd, exceeds_of_succ ih⟩

/-- What asks for itself takes any number of steps. -/
theorem exceeds_of_loop {d e : Declared} (hd : Relation.ReflTransGen Asks d e)
    (he : Relation.TransGen Asks e e) (n : Nat) : exceeds n d = true := by
  have hloop : ∀ n, exceeds n e = true := by
    intro n
    induction n with
    | zero => rfl
    | succ n ih => exact exceeds_of_transGen he ih
  rcases Relation.reflTransGen_iff_eq_or_transGen.mp hd with rfl | hd
  · exact hloop n
  · exact exceeds_of_succ (exceeds_of_transGen hd (hloop n))

/-- A way of `n` steps from a type that takes as many. -/
theorem exists_chain : ∀ {n : Nat} {d : Declared}, exceeds n d = true →
    ∃ ds : List Declared, ds.length = n ∧ (∀ e ∈ ds, e ∈ Declarations.all) ∧
      List.IsChain Asks ds ∧ ∀ e ∈ ds.head?, e = d
  | 0, _, _ => ⟨[], rfl, by simp, .nil, by simp⟩
  | n + 1, d, h => by
      obtain ⟨e, he, hn⟩ := exceeds_succ_iff.mp h
      obtain ⟨ds, hlen, hall, hchain, hhead⟩ := exists_chain hn
      refine ⟨d :: ds, by rw [List.length_cons, hlen], ?_, ?_, by simp⟩
      · exact List.forall_mem_cons.mpr ⟨he.mem_all, hall⟩
      · exact hchain.cons fun e' he' => hhead e' he' ▸ he

/-- A way with more steps than there are types has been at one of them before. -/
theorem loop_of_exceeds {d : Declared} (h : exceeds Declarations.bound d = true) :
    ∃ e, Relation.ReflTransGen Asks d e ∧ Relation.TransGen Asks e e := by
  obtain ⟨ds, hlen, hall, hchain, hhead⟩ := exists_chain h
  have hnodup : ¬ ds.Nodup := by
    intro hnodup
    have hle := (List.subperm_of_subset hnodup hall).length_le
    rw [hlen, Declarations.bound] at hle
    omega
  obtain ⟨e, hdup⟩ := List.exists_duplicate_iff_not_nodup.mpr hnodup
  have hpairs : ds.Pairwise (Relation.TransGen Asks) :=
    (hchain.imp fun _ _ hde => Relation.TransGen.single hde).pairwise
  have hloop := List.Pairwise.sublist (List.duplicate_iff_sublist.mp hdup) hpairs
  refine ⟨e, ?_, by simpa using hloop⟩
  cases ds with
  | nil => simp at hdup
  | cons d' ds =>
      obtain rfl := hhead d' rfl
      rcases List.mem_cons.mp hdup.mem with rfl | he
      · exact .refl
      · exact (List.rel_of_pairwise_cons hpairs he).to_reflTransGen

end Declared

namespace Ty

/-- Looking for the shape of the type comes back to a type that it started from. -/
def Recurs (t : Ty) : Prop :=
  ∃ d ∈ t.askedFor, ∃ e, Relation.ReflTransGen Declared.Asks d e ∧
    Relation.TransGen Declared.Asks e e

/-- **Types without an end.** There is no end to looking for the shape of a type just if it comes
back to where it was. -/
theorem isEndless_iff (t : Ty) : t.isEndless = true ↔ t.Recurs := by
  rw [isEndless, List.any_eq_true]
  constructor
  · rintro ⟨d, hd, hn⟩
    exact ⟨d, hd, Declared.loop_of_exceeds hn⟩
  · rintro ⟨d, hd, e, hde, he⟩
    exact ⟨d, hd, Declared.exceeds_of_loop hde he _⟩

/-! ### Shapes that are found -/

mutual
/-- The shape depends on the types that are asked for, and on no others. -/
theorem shapeWith_congr {f g : Declared → Option Shape} : ∀ t : Ty,
    (∀ d ∈ t.askedFor, f d = g d) → t.shapeWith f = t.shapeWith g
  | basic _, _ => by rw [shapeWith, shapeWith]
  | declared d, h => by
      rw [shapeWith, shapeWith]
      exact h d (by simp [askedFor])
  | pointer t, h => by
      rw [shapeWith, shapeWith]
      exact shapeWith_congr t fun d hd => h d (by rwa [askedFor])
  | slice t, h => by
      rw [shapeWith, shapeWith, shapeWith_congr t fun d hd => h d (by rwa [askedFor])]
  | map k t, h => by
      rw [shapeWith, shapeWith]
      split
      · rename_i hk
        rw [shapeWith_congr t fun d hd => h d (by rw [askedFor, if_pos hk]; exact hd)]
      · rfl
  | struct fs, h => by
      rw [shapeWith, shapeWith, attrShapesWith_congr fs fun d hd => h d (by rwa [askedFor])]
  | interface _, _ | array _ _, _ | channel _ _, _ | func _ _ _, _ => by
      simp only [shapeWith]
theorem attrShapesWith_congr {f g : Declared → Option Shape} : ∀ fs : List (Field Ty),
    (∀ d ∈ askedForAll fs, f d = g d) → attrShapesWith f fs = attrShapesWith g fs
  | [], _ => by rw [attrShapesWith, attrShapesWith]
  | ⟨_, t, tag, _, _⟩ :: fs, h => by
      rw [askedForAll] at h
      rw [attrShapesWith, attrShapesWith]
      split
      · rename_i hcounts
        rw [if_pos hcounts] at h
        rw [shapeWith_congr t fun d hd => h d (List.mem_append_left _ hd),
          attrShapesWith_congr fs fun d hd => h d (List.mem_append_right _ hd)]
      · rename_i hcounts
        rw [if_neg hcounts] at h
        exact attrShapesWith_congr fs h
end

end Ty

/-- More steps than it takes find nothing else. -/
theorem Declared.shapeWithin_succ : ∀ {n : Nat} {d : Declared}, exceeds n d = false →
    shapeWithin (n + 1) d = shapeWithin n d
  | 0, _, h => by cases h
  | n + 1, d, h => by
      rw [shapeWithin, shapeWithin]
      split
      · rfl
      · rename_i hplain
        refine Ty.shapeWith_congr _ fun e he => shapeWithin_succ ?_
        have hasks : d.Asks e := ⟨by simpa using hplain, he⟩
        by_contra hexceeds
        rw [exceeds_succ_iff.mpr ⟨e, hasks, by simpa using hexceeds⟩] at h
        cases h

/-- **A declared type** whose shape can be found has the shape of what it is made of. -/
theorem Ty.shape?_declared {d : Declared} (h : (Ty.declared d).isEndless = false)
    (hplain : Declarations.carrier d = none) : (Ty.declared d).shape? = d.underlying.shape? := by
  have hexceeds : Declared.exceeds Declarations.bound d = false := by
    simpa [isEndless, askedFor] using h
  rw [shape?, shapeWith, ← Declared.shapeWithin_succ hexceeds, Declared.shapeWithin, hplain]
  rfl

end Tacit
