import Mathlib.Logic.Function.Iterate
import Tacit.Datum.ToValue
import Tacit.Proofs.Value.Typed

/-!
# Variables filled with data

* `Build.Meets b s P E`: from the store `s`, the computation keeps all cells and yields a result
  with `P`, or meets a misfit with `E`.
* `Ty.Fillable`: wherever the type has a map, texts can be its keys, and wherever it has a struct,
  all fields are exported.
* `fill_meets`: what a variable is filled with is of its type, and no misfit breaks off if the type
  is fillable.
* `box_meets`: what an interface is filled with is nil or a value with a type of its own.
* `assign_meets`: either of them, as the type asks for.
-/

namespace Tacit

open Data (HasType HaveTypes)

/-! ### What a computation yields or meets -/

namespace Build

variable {α β : Type} {b : Build α} {s : Store} {P : Store → α → Prop} {R : Store → β → Prop}
  {E F : Misfit → Prop}

theorem bind_of_ok {f : α → Build β} {a : α} {s' : Store} (h : b s = .ok (a, s')) :
    (b >>= f) s = f a s' := by
  show (b s >>= fun p => f p.1 p.2) = f a s'
  rw [h]
  rfl

theorem bind_of_error {f : α → Build β} {m : Misfit} (h : b s = .error m) :
    (b >>= f) s = .error m := by
  show (b s >>= fun p => f p.1 p.2) = .error m
  rw [h]
  rfl

/-- From the store `s`, the computation keeps all cells and yields a result with `P`, or meets a
misfit with `E`. -/
structure Meets (b : Build α) (s : Store) (P : Store → α → Prop) (E : Misfit → Prop) : Prop where
  ok : ∀ {a s'}, b s = .ok (a, s') → s.cells <+: s'.cells ∧ P s' a
  error : ∀ {m}, b s = .error m → E m

theorem meets_pure {a : α} (h : P s a) : (pure a : Build α).Meets s P E where
  ok := by
    rintro a' s' ⟨⟩
    exact ⟨List.prefix_rfl, h⟩
  error := by
    rintro m ⟨⟩

theorem meets_throw {m : Misfit} (h : E m) : (throw m : Build α).Meets s P E where
  ok := by
    rintro a' s' ⟨⟩
  error := by
    rintro m ⟨⟩
    exact h

theorem meets_allocate {c : Cell} {P : Store → Addr → Prop}
    (h : P ⟨s.cells ++ [c]⟩ s.cells.length) : (allocate c).Meets s P E where
  ok := by
    rintro a s' ⟨⟩
    exact ⟨List.prefix_append _ _, h⟩
  error := by
    rintro m ⟨⟩

/-- One computation after the other. -/
theorem Meets.bind {f : α → Build β} (hb : b.Meets s P E)
    (hf : ∀ a s', s.cells <+: s'.cells → P s' a → (f a).Meets s' R E) : (b >>= f).Meets s R E := by
  cases hbs : b s with
  | error m =>
      have hfail : (b >>= f) s = .error m := bind_of_error hbs
      refine ⟨fun h => ?_, fun h => ?_⟩
      · rw [hfail] at h
        cases h
      · rw [hfail] at h
        cases h
        exact hb.error hbs
  | ok p =>
      have hnext : (b >>= f) s = f p.1 p.2 := bind_of_ok hbs
      obtain ⟨hs, hp⟩ := hb.ok hbs
      have hfa := hf p.1 p.2 hs hp
      refine ⟨fun h => ?_, fun h => hfa.error (hnext ▸ h)⟩
      obtain ⟨hs', hr⟩ := hfa.ok (hnext ▸ h)
      exact ⟨hs.trans hs', hr⟩

theorem Meets.misfits (hb : b.Meets s P E) (hEF : ∀ m, E m → F m) : b.Meets s P F where
  ok h := hb.ok h
  error h := hEF _ (hb.error h)

/-- What happens inside an entry, with the misfits that are reported for it. -/
theorem Meets.inside {k : Bytes} (hb : b.Meets s P E) (hEF : ∀ m, E m → F (.inside k m)) :
    (Build.inside k b).Meets s P F := by
  have happly : Build.inside k b s = (b s).mapError (Misfit.inside k) := rfl
  cases hbs : b s with
  | error m =>
      rw [hbs] at happly
      refine ⟨fun h => ?_, fun h => ?_⟩
      · rw [happly] at h
        cases h
      · rw [happly] at h
        cases h
        exact hEF m (hb.error hbs)
  | ok p =>
      rw [hbs] at happly
      refine ⟨fun h => ?_, fun h => ?_⟩
      · rw [happly] at h
        cases h
        exact hb.ok hbs
      · rw [happly] at h
        cases h

end Build

/-! ### Fields, items and numbers -/

namespace Datum

theorem fieldNamed?_eq_some {k : Bytes} {fs : List (Field Ty)} {i : Nat} {f : Field Ty}
    (h : fieldNamed? k fs = some (i, f)) : fs[i]? = some f := by
  have hmem := List.mem_of_find?_eq_some h
  rw [List.mem_reverse, List.mem_mapIdx] at hmem
  obtain ⟨l, hl, heq⟩ := hmem
  cases heq
  exact List.getElem?_eq_getElem hl

theorem free_item {a : Access} (ha : a.isFree = true) : a.item.isFree = true := by
  obtain rfl : a = .free := of_decide_eq_true ha
  rfl

theorem nearestReal_cases (x : Number.Big) :
    (∃ bits, nearestReal x = .ok bits) ∨ nearestReal x = .error .tooLarge := by
  unfold nearestReal
  split
  · exact .inl ⟨_, rfl⟩
  · exact .inr rfl

end Datum

/-! ### Pointers -/

namespace Ty

/-- A type is what is left of it behind its pointers. -/
theorem peel_eq : ∀ t : Ty, Nat.iterate pointer t.peel.1 t.peel.2 = t
  | pointer t => by
      have hiterate := Function.iterate_succ_apply' pointer t.peel.1 t.peel.2
      rw [peel_eq t] at hiterate
      exact hiterate
  | basic _ | interface _ | declared _ | slice _ | array _ _ | map _ _ | channel _ _ | func _ _ _
  | struct _ => rfl

end Ty

variable [Declarations]

theorem Build.meets_behind {E : Misfit → Prop} : ∀ (n : Nat) {t : Ty} {d : Data} {s : Store},
    HasType s t d →
    (behind n d).Meets s (fun s' x => HasType s' (Nat.iterate .pointer n t) x) E
  | 0, _, _, _, hd => meets_pure hd
  | n + 1, t, d, s, hd => by
      have hcell : HasType ⟨s.cells ++ [.slots [d]]⟩ (.pointer t) (.pointer s.cells.length none) :=
        .pointer rfl (by simp) (hd.mono (List.prefix_append _ _))
      exact (meets_allocate hcell).bind fun a s' _ ha => meets_behind n ha

/-- Data of the type behind the pointers of `t`, behind as many pointers. -/
theorem Build.meets_peeled {E : Misfit → Prop} {t : Ty} {d : Data} {s : Store}
    (hd : HasType s t.peel.2 d) :
    (behind t.peel.1 d).Meets s (fun s' x => HasType s' t x) E := by
  have hall := meets_behind (E := E) t.peel.1 hd
  rwa [t.peel_eq] at hall

/-! ### New cells -/

theorem Build.meets_slice {E : Misfit → Prop} {t u : Ty} {xs : List Data} {s : Store}
    (ht : t.underlying = .slice u) (hxs : ∀ x ∈ xs, HasType s u x) :
    (allocate (.slots xs)).Meets s (fun s' a => HasType s' t (.slice a)) E :=
  meets_allocate (.slice ht (by simp) fun x hx => (hxs x hx).mono (List.prefix_append _ _))

theorem Build.meets_map {E : Misfit → Prop} {t k u : Ty} {xs : List (Data × Data)} {s : Store}
    (ht : t.underlying = .map k u) (hxs : ∀ x ∈ xs, HasType s k x.1 ∧ HasType s u x.2) :
    (allocate (.entries xs)).Meets s (fun s' a => HasType s' t (.map a)) E :=
  meets_allocate (.map ht (by simp) (fun x hx => (hxs x hx).1.mono (List.prefix_append _ _))
    fun x hx => (hxs x hx).2.mono (List.prefix_append _ _))

/-! ### Types that can be filled -/

namespace Ty

/-- The second type is a part of the first, or that type itself. What holds data as they are has no
parts. -/
inductive Within : Ty → Ty → Prop where
  | refl (t : Ty) : Within t t
  | declared {d : Declared} {u : Ty} (hd : Declarations.carrier d = none)
      (h : Within d.underlying u) : Within (.declared d) u
  | pointer {t u : Ty} (h : Within t u) : Within (.pointer t) u
  | slice {t u : Ty} (h : Within t u) : Within (.slice t) u
  | array {n : Nat} {t u : Ty} (h : Within t u) : Within (.array n t) u
  | map {k t u : Ty} (h : Within t u) : Within (.map k t) u
  | struct {fs : List (Field Ty)} {f : Field Ty} {u : Ty} (hf : f ∈ fs) (h : Within f.type u) :
      Within (.struct fs) u

/-- Wherever the type has a map, texts can be its keys, and wherever it has a struct, all fields are
exported. -/
structure Fillable (t : Ty) : Prop where
  keys : ∀ k u, t.Within (.map k u) → string.assignable k = true
  fields : ∀ fs, t.Within (.struct fs) → ∀ f ∈ fs, f.isExported = true

theorem Fillable.part {t u : Ty} (h : t.Fillable) (hu : ∀ v, u.Within v → t.Within v) :
    u.Fillable where
  keys k v hv := h.keys k v (hu _ hv)
  fields fs hfs := h.fields fs (hu _ hfs)

theorem Fillable.peel : ∀ {t : Ty}, t.Fillable → t.peel.2.Fillable
  | .pointer t, h => Fillable.peel (t := t) (h.part fun _ hv => .pointer hv)
  | .basic _, h | .interface _, h | .declared _, h | .slice _, h | .array _ _, h | .map _ _, h
  | .channel _ _, h | .func _ _ _, h | .struct _, h => h

theorem Fillable.underlying {t : Ty} (h : t.Fillable) (hplain : t.carrier? = none) :
    t.underlying.Fillable := by
  cases t with
  | declared d => exact h.part fun _ hv => .declared hplain hv
  | _ => exact h

theorem fillable_basic (b : Basic) : (basic b).Fillable where
  keys _ _ h := by cases h
  fields _ h := by cases h

theorem Fillable.ofPointer {t : Ty} (h : t.Fillable) : (pointer t).Fillable where
  keys k u hu := by
    cases hu with
    | pointer hu => exact h.keys k u hu
  fields fs hfs := by
    cases hfs with
    | pointer hfs => exact h.fields fs hfs

theorem Fillable.slice {t : Ty} (h : (Ty.slice t).Fillable) : t.Fillable :=
  h.part fun _ hv => .slice hv

theorem Fillable.array {n : Nat} {t : Ty} (h : (Ty.array n t).Fillable) : t.Fillable :=
  h.part fun _ hv => .array hv

theorem Fillable.map {k t : Ty} (h : (Ty.map k t).Fillable) : t.Fillable :=
  h.part fun _ hv => .map hv

theorem Fillable.field {fs : List (Field Ty)} (h : (Ty.struct fs).Fillable) {f : Field Ty}
    (hf : f ∈ fs) : f.type.Fillable :=
  h.part fun _ hv => .struct hf hv

theorem misfit_panic? (t : Ty) : t.misfit.panic? = none := by
  unfold misfit
  split <;> try rfl
  split <;> rfl

end Ty

/-- The misfit breaks off only if the variable is out of reach or its type is not fillable. -/
def Misfit.Harmless (a : Access) (t : Ty) (m : Misfit) : Prop :=
  a.isFree = true → t.Fillable → m.panic? = none

theorem Misfit.harmless {a : Access} {t : Ty} {m : Misfit} (h : m.panic? = none) :
    m.Harmless a t := fun _ _ => h

namespace Build

variable {α : Type} {s : Store} {a : Access} {t : Ty}

/-- The misfits of a part of a variable are misfits of the variable. -/
theorem Meets.part {b : Build α} {P : Store → α → Prop} {c : Access} {u : Ty}
    (hb : b.Meets s P (Misfit.Harmless c u))
    (h : a.isFree = true → t.Fillable → c.isFree = true ∧ u.Fillable) :
    b.Meets s P (Misfit.Harmless a t) :=
  hb.misfits fun _ hm ha ht => hm (h ha ht).1 (h ha ht).2

/-- A variable is set to data, or it is out of reach. -/
theorem meets_set {P : Store → Data → Prop} {d : Data} (base : Ty) (hd : P s d) :
    (Build.set a base d).Meets s P (Misfit.Harmless a t) := by
  unfold Build.set
  split
  · exact meets_pure hd
  · rename_i ha
    exact meets_throw fun hfree => absurd hfree ha

/-- Data of the type behind the pointers of `t` are set, and the pointers made. -/
theorem meets_leaf {d : Data} (hd : HasType s t.peel.2 d) :
    (do Build.behind t.peel.1 (← Build.set a t.peel.2 d) : Build Data).Meets s
      (fun s' x => HasType s' t x) (Misfit.Harmless a t) :=
  (meets_set (P := fun s' x => HasType s' t.peel.2 x) t.peel.2 hd).bind fun _ _ _ hx =>
    meets_peeled hx

/-- A variable that can be reached and is not made to hold data is filled by the rest. -/
theorem reach_meets {d : Datum} {rest : Nat → Ty → Build Data}
    (h : t.peel.2.carrier? = none → (rest t.peel.1 t.peel.2).Meets s (fun s' x => HasType s' t x)
      (Misfit.Harmless a t)) :
    (Build.reach d a t rest).Meets s (fun s' x => HasType s' t x) (Misfit.Harmless a t) := by
  unfold Build.reach
  split
  · rename_i hclosed
    simp only [Bool.and_eq_true, Bool.not_eq_true'] at hclosed
    refine meets_throw fun hfree => ?_
    rw [hclosed.2] at hfree
    cases hfree
  · cases hc : t.peel.2.carrier? with
    | none => exact h hc
    | some c =>
        refine meets_leaf ?_
        cases hbase : t.peel.2 with
        | declared name =>
            rw [hbase] at hc
            exact .carried hc d
        | _ =>
            rw [hbase] at hc
            cases hc

end Build

namespace Datum

open Build

variable {s : Store} {t : Ty}

/-! ### Variables of other types than interfaces -/

/-- An integer within the limits of a type is what a variable of the type holds. -/
theorem hasType_of_limits {lo hi n : Int} (h : t.limits? = some (lo, hi)) (hlo : lo ≤ n)
    (hhi : n ≤ hi) : HasType s t (.int n) := by
  unfold Ty.limits? at h
  split at h
  · cases h
  · rename_i b hne ht
    refine .basic ht ?_
    split at h
    · rename_i bits hint
      cases h
      simp only [Basic.Holds, hint]
      exact ⟨n, rfl, hlo, by omega⟩
    · rename_i bits hint
      cases h
      simp only [Basic.Holds, hint]
      exact ⟨n, rfl, hlo, by omega⟩
    · cases h
  · cases h

theorem numberData_cases (x : Number.Big) (t : Ty) :
    (∃ d, numberData x t = .ok d ∧ ∀ s, HasType s t d) ∨
      ∃ m, numberData x t = .error m ∧ m.panic? = none := by
  unfold numberData
  split
  · rename_i lo hi hlimits
    split
    · split
      · rename_i hin
        simp only [Bool.and_eq_true, decide_eq_true_eq] at hin
        exact .inl ⟨_, rfl, fun s => hasType_of_limits hlimits hin.1 hin.2⟩
      · exact .inr ⟨_, rfl, rfl⟩
    · exact .inr ⟨_, rfl, rfl⟩
  · split
    · rename_i ht
      rcases nearestReal_cases x with ⟨bits, hx⟩ | hx
      · exact .inl ⟨_, by rw [hx]; rfl, fun s => .basic ht ⟨_, rfl⟩⟩
      · exact .inr ⟨_, by rw [hx]; rfl, rfl⟩
    · rename_i ht
      rcases nearestReal_cases x with ⟨bits, hx⟩ | hx
      · exact .inl ⟨_, by rw [hx]; rfl, fun s => .basic ht ⟨_, rfl⟩⟩
      · exact .inr ⟨_, by rw [hx]; rfl, rfl⟩
    · exact .inr ⟨_, rfl, t.misfit_panic?⟩

theorem nullData_meets (sh : Shape) (a : Access) (t : Ty) (s : Store) :
    (nullData sh a t.peel.1 t.peel.2).Meets s (fun s' x => HasType s' t x)
      (Misfit.Harmless a t) := by
  unfold nullData
  split
  · rename_i hu
    exact meets_leaf (.nil (by rw [Ty.isValue, hu]))
  · rename_i hu
    exact meets_leaf (.nil (by rw [Ty.isValue, hu]))
  · exact meets_throw (Misfit.harmless rfl)
  · exact meets_throw (Misfit.harmless (Ty.misfit_panic? _))
  · exact meets_throw (Misfit.harmless (Ty.misfit_panic? _))
  · split
    · exact meets_throw (Misfit.harmless rfl)
    · -- the pointer next to the value is nil
      rename_i n hn
      have hall := t.peel_eq
      rw [hn] at hall
      exact hall ▸ meets_behind n (.nil rfl)

/-- A field of a fillable struct is as free as the struct. -/
theorem free_field {a : Access} {fs : List (Field Ty)} {f : Field Ty} (hf : f ∈ fs)
    (ha : a.isFree = true) (hfs : (Ty.struct fs).Fillable) :
    (a.field f).isFree = true ∧ f.type.Fillable := by
  obtain rfl : a = .free := of_decide_eq_true ha
  have hexported := hfs.fields fs (.refl _) f hf
  exact ⟨by simp [Access.field, hexported, Access.isFree], hfs.field hf⟩

/-- What the elements of a sequence fill is of the type of the elements. -/
def FillsAll (ds : List Datum) : Prop := ∀ (a : Access) (t : Ty) (s : Store),
  (fillAll ds a t).Meets s (fun s' xs => xs.length = ds.length ∧ ∀ x ∈ xs, HasType s' t x)
    (Misfit.Harmless a t)

/-- A sequence fills a slice or an array of as many elements. -/
theorem sequence_meets {ds : List Datum} (h : FillsAll ds) (a : Access) {t : Ty} (s : Store)
    (hplain : t.peel.2.carrier? = none) :
    (Build.sequence ds.length (fillAll ds) a t.peel.2 >>= Build.behind t.peel.1).Meets s
      (fun s' x => HasType s' t x) (Misfit.Harmless a t) := by
  have hbase : t.Fillable → t.peel.2.underlying.Fillable := fun ht => ht.peel.underlying hplain
  refine Meets.bind (P := fun s' x => HasType s' t.peel.2 x) ?_ fun x s' _ hx => meets_peeled hx
  unfold Build.sequence
  split
  · rename_i u hu
    rw [hu] at hbase
    refine ((h .free u s).part fun _ ht => ⟨rfl, (hbase ht).slice⟩).bind fun xs s₁ _ hxs => ?_
    exact (meets_slice hu hxs.2).bind fun c s₂ _ hc => meets_set _ hc
  · rename_i k u hu
    rw [hu] at hbase
    split
    · rename_i hk
      refine ((h a.item u s).part fun ha ht => ⟨free_item ha, (hbase ht).array⟩).bind
        fun xs s₁ _ hxs => meets_pure (.array ?_ hxs.2)
      rw [hu, hxs.1, hk]
    · exact meets_throw (Misfit.harmless rfl)
  · exact meets_throw (Misfit.harmless (Ty.misfit_panic? _))

mutual
/-- **What a variable is filled with** is of its type, and no misfit breaks off if the variable is
within reach and its type is fillable. -/
theorem fill_meets : ∀ (d : Datum) (a : Access) (t : Ty) (s : Store),
    (fill d a t).Meets s (fun s' x => HasType s' t x) (Misfit.Harmless a t)
  | null sh, a, t, s => by
      rw [fill]
      exact reach_meets fun _ => nullData_meets sh a t s
  | unknown _, a, t, s => by
      rw [fill]
      exact reach_meets fun _ => meets_throw (Misfit.harmless rfl)
  | bool b, a, t, s => by
      rw [fill]
      refine reach_meets fun _ => ?_
      split
      · rename_i hu
        exact meets_leaf (.basic hu ⟨b, rfl⟩)
      · exact meets_throw (Misfit.harmless (Ty.misfit_panic? _))
  | number x, a, t, s => by
      rw [fill]
      refine reach_meets fun _ => ?_
      rcases numberData_cases x t.peel.2 with ⟨d, hd, htyped⟩ | ⟨m, hm, hpanic⟩
      · simp only [hd]
        exact meets_leaf (htyped s)
      · simp only [hm]
        exact meets_throw (Misfit.harmless hpanic)
  | string x, a, t, s => by
      rw [fill]
      refine reach_meets fun _ => ?_
      split
      · rename_i hu
        exact meets_leaf (.basic hu ⟨x, rfl⟩)
      · exact meets_throw (Misfit.harmless (Ty.misfit_panic? _))
  | list e ds, a, t, s => by
      rw [fill]
      exact reach_meets fun hplain => sequence_meets (fillAll_meets ds) a s hplain
  | set e ds, a, t, s => by
      rw [fill]
      exact reach_meets fun hplain => sequence_meets (fillAll_meets ds) a s hplain
  | map _ es, a, t, s => by
      rw [fill]
      refine reach_meets fun hplain => ?_
      split
      · rename_i k u hu
        have hbase : t.Fillable → (Ty.map k u).Fillable := fun ht => hu ▸ ht.peel.underlying hplain
        refine ((fillEntries_meets es k u s).part fun _ ht => ⟨rfl, hbase ht⟩).bind
          fun xs s₁ _ hxs => ?_
        exact (meets_map hu hxs).bind fun c s₂ _ hc => meets_leaf hc
      · exact meets_throw (Misfit.harmless (Ty.misfit_panic? _))
  | tuple ds, a, t, s => by
      rw [fill]
      refine reach_meets fun hplain => ?_
      split
      · rename_i fs hu
        have hbase : t.Fillable → (Ty.struct fs).Fillable :=
          fun ht => hu ▸ ht.peel.underlying hplain
        split
        · rename_i hlen
          refine ((fillFields_meets ds a s hlen (List.Subset.refl fs)).part
            fun ha ht => ⟨ha, hbase ht⟩).bind fun xs s₁ _ hxs => meets_peeled (.ofFields hu hxs)
        · exact meets_throw (Misfit.harmless rfl)
      · exact meets_throw (Misfit.harmless (Ty.misfit_panic? _))
  | object es, a, t, s => by
      rw [fill]
      refine reach_meets fun hplain => ?_
      split
      · rename_i fs hu
        have hbase : t.Fillable → (Ty.struct fs).Fillable :=
          fun ht => hu ▸ ht.peel.underlying hplain
        split
        · exact meets_throw (Misfit.harmless rfl)
        · have hzeros := Data.haveTypes_zeros s fs
          refine ((fillAttrs_meets es a s hzeros).part fun ha ht => ⟨ha, hbase ht⟩).bind
            fun xs s₁ _ hxs => meets_peeled (.ofFields hu hxs)
      · exact meets_throw (Misfit.harmless (Ty.misfit_panic? _))
theorem fillAll_meets : ∀ ds : List Datum, FillsAll ds
  | [], a, t, s => by
      rw [fillAll]
      exact meets_pure ⟨rfl, by simp⟩
  | d :: ds, a, t, s => by
      rw [fillAll]
      refine (fill_meets d a t s).bind fun x s₁ _ hx => ?_
      refine (fillAll_meets ds a t s₁).bind fun xs s₂ hs hxs => meets_pure ⟨by simp [hxs.1], ?_⟩
      exact List.forall_mem_cons.mpr ⟨hx.mono hs, hxs.2⟩
theorem fillEntries_meets : ∀ (es : List (Bytes × Datum)) (k u : Ty) (s : Store),
    (fillEntries es k u).Meets s (fun s' xs => ∀ x ∈ xs, HasType s' k x.1 ∧ HasType s' u x.2)
      (Misfit.Harmless .free (.map k u))
  | [], k, u, s => by
      rw [fillEntries]
      exact meets_pure (by simp)
  | (key, d) :: es, k, u, s => by
      rw [fillEntries]
      cases hk : Ty.string.assignable k with
      | false =>
          refine meets_throw fun _ hmap => ?_
          rw [hmap.keys k u (.refl _)] at hk
          cases hk
      | true =>
          refine ((fill_meets d .free u s).part fun ha ht => ⟨ha, ht.map⟩).bind
            fun x s₁ _ hx => ?_
          refine (fillEntries_meets es k u s₁).bind fun xs s₂ hs hxs => meets_pure ?_
          exact List.forall_mem_cons.mpr ⟨⟨Data.hasType_stored s₂ key hk, hx.mono hs⟩, hxs⟩
theorem fillFields_meets : ∀ (ds : List Datum) (a : Access) {fs gs : List (Field Ty)} (s : Store),
    ds.length = fs.length → fs ⊆ gs →
    (fillFields ds a fs).Meets s (fun s' xs => HaveTypes s' fs xs)
      (Misfit.Harmless a (.struct gs))
  | [], a, [], gs, s, _, _ => by
      rw [fillFields]
      · exact meets_pure .nil
      · simp
  | d :: ds, a, f :: fs, gs, s, hlen, hsub => by
      rw [fillFields]
      obtain ⟨hf, hfs⟩ := List.cons_subset.mp hsub
      refine ((fill_meets d (a.field f) f.type s).part (free_field hf)).bind fun x s₁ _ hx => ?_
      refine (fillFields_meets ds a s₁ (by simpa using hlen) hfs).bind
        fun xs s₂ hs hxs => meets_pure ?_
      exact .cons (hx.mono hs) hxs
theorem fillAttrs_meets : ∀ (es : List (Bytes × Datum)) (a : Access) {fs : List (Field Ty)}
    {xs : List Data} (s : Store), HaveTypes s fs xs →
    (fillAttrs es a fs xs).Meets s (fun s' xs => HaveTypes s' fs xs)
      (Misfit.Harmless a (.struct fs))
  | [], a, fs, xs, s, hxs => by
      rw [fillAttrs]
      exact meets_pure hxs
  | (k, d) :: es, a, fs, xs, s, hxs => by
      rw [fillAttrs]
      split
      · exact meets_throw (Misfit.harmless rfl)
      · rename_i i f hnamed
        have hf := fieldNamed?_eq_some hnamed
        refine ((fill_meets d (a.field f) f.type s).part
          (free_field (List.mem_of_getElem? hf))).bind fun x s₁ hs hx => ?_
        exact fillAttrs_meets es a s₁ ((hxs.mono hs).set hf hx)
end

/-! ### Interfaces -/

theorem boxSlice_meets {b : Build (List Data)}
    (hb : b.Meets s (fun s' xs => ∀ x ∈ xs, HasType s' .any x) (fun m => m.panic? = none)) :
    (do
      let a ← Build.allocate (.slots (← b))
      return .boxed (.slice .any) (.slice a) : Build Data).Meets s
        (fun s' x => HasType s' .any x) (fun m => m.panic? = none) := by
  refine hb.bind fun xs s₁ _ hxs => ?_
  exact (meets_slice rfl hxs).bind fun a s₂ _ ha => meets_pure (.boxed rfl rfl rfl ha)

theorem boxMap_meets {b : Build (List (Data × Data))}
    (hb : b.Meets s (fun s' xs => ∀ x ∈ xs, HasType s' .string x.1 ∧ HasType s' .any x.2)
      (fun m => m.panic? = none)) :
    (do
      let a ← Build.allocate (.entries (← b))
      return .boxed (.map .string .any) (.map a) : Build Data).Meets s
        (fun s' x => HasType s' .any x) (fun m => m.panic? = none) := by
  refine hb.bind fun xs s₁ _ hxs => ?_
  exact (meets_map rfl hxs).bind fun a s₂ _ ha => meets_pure (.boxed rfl rfl rfl ha)

mutual
/-- **What an interface is filled with** is nil or a value that has a type of its own, and no misfit
breaks off. -/
theorem box_meets : ∀ (d : Datum) (s : Store),
    (box d).Meets s (fun s' x => HasType s' .any x) (fun m => m.panic? = none)
  | null _, s => by
      rw [box]
      exact meets_pure (.nil rfl)
  | unknown _, s => by
      rw [box]
      exact meets_throw rfl
  | bool b, s => by
      rw [box]
      exact meets_pure (.boxed rfl rfl rfl (.basic rfl ⟨b, rfl⟩))
  | number x, s => by
      rw [box]
      rcases nearestReal_cases x with ⟨bits, hx⟩ | hx
      · rw [hx]
        exact meets_pure (.boxed rfl rfl rfl (.basic rfl ⟨_, rfl⟩))
      · rw [hx]
        exact meets_throw rfl
  | string x, s => by
      rw [box]
      exact meets_pure (.boxed rfl rfl rfl (.basic rfl ⟨x, rfl⟩))
  | list _ ds, s => by
      rw [box]
      exact boxSlice_meets (boxAll_meets ds s)
  | set _ ds, s => by
      rw [box]
      exact boxSlice_meets (boxAll_meets ds s)
  | tuple ds, s => by
      rw [box]
      exact boxSlice_meets (boxAll_meets ds s)
  | map _ es, s => by
      rw [box]
      exact boxMap_meets (boxEntries_meets es s)
  | object es, s => by
      rw [box]
      exact boxMap_meets (boxEntries_meets es s)
theorem boxAll_meets : ∀ (ds : List Datum) (s : Store),
    (boxAll ds).Meets s (fun s' xs => ∀ x ∈ xs, HasType s' .any x) (fun m => m.panic? = none)
  | [], s => by
      rw [boxAll]
      exact meets_pure (by simp)
  | d :: ds, s => by
      rw [boxAll]
      refine (box_meets d s).bind fun x s₁ _ hx => ?_
      refine (boxAll_meets ds s₁).bind fun xs s₂ hs hxs => meets_pure ?_
      exact List.forall_mem_cons.mpr ⟨hx.mono hs, hxs⟩
theorem boxEntries_meets : ∀ (es : List (Bytes × Datum)) (s : Store),
    (boxEntries es).Meets s (fun s' xs => ∀ x ∈ xs, HasType s' .string x.1 ∧ HasType s' .any x.2)
      (fun m => m.panic? = none)
  | [], s => by
      rw [boxEntries]
      exact meets_pure (by simp)
  | (k, d) :: es, s => by
      rw [boxEntries]
      refine ((box_meets d s).inside fun _ _ => rfl).bind fun x s₁ _ hx => ?_
      refine (boxEntries_meets es s₁).bind fun xs s₂ hs hxs => meets_pure ?_
      exact List.forall_mem_cons.mpr ⟨⟨.basic rfl ⟨k, rfl⟩, hx.mono hs⟩, hxs⟩
end

/-- **What a variable of any type is set to** is of the type. A misfit that breaks off is one of
filling. -/
theorem assign_meets (d : Datum) (t : Ty) (s : Store) :
    (d.assign t).Meets s (fun s' x => HasType s' t x)
      (fun m => m.panic? = none ∨ t.isInterface = false ∧ d.fill .free t s = .error m) := by
  unfold assign
  split
  · rename_i ht
    refine ((box_meets d s).misfits fun m hm => .inl hm).bind fun x s₁ _ hx => ?_
    rcases hx.interface_cases rfl with rfl | ⟨u, d', rfl, hu, -, hd⟩
    · exact meets_pure (.nil (Ty.isValue_of_isInterface ht))
    · simp only
      split
      · rename_i hassignable
        exact meets_pure (.boxed ht hu hassignable hd)
      · exact meets_throw (.inl rfl)
  · rename_i ht
    refine ⟨fun h => (fill_meets d .free t s).ok h, fun h => .inr ⟨?_, h⟩⟩
    simpa using ht

end Datum

end Tacit
