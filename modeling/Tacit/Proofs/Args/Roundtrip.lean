import Tacit.Catalogue
import Tacit.Proofs.Args.Decoding
import Tacit.Proofs.Datum.Filling
import Tacit.Proofs.Dump.Readback

/-!
# Constants are decoded from their text

The text of a constant, put in brackets, is a text of arguments.

* `Data.Spelled`: plain values, and slices of them to any depth; `Data.Equal`: what is the same in
  two stores.
* `Datum.Carries`: data that is brought into the shape of a type and then fills a variable with a
  given value. `carries_slice` has this for a slice from its slots.
* `Data.Spelled.expressed`: what is spelled is written as a formula whose value carries it.
* `Dump.ofText?_brackets`: the text in brackets is the sequence of this formula alone.
* `decode_printed`: the text in brackets is decoded as the constant.
-/

namespace Tacit

open Dump (Expresses Written datumTokens itemTokens commaSeparated render layout placeAfter spaced)

/-! ### Equal data -/

/-- The data `d'` in the store `s'` is equal to `d` in the store `s`: it is the same truth value,
integer or text, or a slice of as many slots that are equal one by one. -/
inductive Data.Equal (s s' : Store) : Data → Data → Prop where
  | bool (b : Bool) : Equal s s' (.bool b) (.bool b)
  | int (n : Int) : Equal s s' (.int n) (.int n)
  | text (x : Bytes) : Equal s s' (.text x) (.text x)
  | slice {a a' : Addr} {ds' : List Data} (ha' : s'.cells[a']? = some (.slots ds'))
      (hlen : (s.slots a).length = ds'.length)
      (hds : ∀ d d', (d, d') ∈ (s.slots a).zip ds' → Equal s s' d d') :
      Equal s s' (.slice a) (.slice a')

theorem Data.Equal.mono {s s' s'' : Store} {d d' : Data} (h : Data.Equal s s' d d')
    (hs : s'.cells <+: s''.cells) : Data.Equal s s'' d d' := by
  induction h with
  | bool b => exact .bool b
  | int n => exact .int n
  | text x => exact .text x
  | slice ha' hlen _ ih => exact .slice (Store.cell_kept hs ha') hlen ih

/-! ### Lists of data in one shape -/

theorem Shape.ne_any_of_isSettled {sh : Shape} (h : sh.isSettled = true) : sh ≠ .any := by
  rintro rfl
  cases h

namespace Datum

theorem shapes_eq_replicate {e : Shape} : ∀ {xs : List Datum}, (∀ x ∈ xs, x.shape = e) →
    shapes xs = List.replicate xs.length e
  | [], _ => rfl
  | x :: xs, h => by
      obtain ⟨hx, hxs⟩ := List.forall_mem_cons.mp h
      rw [shapes, hx, shapes_eq_replicate hxs]
      rfl

/-- Some data that have one shape are the elements of a list. -/
theorem listOf_eq {e : Shape} (he : e ≠ .any) {xs : List Datum} (hne : xs ≠ [])
    (hxs : ∀ x ∈ xs, x.shape = e) : listOf xs = .ok (.list e xs) := by
  obtain ⟨n, hn⟩ : ∃ n, xs.length = n + 1 := ⟨xs.length - 1, by
    have := List.length_pos_iff.mpr hne
    omega⟩
  have helem : elementShape? xs = some e := by
    simp [elementShape?, shapes_eq_replicate hxs, hn, List.replicate_succ, he]
  have hsettled : ∀ x ∈ xs, withShape e x = x := by
    intro x hx
    unfold withShape
    split
    · exact absurd (hxs _ hx) (Ne.symm he)
    · exact absurd (hxs _ hx) (Ne.symm he)
    · rfl
  simp [listOf, helem, List.map_congr_left hsettled]

/-- A sequence is brought into a list by bringing its elements into shape. -/
theorem reshape_tuple {e : Shape} (he : e ≠ .any) {ys xs : List Datum}
    (h : reshapeEach ys e = .ok xs) (hlen : xs.length = ys.length) (hxs : ∀ x ∈ xs, x.shape = e) :
    (Datum.tuple ys).reshape (.list e) = .ok (.list e xs) := by
  cases ys with
  | nil =>
      rw [reshapeEach] at h
      cases h
      simp [reshape]
  | cons y ys =>
      have hpart : partShape (shapes (y :: ys)) e = e := if_neg he
      have hne : xs ≠ [] := by
        rintro rfl
        cases hlen
      rw [reshape, hpart, h]
      · exact listOf_eq he hne hxs
      all_goals simp

end Datum

/-! ### Formulas for lists -/

theorem Formula.value?_eq_some {x : Formula} {y : Datum} (h : x.value? = some y) :
    x.eval .empty = .ok y := by
  unfold value? at h
  simp only at h
  split at h
  · rename_i hvalid
    cases h
    exact congrArg (Outcome.mk _) hvalid
  · cases h

/-- The value of a sequence is the sequence of the values. -/
theorem Formula.value?_tuple {xs : List Formula} {ys : List Datum}
    (h : List.Forall₂ (fun x y => x.value? = some y) xs ys) :
    (Formula.tuple xs).value? = some (.tuple ys) := by
  have hall : evalAll xs .empty = ys.map .ok := by
    induction h with
    | nil => rw [evalAll]; rfl
    | cons hx _ ih => rw [evalAll, value?_eq_some hx, ih]; rfl
  have heval : (Formula.tuple xs).eval .empty = .ok (.tuple ys) := by
    rw [eval, hall]
    simp [Outcome.ok, Function.comp_def]
  rw [value?, heval]
  rfl

namespace Dump

theorem head?_datumTokens (x : Datum) : (datumTokens x).head? ≠ some (.name "for") := by
  cases x with
  | bool b => cases b <;> simp [datumTokens]
  | string x =>
      rw [datumTokens, textTokens]
      split <;> simp
  | map _ es => cases es <;> simp [datumTokens]
  | object es => cases es <;> simp [datumTokens]
  | _ => simp [datumTokens]

/-- No comprehension starts with the elements of a list. -/
theorem head?_items (xs : List Datum) :
    (commaSeparated (itemTokens xs)).head? ≠ some (.name "for") := by
  cases xs with
  | nil => simp [itemTokens, commaSeparated]
  | cons x xs =>
      have hx := head?_datumTokens x
      cases xs with
      | nil => exact hx
      | cons x' xs =>
          rw [itemTokens, itemTokens, commaSeparated, List.head?_append]
          · cases hhead : (datumTokens x).head? with
            | none => simp
            | some t =>
                rw [hhead] at hx
                exact hx
          · simp

/-- No blank is between the tokens of a datum and the brackets around it. -/
theorem spaced_datumTokens (x : Datum) :
    (∀ t ∈ (datumTokens x).head?, spaced .openBracket t = false) ∧
      ∀ t ∈ (datumTokens x).getLast?, spaced t .closeBracket = false := by
  cases x with
  | string x =>
      rw [datumTokens, textTokens]
      split <;> simp [spaced]
  | map _ es => cases es <;> simp [datumTokens, List.getLast?_cons, spaced]
  | object es => cases es <;> simp [datumTokens, List.getLast?_cons, spaced]
  | _ => simp [datumTokens, List.getLast?_cons, spaced]

theorem placeAfter_append (u : Token) : ∀ (before : Token) (ts : List Token),
    placeAfter before (ts ++ [u]) = placeAfter before ts ++
      [⟨if spaced ((before :: ts).getLast (by simp)) u then 1 else 0, u⟩]
  | before, [] => rfl
  | before, t :: ts => by
      rw [List.cons_append, placeAfter, placeAfter, placeAfter_append u t ts]
      rfl

/-- The text of the tokens of a datum in brackets is the text of the datum with the brackets next to
it. -/
theorem render_brackets {x : Datum} (hne : datumTokens x ≠ [])
    (hline : ∀ t ∈ datumTokens x, t ≠ .newline ∧ t ≠ .equal) :
    render (layout (.openBracket :: datumTokens x ++ [.closeBracket])) =
      "[" ++ render (layout (datumTokens x)) ++ "]" := by
  obtain ⟨hfirst, hlast⟩ := spaced_datumTokens x
  have hplaced : placeAfter .openBracket (datumTokens x ++ [.closeBracket]) =
      layout (datumTokens x) ++ [⟨0, .closeBracket⟩] := by
    cases hts : datumTokens x with
    | nil => exact absurd hts hne
    | cons t ts =>
        rw [hts] at hfirst hlast hline
        have hclose := hlast _ (List.getLast_mem_getLast? (by simp))
        rw [List.cons_append, placeAfter, placeAfter_append, layout_line hline, hfirst t rfl]
        simp [hclose]
  have hall : ∀ t ∈ .openBracket :: (datumTokens x ++ [.closeBracket]),
      t ≠ .newline ∧ t ≠ .equal :=
    List.forall_mem_cons.mpr ⟨by simp, List.forall_mem_append.mpr ⟨hline, by simp⟩⟩
  rw [List.cons_append, layout_line hall, hplaced]
  simp [render, Token.text, String.join_cons, String.append_assoc]

/-- **The text of a datum in brackets** is the sequence of the datum alone. -/
theorem ofText?_brackets {x : Datum} {f : Formula} (h : Expresses (datumTokens x) f) :
    Formula.ofText? (.ofString ("[" ++ render (layout (datumTokens x)) ++ "]")) =
      some (.tuple [f]) := by
  have hlist := ofText?_list (.cons h .nil) (head?_datumTokens x)
  obtain ⟨us, hwritten, hreads⟩ := h
  have hus : us ≠ [] := by
    obtain ⟨t, us', rfl, -⟩ := hreads.starts
    simp
  rw [← render_brackets (hwritten.ne_nil hus) hwritten.inLine]
  exact hlist

end Dump

section

variable [Declarations]

/-! ### Types and data -/

/-- A type built by slices from types of truth values, integers and texts. -/
inductive Ty.Sliced : Ty → Prop where
  | bool {t : Ty} (ht : t.underlying = .bool) : Ty.Sliced t
  | int {t : Ty} {lo hi : Int} (ht : t.limits? = some (lo, hi)) : Ty.Sliced t
  | text {t : Ty} (ht : t.underlying = .string) : Ty.Sliced t
  | slice {u : Ty} (hu : Ty.Sliced u) : Ty.Sliced (.slice u)

theorem Ty.shape?_slice {u : Ty} {e : Shape} (h : u.shape? = some e) :
    (Ty.slice u).shape? = some (.list e) := by
  rw [shape?] at h
  rw [shape?, shapeWith, h]
  rfl

/-- Literal notation expresses the values of such a type, in a shape that leaves nothing open. -/
theorem Ty.Sliced.shape {t : Ty} (h : t.Sliced) :
    ∃ sh, t.shape? = some sh ∧ sh.isSettled = true := by
  induction h with
  | bool ht => exact ⟨.bool, (isScalar_of_underlying ht rfl).shape, rfl⟩
  | int ht => exact ⟨.number, (isScalar_of_limits ht).1.shape, rfl⟩
  | text ht => exact ⟨.string, (isScalar_of_underlying ht rfl).shape, rfl⟩
  | slice _ ih =>
      obtain ⟨sh, hsh, hsettled⟩ := ih
      exact ⟨.list sh, shape?_slice hsh, hsettled⟩

theorem Ty.Sliced.endless {t : Ty} (h : t.Sliced) : t.isEndless = false := by
  induction h with
  | bool ht => exact (show IsScalar _ .bool from isScalar_of_underlying ht rfl).endless
  | int ht => exact (isScalar_of_limits ht).1.endless
  | text ht => exact (show IsScalar _ .string from isScalar_of_underlying ht rfl).endless
  | slice _ ih => exact ih

/-- Data of a type built by slices: plain values, and slices of such data that are not nil. -/
inductive Data.Spelled (s : Store) : Ty → Data → Prop where
  | plain {t : Ty} {d : Data} (h : Value.Plain ⟨t, d⟩) : Spelled s t d
  | slice {u : Ty} {a : Addr} (hu : u.Sliced) (hds : ∀ d ∈ s.slots a, Spelled s u d) :
      Spelled s (.slice u) (.slice a)

theorem Data.Spelled.sliced {s : Store} {t : Ty} {d : Data} (h : Data.Spelled s t d) :
    t.Sliced := by
  cases h with
  | plain hd =>
      cases hd with
      | bool ht => exact .bool ht
      | int ht => exact .int ht
      | text ht => exact .text ht
  | slice hu => exact .slice hu

namespace Data

variable {s s' s'' : Store} {d d' : Data}

theorem equal_plain {t : Ty} (h : Value.Plain ⟨t, d⟩) : Equal s s' d d := by
  cases h with
  | bool => exact .bool _
  | int => exact .int _
  | text => exact .text _

end Data

/-! ### Data that are brought into shape and stored -/

namespace Datum

open Args (wantedShape)

/-- Filling a variable of type `t` with the datum never fails, and the variable then holds what `d`
is in the store `s`. -/
def Fills (s : Store) (t : Ty) (d : Data) (x : Datum) : Prop := ∀ s₁, ∃ d' s₂,
  x.fill .free t s₁ = .ok (d', s₂) ∧ s₁.cells <+: s₂.cells ∧ Data.Equal s s₂ d d'

/-- The datum is known, and in the shape that expresses type `t` it fills a variable with what `d`
is in the store `s`. -/
structure Carries (s : Store) (t : Ty) (d : Data) (y : Datum) : Prop where
  known : y.isKnown = true
  convertible : ∀ unifies, y.shape.convertibleWith unifies (wantedShape t) = true
  reshape : ∃ x, y.reshape (wantedShape t) = .ok x ∧ x.shape = wantedShape t ∧
    (y.shape = wantedShape t → x = y) ∧ Fills s t d x

variable {s : Store} {t u : Ty} {d : Data} {y : Datum}

theorem Spells.carries (h : y.Spells ⟨t, d⟩) (hd : Value.Plain ⟨t, d⟩) : Carries s t d y := by
  have hshape : wantedShape t = y.shape := by rw [wantedShape, h.shape]; rfl
  have hfills : Fills s t d y := fun s₁ => ⟨d, s₁, h.fill s₁, List.prefix_rfl, Data.equal_plain hd⟩
  have hself : y.isKnown = true ∧ (∀ unifies, y.shape.convertibleWith unifies y.shape = true) ∧
      y.reshape y.shape = .ok y := by
    rcases h.atom with ⟨b, rfl⟩ | ⟨n, rfl⟩ | ⟨x, rfl⟩
    · exact ⟨rfl, by simp [Datum.shape, Shape.convertibleWith], by simp [Datum.shape, reshape]⟩
    · exact ⟨rfl, by simp [Datum.shape, Shape.convertibleWith], by simp [Datum.shape, reshape]⟩
    · exact ⟨rfl, by simp [Datum.shape, Shape.convertibleWith], by simp [Datum.shape, reshape]⟩
  refine ⟨hself.1, ?_, y, ?_, hshape.symm, fun _ => rfl, hfills⟩
  · rw [hshape]
    exact hself.2.1
  · rw [hshape]
    exact hself.2.2

section

variable {ds : List Data} {ys xs : List Datum}

theorem allKnown_of_carries (h : List.Forall₂ (Carries s u) ds ys) : allKnown ys = true := by
  induction h with
  | nil => rfl
  | cons hy _ ih => rw [allKnown, hy.known, ih]; rfl

theorem convertible_of_carries (h : List.Forall₂ (Carries s u) ds ys)
    (unifies : List Shape → Bool) :
    (shapes ys).all (Shape.convertibleWith unifies · (wantedShape u)) = true := by
  induction h with
  | nil => rfl
  | cons hy _ ih => rw [shapes, List.all_cons, hy.convertible, ih]; rfl

/-- The elements are brought into shape one by one. -/
theorem reshapeEach_of_carries (h : List.Forall₂ (Carries s u) ds ys) :
    ∃ xs, reshapeEach ys (wantedShape u) = .ok xs ∧ xs.length = ys.length ∧
      (∀ x ∈ xs, x.shape = wantedShape u) ∧ List.Forall₂ (Fills s u) ds xs := by
  induction h with
  | nil => exact ⟨[], by rw [reshapeEach], rfl, by simp, .nil⟩
  | cons hy _ ih =>
      obtain ⟨xs, hxs, hlen, hshapes, hfills⟩ := ih
      obtain ⟨x, hx, hshape, -, hfill⟩ := hy.reshape
      refine ⟨x :: xs, ?_, by simp [hlen], List.forall_mem_cons.mpr ⟨hshape, hshapes⟩,
        .cons hfill hfills⟩
      rw [reshapeEach, hx, hxs]
      rfl

/-- The slots are filled one by one, and those that are filled stay as they are. -/
theorem fillAll_of_fills (h : List.Forall₂ (Fills s u) ds xs) (s₁ : Store) :
    ∃ ds' s₂, fillAll xs .free u s₁ = .ok (ds', s₂) ∧ s₁.cells <+: s₂.cells ∧
      List.Forall₂ (Data.Equal s s₂) ds ds' := by
  induction h generalizing s₁ with
  | nil => exact ⟨[], s₁, by rw [fillAll]; rfl, List.prefix_rfl, .nil⟩
  | cons hx _ ih =>
      obtain ⟨d', s₂, hd', hs₁, hequal⟩ := hx s₁
      obtain ⟨ds', s₃, hds', hs₂, hall⟩ := ih s₂
      refine ⟨d' :: ds', s₃, ?_, hs₁.trans hs₂, .cons (hequal.mono hs₂) hall⟩
      rw [fillAll, Build.bind_of_ok hd', Build.bind_of_ok hds']
      rfl

end

/-- **A sequence carries a slice** if its elements carry the slots. -/
theorem carries_slice (hu : u.Sliced) {a : Addr} {ys : List Datum}
    (h : List.Forall₂ (Carries s u) (s.slots a) ys) :
    Carries s (.slice u) (.slice a) (.tuple ys) := by
  obtain ⟨e, he, hsettled⟩ := hu.shape
  have hany := Shape.ne_any_of_isSettled hsettled
  have hwanted : wantedShape u = e := by rw [wantedShape, he]; rfl
  have hlist : wantedShape (.slice u) = .list e := by rw [wantedShape, Ty.shape?_slice he]; rfl
  obtain ⟨xs, hxs, hlen, hshapes, hfills⟩ := reshapeEach_of_carries h
  rw [hwanted] at hxs hshapes
  refine ⟨allKnown_of_carries h, fun unifies => ?_, .list e xs, ?_, hlist.symm, ?_, fun s₁ => ?_⟩
  · rw [hlist, Datum.shape, Shape.convertibleWith, ← hwanted]
    · exact convertible_of_carries h unifies
    · exact hany
  · rw [hlist]
    exact reshape_tuple hany hxs hlen hshapes
  · rw [hlist]
    simp [Datum.shape]
  · obtain ⟨ds', s₂, hds', hs, hequal⟩ := fillAll_of_fills hfills s₁
    obtain ⟨hslots, hzip⟩ := List.forall₂_iff_zip.mp hequal
    refine ⟨.slice s₂.cells.length, ⟨s₂.cells ++ [.slots ds']⟩, ?_,
      hs.trans (List.prefix_append _ _), .slice (by simp) hslots fun d d' hdd' => ?_⟩
    · have hsequence : Build.sequence xs.length (fillAll xs) .free (.slice u) s₁ =
          .ok (.slice s₂.cells.length, ⟨s₂.cells ++ [.slots ds']⟩) := by
        rw [Build.sequence]
        show (fillAll xs .free u >>= _) s₁ = _
        rw [Build.bind_of_ok hds']
        rfl
      rw [fill]
      show (Build.sequence xs.length (fillAll xs) .free (.slice u) >>= _) s₁ = _
      rw [Build.bind_of_ok hsequence]
      rfl
    · exact (hzip hdd').mono (List.prefix_append _ _)

end Datum

/-! ### Data that are written and read -/

namespace Data

variable {s : Store} {t u : Ty} {d : Data}

/-- The data is written as a formula whose value carries it. -/
def Expressed (s : Store) (t : Ty) (d : Data) : Prop :=
  ∃ x f y, Value.datum? ⟨t, d⟩ s = some x ∧ x.isKnown = true ∧ Expresses (datumTokens x) f ∧
    f.value? = some y ∧ Datum.Carries s t d y

theorem expressed_all {ds : List Data} (h : ∀ d ∈ ds, Expressed s u d) :
    ∃ xs fs ys, ds.mapM (fun d => Value.datum? ⟨u, d⟩ s) = some xs ∧ Datum.allKnown xs = true ∧
      List.Forall₂ Expresses (itemTokens xs) fs ∧
      List.Forall₂ (fun f y => f.value? = some y) fs ys ∧
      List.Forall₂ (Datum.Carries s u) ds ys := by
  induction ds with
  | nil => exact ⟨[], [], [], rfl, rfl, .nil, .nil, .nil⟩
  | cons d ds ih =>
      obtain ⟨⟨x, f, y, hx, hknown, hf, hy, hcarries⟩, hds⟩ := List.forall_mem_cons.mp h
      obtain ⟨xs, fs, ys, hxs, hallKnown, hfs, hys, hall⟩ := ih hds
      refine ⟨x :: xs, f :: fs, y :: ys, ?_, ?_, .cons hf hfs, .cons hy hys, .cons hcarries hall⟩
      · rw [List.mapM_cons, hx, hxs]
        rfl
      · rw [Datum.allKnown, hknown, hallKnown]
        rfl

theorem datum?_slice {e : Shape} (he : u.shape? = some e) (hsettled : e.isSettled = true)
    (a : Addr) :
    Value.datum? ⟨.slice u, .slice a⟩ s =
      ((s.slots a).mapM fun d => Value.datum? ⟨u, d⟩ s).map (.list e) := by
  have hfollow : s.follow (.slice u) (.slice a) = some (.slice u, .slice a) := by
    simp [Store.follow]
  have hslots : (fun d => Value.datum? ⟨u, d⟩ s) = datumOf? s e .free u := by
    funext d
    simp [Value.datum?, he]
  have hlist : listDatum? e = fun ds => some (.list e ds) := by
    funext ds
    rw [listDatum?, hsettled]
    rfl
  rw [hslots, Value.datum?, Ty.shape?_slice he]
  show datumOf? s (.list e) .free (.slice u) (.slice a) = _
  rw [datumOf?, hfollow]
  show ((s.slots a).mapM (datumOf? s e .free u)).bind (listDatum? e) = _
  rw [hlist, Option.map_eq_bind]
  rfl

/-- A constant that is spelled is written as its datum. -/
theorem Spelled.constTokens_eq {v u : Value} (h : Spelled s u.type u.data)
    (hv : v.content = some u) {x : Datum} (hx : u.datum? s = some x) (hknown : x.isKnown = true) :
    Dump.constTokens (some v) s = .ok (datumTokens x) := by
  have hend := h.sliced.endless
  have hdata : u.data ≠ .nil ∧ Dump.isFinite u.data = true := by
    generalize u.type = t, u.data = d at h
    cases h with
    | plain hd => cases hd <;> exact ⟨by simp, rfl⟩
    | slice => exact ⟨by simp, rfl⟩
  simp [Dump.constTokens, Dump.shownContent?_of_ne_nil hv hdata.1, Dump.valueTokens, hdata.2, hend,
    hx, Dump.literalTokens, hknown]

/-- **What is spelled is expressed.** -/
theorem Spelled.expressed (h : Spelled s t d) : Expressed s t d := by
  induction h with
  | plain hd =>
      obtain ⟨-, x, f, y, hx, hknown, hf, hy, hspells⟩ := hd.expressed s
      exact ⟨x, f, y, hx, hknown, hf, hy, hspells.carries hd⟩
  | @slice u a hu _ ih =>
      obtain ⟨e, he, hsettled⟩ := hu.shape
      obtain ⟨xs, fs, ys, hxs, hknown, hfs, hys, hall⟩ := expressed_all ih
      refine ⟨.list e xs, .tuple fs, .tuple ys, ?_, hknown, ?_, Formula.value?_tuple hys,
        Datum.carries_slice hu hall⟩
      · rw [datum?_slice he hsettled, hxs]
        rfl
      · rw [datumTokens]
        exact Dump.expresses_list hfs (Dump.head?_items xs)

end Data

/-! ### Decoding -/

namespace Args

variable {s : Store} {t : Ty} {d : Data} {y : Datum}

theorem convert_of_carries (h : Datum.Carries s t d y) :
    ∃ x, convert (.tuple [y]) [t] = .ok [x] ∧ Datum.Fills s t d x := by
  obtain ⟨x, hx, -, hsame, hfills⟩ := h.reshape
  refine ⟨x, ?_, hfills⟩
  have hconvert : (Datum.tuple [y]).convert (.tuple [wantedShape t]) = .ok (.tuple [x]) := by
    have hshape : (Datum.tuple [y]).shape = .tuple [y.shape] := rfl
    have hconvertible : (Shape.tuple [y.shape]).convertible (.tuple [wantedShape t]) = true := by
      simp [Shape.convertible, Shape.convertibleWith, Shape.convertibleAll, h.convertible]
    have hall : Datum.reshapeAll [y] [wantedShape t] = .ok [x] := by
      rw [Datum.reshapeAll, hx, Datum.reshapeAll]
      · rfl
      · simp
    unfold Datum.convert
    rw [hshape]
    by_cases heq : y.shape = wantedShape t
    · rw [if_pos (by rw [heq]), hsame heq]
    · rw [if_neg (by simpa using heq), if_pos hconvertible, Datum.reshape, hall]
      rfl
  rw [convert, List.map_singleton, hconvert]

/-- The sequence of a datum alone is decoded as what the datum carries. -/
theorem decode_of_carries {text : Bytes} {f : Formula} (hblank : Text.isBlankText text = false)
    (hf : Formula.ofText? text = some f) (hy : f.value? = some (.tuple [y]))
    (h : Datum.Carries s t d y) (ht : t.Sliced) (s₁ : Store) :
    ∃ d' s₂, decode text [t] s₁ = .ok ([⟨t, d'⟩], s₂) ∧ s₁.cells <+: s₂.cells ∧
      Data.Equal s s₂ d d' := by
  obtain ⟨sh, hsh, -⟩ := ht.shape
  obtain ⟨x, hx, hfills⟩ := convert_of_carries h
  obtain ⟨d', s₂, hfill, hs, hequal⟩ := hfills s₁
  refine ⟨d', s₂, ?_, hs, hequal⟩
  have hvalue : (formula? text).bind Formula.value? = some (.tuple [y]) := by
    rw [formula?, hblank, hf]
    exact hy
  have hseq : sequence? (.tuple [y]) = some [y] := by
    simp [sequence?, Datum.isKnown, Datum.allKnown, h.known]
  have hassign : x.assign t s₁ = .ok (d', s₂) := by rw [Datum.assign_eq_fill hsh, hfill]
  have hend : [t].any Ty.isEndless = false := by simp [ht.endless]
  unfold decode
  simp only [hvalue, hseq, hend, hx]
  show assignAll 0 [x] [t] s₁ = _
  rw [assignAll, hassign]
  rfl

/-- **Printed constants are decoded.** Let the content of a constant, which may be in an interface
or not, be of a type built by slices from types of truth values, integers and texts, with no slice
that is nil and with plain texts only. The constant has a text. This text in brackets is decoded,
whatever the store, as arguments for one parameter of the type, and the argument is equal to the
content. Nothing that was in the store has changed. -/
theorem decode_printed {s : Store} {v u : Value} (hv : v.content = some u)
    (hu : Data.Spelled s u.type u.data) :
    ∃ text, Dump.expression s (.const (some v)) = .ok text ∧ ∀ s₁, ∃ d' s₂,
      decode (.ofString ("[" ++ text ++ "]")) [u.type] s₁ = .ok ([⟨u.type, d'⟩], s₂) ∧
        s₁.cells <+: s₂.cells ∧ Data.Equal s s₂ u.data d' := by
  obtain ⟨x, f, y, hx, hknown, hf, hy, hcarries⟩ := hu.expressed
  have htokens : Dump.exprTokens s (.const (some v)) = .ok (datumTokens x) := by
    rw [Dump.exprTokens, hu.constTokens_eq hv hx hknown]
  refine ⟨render (layout (datumTokens x)), by rw [Dump.expression, htokens]; rfl, fun s₁ => ?_⟩
  exact decode_of_carries (isBlankText_brackets _) (Dump.ofText?_brackets hf)
    (Formula.value?_tuple (.cons hy .nil)) hcarries hu.sliced s₁

end Args

end

namespace Args

open scoped Catalogue

/-- A slice with the least and the greatest number of their type, an empty slice, and the slice of
the two. -/
def limitsStore : Store :=
  ⟨[.slots [.int (-9223372036854775808), .int 9223372036854775807], .slots [],
    .slots [.slice 0, .slice 1]]⟩

/-- The slice of the two. -/
def limits : Value := ⟨.slice (.slice (.basic .int64)), .slice 2⟩

theorem spelled_limits : Data.Spelled limitsStore limits.type limits.data := by
  have hlimits : (Ty.basic .int64).limits? =
      some (-9223372036854775808, 9223372036854775807) := rfl
  have hint : Ty.Sliced (.basic .int64) := .int hlimits
  refine .slice (.slice hint) fun d hd => ?_
  have hslices : d = .slice 0 ∨ d = .slice 1 := by simpa [limitsStore, Store.slots] using hd
  rcases hslices with rfl | rfl
  · refine .slice hint fun d hd => ?_
    have hnumbers : d = .int (-9223372036854775808) ∨ d = .int 9223372036854775807 := by
      simpa [limitsStore, Store.slots] using hd
    rcases hnumbers with rfl | rfl
    · exact .plain (.int hlimits (by decide) (by decide))
    · exact .plain (.int hlimits (by decide) (by decide))
  · refine .slice hint fun d hd => ?_
    simp [limitsStore, Store.slots] at hd

/-- The slice is decoded from the text of a constant that holds it in an interface. -/
theorem decode_printed_limits :
    Data.Spelled limitsStore limits.type limits.data ∧
    ∃ text, Dump.expression limitsStore (.const (some ⟨.any, .boxed limits.type limits.data⟩)) =
        .ok text ∧
      ∃ d' s₂, decode (.ofString ("[" ++ text ++ "]")) [limits.type] .empty =
          .ok ([⟨limits.type, d'⟩], s₂) ∧
        Data.Equal limitsStore s₂ limits.data d' := by
  obtain ⟨text, htext, hdecode⟩ :=
    @decode_printed _ limitsStore ⟨.any, .boxed limits.type limits.data⟩ limits rfl spelled_limits
  obtain ⟨d', s₂, hd', -, hequal⟩ := hdecode .empty
  exact ⟨spelled_limits, text, htext, d', s₂, hd', hequal⟩

end Args

end Tacit
