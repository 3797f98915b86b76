import Tacit.Proofs.Datum.Filling

/-!
# Interfaces filled with data

An interface that is filled with a datum holds the datum over again: the same tree, with its
sequences and keyed collections in cells of the store.

* `Datum.Mirrored s d x`: `x` is the datum `d` as an interface holds it, all the way through the
  store `s`.
* `Datum.numbers`: the numbers in a datum, at any depth.
* `box_mirrors`: filling an interface succeeds exactly if every number in the datum is near to a
  floating-point number, and the interface then holds the mirrored datum.
-/

namespace Tacit

namespace Datum

/-- The items of a list, a set or a tuple, in the order in which they are enumerated. -/
def items? : Datum → Option (List Datum)
  | list _ ds | set _ ds | tuple ds => some ds
  | _ => none

/-- The entries of a map or an object. -/
def entries? : Datum → Option (List (Bytes × Datum))
  | map _ es | object es => some es
  | _ => none

/-- The datum as an interface holds it. Null is nil at every depth, a truth value and a text are
themselves, and a number is the floating-point number nearest to it. A sequence is a slice of as
many interfaces, in order; a keyed collection is a map from texts to interfaces, with the same
keys. -/
inductive Mirrored (s : Store) : Datum → Data → Prop where
  | null {sh : Shape} : Mirrored s (null sh) .nil
  | bool {b : Bool} : Mirrored s (bool b) (.boxed .bool (.bool b))
  | string {t : Bytes} : Mirrored s (string t) (.boxed .string (.text t))
  | number {n : Number.Big} {bits : Nat} (hn : nearestReal n = .ok bits) :
      Mirrored s (number n) (.boxed (.basic .float64) (.float64 bits.toUInt64))
  | sequence {d : Datum} {ds : List Datum} {a : Addr} {xs : List Data} (hd : d.items? = some ds)
      (ha : s.cells[a]? = some (.slots xs)) (hlen : ds.length = xs.length)
      (hxs : ∀ e x, (e, x) ∈ ds.zip xs → Mirrored s e x) :
      Mirrored s d (.boxed (.slice .any) (.slice a))
  | keyed {d : Datum} {es : List (Bytes × Datum)} {a : Addr} {xs : List (Data × Data)}
      (hd : d.entries? = some es) (ha : s.cells[a]? = some (.entries xs))
      (hkeys : xs.map (·.1) = es.map fun e => .text e.1)
      (hxs : ∀ e x, (e, x) ∈ es.zip xs → Mirrored s e.2 x.2) :
      Mirrored s d (.boxed (.map .string .any) (.map a))

/-- Items and what mirrors them, in order. -/
abbrev MirroredAll (s : Store) : List Datum → List Data → Prop := List.Forall₂ (Mirrored s)

/-- Entries and what mirrors them, key by key. -/
abbrev MirroredEntries (s : Store) : List (Bytes × Datum) → List (Data × Data) → Prop :=
  List.Forall₂ fun e x => x.1 = .text e.1 ∧ Mirrored s e.2 x.2

variable {s s' : Store} {d : Datum} {x : Data} {ds : List Datum} {xs : List Data}
  {es : List (Bytes × Datum)} {ys : List (Data × Data)}

theorem Mirrored.ofItems {a : Addr} (hd : d.items? = some ds)
    (ha : s.cells[a]? = some (.slots xs)) (h : MirroredAll s ds xs) :
    Mirrored s d (.boxed (.slice .any) (.slice a)) := by
  obtain ⟨hlen, hxs⟩ := List.forall₂_iff_zip.mp h
  exact .sequence hd ha hlen fun e x hex => hxs hex

theorem MirroredEntries.keys (h : MirroredEntries s es ys) :
    ys.map (·.1) = es.map fun e => .text e.1 := by
  induction h with
  | nil => rfl
  | cons hhead _ ih => rw [List.map_cons, List.map_cons, hhead.1, ih]

theorem Mirrored.ofEntries {a : Addr} (hd : d.entries? = some es)
    (ha : s.cells[a]? = some (.entries ys)) (h : MirroredEntries s es ys) :
    Mirrored s d (.boxed (.map .string .any) (.map a)) := by
  obtain ⟨-, hys⟩ := List.forall₂_iff_zip.mp h
  exact .keyed hd ha h.keys fun e y hey => (hys hey).2

/-- More cells do no harm. -/
theorem Mirrored.mono (h : Mirrored s d x) (hs : s.cells <+: s'.cells) : Mirrored s' d x := by
  induction h with
  | null => exact .null
  | bool => exact .bool
  | string => exact .string
  | number hn => exact .number hn
  | sequence hd ha hlen _ ih => exact .sequence hd (Store.cell_kept hs ha) hlen ih
  | keyed hd ha hkeys _ ih => exact .keyed hd (Store.cell_kept hs ha) hkeys ih

/-! ### Numbers -/

mutual
/-- The numbers in a datum, at any depth. There are none in a null. -/
def numbers : Datum → List Number.Big
  | number n => [n]
  | list _ ds | set _ ds | tuple ds => numbersOfAll ds
  | map _ es | object es => numbersOfEntries es
  | unknown _ | null _ | bool _ | string _ => []
/-- The numbers in items. -/
def numbersOfAll : List Datum → List Number.Big
  | [] => []
  | d :: ds => d.numbers ++ numbersOfAll ds
/-- The numbers in entries. -/
def numbersOfEntries : List (Bytes × Datum) → List Number.Big
  | [] => []
  | (_, d) :: es => d.numbers ++ numbersOfEntries es
end

/-- Every one of the numbers is near to a floating-point number. -/
def AllReal (ns : List Number.Big) : Prop := ∀ n ∈ ns, ∃ bits, nearestReal n = .ok bits

/-- One of the numbers is beyond all floating-point numbers. -/
def SomeTooLarge (ns : List Number.Big) : Prop := ∃ n ∈ ns, nearestReal n = .error .tooLarge

theorem SomeTooLarge.not_allReal {ns : List Number.Big} (h : SomeTooLarge ns) : ¬ AllReal ns := by
  obtain ⟨n, hn, hlarge⟩ := h
  intro hall
  obtain ⟨bits, hbits⟩ := hall n hn
  rw [hlarge] at hbits
  cases hbits

theorem AllReal.append {ns ms : List Number.Big} (hns : AllReal ns) (hms : AllReal ms) :
    AllReal (ns ++ ms) :=
  List.forall_mem_append.mpr ⟨hns, hms⟩

theorem SomeTooLarge.append_left {ns : List Number.Big} (h : SomeTooLarge ns)
    (ms : List Number.Big) : SomeTooLarge (ns ++ ms) := by
  obtain ⟨n, hn, hlarge⟩ := h
  exact ⟨n, List.mem_append_left ms hn, hlarge⟩

theorem SomeTooLarge.append_right {ms : List Number.Big} (h : SomeTooLarge ms)
    (ns : List Number.Big) : SomeTooLarge (ns ++ ms) := by
  obtain ⟨n, hn, hlarge⟩ := h
  exact ⟨n, List.mem_append_right ns hn, hlarge⟩

/-! ### Filling an interface -/

/-- The computation yields what mirrors something, if all of its numbers can be held, and meets a
misfit if one of them is too large. -/
abbrev Mirrors {α : Type} (b : Build α) (s : Store) (P : Store → α → Prop)
    (ns : List Number.Big) : Prop :=
  b.Meets s (fun s' x => P s' x ∧ AllReal ns) fun _ => SomeTooLarge ns

/-- A sequence becomes a slice of what its items become. -/
theorem boxItems_mirrors (hd : d.items? = some ds)
    (h : Mirrors (boxAll ds) s (fun s' xs => MirroredAll s' ds xs) (numbersOfAll ds)) :
    Mirrors (box d) s (fun s' x => Mirrored s' d x) d.numbers := by
  -- lists, sets and tuples are all filled in this way
  have hbox : box d = do
      let a ← Build.allocate (.slots (← boxAll ds))
      return .boxed (.slice .any) (.slice a) := by
    cases d <;> cases hd <;> rw [box]
  have hnumbers : d.numbers = numbersOfAll ds := by
    cases d <;> cases hd <;> rw [numbers]
  rw [hbox, hnumbers]
  refine h.bind fun xs s₁ _ hxs => ?_
  have hcell : (Build.allocate (.slots xs)).Meets s₁
      (fun s' a => Mirrored s' d (.boxed (.slice .any) (.slice a)))
      fun _ => SomeTooLarge (numbersOfAll ds) :=
    Build.meets_allocate (.ofItems hd (by simp)
      (hxs.1.imp fun _ _ hx => hx.mono (List.prefix_append _ _)))
  exact hcell.bind fun a s₂ _ ha => Build.meets_pure ⟨ha, hxs.2⟩

/-- A keyed collection becomes a map of what its entries become. -/
theorem boxKeyed_mirrors (hd : d.entries? = some es)
    (h : Mirrors (boxEntries es) s (fun s' ys => MirroredEntries s' es ys)
      (numbersOfEntries es)) :
    Mirrors (box d) s (fun s' x => Mirrored s' d x) d.numbers := by
  have hbox : box d = do
      let a ← Build.allocate (.entries (← boxEntries es))
      return .boxed (.map .string .any) (.map a) := by
    cases d <;> cases hd <;> rw [box]
  have hnumbers : d.numbers = numbersOfEntries es := by
    cases d <;> cases hd <;> rw [numbers]
  rw [hbox, hnumbers]
  refine h.bind fun ys s₁ _ hys => ?_
  have hcell : (Build.allocate (.entries ys)).Meets s₁
      (fun s' a => Mirrored s' d (.boxed (.map .string .any) (.map a)))
      fun _ => SomeTooLarge (numbersOfEntries es) :=
    Build.meets_allocate (.ofEntries hd (by simp)
      (hys.1.imp fun _ _ hy => ⟨hy.1, hy.2.mono (List.prefix_append _ _)⟩))
  exact hcell.bind fun a s₂ _ ha => Build.meets_pure ⟨ha, hys.2⟩

mutual
/-- **An interface mirrors a known datum**, or one of the numbers in it is too large. -/
theorem mirrors_box : ∀ (d : Datum) (s : Store), d.isKnown = true →
    Mirrors (box d) s (fun s' x => Mirrored s' d x) d.numbers
  | null _, s, _ => by
      rw [box, numbers]
      exact Build.meets_pure ⟨.null, by simp [AllReal]⟩
  | unknown _, s, h => by
      rw [isKnown] at h
      cases h
  | bool b, s, _ => by
      rw [box, numbers]
      exact Build.meets_pure ⟨.bool, by simp [AllReal]⟩
  | string t, s, _ => by
      rw [box, numbers]
      exact Build.meets_pure ⟨.string, by simp [AllReal]⟩
  | number n, s, _ => by
      rw [box, numbers]
      rcases nearestReal_cases n with ⟨bits, hn⟩ | hn
      · rw [hn]
        exact Build.meets_pure ⟨.number hn, by simp [AllReal, hn]⟩
      · rw [hn]
        exact Build.meets_throw ⟨n, List.mem_singleton_self n, hn⟩
  | list _ ds, s, h => boxItems_mirrors rfl (mirrors_boxAll ds s (by rwa [isKnown] at h))
  | set _ ds, s, h => boxItems_mirrors rfl (mirrors_boxAll ds s (by rwa [isKnown] at h))
  | tuple ds, s, h => boxItems_mirrors rfl (mirrors_boxAll ds s (by rwa [isKnown] at h))
  | map _ es, s, h => boxKeyed_mirrors rfl (mirrors_boxEntries es s (by rwa [isKnown] at h))
  | object es, s, h => boxKeyed_mirrors rfl (mirrors_boxEntries es s (by rwa [isKnown] at h))
theorem mirrors_boxAll : ∀ (ds : List Datum) (s : Store), allKnown ds = true →
    Mirrors (boxAll ds) s (fun s' xs => MirroredAll s' ds xs) (numbersOfAll ds)
  | [], s, _ => by
      rw [boxAll, numbersOfAll]
      exact Build.meets_pure ⟨.nil, by simp [AllReal]⟩
  | d :: ds, s, h => by
      rw [allKnown, Bool.and_eq_true] at h
      rw [boxAll, numbersOfAll]
      refine ((mirrors_box d s h.1).misfits fun _ hm => hm.append_left _).bind
        fun x s₁ _ hx => ?_
      refine ((mirrors_boxAll ds s₁ h.2).misfits fun _ hm => hm.append_right _).bind
        fun xs s₂ hs hxs => ?_
      -- storing the rest has only added cells, so the first item is still mirrored
      exact Build.meets_pure ⟨.cons (hx.1.mono hs) hxs.1, hx.2.append hxs.2⟩
theorem mirrors_boxEntries : ∀ (es : List (Bytes × Datum)) (s : Store), entriesKnown es = true →
    Mirrors (boxEntries es) s (fun s' ys => MirroredEntries s' es ys) (numbersOfEntries es)
  | [], s, _ => by
      rw [boxEntries, numbersOfEntries]
      exact Build.meets_pure ⟨.nil, by simp [AllReal]⟩
  | (k, d) :: es, s, h => by
      rw [entriesKnown, Bool.and_eq_true] at h
      rw [boxEntries, numbersOfEntries]
      refine ((mirrors_box d s h.1).inside fun _ hm => hm.append_left _).bind
        fun x s₁ _ hx => ?_
      refine ((mirrors_boxEntries es s₁ h.2).misfits fun _ hm => hm.append_right _).bind
        fun ys s₂ hs hys => ?_
      exact Build.meets_pure ⟨.cons ⟨rfl, hx.1.mono hs⟩ hys.1, hx.2.append hys.2⟩
end

/-- **The structure of data is kept.** Filling an interface with a known datum, from any store,
succeeds exactly if every number in the datum, at any depth, is near to a floating-point number.
What was in the store is then still there, and the interface holds the mirrored datum: nil for null
at every depth, texts and truth values as they are, for each number the floating-point number
nearest to it, for each sequence a slice of as many elements in order, and for each keyed collection
a map with just its keys, every element and entry being the mirror of its own. -/
theorem box_mirrors (d : Datum) (s : Store) (h : d.isKnown = true) :
    ((∃ x s', d.box s = .ok (x, s')) ↔ ∀ n ∈ d.numbers, ∃ bits, nearestReal n = .ok bits) ∧
    ∀ x s', d.box s = .ok (x, s') → s.cells <+: s'.cells ∧ Mirrored s' d x := by
  have hbox := mirrors_box d s h
  refine ⟨⟨?_, fun hall => ?_⟩, fun x s' hx => ?_⟩
  · rintro ⟨x, s', hx⟩
    exact (hbox.ok hx).2.2
  · cases hd : d.box s with
    | error m => exact absurd hall (hbox.error hd).not_allReal
    | ok p => exact ⟨p.1, p.2, rfl⟩
  · obtain ⟨hs, hmirrored, -⟩ := hbox.ok hx
    exact ⟨hs, hmirrored⟩

/-- Nulls, numbers and a text that is not well formed, at different depths. -/
def nested (n : Number.Big) : Datum :=
  .tuple [.null (.list .any),
    .object [(.ofString "a", .list .number [.number (.finite 512 true 3 (-1)), .null .number]),
      (.ofString "b", .map .any [(.ofString "k", .set .any [.number n, .string [255]])])]]

/-- The cells of `nested 1`, the innermost first. -/
def nestedMirror : Store := ⟨[
  .slots [.boxed (.basic .float64) (.float64 0xBFF8000000000000), .nil],
  .slots [.boxed (.basic .float64) (.float64 0x3FF0000000000000), .boxed .string (.text [255])],
  .entries [(.text (.ofString "k"), .boxed (.slice .any) (.slice 1))],
  .entries [(.text (.ofString "a"), .boxed (.slice .any) (.slice 0)),
    (.text (.ofString "b"), .boxed (.map .string .any) (.map 2))],
  .slots [.nil, .boxed (.map .string .any) (.map 3)]]⟩

/-- With a one inside, it is mirrored; with a power of two beyond all floating-point numbers in the
same place, it is not. -/
theorem box_mirrors_nested :
    (nested (.finite 512 false 1 0)).isKnown = true ∧
    (nested (.finite 512 false 1 0)).box .empty =
      .ok (.boxed (.slice .any) (.slice 4), nestedMirror) ∧
    Mirrored nestedMirror (nested (.finite 512 false 1 0)) (.boxed (.slice .any) (.slice 4)) ∧
    ¬ ∃ x s', (nested (.finite 512 false 1 1024)).box .empty = .ok (x, s') := by
  have hbox : (nested (.finite 512 false 1 0)).box .empty =
      .ok (.boxed (.slice .any) (.slice 4), nestedMirror) := rfl
  obtain ⟨-, hmirrored⟩ := box_mirrors (nested (.finite 512 false 1 0)) .empty rfl
  refine ⟨rfl, hbox, (hmirrored _ _ hbox).2, fun hok => ?_⟩
  obtain ⟨hiff, -⟩ := box_mirrors (nested (.finite 512 false 1 1024)) .empty rfl
  obtain ⟨bits, hbits⟩ := hiff.mp hok (.finite 512 false 1 1024) (by decide)
  cases hbits

end Datum

end Tacit
