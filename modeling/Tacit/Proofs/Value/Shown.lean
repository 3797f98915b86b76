import Mathlib.Logic.Relation
import Tacit.Value.Show

/-!
# Values that have a text

There is no end to the text of a list or a map that contains itself. Everything else has a text.

* `Ends loops r`: the computation `r` has a result, or does not end, which happens only if `loops`.
* `Data.held`, `Store.Holds`: the cells of lists and maps in data, and in such a cell.
* `Store.Loops s d`: a list or a map in the data contains itself.
* `showData_ends`: data are shown if what is in their cells is.
* `text_ends`, `showAs_ends`: what does not contain itself has a text.
* `showAs_self`: a list of interfaces that is one of its own elements has none.
-/

namespace Tacit

/-! ### Computations that end -/

/-- The computation has a result, or does not end, which happens only if `loops`. -/
def Ends {α : Type} (loops : Prop) (r : Except Panic α) : Prop :=
  (∃ x, r = .ok x) ∨ r = .error .endless ∧ loops

section

variable {α β : Type} {loops : Prop} {r : Except Panic α}

theorem ends_ok (x : α) : Ends loops (.ok x) := .inl ⟨x, rfl⟩

theorem Ends.bind {f : α → Except Panic β} (hr : Ends loops r) (hf : ∀ x, Ends loops (f x)) :
    Ends loops (r >>= f) := by
  rcases hr with ⟨x, rfl⟩ | ⟨rfl, h⟩
  · exact hf x
  · exact .inr ⟨rfl, h⟩

theorem Ends.map {f : α → β} (hr : Ends loops r) : Ends loops (r.map f) := by
  rcases hr with ⟨x, rfl⟩ | ⟨rfl, h⟩
  · exact ends_ok (f x)
  · exact .inr ⟨rfl, h⟩

theorem Ends.mono {loops' : Prop} (hr : Ends loops r) (h : loops → loops') : Ends loops' r :=
  hr.imp_right fun ⟨herror, hloops⟩ => ⟨herror, h hloops⟩

theorem Ends.of_error {p : Panic} (h : Ends loops r) (hr : r = .error p) :
    p = .endless ∧ loops := by
  rcases h with ⟨x, hx⟩ | ⟨hx, hloops⟩
  · rw [hx] at hr
    cases hr
  · rw [hx] at hr
    cases hr
    exact ⟨rfl, hloops⟩

theorem map_error {p : Panic} {f : α → β} (h : r.map f = .error p) : r = .error p := by
  cases r with
  | error q =>
      cases h
      rfl
  | ok x => cases h

theorem ends_mapM {f : α → Except Panic β} : ∀ {xs : List α}, (∀ x ∈ xs, Ends loops (f x)) →
    Ends loops (xs.mapM f)
  | [], _ => by
      rw [List.mapM_nil]
      exact ends_ok []
  | x :: xs, h => by
      obtain ⟨hx, hxs⟩ := List.forall_mem_cons.mp h
      rw [List.mapM_cons]
      exact hx.bind fun y => (ends_mapM hxs).bind fun ys => ends_ok (y :: ys)

/-- One of several that fails is enough, if no other fails with anything else. -/
theorem mapM_fails {f : α → Except Panic β} {p : Panic} {x : α} (hx : f x = .error p) :
    ∀ {xs : List α}, (∀ y ∈ xs, ∀ q, f y = .error q → q = p) → x ∈ xs → xs.mapM f = .error p
  | y :: ys, h, hmem => by
      obtain ⟨hy, hys⟩ := List.forall_mem_cons.mp h
      rw [List.mapM_cons]
      cases hfy : f y with
      | error q =>
          rw [hy q hfy]
          rfl
      | ok z =>
          rcases List.mem_cons.mp hmem with rfl | hmem
          · rw [hx] at hfy
            cases hfy
          · rw [mapM_fails hx hys hmem]
            rfl

end

/-! ### What contains what -/

mutual
/-- The cells of the lists and maps in data. -/
def Data.held : Data → List Addr
  | .slice c | .map c => [c]
  | .tuple ds => Data.heldAll ds
  | .boxed _ d => d.held
  | _ => []
/-- The cells of the lists and maps in several data. -/
def Data.heldAll : List Data → List Addr
  | [] => []
  | d :: ds => d.held ++ Data.heldAll ds
end

namespace Store

/-- The elements of a list, or the keys and elements of a map. -/
def contents (s : Store) (c : Addr) : List Data :=
  s.slots c ++ (s.entries c).flatMap fun e => [e.1, e.2]

/-- The list or map in the first cell contains that in the second. -/
def Holds (s : Store) (a b : Addr) : Prop := ∃ d ∈ s.contents a, b ∈ d.held

/-- The data contain the list or map in the cell. -/
def Reaches (s : Store) (d : Data) (c : Addr) : Prop :=
  ∃ a ∈ d.held, Relation.ReflTransGen s.Holds a c

/-- A list or a map in the data contains itself. -/
def Loops (s : Store) (d : Data) : Prop :=
  ∃ c, s.Reaches d c ∧ Relation.TransGen s.Holds c c

variable {s : Store} {a c : Addr} {d x : Data}

theorem mem_contents_of_slot (h : x ∈ s.slots c) : x ∈ s.contents c := List.mem_append_left _ h

theorem mem_contents_of_entry {e : Data × Data} (h : e ∈ s.entries c) :
    e.1 ∈ s.contents c ∧ e.2 ∈ s.contents c := by
  constructor
  · exact List.mem_append_right _ (List.mem_flatMap.mpr ⟨e, h, by simp⟩)
  · exact List.mem_append_right _ (List.mem_flatMap.mpr ⟨e, h, by simp⟩)

/-- A cell with contents is there. -/
theorem lt_of_mem_contents (h : x ∈ s.contents c) : c < s.cells.length := by
  cases hcell : s.cells[c]? with
  | none => simp [contents, slots, entries, hcell] at h
  | some cell => exact (List.getElem?_eq_some_iff.mp hcell).1

/-- What an element contains, the list contains. -/
theorem Reaches.of_element (hc : c ∈ d.held) (hx : x ∈ s.contents c) (h : s.Reaches x a) :
    Relation.TransGen s.Holds c a ∧ s.Reaches d a := by
  obtain ⟨b, hb, hba⟩ := h
  have hcb : s.Holds c b := ⟨x, hx, hb⟩
  have hca := Relation.TransGen.head' hcb hba
  exact ⟨hca, c, hc, hca.to_reflTransGen⟩

/-- Where nothing is stored, nothing contains itself. -/
theorem not_loops_empty (d : Data) : ¬ empty.Loops d := by
  rintro ⟨c, -, hloop⟩
  obtain ⟨b, ⟨x, hx, -⟩, -⟩ := Relation.TransGen.head'_iff.mp hloop
  cases lt_of_mem_contents hx

end Store

/-! ### Data -/

/-- What is in the cells can be shown. -/
def ShowsAll (s : Store) (inside : Addr → Access → Ty → Data → Except Panic Bytes) (loops : Prop)
    (cells : List Addr) : Prop :=
  ∀ c ∈ cells, ∀ x ∈ s.contents c, ∀ a t, Ends loops (inside c a t x)

section

variable {s : Store} {inside : Addr → Access → Ty → Data → Except Panic Bytes} {loops : Prop}

theorem showSlots_ends {c : Addr} (h : ShowsAll s inside loops [c]) (a : Access) (t : Ty) :
    Ends loops ((s.slots c).mapM (inside c a t)) :=
  ends_mapM fun x hx => h c List.mem_cons_self x (Store.mem_contents_of_slot hx) a t

theorem showEntries_ends {c : Addr} (h : ShowsAll s inside loops [c]) (a : Access) (k t : Ty) :
    Ends loops ((Data.sortEntries (s.entries c)).mapM fun (key, d) =>
      return (← inside c a k key) ++ (58 :: (← inside c a t d))) := by
  refine ends_mapM fun e he => ?_
  have he' : e ∈ s.entries c := List.mem_mergeSort.mp he
  obtain ⟨hkey, hdata⟩ := Store.mem_contents_of_entry he'
  refine (h c List.mem_cons_self _ hkey a k).bind fun x => ?_
  exact (h c List.mem_cons_self _ hdata a t).bind fun y => ends_ok _

end

variable [Declarations]

/-- A method tells a text, whatever becomes of it. -/
theorem told_ends {loops : Prop} (t : Ty) (m : Method) (d : Data) (s : Store) :
    Ends loops (t.told m d s) := by
  unfold Ty.told
  split
  · exact ends_ok _
  · split <;> exact ends_ok _

variable {s : Store} {named : Bool} {inside : Addr → Access → Ty → Data → Except Panic Bytes}
  {loops : Prop}

mutual
/-- **Data are shown** if what is in their cells is. -/
theorem showData_ends : ∀ (d : Data) (a : Access) (t : Ty), ShowsAll s inside loops d.held →
    Ends loops (showData s named inside d a t)
  | .tuple ds, a, t, h => by
      unfold showData
      split
      · exact told_ends _ _ _ _
      cases t.underlying with
      | struct fs => exact (showFields_ends ds a fs h).bind fun xs => ends_ok _
      | array n e => exact (showItems_ends ds a.item e h).bind fun xs => ends_ok _
      | _ => exact ends_ok _
  | .slice c, a, t, h => by
      unfold showData
      split
      · exact told_ends _ _ _ _
      cases t.underlying with
      | slice e => exact (showSlots_ends h a.item e).bind fun xs => ends_ok _
      | _ => exact ends_ok _
  | .map c, a, t, h => by
      unfold showData
      split
      · exact told_ends _ _ _ _
      cases t.underlying with
      | map k e => exact (showEntries_ends h a.item k e).bind fun xs => ends_ok _
      | _ => exact ends_ok _
  | .boxed u d, a, t, h => by
      unfold showData
      split
      · exact told_ends _ _ _ _
      cases t.underlying with
      | interface i => exact showData_ends d a.item u h
      | _ => exact ends_ok _
  | .nil, a, t, _ | .bool _, a, t, _ | .int _, a, t, _ | .float32 _, a, t, _
  | .float64 _, a, t, _ | .complex64 _ _, a, t, _ | .complex128 _ _, a, t, _ | .text _, a, t, _
  | .pointer _ _, a, t, _ | .channel _, a, t, _ | .func _ _, a, t, _ => by
      unfold showData
      split
      · exact told_ends _ _ _ _
      · cases t.underlying <;> exact ends_ok _
theorem showItems_ends : ∀ (ds : List Data) (a : Access) (t : Ty),
    ShowsAll s inside loops (Data.heldAll ds) → Ends loops (showItems s named inside ds a t)
  | [], a, t, _ => by
      rw [showItems]
      exact ends_ok []
  | d :: ds, a, t, h => by
      rw [Data.heldAll] at h
      obtain ⟨hd, hds⟩ := List.forall_mem_append.mp h
      rw [showItems]
      exact (showData_ends d a t hd).bind fun x => (showItems_ends ds a t hds).bind fun xs =>
        ends_ok _
theorem showFields_ends : ∀ (ds : List Data) (a : Access) (fs : List (Field Ty)),
    ShowsAll s inside loops (Data.heldAll ds) → Ends loops (showFields s named inside ds a fs)
  | d :: ds, a, f :: fs, h => by
      rw [Data.heldAll] at h
      obtain ⟨hd, hds⟩ := List.forall_mem_append.mp h
      rw [showFields]
      exact (showData_ends d (a.field f) f.type hd).bind fun x =>
        (showFields_ends ds a fs hds).bind fun xs => ends_ok _
  | [], a, fs, _ => by
      rw [showFields]
      · exact ends_ok []
      · simp
  | d :: ds, a, [], _ => by
      rw [showFields]
      · exact ends_ok []
      · simp
end

/-! ### Cells -/

/-- A text that is not found does not end. -/
theorem showWithin_ends : ∀ (n : Nat) (left : List Addr) (a : Access) (t : Ty) (d : Data),
    Ends True (showWithin s named n left a t d)
  | 0, left, a, t, d => by
      rw [showWithin]
      exact showData_ends d a t fun _ _ _ _ _ _ => .inr ⟨rfl, trivial⟩
  | n + 1, left, a, t, d => by
      rw [showWithin]
      refine showData_ends d a t fun c _ x _ a t => ?_
      split
      · exact showWithin_ends n (left.erase c) a t x
      · exact .inr ⟨rfl, trivial⟩

/-- What does not contain itself is found in the cells that have not been looked into. -/
theorem showWithin_ok : ∀ (n : Nat) (left : List Addr) (a : Access) (t : Ty) {d : Data},
    left.length = n → ¬ s.Loops d →
    (∀ c, s.Reaches d c → c < s.cells.length → c ∈ left) →
    Ends False (showWithin s named n left a t d)
  | 0, left, a, t, d, hlen, _, hleft => by
      rw [showWithin]
      refine showData_ends d a t fun c hc x hx _ _ => ?_
      have hmem := hleft c ⟨c, hc, .refl⟩ (Store.lt_of_mem_contents hx)
      rw [List.eq_nil_of_length_eq_zero hlen] at hmem
      cases hmem
  | n + 1, left, a, t, d, hlen, hloops, hleft => by
      rw [showWithin]
      refine showData_ends d a t fun c hc x hx a t => ?_
      have hreach : s.Reaches d c := ⟨c, hc, .refl⟩
      have hmem := hleft c hreach (Store.lt_of_mem_contents hx)
      simp only [if_pos hmem]
      refine showWithin_ok n (left.erase c) a t ?_ ?_ ?_
      · rw [List.length_erase_of_mem hmem, hlen]
        rfl
      · rintro ⟨b, hb, hloop⟩
        exact hloops ⟨b, (hb.of_element hc hx).2, hloop⟩
      · intro b hb hlt
        obtain ⟨hcb, hdb⟩ := hb.of_element hc hx
        -- the cell is not among those inside it
        have hne : b ≠ c := by
          rintro rfl
          exact hloops ⟨b, hreach, hcb⟩
        exact (List.mem_erase_of_ne hne).mpr (hleft b hdb hlt)

/-- **Data that do not contain themselves** have a text. -/
theorem text_ends (s : Store) (named : Bool) (t : Ty) (d : Data) :
    Ends (s.Loops d) (s.text named t d) := by
  unfold Store.text
  by_cases hloops : s.Loops d
  · exact (showWithin_ends _ _ _ _ _).mono fun _ => hloops
  · refine (showWithin_ok _ _ _ _ List.length_range hloops ?_).mono False.elim
    exact fun c _ hlt => List.mem_range.mpr hlt

/-! ### Values -/

/-- A list or a map that would be shown as a part of the value contains itself. -/
def Value.ContainsItself (v : Value) (s : Store) : Prop := s.Loops ((v.pointee? s).getD v).data

/-- **A value that does not contain itself** has a text. -/
theorem Value.showAs_ends (v : Value) (named : Bool) (s : Store) :
    Ends (v.ContainsItself s) (v.showAs named s) := by
  unfold showAs ContainsItself
  cases v.pointee? s with
  | none => exact text_ends s named v.type v.data
  | some u => exact (text_ends s named u.type u.data).bind fun x => ends_ok _

/-! ### A list in itself -/

theorem showData_boxed (inside : Addr → Access → Ty → Data → Except Panic Bytes) (a : Access)
    (t : Ty) (d : Data) :
    showData s named inside (.boxed t d) a .any = showData s named inside d a.item t := by
  rw [showData.eq_def]
  cases a <;> rfl

theorem showWithin_boxed (n : Nat) (left : List Addr) (a : Access) (t : Ty) (d : Data) :
    showWithin s named n left a .any (.boxed t d) = showWithin s named n left a.item t d := by
  cases n with
  | zero => rw [showWithin, showWithin, showData_boxed]
  | succ n => rw [showWithin, showWithin, showData_boxed]

theorem showWithin_self {c : Addr} (h : .boxed (.slice .any) (.slice c) ∈ s.slots c) (n : Nat) :
    ∀ (left : List Addr) (a : Access),
      showWithin s named n left a (.slice .any) (.slice c) = .error .endless := by
  -- the text of a list is made of those of its slots, one of which is that of the list again
  have hlist : ∀ (inside : Addr → Access → Ty → Data → Except Panic Bytes) (a : Access),
      (∀ a t d, Ends True (inside c a t d)) →
      inside c a.item .any (.boxed (.slice .any) (.slice c)) = .error .endless →
      showData s named inside (.slice c) a (.slice .any) = .error .endless := by
    intro inside a hends hself
    have hslots := mapM_fails hself (fun y _ q hq => ((hends a.item .any y).of_error hq).1) h
    have hdata : showData s named inside (.slice c) a (.slice .any) =
        (s.slots c).mapM (inside c a.item .any) >>= fun xs =>
          .ok (enclosed "[" "]" (spaced xs)) := by
      rw [showData.eq_def]
      cases a <;> rfl
    rw [hdata, hslots]
    rfl
  induction n with
  | zero =>
      intro left a
      exact hlist _ a (fun _ _ _ => .inr ⟨rfl, trivial⟩) rfl
  | succ n ih =>
      intro left a
      rw [showWithin]
      refine hlist _ a (fun a t d => ?_) ?_
      · split
        · exact showWithin_ends n (left.erase c) a t d
        · exact .inr ⟨rfl, trivial⟩
      · split
        · rw [showWithin_boxed]
          exact ih (left.erase c) a.item.item
        · rfl

theorem pointee?_slice (s : Store) (t : Ty) (d : Data) : Value.pointee? ⟨.slice t, d⟩ s = none := by
  simp [Value.pointee?, Ty.underlying]

/-- **A list of interfaces that is one of its own elements** contains itself, and has no text. -/
theorem showAs_self {c : Addr} (h : .boxed (.slice .any) (.slice c) ∈ s.slots c) :
    Value.ContainsItself ⟨.slice .any, .slice c⟩ s ∧
      ∀ named, Value.showAs ⟨.slice .any, .slice c⟩ named s = .error .endless := by
  constructor
  · have hholds : s.Holds c c := ⟨_, Store.mem_contents_of_slot h, List.mem_cons_self⟩
    rw [Value.ContainsItself, pointee?_slice]
    exact ⟨c, ⟨c, List.mem_cons_self, .refl⟩, .single hholds⟩
  · intro named
    rw [Value.showAs, pointee?_slice]
    exact showWithin_self h _ _ _

end Tacit
