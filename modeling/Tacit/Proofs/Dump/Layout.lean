import Mathlib.Tactic.Common
import Tacit.Dump.Layout

/-!
# Layout changes nothing but blanks

* `Spells ts s`: the text `s` is the tokens `ts`, one after the other, with any number of blanks in
  front of each.
* `tokens_layout`: the layout of a token sequence has the same tokens in the same order.
* `spells_layout`: so its text spells the tokens.
-/

namespace Tacit.Dump

/-- The text is the tokens in order, each with some blanks in front of it. -/
inductive Spells : List Token → String → Prop where
  | nil : Spells [] ""
  | cons (blanks : Nat) (t : Token) {ts : List Token} {s : String} : Spells ts s →
      Spells (t :: ts) (String.ofList (List.replicate blanks ' ') ++ t.text ++ s)

theorem spells_render (ps : List Placed) : Spells (ps.map (·.token)) (render ps) := by
  induction ps with
  | nil => exact .nil
  | cons p ps ih =>
      rw [render, List.map_cons, List.map_cons, String.join_cons]
      exact .cons p.blanks p.token ih

/-! ### Lines -/

theorem tokens_placeAfter (before : Token) (ts : List Token) :
    (placeAfter before ts).map (·.token) = ts := by
  induction ts generalizing before with
  | nil => rfl
  | cons t ts ih => rw [placeAfter, List.map_cons, ih]

@[simp] theorem tokens_place (blanks : Nat) (ts : List Token) :
    (place blanks ts).map (·.token) = ts := by
  cases ts with
  | nil => rfl
  | cons t ts => rw [place, List.map_cons, tokens_placeAfter]

@[simp] theorem flatten_lines (ts : List Token) : (lines ts).flatten = ts := by
  induction ts with
  | nil => rfl
  | cons t ts ih =>
      rw [lines]
      split
      · rw [List.flatten_cons, ih]
        rfl
      · -- the token joins the first line of what follows, if there is one
        cases hl : lines ts with
        | nil =>
            rw [hl] at ih
            subst ih
            rfl
        | cons l ls =>
            rw [hl] at ih
            subst ih
            rfl

theorem splitAssign_append (l : List Token) :
    (splitAssign l).lead ++ (splitAssign l).assign = l := by
  cases l with
  | nil => rfl
  | cons t rest =>
      simp only [splitAssign]
      split
      · simp [List.takeWhile_append_dropWhile]
      · simp

theorem length_indents (levels : List Nat) (ls : List (List Token)) :
    (indents levels ls).length = ls.length := by
  induction ls generalizing levels with
  | nil => rfl
  | cons l ls ih =>
      simp only [indents]
      split <;> simp [ih]

/-! ### Alignment -/

/-- All the tokens of a line. -/
def LaidLine.tokens (l : LaidLine) : List Token := l.lead.map (·.token) ++ l.assign

theorem tokens_align (column : Option Nat) (ls : List LaidLine) :
    (align column ls).flatten.map (·.token) = ls.flatMap LaidLine.tokens := by
  induction ls generalizing column with
  | nil => rfl
  | cons l ls ih =>
      simp only [align]
      split
      · rename_i h
        rw [List.flatten_cons, List.map_append, ih, List.flatMap_cons, LaidLine.tokens,
          List.isEmpty_iff.mp h, List.append_nil]
      · simp [ih, LaidLine.tokens]

theorem tokens_zip {lay : List Token × Nat → LaidLine} (hlay : ∀ p, (lay p).tokens = p.1)
    {ls : List (List Token)} {ns : List Nat} (h : ns.length = ls.length) :
    ((ls.zip ns).map lay).flatMap LaidLine.tokens = ls.flatten := by
  induction ls generalizing ns with
  | nil => rfl
  | cons l ls ih =>
      cases ns with
      | nil => cases h
      | cons n ns =>
          rw [List.zip_cons_cons, List.map_cons, List.flatMap_cons, hlay, ih (Nat.succ.inj h),
            List.flatten_cons]

/-- **Layout keeps the tokens** and their order. -/
theorem tokens_layout (ts : List Token) : (layout ts).map (·.token) = ts := by
  rw [layout, tokens_align, tokens_zip _ (length_indents [] (lines ts)), flatten_lines]
  intro p
  simp [LaidLine.tokens, splitAssign_append]

/-- The text of a layout spells its tokens. -/
theorem spells_layout (ts : List Token) : Spells ts (render (layout ts)) := by
  have h := spells_render (layout ts)
  rwa [tokens_layout] at h

end Tacit.Dump
