import Tacit.Log.Line
import Tacit.Proofs.Value.Shown

/-!
# Records that are written

A logger writes a record in its format, or passes it on. Two attributes break it off: a value that
contains itself, which has no text, and a text that could not be made. All others are written,
whatever the value is and however it marshals.

* `Attr.Breaks`, `Record.Breaks`: what breaks a logger off, and with which panic.
* `written_error`, `write_error`: a logger breaks off for no other reason, whatever its format, and
  does so if it cannot write or make an attribute (`write_fails`).
* `Record.Breaks.of_log`: what a logger knows of every record never breaks it off.
-/

namespace Tacit

section

variable {α β : Type} {p : Panic}

/-- Of two steps the first fails, or the second. -/
theorem bind_error {r : Except Panic α} {f : α → Except Panic β} (h : r >>= f = .error p) :
    r = .error p ∨ ∃ x, r = .ok x ∧ f x = .error p := by
  cases r with
  | error q =>
      cases h
      exact .inl rfl
  | ok x => exact .inr ⟨x, rfl, h⟩

/-- Several steps fail with what one of them fails with. -/
theorem mapM_error {f : α → Except Panic β} : ∀ {xs : List α}, xs.mapM f = .error p →
    ∃ x ∈ xs, f x = .error p
  | x :: xs, h => by
      rw [List.mapM_cons] at h
      rcases bind_error h with hx | ⟨y, -, h⟩
      · exact ⟨x, List.mem_cons_self, hx⟩
      rcases bind_error h with hxs | ⟨ys, -, h⟩
      · obtain ⟨x', hmem, hx'⟩ := mapM_error hxs
        exact ⟨x', List.mem_cons_of_mem _ hmem, hx'⟩
      · cases h

theorem forM_error {f : α → Except Panic Unit} : ∀ {xs : List α}, xs.forM f = .error p →
    ∃ x ∈ xs, f x = .error p
  | x :: xs, h => by
      rcases bind_error h with hx | ⟨_, -, hxs⟩
      · exact ⟨x, List.mem_cons_self, hx⟩
      · obtain ⟨x', hmem, hx'⟩ := forM_error hxs
        exact ⟨x', List.mem_cons_of_mem _ hmem, hx'⟩

theorem forM_fails {f : α → Except Panic Unit} {x : α} (hx : f x = .error p) :
    ∀ {xs : List α}, (∀ y ∈ xs, ∀ q, f y = .error q → q = p) → x ∈ xs → xs.forM f = .error p
  | y :: ys, h, hmem => by
      obtain ⟨hy, hys⟩ := List.forall_mem_cons.mp h
      show (f y >>= fun _ => ys.forM f) = .error p
      cases hfy : f y with
      | error q =>
          rw [hy q hfy]
          rfl
      | ok z =>
          rcases List.mem_cons.mp hmem with rfl | hmem
          · rw [hx] at hfy
            cases hfy
          · exact forM_fails hx hys hmem

end

namespace Log

variable [Declarations]

/-! ### Attributes -/

/-- A number contains nothing, whatever its width. -/
theorem containsItself_widened {v : Value} {s : Store} (h : (widened v).ContainsItself s) :
    v.ContainsItself s := by
  unfold widened at h
  split at h
  next htype =>
    have hpointee : v.pointee? s = none := by simp [Value.pointee?, htype, Ty.underlying]
    have hheld : (Basic.ofNumber .float64 v.data).held = v.data.held := by
      cases v.data <;> rfl
    have hdata : s.Loops (Basic.ofNumber .float64 v.data) := by
      simpa [Value.ContainsItself, Value.pointee?, Ty.underlying] using h
    rw [Value.ContainsItself, hpointee]
    unfold Store.Loops Store.Reaches at hdata ⊢
    rwa [hheld] at hdata
  next => exact h

/-- The attribute breaks a logger off with `p`. -/
def Attr.Breaks (s : Store) (p : Panic) : Attr → Prop
  | .value (some v) => p = .endless ∧ v.ContainsItself s
  | .made t => t = .error p
  | _ => False

variable {s : Store} {p : Panic}

theorem written_error {f : Format} {a : Attr} (h : a.written f s = .error p) : a.Breaks s p := by
  cases a with
  | text t => cases h
  | number n => cases h
  | made t => exact map_error h
  | value v? =>
      cases v? with
      | none => cases h
      | some v =>
          cases f with
          | json => cases h
          | pairs =>
              replace h : valuePair s (widened v) = .error p := h
              unfold valuePair at h
              split at h
              · cases h
              · cases h
              · cases h
              · obtain ⟨hp, hself⟩ := ((widened v).showAs_ends true s).of_error (map_error h)
                exact ⟨hp, containsItself_widened hself⟩

theorem make_error {a : Attr} (h : a.make = .error p) : a.Breaks s p := by
  cases a with
  | made t => exact map_error h
  | _ => cases h

/-! ### Records -/

/-- The record breaks a logger off with `p`, for one of its attributes. -/
def Record.Breaks (s : Store) (p : Panic) (r : Record) : Prop :=
  ∃ field ∈ r.attrs, field.2.Breaks s p

/-- The level and the message are texts. -/
theorem fields_break {r : Record} {field : String × Attr} (hmem : field ∈ r.fields)
    (h : field.2.Breaks s p) : r.Breaks s p := by
  rcases List.mem_cons.mp hmem with rfl | hmem
  · cases h
  rcases List.mem_cons.mp hmem with rfl | hmem
  · cases h
  · exact ⟨field, hmem, h⟩

theorem line_error {f : Format} {r : Record} (h : r.line f s = .error p) : r.Breaks s p := by
  rcases bind_error h with hfields | ⟨_, -, h⟩
  · obtain ⟨field, hmem, hfield⟩ := mapM_error hfields
    exact fields_break hmem (written_error (map_error hfield))
  · cases h

theorem handle_error {lg : Logger} {r : Record} (h : lg.handle s r = .error p) :
    r.Breaks s p := by
  unfold Logger.handle at h
  cases hformat : lg.format with
  | some f =>
      rw [hformat] at h
      exact line_error h
  | none =>
      rw [hformat] at h
      rcases bind_error h with hmake | ⟨_, -, h⟩
      · obtain ⟨field, hmem, hfield⟩ := forM_error hmake
        exact ⟨field, hmem, make_error hfield⟩
      · cases h

/-- **What a logger breaks off with** is due to one of the records. -/
theorem write_error {lg : Logger} {rs : List Record} (h : lg.write s rs = .error p) :
    ∃ r ∈ rs, r.Breaks s p := by
  obtain ⟨r, hr, hhandle⟩ := mapM_error (map_error h)
  exact ⟨r, hr, handle_error hhandle⟩

/-- **A logger does break off** at an attribute that it cannot write or make, if there is nothing
among the records that would break it off with anything else. -/
theorem write_fails {lg : Logger} {rs : List Record} {r : Record} {field : String × Attr}
    (honly : ∀ r ∈ rs, ∀ q, r.Breaks s q → q = p) (hr : r ∈ rs) (hfield : field ∈ r.attrs)
    (hwritten : ∀ f, lg.format = some f → field.2.written f s = .error p)
    (hmake : lg.format = none → field.2.make = .error p) : lg.write s rs = .error p := by
  have hhandle : lg.handle s r = .error p := by
    unfold Logger.handle
    cases hformat : lg.format with
    | some f =>
        have hname : writtenField f s field = .error p := by
          rw [writtenField, hwritten f hformat]
          rfl
        have hfields : r.fields.mapM (writtenField f s) = .error p := by
          refine mapM_fails hname (fun other hmem q hq => ?_)
            (List.mem_cons_of_mem _ (List.mem_cons_of_mem _ hfield))
          exact honly r hr q (fields_break hmem (written_error (map_error hq)))
        show r.line f s = .error p
        rw [Record.line, hfields]
        rfl
    | none =>
        have hall : (r.attrs.forM fun field => field.2.make) = .error p := by
          refine forM_fails (f := fun field => field.2.make) (hmake hformat) ?_ hfield
          exact fun other hmem q hq => honly r hr q ⟨other, hmem, make_error hq⟩
        show ((r.attrs.forM fun field => field.2.make) >>= fun _ => pure []) = .error p
        rw [hall]
        rfl
  rw [Logger.write, mapM_fails hhandle (fun r hr q hq => honly r hr q (handle_error hq)) hr]
  rfl

/-- A record that a logger keeps breaks it off only for what the record is made with. -/
theorem Record.Breaks.of_log {lg : Logger} {level : Level} {message : String}
    {attrs : List (String × Attr)} {r : Record} (h : r.Breaks s p)
    (hr : r ∈ lg.log level message attrs) :
    lg.enabled level = true ∧ ∃ field ∈ attrs, field.2.Breaks s p := by
  obtain ⟨field, hmem, hbreaks⟩ := h
  unfold Logger.log at hr
  split at hr
  next henabled =>
    obtain rfl := List.mem_singleton.mp hr
    rcases List.mem_append.mp hmem with hknown | hmem
    · obtain ⟨⟨k, x⟩, -, rfl⟩ := List.mem_map.mp hknown
      cases hbreaks
    · exact ⟨henabled, field, hmem, hbreaks⟩
  next => cases hr

end Log

end Tacit
