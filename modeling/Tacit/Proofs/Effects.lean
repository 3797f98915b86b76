import Mathlib.Tactic.Common
import Tacit.Program.Error
import Tacit.Value.Run

/-!
# Laws of runs and of checks

* `Run` is a lawful monad.
* `Run.Yields x s a s'`: the run `x` from the store `s` has the result `a` and leaves `s'`.
  `Run.Panics x s p`: it is broken off by `p`. Both are taken apart at a `>>=` (`Run.yields_bind`,
  `Run.panics_bind`), as is the whole effect of a run (`Run.bind_eq_iff`).
* `Check.bind_eq_ok`, `Check.inside_eq_ok`: a check that passes, taken apart the same way.
-/

namespace Tacit

/-! ### Runs -/

namespace Run

variable {α β γ : Type}

theorem bind_apply (x : Run α) (f : α → Run β) (s : Store) :
    (x >>= f) s = match (x s).outcome with
      | .ok a => ⟨(x s).events ++ (f a (x s).store).events, (f a (x s).store).store,
          (f a (x s).store).outcome⟩
      | .error p => ⟨(x s).events, (x s).store, .error p⟩ := rfl

theorem pure_apply (a : α) (s : Store) : (pure a : Run α) s = ⟨[], s, .ok a⟩ := rfl

theorem panic_apply (p : Panic) (s : Store) : (panic p : Run α) s = ⟨[], s, .error p⟩ := rfl

theorem done_andThen (a : α) (f : α → Run β) : (pure a >>= f) = f a := by
  funext s
  rw [bind_apply, pure_apply]
  simp

theorem andThen_done (x : Run α) : (x >>= pure) = x := by
  funext s
  rw [bind_apply]
  rcases x s with ⟨es, s', _ | a⟩ <;> simp [pure_apply]

theorem andThen_assoc (x : Run α) (f : α → Run β) (g : β → Run γ) :
    ((x >>= f) >>= g) = (x >>= fun a => f a >>= g) := by
  funext s
  simp only [bind_apply]
  rcases x s with ⟨es, s', _ | a⟩
  · rfl
  · rcases h : f a s' with ⟨es', s'', _ | b⟩ <;> simp [h]

instance : LawfulMonad Run := LawfulMonad.mk' Run andThen_done done_andThen andThen_assoc

@[simp] theorem ofExcept_ok (a : α) : ofExcept (.ok a) = pure a := rfl

/-- From `s` the run has the result `a` and leaves the store `s'`. -/
def Yields (x : Run α) (s : Store) (a : α) (s' : Store) : Prop :=
  (x s).outcome = .ok a ∧ (x s).store = s'

/-- From `s` the run is broken off by `p`. -/
def Panics (x : Run α) (s : Store) (p : Panic) : Prop := (x s).outcome = .error p

variable {x : Run α} {f : α → Run β} {s s' : Store} {a a' : α} {b : β} {p : Panic}

@[simp] theorem yields_pure : (pure a : Run α).Yields s a' s' ↔ a = a' ∧ s = s' := by
  simp [Yields, pure_apply]

@[simp] theorem panics_pure : (pure a : Run α).Panics s p ↔ False := by
  simp [Panics, pure_apply]

@[simp] theorem yields_panic {q : Panic} : (panic q : Run α).Yields s a s' ↔ False := by
  simp [Yields, panic_apply]

@[simp] theorem panics_panic {q : Panic} : (panic q : Run α).Panics s p ↔ q = p := by
  simp [Panics, panic_apply]

@[simp] theorem yields_store {st : Store} : store.Yields s st s' ↔ st = s ∧ s' = s := by
  simp [Yields, store, eq_comm]

@[simp] theorem panics_store : store.Panics s p ↔ False := by
  simp [Panics, store]

@[simp] theorem panics_allocate {c : Cell} : (allocate c).Panics s p ↔ False := by
  simp [Panics, allocate]

theorem yields_bind :
    (x >>= f).Yields s b s' ↔ ∃ a s₁, x.Yields s a s₁ ∧ (f a).Yields s₁ b s' := by
  simp only [Yields, bind_apply]
  rcases x s with ⟨es, s₁, p | a⟩
  · simp
  · constructor
    · rintro ⟨h, h'⟩
      exact ⟨a, s₁, ⟨rfl, rfl⟩, h, h'⟩
    · rintro ⟨a', s₂, ⟨h₁, rfl⟩, h, h'⟩
      cases h₁
      exact ⟨h, h'⟩

theorem panics_bind :
    (x >>= f).Panics s p ↔ x.Panics s p ∨ ∃ a s₁, x.Yields s a s₁ ∧ (f a).Panics s₁ p := by
  simp only [Panics, Yields, bind_apply]
  rcases x s with ⟨es, s₁, q | a⟩
  · simp
  · constructor
    · intro h
      exact .inr ⟨a, s₁, ⟨rfl, rfl⟩, h⟩
    · rintro (h | ⟨a', s₂, ⟨h₁, rfl⟩, h⟩)
      · cases h
      · cases h₁
        exact h

theorem yields_of_eq {es : List Event} (h : x s = ⟨es, s', .ok a⟩) : x.Yields s a s' := by
  simp [Yields, h]

/-- The effect of one run after another: that of both, or that of the first if it panics. -/
theorem bind_eq_iff {y : Effect β} : (x >>= f) s = y ↔
    (∃ es s₁ a es' s₂ o, x s = ⟨es, s₁, .ok a⟩ ∧ f a s₁ = ⟨es', s₂, o⟩ ∧
      y = ⟨es ++ es', s₂, o⟩) ∨
    ∃ es s₁ p, x s = ⟨es, s₁, .error p⟩ ∧ y = ⟨es, s₁, .error p⟩ := by
  rw [bind_apply]
  rcases x s with ⟨es, s₁, p | a⟩
  · constructor
    · rintro rfl
      exact .inr ⟨es, s₁, p, rfl, rfl⟩
    · rintro (⟨_, _, _, _, _, _, h, -, -⟩ | ⟨_, _, _, h, rfl⟩)
      · cases h
      · cases h
        rfl
  · constructor
    · rintro rfl
      exact .inl ⟨es, s₁, a, _, _, _, rfl, rfl, rfl⟩
    · rintro (⟨_, _, _, _, _, _, h, hf, rfl⟩ | ⟨_, _, _, h, -⟩)
      · cases h
        simp only [hf]
      · cases h

/-- Runs that do the same up to a point, and the same from there. -/
theorem bind_congr_at {y : Run α} {f' : α → Run β} (h : x s = y s)
    (hf : ∀ a s', x.Yields s a s' → f a s' = f' a s') : (x >>= f) s = (y >>= f') s := by
  rw [bind_apply, bind_apply, ← h]
  cases hout : (x s).outcome with
  | error p => rfl
  | ok a => simp only [hf a _ ⟨hout, rfl⟩]

@[simp] theorem panics_map {g : α → β} : (g <$> x).Panics s p ↔ x.Panics s p := by
  rw [map_eq_pure_bind, panics_bind]
  simp

end Run

/-! ### Checks -/

namespace Check

variable {α β : Type}

theorem bind_eq_ok {x : Check α} {f : α → Check β} {b : β} :
    (x >>= f) = .ok b ↔ ∃ a, x = .ok a ∧ f a = .ok b := by
  cases x with
  | error e => simp [bind, Except.bind]
  | ok a => simp [bind, Except.bind]

@[simp] theorem pure_eq_ok {a b : α} : (pure a : Check α) = .ok b ↔ a = b := by
  simp [pure, Except.pure]

@[simp] theorem fail_ne_ok {e : Error} {a : α} : (fail e : Check α) = .ok a ↔ False := by
  simp [fail]

@[simp] theorem inside_eq_ok {ctx : Context} {x : Check α} {a : α} :
    inside ctx x = .ok a ↔ x = .ok a := by
  unfold inside
  split <;> simp_all

theorem ofPanicking_eq_ok {x : Except Panic α} {a : α} : ofPanicking x = .ok a ↔ x = .ok a := by
  cases x <;> simp [ofPanicking]

end Check

end Tacit
