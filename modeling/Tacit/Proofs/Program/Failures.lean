import Tacit.Proofs.Program.Typing

/-!
# Why a realization fails

* `Sentinel`, `Error.Wraps e k`: the three kinds of errors that a realization reports, and which of
  them an error is at bottom, whatever contexts are around it.
* `Check.Reports x`: every error that the check `x` reports wraps one of the three. Checks that are
  put together from such checks are such checks.
* `Lambda.realize_reports`: a realization is one, whatever the program.
-/

namespace Tacit

/-! ### Sentinels -/

/-- The kinds of errors of a realization. -/
inductive Sentinel where
  | signature
  | malformed
  | mismatch
deriving DecidableEq

/-- The error is of the kind, inside its contexts. -/
def Error.Wraps (e : Error) : Sentinel → Prop
  | .signature => ∃ fault, e.cause = .signature fault
  | .malformed => ∃ fault, e.cause = .malformed fault
  | .mismatch => ∃ fault, e.cause = .mismatch fault

theorem Error.wraps_within {e : Error} {k : Sentinel} (ctx : Context) :
    (Error.within ctx e).Wraps k ↔ e.Wraps k := by
  cases k <;> simp [Wraps, cause]

namespace Check

variable {α β : Type}

/-- Every error that is reported wraps a sentinel. -/
def Reports (x : Check α) : Prop := ∀ e, x = .error (.error e) → ∃ k, e.Wraps k

theorem reports_ok (a : α) : Reports (.ok a) := by
  intro e h
  cases h

theorem reports_panic (p : Panic) : Reports (.error (.panic p) : Check α) := by
  intro e h
  cases h

theorem reports_signature (fault : SignatureFault) :
    Reports (fail (.signature fault) : Check α) := by
  intro e h
  cases h
  exact ⟨.signature, fault, rfl⟩

theorem reports_malformed (fault : Malformation) :
    Reports (fail (.malformed fault) : Check α) := by
  intro e h
  cases h
  exact ⟨.malformed, fault, rfl⟩

theorem reports_mismatch (fault : Mismatch) : Reports (fail (.mismatch fault) : Check α) := by
  intro e h
  cases h
  exact ⟨.mismatch, fault, rfl⟩

theorem Reports.bind {x : Check α} {f : α → Check β} (hx : x.Reports)
    (hf : ∀ a, (f a).Reports) : (x >>= f).Reports := by
  cases x with
  | error failure =>
      intro e h
      cases h
      exact hx e rfl
  | ok a => exact hf a

theorem Reports.inside {x : Check α} (hx : x.Reports) (ctx : Context) : (inside ctx x).Reports := by
  intro e h
  rcases x with (e' | p) | a
  · cases h
    obtain ⟨k, hk⟩ := hx e' rfl
    exact ⟨k, (Error.wraps_within ctx).mpr hk⟩
  · cases h
  · cases h

theorem reports_ofPanicking (x : Except Panic α) : Reports (ofPanicking x) := by
  cases x with
  | error p => exact reports_panic p
  | ok a => exact reports_ok a

end Check

/-! ### The checks of a realization -/

open Check

theorem Scope.param_reports (sc : Scope) (s : Slot) : (sc.param s).Reports := by
  unfold Scope.param
  split
  · exact reports_ok _
  · exact reports_malformed _

theorem Scope.temp_reports (sc : Scope) (s : Slot) : (sc.temp s).Reports := by
  unfold Scope.temp
  split
  · exact reports_ok _
  · exact reports_malformed _

variable [Declarations]

theorem Lambda.checkSignature_reports (l : Lambda) (sig : Option Ty) :
    (l.checkSignature sig).Reports := by
  rcases checkSignature_cases l sig with ⟨-, t, -, h⟩ | ⟨-, fault, h⟩
  · rw [h]
    exact reports_ok t
  · rw [h]
    exact reports_signature fault

namespace Expr

theorem checkConversion_reports (e : Expr) (t : Ty) : (e.checkConversion t).Reports := by
  cases e with
  | convert x target =>
      refine (reports_ofPanicking x.type).bind fun given => ?_
      cases given with
      | none => exact reports_mismatch _
      | some u =>
          show Reports (if u.canConvert t then pure () else fail _)
          split
          · exact reports_ok ()
          · exact reports_mismatch _
  | missing | const | sealed | param | temp | invoke | assign | block => exact reports_ok ()

theorem checkBind_reports (e : Expr) (target : Option Ty) : (e.checkBind target).Reports := by
  refine (reports_ofPanicking e.type).bind fun given => ?_
  cases given with
  | none => exact reports_mismatch _
  | some u =>
      refine (checkConversion_reports e u).bind fun _ => ?_
      cases target with
      | none => exact reports_panic _
      | some t =>
          show Reports (if u.assignable t then pure () else fail _)
          split
          · exact reports_ok ()
          · exact reports_mismatch _

end Expr

theorem callParams_reports (name : String) (fn : Expr) (n : Nat) :
    (callParams name fn n).Reports := by
  refine (reports_ofPanicking fn.type).bind fun t => ?_
  cases t with
  | none => exact reports_panic _
  | some t =>
      cases hf : t.func? with
      | none =>
          simp only [hf]
          exact reports_malformed _
      | some f =>
          simp only [hf]
          split
          · exact reports_ok _
          · exact reports_malformed _

theorem conversionTypes_reports (x : Expr) (target : Option Ty) :
    (conversionTypes x target).Reports := by
  refine (reports_ofPanicking x.type).bind fun given => ?_
  cases given with
  | none => exact reports_mismatch _
  | some u =>
      have hcan : (Expr.canConvert u target).Reports := by
        unfold Expr.canConvert
        split
        · exact reports_ok _
        · split
          · exact reports_ok _
          · exact reports_panic _
      refine hcan.bind fun b => ?_
      cases b with
      | false => exact reports_mismatch _
      | true =>
          cases target with
          | none => exact reports_panic _
          | some t => exact reports_ok _

mutual
theorem Expr.code_reports (sc : Scope) : ∀ e : Expr, (e.code sc).Reports
  | .const none => by
      rw [Expr.code]
      exact reports_malformed _
  | .const (some v) | .sealed v => by
      rw [Expr.code]
      exact reports_ok _
  | .param s => by
      rw [Expr.code]
      exact (sc.param_reports s).bind fun _ => reports_ok _
  | .temp s => by
      rw [Expr.code]
      exact (sc.temp_reports s).bind fun _ => reports_ok _
  | .convert x target => by
      rw [Expr.code]
      exact (conversionTypes_reports x target).bind fun _ =>
        (Expr.code_reports sc x).bind fun _ => reports_ok _
  | .invoke name fn operands => by
      rw [Expr.code]
      refine (reports_ofPanicking _).bind fun t => ?_
      split
      · exact reports_mismatch _
      · exact (callParams_reports name fn _).bind fun ps => (Expr.code_reports sc fn).bind fun _ =>
          (Expr.operandCodes_reports sc name 0 ps operands).bind fun _ => reports_ok _
  | .missing | .assign _ _ | .block _ _ => by
      rw [Expr.code]
      · exact reports_malformed _
      all_goals simp
theorem Expr.operandCodes_reports (sc : Scope) (name : String) :
    ∀ (i : Nat) (ts : List Ty) (es : List Expr), (Expr.operandCodes sc name i ts es).Reports
  | i, t :: ts, e :: es => by
      rw [Expr.operandCodes]
      exact ((e.checkBind_reports _).inside _).bind fun _ => (Expr.code_reports sc e).bind fun _ =>
        (Expr.operandCodes_reports sc name (i + 1) ts es).bind fun _ => reports_ok _
  | _, [], _ | _, _ :: _, [] => by
      rw [Expr.operandCodes]
      · exact reports_ok _
      all_goals simp
end

theorem Expr.step_reports (sc : Scope) (e : Expr) : (e.step sc).Reports := by
  cases e with
  | assign dst src =>
      exact (sc.temp_reports dst).bind fun _ => ((src.checkBind_reports _).inside _).bind fun _ =>
        (src.code_reports sc).bind fun _ => reports_ok _
  | invoke name fn operands =>
      exact (callParams_reports name fn _).bind fun ps => (fn.code_reports sc).bind fun _ =>
        (Expr.operandCodes_reports sc name 0 ps operands).bind fun _ => reports_ok _
  | missing | const | sealed | param | temp | convert | block => exact reports_malformed _

theorem Expr.steps_reports (sc : Scope) : ∀ (i : Nat) (es : List Expr),
    (Expr.steps sc i es).Reports
  | _, [] => reports_ok []
  | i, e :: es => ((e.step_reports sc).inside _).bind fun _ =>
      (Expr.steps_reports sc (i + 1) es).bind fun _ => reports_ok _

/-- **Every error of a realization** wraps one of the three sentinels. -/
theorem Lambda.realize_reports (l : Lambda) (sig : Option Ty) : (l.realize sig).Reports := by
  unfold Lambda.realize
  split
  · exact reports_malformed _
  · exact (l.checkSignature_reports sig).bind fun _ =>
      (Expr.steps_reports _ 0 _).bind fun _ => reports_ok _

end Tacit
