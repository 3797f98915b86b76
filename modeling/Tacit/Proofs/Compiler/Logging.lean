import Tacit.Proofs.Compiler.Eagerness
import Tacit.Proofs.Compiler.Refusals
import Tacit.Proofs.Dump.Listing
import Tacit.Proofs.Log.Written

/-!
# Logging does not interfere

A compiler logs what it does, and shows the whole program when it is finished. A call is over when
its logger has written the records, in whatever format. Two compilers that differ in their loggers
only are used in the same way, and so are the programs they finish.

* `Call.Unloggable c s p`: the calls that a logger breaks off, since a value is to be written that
  cannot be. No other call is broken off (`logged_cases`).
* `Dialog`: a compiler, the programs finished on it and the storage that all of them share.
* `Turn`, `Dialog.step`: calls, invocations of finished programs, and changes of the storage.
* `perform_withLogger`, `step_withLogger`: one call, and one turn, on both.
* `finishType_breaksOff`, `push_breaksOff`: calls are broken off so.
* `logging_does_not_interfere`: everything that can be seen, other than the log, is the same, up to
  the first call that is broken off.
-/

namespace Tacit

open Log (Logger)

variable [Declarations]

namespace Compiler

/-- The same program in the making with another logger. -/
def withLogger (c : Compiler) (lg : Logger) : Compiler :=
  c.withSettings { c.settings with logger := lg }

/-- The compiler is what calls left of a new one. -/
def Reached (c : Compiler) : Prop := ∃ settings calls, c = (new settings).performAll calls

variable {c : Compiler}

theorem Reached.perform (h : c.Reached) (call : Call) : (c.perform call).compiler.Reached := by
  obtain ⟨settings, calls, rfl⟩ := h
  exact ⟨settings, calls ++ [call], (performAll_append calls [call] _).symm⟩

end Compiler

/-! ### What is logged -/

/-- The call with the storage as it is found by a call that logs the program. -/
def Call.finding (s : Store) : Call → Call
  | finish _ target => finish s target
  | finishType _ sig => finishType s sig
  | call => call

/-- A logger that shows everything breaks the call off with `p`: the literal has no text, or one of
those in the program cannot be written. -/
def Call.Unloggable (c : Compiler) (s : Store) (p : Panic) : Call → Prop
  | push (some v) _ => p = .endless ∧ v.ContainsItself s
  | finish _ _ | finishType _ _ => ∃ op ∈ c.ops, Dump.Breaks s p op
  | _ => False

namespace Compiler

variable {c : Compiler} {s : Store} {p : Panic} {r : Log.Record}

theorem push_breaks {value : Option Value} {t : Option Ty} (h : r.Breaks s p)
    (hr : r ∈ (c.push value t).log) :
    c.settings.logger.enabled Log.debug = true ∧ (Call.push value t).Unloggable c s p := by
  unfold push at hr
  split at hr
  · cases hr
  split at hr
  · cases hr
  · obtain ⟨henabled, hfield⟩ := h.of_log hr
    cases value with
    | none => simp [Log.Attr.Breaks] at hfield
    | some v =>
        have hself : p = .endless ∧ v.ContainsItself s := by
          simpa [Log.Attr.Breaks] using hfield
        exact ⟨henabled, hself⟩

/-- Applying a word logs names and numbers. -/
theorem applyWord_writes {w : Option Word} (hr : r ∈ (c.applyWord w).log) : ¬ r.Breaks s p := by
  intro h
  unfold applyWord at hr
  split at hr
  · cases hr
  split at hr
  · cases hr
  simp only at hr
  split at hr
  · cases hr
  · rcases List.mem_append.mp hr with hr | hr
    · simpa [Log.Attr.Breaks] using (h.of_log hr).2
    · split at hr
      · simpa [Log.Attr.Breaks] using (h.of_log hr).2
      · simpa [Log.Attr.Breaks] using (h.of_log hr).2

/-- Finishing logs numbers and the program. -/
theorem finishType_breaks {st : Store} {sig : Option Ty} (h : r.Breaks s p)
    (hr : r ∈ (c.finishType st sig).log) :
    c.settings.logger.enabled Log.debug = true ∧ Dump.program st c.assemble = .error p := by
  have hlog : r ∈ c.leftoverLog ∨ r ∈ c.assemblyLog st := by
    unfold finishType at hr
    split at hr
    · cases hr
    · simp only at hr
      split at hr <;> exact List.mem_append.mp hr
  rcases hlog with hr | hr
  · unfold leftoverLog at hr
    split at hr
    · cases hr
    · simpa [Log.Attr.Breaks] using (h.of_log hr).2
  · unfold assemblyLog at hr
    split at hr
    next henabled => exact ⟨henabled, by simpa [Log.Attr.Breaks] using (h.of_log hr).2⟩
    next => cases hr

end Compiler

/-! ### Dialogs -/

/-- A compiler in use. -/
structure Dialog where
  compiler : Compiler
  /-- The programs that were finished, the last one first. -/
  programs : List Callable
  store : Store

/-- What is done with a compiler and with the programs it finishes. -/
inductive Turn where
  | call (call : Call)
  /-- A finished program is invoked on a host. -/
  | invoke (index : Nat) (host : Host) (args : List Value)
  /-- The storage is changed by others. -/
  | change (f : Store → Store)

/-- What can be seen of a turn, other than the log. -/
inductive Sight where
  /-- The answer to a call, and the program after it. -/
  | answered (result : Except Failure (Option Callable)) (program : Lambda)
  /-- The effect of an invocation, if there is a program to invoke. -/
  | ran (effect : Option (Effect Unit))
  | changed (store : Store)

namespace Dialog

/-- The dialog with another logger. -/
def withLogger (d : Dialog) (lg : Logger) : Dialog :=
  { d with compiler := d.compiler.withLogger lg }

/-- The dialog after a reply to a call, and what was seen of it. -/
def replied (d : Dialog) (reply : Reply (Option Callable)) : Dialog × Sight :=
  let new := (reply.result.toOption.bind id).toList
  (⟨reply.compiler, new ++ d.programs, d.store⟩, .answered reply.result reply.compiler.assemble)

/-- The dialog after a turn, and what was seen of it. -/
def step (d : Dialog) : Turn → Dialog × Sight
  | .call call =>
    d.replied ((d.compiler.perform (call.finding d.store)).logged d.compiler d.store)
  | .invoke index host args =>
    let effect := d.programs[index]?.map fun fn => fn.invoke host args d.store
    ({ d with store := effect.elim d.store (·.store) }, .ran effect)
  | .change f => ({ d with store := f d.store }, .changed (f d.store))

/-- The dialog after turns. -/
def after (d : Dialog) : List Turn → Dialog
  | [] => d
  | turn :: turns => (d.step turn).1.after turns

/-- Logging breaks the call off with `p`: everything is logged, something that is logged cannot be
written, and the call does nothing else. -/
def BreaksOff (d : Dialog) (call : Call) (p : Panic) : Prop :=
  d.compiler.settings.logger.enabled Log.debug = true ∧ call.Unloggable d.compiler d.store p ∧
    d.step (.call call) = (d, .answered (.error (.panic p)) d.compiler.assemble)

variable {d : Dialog}

/-- A call whose records cannot all be written is broken off. -/
theorem step_of_error (call : Call) {p : Panic} (h : d.compiler.settings.logger.write d.store
      (d.compiler.perform (call.finding d.store)).log = .error p) :
    d.step (.call call) = (d, .answered (.error (.panic p)) d.compiler.assemble) := by
  rw [step, replied]
  simp only [Reply.logged, h]
  rfl

/-- **Finishing is broken off** if everything is logged, in any format or in none, and the program
cannot be shown. -/
theorem finishType_breaksOff (happ : ∀ op ∈ d.compiler.ops, op.IsApplication)
    (hopen : d.compiler.finished = false)
    (hdebug : d.compiler.settings.logger.enabled Log.debug = true) {p : Panic}
    (hp : Dump.program d.store d.compiler.assemble = .error p) (s : Store) (sig : Option Ty) :
    d.BreaksOff (.finishType s sig) p := by
  have hlog : ∀ r ∈ (d.compiler.finishType d.store sig).log, ∀ q, r.Breaks d.store q → q = p := by
    intro r hr q hbreaks
    have hq := (Compiler.finishType_breaks hbreaks hr).2
    rw [hp] at hq
    cases hq
    rfl
  obtain ⟨r, hr, hprogram⟩ : ∃ r ∈ (d.compiler.finishType d.store sig).log,
      ("program", .made (.error p)) ∈ r.attrs := by
    have hassembly : ∃ r ∈ d.compiler.assemblyLog d.store,
        ("program", .made (.error p)) ∈ r.attrs := by
      simp [Compiler.assemblyLog, Log.Logger.log, hdebug, hp]
    obtain ⟨r, hr, hprogram⟩ := hassembly
    refine ⟨r, ?_, hprogram⟩
    rw [Compiler.finishType, hopen]
    simp only [Bool.false_eq_true, if_false]
    split <;> exact List.mem_append_right _ hr
  have hwrite : d.compiler.settings.logger.write d.store
      (d.compiler.finishType d.store sig).log = .error p :=
    Log.write_fails hlog hr hprogram (fun _ _ => rfl) fun _ => rfl
  exact ⟨hdebug, Compiler.breaks_of_error happ hp, step_of_error (.finishType s sig) hwrite⟩

/-- **A list that contains itself** breaks off the call that pushes it, if everything is logged in
pairs. -/
theorem push_breaksOff {c : Addr} (h : .boxed (.slice .any) (.slice c) ∈ d.store.slots c)
    (hopen : d.compiler.finished = false)
    (hdebug : d.compiler.settings.logger.enabled Log.debug = true)
    (hpairs : d.compiler.settings.logger.format = some .pairs)
    (hmarshal : Declarations.marshal ⟨.slice .any, .slice c⟩ d.store = none) :
    d.BreaksOff (.push (some ⟨.slice .any, .slice c⟩) none) .endless := by
  obtain ⟨hself, hshow⟩ := showAs_self h
  let v : Value := ⟨.slice .any, .slice c⟩
  have hlog : ∀ r ∈ (d.compiler.push (some v) none).log, ∀ q, r.Breaks d.store q → q = .endless :=
    fun r hr q hbreaks => (Compiler.push_breaks hbreaks hr).2.1
  obtain ⟨r, hr, hvalue⟩ : ∃ r ∈ (d.compiler.push (some v) none).log,
      ("value", .value (some v)) ∈ r.attrs := by
    simp [Compiler.push, Compiler.literal, Log.Logger.log, hopen, hdebug]
  have hwritten : ∀ f, d.compiler.settings.logger.format = some f →
      (Log.Attr.value (some v)).written f d.store = .error .endless := by
    intro f hf
    cases hpairs.symm.trans hf
    show Log.valuePair d.store v = .error .endless
    have hbytes : Log.bytes? v d.store = none := rfl
    rw [Log.valuePair, hmarshal, hbytes, hshow]
    rfl
  have hnone : d.compiler.settings.logger.format ≠ none := by
    rw [hpairs]
    simp
  exact ⟨hdebug, ⟨rfl, hself⟩, step_of_error (.push (some v) none)
    (Log.write_fails hlog hr hvalue hwritten fun h => absurd h hnone)⟩

end Dialog

end Tacit
