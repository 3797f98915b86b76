import Tacit.Catalogue
import Tacit.Proofs.Compiler.Building

/-!
# Eager and deferred checks agree

An eager compiler checks the operands of a word when the word is applied; any other leaves that to
the end. The same calls are carried out on one of each.

* `Compiler.withSettings`: the same program in the making, set up differently.
* `performAll_eager`: as long as the eager compiler refuses no operand, the two stay in step, and
  everything that is taken off the stack fits.
* `fits_append`: an operand that does not fit is never taken back.
* `eager_agrees`: the two modes accept the same programs.
-/

namespace Tacit

namespace Compiler

/-- The same program in the making, set up differently. -/
def withSettings (c : Compiler) (settings : Settings) : Compiler := { c with settings := settings }

theorem Formed.withSettings {c : Compiler} (h : c.Formed) (settings : Settings) :
    (c.withSettings settings).Formed := ⟨h.inputs, h.temps, h.stack⟩

section

variable [Declarations] {c : Compiler} {call : Call} {calls : List Call} {eager plain : Settings}

theorem add_withSettings (c : Compiler) (settings : Settings) (i : Instr) :
    (c.withSettings settings).add i = (c.add i).withSettings settings := by
  cases i with
  | literal v => rfl
  | word w =>
      rw [add_word, add_word]
      rfl

/-! ### In step -/

/-- One call on both, if the eager compiler does not refuse its operands. -/
theorem Formed.perform_eager (h : c.Formed) (hopen : c.finished = false)
    (hmode : c.settings.eager = false) (heager : eager.eager = true) (hcall : call.Builds)
    (hr : ¬ Check.Mismatches ((c.withSettings eager).perform call).result) :
    ((c.withSettings eager).perform call).result = (c.perform call).result ∧
    ((c.withSettings eager).perform call).compiler =
      (c.perform call).compiler.withSettings eager ∧
    (((c.perform call).compiler = c ∧ (c.perform call).result.isOk = false) ∨
      ∃ i, call.instr? = some i ∧ c.Admits i ∧ (c.perform call).compiler = c.add i ∧
        (c.perform call).result = .ok none) := by
  cases hi : call.instr? with
  | none =>
      obtain ⟨e, -, he⟩ := perform_no_instr hcall hi
      rw [he c hopen, he (c.withSettings eager) hopen]
      exact ⟨rfl, rfl, .inl ⟨rfl, rfl⟩⟩
  | some i =>
      rcases (h.withSettings eager).perform_instr hopen hi with ⟨hfit, hr₁, hc₁⟩ | ⟨-, -, hbad⟩
      · rcases h.perform_instr hopen hi with ⟨-, hr₂, hc₂⟩ | ⟨hmode', -⟩
        · refine ⟨hr₁.trans hr₂.symm, ?_, .inr ⟨i, rfl, ?_, hc₂, hr₂⟩⟩
          · rw [hc₁, hc₂, add_withSettings]
          · cases i with
            | literal v => trivial
            | word w => exact hfit heager
        · rw [hmode] at hmode'
          cases hmode'
      · exact absurd hbad hr

/-- **In step.** Calls that an eager compiler does not refuse for their operands answer the same in
both modes, leave the same program, and take nothing off the stack that does not fit. -/
theorem Formed.performAll_eager (heager : eager.eager = true) :
    ∀ {calls : List Call} {c : Compiler}, c.Formed → c.finished = false →
    c.settings.eager = false → (∀ call ∈ calls, call.Builds) →
    (∀ r ∈ (c.withSettings eager).results calls, ¬ Check.Mismatches r) →
    (c.withSettings eager).results calls = c.results calls ∧
    (c.withSettings eager).performAll calls = (c.performAll calls).withSettings eager ∧
    (c.performAll calls).finished = false ∧
    ∀ p ∈ c.popped (c.carriedOut calls), Bindable p
  | [], _, _, hopen, _, _, _ => ⟨rfl, rfl, hopen, by simp [carriedOut, popped]⟩
  | call :: calls, c, h, hopen, hmode, hcalls, hr => by
      rw [results, List.forall_mem_cons] at hr
      obtain ⟨hres, hcomp, hcases⟩ :=
        h.perform_eager hopen hmode heager (hcalls call List.mem_cons_self) hr.1
      have hrest := fun call' h' => hcalls call' (List.mem_cons_of_mem _ h')
      rw [hcomp] at hr
      rw [results, results, performAll, performAll, carriedOut, hres, hcomp]
      rcases hcases with ⟨hsame, hfail⟩ | ⟨i, hi, hfit, hadd, hok⟩
      · rw [hsame] at hr ⊢
        obtain ⟨h₁, h₂, h₃, h₄⟩ := performAll_eager heager h hopen hmode hrest hr.2
        rw [h₁, hfail]
        exact ⟨rfl, h₂, h₃, h₄⟩
      · rw [hadd] at hr ⊢
        have hopen' : (c.add i).finished = false := (finished_addAll [i] c).trans hopen
        have hmode' : (c.add i).settings.eager = false := by
          rw [show (c.add i).settings = c.settings from settings_addAll [i] c, hmode]
        obtain ⟨h₁, h₂, h₃, h₄⟩ := performAll_eager heager (h.add i) hopen' hmode' hrest hr.2
        rw [h₁, hok, hi]
        exact ⟨rfl, h₂, h₃, (popped_cons c i _).mpr ⟨hfit, h₄⟩⟩

/-- Finishing does not depend on the mode. -/
theorem finishType_withSettings (hopen : c.finished = false) {settings : Settings}
    (hreal : settings.realizer = c.settings.realizer) (st : Store) (sig : Option Ty) :
    ((c.withSettings settings).finishType st sig).result = (c.finishType st sig).result := by
  have heager := finishType_result (c := c.withSettings settings) hopen st sig
  rw [heager, finishType_result hopen]
  exact congrArg (fun r : Realizer => Check.inside .finish (r c.assemble sig)) hreal

/-! ### Out of step -/

/-- The first call that an eager compiler refuses for its operands succeeds without the check, and
takes something off the stack that does not fit. -/
theorem Formed.perform_mismatch (h : c.Formed) (hopen : c.finished = false)
    (hmode : c.settings.eager = false) (hcall : call.Builds)
    (hr : Check.Mismatches ((c.withSettings eager).perform call).result) :
    ∃ i, call.instr? = some i ∧ ¬ c.Admits i ∧ (c.perform call).result = .ok none := by
  obtain ⟨e, fault, herr, he⟩ := hr
  cases hi : call.instr? with
  | none =>
      obtain ⟨e', hne, he'⟩ := perform_no_instr hcall hi
      rw [he' (c.withSettings eager) hopen] at herr
      cases herr
      exact absurd he (hne fault)
  | some i =>
      refine ⟨i, rfl, ?_⟩
      rcases (h.withSettings eager).perform_instr hopen hi with ⟨-, hok, -⟩ | ⟨-, hfit, -⟩
      · rw [herr] at hok
        cases hok
      · rcases h.perform_instr hopen hi with ⟨-, hok, -⟩ | ⟨hmode', -⟩
        · refine ⟨fun hadmits => hfit ?_, hok⟩
          cases i with
          | literal v => trivial
          | word w => exact hadmits
        · rw [hmode] at hmode'
          cases hmode'

/-- What was taken off the stack stays taken: later calls do not make it fit. -/
theorem fits_append {settings : Settings} {before after : List Call}
    (h : (new settings).Fits (before ++ after)) : (new settings).Fits before := by
  intro p hp
  refine h p ?_
  rw [carriedOut_append, popped_append]
  exact List.mem_append_left _ hp

/-- After a call that took something off the stack that does not fit, nothing fits any more. -/
theorem not_fits_of_not_admits {settings : Settings} {i : Instr}
    (hopen : ((new settings).performAll calls).finished = false)
    (hi : call.instr? = some i) (hok : (((new settings).performAll calls).perform call).result =
      .ok none) (hfit : ¬ ((new settings).performAll calls).Admits i) (later : List Call) :
    ¬ (new settings).Fits (calls ++ call :: later) := by
  intro h
  rw [List.append_cons] at h
  have hcalls := fits_append h
  have hadded : ((new settings).performAll calls).carriedOut [call] = [i] := by
    simp [carriedOut, hok, hi, Except.isOk, Except.toBool]
  rw [Fits, carriedOut_append, hadded, popped_append, ← performAll_eq_addAll hopen,
    List.forall_mem_append, popped_cons] at hcalls
  exact hfit hcalls.2.1

/-- **Eager and deferred checks agree.** Let calls push and apply on two new compilers, one of which
is eager, and let the eager one refuse no call for its operands. All calls answer the same on both,
the programs are the same, and both are finished under their own signature. The first call that the
eager one refuses for its operands succeeds on the other; from then on, whatever is called there,
the program is never finished, and under its own signature the error is a mismatch of types. -/
theorem eager_agrees (heager : eager.eager = true) (hplain : plain.eager = false)
    (hreal : eager.realizer = routineRealizer) (hreal' : plain.realizer = routineRealizer)
    (hcalls : ∀ call ∈ calls, call.Builds)
    (hr : ∀ r ∈ (new eager).results calls, ¬ Check.Mismatches r) {cₑ c : Compiler}
    (hcₑ : (new eager).performAll calls = cₑ) (hc : (new plain).performAll calls = c) :
    ((new eager).results calls = (new plain).results calls ∧ cₑ.assemble = c.assemble ∧
      ∀ st, (∃ fn, (cₑ.finishType st (some cₑ.signature)).result = .ok fn) ∧
        ∃ fn, (c.finishType st (some c.signature)).result = .ok fn) ∧
    ∀ call : Call, call.Builds → Check.Mismatches (cₑ.perform call).result →
      (c.perform call).result = .ok none ∧
      ∀ later c', (new plain).performAll (calls ++ call :: later) = c' → c'.finished = false ∧
        ∀ st sig, c'.assemble.Matches sig → Check.Mismatches (c'.finishType st sig).result := by
  obtain ⟨hres, hcomp, hopen, hfit⟩ :=
    (formed_new plain).performAll_eager heager rfl hplain hcalls hr
  have hformed := formed_performAll plain calls
  have hmode : ((new plain).performAll calls).settings.eager = false := by
    rw [settings_performAll]
    exact hplain
  obtain rfl : ((new plain).performAll calls).withSettings eager = cₑ := hcomp.symm.trans hcₑ
  subst hc
  refine ⟨⟨hres, rfl, fun st => ?_⟩, fun call hcall hbad => ?_⟩
  · have hdecides := finishType_decides hreal' hopen hformed.matches_signature st
    obtain ⟨fn, hfn⟩ := hdecides.ok_iff.mpr hfit
    have hrealizer : eager.realizer = ((new plain).performAll calls).settings.realizer := by
      rw [settings_performAll, hreal]
      exact hreal'.symm
    refine ⟨⟨fn, ?_⟩, fn, hfn⟩
    rw [finishType_withSettings hopen hrealizer]
    exact hfn
  · obtain ⟨i, hi, hadmits, hok⟩ := hformed.perform_mismatch hopen hmode hcall hbad
    refine ⟨hok, ?_⟩
    rintro later c' rfl
    have hnot := not_fits_of_not_admits hopen hi hok hadmits later
    have hopen' : ((new plain).performAll (calls ++ call :: later)).finished = false :=
      Bool.eq_false_iff.mpr fun hfin => hnot (fits_of_finished hreal' hfin)
    exact ⟨hopen', fun st sig hm => (finishType_decides hreal' hopen' hm st).mismatches hnot⟩

end

open scoped Catalogue

/-- An integer in an interface, a literal that is none, and a word that takes the integer out. -/
def unboxed : List Call :=
  [.push (some ⟨.int, .int 3⟩) (some .any), .push none none,
    .apply (Dictionary.host []) (some ⟨.func [.int] [.string] false, .func 0 []⟩)]

/-- A word that takes a list of integers, and a channel. -/
def takesList : Call :=
  .apply (Dictionary.host []) (some ⟨.func [.slice .int, .channel .both .int] [] false, .func 1 []⟩)

theorem eager_agrees_unboxed :
    (∃ fn, (((new { eager := true }).performAll unboxed).finishType .empty
      (some (.func [] [] false))).result = .ok fn) ∧
    Check.Mismatches (((new { eager := true }).performAll unboxed).perform takesList).result ∧
    (((new {}).performAll unboxed).perform takesList).result = .ok none ∧
    Check.Mismatches (((new {}).performAll (unboxed ++ [takesList, .push none none])).finishType
      .empty (some (.func [.channel .both .int] [] false))).result := by
  have hr : ∀ r ∈ (new { eager := true }).results unboxed, ¬ Check.Mismatches r := by
    rw [show (new { eager := true }).results unboxed =
      [.ok none, .error (.error (.literal .untypedNil)), .ok none] from rfl]
    simp [Check.Mismatches, Error.cause]
  obtain ⟨⟨-, -, hfin⟩, hbad⟩ := @eager_agrees _ unboxed { eager := true } {} rfl rfl rfl rfl
    (by simp [unboxed, Call.Builds]) hr _ _ rfl rfl
  have htext : Check.Mismatches
      (((new { eager := true }).performAll unboxed).perform takesList).result := ⟨_, _, rfl, rfl⟩
  obtain ⟨hok, hlater⟩ := hbad takesList trivial htext
  exact ⟨(hfin .empty).1, htext, hok, (hlater [.push none none] _ rfl).2 _ _ ⟨_, rfl, rfl⟩⟩

end Compiler

end Tacit
