import Tacit.Catalogue
import Tacit.Proofs.Program.Failures
import Tacit.Proofs.Program.Soundness

/-!
# Names do not matter

Inputs, temporaries and calls have names, which are for messages only.

* `Lambda.unnamed`: a program without its names. Two programs differ only in names if they are the
  same without them; which slots of a program have the same name is of no account.
* `Failure.unnamed`: a failure without the names in its message.
* `code_unnamed`, `step_unnamed`, `realize_unnamed`: a program without its names becomes the same
  routine, or fails in the same way but for the names.
* `realize_names`: programs that differ only in names are accepted alike, refused alike, and do the
  same.
-/

namespace Tacit

/-! ### Programs without names -/

/-- The slot without its name. -/
def Slot.unnamed (s : Slot) : Slot := { s with name := "" }

mutual
/-- The node without names. -/
def Expr.unnamed : Expr → Expr
  | .missing => .missing
  | .const v => .const v
  | .sealed v => .sealed v
  | .param s => .param s.unnamed
  | .temp s => .temp s.unnamed
  | .invoke _ fn operands => .invoke "" fn.unnamed (Expr.unnamedAll operands)
  | .assign dst src => .assign dst.unnamed src.unnamed
  | .convert x target => .convert x.unnamed target
  | .block temps ops => .block (temps.map Slot.unnamed) (Expr.unnamedAll ops)
/-- The nodes without names. -/
def Expr.unnamedAll : List Expr → List Expr
  | [] => []
  | e :: es => e.unnamed :: Expr.unnamedAll es
end

/-- The scope without names. -/
def Scope.unnamed (sc : Scope) : Scope := ⟨sc.params.map Slot.unnamed, sc.temps.map Slot.unnamed⟩

/-- The program without names. -/
def Lambda.unnamed (l : Lambda) : Lambda :=
  ⟨l.params.map Slot.unnamed,
    l.body.map fun b => ⟨b.temps.map Slot.unnamed, Expr.unnamedAll b.ops⟩⟩

/-! ### Failures without names -/

/-- The mismatch without names. -/
def Mismatch.unnamed : Mismatch → Mismatch
  | .noResult _ => .noResult ""
  | fault => fault

/-- The malformation without names; the kinds of nodes are no names. -/
def Malformation.unnamed : Malformation → Malformation
  | .unknownInput _ => .unknownInput ""
  | .unknownTemporary _ => .unknownTemporary ""
  | .notFunc _ => .notFunc ""
  | .operandCount _ wanted given => .operandCount "" wanted given
  | fault => fault

/-- The fault of a signature without names. -/
def SignatureFault.unnamed : SignatureFault → SignatureFault
  | .inputType i sig wanted _ given => .inputType i sig wanted "" given
  | fault => fault

/-- The context without names. -/
def Context.unnamed : Context → Context
  | .applyOperand _ i => .applyOperand "" i
  | .assign _ => .assign ""
  | .operand _ i => .operand "" i
  | ctx => ctx

/-- The error without names. -/
def Error.unnamed : Error → Error
  | .signature fault => .signature fault.unnamed
  | .malformed fault => .malformed fault.unnamed
  | .mismatch fault => .mismatch fault.unnamed
  | .within ctx e => .within ctx.unnamed e.unnamed
  | e => e

/-- The failure without names. A panic has none. -/
def Failure.unnamed : Failure → Failure
  | .error e => .error e.unnamed
  | .panic p => .panic p

theorem Error.wraps_unnamed {k : Sentinel} : ∀ e : Error, e.unnamed.Wraps k ↔ e.Wraps k
  | .within ctx e => by
      rw [unnamed, wraps_within, wraps_within]
      exact wraps_unnamed e
  | .signature fault | .malformed fault | .mismatch fault => by
      cases k <;> simp [Wraps, unnamed, cause]
  | .finished | .literal _ | .target _ | .operator _ | .custom _ => Iff.rfl

namespace Check

variable {α β : Type}

/-- The check without the names in its failure. -/
def unnamed (x : Check α) : Check α := x.mapError Failure.unnamed

theorem unnamed_bind (x : Check α) (f : α → Check β) :
    (x >>= f).unnamed = x.unnamed >>= fun a => (f a).unnamed := by
  cases x <;> rfl

theorem unnamed_inside (ctx : Context) (x : Check α) :
    (inside ctx x).unnamed = inside ctx.unnamed x.unnamed := by
  rcases x with (e | p) | a <;> rfl

@[simp] theorem unnamed_ofPanicking (x : Except Panic α) :
    (ofPanicking x).unnamed = ofPanicking x := by
  cases x <;> rfl

/-- Checks that are the same without names have the same result, or fail in the same way. -/
theorem unnamed_cases {x y : Check α} (h : x.unnamed = y.unnamed) :
    (∃ a, x = .ok a ∧ y = .ok a) ∨
    (∃ e e', x = .error (.error e) ∧ y = .error (.error e') ∧ e.unnamed = e'.unnamed) ∨
    ∃ p, x = .error (.panic p) ∧ y = .error (.panic p) := by
  rcases x with (e | p) | a <;> rcases y with (e' | q) | b
  · have he : Failure.error e.unnamed = Failure.error e'.unnamed := Except.error.inj h
    exact .inr (.inl ⟨e, e', rfl, rfl, Failure.error.inj he⟩)
  · cases h
  · cases h
  · cases h
  · cases h
    exact .inr (.inr ⟨p, rfl, rfl⟩)
  · cases h
  · cases h
  · cases h
  · cases h
    exact .inl ⟨a, rfl, rfl⟩

end Check

/-! ### Checks do not look at names -/

theorem lastIndex?_unnamed (s : Slot) (slots : List Slot) :
    lastIndex? s.unnamed (slots.map Slot.unnamed) = lastIndex? s slots := by
  unfold lastIndex?
  rw [← List.map_reverse, List.findIdx?_map, List.length_map]
  rfl

theorem Scope.param_unnamed (sc : Scope) (s : Slot) :
    sc.unnamed.param s.unnamed = (sc.param s).unnamed := by
  unfold Scope.param
  rw [Scope.unnamed, lastIndex?_unnamed]
  cases lastIndex? s sc.params <;> rfl

theorem Scope.temp_unnamed (sc : Scope) (s : Slot) :
    sc.unnamed.temp s.unnamed = (sc.temp s).unnamed := by
  unfold Scope.temp
  rw [Scope.unnamed, lastIndex?_unnamed]
  cases lastIndex? s sc.temps <;> rfl

theorem checkInputs_unnamed (sig : Ty) : ∀ (i : Nat) (ts : List Ty) (ss : List Slot),
    checkInputs sig i ts (ss.map Slot.unnamed) = (checkInputs sig i ts ss).unnamed
  | i, t :: ts, s :: ss => by
      have htype : s.unnamed.type = s.type := rfl
      rw [List.map_cons, checkInputs, checkInputs, htype]
      split
      · exact checkInputs_unnamed sig (i + 1) ts ss
      · rfl
  | _, [], [] | _, [], _ :: _ | _, _ :: _, [] => rfl

namespace Expr

theorem length_unnamedAll : ∀ es : List Expr, (unnamedAll es).length = es.length
  | [] => by rw [unnamedAll]
  | e :: es => by rw [unnamedAll, List.length_cons, List.length_cons, length_unnamedAll es]

end Expr

section

variable [Declarations]

namespace Expr

theorem type_unnamed : ∀ e : Expr, e.unnamed.type = e.type
  | .invoke _ fn _ => by rw [unnamed, type, type, type_unnamed fn]
  | .missing | .const _ | .sealed _ | .param _ | .temp _ | .assign _ _ | .convert _ _
  | .block _ _ => by rw [unnamed] <;> rfl

theorem typeOf_unnamed (e : Expr) : e.unnamed.typeOf = e.typeOf := by
  rw [typeOf, typeOf, type_unnamed]

theorem checkConversion_unnamed (e : Expr) (t : Ty) :
    e.unnamed.checkConversion t = (e.checkConversion t).unnamed := by
  cases e with
  | convert x target =>
      rw [unnamed, checkConversion, checkConversion, typeOf_unnamed, Check.unnamed_bind, typeOf,
        Check.unnamed_ofPanicking]
      refine bind_congr fun given => ?_
      cases given with
      | none => rfl
      | some u =>
          simp only
          split <;> rfl
  | missing | const | sealed | param | temp | invoke | assign | block => rw [unnamed]; rfl

theorem checkBind_unnamed (e : Expr) (target : Option Ty) :
    e.unnamed.checkBind target = (e.checkBind target).unnamed := by
  rw [checkBind, checkBind, typeOf_unnamed, Check.unnamed_bind, typeOf, Check.unnamed_ofPanicking]
  refine bind_congr fun given => ?_
  cases given with
  | none => rfl
  | some u =>
      simp only
      rw [Check.unnamed_bind, checkConversion_unnamed]
      refine bind_congr fun _ => ?_
      cases target with
      | none => rfl
      | some t =>
          simp only
          split <;> rfl

end Expr

theorem callParams_unnamed (name : String) (fn : Expr) (n : Nat) :
    callParams "" fn.unnamed n = (callParams name fn n).unnamed := by
  rw [callParams, callParams, Expr.typeOf_unnamed, Check.unnamed_bind, Expr.typeOf,
    Check.unnamed_ofPanicking]
  refine bind_congr fun t => ?_
  cases t with
  | none => rfl
  | some t =>
      simp only
      split
      · rfl
      · split <;> rfl

theorem conversionTypes_unnamed (x : Expr) (target : Option Ty) :
    conversionTypes x.unnamed target = (conversionTypes x target).unnamed := by
  rw [conversionTypes, conversionTypes, Expr.typeOf_unnamed, Check.unnamed_bind, Expr.typeOf,
    Check.unnamed_ofPanicking]
  refine bind_congr fun given => ?_
  cases given with
  | none => rfl
  | some u =>
      have hcan : (Expr.canConvert u target).unnamed = Expr.canConvert u target := by
        unfold Expr.canConvert
        split
        · rfl
        · split <;> rfl
      simp only
      rw [Check.unnamed_bind, hcan]
      refine bind_congr fun b => ?_
      cases b with
      | false => rfl
      | true => cases target <;> rfl

/-! ### Realizations do not look at names -/

mutual
/-- **The code of a node** does not depend on names. -/
theorem code_unnamed (sc : Scope) : ∀ e : Expr, e.unnamed.code sc.unnamed = (e.code sc).unnamed
  | .const none | .const (some _) | .sealed _ => by
      rw [Expr.unnamed, Expr.code, Expr.code]
      rfl
  | .param s => by
      rw [Expr.unnamed, Expr.code, Expr.code, Check.unnamed_bind, Scope.param_unnamed]
      rfl
  | .temp s => by
      rw [Expr.unnamed, Expr.code, Expr.code, Check.unnamed_bind, Scope.temp_unnamed]
      rfl
  | .convert x target => by
      rw [Expr.unnamed, Expr.code, Expr.code, Check.unnamed_bind, conversionTypes_unnamed,
        code_unnamed sc x]
      refine bind_congr fun ts => ?_
      rw [Check.unnamed_bind]
      rfl
  | .invoke name fn operands => by
      have htype : (Expr.invoke "" fn.unnamed (Expr.unnamedAll operands)).typeOf =
          ((Expr.invoke name fn operands).typeOf).unnamed := by
        rw [Expr.typeOf, Expr.typeOf, Check.unnamed_ofPanicking, Expr.type, Expr.type,
          Expr.type_unnamed]
      rw [Expr.unnamed, Expr.code, Expr.code, Check.unnamed_bind, htype, Expr.length_unnamedAll,
        code_unnamed sc fn, callParams_unnamed name]
      refine bind_congr fun t => ?_
      split
      · rfl
      · rw [Check.unnamed_bind]
        refine bind_congr fun ps => ?_
        rw [Check.unnamed_bind]
        refine bind_congr fun _ => ?_
        rw [Check.unnamed_bind, operandCodes_unnamed sc name 0 ps operands]
        rfl
  | .missing | .assign _ _ | .block _ _ => by
      rw [Expr.unnamed, Expr.code, Expr.code]
      · rfl
      all_goals simp
/-- The codes of operands do not depend on names. -/
theorem operandCodes_unnamed (sc : Scope) (name : String) :
    ∀ (i : Nat) (ts : List Ty) (es : List Expr),
    Expr.operandCodes sc.unnamed "" i ts (Expr.unnamedAll es) =
      (Expr.operandCodes sc name i ts es).unnamed
  | i, t :: ts, e :: es => by
      rw [Expr.unnamedAll, Expr.operandCodes, Expr.operandCodes, Check.unnamed_bind,
        Check.unnamed_inside, Expr.checkBind_unnamed, code_unnamed sc e]
      refine bind_congr fun _ => ?_
      rw [Check.unnamed_bind]
      refine bind_congr fun _ => ?_
      rw [Check.unnamed_bind, operandCodes_unnamed sc name (i + 1) ts es]
      rfl
  | _, [], [] | _, [], _ :: _ | _, _ :: _, [] => by
      rw [Expr.unnamedAll, Expr.operandCodes, Expr.operandCodes]
      · rfl
      all_goals simp
end

/-- **An operation** does not depend on names. -/
theorem step_unnamed (sc : Scope) (e : Expr) :
    e.unnamed.step sc.unnamed = (e.step sc).unnamed := by
  cases e with
  | assign dst src =>
      rw [Expr.unnamed, Expr.step, Expr.step, Check.unnamed_bind, Scope.temp_unnamed]
      refine bind_congr fun _ => ?_
      rw [Check.unnamed_bind, Check.unnamed_inside, ← Expr.checkBind_unnamed]
      refine bind_congr fun _ => ?_
      rw [Check.unnamed_bind, code_unnamed]
      rfl
  | invoke name fn operands =>
      rw [Expr.unnamed, Expr.step, Expr.step, Check.unnamed_bind, Expr.length_unnamedAll,
        callParams_unnamed name]
      refine bind_congr fun ps => ?_
      rw [Check.unnamed_bind, code_unnamed]
      refine bind_congr fun _ => ?_
      rw [Check.unnamed_bind, operandCodes_unnamed sc name]
      rfl
  | missing | const | sealed | param | temp | convert | block => rw [Expr.unnamed]; rfl

theorem steps_unnamed (sc : Scope) : ∀ (i : Nat) (es : List Expr),
    Expr.steps sc.unnamed i (Expr.unnamedAll es) = (Expr.steps sc i es).unnamed
  | _, [] => by rw [Expr.unnamedAll]; rfl
  | i, e :: es => by
      rw [Expr.unnamedAll, Expr.steps, Expr.steps, Check.unnamed_bind, Check.unnamed_inside,
        step_unnamed]
      refine bind_congr fun _ => ?_
      rw [Check.unnamed_bind, steps_unnamed sc (i + 1) es]
      rfl

theorem checkSignature_unnamed (l : Lambda) (sig : Option Ty) :
    l.unnamed.checkSignature sig = (l.checkSignature sig).unnamed := by
  have hlen : l.unnamed.params.length = l.params.length := List.length_map _
  unfold Lambda.checkSignature
  rw [hlen]
  split
  · rename_i t params results variadic _
    split
    · rfl
    · split
      · rfl
      · have hinputs := checkInputs_unnamed t 0 params l.params
        rw [Check.unnamed_bind]
        refine (congrArg (· >>= _) hinputs).trans (bind_congr fun _ => ?_)
        split <;> rfl
  · rfl

/-- **A realization** does not depend on names, but for those in its message. -/
theorem realize_unnamed (l : Lambda) (sig : Option Ty) :
    l.unnamed.realize sig = (l.realize sig).unnamed := by
  obtain ⟨params, _ | body⟩ := l
  · rfl
  · have hsig := checkSignature_unnamed ⟨params, some body⟩ sig
    have hsteps := steps_unnamed ⟨params, body.temps⟩ 0 body.ops
    have htypes : (body.temps.map Slot.unnamed).map (·.type) = body.temps.map (·.type) := by
      rw [List.map_map]
      rfl
    simp only [Lambda.realize, Lambda.unnamed, Option.map_some, htypes] at hsig ⊢
    rw [hsig, Check.unnamed_bind]
    refine bind_congr fun t => ?_
    rw [Check.unnamed_bind]
    exact congrArg (· >>= _) hsteps

theorem realize?_unnamed (l : Option Lambda) (sig : Option Ty) :
    realize? (l.map Lambda.unnamed) sig = (realize? l sig).unnamed := by
  cases l with
  | none => rfl
  | some l => exact realize_unnamed l sig

/-- **Names do not matter.** Let two programs differ only in the names of their inputs, temporaries
and calls. Under every signature both are accepted, and the funcs have the same type and on all
arguments and every store the same effect: the same events, store and outcome; or both are refused
with errors of the same sentinel; or realizing either breaks off with the same panic. -/
theorem realize_names {l l' : Option Lambda} (h : l.map Lambda.unnamed = l'.map Lambda.unnamed)
    (sig : Option Ty) :
    (∃ r r', realize? l sig = .ok r ∧ realize? l' sig = .ok r' ∧ r.type = r'.type ∧
      ∀ host args s, r.invoke host args s = r'.invoke host args s) ∨
    (∃ e e' k, realize? l sig = .error (.error e) ∧ realize? l' sig = .error (.error e') ∧
      e.Wraps k ∧ e'.Wraps k) ∨
    ∃ p, realize? l sig = .error (.panic p) ∧ realize? l' sig = .error (.panic p) := by
  have hsame : (realize? l sig).unnamed = (realize? l' sig).unnamed := by
    rw [← realize?_unnamed, ← realize?_unnamed, h]
  have hreports : ∀ l, (realize? l sig).Reports := by
    rintro (_ | l)
    · exact Check.reports_malformed _
    · exact l.realize_reports sig
  rcases Check.unnamed_cases hsame with ⟨r, hl, hl'⟩ | ⟨e, e', hl, hl', he⟩ | ⟨p, hl, hl'⟩
  · exact .inl ⟨r, r, hl, hl', rfl, fun _ _ _ => rfl⟩
  · obtain ⟨k, hk⟩ := hreports l e hl
    have hk' : e'.Wraps k := by
      rw [← Error.wraps_unnamed, ← he, Error.wraps_unnamed]
      exact hk
    exact .inr (.inl ⟨e, e', k, hl, hl', hk, hk'⟩)
  · exact .inr (.inr ⟨p, hl, hl'⟩)

end

open scoped Catalogue

/-- The program `nested` with one name for everything in it. -/
def clashing : Lambda :=
  let x : Slot := ⟨0, some .any, "x"⟩
  let kept : Slot := ⟨0, some .int, "x"⟩
  ⟨[x], some ⟨[kept],
    [.assign kept (.invoke "x" (.const (some answer)) [.convert (.param x) (some .int)]),
      .invoke "x" (.const (some sink))
        [.convert (.invoke "x" (.const (some answer)) [.temp kept]) (some .any)]]⟩⟩

theorem realize_names_clashing :
    (some nested).map Lambda.unnamed = (some clashing).map Lambda.unnamed ∧
    ∃ r r', nested.realize (some (.func [.any] [] false)) = .ok r ∧
      clashing.realize (some (.func [.any] [] false)) = .ok r' ∧
      ∀ host args s, r.invoke host args s = r'.invoke host args s := by
  have hsame : (some nested).map Lambda.unnamed = (some clashing).map Lambda.unnamed := rfl
  refine ⟨hsame, ?_⟩
  rcases realize_names hsame (some (.func [.any] [] false)) with
    ⟨r, r', hr, hr', -, hinvoke⟩ | ⟨e, e', k, he, -⟩ | ⟨p, hp, -⟩
  · exact ⟨r, r', hr, hr', hinvoke⟩
  · cases he
  · cases hp

end Tacit
