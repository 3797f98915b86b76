import Tacit.Proofs.Args.Decoding
import Tacit.Proofs.Compiler.Coercion
import Tacit.Proofs.Datum.Filling
import Tacit.Proofs.Datum.Shapes
import Tacit.Proofs.Dump.Written

/-!
# Arguments that a program can be called with

* `Ty.Answers`: filling a variable of the type never breaks off. This and `assign_meets`, by which a
  variable is filled with data of its own type, are all that is asked of filling.
* `assignAll_cases`: the elements become values of just the types, and what they refer to is in the
  store.
* `call_variadic`: a variadic func takes values of its parameters' types only if its slice can be an
  element of itself.
* `decode_callable`: a text is refused, or stands for arguments that any func with the parameters
  can be called with, unless it is variadic.
-/

namespace Tacit

open Data (HasType)

namespace Args

/-- The text of a list stands for the sequence of its elements. -/
theorem formula?_list (text : String) {tss : List (List Dump.Token)} {xs : List Formula}
    (h : List.Forall₂ Dump.Expresses tss xs)
    (hfor : (Dump.commaSeparated tss).head? ≠ some (.name "for"))
    (htext : Dump.render (Dump.layout
      (.openBracket :: Dump.commaSeparated tss ++ [.closeBracket])) = "[" ++ text ++ "]") :
    formula? (.ofString ("[" ++ text ++ "]")) = some (.tuple xs) := by
  rw [formula?, isBlankText_brackets, ← htext]
  exact Dump.ofText?_list h hfor

end Args

section

variable [Declarations]

/-- Whatever a variable of the type is to be filled with, it is, or there is a misfit that can be
reported. -/
def Ty.Answers (t : Ty) : Prop := ∀ d s m, Datum.fill d .free t s = .error m → m.panic? = none

/-- This is so for every fillable type. -/
theorem Ty.Fillable.answers {t : Ty} (h : t.Fillable) : t.Answers :=
  fun d s _ hm => (d.fill_meets .free t s).error hm rfl h

/-! ### Variadic funcs -/

/-- A slice for the parameter of a variadic func is bound as an element of a new slice, if it can be
one. -/
theorem bindVariadic_slice (fixed : List Value) {last : Value} {rest : Ty}
    (hlast : last.type = .slice rest) :
    bindVariadic (fixed ++ [last]) (fixed.map (·.type)) (.slice rest) =
      if (Ty.slice rest).assignable rest then
        Run.allocate (.slots [last.stored rest]) >>= fun cell =>
          pure (fixed.map (·.data) ++ [.slice cell])
      else Run.panic (.variadicOperandType (.slice rest) rest) := by
  have hlen : ¬ (fixed ++ [last]).length < (fixed.map (·.type)).length := by simp
  have hfixed : bindOperands ((fixed ++ [last]).take (fixed.map (·.type)).length)
      (fixed.map (·.type)) = .ok (fixed.map (·.data)) := by
    rw [List.length_map, List.take_left]
    exact bindOperands_self fixed
  have hmore : (fixed ++ [last]).drop (fixed.map (·.type)).length = [last] := by
    rw [List.length_map, List.drop_left]
  have hitems : [last].mapM (bindOperand .variadicOperandType · rest) =
      if (Ty.slice rest).assignable rest then .ok [last.stored rest]
      else .error (.variadicOperandType (.slice rest) rest) := by
    rw [List.mapM_cons, List.mapM_nil, bindOperand, hlast]
    split <;> rfl
  rw [bindVariadic, if_neg hlen, hfixed, Run.ofExcept_ok, pure_bind, hmore]
  simp only [hitems]
  split
  · rw [Run.ofExcept_ok, pure_bind]
  · rfl

/-- **A variadic func** that is called with values of just its parameters' types takes the slice for
the one element of a new slice, or is not called. -/
theorem Value.call_variadic {fn : Value} {fixed : List Value} {last : Value} {rest : Ty}
    {results : List Ty} {code : Nat} {captured : List Data}
    (hsig : fn.type.func? = some (fixed.map (·.type) ++ [.slice rest], results, true))
    (hdata : fn.data = .func code captured) (hlast : last.type = .slice rest) (host : Host) :
    fn.call host (fixed ++ [last]) =
      if (Ty.slice rest).assignable rest then
        Run.allocate (.slots [last.stored rest]) >>= fun cell =>
          host.call code captured (fixed.map (·.data) ++ [.slice cell]) >>= fun ds =>
            pure (results.zipWith Value.mk ds)
      else Run.panic (.variadicOperandType (.slice rest) rest) := by
  have hcall : fn.call host (fixed ++ [last]) =
      bindVariadic (fixed ++ [last]) (fixed.map (·.type)) (.slice rest) >>= fun ds =>
        host.call code captured ds >>= fun ds => pure (results.zipWith Value.mk ds) := by
    unfold Value.call
    rw [hsig, hdata]
    simp only [List.getLast?_concat, List.dropLast_concat]
  rw [hcall, bindVariadic_slice fixed hlast]
  split
  · rw [bind_assoc]
    simp only [pure_bind]
  · rfl

namespace Args

/-- One element after the other is stored, each as a value of its type. -/
theorem assignAll_cases : ∀ {ds : List Datum} {types : List Ty} (i : Nat) (s : Store),
    ds.length = types.length →
    (∃ e, assignAll i ds types s = .error e ∧
      ((∀ t ∈ types, t.isInterface = false → t.Answers) → e.panic? = none)) ∨
    ∃ vs s', assignAll i ds types s = .ok (vs, s') ∧ s.cells <+: s'.cells ∧
      vs.map (·.type) = types ∧ ∀ v ∈ vs, HasType s' v.type v.data
  | [], [], i, s, _ => .inr ⟨[], s, rfl, List.prefix_rfl, rfl, by simp⟩
  | d :: ds, t :: types, i, s, hlen => by
      rw [assignAll]
      cases hd : d.assign t s with
      | error m =>
          refine .inl ⟨.input i m, rfl, fun hanswers => ?_⟩
          rcases (d.assign_meets t s).error hd with hm | ⟨ht, hfill⟩
          · exact hm
          · exact hanswers t List.mem_cons_self ht d s m hfill
      | ok p =>
          obtain ⟨x, s₁⟩ := p
          obtain ⟨hs, hx⟩ := (d.assign_meets t s).ok hd
          rcases assignAll_cases (i + 1) s₁ (by simpa using hlen) with
            ⟨e, he, hpanic⟩ | ⟨vs, s₂, hvs, hs₁, htypes, htyped⟩
          · refine .inl ⟨e, ?_, fun hanswers => hpanic fun t' ht' =>
              hanswers t' (List.mem_cons_of_mem _ ht')⟩
            show (assignAll (i + 1) ds types s₁ >>= _) = _
            rw [he]
            rfl
          · refine .inr ⟨⟨t, x⟩ :: vs, s₂, ?_, hs.trans hs₁, by rw [List.map_cons, htypes],
              List.forall_mem_cons.mpr ⟨hx.mono hs₁, htyped⟩⟩
            show (assignAll (i + 1) ds types s₁ >>= _) = _
            rw [hvs]
            rfl

/-- **Arguments are callable.** Let `sig` be any func type. If looking for the shape of a
parameter's type comes back to where it was, decoding may not end. Otherwise a text is refused with
an error about the arguments, which is no panic if filling variables of the parameters' types never
breaks off; or it stands for one value for each parameter. Each value then has exactly the type of
its parameter, and holds data of that type, of which all that it refers to is in the store: an
interface holds nil or a value that implements it. Nothing that was in the store has changed. A func
of the type that is not nil and not variadic can be called with the values and receives them as they
are. A variadic one wants the elements of its slice instead: given the slice, it takes it for an
element if it can be one, and is not called otherwise. -/
theorem decode_callable (text : Bytes) {sig : Ty} {params results : List Ty} {variadic : Bool}
    (hsig : sig.func? = some (params, results, variadic)) (s : Store) :
    ((∃ t ∈ params, t.Recurs) ∧ decode text params s = .error .endless) ∨
    (∃ e detail, decode text params s = .error e ∧
      e.message = "invalid program arguments: " ++ detail ∧
      ((∀ t ∈ params, t.isInterface = false → t.Answers) → e.panic? = none)) ∨
    ∃ vs s', decode text params s = .ok (vs, s') ∧ s.cells <+: s'.cells ∧
      vs.map (·.type) = params ∧ (∀ v ∈ vs, HasType s' v.type v.data) ∧
      ∀ (fn : Value) (code : Nat) (captured : List Data), fn.type = sig →
        fn.data = .func code captured → ∀ host : Host,
        (variadic = false → fn.call host vs =
          host.call code captured (vs.map (·.data)) >>= fun ds =>
            pure (results.zipWith Value.mk ds)) ∧
        (variadic = true → ∀ fixed last rest, vs = fixed ++ [last] → last.type = .slice rest →
          ((Ty.slice rest).assignable rest = true → fn.call host vs =
            Run.allocate (.slots [last.stored rest]) >>= fun cell =>
              host.call code captured (fixed.map (·.data) ++ [.slice cell]) >>= fun ds =>
                pure (results.zipWith Value.mk ds)) ∧
          ((Ty.slice rest).assignable rest = false → fn.call host vs =
            Run.panic (.variadicOperandType (.slice rest) rest))) := by
  rcases decode_cases text params s with ⟨e, he, hpanic⟩ | ⟨hendless, hdecode⟩ | ⟨ds, hlen, hdecode⟩
  · exact .inr (.inl ⟨e, _, he, rfl, fun _ => hpanic⟩)
  · obtain ⟨t, ht, hend⟩ := List.any_eq_true.mp hendless
    exact .inl ⟨⟨t, ht, t.isEndless_iff.mp hend⟩, hdecode⟩
  rw [hdecode]
  rcases assignAll_cases 0 s hlen with ⟨e, he, hpanic⟩ | ⟨vs, s', hvs, hs, htypes, htyped⟩
  · exact .inr (.inl ⟨e, _, he, rfl, hpanic⟩)
  refine .inr (.inr ⟨vs, s', hvs, hs, htypes, htyped, ?_⟩)
  rintro fn code captured rfl hdata host
  constructor
  · rintro rfl
    have hbind : bindOperands vs params = .ok (vs.map (·.data)) := htypes ▸ bindOperands_self vs
    rw [Value.call_eq hdata hsig, hbind, Run.ofExcept_ok, pure_bind]
  · rintro rfl fixed last rest rfl hlast
    rw [← htypes, List.map_append, List.map_singleton, hlast] at hsig
    rw [Value.call_variadic hsig hdata hlast]
    constructor
    · exact fun hassignable => if_pos hassignable
    · exact fun hassignable => if_neg (by rw [hassignable]; exact Bool.false_ne_true)

end Args

end

namespace Args

open scoped Catalogue

/-- A func that takes a pointer and an error. -/
def pointerAndError : Ty := .func [.pointer .int, .error] [.int] false

/-- A number becomes the variable that the pointer is to, and null is no error. -/
theorem decode_callable_pointer :
    (∀ t ∈ [Ty.pointer .int, .error], t.isInterface = false → t.Answers) ∧
    decode (.ofString "[5, null]") [.pointer .int, .error] .empty =
      .ok ([⟨.pointer .int, .pointer 0 none⟩, ⟨.error, .nil⟩], ⟨[.slots [.int 5]]⟩) ∧
    HasType ⟨[.slots [.int 5]]⟩ (.pointer .int) (.pointer 0 none) ∧
    ∀ host : Host, Value.call host ⟨pointerAndError, .func 0 []⟩
        [⟨.pointer .int, .pointer 0 none⟩, ⟨.error, .nil⟩] =
      host.call 0 [] [.pointer 0 none, .nil] >>= fun ds =>
        pure ([Ty.int].zipWith Value.mk ds) := by
  have hanswers : ∀ t ∈ [Ty.pointer .int, .error], t.isInterface = false → t.Answers := by
    intro t ht hplain
    have ht' : t = .pointer .int ∨ t = .error := by simpa using ht
    rcases ht' with rfl | rfl
    · exact (Ty.fillable_basic .int).ofPointer.answers
    · cases hplain
  have hdecode : decode (.ofString "[5, null]") [.pointer .int, .error] .empty =
      .ok ([⟨.pointer .int, .pointer 0 none⟩, ⟨.error, .nil⟩], ⟨[.slots [.int 5]]⟩) := by
    have hnumber := @Dump.expresses_decimal 5 (by decide)
    have hnull := @Dump.expresses_name "null" (by decide)
    have hformula := formula?_list "5, null" (.cons hnumber (.cons hnull .nil))
      (by simp [Dump.commaSeparated]) (by decide)
    unfold decode
    rw [show "[5, null]" = "[" ++ "5, null" ++ "]" by decide, hformula]
    rfl
  rcases @decode_callable _ (.ofString "[5, null]") pointerAndError _ _ _ rfl .empty with
      ⟨-, he⟩ | ⟨e, -, he, -⟩ | ⟨vs, s', hvs, -, -, htyped, hcall⟩
  · rw [hdecode] at he
    cases he
  · rw [hdecode] at he
    cases he
  · rw [hdecode] at hvs
    cases hvs
    refine ⟨hanswers, hdecode, htyped _ List.mem_cons_self, fun host => ?_⟩
    exact (hcall ⟨pointerAndError, .func 0 []⟩ 0 [] rfl rfl host).1 rfl

/-- A func that takes any number of integers. -/
def manyInts : Ty := .func [.slice .int] [] true

/-- A list for the parameter of a variadic func is decoded, but no such func can be called with
it. -/
theorem decode_variadic_uncallable :
    decode (.ofString "[[1]]") [.slice .int] .empty =
      .ok ([⟨.slice .int, .slice 0⟩], ⟨[.slots [.int 1]]⟩) ∧
    ∀ (host : Host) (s : Store),
      (Value.call host ⟨manyInts, .func 0 []⟩ [⟨.slice .int, .slice 0⟩] s).outcome =
        .error (.variadicOperandType (.slice .int) .int) := by
  refine ⟨?_, fun host s => rfl⟩
  have hnumber := @Dump.expresses_decimal 1 (by decide)
  have hlist := Dump.expresses_list (.cons hnumber .nil) (by simp [Dump.commaSeparated])
  have hformula := formula?_list "[1]" (.cons hlist .nil) (by simp [Dump.commaSeparated])
    (by decide)
  let one : Datum := .number (.finite 512 false 1 0)
  have hconvert : convert (.tuple [.tuple [one]]) [.slice .int] = .ok [.list .number [one]] := by
    have hconvertible : (Datum.tuple [.tuple [one]]).shape.convertible
        (.tuple [wantedShape (.slice .int)]) = true := by
      rw [show wantedShape (.slice .int) = .list .number from rfl]
      simp [one, Datum.shape, shapes, Shape.convertible, Shape.convertibleWith,
        Shape.convertibleAll]
    rw [convert, Datum.convert, if_neg (by decide), List.map_singleton, if_pos hconvertible]
    rfl
  unfold decode
  rw [show "[[1]]" = "[" ++ "[1]" ++ "]" by decide, hformula]
  show (do assignAll 0 (← convert (.tuple [.tuple [one]]) [.slice .int]) [.slice .int] .empty) = _
  rw [hconvert]
  rfl

end Args

end Tacit
