import Tacit.Proofs.Compiler.Building
import Tacit.Proofs.Datum.Shapes
import Tacit.Proofs.Dump.Layout
import Tacit.Proofs.Value.Shown

/-!
# A dump lists the whole program

An assignment takes over the line of an earlier one to the same name, so a dump can only be faithful
if all assigned names differ.

* `Unwritable s p v`: the literal `v` cannot be written. Every other literal has tokens
  (`unwritable_of_error`), and a dump of compiled operations breaks off for no other reason
  (`addOperations_cases`).
* `OperationLine s op ts`: the tokens `ts` are the line of the operation `op`.
* `setAssignment_cases`, `addOperations_call`: what is asked of the lines. With `spells_layout`, by
  which laying them out changes nothing but blanks, all else rests on these.
* `addOperations_lines`: as long as names are new, every operation adds one line at the end.
* `dump_lists_program`: the dump of a compiled program has the inputs, the temporaries, and a line
  for every operation, in order.
-/

namespace Tacit

namespace Dump

/-- The tokens of a line that lists names under a title. -/
def namesLine (title : String) (names : List String) : List Token :=
  .name title :: .equal :: .openBracket :: commaSeparated (names.map fun n => [.name n]) ++
    [.closeBracket, .newline]

/-- The name that a line assigns. -/
def Entry.name? : Entry → Option String
  | assignment name _ => some name
  | operation _ => none

/-- **An assignment is a line of its own**: it takes the place of the one to the same name, and
comes last if there is none. -/
theorem setAssignment_cases (name : String) (value : List Token) (es : List Entry) :
    (∃ before old after, es = before ++ .assignment name old :: after ∧
      name ∉ before.filterMap Entry.name? ∧
      setAssignment name value es = before ++ .assignment name value :: after) ∨
    name ∉ es.filterMap Entry.name? ∧
      setAssignment name value es = es ++ [.assignment name value] := by
  induction es with
  | nil => exact .inr ⟨List.not_mem_nil, rfl⟩
  | cons e es ih =>
      -- a line that does not assign the name stays in front
      have hother : e.name? ≠ some name →
          setAssignment name value (e :: es) = e :: setAssignment name value es := by
        intro hne
        cases e with
        | assignment n v => rw [setAssignment, if_neg fun h => hne (congrArg some h)]
        | operation ts =>
            rw [setAssignment]
            simp
      by_cases hname : e.name? = some name
      · cases e with
        | operation ts => cases hname
        | assignment n v =>
            cases hname
            refine .inl ⟨[], v, es, rfl, List.not_mem_nil, ?_⟩
            rw [setAssignment, if_pos rfl]
            rfl
      · rw [hother hname]
        rcases ih with ⟨before, old, after, rfl, hbefore, hset⟩ | ⟨hnew, hset⟩
        · refine .inl ⟨e :: before, old, after, rfl, ?_, by rw [hset]; rfl⟩
          simpa [hname] using hbefore
        · refine .inr ⟨?_, by rw [hset]; rfl⟩
          simpa [hname] using hnew

theorem setAssignment_new {name : String} (value : List Token) {es : List Entry}
    (h : name ∉ es.filterMap Entry.name?) :
    setAssignment name value es = es ++ [.assignment name value] := by
  rcases setAssignment_cases name value es with ⟨before, old, after, rfl, -, -⟩ | ⟨-, hset⟩
  · exact absurd (by simp [Entry.name?]) h
  · exact hset

variable [Declarations]

/-! ### Literals -/

/-- Writing the literal breaks off with `p`: it contains itself or its type comes back to itself, so
that there is no end, or something in it is not known. -/
def Unwritable (s : Store) (p : Panic) (v : Value) : Prop :=
  ∃ u, v.content = some u ∧
    (p = .endless ∧ (u.ContainsItself s ∨ u.type.Recurs) ∨
      p = .unknownDatum ∧ ∃ d, u.datum? s = some d ∧ d.isKnown = false)

theorem shownTokens_error {v : Value} {s : Store} {p : Panic} (h : shownTokens v s = .error p) :
    p = .endless ∧ v.ContainsItself s :=
  (v.showAs_ends false s).of_error (map_error h)

/-- Every other literal has tokens. -/
theorem unwritable_of_error {v : Value} {s : Store} {p : Panic}
    (h : constTokens (some v) s = .error p) : Unwritable s p v := by
  unfold constTokens at h
  cases hshown : shownContent? (some v) with
  | none =>
      rw [hshown] at h
      cases h
  | some u =>
      rw [hshown] at h
      have hu : v.content = some u := (Option.filter_eq_some_iff.mp hshown).1
      refine ⟨u, hu, ?_⟩
      simp only [valueTokens] at h
      split at h
      · obtain ⟨hp, hself⟩ := shownTokens_error h
        exact .inl ⟨hp, .inl hself⟩
      split at h
      next hendless =>
        cases h
        exact .inl ⟨rfl, .inr (u.type.isEndless_iff.mp hendless)⟩
      cases hdatum : u.datum? s with
      | none =>
          rw [hdatum] at h
          obtain ⟨hp, hself⟩ := shownTokens_error h
          exact .inl ⟨hp, .inl hself⟩
      | some d =>
          rw [hdatum] at h
          simp only [literalTokens] at h
          split at h
          · cases h
          next hknown =>
            cases h
            exact .inr ⟨rfl, d, rfl, Bool.eq_false_iff.mpr hknown⟩

/-! ### Operations -/

/-- The operation has a literal among its operands that cannot be written. -/
def Breaks (s : Store) (p : Panic) (op : Expr) : Prop :=
  ∃ e ∈ op.operands, ∃ v, e.literal? = some v ∧ Unwritable s p v

/-- An operand has tokens, or it is a literal that cannot be written. -/
theorem operand_cases {e : Expr} (h : e.IsOperand) (s : Store) :
    (∃ ts, exprTokens s e = .ok ts) ∨
      ∃ p v, e.literal? = some v ∧ Unwritable s p v ∧ exprTokens s e = .error p := by
  rcases h with ⟨p, rfl⟩ | ⟨x, ⟨v, rfl⟩ | ⟨p, rfl⟩, he⟩
  · exact .inl ⟨_, by rw [exprTokens]⟩
  · have hconst : exprTokens s (.const (some v)) = constTokens (some v) s := by rw [exprTokens]
    cases htokens : constTokens (some v) s with
    | ok ts =>
        rcases he with rfl | ⟨t, rfl⟩
        · exact .inl ⟨ts, hconst.trans htokens⟩
        · exact .inl ⟨_, by rw [exprTokens, hconst, htokens]; rfl⟩
    | error p =>
        refine .inr ⟨p, v, ?_, unwritable_of_error htokens, ?_⟩
        · rcases he with rfl | ⟨t, rfl⟩ <;> rfl
        · rcases he with rfl | ⟨t, rfl⟩
          · exact hconst.trans htokens
          · rw [exprTokens, hconst, htokens]
            rfl
  · left
    rcases he with rfl | ⟨t, rfl⟩
    · exact ⟨_, by rw [exprTokens]⟩
    · exact ⟨_, by rw [exprTokens, exprTokens]; rfl⟩

theorem operands_cases (s : Store) : ∀ {es : List Expr}, (∀ e ∈ es, e.IsOperand) →
    (∃ tss, operandTokens s es = .ok tss) ∨
      ∃ p, operandTokens s es = .error p ∧
        ∃ e ∈ es, ∃ v, e.literal? = some v ∧ Unwritable s p v
  | [], _ => .inl ⟨[], by rw [operandTokens]⟩
  | e :: es, h => by
      rcases operand_cases (h e List.mem_cons_self) s with ⟨ts, hts⟩ | ⟨p, v, hv, hp, he⟩
      · rcases operands_cases s fun e' he' => h e' (List.mem_cons_of_mem _ he') with
          ⟨tss, htss⟩ | ⟨p, hp, e', he', hv⟩
        · exact .inl ⟨ts :: tss, by rw [operandTokens, hts, htss]; rfl⟩
        · refine .inr ⟨p, ?_, e', List.mem_cons_of_mem _ he', hv⟩
          rw [operandTokens, hts, hp]
          rfl
      · refine .inr ⟨p, ?_, e, List.mem_cons_self, v, hv, hp⟩
        rw [operandTokens, he]
        rfl

/-- A call has tokens, or the dump of it breaks off. -/
theorem call_cases (s : Store) (name : String) (fn : Expr) {operands : List Expr}
    (h : ∀ e ∈ operands, e.IsOperand) :
    (∃ ts, exprTokens s (.invoke name fn operands) = .ok ts) ∨
      ∃ p, exprTokens s (.invoke name fn operands) = .error p ∧
        Breaks s p (.invoke name fn operands) := by
  rcases operands_cases s h with ⟨tss, htss⟩ | ⟨p, hp, hbreaks⟩
  · exact .inl ⟨_, by rw [exprTokens, htss]; rfl⟩
  · exact .inr ⟨p, by rw [exprTokens, hp]; rfl, hbreaks⟩

theorem addOperations_assign (s : Store) (es : List Entry) (dst : Slot) (src : Expr)
    (ops : List Expr) : addOperations s es (.assign dst src :: ops) =
      exprTokens s src >>= fun ts => addOperations s (setAssignment dst.name ts es) ops := rfl

/-- **Any other operation is a line of its own**, which comes last. -/
theorem addOperations_call (s : Store) (es : List Entry) (name : String) (fn : Expr)
    (operands ops : List Expr) : addOperations s es (.invoke name fn operands :: ops) =
      exprTokens s (.invoke name fn operands) >>= fun ts =>
        addOperations s (es ++ [.operation ts]) ops := rfl

/-- The dump of compiled operations is made, or one of them breaks it off. -/
theorem addOperations_cases (s : Store) : ∀ {ops : List Expr} (es : List Entry),
    (∀ op ∈ ops, op.IsApplication) →
    (∃ es', addOperations s es ops = .ok es') ∨
      ∃ p, addOperations s es ops = .error p ∧ ∃ op ∈ ops, Breaks s p op
  | [], es, _ => .inl ⟨es, rfl⟩
  | op :: ops, es, happ => by
      obtain ⟨name, fn, operands, hop, hoperands⟩ := happ op List.mem_cons_self
      have hrest : ∀ es, (∃ es', addOperations s es ops = .ok es') ∨
          ∃ p, addOperations s es ops = .error p ∧ ∃ op' ∈ op :: ops, Breaks s p op' := by
        intro es
        rcases addOperations_cases s es fun op' hop' => happ op' (List.mem_cons_of_mem _ hop') with
          hok | ⟨p, hp, op', hop', hbreaks⟩
        · exact .inl hok
        · exact .inr ⟨p, hp, op', List.mem_cons_of_mem _ hop', hbreaks⟩
      rcases call_cases s name (.const (some fn)) hoperands with ⟨ts, hts⟩ | ⟨p, hp, hbreaks⟩
      · rcases hop with rfl | ⟨dst, rfl⟩
        · rw [addOperations_call, hts]
          exact hrest _
        · rw [addOperations_assign, hts]
          exact hrest _
      · rcases hop with rfl | ⟨dst, rfl⟩
        · rw [addOperations_call, hp]
          exact .inr ⟨p, rfl, _, List.mem_cons_self, hbreaks⟩
        · rw [addOperations_assign, hp]
          exact .inr ⟨p, rfl, _, List.mem_cons_self, hbreaks⟩

/-- The tokens of the line of an operation: an assignment with the name it assigns, a call bare. -/
inductive OperationLine (s : Store) : Expr → List Token → Prop where
  | assignment {dst : Slot} {src : Expr} {ts : List Token} : exprTokens s src = .ok ts →
      OperationLine s (.assign dst src) (.name dst.name :: .equal :: ts ++ [.newline])
  | call {name : String} {fn : Expr} {operands : List Expr} {ts : List Token} :
      exprTokens s (.invoke name fn operands) = .ok ts →
      OperationLine s (.invoke name fn operands) (ts ++ [.newline])

/-- Operations whose assigned names are new add a line each. -/
theorem addOperations_lines (s : Store) (es : List Entry) {es' : List Entry} {ops : List Expr}
    (happ : ∀ op ∈ ops, op.IsApplication)
    (hnodup : ((ops.filterMap Expr.dst?).map (·.name)).Nodup)
    (hnew : ∀ n ∈ (ops.filterMap Expr.dst?).map (·.name), n ∉ es.filterMap Entry.name?)
    (hok : addOperations s es ops = .ok es') :
    ∃ new, es' = es ++ new ∧ List.Forall₂ (OperationLine s) ops (new.map Entry.tokens) := by
  induction ops generalizing es with
  | nil =>
      rw [addOperations] at hok
      cases hok
      exact ⟨[], (List.append_nil _).symm, .nil⟩
  | cons op ops ih =>
      obtain ⟨name, fn, operands, hop, hoperands⟩ := happ op List.mem_cons_self
      have happ' : ∀ op' ∈ ops, op'.IsApplication :=
        fun op' hop' => happ op' (List.mem_cons_of_mem _ hop')
      cases hcall : exprTokens s (.invoke name (.const (some fn)) operands) with
      | error p =>
          rcases hop with rfl | ⟨dst, rfl⟩
          · rw [addOperations_call, hcall] at hok
            cases hok
          · rw [addOperations_assign, hcall] at hok
            cases hok
      | ok ts =>
          rcases hop with rfl | ⟨dst, rfl⟩
          · rw [List.filterMap_cons_none rfl] at hnodup hnew
            rw [addOperations_call, hcall] at hok
            replace hok : addOperations s (es ++ [.operation ts]) ops = .ok es' := hok
            obtain ⟨new, rfl, hlines⟩ := ih (es ++ [.operation ts]) happ' hnodup
              (fun n hn => by simpa [Entry.name?] using hnew n hn) hok
            refine ⟨.operation ts :: new, ?_, .cons (.call hcall) hlines⟩
            rw [List.append_assoc]
            rfl
          · simp only [List.filterMap_cons, Expr.dst?, List.map_cons] at hnodup hnew
            obtain ⟨hdst, hnodup⟩ := List.nodup_cons.mp hnodup
            rw [addOperations_assign, hcall] at hok
            replace hok : addOperations s (setAssignment dst.name ts es) ops = .ok es' := hok
            rw [setAssignment_new _ (hnew dst.name List.mem_cons_self)] at hok
            obtain ⟨new, rfl, hlines⟩ := ih (es ++ [.assignment dst.name ts]) happ' hnodup
              (fun n hn => by
                -- a later name is new among the lines so far, and it is not the one just assigned
                have hne : n ≠ dst.name := fun h => hdst (h ▸ hn)
                simpa [Entry.name?, hne] using hnew n (List.mem_cons_of_mem _ hn)) hok
            refine ⟨.assignment dst.name ts :: new, ?_, .cons (.assignment hcall) hlines⟩
            rw [List.append_assoc]
            rfl

end Dump

namespace Compiler

open Dump

/-! ### Names -/

/-- The names of the first `n` slots of a letter. -/
def slotNames (letter : String) (n : Nat) : List String :=
  (List.range n).map fun k => letter ++ Nat.repr k

theorem nodup_slotNames (letter : String) (n : Nat) : (slotNames letter n).Nodup := by
  refine List.Nodup.map (fun a b h => ?_) List.nodup_range
  have hrepr : Nat.repr a = Nat.repr b := (String.append_right_inj letter).mp h
  have hdigits : Nat.toDigits 10 a = Nat.toDigits 10 b := by
    rw [← Nat.toList_repr, ← Nat.toList_repr, hrepr]
  have hvalue := congrArg (Nat.ofDigitChars 10 · 0) hdigits
  simpa [Nat.ofDigitChars_toDigits] using hvalue

/-- No temporary has the title of one of the first two lines. -/
theorem notMem_slotNames {title : String} (h : title.toList.head? ≠ some 'o') (n : Nat) :
    title ∉ slotNames "o" n := by
  intro hmem
  obtain ⟨k, -, rfl⟩ := List.mem_map.mp hmem
  exact h (by simp)

theorem exists_number {letter : String} {slots : List Slot}
    (h : slots.map (·.name) = slotNames letter slots.length) {p : Slot} (hp : p ∈ slots) :
    ∃ k, p.name = letter ++ Nat.repr k := by
  have hname : p.name ∈ slotNames letter slots.length := h ▸ List.mem_map_of_mem hp
  obtain ⟨k, -, hk⟩ := List.mem_map.mp hname
  exact ⟨k, hk.symm⟩

theorem tokens_names (title : String) (slots : List Slot) :
    (Dump.Entry.assignment title (nameList slots)).tokens =
      namesLine title (slots.map (·.name)) := by
  simp [Entry.tokens, nameList, namesLine, Function.comp_def]

variable [Declarations]

theorem names_inputs (settings : Settings) (calls : List Call) :
    ((new settings).performAll calls).inputs.map (·.name) =
      slotNames "i" ((new settings).performAll calls).inputs.length := by
  obtain ⟨ts, hts⟩ := (formed_performAll settings calls).inputs
  rw [hts]
  exact names_numbered "i" ts

theorem names_temps (settings : Settings) (calls : List Call) :
    ((new settings).performAll calls).temps.map (·.name) =
      slotNames "o" ((new settings).performAll calls).temps.length := by
  obtain ⟨ts, hts⟩ := (formed_performAll settings calls).temps
  rw [hts]
  exact names_numbered "o" ts

/-! ### Dumps -/

/-- The first two lines of a dump. -/
def titleEntries (c : Compiler) : List Dump.Entry :=
  [.assignment "params" (nameList c.inputs), .assignment "locals" (nameList c.temps)]

theorem programEntries_assemble (c : Compiler) (s : Store) :
    programEntries s c.assemble = addOperations s c.titleEntries c.ops := rfl

/-- The dump of a program of applications is made, or one of its operations breaks it off. -/
theorem program_cases {c : Compiler} (h : ∀ op ∈ c.ops, op.IsApplication) (s : Store) :
    (∃ text, Dump.program s c.assemble = .ok text) ∨
      ∃ p, Dump.program s c.assemble = .error p ∧ ∃ op ∈ c.ops, Breaks s p op := by
  rw [Dump.program, programEntries_assemble]
  rcases addOperations_cases s c.titleEntries h with ⟨es, hes⟩ | ⟨p, hp, hbreaks⟩
  · exact .inl ⟨_, by rw [hes]; rfl⟩
  · exact .inr ⟨p, by rw [hp]; rfl, hbreaks⟩

theorem breaks_of_error {c : Compiler} (h : ∀ op ∈ c.ops, op.IsApplication) {s : Store} {p : Panic}
    (hp : Dump.program s c.assemble = .error p) : ∃ op ∈ c.ops, Breaks s p op := by
  rcases program_cases h s with ⟨text, htext⟩ | ⟨q, hq, hbreaks⟩
  · rw [hp] at htext
    cases htext
  · rw [hp] at hq
    cases hq
    exact hbreaks

/-- **A dump lists the whole program in order.** After any run of calls, the dump of the program
spells a line with the names of the inputs, a line with the names of the temporaries, and a line for
each operation in the order of execution; nothing else, and nothing twice. The assignments among the
operations assign the temporaries in order. The one thing that can come in between is a literal
that cannot be written: one with something in it that is not known, or without an end. -/
theorem dump_lists_program (settings : Settings) (calls : List Call) (s : Store) :
    let c := (new settings).performAll calls
    (∃ p, Dump.program s c.assemble = .error p ∧ ∃ op ∈ c.ops, Breaks s p op) ∨
    ∃ text lines, Dump.program s c.assemble = .ok text ∧
      List.Forall₂ (OperationLine s) c.ops lines ∧
      (c.ops.filterMap Expr.dst?).map (·.name) = slotNames "o" c.temps.length ∧
      Spells (namesLine "params" (slotNames "i" c.inputs.length) ++
        namesLine "locals" (slotNames "o" c.temps.length) ++ lines.flatten) text := by
  intro c
  have hused := used_performAll settings calls
  have hnames : (c.ops.filterMap Expr.dst?).map (·.name) = slotNames "o" c.temps.length := by
    rw [hused.assigned, names_temps settings calls]
  -- no temporary is called like one of the titles, so its assignment does not take their lines over
  have htitles : ∀ n ∈ slotNames "o" c.temps.length,
      n ∉ c.titleEntries.filterMap Entry.name? := by
    intro n hn
    have hparams : n ≠ "params" := fun h => notMem_slotNames (by decide) _ (h ▸ hn)
    have hlocals : n ≠ "locals" := fun h => notMem_slotNames (by decide) _ (h ▸ hn)
    simp [titleEntries, Entry.name?, hparams, hlocals]
  rw [Dump.program, programEntries_assemble]
  rcases addOperations_cases s c.titleEntries hused.ops with ⟨es, hes⟩ | ⟨p, hp, hbreaks⟩
  · right
    obtain ⟨new, rfl, hlines⟩ := addOperations_lines s c.titleEntries hused.ops
      (hnames ▸ nodup_slotNames "o" _) (hnames ▸ htitles) hes
    have htokens : (c.titleEntries ++ new).flatMap Entry.tokens =
        namesLine "params" (slotNames "i" c.inputs.length) ++
          namesLine "locals" (slotNames "o" c.temps.length) ++ (new.map Entry.tokens).flatten := by
      rw [List.flatMap_append, titleEntries, List.flatMap_cons, List.flatMap_cons, List.flatMap_nil,
        List.append_nil, tokens_names, tokens_names, names_inputs settings calls,
        names_temps settings calls, List.flatMap_def]
    refine ⟨_, new.map Entry.tokens, ?_, hlines, hnames, spells_layout _⟩
    rw [hes, ← htokens]
    rfl
  · exact .inl ⟨p, by rw [hp]; rfl, hbreaks⟩

end Compiler

end Tacit
