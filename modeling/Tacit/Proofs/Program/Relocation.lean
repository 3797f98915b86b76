import Tacit.Proofs.Program.Meaning

/-!
# Moving the cells of a run

What a run does, when the cells it takes are at other addresses.

* `Data.rename σ`: data with every address `a` replaced by `σ a`. Nothing happens to data whose
  addresses `σ` leaves alone (`Data.rename_eq_self`).
* `Relocation`: cells put into a store behind its first cells, the base. The addresses of the base
  stay, all others move up. A renamed address leads to the renamed cell (`getElem?_store`), so
  nothing that follows addresses sees a difference.
* `Relocation.Moves g φ x y`: the run `x` changes no cell that is there, and `y` does in a store
  that is relocated what `x` does in the store itself. Runs that do so can be put one after another
  (`Moves.bind`).
* `apply_moves`, `cast_moves`: conversions do.
-/

namespace Tacit

/-! ### Renaming addresses -/

namespace Data

mutual
/-- The data with every address `a` replaced by `σ a`. -/
def rename (σ : Addr → Addr) : Data → Data
  | tuple ps => tuple (renameAll σ ps)
  | slice a => slice (σ a)
  | map a => map (σ a)
  | pointer a l => pointer (σ a) l
  | channel a => channel (σ a)
  | func c ps => func c (renameAll σ ps)
  | boxed t d => boxed t (d.rename σ)
  | d => d
/-- The same for every element of a list. -/
def renameAll (σ : Addr → Addr) : List Data → List Data
  | [] => []
  | d :: ds => d.rename σ :: renameAll σ ds
end

mutual
/-- The addresses in data. -/
def addrs : Data → List Addr
  | tuple ps | func _ ps => addrsAll ps
  | slice a | map a | pointer a _ | channel a => [a]
  | boxed _ d => d.addrs
  | _ => []
/-- The addresses in a list of data. -/
def addrsAll : List Data → List Addr
  | [] => []
  | d :: ds => d.addrs ++ addrsAll ds
end

variable {σ τ : Addr → Addr}

theorem renameAll_eq_map (σ : Addr → Addr) : ∀ ds : List Data, renameAll σ ds = ds.map (rename σ)
  | [] => rfl
  | d :: ds => by rw [renameAll, renameAll_eq_map σ ds, List.map_cons]

mutual
theorem rename_rename (σ τ : Addr → Addr) : ∀ d : Data,
    (d.rename σ).rename τ = d.rename (τ ∘ σ)
  | tuple ps | func _ ps => by simp only [rename, renameAll_renameAll σ τ ps]
  | boxed _ d => by simp only [rename, rename_rename σ τ d]
  | slice _ | map _ | pointer _ _ | channel _ => by simp only [rename, Function.comp_apply]
  | nil | bool _ | int _ | float32 _ | float64 _ | complex64 _ _ | complex128 _ _ | text _ => rfl
theorem renameAll_renameAll (σ τ : Addr → Addr) : ∀ ds : List Data,
    renameAll τ (renameAll σ ds) = renameAll (τ ∘ σ) ds
  | [] => rfl
  | d :: ds => by simp only [renameAll, rename_rename σ τ d, renameAll_renameAll σ τ ds]
end

mutual
/-- Data whose addresses are left alone is left alone. -/
theorem rename_eq_self : ∀ d : Data, (∀ a ∈ d.addrs, σ a = a) → d.rename σ = d
  | tuple ps, h | func _ ps, h => by
      simp only [addrs] at h
      simp only [rename, renameAll_eq_self ps h]
  | boxed _ d, h => by
      simp only [addrs] at h
      simp only [rename, rename_eq_self d h]
  | slice a, h | map a, h | pointer a _, h | channel a, h => by
      simp only [rename, h a (by simp [addrs])]
  | nil, _ | bool _, _ | int _, _ | float32 _, _ | float64 _, _ | complex64 _ _, _
  | complex128 _ _, _ | text _, _ => rfl
theorem renameAll_eq_self : ∀ ds : List Data, (∀ a ∈ addrsAll ds, σ a = a) → renameAll σ ds = ds
  | [], _ => rfl
  | d :: ds, h => by
      simp only [addrsAll, List.forall_mem_append] at h
      simp only [renameAll, rename_eq_self d h.1, renameAll_eq_self ds h.2]
end

mutual
/-- Moving data by `n` is renaming its addresses. -/
theorem shift_eq_rename (n : Nat) : ∀ d : Data, d.shift n = d.rename (· + n)
  | tuple ps | func _ ps => by simp only [shift, rename, shiftAll_eq_renameAll n ps]
  | boxed _ d => by simp only [shift, rename, shift_eq_rename n d]
  | slice _ | map _ | pointer _ _ | channel _ => by simp only [shift, rename]
  | nil | bool _ | int _ | float32 _ | float64 _ | complex64 _ _ | complex128 _ _ | text _ => rfl
theorem shiftAll_eq_renameAll (n : Nat) : ∀ ds : List Data, shiftAll n ds = renameAll (· + n) ds
  | [] => rfl
  | d :: ds => by simp only [shiftAll, renameAll, shift_eq_rename n d, shiftAll_eq_renameAll n ds]
end

end Data

/-- There are no addresses in the data of unset variables. -/
theorem Ty.rename_zero [Declarations] (σ : Addr → Addr) (t : Ty) : t.zero.rename σ = t.zero := by
  induction t using Ty.zero_induction with
  | basic b => cases b <;> rfl
  | array n t ih =>
      show Data.tuple (Data.renameAll σ (List.replicate n t.zero)) =
        .tuple (List.replicate n t.zero)
      rw [Data.renameAll_eq_map, List.map_replicate]
      cases n with
      | zero => rfl
      | succ n => rw [ih n.succ_ne_zero]
  | struct fs ih =>
      show Data.tuple (Data.renameAll σ (Ty.zeros fs)) = .tuple (Ty.zeros fs)
      rw [Data.renameAll_eq_map, Ty.zeros_eq_map, List.map_map]
      exact congrArg Data.tuple (List.map_congr_left ih)
  | declared d ih => rwa [← Ty.zero_underlying]
  | nil t h =>
      rw [h]
      rfl

/-- The value with its addresses renamed. -/
def Value.rename (σ : Addr → Addr) (v : Value) : Value := ⟨v.type, v.data.rename σ⟩

/-- The cell with its addresses renamed. -/
def Cell.rename (σ : Addr → Addr) : Cell → Cell
  | slots items => slots (items.map (Data.rename σ))
  | entries pairs => entries (pairs.map fun p => (p.1.rename σ, p.2.rename σ))

/-- The addresses in a cell. -/
def Cell.addrs : Cell → List Addr
  | slots items => items.flatMap Data.addrs
  | entries pairs => pairs.flatMap fun p => p.1.addrs ++ p.2.addrs

/-- No address in the store is one of a cell that is not there. -/
def Store.Closed (s : Store) : Prop := ∀ c ∈ s.cells, ∀ a ∈ c.addrs, a < s.cells.length

/-- The frame with its addresses renamed. -/
def Frame.rename (σ : Addr → Addr) (fr : Frame) : Frame :=
  ⟨fr.params.map (Value.rename σ), fr.temps.map (Value.rename σ)⟩

section

variable {σ : Addr → Addr}

theorem Value.rename_eq_self (v : Value) (h : ∀ a ∈ v.data.addrs, σ a = a) : v.rename σ = v := by
  rw [Value.rename, v.data.rename_eq_self h]

theorem Cell.rename_eq_self : ∀ c : Cell, (∀ a ∈ c.addrs, σ a = a) → c.rename σ = c
  | slots items, h => by
      have hitems : ∀ d ∈ items, d.rename σ = d := fun d hd =>
        d.rename_eq_self fun a ha => h a (List.mem_flatMap.mpr ⟨d, hd, ha⟩)
      rw [Cell.rename, List.map_congr_left hitems, List.map_id']
  | entries pairs, h => by
      have hpairs : ∀ p ∈ pairs, (p.1.rename σ, p.2.rename σ) = p := by
        rintro ⟨k, v⟩ hp
        have hkv : ∀ a ∈ k.addrs ++ v.addrs, σ a = a := fun a ha =>
          h a (List.mem_flatMap.mpr ⟨(k, v), hp, ha⟩)
        rw [List.forall_mem_append] at hkv
        rw [k.rename_eq_self hkv.1, v.rename_eq_self hkv.2]
      rw [Cell.rename, List.map_congr_left hpairs, List.map_id']

end

/-! ### Relocations -/

/-- Cells that are put into a store, behind its first `base` cells. -/
structure Relocation where
  base : Nat
  extra : List Cell

namespace Relocation

variable (g : Relocation) {α β γ δ : Type}

/-- Where a cell is found. -/
def addr (a : Addr) : Addr := if a < g.base then a else a + g.extra.length

/-- The store with the cells put into it. -/
def store (s : Store) : Store :=
  ⟨(s.cells.take g.base).map (Cell.rename g.addr) ++ g.extra ++
    (s.cells.drop g.base).map (Cell.rename g.addr)⟩

/-- The event as it is seen in such a store. -/
def event : Event → Event
  | .called word operands s => .called word (operands.map (Value.rename g.addr)) (g.store s)
  | .wrote text => .wrote text

/-- What a run leaves, in such a store; `φ` says what becomes of its result. -/
def effect (φ : α → β) (e : Effect α) : Effect β :=
  ⟨e.events.map g.event, g.store e.store, e.outcome.map φ⟩

variable {g} {s : Store}

theorem addr_of_lt {a : Addr} (h : a < g.base) : g.addr a = a := if_pos h

theorem addr_of_le {a : Addr} (h : g.base ≤ a) : g.addr a = a + g.extra.length :=
  if_neg (Nat.not_lt.mpr h)

theorem length_store (h : g.base ≤ s.cells.length) :
    (g.store s).cells.length = g.addr s.cells.length := by
  rw [addr_of_le h]
  simp only [store, List.length_append, List.length_map, List.length_take, List.length_drop]
  omega

theorem store_append (h : g.base ≤ s.cells.length) (cs : List Cell) :
    g.store ⟨s.cells ++ cs⟩ = ⟨(g.store s).cells ++ cs.map (Cell.rename g.addr)⟩ := by
  simp only [store, List.take_append_of_le_length h, List.drop_append_of_le_length h,
    List.map_append, List.append_assoc]

theorem getElem?_store (h : g.base ≤ s.cells.length) (a : Addr) :
    (g.store s).cells[g.addr a]? = s.cells[a]?.map (Cell.rename g.addr) := by
  have hlen : (s.cells.take g.base).length = g.base := by rw [List.length_take]; omega
  by_cases ha : a < g.base
  · rw [addr_of_lt ha, store, List.append_assoc,
      List.getElem?_append_left (by rw [List.length_map, hlen]; exact ha), List.getElem?_map,
      List.getElem?_take_of_lt ha]
  · have hle : g.base ≤ a := Nat.le_of_not_lt ha
    rw [addr_of_le hle, store,
      List.getElem?_append_right (by rw [List.length_append, List.length_map, hlen]; omega),
      List.getElem?_map, List.getElem?_drop, List.length_append, List.length_map, hlen]
    congr 2
    omega

theorem slots_store (h : g.base ≤ s.cells.length) (a : Addr) :
    (g.store s).slots (g.addr a) = (s.slots a).map (Data.rename g.addr) := by
  rw [Store.slots, Store.slots, getElem?_store h]
  rcases s.cells[a]? with _ | ⟨_ | _⟩ <;> rfl

theorem sliceItems_store (h : g.base ≤ s.cells.length) (d : Data) :
    (g.store s).sliceItems (d.rename g.addr) = (s.sliceItems d).map (Data.rename g.addr) := by
  cases d with
  | slice a => exact slots_store h a
  | _ => rfl

/-- Behind a store without dangling addresses, new cells change nothing in it. -/
theorem store_of_closed (hbase : g.base = s.cells.length) (hs : s.Closed) :
    g.store s = ⟨s.cells ++ g.extra⟩ := by
  have hcells : ∀ c ∈ s.cells, c.rename g.addr = c := fun c hc =>
    c.rename_eq_self fun a ha => addr_of_lt (hbase ▸ hs c hc a ha)
  rw [store, hbase, List.take_length, List.drop_length, List.map_congr_left hcells, List.map_id',
    List.map_nil, List.append_nil]

/-! ### Runs in relocated stores -/

/-- The first run changes no cell that is there, and the second does in the relocated store what the
first does in the store itself. `φ` says what becomes of the result. -/
structure Moves (g : Relocation) (φ : α → β) (x : Run α) (y : Run β) : Prop where
  keeps : ∀ s, g.base ≤ s.cells.length → s.cells <+: (x s).store.cells
  moved : ∀ s, g.base ≤ s.cells.length → y (g.store s) = g.effect φ (x s)

section

variable {φ : α → β} {ψ : γ → δ}

theorem moves_pure (a : α) : g.Moves φ (pure a) (pure (φ a)) :=
  ⟨fun _ _ => List.prefix_rfl, fun _ _ => rfl⟩

theorem moves_pure_of_eq {a : α} {b : β} (h : φ a = b) : g.Moves φ (pure a) (pure b) :=
  h ▸ moves_pure a

theorem moves_panic (φ : α → β) (p : Panic) : g.Moves φ (Run.panic p) (Run.panic p) :=
  ⟨fun _ _ => List.prefix_rfl, fun _ _ => rfl⟩

theorem moves_ofExcept (φ : α → β) (x : Except Panic α) :
    g.Moves φ (Run.ofExcept x) (Run.ofExcept (x.map φ)) := by
  cases x with
  | ok a => exact moves_pure a
  | error p => exact moves_panic φ p

/-- **One run after another.** -/
theorem Moves.bind {x : Run α} {y : Run β} {f : α → Run γ} {f' : β → Run δ} (h : g.Moves φ x y)
    (hf : ∀ a, g.Moves ψ (f a) (f' (φ a))) : g.Moves ψ (x >>= f) (y >>= f') := by
  constructor
  · intro s hs
    have hkeeps := h.keeps s hs
    rw [Run.bind_apply]
    split
    · exact hkeeps.trans ((hf _).keeps _ (Nat.le_trans hs hkeeps.length_le))
    · exact hkeeps
  · intro s hs
    have hs' := Nat.le_trans hs (h.keeps s hs).length_le
    rw [Run.bind_apply, Run.bind_apply, h.moved s hs]
    cases hout : (x s).outcome with
    | error p => simp [effect, hout, Except.map]
    | ok a => simp [effect, hout, Except.map, (hf a).moved _ hs']

theorem moves_allocate (c : Cell) :
    g.Moves g.addr (Run.allocate c) (Run.allocate (c.rename g.addr)) := by
  refine ⟨fun s _ => List.prefix_append _ _, fun s hs => ?_⟩
  simp only [Run.allocate, effect, List.map_nil, store_append hs, length_store hs, List.map_cons,
    Except.map]

theorem moves_emit (e : Event) : g.Moves id (Run.emit e) (Run.emit (g.event e)) :=
  ⟨fun _ _ => List.prefix_rfl, fun _ _ => rfl⟩

/-- A run that looks at the store. -/
theorem moves_read {f : Store → Run γ} {f' : Store → Run δ}
    (hf : ∀ s, g.base ≤ s.cells.length → g.Moves ψ (f s) (f' (g.store s))) :
    g.Moves ψ (Run.store >>= f) (Run.store >>= f') := by
  have hread : ∀ {ε : Type} (k : Store → Run ε) (s : Store), (Run.store >>= k) s = k s s :=
    fun k s => rfl
  refine ⟨fun s hs => ?_, fun s hs => ?_⟩
  · rw [hread]
    exact (hf s hs).keeps s hs
  · rw [hread, hread]
    exact (hf s hs).moved s hs

end

/-! ### Conversions -/

/-- There are no addresses in numbers. -/
theorem rename_ofDouble (σ : Addr → Addr) (b : Basic) (bits : Nat) :
    (b.ofDouble bits).rename σ = b.ofDouble bits := by
  unfold Basic.ofDouble
  split <;> rfl

theorem rename_ofReal (σ : Addr → Addr) (b : Basic) (bits : Nat) :
    (b.ofReal bits).rename σ = b.ofReal bits := by
  unfold Basic.ofReal
  split
  · rfl
  · exact rename_ofDouble σ b bits

theorem rename_ofNumber (σ : Addr → Addr) (b : Basic) (d : Data) :
    b.ofNumber (d.rename σ) = (b.ofNumber d).rename σ := by
  cases d with
  | int n =>
      simp only [Data.rename, Basic.ofNumber]
      split
      · rfl
      · exact (rename_ofDouble σ b _).symm
  | float64 bits => exact (rename_ofReal σ b _).symm
  | float32 bits =>
      simp only [Data.rename, Basic.ofNumber]
      split
      · rfl
      · exact (rename_ofReal σ b _).symm
  | complex128 re im | complex64 re im =>
      simp only [Data.rename, Basic.ofNumber]
      split <;> rfl
  | _ => rfl

theorem rename_boxed (σ : Addr → Addr) (v : Value) : (v.rename σ).boxed = v.boxed.rename σ := by
  unfold Value.boxed
  rw [Value.rename]
  split <;> rfl

theorem toByte_rename (σ : Addr → Addr) (d : Data) : (d.rename σ).toByte = d.toByte := by
  cases d <;> rfl

theorem toCharBytes_rename (σ : Addr → Addr) (d : Data) :
    (d.rename σ).toCharBytes = d.toCharBytes := by
  cases d <;> rfl

/-- A new slice of integers. -/
theorem moves_integers {ι : Type} (f : ι → Int) (is : List ι) : g.Moves (Data.rename g.addr)
    (Data.slice <$> Run.allocate (.slots (is.map fun i => .int (f i))))
    (Data.slice <$> Run.allocate (.slots (is.map fun i => .int (f i)))) := by
  have hcell : (Cell.slots (is.map fun i => .int (f i))).rename g.addr =
      .slots (is.map fun i => .int (f i)) := by
    rw [Cell.rename, List.map_map]
    rfl
  have halloc := @moves_allocate g (.slots (is.map fun i => .int (f i)))
  rw [hcell] at halloc
  rw [map_eq_pure_bind]
  exact halloc.bind fun a => moves_pure _

/-- **Carrying a conversion out.** -/
theorem apply_moves (c : Ty.Conversion) (v : Value) :
    g.Moves (Data.rename g.addr) (v.apply c) ((v.rename g.addr).apply c) := by
  obtain ⟨t, d⟩ := v
  cases c with
  | number target =>
      simp only [Value.apply, Value.rename, rename_ofNumber]
      exact moves_pure _
  | textToBytes =>
      cases d with
      | text s => exact moves_integers _ s
      | _ => exact moves_pure _
  | textToRunes =>
      cases d with
      | text s => exact moves_integers _ s.runes
      | _ => exact moves_pure _
  | bytesToText =>
      refine moves_read fun s hs => ?_
      simp only [Value.rename, sliceItems_store hs, List.map_map, Function.comp_def, toByte_rename]
      exact moves_pure _
  | runesToText =>
      refine moves_read fun s hs => ?_
      simp only [Value.rename, sliceItems_store hs, List.flatMap_map, toCharBytes_rename]
      exact moves_pure _
  | sliceToArray n =>
      refine moves_read fun s hs => ?_
      simp only [Value.rename, sliceItems_store hs, List.length_map, ← List.map_take]
      split
      · exact moves_panic _ _
      · rw [← Data.renameAll_eq_map]
        exact moves_pure _
  | sliceToArrayPointer n =>
      refine moves_read fun s hs => ?_
      simp only [Value.rename, sliceItems_store hs, List.length_map]
      split
      · exact moves_panic _ _
      · cases d <;> exact moves_pure _
  | relabel => exact moves_pure _
  | box =>
      simp only [Value.apply, rename_boxed]
      exact moves_pure _

theorem content_rename (σ : Addr → Addr) (v : Value) :
    (v.rename σ).content = v.content.map (Value.rename σ) := by
  obtain ⟨t, d⟩ := v
  by_cases h : t.isInterface = true
  · cases d <;> simp [Value.content, Value.rename, Data.rename, h]
  · simp [Value.content, Value.rename, h]

variable [Declarations]

theorem rename_stored (σ : Addr → Addr) (v : Value) (t : Ty) :
    (v.rename σ).stored t = (v.stored t).rename σ := by
  unfold Value.stored
  rw [rename_boxed]
  rw [Value.rename]
  split <;> rfl

theorem convert_moves (v : Value) (t : Ty) :
    g.Moves (Value.rename g.addr) (v.convert t) ((v.rename g.addr).convert t) := by
  unfold Value.convert
  rw [show (v.rename g.addr).type = v.type from rfl]
  cases Ty.conversion? v.type t with
  | none => exact moves_panic _ _
  | some c => exact (apply_moves c v).bind fun d => moves_pure _

theorem unbox_moves (v : Value) (box t : Ty) :
    g.Moves (Value.rename g.addr) (v.unbox box t) ((v.rename g.addr).unbox box t) := by
  unfold Value.unbox
  rw [content_rename]
  cases v.content with
  | none => exact moves_panic _ _
  | some c => exact convert_moves c t

/-- **Converting a value**, out of an interface if it is in one. -/
theorem cast_moves (v : Value) (given t : Ty) :
    g.Moves (Value.rename g.addr) (v.cast given t) ((v.rename g.addr).cast given t) := by
  unfold Value.cast
  split
  · exact unbox_moves v given t
  · exact convert_moves v t

end Relocation

end Tacit
