import ObkvTable.Tablet

/-! A batch over any sequence of its public mutators.

`ops_len()` reads `raw_ops` when it is not empty and `ops` otherwise, and the batch's `encode`
writes `ops` only, so a batch is meant to fill one of the two lists. `add_op` honours the mode;
`add_table_op` pushes onto `ops` in either. `separated_of_run` says that every run from any
constructor keeps the two lists apart, and `ops_len()` equal to their total length, as long as
it does not call `add_table_op` on a raw batch; `raw_add_op_then_add_table_op` is the run that
does. -/
namespace ObkvTable.ObTableBatchOperation

variable {V : Type} (c : Crate V)

/-- A call of one of the batch's `&mut self` methods; every builder is an `add_op`. -/
inductive Mutator (V : Type) : Type
  | addOp (rawOp : RawObTableOperation V)
  | addTableOp (op : ObTableOperation V)
  | takeRawOps
  | takeOps
  | takeFilters
  | takeOptions
  | generateTabletOps
  | setTableName (tableName : String)
  | setPartitionId (partId : Int)
  | setTableId (tableId : Int)
  | setAtomicOp (atomicOp : Bool)

/-- The batch after the call; the taken lists and the tablet operation go to the caller. -/
def Mutator.apply (b : ObTableBatchOperation V) : Mutator V → Except Fault (ObTableBatchOperation V)
  | .addOp rawOp => b.addOp c rawOp
  | .addTableOp op => pure (b.addTableOp op)
  | .takeRawOps => pure b.takeRawOps.2
  | .takeOps => pure b.takeOps.2
  | .takeFilters => pure b.takeFilters.2
  | .takeOptions => pure b.takeOptions.2
  | .generateTabletOps => pure (b.generateTabletOps c).2
  | .setTableName tableName => pure (b.setTableName tableName)
  | .setPartitionId partId => pure (b.setPartitionId partId)
  | .setTableId tableId => pure (b.setTableId tableId)
  | .setAtomicOp atomicOp => pure (b.setAtomicOp atomicOp)

/-- The calls `ms` in order; it fails where a call panics. -/
def run (b : ObTableBatchOperation V) (ms : List (Mutator V)) : Except Fault (ObTableBatchOperation V) :=
  ms.foldlM (Mutator.apply c) b

/-- A batch that fills only the list of its mode. -/
def Separated (b : ObTableBatchOperation V) : Prop :=
  (b.raw = true → b.ops = []) ∧ (b.raw = false → b.rawOps = [])

variable {c}

theorem opsLen_of_separated {b : ObTableBatchOperation V} (h : b.Separated) :
    b.opsLen = b.rawOps.length + b.ops.length := by
  cases hr : b.raw
  · simp [opsLen, h.2 hr]
  · cases hs : b.rawOps <;> simp [opsLen, h.1 hr, hs]

section Step
variable {b b' : ObTableBatchOperation V} {m : Mutator V}

theorem Mutator.apply_raw (h : m.apply c b = .ok b') : b'.raw = b.raw := by
  cases m with
  | addOp rawOp => rcases addOp_ok_cases h with ⟨-, rfl⟩ | ⟨-, _, -, rfl⟩ <;> rfl
  | _ => cases h; rfl

/-- Every call but `add_table_op` on a raw batch keeps the lists apart. -/
theorem Separated.apply (hs : b.Separated) (h : m.apply c b = .ok b')
    (hm : b.raw = true → ∀ op, m ≠ .addTableOp op) : b'.Separated := by
  cases m with
  | addOp rawOp =>
    rcases addOp_ok_cases h with ⟨hb, rfl⟩ | ⟨hb, _, -, rfl⟩
    · exact ⟨fun _ => hs.1 hb, fun h' => by simp [hb] at h'⟩
    · exact ⟨fun h' => by simp [hb] at h', fun _ => hs.2 hb⟩
  | addTableOp op =>
    cases h
    cases hb : b.raw
    · exact ⟨fun h' => by simp [addTableOp, hb] at h', fun _ => hs.2 hb⟩
    · exact absurd rfl (hm hb op)
  | generateTabletOps => cases h; exact ⟨fun _ => rfl, hs.2⟩
  | takeRawOps => cases h; exact ⟨hs.1, fun _ => rfl⟩
  | takeOps => cases h; exact ⟨fun _ => rfl, hs.2⟩
  | _ => cases h; exact hs

end Step

/-- **Raw and structured operations stay apart unless `add_table_op` meets a raw batch.** A
run of mutators on `new()`, `raw()`, `with_ops_num(n)`, `with_ops_num_raw(n)` or `default()`
(which is `new()`) that calls `add_table_op` only on a structured batch leaves `ops` empty on a
raw batch and `raw_ops` empty on a structured one, and `ops_len()` the number of operations
held. -/
theorem separated_of_run (raw : Bool) (n : Nat) (ms : List (Mutator V)) {b : ObTableBatchOperation V}
    (h : (internalNew c raw n).run c ms = .ok b) (hms : raw = true → ∀ op, Mutator.addTableOp op ∉ ms) :
    b.Separated ∧ b.opsLen = b.rawOps.length + b.ops.length := by
  let I (pre : List (Mutator V)) (b : ObTableBatchOperation V) : Prop :=
    b.raw = raw ∧ ((raw = true → ∀ op, Mutator.addTableOp op ∉ pre) → b.Separated)
  have h₀ : I [] (internalNew c raw n) := ⟨rfl, fun _ => ⟨fun _ => rfl, fun _ => rfl⟩⟩
  have hI : I ms b := foldlM_induction I (fun pre m b b' ⟨hr, hs⟩ hm =>
    ⟨(Mutator.apply_raw hm).trans hr, fun hpre =>
      (hs fun hraw op hop => hpre hraw op (List.mem_append_left _ hop)).apply hm fun hb op he =>
        hpre (hr ▸ hb) op (List.mem_append_right _ (he ▸ List.mem_singleton_self _))⟩)
    ms h₀ h
  exact ⟨hI.2 hms, opsLen_of_separated (hI.2 hms)⟩

/-- `separated_of_run` for a `raw()` batch given two `add_op`s around a `take_raw_ops` and a
setter, and for a structured batch given an `add_op`, an `add_table_op` and a `take_ops`. -/
theorem separated_of_raw_and_structured_runs :
    let msRaw : List (Mutator Int) := [.addOp ⟨.get, none, [1], some ["c"], none, none, none⟩, .takeRawOps,
      .addOp ⟨.insert, none, [2], some ["c"], some [3], none, none⟩, .setTableName "t"]
    let ms : List (Mutator Int) := [.addOp ⟨.get, none, [1], some ["c"], none, none, none⟩,
      .addTableOp ⟨Reference.crate.dummy, .get, ObTableEntity.new Reference.crate [1]⟩, .takeOps]
    (∃ b, (internalNew Reference.crate true 0).run Reference.crate msRaw = .ok b ∧
      (true = true → ∀ op, Mutator.addTableOp op ∉ msRaw) ∧
      b.Separated ∧ b.opsLen = b.rawOps.length + b.ops.length) ∧
    ∃ b, (internalNew Reference.crate false 0).run Reference.crate ms = .ok b ∧
      (false = true → ∀ op, Mutator.addTableOp op ∉ ms) ∧
      b.Separated ∧ b.opsLen = b.rawOps.length + b.ops.length := by
  intro msRaw ms
  obtain ⟨b, h⟩ : ∃ b, (internalNew Reference.crate true 0).run Reference.crate msRaw = .ok b := ⟨_, rfl⟩
  obtain ⟨b', h'⟩ : ∃ b, (internalNew Reference.crate false 0).run Reference.crate ms = .ok b := ⟨_, rfl⟩
  have hmsRaw : true = true → ∀ op, Mutator.addTableOp op ∉ msRaw := fun _ op hop => by simp [msRaw] at hop
  have hms : false = true → ∀ op, Mutator.addTableOp op ∉ ms := nofun
  exact ⟨⟨b, h, hmsRaw, separated_of_run true 0 msRaw h hmsRaw⟩, b', h', hms, separated_of_run false 0 ms h' hms⟩

/-- On `raw()`, an `add_op` and then an `add_table_op` leave an operation in each list, and
`ops_len()` counts only the raw one. -/
theorem raw_add_op_then_add_table_op :
    let op : ObTableOperation Int := ⟨Reference.crate.dummy, .get, ObTableEntity.new Reference.crate [1]⟩
    ∃ b, (raw' Reference.crate).run Reference.crate
        [.addOp ⟨.get, none, [1], some ["c"], none, none, none⟩, .addTableOp op] = .ok b ∧
      b.raw = true ∧ b.rawOps.length = 1 ∧ b.ops = [op] ∧ b.opsLen = 1 :=
  ⟨_, rfl, rfl, rfl, rfl, rfl⟩

end ObkvTable.ObTableBatchOperation
