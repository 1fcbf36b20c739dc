import ObkvTable.Entity
import ObkvTable.OperationType

/-! Operations, and the request that carries one.

`ObTableOperation::new` builds the entity by indexing the value list at every column index, so
it panics when there are fewer values than columns (`new_eq` says exactly what it returns).
`ObTableOperationRequest` writes the partition id as a varint before protocol version 4 and as
eight fixed bytes from 4 on; `ObTableOperationRequest.encode_appends` says its `encode` appends
exactly `len()` bytes in both cases. -/
namespace ObkvTable

structure ObTableOperation (V : Type) where
  base : BasePayLoad
  opType : ObTableOperationType
  entity : ObTableEntity V

variable {V : Type} (c : Crate V)

namespace ObTableOperation

/-- One turn of the loop in `new`: `entity.add_attr(&cols[i], props[i])`, or the default value
when there are no properties. -/
def addColumn (cols : List String) (properties : Option (List V)) (entity : ObTableEntity V)
    (i : Nat) : Except Fault (ObTableEntity V) := do
  let name ← index cols i
  let value ← (match properties with
    | some props => index props i
    | none => pure c.valueDefault)
  pure (entity.addAttr name value).1

def new (operationType : ObTableOperationType) (rowKeys : List V) (columns : Option (List String))
    (properties : Option (List V)) : Except Fault (ObTableOperation V) := do
  let entity ← match columns with
    | some cols => (List.range cols.length).foldlM (addColumn c cols properties) (ObTableEntity.new c rowKeys)
    | none => pure (ObTableEntity.new c rowKeys)
  pure ⟨c.dummy, operationType, entity⟩

def setRowKeyNames (op : ObTableOperation V) (rowKeyNames : List String) : ObTableOperation V :=
  {op with entity := op.entity.setRowKeyNames rowKeyNames}

def contentLen (op : ObTableOperation V) : Nat := 1 + op.entity.len c

def len (op : ObTableOperation V) : Nat := c.headerLen op.base (op.contentLen c) + op.contentLen c

def encode (op : ObTableOperation V) : Encoder := do
  c.encodeHeader op.base (op.contentLen c)
  putI8 op.opType.toI8
  op.entity.encode c

/-- `decode` is `unimplemented!()`: an operation is only ever written. -/
def decode : EStateM Fault (ObTableOperation V × Bytes) Unit := throw (.panic "not implemented")

variable {c} in
theorem encode_appends (hc : c.Sized) (op : ObTableOperation V) : Appends (op.encode c) (op.len c) :=
  (hc.header _ _).bind <| (appends_putI8 _).bind (op.entity.encode_appends hc)

/-! ### What `new` builds -/

/-- What `new` inserts at index `i`: column `i`, with value `i` or `Value::default()`. -/
def columnPair (cols : List String) (properties : Option (List V)) (i : Nat) : String × V :=
  (cols.getD i "", match properties with
    | some props => props.getD i c.valueDefault
    | none => c.valueDefault)

/-- The entity `new` builds when no index fails: the row key, then the pairs in index order. -/
def builtEntity (rowKeys : List V) (cols : List String) (properties : Option (List V)) :
    ObTableEntity V :=
  { ObTableEntity.new c rowKeys with
    properties := List.foldl (fun m i => m.insert (columnPair c cols properties i).1
      (columnPair c cols properties i).2) ∅ (List.range cols.length) }

variable {c}

theorem addColumn_of_lt {cols : List String} {properties : Option (List V)} {i : Nat}
    (hc : i < cols.length) (hp : ∀ props, properties = some props → i < props.length)
    (e : ObTableEntity V) :
    addColumn c cols properties e i =
      .ok (e.addAttr (columnPair c cols properties i).1 (columnPair c cols properties i).2).1 := by
  cases properties with
  | none => simp only [addColumn, index_of_lt hc ""]; rfl
  | some props => simp only [addColumn, index_of_lt hc "", index_of_lt (hp props rfl) c.valueDefault]; rfl

/-- The loop of `new` runs to the end when every column has a value. -/
theorem foldlM_addColumn_of_le {rowKeys : List V} (cols : List String) (properties : Option (List V))
    (hp : ∀ props, properties = some props → cols.length ≤ props.length) :
    (List.range cols.length).foldlM (addColumn c cols properties) (ObTableEntity.new c rowKeys) =
      .ok (builtEntity c rowKeys cols properties) := by
  rw [foldlM_of_ok _ (fun e i hi => addColumn_of_lt (List.mem_range.mp hi)
    (fun props h => Nat.lt_of_lt_of_le (List.mem_range.mp hi) (hp props h)) e), ObTableEntity.foldl_addAttr_pairs]
  rfl

/-- The loop of `new` panics at index `props.len()` when the values run out first. -/
theorem foldlM_addColumn_of_lt {rowKeys : List V} {cols : List String} {props : List V}
    (hlt : props.length < cols.length) :
    (List.range cols.length).foldlM (addColumn c cols (some props)) (ObTableEntity.new c rowKeys) =
      .error (outOfBounds props.length props.length) := by
  obtain ⟨k, hk⟩ := Nat.exists_eq_add_of_lt hlt
  rw [hk, Nat.add_assoc, List.range_add, List.range_succ_eq_map, List.map_cons, Nat.add_zero]
  refine foldlM_of_error _ _ _ (fun e i hi => addColumn_of_lt (by have := List.mem_range.mp hi; omega)
    (fun _ h => by cases h; exact List.mem_range.mp hi) e) (fun e => ?_) _
  simp only [addColumn, index_of_lt (show props.length < cols.length by omega) "", index_length]
  rfl

/-- `new` panics at the first missing value, and otherwise builds `builtEntity`. -/
theorem new_eq (t : ObTableOperationType) (rowKeys : List V) (columns : Option (List String))
    (properties : Option (List V)) :
    new c t rowKeys columns properties =
      match columns, properties with
      | some cols, some props =>
        if props.length < cols.length then .error (outOfBounds props.length props.length)
        else .ok ⟨c.dummy, t, builtEntity c rowKeys cols (some props)⟩
      | some cols, none => .ok ⟨c.dummy, t, builtEntity c rowKeys cols none⟩
      | none, _ => .ok ⟨c.dummy, t, ObTableEntity.new c rowKeys⟩ := by
  rcases columns with _ | cols
  · rfl
  rcases properties with _ | props
  · simp only [new, foldlM_addColumn_of_le cols none fun _ => Option.noConfusion]
    rfl
  by_cases hlt : props.length < cols.length
  · simp only [new, foldlM_addColumn_of_lt hlt, if_pos hlt]
    rfl
  · simp only [new, if_neg hlt,
      foldlM_addColumn_of_le cols (some props) fun _ h => Option.some.inj h ▸ Nat.le_of_not_lt hlt]
    rfl

theorem new_opType {t : ObTableOperationType} {rowKeys : List V} {columns : Option (List String)}
    {properties : Option (List V)} {op : ObTableOperation V} (h : new c t rowKeys columns properties = .ok op) :
    op.opType = t := by
  rw [new_eq] at h
  split at h <;> (try split at h) <;> cases h <;> rfl

theorem new_of_ok {t : ObTableOperationType} {rowKeys : List V} {cols : List String} {props : List V}
    {op : ObTableOperation V} (h : new c t rowKeys (some cols) (some props) = .ok op) :
    op = ⟨c.dummy, t, builtEntity c rowKeys cols (some props)⟩ := by
  simp only [new_eq] at h
  split at h <;> cases h
  rfl

end ObTableOperation

/-! ### The single-operation request -/

structure ObTableOperationRequest (V : Type) where
  base : BasePayLoad
  credential : Bytes
  tableName : String
  tableId : Int
  partitionId : Int
  entityType : ObTableEntityType
  tableOperation : ObTableOperation V
  consistencyLevel : ObTableConsistencyLevel
  returnRowKey : Bool
  returnAffectedEntity : Bool
  returnAffectedRows : Bool

namespace ObTableOperationRequest

/-- `new`; `timeout` is `duration_to_millis(&timeout)`. -/
def new (tableName : String) (operationType : ObTableOperationType) (rowKeys : List V)
    (columns : Option (List String)) (properties : Option (List V)) (timeout : Int) (flag : Nat) :
    Except Fault (ObTableOperationRequest V) := do
  let operation ← ObTableOperation.new c operationType rowKeys columns properties
  pure
    { base := {c.newBase with timeout := timeout, flag := flag}
      credential := []
      tableName := tableName
      tableId := c.obInvalidId
      partitionId := c.obInvalidId
      entityType := .dynamic
      tableOperation := operation
      consistencyLevel := .strong
      returnRowKey := false
      returnAffectedEntity := false
      returnAffectedRows := true }

def contentLen (obVsnMajor : Int) (r : ObTableOperationRequest V) : Nat :=
  c.encodedLengthBytesString r.credential + c.encodedLengthVstring r.tableName +
    c.encodedLengthVi64 r.tableId +
    (if obVsnMajor ≥ 4 then 8 else c.encodedLengthVi64 r.partitionId) +
    c.encodedLengthI8 r.entityType.toI8 + c.encodedLengthI8 r.consistencyLevel.toI8 +
    c.encodedLengthI8 r.returnRowKey.toNat + c.encodedLengthI8 r.returnAffectedEntity.toNat +
    c.encodedLengthI8 r.returnAffectedRows.toNat + r.tableOperation.len c

def len (obVsnMajor : Int) (r : ObTableOperationRequest V) : Nat :=
  c.headerLen r.base (r.contentLen c obVsnMajor) + r.contentLen c obVsnMajor

def encode (obVsnMajor : Int) (r : ObTableOperationRequest V) : Encoder := do
  c.encodeHeader r.base (r.contentLen c obVsnMajor)
  c.encodeBytesString r.credential
  c.encodeVstring r.tableName
  c.encodeVi64 r.tableId
  (if obVsnMajor ≥ 4 then putI64 r.partitionId else c.encodeVi64 r.partitionId)
  putI8 r.entityType.toI8
  r.tableOperation.encode c
  putI8 r.consistencyLevel.toI8
  putI8 r.returnRowKey.toNat
  putI8 r.returnAffectedEntity.toNat
  putI8 r.returnAffectedRows.toNat

variable {c}

/-- The partition id takes eight fixed bytes from protocol version 4 on, and a varint before. -/
theorem appends_partitionId (hc : c.Sized) (obVsnMajor partitionId : Int) :
    Appends (if obVsnMajor ≥ 4 then putI64 partitionId else c.encodeVi64 partitionId)
      (if obVsnMajor ≥ 4 then 8 else c.encodedLengthVi64 partitionId) := by
  split
  · exact appends_putI64 _
  · exact hc.vi64 _

theorem encode_appends (hc : c.Sized) (obVsnMajor : Int) (r : ObTableOperationRequest V) :
    Appends (r.encode c obVsnMajor) (r.len c obVsnMajor) := by
  unfold encode len
  refine ((hc.header _ _).bind <| (hc.bytesString _).bind <| (hc.vstring _).bind <|
    (hc.vi64 _).bind <| (appends_partitionId hc _ _).bind <| (hc.i8 _).bind <|
    (r.tableOperation.encode_appends hc).bind <|
    (hc.i8 _).bind <| (hc.i8 _).bind <| (hc.i8 _).bind (hc.i8 _)).of_eq ?_
  simp only [contentLen]
  omega

end ObTableOperationRequest

end ObkvTable
