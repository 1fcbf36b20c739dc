import ObkvTable.Operation

/-! The batch accumulator.

`ObTableBatchOperation` holds either raw tuples (`raw_ops`, a raw batch) or built operations
(`ops`), with the filters and option flags of its check-and-upsert operations in side lists.
`add_op` updates three flags on each insertion of a structured batch, each against the first
stored operation only, then builds the operation; it panics when `ObTableOperation::new` does.
`ObTableBatchOperation.encode_appends` says the batch writes exactly `len()` bytes, and
`new_add_op_eq` what `ObTableOperation::new`, and so `add_op`, does with a value list shorter
than its column list. -/
namespace ObkvTable

/-- The encoded text of a filter. -/
class FilterEncoder (F : Type) where
  encode : F → String

structure RawObTableOperationFlag where
  /-- whether a check_and_execute option -/
  checkAndExecute : Bool
  /-- check whether any data meet the filter in check_and_execute -/
  checkExists : Bool
  deriving DecidableEq, Repr

def RawObTableOperationFlag.new : RawObTableOperationFlag := ⟨false, true⟩

/-- The tuple `RawObTableOperation`, its fields named after the source's comments. -/
structure RawObTableOperation (V : Type) where
  opType : ObTableOperationType
  rowKeysNames : Option (List String)
  rowKeys : List V
  columns : Option (List String)
  properties : Option (List V)
  filterString : Option String
  optionFlag : Option RawObTableOperationFlag

structure ObTableBatchOperation (V : Type) where
  raw : Bool
  rawOps : List (RawObTableOperation V)
  tableName : String
  tableId : Int
  partitionId : Int
  base : BasePayLoad
  ops : List (ObTableOperation V)
  readOnly : Bool
  sameType : Bool
  samePropertiesNames : Bool
  atomicOp : Bool
  filters : List String
  options : List RawObTableOperationFlag

variable {V : Type} (c : Crate V)

namespace ObTableBatchOperation

/-- `internal_new`; the capacity `ops_num` reserves is not part of the model. -/
def internalNew (raw : Bool) (_opsNum : Nat) : ObTableBatchOperation V where
  raw := raw
  rawOps := []
  tableName := ""
  tableId := c.obInvalidId
  partitionId := c.obInvalidId
  base := c.dummy
  ops := []
  readOnly := true
  sameType := true
  samePropertiesNames := true
  atomicOp := false
  filters := []
  options := []

def new : ObTableBatchOperation V := internalNew c false 0

def raw' : ObTableBatchOperation V := internalNew c true 0

def withOpsNum (num : Nat) : ObTableBatchOperation V := internalNew c false num

def withOpsNumRaw (num : Nat) : ObTableBatchOperation V := internalNew c true num

def opsLen (b : ObTableBatchOperation V) : Nat :=
  if b.rawOps.isEmpty then b.ops.length else b.rawOps.length

def setTableName (b : ObTableBatchOperation V) (tableName : String) : ObTableBatchOperation V :=
  {b with tableName := tableName}

def setPartitionId (b : ObTableBatchOperation V) (partId : Int) : ObTableBatchOperation V :=
  {b with partitionId := partId}

def setTableId (b : ObTableBatchOperation V) (tableId : Int) : ObTableBatchOperation V :=
  {b with tableId := tableId}

def setAtomicOp (b : ObTableBatchOperation V) (atomicOp : Bool) : ObTableBatchOperation V :=
  {b with atomicOp := atomicOp}

/-! ### `add_op` -/

/-- `for name in names { set.insert(name.to_owned()); if !properties.contains_key(name) { break; } }`,
with the `HashSet` as a list without repeats. -/
def collectNames (properties : Properties V) : List String → List String → List String
  | set, [] => set
  | set, name :: names =>
    if name ∈ properties then collectNames properties (set.insert name) names else set.insert name

/-- The `same_properties_names` update of `add_op`, against the first operation's properties. -/
def samePropertiesNamesWith (properties : Properties V) (columns : Option (List String)) : Bool :=
  if properties.entries.isEmpty && columns.isNone then true
  else match columns with
    | some names =>
      if !properties.entries.isEmpty then
        if properties.entries.length ≠ names.length then false
        else (collectNames properties [] names).length == names.length
      else false
    | none => false

/-- What `add_op` leaves in a structured batch once it has built `tempOp` from `rawOp`: the
three flags updated against the first stored operation, the filter and the option pushed when
there are some, and the operation, with its row-key names when there are some, pushed. -/
def store (b : ObTableBatchOperation V) (rawOp : RawObTableOperation V) (tempOp : ObTableOperation V) :
    ObTableBatchOperation V :=
  let readOnly := if b.readOnly && rawOp.opType != .get then false else b.readOnly
  let sameType := match b.ops with
    | first :: _ => if b.sameType && first.opType != rawOp.opType then false else b.sameType
    | [] => b.sameType
  let samePropertiesNames := match b.ops with
    | first :: _ =>
      if b.samePropertiesNames then samePropertiesNamesWith first.entity.properties rawOp.columns
      else b.samePropertiesNames
    | [] => b.samePropertiesNames
  let filters := match rawOp.filterString with
    | some filter => b.filters ++ [filter]
    | none => b.filters
  let options := match rawOp.optionFlag with
    | some option => b.options ++ [option]
    | none => b.options
  let tempOp := match rawOp.rowKeysNames with
    | some rkNames => tempOp.setRowKeyNames rkNames
    | none => tempOp
  {b with readOnly, sameType, samePropertiesNames, filters, options, ops := b.ops ++ [tempOp]}

def addOp (b : ObTableBatchOperation V) (rawOp : RawObTableOperation V) :
    Except Fault (ObTableBatchOperation V) :=
  if b.raw then pure {b with rawOps := b.rawOps ++ [rawOp]}
  else do
    let tempOp ← ObTableOperation.new c rawOp.opType rawOp.rowKeys rawOp.columns rawOp.properties
    pure (b.store rawOp tempOp)

def addTableOp (b : ObTableBatchOperation V) (op : ObTableOperation V) : ObTableBatchOperation V :=
  {b with ops := b.ops ++ [op]}

/-! ### The builders -/

def get (b : ObTableBatchOperation V) (rowKeys : List V) (columns : List String) :=
  b.addOp c ⟨.get, none, rowKeys, some columns, none, none, none⟩

def insert (b : ObTableBatchOperation V) (rowKeys : List V) (columns : List String)
    (properties : List V) :=
  b.addOp c ⟨.insert, none, rowKeys, some columns, some properties, none, none⟩

def delete (b : ObTableBatchOperation V) (rowKeys : List V) :=
  b.addOp c ⟨.del, none, rowKeys, none, none, none, none⟩

def update (b : ObTableBatchOperation V) (rowKeys : List V) (columns : List String)
    (properties : List V) :=
  b.addOp c ⟨.update, none, rowKeys, some columns, some properties, none, none⟩

def insertOrUpdate (b : ObTableBatchOperation V) (rowKeys : List V) (columns : List String)
    (properties : List V) :=
  b.addOp c ⟨.insertOrUpdate, none, rowKeys, some columns, some properties, none, none⟩

/-- check the data with corresponding row_keys whether meet the filter and execute the insertUp -/
def checkAndUpsert {F : Type} [FilterEncoder F] (b : ObTableBatchOperation V)
    (rowKeysNames : List String) (rowKeys : List V) (columns : List String) (properties : List V)
    (filter : F) (checkExists : Bool) :=
  b.addOp c ⟨.checkAndInsertUp, some rowKeysNames, rowKeys, some columns, some properties,
    some (FilterEncoder.encode filter),
    some {RawObTableOperationFlag.new with checkAndExecute := true, checkExists := checkExists}⟩

def checkAndUpsertIfExists {F : Type} [FilterEncoder F] (b : ObTableBatchOperation V)
    (rowKeysNames : List String) (rowKeys : List V) (columns : List String) (properties : List V)
    (filter : F) :=
  b.checkAndUpsert c rowKeysNames rowKeys columns properties filter true

def checkAndUpsertIfNotExists {F : Type} [FilterEncoder F] (b : ObTableBatchOperation V)
    (rowKeysNames : List String) (rowKeys : List V) (columns : List String) (properties : List V)
    (filter : F) :=
  b.checkAndUpsert c rowKeysNames rowKeys columns properties filter false

def replace (b : ObTableBatchOperation V) (rowKeys : List V) (columns : List String)
    (properties : List V) :=
  b.addOp c ⟨.replace, none, rowKeys, some columns, some properties, none, none⟩

def increment (b : ObTableBatchOperation V) (rowKeys : List V) (columns : List String)
    (properties : List V) :=
  b.addOp c ⟨.increment, none, rowKeys, some columns, some properties, none, none⟩

def append (b : ObTableBatchOperation V) (rowKeys : List V) (columns : List String)
    (properties : List V) :=
  b.addOp c ⟨.append, none, rowKeys, some columns, some properties, none, none⟩

/-! ### When building an operation panics -/

section AddOp
variable {c} {b b' : ObTableBatchOperation V} {rawOp : RawObTableOperation V}

section Store
variable (op : ObTableOperation V)

@[simp] theorem store_raw : (b.store rawOp op).raw = b.raw := rfl

theorem store_readOnly :
    (b.store rawOp op).readOnly = if b.readOnly && rawOp.opType != .get then false else b.readOnly := rfl

theorem store_sameType : (b.store rawOp op).sameType = match b.ops with
    | first :: _ => if b.sameType && first.opType != rawOp.opType then false else b.sameType
    | [] => b.sameType := rfl

theorem store_samePropertiesNames : (b.store rawOp op).samePropertiesNames = match b.ops with
    | first :: _ =>
      if b.samePropertiesNames then samePropertiesNamesWith first.entity.properties rawOp.columns
      else b.samePropertiesNames
    | [] => b.samePropertiesNames := rfl

@[simp] theorem store_rawOps : (b.store rawOp op).rawOps = b.rawOps := rfl

@[simp] theorem store_ops :
    (b.store rawOp op).ops = b.ops ++ [rawOp.rowKeysNames.elim op op.setRowKeyNames] := by
  cases h : rawOp.rowKeysNames <;> simp only [store, h] <;> rfl

@[simp] theorem store_filters : (b.store rawOp op).filters = b.filters ++ rawOp.filterString.toList := by
  cases h : rawOp.filterString <;> simp [store, h]

@[simp] theorem store_options : (b.store rawOp op).options = b.options ++ rawOp.optionFlag.toList := by
  cases h : rawOp.optionFlag <;> simp [store, h]

@[simp] theorem setRowKeyNames_opType (names : List String) : (op.setRowKeyNames names).opType = op.opType :=
  rfl

@[simp] theorem elim_setRowKeyNames_opType (names : Option (List String)) :
    (names.elim op op.setRowKeyNames).opType = op.opType := by
  cases names <;> rfl

@[simp] theorem setRowKeyNames_properties (names : List String) :
    (op.setRowKeyNames names).entity.properties = op.entity.properties := rfl

end Store

theorem addOp_of_raw (hb : b.raw = true) : b.addOp c rawOp = .ok {b with rawOps := b.rawOps ++ [rawOp]} := by
  simp only [addOp, hb, if_true]
  rfl

/-- On a structured batch `add_op` builds the operation and stores it, or fails as building does. -/
theorem addOp_of_structured (hb : b.raw = false) :
    b.addOp c rawOp =
      (b.store rawOp ·) <$> ObTableOperation.new c rawOp.opType rawOp.rowKeys rawOp.columns rawOp.properties := by
  simp only [addOp, hb, Bool.false_eq_true, if_false]
  rfl

theorem addOp_ok_structured (hb : b.raw = false) (h : b.addOp c rawOp = .ok b') :
    ∃ op, ObTableOperation.new c rawOp.opType rawOp.rowKeys rawOp.columns rawOp.properties = .ok op ∧
      b' = b.store rawOp op := by
  rw [addOp_of_structured hb] at h
  cases hn : ObTableOperation.new c rawOp.opType rawOp.rowKeys rawOp.columns rawOp.properties <;>
    rw [hn] at h <;> cases h
  exact ⟨_, rfl, rfl⟩

/-- What a successful `add_op` did: append to a raw batch, or store a built operation in a
structured one. -/
theorem addOp_ok_cases (h : b.addOp c rawOp = .ok b') :
    (b.raw = true ∧ b' = {b with rawOps := b.rawOps ++ [rawOp]}) ∨
      (b.raw = false ∧ ∃ op, ObTableOperation.new c rawOp.opType rawOp.rowKeys rawOp.columns rawOp.properties =
        .ok op ∧ b' = b.store rawOp op) := by
  rcases Bool.eq_false_or_eq_true b.raw with hb | hb
  · rw [addOp_of_raw hb] at h
    cases h
    exact .inl ⟨hb, rfl⟩
  · exact .inr ⟨hb, addOp_ok_structured hb h⟩

theorem addOp_structured (hb : b.raw = false) (f : Fault) :
    b.addOp c rawOp = .error f ↔
      ObTableOperation.new c rawOp.opType rawOp.rowKeys rawOp.columns rawOp.properties = .error f := by
  rw [addOp_of_structured hb]
  cases ObTableOperation.new c rawOp.opType rawOp.rowKeys rawOp.columns rawOp.properties <;>
    simp only [Functor.map, Except.map, Except.error.injEq, reduceCtorEq]

end AddOp

/-- **`ObTableOperation::new` panics exactly when values run out.** With a value list shorter
than the column list it panics at the first index past the values' end, and so does `add_op`
on a structured batch; otherwise it returns the entity with the row keys and the column and
value pairs inserted in index order. -/
theorem new_add_op_eq (t : ObTableOperationType) (rowKeys : List V) (columns : Option (List String))
    (properties : Option (List V)) :
    ObTableOperation.new c t rowKeys columns properties =
      (match columns, properties with
      | some cols, some props =>
        if props.length < cols.length then .error (outOfBounds props.length props.length)
        else .ok ⟨c.dummy, t, ObTableOperation.builtEntity c rowKeys cols (some props)⟩
      | some cols, none => .ok ⟨c.dummy, t, ObTableOperation.builtEntity c rowKeys cols none⟩
      | none, _ => .ok ⟨c.dummy, t, ObTableEntity.new c rowKeys⟩) ∧
    ∀ (b : ObTableBatchOperation V) (rowKeysNames : Option (List String)) (filterString : Option String)
      (optionFlag : Option RawObTableOperationFlag) (f : Fault), b.raw = false →
      (b.addOp c ⟨t, rowKeysNames, rowKeys, columns, properties, filterString, optionFlag⟩ = .error f ↔
        ObTableOperation.new c t rowKeys columns properties = .error f) :=
  ⟨ObTableOperation.new_eq t rowKeys columns properties, fun _ _ _ _ f hb => addOp_structured hb f⟩

/-- Inserting one column with no value panics, through any builder. -/
theorem insert_short_values_panics :
    (new Reference.crate).insert Reference.crate [] ["c"] [] = .error (outOfBounds 0 0) := rfl

/-! ### Taking the lists -/

/-- `take_raw_ops`: the raw operations, and the batch without them. -/
def takeRawOps (b : ObTableBatchOperation V) : List (RawObTableOperation V) × ObTableBatchOperation V :=
  (b.rawOps, {b with rawOps := []})

def takeOps (b : ObTableBatchOperation V) : List (ObTableOperation V) × ObTableBatchOperation V :=
  (b.ops, {b with ops := []})

def takeFilters (b : ObTableBatchOperation V) : List String × ObTableBatchOperation V :=
  (b.filters, {b with filters := []})

def takeOptions (b : ObTableBatchOperation V) : List RawObTableOperationFlag × ObTableBatchOperation V :=
  (b.options, {b with options := []})

/-! ### The bytes -/

def contentLen (b : ObTableBatchOperation V) : Nat :=
  3 + (c.encodedLengthVi64 b.ops.length + (b.ops.map (ObTableOperation.len c)).sum)

def len (b : ObTableBatchOperation V) : Nat := c.headerLen b.base (b.contentLen c) + b.contentLen c

def encode (b : ObTableBatchOperation V) : Encoder := do
  c.encodeHeader b.base (b.contentLen c)
  c.encodeVi64 b.ops.length
  b.ops.forM (·.encode c)
  putI8 b.readOnly.toNat
  putI8 b.sameType.toNat
  putI8 b.samePropertiesNames.toNat

variable {c}

theorem encode_appends (hc : c.Sized) (b : ObTableBatchOperation V) : Appends (b.encode c) (b.len c) := by
  unfold encode len
  refine ((hc.header _ _).bind <| (hc.vi64 _).bind <|
    (Appends.forM (fun op => op.encode_appends hc) b.ops).bind <|
    (appends_putI8 _).bind <| (appends_putI8 _).bind (appends_putI8 _)).of_eq ?_
  simp only [contentLen]
  omega

end ObTableBatchOperation

end ObkvTable
