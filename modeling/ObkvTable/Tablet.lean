import ObkvTable.Classifier

/-! Converting a batch of check-and-upserts into a tablet operation.

`generate_tablet_ops` drains the operation, filter and option lists and zips them, so it is
only right when the three stay in index lockstep. Every `check_and_upsert` call pushes one of
each, and `generate_tablet_ops_of_check_and_upserts` says that after any number of such calls
the tablet operation holds one single operation per call, in order, built from that call's
arguments, and the three lists are left empty. Other builders push an operation with no
filter and no option: `generate_tablet_ops_of_add_ops` says that after any mix of builders the
filters and options are those of the calls that carry one, so the zip pairs an operation with
another call's filter and drops the operations past the shortest list.

The `lsop` and `query` types the conversion fills are outside `payloads.rs`; they are the
records below, holding what `generate_tablet_ops` sets. -/
namespace ObkvTable

/-- Modelled from the spec: `query::ObNewRange`, the key range from `ObNewRange::from_keys`. -/
structure ObNewRange (V : Type) where
  startKey : List V
  endKey : List V

/-- Modelled from the spec: `lsop::ObTableSingleOpQuery`, the "single-op query" of key-column
names, key ranges and filter text, and the encode mode of its keys. -/
structure ObTableSingleOpQuery (V : Type) where
  scanRangeColumns : List String
  keyRanges : List (ObNewRange V)
  filterString : String
  objType : ObjEncodeType

/-- Modelled from the spec: `lsop::ObTableSingleOpEntity`, row-key names and values and property
names and values. -/
structure ObTableSingleOpEntity (V : Type) where
  rowKeyNames : List String
  rowKey : List V
  propertiesNames : List String
  propertiesValues : List V

/-- Modelled from the spec: `lsop::ObTableSingleOp`, a type, the "fail if not found" policy flag,
a query and entities. -/
structure ObTableSingleOp (V : Type) where
  singleOpType : ObTableOperationType
  checkNotExists : Bool
  query : Option (ObTableSingleOpQuery V)
  entities : List (ObTableSingleOpEntity V)

/-- Modelled from the spec: `lsop::ObTableTabletOp` and its flags. -/
structure ObTableTabletOp (V : Type) where
  tabletId : Int
  isSameType : Bool
  singleOps : List (ObTableSingleOp V)

variable {V : Type} (c : Crate V)

/-- Modelled from the spec: `ObTableSingleOpQuery::new`, no filter yet, keys in `Obj` mode. -/
def ObTableSingleOpQuery.new (scanRangeColumns : List String) (keyRanges : List (ObNewRange V)) :
    ObTableSingleOpQuery V :=
  ⟨scanRangeColumns, keyRanges, "", .obj⟩

/-- Modelled from the spec: `ObTableSingleOp::new`, no query, no entity, the flag unset. -/
def ObTableSingleOp.new (singleOpType : ObTableOperationType) : ObTableSingleOp V :=
  ⟨singleOpType, false, none, []⟩

/-- Modelled from the spec: `ObTableSingleOp::add_entity`, the entity appended after those the
operation holds. -/
def ObTableSingleOp.addEntity (op : ObTableSingleOp V) (entity : ObTableSingleOpEntity V) :
    ObTableSingleOp V :=
  {op with entities := op.entities ++ [entity]}

namespace ObTableBatchOperation

/-- One turn of the loop of `generate_tablet_ops`: the single operation built from a stored
operation, its filter and its option. -/
def singleOpOf (op : ObTableOperation V) (filterString : String) (option : RawObTableOperationFlag) :
    ObTableSingleOp V :=
  let origEntity := op.entity
  let rowKey := origEntity.rowKey
  let entity : ObTableSingleOpEntity V :=
    ⟨rowKey.columnNames, rowKey.keys, origEntity.propertiesNames, origEntity.propertiesValues⟩
  let range : ObNewRange V := ⟨rowKey.keys, rowKey.keys⟩
  let query := ObTableSingleOpQuery.new rowKey.columnNames [range]
  let query := {query with filterString := filterString}
  let query := {query with objType := .tableObj}
  let singleOp := ObTableSingleOp.new .checkAndInsertUp
  let singleOp := {singleOp with checkNotExists := !option.checkExists}
  let singleOp := {singleOp with query := some query}
  singleOp.addEntity entity

/-- `generate_tablet_ops`: the tablet operation, and the batch with its operations, filters and
options taken. -/
def generateTabletOps (b : ObTableBatchOperation V) : ObTableTabletOp V × ObTableBatchOperation V :=
  let (ops, b) := b.takeOps
  let (filters, b) := b.takeFilters
  let (options, b) := b.takeOptions
  let singleOps := ((ops.zip filters).zip options).map fun ((op, filterString), option) =>
    singleOpOf op filterString option
  (⟨c.obInvalidId, true, singleOps⟩, b)

end ObTableBatchOperation

/-! ### A run of check-and-upserts -/

/-- The arguments of one `check_and_upsert` call, its filter of any `FilterEncoder` type;
`check_and_upsert_if_exists` and `check_and_upsert_if_not_exists` are the calls with
`checkExists` true and false. -/
structure CheckAndUpsertCall (V : Type) : Type 1 where
  F : Type
  encoder : FilterEncoder F
  rowKeysNames : List String
  rowKeys : List V
  columns : List String
  properties : List V
  filter : F
  checkExists : Bool

namespace CheckAndUpsertCall

def run (b : ObTableBatchOperation V) (call : CheckAndUpsertCall V) : Except Fault (ObTableBatchOperation V) :=
  @ObTableBatchOperation.checkAndUpsert V c call.F call.encoder b call.rowKeysNames call.rowKeys call.columns
    call.properties call.filter call.checkExists

def filterString (call : CheckAndUpsertCall V) : String := call.encoder.encode call.filter

def option (call : CheckAndUpsertCall V) : RawObTableOperationFlag :=
  {RawObTableOperationFlag.new with checkAndExecute := true, checkExists := call.checkExists}

/-- The operation a call stores: the built entity, its row-key names set. -/
def op (call : CheckAndUpsertCall V) : ObTableOperation V :=
  ⟨c.dummy, .checkAndInsertUp,
    (ObTableOperation.builtEntity c call.rowKeys call.columns (some call.properties)).setRowKeyNames
      call.rowKeysNames⟩

/-- The single operation a call is meant to become: a `CheckAndInsertUp` that fails when nothing
is found unless `checkExists`, a `TableObj` query over the row-key names with the one range
`[keys, keys]` and the filter's text, and one entity of the row key and the names and values of
`props`. -/
def singleOp (call : CheckAndUpsertCall V) (props : Properties V) : ObTableSingleOp V where
  singleOpType := .checkAndInsertUp
  checkNotExists := !call.checkExists
  query := some ⟨call.rowKeysNames, [⟨call.rowKeys, call.rowKeys⟩], call.filterString, .tableObj⟩
  entities := [⟨call.rowKeysNames, call.rowKeys, props.keys, props.entries.map Sigma.snd⟩]

/-- A structured batch after the calls `pre`: one operation, one filter and one option per
call, in call order. -/
structure Lockstep (pre : List (CheckAndUpsertCall V)) (b : ObTableBatchOperation V) : Prop where
  structured : b.raw = false
  ops : b.ops = pre.map (op c)
  filters : b.filters = pre.map filterString
  options : b.options = pre.map option

variable {c}

theorem Lockstep.run {pre : List (CheckAndUpsertCall V)} {b b' : ObTableBatchOperation V}
    (h : Lockstep c pre b) (call : CheckAndUpsertCall V) (hr : run c b call = .ok b') :
    Lockstep c (pre ++ [call]) b' := by
  obtain ⟨o, ho, rfl⟩ := ObTableBatchOperation.addOp_ok_structured h.structured hr
  obtain rfl := ObTableOperation.new_of_ok ho
  exact ⟨h.structured, by simp [h.ops]; rfl, by simp [h.filters]; rfl, by simp [h.options]; rfl⟩

theorem singleOpOf_op (call : CheckAndUpsertCall V) :
    ObTableBatchOperation.singleOpOf (call.op c) call.filterString call.option =
      call.singleOp (ObTableOperation.builtEntity c call.rowKeys call.columns (some call.properties)).properties :=
  rfl

end CheckAndUpsertCall

namespace ObTableBatchOperation

variable {c}

/-- **`generate_tablet_ops` after check-and-upserts.** After any `k` calls of the
check-and-upsert family on `new()` or `with_ops_num(n)`, the tablet operation holds one single
operation per call, in call order, built from that call's arguments and the properties its
operation was built with, and the batch's operations, filters and options are left empty. -/
theorem generate_tablet_ops_of_check_and_upserts (n : Nat) (calls : List (CheckAndUpsertCall V))
    {b : ObTableBatchOperation V} (h : calls.foldlM (CheckAndUpsertCall.run c) (withOpsNum c n) = .ok b) :
    (b.generateTabletOps c).1 = ⟨c.obInvalidId, true, calls.map fun call =>
        call.singleOp (ObTableOperation.builtEntity c call.rowKeys call.columns (some call.properties)).properties⟩ ∧
      (b.generateTabletOps c).2.ops = [] ∧ (b.generateTabletOps c).2.filters = [] ∧
      (b.generateTabletOps c).2.options = [] := by
  have h₀ : CheckAndUpsertCall.Lockstep c [] (withOpsNum c n) := ⟨rfl, rfl, rfl, rfl⟩
  have hb : CheckAndUpsertCall.Lockstep c calls b :=
    foldlM_induction (CheckAndUpsertCall.Lockstep c) (fun _ call _ _ hb hr => hb.run call hr) calls h₀ h
  refine ⟨?_, rfl, rfl, rfl⟩
  simp only [generateTabletOps, takeOps, takeFilters, takeOptions, hb.ops, hb.filters, hb.options,
    List.zip_map', List.map_map, Function.comp_def, CheckAndUpsertCall.singleOpOf_op]

/-- `generate_tablet_ops_of_check_and_upserts` for a `check_and_upsert_if_exists` and then a
`check_and_upsert_if_not_exists`. -/
theorem generate_tablet_ops_of_two_check_and_upserts :
    let calls : List (CheckAndUpsertCall Int) :=
      [⟨String, ⟨id⟩, ["k"], [1], ["c"], [2], "f", true⟩, ⟨String, ⟨id⟩, ["k"], [3], ["c"], [4], "g", false⟩]
    ∃ b, calls.foldlM (CheckAndUpsertCall.run Reference.crate) (withOpsNum Reference.crate 0) = .ok b ∧
      (b.generateTabletOps Reference.crate).1 = ⟨Reference.crate.obInvalidId, true, calls.map fun call =>
        call.singleOp (ObTableOperation.builtEntity Reference.crate call.rowKeys call.columns
          (some call.properties)).properties⟩ ∧
      (b.generateTabletOps Reference.crate).2.ops = [] ∧ (b.generateTabletOps Reference.crate).2.filters = [] ∧
      (b.generateTabletOps Reference.crate).2.options = [] := by
  intro calls
  obtain ⟨b, h⟩ : ∃ b, calls.foldlM (CheckAndUpsertCall.run Reference.crate) (withOpsNum Reference.crate 0) = .ok b :=
    ⟨_, rfl⟩
  exact ⟨b, h, generate_tablet_ops_of_check_and_upserts 0 calls h⟩

/-! ### Any run of builders -/

variable (c) in
/-- The operation `add_op` stores for `rawOp`: `ObTableOperation::new` on its fields, with its
row-key names set when it has some. -/
def Builds (rawOp : RawObTableOperation V) (op : ObTableOperation V) : Prop :=
  ∃ o, ObTableOperation.new c rawOp.opType rawOp.rowKeys rawOp.columns rawOp.properties = .ok o ∧
    op = rawOp.rowKeysNames.elim o o.setRowKeyNames

variable (c) in
/-- A structured batch after the calls `history`: one operation per call, built from it, and the
filters and the options of the calls that carry one, in call order. -/
structure SideLists (history : List (RawObTableOperation V)) (b : ObTableBatchOperation V) : Prop where
  structured : b.raw = false
  ops : List.Forall₂ (Builds c) history b.ops
  filters : b.filters = history.filterMap (·.filterString)
  options : b.options = history.filterMap (·.optionFlag)

theorem SideLists.addOp {history : List (RawObTableOperation V)} {b b' : ObTableBatchOperation V}
    (h : SideLists c history b) (rawOp : RawObTableOperation V) (hr : b.addOp c rawOp = .ok b') :
    SideLists c (history ++ [rawOp]) b' := by
  obtain ⟨o, ho, rfl⟩ := addOp_ok_structured h.structured hr
  refine ⟨h.structured, ?_, ?_, ?_⟩
  · rw [store_ops]
    exact List.rel_append h.ops (.cons ⟨o, ho, rfl⟩ .nil)
  · rw [store_filters, h.filters, List.filterMap_append]
    cases hf : rawOp.filterString <;> simp [hf]
  · rw [store_options, h.options, List.filterMap_append]
    cases hopt : rawOp.optionFlag <;> simp [hopt]

/-- **`generate_tablet_ops` pairs operations with the filters and options given, not with their
calls.** After any sequence of `add_op` calls on `new()` or `with_ops_num(n)`, through any mix
of builders, there is one operation per call, built from it; the filters and the options are
those of the calls that carry one, in call order; and the tablet operation pairs the `i`-th
operation with the `i`-th filter and the `i`-th option, as many single operations as the
shortest of the three lists, leaving all three empty. -/
theorem generate_tablet_ops_of_add_ops (n : Nat) (rawOps : List (RawObTableOperation V))
    {b : ObTableBatchOperation V} (h : (withOpsNum c n).addOps c rawOps = .ok b) :
    List.Forall₂ (Builds c) rawOps b.ops ∧ b.filters = rawOps.filterMap (·.filterString) ∧
      b.options = rawOps.filterMap (·.optionFlag) ∧
      (b.generateTabletOps c).1 = ⟨c.obInvalidId, true,
        ((b.ops.zip (rawOps.filterMap (·.filterString))).zip (rawOps.filterMap (·.optionFlag))).map
          fun ((op, filterString), option) => singleOpOf op filterString option⟩ ∧
      (b.generateTabletOps c).1.singleOps.length =
        min (min rawOps.length (rawOps.filterMap (·.filterString)).length) (rawOps.filterMap (·.optionFlag)).length ∧
      (b.generateTabletOps c).2.ops = [] ∧ (b.generateTabletOps c).2.filters = [] ∧
      (b.generateTabletOps c).2.options = [] := by
  have h₀ : SideLists c [] (withOpsNum c n) := ⟨rfl, .nil, rfl, rfl⟩
  have hb : SideLists c rawOps b := foldlM_induction (SideLists c) (fun _ r _ _ hb hr => hb.addOp r hr) rawOps h₀ h
  have ht : (b.generateTabletOps c).1 = ⟨c.obInvalidId, true,
      ((b.ops.zip (rawOps.filterMap (·.filterString))).zip (rawOps.filterMap (·.optionFlag))).map
        fun ((op, filterString), option) => singleOpOf op filterString option⟩ := by
    rw [← hb.filters, ← hb.options]
    rfl
  refine ⟨hb.ops, hb.filters, hb.options, ht, ?_, rfl, rfl, rfl⟩
  rw [ht]
  simp only [List.length_map, List.length_zip, hb.ops.length_eq]

/-- `generate_tablet_ops_of_add_ops` for an `insert` and then a `check_and_upsert`: one single
operation, built from the insert with the check-and-upsert's filter. -/
theorem generate_tablet_ops_of_insert_then_check :
    let rawOps : List (RawObTableOperation Int) := [⟨.insert, none, [1], some ["c"], some [2], none, none⟩,
      ⟨.checkAndInsertUp, some ["k"], [3], some ["c"], some [4], some "f", some ⟨true, true⟩⟩]
    ∃ b, (withOpsNum Reference.crate 0).addOps Reference.crate rawOps = .ok b ∧
      List.Forall₂ (Builds Reference.crate) rawOps b.ops ∧ b.filters = rawOps.filterMap (·.filterString) ∧
      b.options = rawOps.filterMap (·.optionFlag) ∧
      (b.generateTabletOps Reference.crate).1 = ⟨Reference.crate.obInvalidId, true,
        ((b.ops.zip (rawOps.filterMap (·.filterString))).zip (rawOps.filterMap (·.optionFlag))).map
          fun ((op, filterString), option) => singleOpOf op filterString option⟩ ∧
      (b.generateTabletOps Reference.crate).1.singleOps.length =
        min (min rawOps.length (rawOps.filterMap (·.filterString)).length) (rawOps.filterMap (·.optionFlag)).length ∧
      (b.generateTabletOps Reference.crate).2.ops = [] ∧ (b.generateTabletOps Reference.crate).2.filters = [] ∧
      (b.generateTabletOps Reference.crate).2.options = [] := by
  intro rawOps
  obtain ⟨b, h⟩ : ∃ b, (withOpsNum Reference.crate 0).addOps Reference.crate rawOps = .ok b := ⟨_, rfl⟩
  exact ⟨b, h, generate_tablet_ops_of_add_ops 0 rawOps h⟩

end ObTableBatchOperation

end ObkvTable
