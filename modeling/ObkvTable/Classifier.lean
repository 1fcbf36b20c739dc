import ObkvTable.Batch

/-! The flags of a structured batch against the operations it holds.

`add_op` keeps `read_only`, `same_type` and `same_properties_names` by comparing each new
operation with the first stored one only. `Classified` says what the three flags are in terms
of the tuples a batch was built from, and `Classified.addOps` that every run of `add_op` keeps
it. From it, `flags_of_add_ops`: the batch stores one operation per call, and the first two
flags are the reductions over the whole list of stored operations, all `Get`s and all of the
first operation's type; and
`same_properties_names_of_add_ops`: the third is the conjunction of the names comparison of
every later tuple's columns with the first operation's properties. `encode_flags_of_add_ops`
carries the three to the wire: they are the last three bytes the batch writes.

The names comparison is not a set comparison: `samePropertiesNamesWith_iff` says a column list
passes against a non-empty map when it has the map's size, no repeated name, and every name
but the last among the map's keys. `insert_then_update_foreign_last_name` is a run where the
flag stays set while the two operations' names differ. -/
namespace ObkvTable.ObTableBatchOperation

variable {V : Type} (c : Crate V)

/-- A sequence of `add_op` calls; each builder is an `add_op` of its own tuple. -/
def addOps (b : ObTableBatchOperation V) (rawOps : List (RawObTableOperation V)) :
    Except Fault (ObTableBatchOperation V) :=
  rawOps.foldlM (addOp c) b

variable {c}

/-- A structured batch built from the tuples `history`, its three flags what they say of its
operations. -/
structure Classified (history : List (RawObTableOperation V)) (b : ObTableBatchOperation V) : Prop where
  structured : b.raw = false
  length : b.ops.length = history.length
  readOnly : b.readOnly = true ↔ ∀ op ∈ b.ops, op.opType = .get
  sameType : b.sameType = true ↔ ∀ first ∈ b.ops.head?, ∀ op ∈ b.ops, op.opType = first.opType
  samePropertiesNames : b.samePropertiesNames = true ↔
    ∀ first ∈ b.ops.head?, ∀ r ∈ history.tail, samePropertiesNamesWith first.entity.properties r.columns = true

theorem classified_internalNew (n : Nat) : Classified [] (internalNew c false n) :=
  ⟨rfl, rfl, by simp [internalNew], by simp [internalNew], by simp [internalNew]⟩

section Store
variable {history : List (RawObTableOperation V)} {b : ObTableBatchOperation V}
  (rawOp : RawObTableOperation V) (op : ObTableOperation V)

theorem Classified.store_readOnly (h : Classified history b) (hop : op.opType = rawOp.opType) :
    (b.store rawOp op).readOnly = true ↔ ∀ o ∈ (b.store rawOp op).ops, o.opType = .get := by
  rw [ObTableBatchOperation.store_readOnly, store_ops]
  simp only [List.mem_append, List.mem_singleton, or_imp, forall_and, forall_eq, elim_setRowKeyNames_opType, hop,
    ← h.readOnly]
  by_cases ht : rawOp.opType = .get <;> cases b.readOnly <;> simp [ht]

theorem Classified.store_sameType (h : Classified history b) (hop : op.opType = rawOp.opType) :
    (b.store rawOp op).sameType = true ↔
      ∀ first ∈ (b.store rawOp op).ops.head?, ∀ o ∈ (b.store rawOp op).ops, o.opType = first.opType := by
  rw [ObTableBatchOperation.store_sameType, store_ops]
  have hs := h.sameType
  rcases hb : b.ops with _ | ⟨first, rest⟩ <;> rw [hb] at hs
  · simpa using hs
  · simp only [List.head?_cons, Option.mem_def, Option.some.injEq, forall_eq', List.cons_append,
      List.mem_cons, List.mem_append, List.mem_singleton, List.not_mem_nil, or_false, or_imp,
      forall_and, forall_eq, elim_setRowKeyNames_opType, hop, true_and] at hs ⊢
    rw [← hs]
    by_cases ht : rawOp.opType = first.opType <;> cases b.sameType <;> simp [ht, Ne.symm]

theorem Classified.store_samePropertiesNames (h : Classified history b) :
    (b.store rawOp op).samePropertiesNames = true ↔ ∀ first ∈ (b.store rawOp op).ops.head?,
      ∀ r ∈ (history ++ [rawOp]).tail, samePropertiesNamesWith first.entity.properties r.columns = true := by
  rw [ObTableBatchOperation.store_samePropertiesNames, store_ops]
  have hs := h.samePropertiesNames
  have hl := h.length
  rcases hb : b.ops with _ | ⟨first, rest⟩ <;> rw [hb] at hs hl
  · obtain rfl : history = [] := List.length_eq_zero.mp hl.symm
    simpa using hs
  · obtain ⟨h₀, hs₀, rfl⟩ := List.exists_cons_of_length_eq_add_one hl.symm
    simp only [List.head?_cons, Option.mem_def, Option.some.injEq, forall_eq', List.cons_append,
      List.tail_cons, List.mem_append, List.mem_singleton, or_imp, forall_and, forall_eq] at hs ⊢
    rw [← hs]
    cases b.samePropertiesNames <;> simp

/-- Storing an operation of type `rawOp.opType` keeps the flags right. -/
theorem Classified.store (h : Classified history b) (hop : op.opType = rawOp.opType) :
    Classified (history ++ [rawOp]) (b.store rawOp op) :=
  ⟨h.structured, by simp [h.length], h.store_readOnly rawOp op hop, h.store_sameType rawOp op hop,
    h.store_samePropertiesNames rawOp op⟩

end Store

/-- The flags stay right over any sequence of `add_op` calls. -/
theorem Classified.addOps {history : List (RawObTableOperation V)} {b b' : ObTableBatchOperation V}
    (hb : Classified history b) (rawOps : List (RawObTableOperation V)) (h : b.addOps c rawOps = .ok b') :
    Classified (history ++ rawOps) b' :=
  foldlM_induction Classified (fun _ r _ _ hb hr =>
    let ⟨_, hop, he⟩ := addOp_ok_structured hb.structured hr
    he ▸ hb.store r _ (ObTableOperation.new_opType hop)) rawOps hb h

/-- **`read_only` and `same_type` are whole-list reductions.** After any sequence of `add_op`
calls on `new()` or `with_ops_num(n)`, the batch stores one operation per call, `read_only`
holds exactly when every stored operation is a `Get`, and `same_type` exactly when every stored
operation has the first one's type. -/
theorem flags_of_add_ops (n : Nat) (rawOps : List (RawObTableOperation V)) {b : ObTableBatchOperation V}
    (h : (withOpsNum c n).addOps c rawOps = .ok b) :
    b.ops.length = rawOps.length ∧ (b.readOnly = true ↔ ∀ op ∈ b.ops, op.opType = .get) ∧
      (b.sameType = true ↔ ∀ first ∈ b.ops.head?, ∀ op ∈ b.ops, op.opType = first.opType) :=
  let hb := (classified_internalNew n).addOps rawOps h
  ⟨hb.length, hb.readOnly, hb.sameType⟩

/-- `flags_of_add_ops` for a get followed by an insert. -/
theorem flags_of_get_then_insert :
    let rawOps : List (RawObTableOperation Int) :=
      [⟨.get, none, [1], some ["c"], none, none, none⟩, ⟨.insert, none, [1], some ["c"], some [2], none, none⟩]
    ∃ b, (withOpsNum Reference.crate 0).addOps Reference.crate rawOps = .ok b ∧
      b.ops.length = rawOps.length ∧ (b.readOnly = true ↔ ∀ op ∈ b.ops, op.opType = .get) ∧
      (b.sameType = true ↔ ∀ first ∈ b.ops.head?, ∀ op ∈ b.ops, op.opType = first.opType) := by
  intro rawOps
  obtain ⟨b, h⟩ : ∃ b, (withOpsNum Reference.crate 0).addOps Reference.crate rawOps = .ok b := ⟨_, rfl⟩
  exact ⟨b, h, flags_of_add_ops 0 rawOps h⟩

/-- **`same_properties_names` is the names comparison of every later tuple.** After any
sequence of `add_op` calls on `new()` or `with_ops_num(n)`, the flag holds exactly when each
tuple after the first passes `samePropertiesNamesWith` against the first operation's
properties. -/
theorem same_properties_names_of_add_ops (n : Nat) (rawOps : List (RawObTableOperation V))
    {b : ObTableBatchOperation V} (h : (withOpsNum c n).addOps c rawOps = .ok b) :
    b.samePropertiesNames = true ↔
      ∀ first ∈ b.ops.head?, ∀ r ∈ rawOps.tail, samePropertiesNamesWith first.entity.properties r.columns = true :=
  ((classified_internalNew n).addOps rawOps h).samePropertiesNames

/-- `same_properties_names_of_add_ops` for two inserts of the same columns. -/
theorem same_properties_names_of_two_inserts :
    let rawOps : List (RawObTableOperation Int) :=
      [⟨.insert, none, [1], some ["c"], some [2], none, none⟩, ⟨.insert, none, [2], some ["c"], some [3], none, none⟩]
    ∃ b, (withOpsNum Reference.crate 0).addOps Reference.crate rawOps = .ok b ∧
      (b.samePropertiesNames = true ↔ ∀ first ∈ b.ops.head?, ∀ r ∈ rawOps.tail,
        samePropertiesNamesWith first.entity.properties r.columns = true) := by
  intro rawOps
  obtain ⟨b, h⟩ : ∃ b, (withOpsNum Reference.crate 0).addOps Reference.crate rawOps = .ok b := ⟨_, rfl⟩
  exact ⟨b, h, same_properties_names_of_add_ops 0 rawOps h⟩

/-- **The flag bytes a batch sends say what its operations are.** After any sequence of `add_op`
calls on `new()` or `with_ops_num(n)`, the batch's encoding, on any buffer, ends with three
bytes: `1` exactly when every operation is a `Get`, `1` exactly when every operation has the
first one's type, and `1` exactly when every tuple after the first passes
`samePropertiesNamesWith` against the first operation's properties; `0` otherwise. -/
theorem encode_flags_of_add_ops (hc : c.Sized) (n : Nat) (rawOps : List (RawObTableOperation V))
    {b : ObTableBatchOperation V} (h : (withOpsNum c n).addOps c rawOps = .ok b) (buf : Bytes) :
    ∃ bs, b.encode c buf = .ok () (buf ++ bs ++
      [if ∀ op ∈ b.ops, op.opType = .get then 1 else 0,
        if ∀ first ∈ b.ops.head?, ∀ op ∈ b.ops, op.opType = first.opType then 1 else 0,
        if ∀ first ∈ b.ops.head?, ∀ r ∈ rawOps.tail,
          samePropertiesNamesWith first.entity.properties r.columns = true then 1 else 0]) := by
  have hb := (classified_internalNew n).addOps rawOps h
  obtain ⟨h₁, hh₁, -⟩ := hc.header b.base (b.contentLen c) buf
  obtain ⟨h₂, hh₂, -⟩ := hc.vi64 b.ops.length (buf ++ h₁)
  obtain ⟨h₃, hh₃, -⟩ := Appends.forM (fun op => op.encode_appends hc) b.ops (buf ++ h₁ ++ h₂)
  refine ⟨h₁ ++ h₂ ++ h₃, ?_⟩
  rw [encode, bind_of_ok hh₁, bind_of_ok hh₂, bind_of_ok hh₃, bind_of_ok (putI8_bool _ _),
    bind_of_ok (putI8_bool _ _), putI8_bool, if_congr hb.readOnly rfl rfl, if_congr hb.sameType rfl rfl,
    if_congr hb.samePropertiesNames rfl rfl]
  simp only [List.append_assoc, List.cons_append, List.nil_append]

/-- `encode_flags_of_add_ops` for an insert of columns `a, b` and an update of columns `a, c`. -/
theorem encode_flags_of_insert_then_update :
    let rawOps : List (RawObTableOperation Int) := [⟨.insert, none, [1], some ["a", "b"], some [1, 2], none, none⟩,
      ⟨.update, none, [1], some ["a", "c"], some [1, 2], none, none⟩]
    Reference.crate.Sized ∧ ∃ b, (withOpsNum Reference.crate 0).addOps Reference.crate rawOps = .ok b ∧
      ∃ bs, b.encode Reference.crate [] = .ok () ([] ++ bs ++
        [if ∀ op ∈ b.ops, op.opType = .get then 1 else 0,
          if ∀ first ∈ b.ops.head?, ∀ op ∈ b.ops, op.opType = first.opType then 1 else 0,
          if ∀ first ∈ b.ops.head?, ∀ r ∈ rawOps.tail,
            samePropertiesNamesWith first.entity.properties r.columns = true then 1 else 0]) := by
  intro rawOps
  obtain ⟨b, h⟩ : ∃ b, (withOpsNum Reference.crate 0).addOps Reference.crate rawOps = .ok b := ⟨_, rfl⟩
  exact ⟨Reference.crate_sized, b, h, encode_flags_of_add_ops Reference.crate_sized 0 rawOps h []⟩

/-! ### The names comparison -/

section Names
variable (p : Properties V)

theorem length_insert_le (set : List String) (name : String) :
    (set.insert name).length ≤ set.length + 1 := by
  by_cases hs : name ∈ set <;> simp [hs]

theorem collectNames_length_le (set names : List String) :
    (collectNames p set names).length ≤ set.length + names.length := by
  induction names generalizing set with
  | nil => simp [collectNames]
  | cons name names ih =>
    have := length_insert_le set name
    unfold collectNames
    split
    · exact (ih _).trans (by simp only [List.length_cons]; omega)
    · simp only [List.length_cons]; omega

theorem forall_mem_dropLast_cons {name : String} (hp : name ∈ p) (names : List String) :
    (∀ n ∈ (name :: names).dropLast, n ∈ p) ↔ ∀ n ∈ names.dropLast, n ∈ p := by
  cases names with
  | nil => simp
  | cons m ms => simp [hp]

/-- The set the loop of `add_op` collects has one entry per name exactly when the names are
new and distinct and the loop did not stop before the last one. -/
theorem collectNames_length_eq (set names : List String) :
    (collectNames p set names).length = set.length + names.length ↔
      names.Nodup ∧ (∀ n ∈ names, n ∉ set) ∧ ∀ n ∈ names.dropLast, n ∈ p := by
  induction names generalizing set with
  | nil => simp [collectNames]
  | cons name names ih =>
    unfold collectNames
    by_cases hp : name ∈ p
    · rw [if_pos hp, forall_mem_dropLast_cons p hp]
      by_cases hs : name ∈ set
      · have := collectNames_length_le p set names
        simp only [List.insert_of_mem hs, List.length_cons, List.forall_mem_cons, hs, not_true_eq_false,
          false_and, and_false, iff_false]
        omega
      · rw [List.length_cons, Nat.add_comm names.length, ← Nat.add_assoc, ← List.length_insert_of_not_mem hs, ih]
        simp only [List.nodup_cons, List.forall_mem_cons, List.mem_insert_iff, not_or, forall_and,
          List.forall_mem_ne', hs, not_false_eq_true, true_and]
        tauto
    · rw [if_neg hp]
      have := length_insert_le set name
      cases names with
      | nil => by_cases hs : name ∈ set <;> simp [hs]
      | cons m ms =>
        simp only [List.length_cons, List.dropLast_cons₂, List.forall_mem_cons, hp, false_and, and_false,
          iff_false]
        omega

/-- **The names comparison of `add_op` misses a foreign last name.** Against a property map,
no columns pass exactly when the map is empty; a column list passes exactly when the map is
not empty and has the list's length, the list repeats no name, and every name but the last is
a key of the map. -/
theorem samePropertiesNamesWith_iff (names : List String) :
    (samePropertiesNamesWith p none = true ↔ p.entries = []) ∧
      (samePropertiesNamesWith p (some names) = true ↔
        p.entries ≠ [] ∧ p.entries.length = names.length ∧ names.Nodup ∧ ∀ n ∈ names.dropLast, n ∈ p) := by
  refine ⟨by cases h : p.entries <;> simp [samePropertiesNamesWith, h], ?_⟩
  have := collectNames_length_eq p [] names
  simp only [List.length_nil, Nat.zero_add, List.not_mem_nil, not_false_eq_true, implies_true,
    true_and] at this
  cases h : p.entries <;> simp [samePropertiesNamesWith, h, this]

/-- Inserting columns `a, b` and then updating columns `a, c` leaves `same_properties_names`
set, though the two operations' names differ. -/
theorem insert_then_update_foreign_last_name :
    ∃ b, ((new Reference.crate).insert Reference.crate [1] ["a", "b"] [1, 2] >>= fun b =>
        b.update Reference.crate [1] ["a", "c"] [1, 2]) = .ok b ∧
      b.samePropertiesNames = true ∧ (b.ops.map fun op => op.entity.properties.keys) = [["b", "a"], ["c", "a"]] :=
  ⟨_, rfl, rfl, rfl⟩

end Names

end ObkvTable.ObTableBatchOperation
