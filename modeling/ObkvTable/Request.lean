import ObkvTable.Batch

/-! The batch and login requests, and the length of every payload.

`ObTableBatchOperationRequest` writes the partition id after the return flags, where the
single-operation request writes it before the entity type, and its atomic flag last; its
`content_len()` adds the same parts in yet another order. `ObTableLoginRequest` writes four
bytes, then varints and strings.

`encode_appends_len`: with collaborators whose length functions count what their encoders
write, every payload of `payloads.rs` that is written to the wire appends exactly `len()` bytes
on any buffer, on either side of protocol version 4. -/
namespace ObkvTable

variable {V : Type} (c : Crate V)

structure ObTableBatchOperationRequest (V : Type) where
  base : BasePayLoad
  credential : Bytes
  tableName : String
  tableId : Int
  partitionId : Int
  entityType : ObTableEntityType
  batchOperation : ObTableBatchOperation V
  consistencyLevel : ObTableConsistencyLevel
  returnRowKey : Bool
  returnAffectedEntity : Bool
  returnAffectedRows : Bool
  atomicOp : Bool

namespace ObTableBatchOperationRequest

/-- `new`: the table, ids and atomic flag are the batch's at the time of the call. -/
def new (batchOperation : ObTableBatchOperation V) (timeout : Int) (flag : Nat) :
    ObTableBatchOperationRequest V where
  base := {c.newBase with timeout := timeout, flag := flag}
  credential := []
  tableName := batchOperation.tableName
  tableId := batchOperation.tableId
  partitionId := batchOperation.partitionId
  entityType := .dynamic
  atomicOp := batchOperation.atomicOp
  batchOperation := batchOperation
  consistencyLevel := .strong
  returnRowKey := false
  returnAffectedEntity := false
  returnAffectedRows := true

def contentLen (obVsnMajor : Int) (r : ObTableBatchOperationRequest V) : Nat :=
  c.encodedLengthBytesString r.credential + c.encodedLengthVstring r.tableName +
    c.encodedLengthVi64 r.tableId +
    (if obVsnMajor ≥ 4 then 8 else c.encodedLengthVi64 r.partitionId) +
    r.batchOperation.len c +
    c.encodedLengthI8 r.entityType.toI8 + c.encodedLengthI8 r.consistencyLevel.toI8 +
    c.encodedLengthI8 r.returnRowKey.toNat + c.encodedLengthI8 r.returnAffectedEntity.toNat +
    c.encodedLengthI8 r.returnAffectedRows.toNat + c.encodedLengthI8 r.atomicOp.toNat

def len (obVsnMajor : Int) (r : ObTableBatchOperationRequest V) : Nat :=
  c.headerLen r.base (r.contentLen c obVsnMajor) + r.contentLen c obVsnMajor

def encode (obVsnMajor : Int) (r : ObTableBatchOperationRequest V) : Encoder := do
  c.encodeHeader r.base (r.contentLen c obVsnMajor)
  c.encodeBytesString r.credential
  c.encodeVstring r.tableName
  c.encodeVi64 r.tableId
  putI8 r.entityType.toI8
  r.batchOperation.encode c
  putI8 r.consistencyLevel.toI8
  putI8 r.returnRowKey.toNat
  putI8 r.returnAffectedEntity.toNat
  putI8 r.returnAffectedRows.toNat
  (if obVsnMajor ≥ 4 then putI64 r.partitionId else c.encodeVi64 r.partitionId)
  putI8 r.atomicOp.toNat

variable {c}

theorem encode_appends (hc : c.Sized) (obVsnMajor : Int) (r : ObTableBatchOperationRequest V) :
    Appends (r.encode c obVsnMajor) (r.len c obVsnMajor) := by
  unfold encode len
  refine ((hc.header _ _).bind <| (hc.bytesString _).bind <| (hc.vstring _).bind <|
    (hc.vi64 _).bind <| (hc.i8 _).bind <| (r.batchOperation.encode_appends hc).bind <|
    (hc.i8 _).bind <| (hc.i8 _).bind <| (hc.i8 _).bind <| (hc.i8 _).bind <|
    (ObTableOperationRequest.appends_partitionId hc _ _).bind (hc.i8 _)).of_eq ?_
  simp only [contentLen]
  omega

end ObTableBatchOperationRequest

/-! ### The login request -/

structure ObTableLoginRequest where
  base : BasePayLoad
  authMethod : UInt8
  clientType : UInt8
  clientVersion : UInt8
  reserved1 : UInt8
  clientCapabilities : Int
  maxPacketSize : Int
  reserved2 : Int
  reserved3 : Int
  tenantName : String
  userName : String
  /-- password after hash -/
  passSecret : Bytes
  /-- 20-bytes random string -/
  passScramble : String
  databaseName : String
  ttlUs : Int

namespace ObTableLoginRequest

/-- `new`; `passScramble` is the random `security::get_password_scramble(PASS_SCRAMBLE_LEN)`
and `scramblePassword` is `security::scramble_password`. -/
def new (scramblePassword : String → String → Bytes) (passScramble : String)
    (tenantName userName databaseName password : String) : ObTableLoginRequest where
  base := c.newBase
  authMethod := 0x01
  clientType := 0x02
  clientVersion := 0x01
  reserved1 := 0
  clientCapabilities := 0
  maxPacketSize := 0
  reserved2 := 0
  reserved3 := 0
  tenantName := tenantName
  userName := userName
  passSecret := scramblePassword password passScramble
  passScramble := passScramble
  databaseName := databaseName
  ttlUs := 0

def contentLen (r : ObTableLoginRequest) : Nat :=
  4 + c.encodedLengthVi32 r.clientCapabilities + c.encodedLengthVi32 r.maxPacketSize +
    c.encodedLengthVi32 r.reserved2 + c.encodedLengthVi64 r.reserved3 +
    c.encodedLengthVstring r.tenantName + c.encodedLengthVstring r.userName +
    c.encodedLengthBytesString r.passSecret + c.encodedLengthVstring r.passScramble +
    c.encodedLengthVstring r.databaseName + c.encodedLengthVi64 r.ttlUs

def len (r : ObTableLoginRequest) : Nat := c.headerLen r.base (r.contentLen c) + r.contentLen c

def encode (r : ObTableLoginRequest) : Encoder := do
  c.encodeHeader r.base (r.contentLen c)
  putU8 r.authMethod
  putU8 r.clientType
  putU8 r.clientVersion
  putU8 r.reserved1
  c.encodeVi32 r.clientCapabilities
  c.encodeVi32 r.maxPacketSize
  c.encodeVi32 r.reserved2
  c.encodeVi64 r.reserved3
  c.encodeVstring r.tenantName
  c.encodeVstring r.userName
  c.encodeBytesString r.passSecret
  c.encodeVstring r.passScramble
  c.encodeVstring r.databaseName
  c.encodeVi64 r.ttlUs

variable {c}

theorem encode_appends (hc : c.Sized) (r : ObTableLoginRequest) : Appends (r.encode c) (r.len c) := by
  unfold encode len
  refine ((hc.header _ _).bind <| (appends_putU8 _).bind <| (appends_putU8 _).bind <|
    (appends_putU8 _).bind <| (appends_putU8 _).bind <| (hc.vi32 _).bind <| (hc.vi32 _).bind <|
    (hc.vi32 _).bind <| (hc.vi64 _).bind <| (hc.vstring _).bind <| (hc.vstring _).bind <|
    (hc.bytesString _).bind <| (hc.vstring _).bind <| (hc.vstring _).bind (hc.vi64 _)).of_eq ?_
  simp only [contentLen]
  omega

end ObTableLoginRequest

/-! ### Every payload -/

variable {c}

/-- **Every payload writes exactly `len()` bytes.** For collaborators whose length functions
count the bytes their encoders append, on any buffer and with the same protocol version in
`encode` and `len`: a row key appends its `content_len()`, and an entity, an operation, a
single-operation request, a batch, a batch request and a login request each append their
`len()`. -/
theorem encode_appends_len (hc : c.Sized) (obVsnMajor : Int) :
    (∀ k : ObRowKey V, Appends (k.encode c) (k.contentLen c)) ∧
      (∀ e : ObTableEntity V, Appends (e.encode c) (e.len c)) ∧
      (∀ op : ObTableOperation V, Appends (op.encode c) (op.len c)) ∧
      (∀ r : ObTableOperationRequest V, Appends (r.encode c obVsnMajor) (r.len c obVsnMajor)) ∧
      (∀ b : ObTableBatchOperation V, Appends (b.encode c) (b.len c)) ∧
      (∀ r : ObTableBatchOperationRequest V, Appends (r.encode c obVsnMajor) (r.len c obVsnMajor)) ∧
      (∀ r : ObTableLoginRequest, Appends (r.encode c) (r.len c)) :=
  ⟨(·.encode_appends hc), (·.encode_appends hc), (·.encode_appends hc), (·.encode_appends hc obVsnMajor),
    (·.encode_appends hc), (·.encode_appends hc obVsnMajor), (·.encode_appends hc)⟩

/-- `encode_appends_len` for the reference collaborators, from protocol version 4 on. -/
theorem encode_appends_len_reference :
    Reference.crate.Sized ∧
      (∀ k : ObRowKey Int, Appends (k.encode Reference.crate) (k.contentLen Reference.crate)) ∧
      (∀ e : ObTableEntity Int, Appends (e.encode Reference.crate) (e.len Reference.crate)) ∧
      (∀ op : ObTableOperation Int, Appends (op.encode Reference.crate) (op.len Reference.crate)) ∧
      (∀ r : ObTableOperationRequest Int, Appends (r.encode Reference.crate 4) (r.len Reference.crate 4)) ∧
      (∀ b : ObTableBatchOperation Int, Appends (b.encode Reference.crate) (b.len Reference.crate)) ∧
      (∀ r : ObTableBatchOperationRequest Int, Appends (r.encode Reference.crate 4) (r.len Reference.crate 4)) ∧
      (∀ r : ObTableLoginRequest, Appends (r.encode Reference.crate) (r.len Reference.crate)) :=
  ⟨Reference.crate_sized, encode_appends_len Reference.crate_sized 4⟩

end ObkvTable
