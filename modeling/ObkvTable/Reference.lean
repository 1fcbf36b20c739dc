import ObkvTable.Wire

/-! A set of collaborators that meets both contracts.

Integers are base-128 varints of their zigzag code, strings and byte strings a varint length
and then their characters or bytes, values are integers and the header is the version and the
content length. `crate_sized` and `crate_inverse` show `Crate.Sized` and `Crate.Inverse` can be
met at once, so no theorem that assumes them is vacuous. -/
namespace ObkvTable.Reference

/-- Base-128 digits of `n`, least significant first; every byte but the last has its high bit
set. -/
def varint (n : Nat) : Bytes :=
  if n < 128 then [UInt8.ofNat n] else UInt8.ofNat (n % 128 + 128) :: varint (n / 128)
termination_by n
decreasing_by omega

/-- The number a varint at the front of `src` spells, and what follows it. -/
def takeVarint : Bytes → Option (Nat × Bytes)
  | [] => none
  | b :: rest =>
    if b.toNat < 128 then some (b.toNat, rest)
    else (takeVarint rest).map fun p => (b.toNat - 128 + 128 * p.1, p.2)

theorem takeVarint_varint (n : Nat) (rest : Bytes) : takeVarint (varint n ++ rest) = some (n, rest) := by
  induction n using varint.induct with
  | case1 n h =>
    have hb : (UInt8.ofNat n).toNat = n := UInt8.toNat_ofNat_of_lt (by unfold UInt8.size; omega)
    rw [varint, if_pos h, List.singleton_append, takeVarint, hb, if_pos h]
  | case2 n h ih =>
    have hb : (UInt8.ofNat (n % 128 + 128)).toNat = n % 128 + 128 :=
      UInt8.toNat_ofNat_of_lt (by unfold UInt8.size; omega)
    rw [varint, if_neg h, List.cons_append, takeVarint, if_neg (by omega), ih]
    simp only [hb, Option.map_some', Option.some.injEq, Prod.mk.injEq, and_true]
    omega

def readNat : Decoder Nat := fun src =>
  match takeVarint src with
  | some (n, rest) => .ok n rest
  | none => .error (.io "truncated varint") src

def writeNat (n : Nat) : Encoder := modify (· ++ varint n)

theorem writeNat_appends (n : Nat) : Appends (writeNat n) (varint n).length := fun _ => ⟨_, rfl, rfl⟩

theorem writeNat_encodes (n : Nat) : Encodes (writeNat n) readNat n :=
  fun _ => ⟨varint n, rfl, fun rest => by simp only [readNat, takeVarint_varint]⟩

/-! ### Integers -/

def zigzag (i : Int) : Nat := if 0 ≤ i then 2 * i.toNat else 2 * (-i).toNat - 1

def unzigzag (n : Nat) : Int := if n % 2 = 0 then ((n / 2 : Nat) : Int) else -(((n + 1) / 2 : Nat) : Int)

theorem unzigzag_zigzag (i : Int) : unzigzag (zigzag i) = i := by
  unfold zigzag unzigzag
  split <;> split <;> omega

def writeInt (i : Int) : Encoder := writeNat (zigzag i)

def readInt : Decoder Int := unzigzag <$> readNat

theorem writeInt_encodes (i : Int) : Encodes (writeInt i) readInt i := by
  simpa only [unzigzag_zigzag] using (writeNat_encodes (zigzag i)).map unzigzag

/-! ### Strings and byte strings -/

def writeString (s : String) : Encoder := do
  writeNat s.data.length
  s.data.forM fun ch => writeNat ch.toNat

def stringLen (s : String) : Nat :=
  (varint s.data.length).length + (s.data.map fun ch => (varint ch.toNat).length).sum

def readString : Decoder String := do
  let n ← readNat
  String.mk <$> decodeRepeat (Char.ofNat <$> readNat) n

theorem writeString_appends (s : String) : Appends (writeString s) (stringLen s) :=
  (writeNat_appends _).bind (Appends.forM (fun (ch : Char) => writeNat_appends ch.toNat) _)

theorem writeString_encodes (s : String) : Encodes (writeString s) readString s := by
  have hcs : Encodes (s.data.forM fun ch => writeNat ch.toNat)
      (decodeRepeat (Char.ofNat <$> readNat) s.data.length) s.data :=
    Encodes.forM s.data fun ch _ => by
      simpa only [Char.ofNat_toNat] using (writeNat_encodes ch.toNat).map Char.ofNat
  exact (writeNat_encodes _).bind (hcs.map String.mk)

def writeBytes (bs : Bytes) : Encoder := do
  writeNat bs.length
  modify (· ++ bs)

def bytesLen (bs : Bytes) : Nat := (varint bs.length).length + bs.length

/-- `split_buf_to`: the first `n` bytes, when there are that many. -/
def splitBufTo (n : Nat) : Decoder Bytes := fun src =>
  if n ≤ src.length then .ok (src.take n) (src.drop n) else .error (.io "buffer too short") src

theorem splitBufTo_append (bs rest : Bytes) : splitBufTo bs.length (bs ++ rest) = .ok bs rest := by
  rw [splitBufTo, if_pos (by simp), List.take_left, List.drop_left]

def readBytes : Decoder Bytes := do
  let n ← readNat
  splitBufTo n

theorem writeBytes_appends (bs : Bytes) : Appends (writeBytes bs) (bytesLen bs) :=
  (writeNat_appends _).bind fun _ => ⟨bs, rfl, rfl⟩

theorem writeBytes_encodes (bs : Bytes) : Encodes (writeBytes bs) readBytes bs :=
  (writeNat_encodes _).bind fun _ => ⟨bs, rfl, splitBufTo_append bs⟩

/-! ### The header -/

def writeHeader (b : BasePayLoad) (n : Nat) : Encoder := do
  writeInt b.version
  writeNat n

def readHeader : EStateM Fault (BasePayLoad × Bytes) Unit := do
  let version ← onSrc readInt
  let _ ← onSrc readNat
  modify fun (b, src) => ({b with version := version}, src)

theorem writeHeader_appends (b : BasePayLoad) (n : Nat) :
    Appends (writeHeader b n) ((varint (zigzag b.version)).length + (varint n).length) :=
  (writeNat_appends _).bind (writeNat_appends _)

theorem writeHeader_read (b : BasePayLoad) (n : Nat) (buf : Bytes) :
    ∃ bs, writeHeader b n buf = .ok () (buf ++ bs) ∧
      ∀ b₀ rest, ∃ b', readHeader (b₀, bs ++ rest) = .ok () (b', rest) := by
  obtain ⟨bs, hbs, hv⟩ := writeInt_encodes b.version buf
  obtain ⟨cs, hcs, hn⟩ := writeNat_encodes n (buf ++ bs)
  refine ⟨bs ++ cs, by rw [writeHeader, bind_of_ok hbs, hcs, List.append_assoc], fun b₀ rest => ?_⟩
  rw [readHeader, List.append_assoc, bind_of_ok (onSrc_of_ok (hv _)), bind_of_ok (onSrc_of_ok (hn _))]
  exact ⟨_, rfl⟩

/-! ### The collaborators -/

/-- Collaborators over integer values. -/
def crate : Crate Int where
  encodeVi64 := writeInt
  encodedLengthVi64 i := (varint (zigzag i)).length
  decodeVi64 := readInt
  encodeVi32 := writeInt
  encodedLengthVi32 i := (varint (zigzag i)).length
  decodeVi32 := readInt
  encodeVstring := writeString
  encodedLengthVstring := stringLen
  decodeVstring := readString
  encodeBytesString := writeBytes
  encodedLengthBytesString := bytesLen
  decodeBytesString := readBytes
  encodeBytes := writeBytes
  decodeBytes := readBytes
  encodedLengthI8 _ := 1
  splitBufTo := splitBufTo
  valueEncode := writeInt
  valueLen i := (varint (zigzag i)).length
  tableObjEncode := writeInt
  tableObjLen i := (varint (zigzag i)).length
  decodeValue := readInt
  valueDefault := 0
  encodeHeader := writeHeader
  headerLen b n := (varint (zigzag b.version)).length + (varint n).length
  decodeBase := readHeader
  dummy := ⟨1, 0, 0, 0⟩
  newBase := ⟨1, 0, 0, 0⟩
  obInvalidId := -1
  opResultSize := 128

theorem crate_sized : crate.Sized where
  vi64 _ := writeNat_appends _
  vi32 _ := writeNat_appends _
  vstring := writeString_appends
  bytesString := writeBytes_appends
  i8 := appends_putI8
  value _ := writeNat_appends _
  tableObj _ := writeNat_appends _
  header := writeHeader_appends

theorem crate_inverse : crate.Inverse where
  vi64 := writeInt_encodes
  vi32 := writeInt_encodes
  vstring := writeString_encodes
  bytes := writeBytes_encodes
  value := writeInt_encodes
  header := writeHeader_read
  splitBufTo := splitBufTo_append

end ObkvTable.Reference
