import Mathlib

/-! Buffers, faults and the collaborators of `payloads.rs`.

A Rust `&mut BytesMut` threaded through `Result`-returning calls is the state of an `EStateM`:
an encoder appends to `buf`, a decoder consumes `src` from the front, and what either did stays
when it returns `Err` or panics, as it does in Rust.

Everything `payloads.rs` calls outside itself — the `util` varint and string codecs, `Value`'s
two encodings and its decoder, the header methods of `ObPayload`, `BasePayLoad`'s constructors,
`OB_INVALID_ID` and the size the compiler gives an `ObTableOperationResult` — is a field of
`Crate`. What the proofs ask of those fields is written once:
`Crate.Sized`, each length function counts the bytes its encoder appends, and `Crate.Inverse`,
each decoder reads back what its encoder wrote. -/
namespace ObkvTable

/-- The contents of a `BytesMut`. -/
abbrev Bytes := List UInt8

/-- How a call ends when it does not return `Ok`. -/
inductive Fault where
  /-- `io::Error::new(ErrorKind::InvalidData, msg)`. -/
  | invalidData (msg : String)
  /-- Any other `io::Error`, from a collaborator. -/
  | io (msg : String)
  /-- `panic!`, a failed `assert_eq!`, `unimplemented!()` or an index out of bounds. -/
  | panic (msg : String)
  deriving DecidableEq, Repr

/-- `fn encode(&self, buf: &mut BytesMut) -> Result<()>`. -/
abbrev Encoder := EStateM Fault Bytes Unit

/-- A `util` decoder: reads a value from the front of `src`. -/
abbrev Decoder (α : Type) := EStateM Fault Bytes α

/-- The header fields of every payload. -/
structure BasePayLoad where
  version : Int
  channelId : Int
  timeout : Int
  flag : Nat
  deriving DecidableEq, Repr

/-! ### `BufMut` and `Buf` -/

/-- `buf.put_u8(x)`. -/
def putU8 (x : UInt8) : Encoder := modify (· ++ [x])

/-- `buf.put_i8(x)`: the two's complement byte of `x`. -/
def putI8 (x : Int) : Encoder := putU8 (x % 256).toNat.toUInt8

/-- `buf.put_i64(x)`: the eight two's complement bytes of `x`, most significant first. -/
def putI64 (x : Int) : Encoder :=
  modify (· ++ (List.range 8).reverse.map fun i => ((x % 2 ^ 64).toNat / 256 ^ i).toUInt8)

/-- `Buf::get_i8`: the first byte, read as signed; it panics on an empty buffer. -/
def getI8 {σ : Type} : Bytes → EStateM Fault σ Int
  | b :: _ => pure (if b.toNat < 128 then b.toNat else b.toNat - 256)
  | [] => throw (.panic "advance out of bounds")

/-- The panic of `xs[i]` past the end of a vector of length `len`. -/
def outOfBounds (len i : Nat) : Fault :=
  .panic ("index out of bounds: the len is " ++ toString len ++ " but the index is " ++ toString i)

/-- `xs[i]`. -/
def index {α : Type} (xs : List α) (i : Nat) : Except Fault α :=
  match xs[i]? with
  | some x => pure x
  | none => throw (outOfBounds xs.length i)

theorem index_of_lt {α : Type} {xs : List α} {i : Nat} (h : i < xs.length) (d : α) :
    index xs i = .ok (xs.getD i d) := by
  simp only [index, List.getElem?_eq_getElem h, List.getD_eq_getElem?_getD, Option.getD_some]
  rfl

theorem index_length {α : Type} (xs : List α) : index xs xs.length = .error (outOfBounds xs.length xs.length) := by
  simp only [index, List.getElem?_eq_none (Nat.le_refl _)]
  rfl

/-! ### Loops in `Except` -/

section Loops
variable {α : Type _} {β : Type} {f : β → α → Except Fault β} {g : β → α → β}

/-- A loop whose every step succeeds is the fold of what the steps do. -/
theorem foldlM_of_ok (l : List α) (h : ∀ b, ∀ a ∈ l, f b a = .ok (g b a)) (b : β) :
    l.foldlM f b = .ok (l.foldl g b) := by
  induction l generalizing b with
  | nil => rfl
  | cons a l ih =>
    rw [List.foldlM_cons, h b a (List.mem_cons_self a l)]
    exact ih (fun b a ha => h b a (List.mem_cons_of_mem _ ha)) _

/-- A loop fails with the first failing step. -/
theorem foldlM_of_error (l l' : List α) (a : α) {e : Fault} (h : ∀ b, ∀ x ∈ l, f b x = .ok (g b x))
    (ha : ∀ b, f b a = .error e) (b : β) : (l ++ a :: l').foldlM f b = .error e := by
  rw [List.foldlM_append, foldlM_of_ok l h]
  show (f (l.foldl g b) a >>= _) = _
  rw [ha]
  rfl

/-- A loop invariant over the steps taken so far: kept by every successful step, it holds when
the whole loop succeeds. -/
theorem foldlM_induction (I : List α → β → Prop) (h : ∀ pre a b b', I pre b → f b a = .ok b' → I (pre ++ [a]) b')
    (l : List α) {pre : List α} {b b' : β} (hb : I pre b) (hl : l.foldlM f b = .ok b') : I (pre ++ l) b' := by
  induction l generalizing pre b with
  | nil => cases hl; rwa [List.append_nil]
  | cons a l ih =>
    rw [List.foldlM_cons] at hl
    cases ha : f b a with
    | error e => rw [ha] at hl; cases hl
    | ok b₁ =>
      rw [ha] at hl
      simpa only [List.append_assoc, List.singleton_append] using ih (h pre a b b₁ hb ha) hl

end Loops

/-! ### Decoding into `self`

A payload's `decode(&mut self, src)` mutates `self` and `src`; its state is the pair. -/

/-- A `util` decoder called from a payload's `decode`: it moves `src` and leaves `self`. -/
def onSrc {S α : Type} (m : Decoder α) : EStateM Fault (S × Bytes) α := fun (s, src) =>
  match m src with
  | .ok a src' => .ok a (s, src')
  | .error f src' => .error f (s, src')

/-- `self.part.decode(src)?`: what the part's decoder leaves in the part stays, also on failure. -/
def decodeField {S T : Type} (get : S → T) (set : S → T → S) (d : EStateM Fault (T × Bytes) Unit) :
    EStateM Fault (S × Bytes) Unit := fun (s, src) =>
  match d (get s, src) with
  | .ok () (t, src') => .ok () (set s t, src')
  | .error f (t, src') => .error f (set s t, src')

/-- `let mut x = init; x.decode(src)?;`: a local decoded in place, dropped on failure. -/
def decodeLocal {S T : Type} (d : EStateM Fault (T × Bytes) Unit) (init : T) :
    EStateM Fault (S × Bytes) T := fun (s, src) =>
  match d (init, src) with
  | .ok () (t, src') => .ok t (s, src')
  | .error f (_, src') => .error f (s, src')

/-- `for _ in 0..n { xs.push(d?) }`, for a fresh `xs`. -/
def decodeRepeat {α : Type} (d : Decoder α) : Nat → Decoder (List α)
  | 0 => pure []
  | n + 1 => do
    let x ← d
    let xs ← decodeRepeat d n
    pure (x :: xs)

/-- `for _ in 0..n { let mut x = init; x.decode(src)?; self.xs.push(x); }`, where `get` and `set`
read and write the list `xs` of `self`; also the `while len > 0 { ...; len -= 1; }` form of it. -/
def decodePush {S T : Type} (d : EStateM Fault (T × Bytes) Unit) (init : T) (get : S → List T)
    (set : S → List T → S) : Nat → EStateM Fault (S × Bytes) Unit
  | 0 => pure ()
  | n + 1 => do
    let x ← decodeLocal d init
    modify fun (s, src) => (set s (get s ++ [x]), src)
    decodePush d init get set n

/-! ### The collaborators -/

/-- What `payloads.rs` calls outside itself, for key and property values of type `V`. -/
structure Crate (V : Type) where
  /-- `util::encode_vi64`, `util::encoded_length_vi64`, `util::decode_vi64`, and the same for
  `vi32`, `vstring` and `bytes_string`. -/
  encodeVi64 : Int → Encoder
  encodedLengthVi64 : Int → Nat
  decodeVi64 : Decoder Int
  encodeVi32 : Int → Encoder
  encodedLengthVi32 : Int → Nat
  decodeVi32 : Decoder Int
  encodeVstring : String → Encoder
  encodedLengthVstring : String → Nat
  decodeVstring : Decoder String
  encodeBytesString : Bytes → Encoder
  encodedLengthBytesString : Bytes → Nat
  decodeBytesString : Decoder Bytes
  /-- `util::decode_bytes` and the writer whose output it reads. -/
  encodeBytes : Bytes → Encoder
  decodeBytes : Decoder Bytes
  /-- `util::encoded_length_i8`. -/
  encodedLengthI8 : Int → Nat
  /-- `util::split_buf_to`: the first `n` bytes of `src`. -/
  splitBufTo : Nat → Decoder Bytes
  /-- `Value::encode`, `Value::len`, `Value::table_obj_encode`, `Value::table_obj_len`,
  `util::decode_value` and `Value::default()`. -/
  valueEncode : V → Encoder
  valueLen : V → Nat
  tableObjEncode : V → Encoder
  tableObjLen : V → Nat
  decodeValue : Decoder V
  valueDefault : V
  /-- `ObPayload::encode_header` and the header's part of `ObPayload::len`, for a payload with
  this base and content length, and `ObPayload::decode_base`. -/
  encodeHeader : BasePayLoad → Nat → Encoder
  headerLen : BasePayLoad → Nat → Nat
  decodeBase : EStateM Fault (BasePayLoad × Bytes) Unit
  /-- `BasePayLoad::dummy()` and `BasePayLoad::new()`. -/
  dummy : BasePayLoad
  newBase : BasePayLoad
  /-- `location::OB_INVALID_ID`. -/
  obInvalidId : Int
  /-- `size_of::<ObTableOperationResult>()`: the bytes `Vec::reserve` sets aside per result. -/
  opResultSize : Nat

/-- `m` succeeds on every buffer and appends exactly `n` bytes to it. -/
def Appends (m : Encoder) (n : Nat) : Prop :=
  ∀ buf, ∃ bs, m buf = .ok () (buf ++ bs) ∧ bs.length = n

/-- `enc` succeeds on every buffer, and `dec` reads what it appended back as `x`, leaving
whatever follows. -/
def Encodes {α : Type} (enc : Encoder) (dec : Decoder α) (x : α) : Prop :=
  ∀ buf, ∃ bs, enc buf = .ok () (buf ++ bs) ∧ ∀ rest, dec (bs ++ rest) = .ok x rest

variable {V : Type}

/-- Each `encoded_length_*`, `Value::len` and `table_obj_len`, and the header length, is the
number of bytes its encoder appends. -/
structure Crate.Sized (c : Crate V) : Prop where
  vi64 : ∀ n, Appends (c.encodeVi64 n) (c.encodedLengthVi64 n)
  vi32 : ∀ n, Appends (c.encodeVi32 n) (c.encodedLengthVi32 n)
  vstring : ∀ s, Appends (c.encodeVstring s) (c.encodedLengthVstring s)
  bytesString : ∀ b, Appends (c.encodeBytesString b) (c.encodedLengthBytesString b)
  i8 : ∀ x, Appends (putI8 x) (c.encodedLengthI8 x)
  value : ∀ v, Appends (c.valueEncode v) (c.valueLen v)
  tableObj : ∀ v, Appends (c.tableObjEncode v) (c.tableObjLen v)
  header : ∀ b n, Appends (c.encodeHeader b n) (c.headerLen b n)

/-- The header, varint, string, byte-string and `Value` encodings are each undone by their
decoders, and `split_buf_to` returns the bytes it is asked for. -/
structure Crate.Inverse (c : Crate V) : Prop where
  vi64 : ∀ n, Encodes (c.encodeVi64 n) c.decodeVi64 n
  vi32 : ∀ n, Encodes (c.encodeVi32 n) c.decodeVi32 n
  vstring : ∀ s, Encodes (c.encodeVstring s) c.decodeVstring s
  bytes : ∀ b, Encodes (c.encodeBytes b) c.decodeBytes b
  value : ∀ v, Encodes (c.valueEncode v) c.decodeValue v
  header : ∀ b n buf, ∃ bs, c.encodeHeader b n buf = .ok () (buf ++ bs) ∧
    ∀ b₀ rest, ∃ b', c.decodeBase (b₀, bs ++ rest) = .ok () (b', rest)
  splitBufTo : ∀ bs rest, c.splitBufTo bs.length (bs ++ rest) = .ok bs rest

/-! ### Running `EStateM` -/

section Run
variable {ε σ α β : Type} {x : EStateM ε σ α} {f : α → EStateM ε σ β} {s s' : σ}

theorem bind_of_ok {a : α} (h : x s = .ok a s') : (x >>= f) s = f a s' := by
  show EStateM.bind x f s = _
  simp only [EStateM.bind, h]

theorem bind_of_error {e : ε} (h : x s = .error e s') : (x >>= f) s = .error e s' := by
  show EStateM.bind x f s = _
  simp only [EStateM.bind, h]

theorem modify_bind {g : σ → σ} {k : PUnit → EStateM ε σ β} : (modify g >>= k) s = k ⟨⟩ (g s) := rfl

theorem get_bind {k : σ → EStateM ε σ β} : (get >>= k) s = k s s := rfl

end Run

section Focus
variable {S T α : Type} {s : S} {t t' : T} {src src' : Bytes}

theorem onSrc_of_ok {m : Decoder α} {a : α} (h : m src = .ok a src') :
    onSrc m (s, src) = .ok a (s, src') := by
  simp only [onSrc, h]

theorem decodeField_of_ok {get : S → T} {set : S → T → S} {d : EStateM Fault (T × Bytes) Unit}
    (h : d (get s, src) = .ok () (t', src')) :
    decodeField get set d (s, src) = .ok () (set s t', src') := by
  simp only [decodeField, h]

/-- `decodeField_of_ok` for a state whose field is `t`, for rewriting inside a run. -/
theorem decodeField_of_get {get : S → T} {set : S → T → S} {d : EStateM Fault (T × Bytes) Unit}
    (hs : get s = t) (h : d (t, src) = .ok () (t', src')) :
    decodeField get set d (s, src) = .ok () (set s t', src') := by
  subst hs
  exact decodeField_of_ok h

theorem decodeLocal_of_ok {d : EStateM Fault (T × Bytes) Unit} (h : d (t, src) = .ok () (t', src')) :
    decodeLocal d t (s, src) = .ok t' (s, src') := by
  simp only [decodeLocal, h]

end Focus

/-! ### Encoders that append a known number of bytes -/

theorem appends_pure : Appends (pure ()) 0 :=
  fun buf => ⟨[], by rw [List.append_nil]; rfl, rfl⟩

theorem Appends.bind {m k : Encoder} {a b : Nat} (hm : Appends m a) (hk : Appends k b) :
    Appends (m >>= fun _ => k) (a + b) := by
  intro buf
  obtain ⟨bs, hbs, rfl⟩ := hm buf
  obtain ⟨cs, hcs, rfl⟩ := hk (buf ++ bs)
  exact ⟨bs ++ cs, by rw [bind_of_ok hbs, hcs, List.append_assoc], List.length_append ..⟩

theorem Appends.of_eq {m : Encoder} {a b : Nat} (h : Appends m a) (e : a = b) : Appends m b := e ▸ h

theorem Appends.forM {α : Type} {f : α → Encoder} {len : α → Nat} (h : ∀ x, Appends (f x) (len x))
    (xs : List α) : Appends (xs.forM f) (xs.map len).sum := by
  induction xs with
  | nil => exact appends_pure
  | cons x xs ih => simpa only [List.forM_cons', List.map_cons, List.sum_cons] using (h x).bind ih

theorem appends_putU8 (x : UInt8) : Appends (putU8 x) 1 := fun _ => ⟨_, rfl, rfl⟩

theorem appends_putI8 (x : Int) : Appends (putI8 x) 1 := appends_putU8 _

theorem appends_putI64 (x : Int) : Appends (putI64 x) 8 := fun _ => ⟨_, rfl, by simp⟩

/-- `buf.put_i8(x as i8)` for a `bool` writes `1` or `0`. -/
theorem putI8_bool (x : Bool) (buf : Bytes) : putI8 x.toNat buf = .ok () (buf ++ [if x then 1 else 0]) := by
  cases x <;> rfl

/-! ### Encoders whose output a decoder reads back -/

theorem Encodes.bind {α β : Type} {e e' : Encoder} {d : Decoder α} {k : α → Decoder β} {x : α}
    {y : β} (h : Encodes e d x) (h' : Encodes e' (k x) y) :
    Encodes (e >>= fun _ => e') (d >>= k) y := by
  intro buf
  obtain ⟨bs, hbs, hd⟩ := h buf
  obtain ⟨cs, hcs, hk⟩ := h' (buf ++ bs)
  refine ⟨bs ++ cs, by rw [bind_of_ok hbs, hcs, List.append_assoc], fun rest => ?_⟩
  rw [List.append_assoc, bind_of_ok (hd _), hk]

theorem Encodes.map {α β : Type} {e : Encoder} {d : Decoder α} {x : α} (g : α → β)
    (h : Encodes e d x) : Encodes e (g <$> d) (g x) := fun buf => by
  obtain ⟨bs, hbs, hd⟩ := h buf
  exact ⟨bs, hbs, fun rest => by
    show EStateM.map g d (bs ++ rest) = _
    simp only [EStateM.map, hd]⟩

/-- A list written element by element is read back by as many reads. -/
theorem Encodes.forM {α : Type} {f : α → Encoder} {d : Decoder α} :
    ∀ xs : List α, (∀ x ∈ xs, Encodes (f x) d x) → Encodes (xs.forM f) (decodeRepeat d xs.length) xs
  | [], _ => fun buf => ⟨[], by rw [List.append_nil]; rfl, fun _ => rfl⟩
  | x :: xs, h => by
    intro buf
    obtain ⟨bs, hbs, hd⟩ := h x (List.mem_cons_self x xs) buf
    obtain ⟨cs, hcs, hk⟩ := Encodes.forM xs (fun y hy => h y (List.mem_cons_of_mem x hy)) (buf ++ bs)
    refine ⟨bs ++ cs, by rw [List.forM_cons', bind_of_ok hbs, hcs, List.append_assoc], fun rest => ?_⟩
    rw [List.length_cons, decodeRepeat, List.append_assoc, bind_of_ok (hd _), bind_of_ok (hk _)]
    rfl

/-! ### Loops that decode into a list -/

section Push
variable {α S T : Type} {d : EStateM Fault (T × Bytes) Unit} {init : T} {get : S → List T}
  {set : S → List T → S}

/-- Items written one after another are read back by as many turns of the loop, each pushed
after the ones before, when `get` and `set` are a field's projection and update. -/
theorem decodePush_forM (hget : ∀ s l, get (set s l) = l) (hset : ∀ s l l', set (set s l) l' = set s l')
    (hgs : ∀ s, set s (get s) = s) {f : α → Encoder} {R : T → α → Prop} (xs : List α)
    (h : ∀ x ∈ xs, ∀ buf, ∃ bs, f x buf = .ok () (buf ++ bs) ∧
      ∀ rest, ∃ t, d (init, bs ++ rest) = .ok () (t, rest) ∧ R t x) (buf : Bytes) :
    ∃ bs, xs.forM f buf = .ok () (buf ++ bs) ∧ ∀ s rest, ∃ ts,
      decodePush d init get set xs.length (s, bs ++ rest) = .ok () (set s (get s ++ ts), rest) ∧
        List.Forall₂ R ts xs := by
  induction xs generalizing buf with
  | nil => exact ⟨[], by rw [List.append_nil]; rfl, fun s rest => ⟨[], by rw [List.append_nil, hgs]; rfl, .nil⟩⟩
  | cons x xs ih =>
    obtain ⟨bs, hbs, hd⟩ := h x (List.mem_cons_self x xs) buf
    obtain ⟨cs, hcs, hdc⟩ := ih (fun y hy => h y (List.mem_cons_of_mem x hy)) (buf ++ bs)
    refine ⟨bs ++ cs, by rw [List.forM_cons', bind_of_ok hbs, hcs, List.append_assoc], fun s rest => ?_⟩
    obtain ⟨t, ht, hR⟩ := hd (cs ++ rest)
    obtain ⟨ts, hts, hRs⟩ := hdc (set s (get s ++ [t])) rest
    refine ⟨t :: ts, ?_, .cons hR hRs⟩
    rw [List.length_cons, decodePush, List.append_assoc, bind_of_ok (decodeLocal_of_ok ht), modify_bind, hts,
      hget, hset, List.append_assoc, List.singleton_append]

end Push

end ObkvTable
