import ObkvTable.Reference

/-! Row keys and entities, and the bytes they take.

An `ObTableEntity`'s `properties` is a Rust `HashMap<String, Value>`: an `AList` here, whose
`entries` are the map's iteration order — the order `encode` writes the properties in, and one
that no theorem below depends on. `ObPayload::len` is the header's length plus `content_len()`;
`ObRowKey` writes no header. `ObRowKey.encode_appends` and `ObTableEntity.encode_appends` say
that `encode` appends exactly that many bytes, on every buffer, in both encode modes.

`decode` adds what it reads to the entity it decodes into. `decode_encode`: an entity's own
bytes decode into a fresh entity with its keys and property map. `decode_layout`: any layout —
repeated names, counts of zero or less — decodes into any entity, the last value of a name
winning over earlier ones and over what the entity held, and the keys replaced only when their
count is positive. -/
namespace ObkvTable

/-- Which of `Value`'s two encodings a row key is written in. -/
inductive ObjEncodeType where
  | obj | tableObj
  deriving DecidableEq, Repr

structure ObRowKey (V : Type) where
  columnNames : List String
  keys : List V
  objType : ObjEncodeType

/-- A property map: `HashMap<String, Value>`, its entries in iteration order. -/
abbrev Properties (V : Type) := AList (fun _ : String => V)

structure ObTableEntity (V : Type) where
  base : BasePayLoad
  rowKey : ObRowKey V
  properties : Properties V

variable {V : Type} (c : Crate V)

namespace ObRowKey

def new (keys : List V) : ObRowKey V := ⟨[], keys, .obj⟩

def newWithObjType (keys : List V) (objType : ObjEncodeType) : ObRowKey V := ⟨[], keys, objType⟩

def contentLen (k : ObRowKey V) : Nat :=
  c.encodedLengthVi64 k.keys.length +
    match k.objType with
    | .obj => (k.keys.map c.valueLen).sum
    | .tableObj => (k.keys.map c.tableObjLen).sum

def encode (k : ObRowKey V) : Encoder := do
  c.encodeVi64 k.keys.length
  match k.objType with
  | .obj => k.keys.forM c.valueEncode
  | .tableObj => k.keys.forM c.tableObjEncode

variable {c}

theorem encode_appends (hc : c.Sized) (k : ObRowKey V) : Appends (k.encode c) (k.contentLen c) := by
  rcases k with ⟨_, keys, _ | _⟩
  · exact (hc.vi64 _).bind (Appends.forM hc.value keys)
  · exact (hc.vi64 _).bind (Appends.forM hc.tableObj keys)

end ObRowKey

namespace ObTableEntity

def new (rowKeys : List V) : ObTableEntity V := ⟨c.dummy, ObRowKey.new rowKeys, ∅⟩

/-- `add_attr`: the entity with `name` set to `v`, and the value `name` had. -/
def addAttr (e : ObTableEntity V) (name : String) (v : V) : ObTableEntity V × Option V :=
  ({e with properties := e.properties.insert name v}, e.properties.lookup name)

/-- `remove_attr`: the entity without `name`, and the value `name` had. -/
def removeAttr (e : ObTableEntity V) (name : String) : ObTableEntity V × Option V :=
  ({e with properties := e.properties.erase name}, e.properties.lookup name)

def getAttr (e : ObTableEntity V) (name : String) : Option V := e.properties.lookup name

def setRowKey (e : ObTableEntity V) (keys : List V) : ObTableEntity V :=
  {e with rowKey := {e.rowKey with keys := keys}}

def setRowKeyNames (e : ObTableEntity V) (columnNames : List String) : ObTableEntity V :=
  {e with rowKey := {e.rowKey with columnNames := columnNames}}

/-- `properties_names()`: `properties.keys()`, in iteration order. -/
def propertiesNames (e : ObTableEntity V) : List String := e.properties.entries.map Sigma.fst

/-- `properties_values()`: `properties.values()`, in the same order. -/
def propertiesValues (e : ObTableEntity V) : List V := e.properties.entries.map Sigma.snd

def contentLen (e : ObTableEntity V) : Nat :=
  e.rowKey.contentLen c + c.encodedLengthVi64 e.properties.entries.length +
    (e.properties.entries.map fun p => c.encodedLengthVstring p.1 + c.valueLen p.2).sum

/-- `ObPayload::len`: the header, then `content_len()` bytes. -/
def len (e : ObTableEntity V) : Nat := c.headerLen e.base (e.contentLen c) + e.contentLen c

def encode (e : ObTableEntity V) : Encoder := do
  c.encodeHeader e.base (e.contentLen c)
  e.rowKey.encode c
  c.encodeVi64 e.properties.entries.length
  e.properties.entries.forM fun p => do
    c.encodeVstring p.1
    c.valueEncode p.2

variable {c}

theorem encode_appends (hc : c.Sized) (e : ObTableEntity V) : Appends (e.encode c) (e.len c) := by
  have hp := Appends.forM (fun (p : Σ _ : String, V) => (hc.vstring p.1).bind (hc.value p.2))
    e.properties.entries
  have := (hc.header e.base (e.contentLen c)).bind <| (e.rowKey.encode_appends hc).bind <|
    (hc.vi64 e.properties.entries.length).bind hp
  rwa [← Nat.add_assoc (e.rowKey.contentLen c)] at this

/-! ### Property maps built by `add_attr` -/

/-- A property map after inserting `l`'s pairs in order holds, under each name, the value of
the last pair with that name, and otherwise what it held. -/
theorem lookup_foldl_insert (l : List (Σ _ : String, V)) (m : Properties V) (name : String) :
    (l.foldl (fun m p => m.insert p.1 p.2) m).lookup name =
      (l.reverse.dlookup name).or (m.lookup name) := by
  induction l generalizing m with
  | nil => rfl
  | cons p l ih =>
    rw [List.foldl_cons, ih, List.reverse_cons, List.dlookup_append, Option.or_assoc]
    congr 1
    by_cases hp : name = p.1
    · subst hp
      rw [AList.lookup_insert, List.dlookup_cons_eq]
      rfl
    · rw [AList.lookup_insert_ne hp, List.dlookup_cons_ne _ _ hp]
      rfl

/-- Inserting a map's own entries into an empty map gives the same map. -/
theorem lookup_foldl_insert_entries (m : Properties V) (name : String) :
    (m.entries.foldl (fun (m : Properties V) p => m.insert p.1 p.2) ∅).lookup name =
      m.lookup name := by
  have hnd : m.entries.reverse.NodupKeys := by
    simpa only [List.NodupKeys, List.keys, List.map_reverse, List.nodup_reverse] using m.nodupKeys
  rw [lookup_foldl_insert, List.perm_dlookup name hnd m.nodupKeys (List.reverse_perm _),
    AList.lookup_empty, Option.or_none]
  rfl

/-- `add_attr` for each element of a list in turn. -/
theorem foldl_addAttr_pairs {α : Type} (l : List α) (name : α → String) (value : α → V)
    (e : ObTableEntity V) :
    l.foldl (fun e a => (e.addAttr (name a) (value a)).1) e =
      {e with properties := l.foldl (fun m a => m.insert (name a) (value a)) e.properties} := by
  induction l generalizing e with
  | nil => rfl
  | cons a l ih => exact ih _

/-! ### Decoding -/

variable (c)

/-- `for _ in 0..n { let name = decode_vstring(src)?; self.add_attr(&name, decode_value(src)?); }` -/
def decodeAttrs : Nat → EStateM Fault (ObTableEntity V × Bytes) Unit
  | 0 => pure ()
  | n + 1 => do
    let name ← onSrc c.decodeVstring
    let v ← onSrc c.decodeValue
    modify fun (e, src) => ((e.addAttr name v).1, src)
    decodeAttrs n

/-- `if row_keys_len > 0 { ... self.set_row_key(row_keys); }` -/
def decodeRowKeys (rowKeysLen : Int) : EStateM Fault (ObTableEntity V × Bytes) Unit :=
  if rowKeysLen > 0 then do
    let rowKeys ← onSrc (decodeRepeat c.decodeValue rowKeysLen.toNat)
    modify fun (e, src) => (e.setRowKey rowKeys, src)
  else pure ()

/-- `if properties_len > 0 { for _ in 0..properties_len { ... } }` -/
def decodeProperties (propertiesLen : Int) : EStateM Fault (ObTableEntity V × Bytes) Unit :=
  if propertiesLen > 0 then decodeAttrs c propertiesLen.toNat else pure ()

def decode : EStateM Fault (ObTableEntity V × Bytes) Unit := do
  decodeField ObTableEntity.base (fun e b => {e with base := b}) c.decodeBase
  let rowKeysLen ← onSrc c.decodeVi64
  decodeRowKeys c rowKeysLen
  let propertiesLen ← onSrc c.decodeVi64
  decodeProperties c propertiesLen

variable {c}

/-- Name and value pairs written in order are read back into the entity in order. -/
theorem decodeAttrs_encodes (hc : c.Inverse) (l : List (Σ _ : String, V)) (buf : Bytes) :
    ∃ bs, (l.forM fun p => do c.encodeVstring p.1; c.valueEncode p.2) buf = .ok () (buf ++ bs) ∧
      ∀ e rest, decodeAttrs c l.length (e, bs ++ rest) =
        .ok () (l.foldl (fun e p => (e.addAttr p.1 p.2).1) e, rest) := by
  induction l generalizing buf with
  | nil => exact ⟨[], by rw [List.append_nil]; rfl, fun _ _ => rfl⟩
  | cons p l ih =>
    obtain ⟨bs, hbs, hdn⟩ := hc.vstring p.1 buf
    obtain ⟨cs, hcs, hdv⟩ := hc.value p.2 (buf ++ bs)
    obtain ⟨ds, hds, hdl⟩ := ih (buf ++ bs ++ cs)
    refine ⟨bs ++ cs ++ ds, ?_, fun e rest => ?_⟩
    · have hp : (do c.encodeVstring p.1; c.valueEncode p.2) buf = .ok () (buf ++ bs ++ cs) := by
        rw [bind_of_ok hbs, hcs]
      rw [List.forM_cons', bind_of_ok hp, hds]
      simp only [List.append_assoc]
    · rw [List.length_cons, decodeAttrs, List.append_assoc, List.append_assoc,
        bind_of_ok (onSrc_of_ok (hdn _)), bind_of_ok (onSrc_of_ok (hdv _))]
      exact hdl _ rest

/-- A key list written in `Obj` mode after its count is read into any entity, and replaces its
keys only when the count is positive; a count of zero or less reads nothing. -/
theorem decodeRowKeys_write (hc : c.Inverse) (rowKeysLen : Int) (keys : List V)
    (hk : keys.length = rowKeysLen.toNat) (buf : Bytes) :
    ∃ bs, keys.forM c.valueEncode buf = .ok () (buf ++ bs) ∧ ∀ e rest,
      decodeRowKeys c rowKeysLen (e, bs ++ rest) =
        .ok () (e.setRowKey (if 0 < rowKeysLen then keys else e.rowKey.keys), rest) := by
  by_cases hpos : 0 < rowKeysLen
  · obtain ⟨bs, hbs, hd⟩ := Encodes.forM keys (fun v _ => hc.value v) buf
    refine ⟨bs, hbs, fun e rest => ?_⟩
    rw [decodeRowKeys, if_pos hpos, if_pos hpos, ← hk, bind_of_ok (onSrc_of_ok (hd rest))]
    rfl
  · obtain rfl : keys = [] := List.length_eq_zero.mp (by omega)
    exact ⟨[], by rw [List.append_nil]; rfl, fun e rest => by rw [decodeRowKeys, if_neg hpos, if_neg hpos]; rfl⟩

/-- A key list written in `Obj` mode is read back into an entity that has no keys. -/
theorem decodeRowKeys_encodes (hc : c.Inverse) (keys : List V) (buf : Bytes) :
    ∃ bs, keys.forM c.valueEncode buf = .ok () (buf ++ bs) ∧
      ∀ e rest, e.rowKey.keys = [] →
        decodeRowKeys c keys.length (e, bs ++ rest) = .ok () (e.setRowKey keys, rest) := by
  obtain ⟨bs, hbs, hd⟩ := decodeRowKeys_write hc keys.length keys (Int.toNat_ofNat _).symm buf
  refine ⟨bs, hbs, fun e rest he => ?_⟩
  have hkeys : (if 0 < (keys.length : Int) then keys else e.rowKey.keys) = keys := by
    split
    · rfl
    · have : keys.length = 0 := by omega
      rw [he, List.length_eq_zero.mp this]
  rw [hd, hkeys]

/-- `if properties_len > 0 { for _ in 0..properties_len {..} }` is the loop run `toNat` times. -/
theorem decodeProperties_toNat (propertiesLen : Int) :
    decodeProperties c propertiesLen = decodeAttrs c propertiesLen.toNat := by
  unfold decodeProperties
  split
  · rfl
  · rw [Int.toNat_eq_zero.mpr (by omega)]
    rfl

theorem decodeProperties_natCast (n : Nat) : decodeProperties c n = decodeAttrs c n := by
  rw [decodeProperties_toNat, Int.toNat_ofNat]

variable (c) in
/-- What `decode` leaves in `ObTableEntity::new(vec![])` after reading `e`: the base the header
gave, `e`'s keys, and its properties added in iteration order. -/
def decoded (b : BasePayLoad) (e : ObTableEntity V) : ObTableEntity V :=
  e.properties.entries.foldl (fun e p => (e.addAttr p.1 p.2).1) ({new c [] with base := b}.setRowKey e.rowKey.keys)

@[simp] theorem decoded_keys (b : BasePayLoad) (e : ObTableEntity V) : (decoded c b e).rowKey.keys = e.rowKey.keys := by
  simp only [decoded, foldl_addAttr_pairs]
  rfl

@[simp] theorem decoded_lookup (b : BasePayLoad) (e : ObTableEntity V) (name : String) :
    (decoded c b e).properties.lookup name = e.properties.lookup name := by
  simp only [decoded, foldl_addAttr_pairs]
  exact lookup_foldl_insert_entries e.properties name

/-- The bytes `encode` writes for an entity in `Obj` mode, followed by anything, decode into
`ObTableEntity::new(vec![])` as `decoded`, leaving what follows. -/
theorem encode_decoded (hc : c.Inverse) (e : ObTableEntity V) (he : e.rowKey.objType = .obj) (buf : Bytes) :
    ∃ bs, e.encode c buf = .ok () (buf ++ bs) ∧
      ∀ rest, ∃ b', decode c (new c [], bs ++ rest) = .ok () (decoded c b' e, rest) := by
  obtain ⟨h, hh, hdh⟩ := hc.header e.base (e.contentLen c) buf
  obtain ⟨n, hn, hdn⟩ := hc.vi64 e.rowKey.keys.length (buf ++ h)
  obtain ⟨ks, hks, hdks⟩ := decodeRowKeys_encodes hc e.rowKey.keys (buf ++ h ++ n)
  obtain ⟨m, hm, hdm⟩ := hc.vi64 e.properties.entries.length (buf ++ h ++ n ++ ks)
  obtain ⟨as, has, hdas⟩ := decodeAttrs_encodes hc e.properties.entries (buf ++ h ++ n ++ ks ++ m)
  have hk : e.rowKey.encode c (buf ++ h) = .ok () (buf ++ h ++ n ++ ks) := by
    rw [ObRowKey.encode, bind_of_ok hn, he]
    exact hks
  refine ⟨h ++ n ++ ks ++ m ++ as, ?_, fun rest => ?_⟩
  · rw [encode, bind_of_ok hh, bind_of_ok hk, bind_of_ok hm, has]
    simp only [List.append_assoc]
  · obtain ⟨b', hb'⟩ := hdh (new c []).base (n ++ (ks ++ (m ++ (as ++ rest))))
    refine ⟨b', ?_⟩
    simp only [List.append_assoc]
    rw [decode, bind_of_ok (decodeField_of_ok hb'), bind_of_ok (onSrc_of_ok (hdn _)),
      bind_of_ok (hdks _ _ rfl), bind_of_ok (onSrc_of_ok (hdm _)), decodeProperties_natCast]
    exact hdas _ rest

/-- **An entity's bytes decode back to it.** Written with its keys in `Obj` mode, on any
buffer, and decoded into `ObTableEntity::new(vec![])` with any bytes after it, `decode`
restores the key list and the property map and leaves exactly the bytes that follow. -/
theorem decode_encode (hc : c.Inverse) (e : ObTableEntity V) (he : e.rowKey.objType = .obj)
    (buf rest : Bytes) :
    ∃ bs, e.encode c buf = .ok () (buf ++ bs) ∧
      ∃ d, decode c (new c [], bs ++ rest) = .ok () (d, rest) ∧ d.rowKey.keys = e.rowKey.keys ∧
        ∀ name, d.properties.lookup name = e.properties.lookup name := by
  obtain ⟨bs, hbs, hd⟩ := encode_decoded hc e he buf
  obtain ⟨b', hb'⟩ := hd rest
  exact ⟨bs, hbs, _, hb', decoded_keys b' e, decoded_lookup b' e⟩

/-- **`decode` merges any layout into the entity it decodes into.** A header, a row-key count
with as many keys in `Obj` mode, and a property count with as many name and value pairs — names
may repeat, and a count may be zero or negative, standing for no items — decode into any entity
without error, leaving exactly the bytes that follow. The keys are replaced only when the key
count is positive, the key names and encode mode stay, and under each name the entity holds the
value of the last pair with that name, and otherwise the value it held before. -/
theorem decode_layout (hc : c.Inverse) (e : ObTableEntity V) (base : BasePayLoad) (n : Nat)
    (rowKeysLen propertiesLen : Int) (keys : List V) (l : List (Σ _ : String, V))
    (hk : keys.length = rowKeysLen.toNat) (hl : l.length = propertiesLen.toNat) (buf rest : Bytes) :
    ∃ bs, (do
        c.encodeHeader base n
        c.encodeVi64 rowKeysLen
        keys.forM c.valueEncode
        c.encodeVi64 propertiesLen
        l.forM fun p => do c.encodeVstring p.1; c.valueEncode p.2) buf = .ok () (buf ++ bs) ∧
      ∃ d, decode c (e, bs ++ rest) = .ok () (d, rest) ∧
        d.rowKey = {e.rowKey with keys := if 0 < rowKeysLen then keys else e.rowKey.keys} ∧
        ∀ name, d.properties.lookup name = (l.reverse.dlookup name).or (e.properties.lookup name) := by
  obtain ⟨h, hh, hdh⟩ := hc.header base n buf
  obtain ⟨m₁, hm₁, hd₁⟩ := hc.vi64 rowKeysLen (buf ++ h)
  obtain ⟨ks, hks, hdks⟩ := decodeRowKeys_write hc rowKeysLen keys hk (buf ++ h ++ m₁)
  obtain ⟨m₂, hm₂, hd₂⟩ := hc.vi64 propertiesLen (buf ++ h ++ m₁ ++ ks)
  obtain ⟨as, has, hdas⟩ := decodeAttrs_encodes hc l (buf ++ h ++ m₁ ++ ks ++ m₂)
  obtain ⟨b', hb'⟩ := hdh e.base (m₁ ++ (ks ++ (m₂ ++ (as ++ rest))))
  refine ⟨h ++ m₁ ++ ks ++ m₂ ++ as, ?_, l.foldl (fun e p => (e.addAttr p.1 p.2).1)
    ({e with base := b'}.setRowKey (if 0 < rowKeysLen then keys else e.rowKey.keys)), ?_, ?_, fun name => ?_⟩
  · rw [bind_of_ok hh, bind_of_ok hm₁, bind_of_ok hks, bind_of_ok hm₂, has]
    simp only [List.append_assoc]
  · simp only [List.append_assoc]
    rw [decode, bind_of_ok (decodeField_of_ok hb'), bind_of_ok (onSrc_of_ok (hd₁ _)), bind_of_ok (hdks _ _),
      bind_of_ok (onSrc_of_ok (hd₂ _)), decodeProperties_toNat, ← hl]
    exact hdas _ rest
  · rw [foldl_addAttr_pairs]
    rfl
  · rw [foldl_addAttr_pairs, lookup_foldl_insert]
    rfl

/-- `decode_layout` into an entity that holds the key `9` and the property `a`, for a negative
key count and the name `a` sent twice. -/
theorem decode_layout_reference :
    let e : ObTableEntity Int := ⟨⟨1, 0, 0, 0⟩, ObRowKey.new [9], (∅ : Properties Int).insert "a" 0⟩
    let l : List (Σ _ : String, Int) := [⟨"a", 1⟩, ⟨"b", 2⟩, ⟨"a", 3⟩]
    Reference.crate.Inverse ∧ ([] : List Int).length = (-2 : Int).toNat ∧ l.length = (3 : Int).toNat ∧
      ∃ bs, (do
          Reference.crate.encodeHeader ⟨1, 0, 0, 0⟩ 0
          Reference.crate.encodeVi64 (-2)
          ([] : List Int).forM Reference.crate.valueEncode
          Reference.crate.encodeVi64 3
          l.forM fun p => do Reference.crate.encodeVstring p.1; Reference.crate.valueEncode p.2) [] =
          .ok () ([] ++ bs) ∧
        ∃ d, decode Reference.crate (e, bs ++ []) = .ok () (d, []) ∧
          d.rowKey = {e.rowKey with keys := if 0 < (-2 : Int) then [] else e.rowKey.keys} ∧
          ∀ name, d.properties.lookup name = (l.reverse.dlookup name).or (e.properties.lookup name) := by
  intro e l
  exact ⟨Reference.crate_inverse, by decide, by decide,
    decode_layout Reference.crate_inverse e ⟨1, 0, 0, 0⟩ 0 (-2) 3 [] l (by decide) (by decide) [] []⟩

/-- `decode_encode` at the reference collaborators, for an entity with two keys and a property,
followed by one byte. -/
theorem decode_encode_reference :
    Reference.crate.Inverse ∧
      ∃ bs, encode Reference.crate ⟨⟨1, 0, 0, 0⟩, ObRowKey.new [1, 2], (∅ : Properties Int).insert "a" 3⟩
        [] = .ok () ([] ++ bs) ∧
      ∃ d, decode Reference.crate (new Reference.crate [], bs ++ [7]) = .ok () (d, [7]) ∧
        d.rowKey.keys = [1, 2] ∧ ∀ name, d.properties.lookup name = ((∅ : Properties Int).insert "a" 3).lookup name :=
  ⟨Reference.crate_inverse, decode_encode Reference.crate_inverse _ rfl [] [7]⟩

end ObTableEntity

end ObkvTable
