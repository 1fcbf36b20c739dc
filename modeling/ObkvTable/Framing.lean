import ObkvTable.Operation
import ObkvTable.Result
import ObkvTable.RpcResult

/-! Decoders only consume.

A decoder of `payloads.rs` reads `src` from the front, through the `util` decoders, `Value`'s
decoder and `split_buf_to`, and never puts a byte back. `Consumes src d` says that of a decoder
whose input is the part `src` of its state: whatever `d` ends with — a value, an error or a
panic — the bytes it leaves are a suffix of those it was given. The collaborators are asked for
it once, in `Crate.Consuming`, and every way the decoders are put together keeps it: a
sequence, a branch, a loop, a part decoded in place.

`decoders_consume`: every decoder of `payloads.rs`, into any `self` and on any input, well
formed or not, only consumes. `Reference.crate_consuming`: the reference collaborators meet the
law. -/
namespace ObkvTable

/-- The state a run ends in, whether it returned or failed. -/
def stateOf {ε σ α : Type} : EStateM.Result ε σ α → σ
  | .ok _ s => s
  | .error _ s => s

/-- `d` only reads from the front of the bytes `src` of its state. -/
def Consumes {σ α : Type} (src : σ → Bytes) (d : EStateM Fault σ α) : Prop :=
  ∀ s, src (stateOf (d s)) <:+ src s

variable {V : Type}

/-- The `util` decoders, `Value`'s decoder, `split_buf_to` and `decode_base` only consume. -/
structure Crate.Consuming (c : Crate V) : Prop where
  vi64 : Consumes id c.decodeVi64
  vi32 : Consumes id c.decodeVi32
  vstring : Consumes id c.decodeVstring
  bytesString : Consumes id c.decodeBytesString
  bytes : Consumes id c.decodeBytes
  value : Consumes id c.decodeValue
  splitBufTo : ∀ n, Consumes id (c.splitBufTo n)
  base : Consumes Prod.snd c.decodeBase

/-! ### What keeps it -/

section Combinators
variable {σ α β : Type} {src : σ → Bytes}

theorem consumes_pure (a : α) : Consumes src (pure a : EStateM Fault σ α) := fun _ => List.suffix_refl _

theorem consumes_throw (e : Fault) : Consumes src (throw e : EStateM Fault σ α) := fun _ => List.suffix_refl _

theorem consumes_get : Consumes src (get : EStateM Fault σ σ) := fun _ => List.suffix_refl _

theorem consumes_modify {g : σ → σ} (hg : ∀ s, src (g s) = src s) :
    Consumes src (modify g : EStateM Fault σ PUnit) := fun s => by
  show src (g s) <:+ src s
  rw [hg]

theorem Consumes.bind {x : EStateM Fault σ α} {f : α → EStateM Fault σ β} (hx : Consumes src x)
    (hf : ∀ a, Consumes src (f a)) : Consumes src (x >>= f) := by
  intro s
  have := hx s
  cases h : x s with
  | ok a s' =>
    rw [h] at this
    rw [bind_of_ok h]
    exact (hf a s').trans this
  | error e s' =>
    rw [h] at this
    rwa [bind_of_error h]

theorem Consumes.map {x : EStateM Fault σ α} (g : α → β) (hx : Consumes src x) : Consumes src (g <$> x) := by
  intro s
  have := hx s
  show src (stateOf (EStateM.map g x s)) <:+ src s
  unfold EStateM.map
  cases h : x s <;> rw [h] at this <;> exact this

theorem consumes_ite {p : Prop} [Decidable p] {x y : EStateM Fault σ α} (hx : Consumes src x)
    (hy : Consumes src y) : Consumes src (if p then x else y) := by
  split <;> assumption

theorem consumes_ofExcept (e : Except Fault α) : Consumes src (ofExcept e : EStateM Fault σ α) := by
  cases e
  · exact consumes_throw _
  · exact consumes_pure _

theorem consumes_getI8 (bs : Bytes) : Consumes src (getI8 bs : EStateM Fault σ Int) := by
  cases bs
  · exact consumes_throw _
  · exact consumes_pure _

theorem consumes_decodeRepeat {d : Decoder α} (h : Consumes id d) : ∀ n, Consumes id (decodeRepeat d n)
  | 0 => consumes_pure _
  | n + 1 => h.bind fun _ => (consumes_decodeRepeat h n).bind fun _ => consumes_pure _

end Combinators

section Focus
variable {S T α : Type}

theorem consumes_onSrc {m : Decoder α} (h : Consumes id m) :
    Consumes Prod.snd (onSrc m : EStateM Fault (S × Bytes) α) := by
  rintro ⟨s, src⟩
  have := h src
  simp only [onSrc]
  cases hm : m src <;> rw [hm] at this <;> exact this

theorem consumes_decodeField {get : S → T} {set : S → T → S} {d : EStateM Fault (T × Bytes) Unit}
    (h : Consumes Prod.snd d) : Consumes Prod.snd (decodeField get set d) := by
  rintro ⟨s, src⟩
  have := h (get s, src)
  simp only [decodeField]
  rcases hd : d (get s, src) with ⟨⟨⟩, t, src'⟩ | ⟨f, t, src'⟩ <;> rw [hd] at this <;> exact this

theorem consumes_decodeLocal {d : EStateM Fault (T × Bytes) Unit} (init : T) (h : Consumes Prod.snd d) :
    Consumes Prod.snd (decodeLocal d init : EStateM Fault (S × Bytes) T) := by
  rintro ⟨s, src⟩
  have := h (init, src)
  simp only [decodeLocal]
  rcases hd : d (init, src) with ⟨⟨⟩, t, src'⟩ | ⟨f, t, src'⟩ <;> rw [hd] at this <;> exact this

theorem consumes_decodePush {d : EStateM Fault (T × Bytes) Unit} {init : T} {get : S → List T}
    {set : S → List T → S} (h : Consumes Prod.snd d) : ∀ n, Consumes Prod.snd (decodePush d init get set n)
  | 0 => consumes_pure _
  | n + 1 => (consumes_decodeLocal init h).bind fun _ =>
    (consumes_modify fun _ => by rfl).bind fun _ => consumes_decodePush h n

end Focus

/-! ### The decoders of `payloads.rs` -/

section Payloads
variable {c : Crate V} (hc : c.Consuming)
include hc

theorem ObTableEntity.decodeAttrs_consumes : ∀ n, Consumes Prod.snd (ObTableEntity.decodeAttrs c n)
  | 0 => consumes_pure _
  | n + 1 => (consumes_onSrc hc.vstring).bind fun _ => (consumes_onSrc hc.value).bind fun _ =>
    (consumes_modify fun _ => by rfl).bind fun _ => ObTableEntity.decodeAttrs_consumes n

theorem ObTableEntity.decode_consumes : Consumes Prod.snd (ObTableEntity.decode c) :=
  (consumes_decodeField hc.base).bind fun _ => (consumes_onSrc hc.vi64).bind fun _ =>
    (consumes_ite ((consumes_onSrc (consumes_decodeRepeat hc.value _)).bind fun _ => consumes_modify fun _ => by rfl)
      (consumes_pure _)).bind fun _ => (consumes_onSrc hc.vi64).bind fun _ =>
    consumes_ite (ObTableEntity.decodeAttrs_consumes hc _) (consumes_pure _)

theorem ObTableResult.decode_consumes : Consumes Prod.snd (ObTableResult.decode c) :=
  (consumes_decodeField hc.base).bind fun _ => (consumes_onSrc hc.vi32).bind fun _ =>
    (consumes_modify fun _ => by rfl).bind fun _ => (consumes_onSrc hc.bytes).bind fun _ =>
    (consumes_modify fun _ => by rfl).bind fun _ => (consumes_onSrc hc.bytes).bind fun _ =>
    consumes_modify fun _ => by rfl

theorem ObTableOperationResult.decode_consumes : Consumes Prod.snd (ObTableOperationResult.decode c) :=
  (consumes_decodeField hc.base).bind fun _ => (consumes_decodeField (ObTableResult.decode_consumes hc)).bind fun _ =>
    (consumes_onSrc ((hc.splitBufTo 1).bind consumes_getI8)).bind fun _ => (consumes_ofExcept _).bind fun _ =>
    (consumes_modify fun _ => by rfl).bind fun _ => (consumes_decodeField (ObTableEntity.decode_consumes hc)).bind fun _ =>
    (consumes_onSrc hc.vi64).bind fun _ => consumes_modify fun _ => by rfl

theorem ObTableBatchOperationResult.decode_consumes : Consumes Prod.snd (ObTableBatchOperationResult.decode c) :=
  (consumes_decodeField hc.base).bind fun _ => (consumes_onSrc hc.vi64).bind fun _ =>
    consumes_ite (consumes_throw _) (consumes_get.bind fun _ =>
      consumes_ite (consumes_throw _) ((consumes_ite (consumes_throw _) (consumes_pure ())).bind fun _ =>
        consumes_decodePush (ObTableOperationResult.decode_consumes hc) _))

theorem ObRpcResultWarningMsg.decode_consumes : Consumes Prod.snd (ObRpcResultWarningMsg.decode c) :=
  (consumes_decodeField hc.base).bind fun _ => (consumes_onSrc hc.vi32).bind fun _ =>
    (consumes_onSrc (hc.splitBufTo _)).bind fun _ => (consumes_modify fun _ => by rfl).bind fun _ =>
    (consumes_onSrc hc.vi64).bind fun _ => (consumes_modify fun _ => by rfl).bind fun _ =>
    (consumes_onSrc hc.vi32).bind fun _ => (consumes_modify fun _ => by rfl).bind fun _ =>
    (consumes_onSrc hc.vi32).bind fun _ => (consumes_modify fun _ => by rfl).bind fun _ =>
    (consumes_onSrc hc.vi32).bind fun _ => consumes_modify fun _ => by rfl

theorem ObRpcResultCode.decode_consumes {R : Type} (fromI32 : Int → R) :
    Consumes Prod.snd (ObRpcResultCode.decode c fromI32) :=
  (consumes_decodeField hc.base).bind fun _ => (consumes_onSrc hc.vi32).bind fun _ =>
    (consumes_modify fun _ => by rfl).bind fun _ => (consumes_onSrc hc.vi32).bind fun _ =>
    (consumes_onSrc (hc.splitBufTo _)).bind fun _ => (consumes_modify fun _ => by rfl).bind fun _ =>
    (consumes_onSrc hc.vi32).bind fun _ =>
    (consumes_ite (consumes_modify fun _ => by rfl) (consumes_pure _)).bind fun _ =>
    consumes_decodePush (ObRpcResultWarningMsg.decode_consumes hc) _

theorem ObTableLoginResult.decode_consumes : Consumes Prod.snd (ObTableLoginResult.decode c) :=
  (consumes_decodeField hc.base).bind fun _ => (consumes_onSrc hc.vi32).bind fun _ =>
    (consumes_modify fun _ => by rfl).bind fun _ => (consumes_onSrc hc.vi32).bind fun _ =>
    (consumes_modify fun _ => by rfl).bind fun _ => (consumes_onSrc hc.vi64).bind fun _ =>
    (consumes_modify fun _ => by rfl).bind fun _ => (consumes_onSrc hc.vstring).bind fun _ =>
    (consumes_modify fun _ => by rfl).bind fun _ => (consumes_onSrc hc.bytesString).bind fun _ =>
    (consumes_modify fun _ => by rfl).bind fun _ => (consumes_onSrc hc.vi64).bind fun _ =>
    (consumes_modify fun _ => by rfl).bind fun _ => (consumes_onSrc hc.vi64).bind fun _ =>
    (consumes_modify fun _ => by rfl).bind fun _ => (consumes_onSrc hc.vi64).bind fun _ =>
    consumes_modify fun _ => by rfl

/-- **Decoders only consume.** With collaborators that only consume, every decoder of
`payloads.rs` — of an entity, an operation, a table result, an operation result, a batch
result, a warning, a result code and a login result — run into any `self` on any input leaves a
suffix of that input, whether it returns, fails or panics. -/
theorem decoders_consume {R : Type} (fromI32 : Int → R) :
    Consumes Prod.snd (ObTableEntity.decode c) ∧
      Consumes Prod.snd (ObTableOperation.decode : EStateM Fault (ObTableOperation V × Bytes) Unit) ∧
      Consumes Prod.snd (ObTableResult.decode c) ∧ Consumes Prod.snd (ObTableOperationResult.decode c) ∧
      Consumes Prod.snd (ObTableBatchOperationResult.decode c) ∧ Consumes Prod.snd (ObRpcResultWarningMsg.decode c) ∧
      Consumes Prod.snd (ObRpcResultCode.decode c fromI32) ∧ Consumes Prod.snd (ObTableLoginResult.decode c) :=
  ⟨ObTableEntity.decode_consumes hc, consumes_throw _, ObTableResult.decode_consumes hc,
    ObTableOperationResult.decode_consumes hc, ObTableBatchOperationResult.decode_consumes hc,
    ObRpcResultWarningMsg.decode_consumes hc, ObRpcResultCode.decode_consumes hc fromI32,
    ObTableLoginResult.decode_consumes hc⟩

end Payloads

/-! ### The reference collaborators -/

namespace Reference

theorem takeVarint_suffix : ∀ {src rest : Bytes} {n : Nat}, takeVarint src = some (n, rest) → rest <:+ src
  | [], _, _, h => nomatch h
  | b :: src, rest, n, h => by
    rw [takeVarint] at h
    split at h
    · cases h
      exact List.suffix_cons _ _
    · cases ht : takeVarint src with
      | none => rw [ht] at h; cases h
      | some p =>
        rw [ht, Option.map_some', Option.some.injEq, Prod.mk.injEq] at h
        obtain ⟨-, rfl⟩ := h
        exact (takeVarint_suffix ht).trans (List.suffix_cons _ _)

theorem readNat_consumes : Consumes id readNat := fun src => by
  simp only [readNat]
  split
  · exact takeVarint_suffix ‹_›
  · exact List.suffix_refl _

theorem splitBufTo_consumes (n : Nat) : Consumes id (splitBufTo n) := fun src => by
  simp only [splitBufTo]
  split
  · exact List.drop_suffix _ _
  · exact List.suffix_refl _

theorem crate_consuming : crate.Consuming where
  vi64 := readNat_consumes.map _
  vi32 := readNat_consumes.map _
  vstring := readNat_consumes.bind fun _ => (consumes_decodeRepeat (readNat_consumes.map _) _).map _
  bytesString := readNat_consumes.bind splitBufTo_consumes
  bytes := readNat_consumes.bind splitBufTo_consumes
  value := readNat_consumes.map _
  splitBufTo := splitBufTo_consumes
  base := (consumes_onSrc (readNat_consumes.map _)).bind fun _ => (consumes_onSrc readNat_consumes).bind fun _ =>
    consumes_modify fun _ => by rfl

end Reference

/-- `decoders_consume` at the reference collaborators, with `from_i32` the identity. -/
theorem decoders_consume_reference :
    Reference.crate.Consuming ∧
      Consumes Prod.snd (ObTableEntity.decode Reference.crate) ∧
      Consumes Prod.snd (ObTableOperation.decode : EStateM Fault (ObTableOperation Int × Bytes) Unit) ∧
      Consumes Prod.snd (ObTableResult.decode Reference.crate) ∧
      Consumes Prod.snd (ObTableOperationResult.decode Reference.crate) ∧
      Consumes Prod.snd (ObTableBatchOperationResult.decode Reference.crate) ∧
      Consumes Prod.snd (ObRpcResultWarningMsg.decode Reference.crate) ∧
      Consumes Prod.snd (ObRpcResultCode.decode Reference.crate (id : Int → Int)) ∧
      Consumes Prod.snd (ObTableLoginResult.decode Reference.crate) :=
  ⟨Reference.crate_consuming, decoders_consume Reference.crate_consuming id⟩

end ObkvTable
