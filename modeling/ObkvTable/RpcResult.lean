import ObkvTable.Reference

/-! The RPC result code with its warnings, and the login result.

Both are only ever decoded. A length read as an `i32` is widened to `usize` before it is used
(`asUsize`), so a negative length asks `split_buf_to` for nearly `2 ^ 64` bytes; the warning
count is a `while len > 0` loop, which reads nothing for a count of zero or less, and the
tenant id is read as an `i64` and kept as a `u64`.

`ObRpcResultCode.decode_result_code`: the layout the result code's decoder reads, a code, a
message and any list of warnings, each warning's header with its own content length, followed
by anything, decodes back to what was written and leaves exactly what follows. -/
namespace ObkvTable

variable {V : Type} (c : Crate V)

/-- `len as usize` for an `i32` `len`: its two's complement on 64 bits. -/
def asUsize (len : Int) : Nat := (len % 2 ^ 64).toNat

theorem asUsize_natCast {n : Nat} (h : n < 2 ^ 64) : asUsize n = n := by
  unfold asUsize
  omega

/-- Warning message returned from observer. -/
structure ObRpcResultWarningMsg where
  base : BasePayLoad
  timestamp : Int
  logLevel : Int
  lineNo : Int
  code : Int
  msg : Bytes

namespace ObRpcResultWarningMsg

def new : ObRpcResultWarningMsg := ⟨c.dummy, 0, 0, 0, 0, []⟩

def decode : EStateM Fault (ObRpcResultWarningMsg × Bytes) Unit := do
  decodeField ObRpcResultWarningMsg.base (fun w b => {w with base := b}) c.decodeBase
  let len ← onSrc c.decodeVi32
  let msg ← onSrc (c.splitBufTo (asUsize len))
  modify fun (w, src) => ({w with msg := msg}, src)
  let timestamp ← onSrc c.decodeVi64
  modify fun (w, src) => ({w with timestamp := timestamp}, src)
  let logLevel ← onSrc c.decodeVi32
  modify fun (w, src) => ({w with logLevel := logLevel}, src)
  let lineNo ← onSrc c.decodeVi32
  modify fun (w, src) => ({w with lineNo := lineNo}, src)
  let code ← onSrc c.decodeVi32
  modify fun (w, src) => ({w with code := code}, src)

end ObRpcResultWarningMsg

/-- The result code of a response; `R` is `ResultCodes`. -/
structure ObRpcResultCode (R : Type) where
  base : BasePayLoad
  rcode : R
  msg : Bytes
  warningMsgs : List ObRpcResultWarningMsg

namespace ObRpcResultCode

variable {R : Type}

/-- `new`; `obSuccess` is `ResultCodes::OB_SUCCESS`. -/
def new (obSuccess : R) : ObRpcResultCode R := ⟨c.dummy, obSuccess, [], []⟩

/-- `while len > 0 { let mut warn_msg = ObRpcResultWarningMsg::new(); warn_msg.decode(src)?;
self.warning_msgs.push(warn_msg); len -= 1; }` -/
def decodeWarningMsgs : Nat → EStateM Fault (ObRpcResultCode R × Bytes) Unit :=
  decodePush (ObRpcResultWarningMsg.decode c) (ObRpcResultWarningMsg.new c) warningMsgs
    fun r warningMsgs => {r with warningMsgs := warningMsgs}

/-- `decode`; `fromI32` is `ResultCodes::from_i32`. -/
def decode (fromI32 : Int → R) : EStateM Fault (ObRpcResultCode R × Bytes) Unit := do
  decodeField ObRpcResultCode.base (fun r b => {r with base := b}) c.decodeBase
  let rcode ← onSrc c.decodeVi32
  modify fun (r, src) => ({r with rcode := fromI32 rcode}, src)
  let len ← onSrc c.decodeVi32
  let msg ← onSrc (c.splitBufTo (asUsize len))
  modify fun (r, src) => ({r with msg := msg}, src)
  let len ← onSrc c.decodeVi32
  (if len > 0 then modify fun (r, src) => ({r with warningMsgs := []}, src) else pure ())
  decodeWarningMsgs c len.toNat

end ObRpcResultCode

structure ObTableLoginResult where
  base : BasePayLoad
  serverCapabilities : Int
  reserved1 : Int
  reserved2 : Int
  serverVersion : String
  credential : Bytes
  tenantId : Nat
  userId : Int
  databaseId : Int

namespace ObTableLoginResult

def new : ObTableLoginResult := ⟨c.dummy, 0, 0, 0, "", [], 0, 0, 0⟩

def decode : EStateM Fault (ObTableLoginResult × Bytes) Unit := do
  decodeField ObTableLoginResult.base (fun r b => {r with base := b}) c.decodeBase
  let serverCapabilities ← onSrc c.decodeVi32
  modify fun (r, src) => ({r with serverCapabilities := serverCapabilities}, src)
  let reserved1 ← onSrc c.decodeVi32
  modify fun (r, src) => ({r with reserved1 := reserved1}, src)
  let reserved2 ← onSrc c.decodeVi64
  modify fun (r, src) => ({r with reserved2 := reserved2}, src)
  let serverVersion ← onSrc c.decodeVstring
  modify fun (r, src) => ({r with serverVersion := serverVersion}, src)
  let credential ← onSrc c.decodeBytesString
  modify fun (r, src) => ({r with credential := credential}, src)
  let tenantId ← onSrc c.decodeVi64
  modify fun (r, src) => ({r with tenantId := (tenantId % 2 ^ 64).toNat}, src)
  let userId ← onSrc c.decodeVi64
  modify fun (r, src) => ({r with userId := userId}, src)
  let databaseId ← onSrc c.decodeVi64
  modify fun (r, src) => ({r with databaseId := databaseId}, src)

end ObTableLoginResult

/-! ### The bytes a server sends

What the result code's decoder reads, each header with the content length its writer is given. -/

/-- A byte string as `split_buf_to` reads it after its `i32` length. -/
def writeSized (bs : Bytes) : Encoder := do
  c.encodeVi32 bs.length
  modify (· ++ bs)

def ObRpcResultWarningMsg.write (n : Nat) (w : ObRpcResultWarningMsg) : Encoder := do
  c.encodeHeader w.base n
  writeSized c w.msg
  c.encodeVi64 w.timestamp
  c.encodeVi32 w.logLevel
  c.encodeVi32 w.lineNo
  c.encodeVi32 w.code

/-- A result code whose header says `n`, each warning `w` with a header that says `len w`. -/
def ObRpcResultCode.write (n : Nat) (len : ObRpcResultWarningMsg → Nat) (base : BasePayLoad) (rcode : Int)
    (msg : Bytes) (warningMsgs : List ObRpcResultWarningMsg) : Encoder := do
  c.encodeHeader base n
  c.encodeVi32 rcode
  writeSized c msg
  c.encodeVi32 warningMsgs.length
  warningMsgs.forM fun w => w.write c (len w)

variable {c}

theorem writeSized_read (hc : c.Inverse) (bs : Bytes) (h : bs.length < 2 ^ 64) (buf : Bytes) :
    ∃ l, writeSized c bs buf = .ok () (buf ++ l ++ bs) ∧ (∀ rest, c.decodeVi32 (l ++ rest) = .ok bs.length rest) ∧
      ∀ rest, c.splitBufTo (asUsize bs.length) (bs ++ rest) = .ok bs rest := by
  obtain ⟨l, hl, hdl⟩ := hc.vi32 bs.length buf
  refine ⟨l, by rw [writeSized, bind_of_ok hl]; rfl, hdl, fun rest => ?_⟩
  rw [asUsize_natCast h]
  exact hc.splitBufTo bs rest

/-- A warning's bytes decode into `ObRpcResultWarningMsg::new()` as the warning, but for the
base its header gives. -/
theorem ObRpcResultWarningMsg.decode_write (hc : c.Inverse) (n : Nat) (w : ObRpcResultWarningMsg)
    (hw : w.msg.length < 2 ^ 64) (buf : Bytes) :
    ∃ bs, w.write c n buf = .ok () (buf ++ bs) ∧
      ∀ rest, ∃ d, ObRpcResultWarningMsg.decode c (new c, bs ++ rest) = .ok () (d, rest) ∧
        ∃ b', d = {w with base := b'} := by
  obtain ⟨h, hh, hdh⟩ := hc.header w.base n buf
  obtain ⟨l, hl, hdl, hdm⟩ := writeSized_read hc w.msg hw (buf ++ h)
  obtain ⟨t, ht, hdt⟩ := hc.vi64 w.timestamp (buf ++ h ++ l ++ w.msg)
  obtain ⟨g, hg, hdg⟩ := hc.vi32 w.logLevel (buf ++ h ++ l ++ w.msg ++ t)
  obtain ⟨i, hi, hdi⟩ := hc.vi32 w.lineNo (buf ++ h ++ l ++ w.msg ++ t ++ g)
  obtain ⟨k, hk, hdk⟩ := hc.vi32 w.code (buf ++ h ++ l ++ w.msg ++ t ++ g ++ i)
  refine ⟨h ++ l ++ w.msg ++ t ++ g ++ i ++ k, ?_, fun rest => ?_⟩
  · rw [write, bind_of_ok hh, bind_of_ok hl, bind_of_ok ht, bind_of_ok hg, bind_of_ok hi, hk]
    simp only [List.append_assoc]
  · obtain ⟨b', hb'⟩ := hdh (new c).base (l ++ (w.msg ++ (t ++ (g ++ (i ++ (k ++ rest))))))
    refine ⟨_, ?_, b', rfl⟩
    simp only [List.append_assoc]
    rw [decode, bind_of_ok (decodeField_of_ok hb'), bind_of_ok (onSrc_of_ok (hdl _)),
      bind_of_ok (onSrc_of_ok (hdm _)), modify_bind, bind_of_ok (onSrc_of_ok (hdt _)), modify_bind,
      bind_of_ok (onSrc_of_ok (hdg _)), modify_bind, bind_of_ok (onSrc_of_ok (hdi _)), modify_bind,
      bind_of_ok (onSrc_of_ok (hdk _))]
    rfl

/-- **A result code decodes to what was sent.** The layout of a code, a message and any list of
warnings, every header with any content length, followed by anything, decodes on `ObRpcResultCode::new()` to the code as
`ResultCodes::from_i32` reads it, the message, and one warning per warning sent, in order, each
equal to it but for the base its header gives; exactly what follows is left. -/
theorem ObRpcResultCode.decode_result_code {R : Type} (hc : c.Inverse) (fromI32 : Int → R) (obSuccess : R)
    (n : Nat) (len : ObRpcResultWarningMsg → Nat) (base : BasePayLoad) (rcode : Int) (msg : Bytes) (warningMsgs : List ObRpcResultWarningMsg)
    (hmsg : msg.length < 2 ^ 64) (hw : ∀ w ∈ warningMsgs, w.msg.length < 2 ^ 64) (buf : Bytes) :
    ∃ bs, ObRpcResultCode.write c n len base rcode msg warningMsgs buf = .ok () (buf ++ bs) ∧ ∀ rest, ∃ r,
      ObRpcResultCode.decode c fromI32 (new c obSuccess, bs ++ rest) = .ok () (r, rest) ∧
        r.rcode = fromI32 rcode ∧ r.msg = msg ∧
        List.Forall₂ (fun d w => ∃ b, d = {w with base := b}) r.warningMsgs warningMsgs := by
  obtain ⟨h, hh, hdh⟩ := hc.header base n buf
  obtain ⟨e, he, hde⟩ := hc.vi32 rcode (buf ++ h)
  obtain ⟨l, hl, hdl, hdm⟩ := writeSized_read hc msg hmsg (buf ++ h ++ e)
  obtain ⟨k, hk, hdk⟩ := hc.vi32 warningMsgs.length (buf ++ h ++ e ++ l ++ msg)
  obtain ⟨ws, hws, hdw⟩ := @decodePush_forM _ _ _ _ _ ObRpcResultCode.warningMsgs
    (fun r l => {r with warningMsgs := l}) (fun _ _ => rfl) (fun _ _ _ => rfl) (fun _ => rfl) _ _ warningMsgs
    (fun w hw' => ObRpcResultWarningMsg.decode_write hc (len w) w (hw w hw')) (buf ++ h ++ e ++ l ++ msg ++ k)
  refine ⟨h ++ e ++ l ++ msg ++ k ++ ws, ?_, fun rest => ?_⟩
  · rw [write, bind_of_ok hh, bind_of_ok he, bind_of_ok hl, bind_of_ok hk, hws]
    simp only [List.append_assoc]
  · obtain ⟨b', hb'⟩ := hdh (new c obSuccess).base (e ++ (l ++ (msg ++ (k ++ (ws ++ rest)))))
    obtain ⟨ds, hds, hdsr⟩ := hdw (⟨b', fromI32 rcode, msg, []⟩ : ObRpcResultCode R) rest
    refine ⟨⟨b', fromI32 rcode, msg, ds⟩, ?_, rfl, rfl, hdsr⟩
    simp only [List.append_assoc]
    rw [decode, bind_of_ok (decodeField_of_ok hb'), bind_of_ok (onSrc_of_ok (hde _)), modify_bind,
      bind_of_ok (onSrc_of_ok (hdl _)), bind_of_ok (onSrc_of_ok (hdm _)), modify_bind,
      bind_of_ok (onSrc_of_ok (hdk _)), Int.toNat_ofNat]
    -- a fresh result code holds no warning, so clearing them for a positive count changes nothing
    split <;> exact hds

/-- `ObRpcResultCode.decode_result_code` at the reference collaborators, for a code with a message
and one warning, with `from_i32` the identity. -/
theorem ObRpcResultCode.decode_result_code_reference :
    let warningMsgs : List ObRpcResultWarningMsg := [⟨⟨1, 0, 0, 0⟩, 1, 2, 3, 4, [9]⟩]
    Reference.crate.Inverse ∧ ([7] : Bytes).length < 2 ^ 64 ∧ (∀ w ∈ warningMsgs, w.msg.length < 2 ^ 64) ∧
      ∃ bs, ObRpcResultCode.write Reference.crate 16 (fun _ => 9) ⟨1, 0, 0, 0⟩ (-5024) [7] warningMsgs [] =
          .ok () ([] ++ bs) ∧
        ∀ rest, ∃ r, ObRpcResultCode.decode Reference.crate id (new Reference.crate 0, bs ++ rest) = .ok () (r, rest) ∧
          r.rcode = id (-5024) ∧ r.msg = [7] ∧
          List.Forall₂ (fun d w => ∃ b, d = {w with base := b}) r.warningMsgs warningMsgs := by
  intro warningMsgs
  have hw : ∀ w ∈ warningMsgs, w.msg.length < 2 ^ 64 := List.forall_mem_singleton.mpr (by decide)
  exact ⟨Reference.crate_inverse, by decide, hw,
    ObRpcResultCode.decode_result_code Reference.crate_inverse id 0 16 (fun _ => 9) _ _ [7] warningMsgs (by decide) hw
      []⟩

end ObkvTable
