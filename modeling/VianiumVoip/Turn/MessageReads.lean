import VianiumVoip.Ice.StunReads
import VianiumVoip.Turn.Message

/-!
# What the TURN decoder reads

`DecodeMessage` of `infrastructure/turn/turn_message` with every read of the datagram in a trace, and with it the bounds
of all parsers of STUN messages (`parsers_read_below`): through a pointer they look at nothing behind the declared
attribute section, except for `VerifyFingerprint`, and at nothing behind the datagram.
-/

namespace VianiumVoip.Turn.MessageReads

open VianiumVoip.Lib VianiumVoip.Ice Traced

/-- `DecodeXorAddress`, on the value at `val`. -/
def decodeXorAddress (data : Bytes) (val len : ℕ) (txnId : Bytes) : Traced (Option TurnAddress) :=
  if len < 8 then pure none
  else do
    let family ← byteAt data (val + 1)
    let xport ← loadBE16At data (val + 2)
    let port := xport ^^^ (kMagicCookie >>> 16).toUInt16
    if family = kFamilyIPv4 then do
      let xa ← loadBE32At data (val + 4)
      return some { family := family, port := port, address := storeBE32 (xa ^^^ kMagicCookie) }
    else if family = kFamilyIPv6 then
      if len < 20 then pure none
      else do
        let address ← slice data (val + 4) 16
        return some { family := family, port := port, address := xorBytes address (storeBE32 kMagicCookie ++ txnId) }
    else pure none

/-- An address that is stored where `DecodeXorAddress` found one. -/
def storeAddress (found : Traced (Option TurnAddress)) (store : TurnAddress → TurnMessage) (out : TurnMessage) :
    Traced TurnMessage := do
  match ← found with
  | some addr => pure (store addr)
  | none => pure out

/-- The switch over the attribute type, with the value at `aVal`. -/
def readAttribute (data : Bytes) (out : TurnMessage) (aType : UInt16) (aVal aLen : ℕ) : Traced TurnMessage :=
  if aType = kAttrUsername then do
    let username ← slice data aVal aLen
    return { out with username := some username }
  else if aType = kAttrRealm then do
    let realm ← slice data aVal aLen
    return { out with realm := some realm }
  else if aType = kAttrNonce then do
    let nonce ← slice data aVal aLen
    return { out with nonce := some nonce }
  else if aType = kAttrErrorCode then
    if 4 ≤ aLen then do
      let cls ← byteAt data (aVal + 2)
      let number ← byteAt data (aVal + 3)
      let out := { out with errorCode := some ((cls &&& 0x07).toNat * 100 + number.toNat) }
      if 4 < aLen then do
        let errorReason ← slice data (aVal + 4) (aLen - 4)
        return { out with errorReason := errorReason }
      else pure out
    else pure out
  else if aType = kAttrXorMappedAddress then
    storeAddress (decodeXorAddress data aVal aLen out.transactionId) (fun addr => { out with xorMapped := some addr }) out
  else if aType = kAttrXorRelayedAddress then
    storeAddress (decodeXorAddress data aVal aLen out.transactionId) (fun addr => { out with xorRelayed := some addr }) out
  else if aType = kAttrXorPeerAddress then
    storeAddress (decodeXorAddress data aVal aLen out.transactionId) (fun addr => { out with xorPeers := out.xorPeers ++ [addr] }) out
  else if aType = kAttrData then do
    let data ← slice data aVal aLen
    return { out with data := some data }
  else if aType = kAttrLifetime then
    if aLen = 4 then do
      let lifetime ← loadBE32At data aVal
      return { out with lifetime := some lifetime }
    else pure out
  else if aType = kAttrRequestedTransport then
    if aLen = 4 then do
      let protocol ← byteAt data aVal
      return { out with requestedTransport := some protocol }
    else pure out
  else if aType = kAttrMessageIntegrity then
    if aLen = 20 then do
      let messageIntegrity ← slice data aVal 20
      return { out with messageIntegrity := some messageIntegrity }
    else pure out
  else pure out

/-- `DecodeMessage` -/
def decodeMessage (bytes : Bytes) : Traced (Option TurnMessage) :=
  if bytes.length < 20 then pure none
  else do
    let first ← byteAt bytes 0
    if 0x03 < first then pure none
    else do
      let type ← loadBE16At bytes 0
      let attrLen ← loadBE16At bytes 2
      let cookie ← loadBE32At bytes 4
      if cookie ≠ kMagicCookie then pure none
      else if bytes.length < 20 + attrLen.toNat then pure none
      else do
        let transactionId ← slice bytes 8 12
        -- `out->Raw = bytes`
        let raw ← copy bytes
        Tlv.walk (readAttribute bytes) bytes (20 + attrLen.toNat)
          { type := type, transactionId := transactionId, raw := raw } 20

variable {data bytes : Bytes} {P : Access → Prop} {last : ℕ}

/-! ### The traced decoder finds what the decoder finds -/

theorem value_decodeXorAddress {val len : ℕ} (txnId : Bytes) (h : val + len ≤ data.length) :
    (decodeXorAddress data val len txnId).value = Turn.decodeXorAddress ((data.drop val).take len) txnId := by
  have hlen : ((data.drop val).take len).length = len := by
    rw [List.length_take, List.length_drop]
    omega
  unfold decodeXorAddress Turn.decodeXorAddress
  rw [hlen]
  refine value_ite_eq (fun _ => rfl) fun hsize => ?_
  have hfamily : ((data.drop val).take len).getD 1 0 = data.getD (val + 1) 0 := by
    simp [List.getD, List.getElem?_drop, show 1 < len by omega]
  have hport : loadBE16 (((data.drop val).take len).drop 2) = loadBE16 (data.drop (val + 2)) := by
    rw [loadBE16, StunReads.take_value (by omega), loadBE16]
  have haddress : loadBE32 (((data.drop val).take len).drop 4) = loadBE32 (data.drop (val + 4)) := by
    rw [loadBE32, StunReads.take_value (by omega), loadBE32]
  simp only [value_bind, value_byteAt, value_loadBE16At, hfamily, hport, haddress]
  refine value_ite_eq (fun _ => ?_) fun _ => ?_
  · rw [value_bind, value_loadBE32At, value_pure]
  refine value_ite_eq (fun _ => value_ite_eq (fun _ => rfl) fun hipv6 => ?_) fun _ => rfl
  rw [StunReads.take_value (by omega), value_bind, value_slice, value_pure]

theorem value_storeAddress (found : Traced (Option TurnAddress)) (store : TurnAddress → TurnMessage)
    (out : TurnMessage) : (storeAddress found store out).value
      = match found.value with
        | some addr => store addr
        | none => out := by
  rw [storeAddress, value_bind]
  cases found.value <;> rfl

theorem value_storeAddress_decode {val len : ℕ} (txnId : Bytes) (store : TurnAddress → TurnMessage) (out : TurnMessage)
    (h : val + len ≤ data.length) : (storeAddress (decodeXorAddress data val len txnId) store out).value
      = match Turn.decodeXorAddress ((data.drop val).take len) txnId with
        | some addr => store addr
        | none => out := by
  have hvalue := value_storeAddress (decodeXorAddress data val len txnId) store out
  rw [value_decodeXorAddress txnId h] at hvalue
  exact hvalue

theorem value_readAttribute (out : TurnMessage) (aType : UInt16) {aVal aLen : ℕ} (h : aVal + aLen ≤ data.length) :
    (readAttribute data out aType aVal aLen).value
      = Turn.readAttribute out ⟨aType, (data.drop aVal).take aLen⟩ := by
  have hlen : ((data.drop aVal).take aLen).length = aLen := by
    rw [List.length_take, List.length_drop]
    omega
  have hbyte : ∀ k < aLen, ((data.drop aVal).take aLen).getD k 0 = data.getD (aVal + k) 0 := by
    intro k hk
    simp [List.getD, List.getElem?_drop, hk]
  unfold readAttribute Turn.readAttribute
  simp only [hlen]
  refine value_ite_eq (fun _ => rfl) fun _ => ?_
  refine value_ite_eq (fun _ => rfl) fun _ => ?_
  refine value_ite_eq (fun _ => rfl) fun _ => ?_
  refine value_ite_eq (fun _ => value_ite_eq (fun hsize => ?_) fun _ => rfl) fun _ => ?_
  · rw [hbyte 2 (by omega), hbyte 3 (by omega), List.drop_take, List.drop_drop]
    simp only [value_bind, value_byteAt, value_ite, value_pure, value_slice]
    by_cases hreason : 4 < aLen
    · rw [if_pos hreason, if_pos hreason]
    · rw [if_neg hreason, if_neg hreason]
  refine value_ite_eq (fun _ => value_storeAddress_decode _ _ out h) fun _ => ?_
  refine value_ite_eq (fun _ => value_storeAddress_decode _ _ out h) fun _ => ?_
  refine value_ite_eq (fun _ => value_storeAddress_decode _ _ out h) fun _ => ?_
  refine value_ite_eq (fun _ => rfl) fun _ => ?_
  refine value_ite_eq (fun _ => value_ite_eq (fun hsize => ?_) fun _ => rfl) fun _ => ?_
  · have hload : loadBE32 ((data.drop aVal).take 4) = loadBE32 (data.drop aVal) := by
      rw [loadBE32, List.take_take, loadBE32, Nat.min_self]
    rw [hsize, hload, value_bind, value_loadBE32At, value_pure]
  refine value_ite_eq (fun _ => value_ite_eq (fun hsize => ?_) fun _ => rfl) fun _ => ?_
  · rw [hbyte 0 (by omega), value_bind, value_byteAt, value_pure, Nat.add_zero]
  refine value_ite_eq (fun _ => value_ite_eq (fun hsize => ?_) fun _ => rfl) fun _ => rfl
  rw [hsize]
  rfl

theorem value_decodeMessage (bytes : Bytes) : (decodeMessage bytes).value = Turn.decodeMessage bytes := by
  unfold decodeMessage Turn.decodeMessage
  refine value_ite_eq (fun _ => rfl) fun hsize => ?_
  rw [value_bind, value_byteAt]
  refine value_ite_eq (fun _ => rfl) fun _ => ?_
  simp only [value_bind, value_loadBE16At, value_loadBE32At, List.drop_zero]
  refine value_ite_eq (fun _ => rfl) fun _ => ?_
  refine value_ite_eq (fun _ => rfl) fun harea => ?_
  have hvisit := fun out aType aVal aLen (h : aVal + aLen ≤ 20 + (loadBE16 (bytes.drop 2)).toNat) =>
    value_readAttribute out aType (show aVal + aLen ≤ bytes.length by omega)
  rw [value_bind, value_bind, value_slice, value_copy, Tlv.value_walk (by omega) hvisit, List.drop_take,
    Nat.add_sub_cancel_left]

/-! ### Where it reads -/

theorem reads_decodeXorAddress (hP : Covers P last) {val len : ℕ} (txnId : Bytes) (h : val + len ≤ last) :
    Reads P (decodeXorAddress data val len txnId) := by
  unfold decodeXorAddress
  refine reads_ite (fun _ => reads_pure _) fun _ => ?_
  refine (reads_byteAt hP (by omega)).bind ((reads_loadBE16At hP (by omega)).bind ?_)
  refine reads_ite (fun _ => (reads_loadBE32At hP (by omega)).bind (reads_pure _)) fun _ => ?_
  refine reads_ite (fun _ => reads_ite (fun _ => reads_pure _) fun _ => ?_) fun _ => reads_pure _
  exact (reads_slice hP (by omega)).bind (reads_pure _)

theorem reads_storeAddress {found : Traced (Option TurnAddress)} (hfound : Reads P found)
    (store : TurnAddress → TurnMessage) (out : TurnMessage) : Reads P (storeAddress found store out) := by
  refine hfound.bind ?_
  cases found.value <;> exact reads_pure _

theorem reads_readAttribute (hP : Covers P last) (out : TurnMessage) (aType : UInt16) (aVal aLen : ℕ)
    (h : aVal + aLen ≤ last) : Reads P (readAttribute data out aType aVal aLen) := by
  have hvalue : Reads P (slice data aVal aLen) := reads_slice hP h
  have haddress : Reads P (decodeXorAddress data aVal aLen out.transactionId) := reads_decodeXorAddress hP _ h
  unfold readAttribute
  refine reads_ite (fun _ => hvalue.bind (reads_pure _)) fun _ => ?_
  refine reads_ite (fun _ => hvalue.bind (reads_pure _)) fun _ => ?_
  refine reads_ite (fun _ => hvalue.bind (reads_pure _)) fun _ => ?_
  refine reads_ite (fun _ => reads_ite (fun _ => ?_) fun _ => reads_pure _) fun _ => ?_
  · refine (reads_byteAt hP (by omega)).bind ((reads_byteAt hP (by omega)).bind ?_)
    exact reads_ite (fun _ => (reads_slice hP (by omega)).bind (reads_pure _)) fun _ => reads_pure _
  refine reads_ite (fun _ => reads_storeAddress haddress _ _) fun _ => ?_
  refine reads_ite (fun _ => reads_storeAddress haddress _ _) fun _ => ?_
  refine reads_ite (fun _ => reads_storeAddress haddress _ _) fun _ => ?_
  refine reads_ite (fun _ => hvalue.bind (reads_pure _)) fun _ => ?_
  refine reads_ite (fun _ => reads_ite (fun _ => ?_) fun _ => reads_pure _) fun _ => ?_
  · exact (reads_loadBE32At hP (by omega)).bind (reads_pure _)
  refine reads_ite (fun _ => reads_ite (fun _ => ?_) fun _ => reads_pure _) fun _ => ?_
  · exact (reads_byteAt hP (by omega)).bind (reads_pure _)
  refine reads_ite (fun _ => reads_ite (fun _ => ?_) fun _ => reads_pure _) fun _ => reads_pure _
  exact (reads_slice hP (by omega)).bind (reads_pure _)

/-- **`DecodeMessage` reads below the end of the declared section**, but for the copy of the datagram. -/
theorem reads_decodeMessage (hP : Covers P (min (StunReads.sectionEnd bytes) bytes.length))
    (hcopy : P (.whole bytes.length)) : Reads P (decodeMessage bytes) := by
  unfold decodeMessage
  refine reads_ite (fun _ => reads_pure _) fun hsize => ?_
  have hheader : Covers P 20 := hP.mono (by unfold StunReads.sectionEnd; omega)
  refine (reads_byteAt hheader (by omega)).bind (reads_ite (fun _ => reads_pure _) fun _ => ?_)
  refine (reads_loadBE16At hheader (by omega)).bind ((reads_loadBE16At hheader (by omega)).bind
    ((reads_loadBE32At hheader (by omega)).bind ?_))
  refine reads_ite (fun _ => reads_pure _) fun _ => reads_ite (fun _ => reads_pure _) fun harea => ?_
  have hsection : Covers P (20 + (loadBE16At bytes 2).value.toNat) := by
    rw [value_loadBE16At] at harea ⊢
    exact hP.mono (by unfold StunReads.sectionEnd; omega)
  refine (reads_slice hheader (by omega)).bind ((reads_copy hcopy).bind ?_)
  exact Tlv.reads_walk hsection (reads_readAttribute hsection) _ _

/-! ### All parsers -/

/-- **Parsing a datagram stays inside it.**  `Decode`, `VerifyMessageIntegrity` and `DecodeMessage` look at no byte behind
the declared section, `VerifyFingerprint` at none behind the datagram, and none of them at one behind the datagram; as
a whole, only `DecodeMessage` copies the datagram. -/
theorem parsers_read_below (hmacSha1 : Bytes → Bytes → Bytes) (bytes password : Bytes) :
    (∀ a ∈ (StunReads.decode bytes).trace, a.Below (StunReads.sectionEnd bytes) ∧ a.Below bytes.length) ∧
      (∀ a ∈ (StunReads.verifyMessageIntegrity hmacSha1 bytes password).trace,
        a.Below (StunReads.sectionEnd bytes) ∧ a.Below bytes.length) ∧
      (∀ a ∈ (StunReads.verifyFingerprint bytes).trace, a.Below bytes.length) ∧
      ∀ a ∈ (decodeMessage bytes).trace, a.ByteBelow (StunReads.sectionEnd bytes) ∧ a.Below bytes.length := by
  have hbelow : Covers (fun a => a.Below (StunReads.sectionEnd bytes) ∧ a.Below bytes.length)
      (min (StunReads.sectionEnd bytes) bytes.length) := fun i hi => lt_min_iff.1 hi
  have hbyte : Covers (fun a => a.ByteBelow (StunReads.sectionEnd bytes) ∧ a.Below bytes.length)
      (min (StunReads.sectionEnd bytes) bytes.length) := fun i hi => lt_min_iff.1 hi
  refine ⟨StunReads.reads_decode hbelow, StunReads.reads_verifyMessageIntegrity hbelow, ?_, ?_⟩
  · exact StunReads.reads_verifyFingerprint fun i hi => hi
  · exact reads_decodeMessage hbyte ⟨trivial, le_refl bytes.length⟩

/-- A datagram that declares no attributes, with eight bytes behind its header: `VerifyFingerprint` looks at them. -/
theorem fingerprint_behind_section :
    ¬ ∀ a ∈ (StunReads.verifyFingerprint (List.replicate 28 0)).trace,
      a.Below (StunReads.sectionEnd (List.replicate 28 0)) := by
  decide

end VianiumVoip.Turn.MessageReads
