import VianiumVoip.Turn.Message
import VianiumVoip.Ice.Encoding

/-!
# What the TURN encoders write

The four encoders of `infrastructure/turn` and the decoder behind them.  They share the header, the XOR addresses, the
credentials and MESSAGE-INTEGRITY; the verifier of the tag is the one of `infrastructure/ice`.

`EncodeXorAddress` overwrites the first four bytes of an IPv6 address with zeros, after it has written the family and
the port there.  The decoder finds a family it does not know and drops the address (`decodeXorAddress_xorAddress`).
Everything else comes back, so a message is restored exactly when it names no IPv6 peer (`roundTrips_iff`).
-/

namespace VianiumVoip.Turn

open VianiumVoip.Lib VianiumVoip.Ice StunMessageCodec

def kAttrDontFragment : UInt16 := 0x001A

/-! ### Encoding -/

/-- `AppendAttr` -/
def appendAttr (buf : Bytes) (type : UInt16) (value : Bytes) : Bytes :=
  let buf := buf ++ storeBE16 type ++ storeBE16 (UInt16.ofNat value.length) ++ value
  buf ++ List.replicate ((4 - buf.length % 4) % 4) 0

/-- The value that `EncodeXorAddress` appends; `none` where it returns without one. -/
def xorAddress (addr : TurnAddress) (txnId : Bytes) : Option Bytes :=
  if addr.family ≠ kFamilyIPv4 ∧ addr.family ≠ kFamilyIPv6 then none
  else if addr.family = kFamilyIPv4 ∧ addr.address.length ≠ 4 then none
  else if addr.family = kFamilyIPv6 ∧ addr.address.length ≠ 16 then none
  else
    let xport := addr.port ^^^ (kMagicCookie >>> (16 : UInt32)).toUInt16
    let v := [0, addr.family] ++ storeBE16 xport
    if addr.family = kFamilyIPv4 then some (v ++ storeBE32 (loadBE32 addr.address ^^^ kMagicCookie))
    else
      -- `WriteU32(v, 0, 0)`, the "dummy to silence unused-warnings"
      let v := storeBE32 0 ++ v.drop 4
      some (v ++ xorBytes addr.address (storeBE32 kMagicCookie ++ txnId))

def encodeXorAddress (buf : Bytes) (attrType : UInt16) (addr : TurnAddress) (txnId : Bytes) : Bytes :=
  match xorAddress addr txnId with
  | some v => appendAttr buf attrType v
  | none => buf

def appendCommonAuthAttrs (buf username realm nonce : Bytes) : Bytes :=
  let buf := if username ≠ [] then appendAttr buf kAttrUsername username else buf
  let buf := if realm ≠ [] then appendAttr buf kAttrRealm realm else buf
  if nonce ≠ [] then appendAttr buf kAttrNonce nonce else buf

/-- `WriteU16(buf, 2, …)` -/
def writeLength (buf : Bytes) (length : ℕ) : Bytes := buf.take 2 ++ storeBE16 (UInt16.ofNat length) ++ buf.drop 4

def writeHeader (type : UInt16) (txnId : Bytes) : Bytes :=
  storeBE16 type ++ storeBE16 0 ++ storeBE32 kMagicCookie ++ txnId

def finalizeLength (buf : Bytes) : Bytes := writeLength buf (buf.length - 20)

variable (hmacSha1 : Bytes → Bytes → Bytes)

def appendMessageIntegrity (buf key : Bytes) : Bytes :=
  let buf := writeLength buf (buf.length - 20 + 24)
  appendAttr buf kAttrMessageIntegrity (hmacSha1 key buf)

def encodeAllocate (txnId : Bytes) (lifetimeSeconds : UInt32) (username realm nonce key : Bytes) : Bytes :=
  let buf := writeHeader (turnMessageType kMethodAllocate kClassRequest) txnId
  let buf := appendAttr buf kAttrRequestedTransport [17, 0, 0, 0]
  let buf := appendAttr buf kAttrDontFragment []
  let buf := appendAttr buf kAttrLifetime (storeBE32 lifetimeSeconds)
  let buf := appendCommonAuthAttrs buf username realm nonce
  let buf := if key ≠ [] then appendMessageIntegrity hmacSha1 buf key else buf
  finalizeLength buf

def encodeCreatePermission (txnId : Bytes) (peers : List TurnAddress) (username realm nonce key : Bytes) : Bytes :=
  let buf := writeHeader (turnMessageType kMethodCreatePermission kClassRequest) txnId
  let buf := peers.foldl (fun buf peer => encodeXorAddress buf kAttrXorPeerAddress peer txnId) buf
  let buf := appendCommonAuthAttrs buf username realm nonce
  let buf := if key ≠ [] then appendMessageIntegrity hmacSha1 buf key else buf
  finalizeLength buf

def encodeSendIndication (txnId : Bytes) (peer : TurnAddress) (data : Bytes) : Bytes :=
  let buf := writeHeader (turnMessageType kMethodSend kClassIndication) txnId
  let buf := encodeXorAddress buf kAttrXorPeerAddress peer txnId
  let buf := appendAttr buf kAttrData data
  finalizeLength buf

def encodeRefresh (txnId : Bytes) (lifetimeSeconds : UInt32) (username realm nonce key : Bytes) : Bytes :=
  let buf := writeHeader (turnMessageType kMethodRefresh kClassRequest) txnId
  let buf := appendAttr buf kAttrLifetime (storeBE32 lifetimeSeconds)
  let buf := appendCommonAuthAttrs buf username realm nonce
  let buf := if key ≠ [] then appendMessageIntegrity hmacSha1 buf key else buf
  finalizeLength buf

/-- The messages that the client sends. -/
inductive Outgoing
  | allocate (lifetimeSeconds : UInt32) (username realm nonce key : Bytes)
  | createPermission (peers : List TurnAddress) (username realm nonce key : Bytes)
  | sendIndication (peer : TurnAddress) (data : Bytes)
  | refresh (lifetimeSeconds : UInt32) (username realm nonce key : Bytes)

namespace Outgoing

def encode (txnId : Bytes) : Outgoing → Bytes
  | allocate lifetimeSeconds username realm nonce key =>
    encodeAllocate hmacSha1 txnId lifetimeSeconds username realm nonce key
  | createPermission peers username realm nonce key =>
    encodeCreatePermission hmacSha1 txnId peers username realm nonce key
  | sendIndication peer data => encodeSendIndication txnId peer data
  | refresh lifetimeSeconds username realm nonce key =>
    encodeRefresh hmacSha1 txnId lifetimeSeconds username realm nonce key

def type : Outgoing → UInt16
  | allocate .. => turnMessageType kMethodAllocate kClassRequest
  | createPermission .. => turnMessageType kMethodCreatePermission kClassRequest
  | sendIndication .. => turnMessageType kMethodSend kClassIndication
  | refresh .. => turnMessageType kMethodRefresh kClassRequest

def key : Outgoing → Bytes
  | allocate _ _ _ _ key | createPermission _ _ _ _ key | refresh _ _ _ _ key => key
  | sendIndication .. => []

def peers : Outgoing → List TurnAddress
  | createPermission peers .. => peers
  | sendIndication peer _ => [peer]
  | _ => []

end Outgoing

/-! ### The attributes -/

def credentialAttributes (username realm nonce : Bytes) : List Tlv.Attribute :=
  (if username ≠ [] then [⟨kAttrUsername, username⟩] else [])
    ++ (if realm ≠ [] then [⟨kAttrRealm, realm⟩] else [])
    ++ (if nonce ≠ [] then [⟨kAttrNonce, nonce⟩] else [])

def peerAttributes (txnId : Bytes) (peers : List TurnAddress) : List Tlv.Attribute :=
  peers.flatMap fun peer => ((xorAddress peer txnId).map fun v => ⟨kAttrXorPeerAddress, v⟩).toList

/-- The attributes in front of MESSAGE-INTEGRITY. -/
def Outgoing.fields (txnId : Bytes) : Outgoing → List Tlv.Attribute
  | allocate lifetimeSeconds username realm nonce _ =>
    [⟨kAttrRequestedTransport, [17, 0, 0, 0]⟩, ⟨kAttrDontFragment, []⟩, ⟨kAttrLifetime, storeBE32 lifetimeSeconds⟩]
      ++ credentialAttributes username realm nonce
  | createPermission peers username realm nonce _ =>
    peerAttributes txnId peers ++ credentialAttributes username realm nonce
  | sendIndication peer data => peerAttributes txnId [peer] ++ [⟨kAttrData, data⟩]
  | refresh lifetimeSeconds username realm nonce _ =>
    [⟨kAttrLifetime, storeBE32 lifetimeSeconds⟩] ++ credentialAttributes username realm nonce

/-- The header of a STUN message. -/
abbrev header (type : UInt16) (txnId : Bytes) : StunMessage := { messageType := type, transactionId := txnId }

/-- MESSAGE-INTEGRITY, over a header whose length counts it. -/
def integrityAttributes (type : UInt16) (txnId key : Bytes) (as : List Tlv.Attribute) : List Tlv.Attribute :=
  if key ≠ [] then
    [⟨kAttrMessageIntegrity, hmacSha1 key (frame (header type txnId) (areaLength as + 24) as)⟩]
  else []

def Outgoing.attributes (txnId : Bytes) (o : Outgoing) : List Tlv.Attribute :=
  o.fields txnId ++ integrityAttributes hmacSha1 o.type txnId o.key (o.fields txnId)

variable {hmacSha1} {type : UInt16} {txnId : Bytes} {o : Outgoing}

theorem writeHeader_eq (type : UInt16) (txnId : Bytes) : writeHeader type txnId = frame (header type txnId) 0 [] := by
  simp only [writeHeader, frame, List.flatMap_nil, List.append_nil]
  rfl

theorem appendAttr_header (hid : txnId.length = 12) (n : ℕ) (as : List Tlv.Attribute) (attrType : UInt16)
    (value : Bytes) : Turn.appendAttr (frame (header type txnId) n as) attrType value
      = frame (header type txnId) n (as ++ [⟨attrType, value⟩]) :=
  appendAttr_frame hid n as attrType value

theorem encodeXorAddress_header (hid : txnId.length = 12) (n : ℕ) (as : List Tlv.Attribute) (peer : TurnAddress) :
    encodeXorAddress (frame (header type txnId) n as) kAttrXorPeerAddress peer txnId
      = frame (header type txnId) n (as ++ peerAttributes txnId [peer]) := by
  unfold encodeXorAddress
  rw [peerAttributes, List.flatMap_singleton]
  cases xorAddress peer txnId with
  | none => simp
  | some v => exact appendAttr_header hid n as kAttrXorPeerAddress v

theorem foldl_encodeXorAddress (hid : txnId.length = 12) (n : ℕ) (as : List Tlv.Attribute) (peers : List TurnAddress) :
    peers.foldl (fun buf peer => encodeXorAddress buf kAttrXorPeerAddress peer txnId) (frame (header type txnId) n as)
      = frame (header type txnId) n (as ++ peerAttributes txnId peers) := by
  induction peers generalizing as with
  | nil => simp [peerAttributes]
  | cons peer peers ih =>
    have hcons : peerAttributes txnId (peer :: peers) = peerAttributes txnId [peer] ++ peerAttributes txnId peers := by
      simp [peerAttributes]
    rw [List.foldl_cons, encodeXorAddress_header hid, ih, List.append_assoc, hcons]

theorem appendCommonAuthAttrs_header (hid : txnId.length = 12) (n : ℕ) (as : List Tlv.Attribute)
    (username realm nonce : Bytes) : appendCommonAuthAttrs (frame (header type txnId) n as) username realm nonce
      = frame (header type txnId) n (as ++ credentialAttributes username realm nonce) := by
  have hite : ∀ (as : List Tlv.Attribute) (attrType : UInt16) (value : Bytes),
      (if value ≠ [] then Turn.appendAttr (frame (header type txnId) n as) attrType value
        else frame (header type txnId) n as)
        = frame (header type txnId) n (as ++ if value ≠ [] then [⟨attrType, value⟩] else []) := by
    intro as attrType value
    exact appendAttr_ite hid n as attrType value (value ≠ [])
  unfold appendCommonAuthAttrs credentialAttributes
  simp only [hite, List.append_assoc]

theorem finalize_header (hid : txnId.length = 12) (key : Bytes) (as : List Tlv.Attribute) :
    finalizeLength (if key ≠ [] then appendMessageIntegrity hmacSha1 (frame (header type txnId) 0 as) key
      else frame (header type txnId) 0 as)
      = frame (header type txnId) (areaLength (as ++ integrityAttributes hmacSha1 type txnId key as))
          (as ++ integrityAttributes hmacSha1 type txnId key as) := by
  have hsize : ∀ n as, (frame (header type txnId) n as).length - 20 = areaLength as := by
    intro n as
    rw [length_frame hid]
    omega
  have hwrite : ∀ n m as, Turn.writeLength (frame (header type txnId) n as) m = frame (header type txnId) m as :=
    fun n m as => writeLength_frame n m as
  unfold finalizeLength appendMessageIntegrity integrityAttributes
  by_cases hkey : key = []
  · simp only [hkey, ne_eq, not_true_eq_false, if_false, hwrite, hsize, List.append_nil]
  · simp only [ne_eq, hkey, not_false_eq_true, if_true, hwrite, hsize, appendAttr_header hid]

/-- **What is encoded** is the header with the length of the attributes, and the attributes. -/
theorem Outgoing.encode_eq (hid : txnId.length = 12) (o : Outgoing) : o.encode hmacSha1 txnId
    = frame (header o.type txnId) (areaLength (o.attributes hmacSha1 txnId)) (o.attributes hmacSha1 txnId) := by
  cases o with
  | allocate lifetimeSeconds username realm nonce key =>
    simp only [encode, encodeAllocate, writeHeader_eq, appendAttr_header hid, appendCommonAuthAttrs_header hid]
    exact finalize_header hid key _
  | createPermission peers username realm nonce key =>
    simp only [encode, encodeCreatePermission, writeHeader_eq, foldl_encodeXorAddress hid,
      appendCommonAuthAttrs_header hid]
    exact finalize_header hid key _
  | sendIndication peer data =>
    simp only [encode, encodeSendIndication, writeHeader_eq, encodeXorAddress_header hid, appendAttr_header hid]
    exact finalize_header hid [] _
  | refresh lifetimeSeconds username realm nonce key =>
    simp only [encode, encodeRefresh, writeHeader_eq, appendAttr_header hid, appendCommonAuthAttrs_header hid]
    exact finalize_header hid key _

/-! ### Reading them back -/

/-- An address of a family that the code has, with as many bytes as the family takes. -/
def TurnAddress.WellFormed (addr : TurnAddress) : Prop :=
  addr.family = kFamilyIPv4 ∧ addr.address.length = 4 ∨ addr.family = kFamilyIPv6 ∧ addr.address.length = 16

instance (addr : TurnAddress) : Decidable addr.WellFormed := inferInstanceAs (Decidable (_ ∨ _))

/-- A well-formed address of IPv4. -/
def TurnAddress.IsIPv4 (addr : TurnAddress) : Prop := addr.family = kFamilyIPv4 ∧ addr.address.length = 4

instance (addr : TurnAddress) : Decidable addr.IsIPv4 := inferInstanceAs (Decidable (_ ∧ _))

theorem xorAddress_ipv4 {addr : TurnAddress} (h : addr.IsIPv4) (txnId : Bytes) : xorAddress addr txnId
    = some (0 :: kFamilyIPv4 :: (storeBE16 (addr.port ^^^ (kMagicCookie >>> (16 : UInt32)).toUInt16)
        ++ storeBE32 (loadBE32 addr.address ^^^ kMagicCookie))) := by
  obtain ⟨hfamily, hlen⟩ := h
  unfold xorAddress
  rw [hfamily, hlen]
  rfl

/-- Of an IPv6 address, the family and the port are gone. -/
theorem xorAddress_ipv6 {addr : TurnAddress} (hfamily : addr.family = kFamilyIPv6) (hlen : addr.address.length = 16)
    (txnId : Bytes) :
    xorAddress addr txnId = some (storeBE32 0 ++ xorBytes addr.address (storeBE32 kMagicCookie ++ txnId)) := by
  unfold xorAddress
  rw [hfamily, hlen]
  rfl

theorem xorAddress_malformed {addr : TurnAddress} (h : ¬ addr.WellFormed) (txnId : Bytes) :
    xorAddress addr txnId = none := by
  simp only [TurnAddress.WellFormed, not_or, not_and] at h
  unfold xorAddress
  by_cases h4 : addr.family = kFamilyIPv4
  · simp [h4, h.1 h4]
  · by_cases h6 : addr.family = kFamilyIPv6
    · simp [h6, h.2 h6]
    · rw [if_pos ⟨h4, h6⟩]

/-- **An IPv4 address comes back, and nothing else does**: of an IPv6 address the encoder has overwritten the family. -/
theorem decodeXorAddress_xorAddress (addr : TurnAddress) (txnId : Bytes) :
    (xorAddress addr txnId).bind (decodeXorAddress · txnId) = if addr.IsIPv4 then some addr else none := by
  by_cases h4 : addr.IsIPv4
  · rw [xorAddress_ipv4 h4, if_pos h4, Option.bind_some]
    obtain ⟨hfamily, hlen⟩ := h4
    set port := addr.port ^^^ (kMagicCookie >>> (16 : UInt32)).toUInt16 with hport
    set value := loadBE32 addr.address ^^^ kMagicCookie with hvalue
    have hload := loadBE32_store value []
    rw [List.append_nil] at hload
    have hportBack : port ^^^ (kMagicCookie >>> (16 : UInt32)).toUInt16 = addr.port := by
      rw [hport, UInt16.xor_assoc, UInt16.xor_self, UInt16.xor_zero]
    have hvalueBack : storeBE32 (value ^^^ kMagicCookie) = addr.address := by
      rw [hvalue, UInt32.xor_assoc, UInt32.xor_self, UInt32.xor_zero, storeBE32_load (by omega),
        List.take_of_length_le (by omega)]
    unfold decodeXorAddress
    rw [if_neg (by simp), List.drop_succ_cons, List.drop_succ_cons, List.drop_zero, loadBE16_store,
      List.drop_succ_cons, List.drop_succ_cons, drop_storeBE16 _ 0, List.drop_zero, hload]
    simp only [List.getD_cons_succ, List.getD_cons_zero, if_true, hportBack, hvalueBack, ← hfamily]
  · rw [if_neg h4]
    by_cases h6 : addr.family = kFamilyIPv6 ∧ addr.address.length = 16
    · rw [xorAddress_ipv6 h6.1 h6.2, Option.bind_some]
      have hfamily : ∀ v : Bytes, (storeBE32 0 ++ v).getD 1 0 = 0 := fun _ => rfl
      unfold decodeXorAddress
      rw [hfamily]
      split_ifs <;> rfl
    · rw [xorAddress_malformed (by simp only [TurnAddress.WellFormed, not_or]; exact ⟨h4, h6⟩), Option.bind_none]

/-- A text that is sent unless it is empty. -/
def sent (text : Bytes) : Option Bytes := if text ≠ [] then some text else none

theorem foldl_credentialAttributes {out : TurnMessage} (username realm nonce : Bytes)
    (hnone : out.username = none ∧ out.realm = none ∧ out.nonce = none) :
    (credentialAttributes username realm nonce).foldl readAttribute out
      = { out with username := sent username, realm := sent realm, nonce := sent nonce } := by
  obtain ⟨husername, hrealm, hnonce⟩ := hnone
  rcases out with ⟨⟩
  simp only at husername hrealm hnonce
  subst husername hrealm hnonce
  unfold credentialAttributes sent
  by_cases h₁ : username = [] <;> by_cases h₂ : realm = [] <;> by_cases h₃ : nonce = [] <;>
    simp only [h₁, h₂, h₃, ne_eq, not_true_eq_false, not_false_eq_true, if_true, if_false] <;> rfl

theorem readAttribute_xorPeerAddress {out : TurnMessage} (hid : out.transactionId = txnId) (v : Bytes) :
    readAttribute out ⟨kAttrXorPeerAddress, v⟩
      = (decodeXorAddress v txnId).elim out fun addr => { out with xorPeers := out.xorPeers ++ [addr] } := by
  have hread : readAttribute out ⟨kAttrXorPeerAddress, v⟩
      = (decodeXorAddress v out.transactionId).elim out fun addr =>
          { out with xorPeers := out.xorPeers ++ [addr] } := by
    unfold readAttribute
    cases decodeXorAddress v out.transactionId <;> rfl
  rw [hread, hid]

theorem foldl_peerAttribute {out : TurnMessage} (hid : out.transactionId = txnId) (peer : TurnAddress) :
    (peerAttributes txnId [peer]).foldl readAttribute out
      = { out with xorPeers := out.xorPeers ++ [peer].filter fun peer => peer.IsIPv4 } := by
  have hdecode := decodeXorAddress_xorAddress peer txnId
  rw [peerAttributes, List.flatMap_singleton]
  cases hv : xorAddress peer txnId with
  | none =>
    rw [hv, Option.bind_none] at hdecode
    have hnot : ¬ peer.IsIPv4 := by
      intro h
      rw [if_pos h] at hdecode
      cases hdecode
    simp [hnot]
  | some v =>
    rw [hv, Option.bind_some] at hdecode
    simp only [Option.map_some, Option.toList_some, List.foldl_cons, List.foldl_nil]
    rw [readAttribute_xorPeerAddress hid, hdecode]
    by_cases h : peer.IsIPv4
    · simp [h]
    · simp [h]

theorem foldl_peerAttributes {out : TurnMessage} (hid : out.transactionId = txnId) (peers : List TurnAddress) :
    (peerAttributes txnId peers).foldl readAttribute out
      = { out with xorPeers := out.xorPeers ++ peers.filter fun peer => peer.IsIPv4 } := by
  induction peers generalizing out with
  | nil => simp [peerAttributes]
  | cons peer peers ih =>
    have hcons : peerAttributes txnId (peer :: peers) = peerAttributes txnId [peer] ++ peerAttributes txnId peers := by
      simp [peerAttributes]
    rw [hcons, List.foldl_append, foldl_peerAttribute hid, ih (by exact hid)]
    simp only [List.append_assoc, ← List.filter_append, List.singleton_append]

/-- What the message says, with the peers in `peers`. -/
def Outgoing.said (txnId raw : Bytes) (tag : Option Bytes) (peers : List TurnAddress) : Outgoing → TurnMessage
  | allocate lifetimeSeconds username realm nonce _ =>
    { type := turnMessageType kMethodAllocate kClassRequest, transactionId := txnId, username := sent username
      realm := sent realm, nonce := sent nonce, lifetime := some lifetimeSeconds, requestedTransport := some 17
      messageIntegrity := tag, raw := raw }
  | createPermission _ username realm nonce _ =>
    { type := turnMessageType kMethodCreatePermission kClassRequest, transactionId := txnId, username := sent username
      realm := sent realm, nonce := sent nonce, xorPeers := peers, messageIntegrity := tag, raw := raw }
  | sendIndication _ data =>
    { type := turnMessageType kMethodSend kClassIndication, transactionId := txnId, xorPeers := peers
      data := some data, messageIntegrity := tag, raw := raw }
  | refresh lifetimeSeconds username realm nonce _ =>
    { type := turnMessageType kMethodRefresh kClassRequest, transactionId := txnId, username := sent username
      realm := sent realm, nonce := sent nonce, lifetime := some lifetimeSeconds, messageIntegrity := tag, raw := raw }

theorem Outgoing.foldl_fields (txnId raw : Bytes) (o : Outgoing) :
    (o.fields txnId).foldl readAttribute { type := o.type, transactionId := txnId, raw := raw }
      = o.said txnId raw none (o.peers.filter fun peer => peer.IsIPv4) := by
  have hlifetime : ∀ (out : TurnMessage) (lifetimeSeconds : UInt32),
      readAttribute out ⟨kAttrLifetime, storeBE32 lifetimeSeconds⟩ = { out with lifetime := some lifetimeSeconds } := by
    intro out lifetimeSeconds
    have hload := loadBE32_store lifetimeSeconds []
    rw [List.append_nil] at hload
    have hread : readAttribute out ⟨kAttrLifetime, storeBE32 lifetimeSeconds⟩
        = if (storeBE32 lifetimeSeconds).length = 4 then
            { out with lifetime := some (loadBE32 (storeBE32 lifetimeSeconds)) }
          else out := rfl
    rw [hread, if_pos (length_storeBE32 _), hload]
  cases o with
  | allocate lifetimeSeconds username realm nonce key =>
    rw [fields, List.foldl_append, List.foldl_cons, List.foldl_cons, List.foldl_cons, List.foldl_nil, hlifetime,
      foldl_credentialAttributes _ _ _ ⟨rfl, rfl, rfl⟩]
    rfl
  | createPermission peers username realm nonce key =>
    rw [fields, List.foldl_append, foldl_peerAttributes rfl, foldl_credentialAttributes _ _ _ ⟨rfl, rfl, rfl⟩]
    rfl
  | sendIndication peer data =>
    rw [fields, List.foldl_append, foldl_peerAttributes rfl]
    rfl
  | refresh lifetimeSeconds username realm nonce key =>
    rw [fields, List.foldl_append, List.foldl_cons, List.foldl_nil, hlifetime,
      foldl_credentialAttributes _ _ _ ⟨rfl, rfl, rfl⟩]
    rfl

/-- What follows the header fits the length field. -/
def Outgoing.Fits (hmacSha1 : Bytes → Bytes → Bytes) (txnId : Bytes) (o : Outgoing) : Prop :=
  (o.encode hmacSha1 txnId).length < 20 + 2 ^ 16

instance (hmacSha1 : Bytes → Bytes → Bytes) (txnId : Bytes) (o : Outgoing) : Decidable (o.Fits hmacSha1 txnId) :=
  inferInstanceAs (Decidable (_ < _))

theorem Outgoing.areaLength_of_fits (hid : txnId.length = 12) (h : o.Fits hmacSha1 txnId) :
    areaLength (o.attributes hmacSha1 txnId) < 2 ^ 16 := by
  unfold Fits at h
  rw [o.encode_eq hid, length_frame hid] at h
  omega

/-- The tag that is appended. -/
def Outgoing.tag (hmacSha1 : Bytes → Bytes → Bytes) (txnId : Bytes) (o : Outgoing) : Option Bytes :=
  if o.key ≠ [] then
    some (hmacSha1 o.key (frame (header o.type txnId) (areaLength (o.fields txnId) + 24) (o.fields txnId)))
  else none

/-- **A message that fits its length field is decoded** into what it says, but for the peers, of which those of IPv4
are left. -/
theorem Outgoing.decodeMessage_encode (hmac : ∀ key data, (hmacSha1 key data).length = 20) (hid : txnId.length = 12)
    (h : o.Fits hmacSha1 txnId) : decodeMessage (o.encode hmacSha1 txnId)
      = some (o.said txnId (o.encode hmacSha1 txnId) (o.tag hmacSha1 txnId)
          (o.peers.filter fun peer => peer.IsIPv4)) := by
  have harea := areaLength_of_fits hid h
  have hframed : Framed _ (header o.type txnId) _ := framed_frame hid harea
  rw [← o.encode_eq hid] at hframed
  set bytes := o.encode hmacSha1 txnId with hbytes
  have hfirst : bytes.getD 0 0 ≤ 0x03 := by
    have hform : bytes = storeBE16 o.type ++ bytes.drop 2 := by
      rw [hbytes, o.encode_eq hid]
      simp only [frame, List.append_assoc, drop_storeBE16 _ 0, List.drop_zero]
    rw [hform, List.getD_append _ _ _ _ (by simp)]
    cases o <;> simp only [type] <;> decide
  have hattributes : Tlv.attributes ((bytes.drop 20).take (loadBE16 (bytes.drop 2)).toNat)
      = some (o.attributes hmacSha1 txnId) := by
    have hread := Tlv.attributes_flatMap_encode (o.attributes hmacSha1 txnId) (length_value_lt_of_areaLength harea) []
    rw [List.append_nil, Tlv.attributes_of_short (show ([] : Bytes).length < 4 by simp), Option.map_some,
      List.append_nil] at hread
    rw [← hread, ← hframed.area]
    rfl
  have hread : (o.attributes hmacSha1 txnId).foldl readAttribute { type := o.type, transactionId := txnId, raw := bytes }
      = o.said txnId bytes (o.tag hmacSha1 txnId) (o.peers.filter fun peer => peer.IsIPv4) := by
    rw [attributes, List.foldl_append, o.foldl_fields txnId bytes, integrityAttributes, tag]
    by_cases hkey : o.key = []
    · simp [hkey]
    · rw [if_pos hkey, if_pos hkey, List.foldl_cons, List.foldl_nil]
      set mac := hmacSha1 o.key (frame (header o.type txnId) (areaLength (o.fields txnId) + 24) (o.fields txnId)) with hmacEq
      have hlen : mac.length = 20 := by rw [hmacEq, hmac]
      have hstep : ∀ out, readAttribute out ⟨kAttrMessageIntegrity, mac⟩
          = if mac.length = 20 then { out with messageIntegrity := some mac } else out := fun _ => rfl
      rw [hstep, if_pos hlen]
      cases o <;> rfl
  have hlen := hframed.length
  have hlength := hframed.areaLength
  have hcookie : loadBE32 (bytes.drop 4) = kMagicCookie := hframed.cookie
  unfold decodeMessage
  simp only
  rw [if_neg (by omega), if_neg (UInt8.not_lt.2 hfirst), if_neg (not_not_intro hcookie), if_neg (by omega), hattributes,
    Option.map_some, hframed.transactionId, hframed.messageType, hread]

theorem Outgoing.isIntegrity_fields (txnId : Bytes) (o : Outgoing) : ∀ a ∈ o.fields txnId, isIntegrity a = false := by
  have hcredentials : ∀ (username realm nonce : Bytes), ∀ a ∈ credentialAttributes username realm nonce,
      a.type ≠ kStunAttrMessageIntegrity := by
    intro username realm nonce a ha
    simp only [credentialAttributes, List.mem_append, List.mem_ite_nil_right, List.mem_singleton] at ha
    rcases ha with (⟨-, rfl⟩ | ⟨-, rfl⟩) | ⟨-, rfl⟩ <;> dsimp only <;> decide
  have hpeers : ∀ (peers : List TurnAddress), ∀ a ∈ peerAttributes txnId peers, a.type ≠ kStunAttrMessageIntegrity := by
    intro peers a ha
    simp only [peerAttributes, List.mem_flatMap, Option.mem_toList, Option.map_eq_some_iff] at ha
    obtain ⟨peer, -, v, -, rfl⟩ := ha
    dsimp only
    decide
  have htype : ∀ a ∈ o.fields txnId, a.type ≠ kStunAttrMessageIntegrity := by
    intro a ha
    cases o with
    | allocate lifetimeSeconds username realm nonce key =>
      rw [fields, List.mem_append] at ha
      rcases ha with ha | ha
      · simp only [List.mem_cons, List.not_mem_nil, or_false] at ha
        rcases ha with rfl | rfl | rfl <;> dsimp only <;> decide
      · exact hcredentials _ _ _ a ha
    | createPermission peers username realm nonce key =>
      rw [fields, List.mem_append] at ha
      exact ha.elim (hpeers peers a) (hcredentials _ _ _ a)
    | sendIndication peer data =>
      rw [fields, List.mem_append, List.mem_singleton] at ha
      rcases ha with ha | rfl
      · exact hpeers [peer] a ha
      · dsimp only
        decide
    | refresh lifetimeSeconds username realm nonce key =>
      rw [fields, List.mem_append, List.mem_singleton] at ha
      rcases ha with rfl | ha
      · dsimp only
        decide
      · exact hcredentials _ _ _ a ha
  intro a ha
  simp [isIntegrity, htype a ha]

/-- **A signed message verifies under the key it is signed with.** -/
theorem Outgoing.verify_encode (hmac : ∀ key data, (hmacSha1 key data).length = 20) (hid : txnId.length = 12)
    (h : o.Fits hmacSha1 txnId) (hkey : o.key ≠ []) :
    verifyMessageIntegrity hmacSha1 (o.encode hmacSha1 txnId) o.key = true := by
  have harea := areaLength_of_fits hid h
  rw [o.encode_eq hid]
  rw [attributes, integrityAttributes, if_pos hkey] at harea ⊢
  exact verifyMessageIntegrity_frame hid harea (o.isIntegrity_fields txnId) rfl (hmac _ _)

/-! ### The round trip -/

/-- **The message comes back**: it is decoded into all that it says, with exactly the well-formed peers in order, and
with a non-empty key its tag is there and verifies. -/
structure Outgoing.RoundTrips (hmacSha1 : Bytes → Bytes → Bytes) (txnId : Bytes) (o : Outgoing) : Prop where
  decoded : ∃ tag, (tag.isSome ↔ o.key ≠ []) ∧ decodeMessage (o.encode hmacSha1 txnId)
    = some (o.said txnId (o.encode hmacSha1 txnId) tag (o.peers.filter fun peer => peer.WellFormed))
  verified : o.key ≠ [] → verifyMessageIntegrity hmacSha1 (o.encode hmacSha1 txnId) o.key = true

theorem TurnAddress.wellFormed_iff (addr : TurnAddress) :
    (addr.WellFormed → addr.IsIPv4) ↔ ¬ (addr.family = kFamilyIPv6 ∧ addr.address.length = 16) := by
  have hne : kFamilyIPv6 ≠ kFamilyIPv4 := by decide
  unfold WellFormed IsIPv4
  constructor
  · rintro h ⟨hfamily, hlen⟩
    exact hne (hfamily.symm.trans (h (.inr ⟨hfamily, hlen⟩)).1)
  · intro h hwell
    exact hwell.resolve_right h

theorem filter_wellFormed_eq_iff (peers : List TurnAddress) :
    (peers.filter fun peer => peer.WellFormed) = (peers.filter fun peer => peer.IsIPv4) ↔
      ∀ peer ∈ peers, ¬ (peer.family = kFamilyIPv6 ∧ peer.address.length = 16) := by
  have hmono : ∀ peer : TurnAddress, peer.IsIPv4 → peer.WellFormed := fun _ h => .inl h
  constructor
  · intro h peer hpeer
    rw [← peer.wellFormed_iff]
    intro hwell
    have hmem : peer ∈ peers.filter fun peer => peer.WellFormed := List.mem_filter.2 ⟨hpeer, decide_eq_true hwell⟩
    rw [h] at hmem
    exact of_decide_eq_true (List.mem_filter.1 hmem).2
  · intro h
    apply List.filter_congr
    intro peer hpeer
    rw [decide_eq_decide]
    exact ⟨(peer.wellFormed_iff).2 (h peer hpeer), hmono peer⟩

/-- Of two readings, the peers are the same where the encoder takes peers. -/
theorem Outgoing.said_inj {raw : Bytes} {tag tag' : Option Bytes} {ps qs : List TurnAddress} (hnone : o.peers = [] → ps = qs)
    (h : o.said txnId raw tag ps = o.said txnId raw tag' qs) : ps = qs := by
  cases o with
  | allocate | refresh => exact hnone rfl
  | createPermission | sendIndication => exact congrArg TurnMessage.xorPeers h

/-- **A message that fits its length field comes back exactly when it names no IPv6 peer**, for all four encoders, every
transaction id, every lifetime, every credentials and every peers. -/
theorem Outgoing.roundTrips_iff (hmacSha1 : Bytes → Bytes → Vector UInt8 20) (txnId : Vector UInt8 12) (o : Outgoing)
    (h : o.Fits (fun key data => (hmacSha1 key data).toList) txnId.toList) :
    o.RoundTrips (fun key data => (hmacSha1 key data).toList) txnId.toList ↔
      ∀ peer ∈ o.peers, ¬ (peer.family = kFamilyIPv6 ∧ peer.address.length = 16) := by
  have hmac : ∀ key data, (hmacSha1 key data).toList.length = 20 := fun key data => Vector.length_toList ..
  have hid : txnId.toList.length = 12 := Vector.length_toList ..
  have hdecode := decodeMessage_encode hmac hid h
  rw [← filter_wellFormed_eq_iff]
  constructor
  · rintro ⟨⟨tag, -, hdecoded⟩, -⟩
    rw [hdecode, Option.some.injEq] at hdecoded
    refine (said_inj ?_ hdecoded).symm
    intro hnone
    rw [hnone]
    rfl
  · intro hpeers
    refine ⟨⟨o.tag (fun key data => (hmacSha1 key data).toList) txnId.toList, ?_, ?_⟩, verify_encode hmac hid h⟩
    · unfold tag
      by_cases hkey : o.key = [] <;> simp [hkey]
    · rw [hdecode, hpeers]

/-- A tag that does not depend on what it is made of. -/
def sampleTag (_key _data : Bytes) : Vector UInt8 20 := Vector.replicate 20 7

def sampleTxnId : Vector UInt8 12 := Vector.replicate 12 1

/-- A permission for one peer. -/
def samplePermission (peer : TurnAddress) : Outgoing :=
  .createPermission [peer] (ascii "user") (ascii "realm") (ascii "nonce") (ascii "key")

def sampleIPv4 : TurnAddress := { family := kFamilyIPv4, port := 3478, address := [192, 168, 1, 20] }

/-- 2001:db8::1 -/
def sampleIPv6 : TurnAddress :=
  { family := kFamilyIPv6, port := 3478, address := [0x20, 0x01, 0x0D, 0xB8, 0, 0, 0, 0, 0, 0, 0, 0, 0, 0, 0, 1] }

theorem roundTrips_ipv4 :
    (samplePermission sampleIPv4).RoundTrips (fun key data => (sampleTag key data).toList) sampleTxnId.toList ↔
      ∀ peer ∈ (samplePermission sampleIPv4).peers,
        ¬ (peer.family = kFamilyIPv6 ∧ peer.address.length = 16) :=
  Outgoing.roundTrips_iff sampleTag sampleTxnId (samplePermission sampleIPv4) (by decide +kernel)

/-- **The permission for an IPv6 peer names no peer.** -/
theorem ipv6_peer_dropped :
    sampleIPv6.WellFormed ∧
      (samplePermission sampleIPv6).Fits (fun key data => (sampleTag key data).toList) sampleTxnId.toList ∧
      (decodeMessage ((samplePermission sampleIPv6).encode (fun key data => (sampleTag key data).toList)
        sampleTxnId.toList)).map (fun msg => msg.xorPeers) = some [] ∧
      ¬ (samplePermission sampleIPv6).RoundTrips (fun key data => (sampleTag key data).toList) sampleTxnId.toList := by
  have hdropped : (decodeMessage ((samplePermission sampleIPv6).encode (fun key data => (sampleTag key data).toList)
      sampleTxnId.toList)).map (fun msg => msg.xorPeers) = some [] := by decide +kernel
  refine ⟨by decide, by decide +kernel, hdropped, ?_⟩
  rintro ⟨⟨tag, -, hdecoded⟩, -⟩
  rw [hdecoded, Option.map_some, Option.some.injEq] at hdropped
  have hnone : [sampleIPv6] = [] := hdropped
  cases hnone

end VianiumVoip.Turn
