import VianiumVoip.Lib.Tlv

/-!
# STUN messages

`infrastructure/ice`: the message of a connectivity check, `StunMessageCodec` with its encoder, its decoder and
`VerifyMessageIntegrity`, and the CRC of the FINGERPRINT attribute.

The decoder reads every attribute of a datagram.  `VerifyMessageIntegrity` walks over the same attributes, but stops
at the first MESSAGE-INTEGRITY and authenticates what stands before it.  The two are compared in
`decode_eq_of_findIntegrity`: a decoded message is the reading of the authenticated attributes, which the attributes
behind MESSAGE-INTEGRITY are then read into.
-/

namespace VianiumVoip.Ice

open VianiumVoip.Lib

def kStunBindingRequest : UInt16 := 0x0001
def kStunBindingResponse : UInt16 := 0x0101

def kStunMagicCookie : UInt32 := 0x2112A442
def kStunFingerprintMask : UInt32 := 0x5354554E

def kStunAttrUsername : UInt16 := 0x0006
def kStunAttrMessageIntegrity : UInt16 := 0x0008
def kStunAttrXorMappedAddress : UInt16 := 0x0020
def kStunAttrPriority : UInt16 := 0x0024
def kStunAttrUseCandidate : UInt16 := 0x0025
def kStunAttrFingerprint : UInt16 := 0x8028
def kStunAttrIceControlled : UInt16 := 0x8029
def kStunAttrIceControlling : UInt16 := 0x802A

namespace Crc32

/-- One bit of the reflected polynomial. -/
def shiftBit (c : UInt32) : UInt32 := if c &&& 1 ≠ 0 then 0xEDB88320 ^^^ (c >>> (1 : UInt32)) else c >>> (1 : UInt32)

def table : Array UInt32 := Array.ofFn fun i : Fin 256 => shiftBit^[8] (UInt32.ofNat i)

/-- `Crc32::Compute` -/
def compute (data : Bytes) : UInt32 :=
  data.foldl (fun c b => table.getD ((c ^^^ b.toUInt32) &&& 0xFF).toNat 0 ^^^ (c >>> (8 : UInt32))) 0xFFFFFFFF
    ^^^ 0xFFFFFFFF

end Crc32

/-- A field and its `Has…` flag are one option, but for the mapped address, whose bytes outlive the flag. -/
structure StunMessage where
  messageType : UInt16 := 0
  transactionId : Bytes := List.replicate 12 0
  username : Bytes := []
  priority : Option UInt32 := none
  iceControlling : Option UInt64 := none
  iceControlled : Option UInt64 := none
  useCandidate : Bool := false
  hasMappedAddress : Bool := false
  mappedFamily : UInt8 := 0
  mappedAddress : Bytes := List.replicate 16 0
  mappedPort : UInt16 := 0
  messageIntegrity : Bytes := []
  fingerprint : Option UInt32 := none
  deriving DecidableEq

namespace StunMessageCodec

/-! ### Encoding -/

/-- `AppendAttr` -/
def appendAttr (buf : Bytes) (type : UInt16) (value : Bytes) : Bytes :=
  let buf := buf ++ storeBE16 type ++ storeBE16 (UInt16.ofNat value.length) ++ value
  buf ++ List.replicate ((4 - buf.length % 4) % 4) 0

/-- `WriteU16(buf, 2, …)`, the length field of the header. -/
def writeLength (buf : Bytes) (length : ℕ) : Bytes := buf.take 2 ++ storeBE16 (UInt16.ofNat length) ++ buf.drop 4

variable (hmacSha1 : Bytes → Bytes → Bytes)

/-- The value of XOR-MAPPED-ADDRESS for an IPv4 address. -/
def xorMappedAddress (msg : StunMessage) : Bytes :=
  [0, 0x01] ++ storeBE16 (msg.mappedPort ^^^ (kStunMagicCookie >>> (16 : UInt32)).toUInt16)
    ++ storeBE32 (loadBE32 msg.mappedAddress ^^^ kStunMagicCookie)

/-- `Encode` -/
def encode (msg : StunMessage) (password : Bytes) : Bytes :=
  let buf := storeBE16 msg.messageType ++ storeBE16 0 ++ storeBE32 kStunMagicCookie ++ msg.transactionId
  let buf := if msg.username ≠ [] then appendAttr buf kStunAttrUsername msg.username else buf
  let buf := match msg.priority with
    | some priority => appendAttr buf kStunAttrPriority (storeBE32 priority)
    | none => buf
  let buf := match msg.iceControlling with
    | some tieBreak => appendAttr buf kStunAttrIceControlling (storeBE64 tieBreak)
    | none => buf
  let buf := match msg.iceControlled with
    | some tieBreak => appendAttr buf kStunAttrIceControlled (storeBE64 tieBreak)
    | none => buf
  let buf := if msg.useCandidate then appendAttr buf kStunAttrUseCandidate [] else buf
  let buf :=
    if msg.hasMappedAddress ∧ msg.mappedFamily = 0x01 then
      appendAttr buf kStunAttrXorMappedAddress (xorMappedAddress msg)
    else buf
  let buf :=
    if password ≠ [] then
      let buf := writeLength buf (buf.length - 20 + 24)
      appendAttr buf kStunAttrMessageIntegrity (hmacSha1 password buf)
    else buf
  let buf := writeLength buf (buf.length - 20 + 8)
  appendAttr buf kStunAttrFingerprint (storeBE32 (Crc32.compute buf ^^^ kStunFingerprintMask))

/-! ### Decoding -/

/-- The attribute section that the header declares. -/
def attributeArea (bytes : Bytes) : Bytes := (bytes.drop 20).take (loadBE16 (bytes.drop 2)).toNat

/-- The switch over the attribute type. -/
def readAttribute (out : StunMessage) (a : Tlv.Attribute) : StunMessage :=
  if a.type = kStunAttrUsername then { out with username := a.value }
  else if a.type = kStunAttrMessageIntegrity then
    if a.value.length = 20 then { out with messageIntegrity := a.value } else out
  else if a.type = kStunAttrFingerprint then
    if a.value.length = 4 then { out with fingerprint := some (loadBE32 a.value) } else out
  else if a.type = kStunAttrPriority then
    if a.value.length = 4 then { out with priority := some (loadBE32 a.value) } else out
  else if a.type = kStunAttrIceControlling then
    if a.value.length = 8 then { out with iceControlling := some (loadBE64 a.value) } else out
  else if a.type = kStunAttrIceControlled then
    if a.value.length = 8 then { out with iceControlled := some (loadBE64 a.value) } else out
  else if a.type = kStunAttrUseCandidate then { out with useCandidate := true }
  else if a.type = kStunAttrXorMappedAddress then
    if 8 ≤ a.value.length then
      { out with
        hasMappedAddress := true
        mappedFamily := a.value.getD 1 0
        mappedPort := loadBE16 (a.value.drop 2) ^^^ (kStunMagicCookie >>> (16 : UInt32)).toUInt16
        mappedAddress :=
          if a.value.getD 1 0 = 0x01 then
            storeBE32 (loadBE32 (a.value.drop 4) ^^^ kStunMagicCookie) ++ out.mappedAddress.drop 4
          else out.mappedAddress }
    else out
  else out

/-- `Decode`; `none` where it returns false. -/
def decode (bytes : Bytes) : Option StunMessage :=
  if bytes.length < 20 then none
  else if loadBE32 (bytes.drop 4) ≠ kStunMagicCookie then none
  else if bytes.length < 20 + (loadBE16 (bytes.drop 2)).toNat then none
  else
    let out : StunMessage := { messageType := loadBE16 bytes, transactionId := (bytes.drop 8).take 12 }
    (Tlv.attributes (attributeArea bytes)).map fun attributes => attributes.foldl readAttribute out

/-! ### Message integrity -/

def isIntegrity (a : Tlv.Attribute) : Bool := a.type = kStunAttrMessageIntegrity ∧ a.value.length = 20

/-- The MESSAGE-INTEGRITY that is verified, with its offset in the attribute section. -/
def findIntegrity (bytes : Bytes) : Option (ℕ × Tlv.Attribute) := Tlv.find isIntegrity (attributeArea bytes)

/-- `VerifyMessageIntegrity` -/
def verifyMessageIntegrity (bytes password : Bytes) : Bool :=
  if bytes.length < 20 then false
  else if bytes.length < 20 + (loadBE16 (bytes.drop 2)).toNat then false
  else
    match findIntegrity bytes with
    | none => false
    | some (offset, mi) =>
      let miOffset := 20 + offset
      hmacSha1 password (writeLength (bytes.take miOffset) (miOffset - 20 + 24)) = mi.value

/-! ### What the attributes say -/

def isUseCandidate (a : Tlv.Attribute) : Bool := a.type = kStunAttrUseCandidate

theorem field_ite {α : Type*} (field : StunMessage → α) {c : Prop} [Decidable c] {m₁ m₂ : StunMessage} {v : α}
    (h₁ : c → field m₁ = v) (h₂ : ¬ c → field m₂ = v) : field (if c then m₁ else m₂) = v := by
  by_cases hc : c
  · rw [if_pos hc, h₁ hc]
  · rw [if_neg hc, h₂ hc]

theorem readAttribute_messageType (out : StunMessage) (a : Tlv.Attribute) :
    (readAttribute out a).messageType = out.messageType := by
  unfold readAttribute
  repeat' apply field_ite StunMessage.messageType <;> intro _
  all_goals rfl

theorem readAttribute_transactionId (out : StunMessage) (a : Tlv.Attribute) :
    (readAttribute out a).transactionId = out.transactionId := by
  unfold readAttribute
  repeat' apply field_ite StunMessage.transactionId <;> intro _
  all_goals rfl

theorem readAttribute_useCandidate (out : StunMessage) (a : Tlv.Attribute) :
    (readAttribute out a).useCandidate = (out.useCandidate || isUseCandidate a) := by
  by_cases h : a.type = kStunAttrUseCandidate
  · have hother : readAttribute out a = { out with useCandidate := true } := by
      unfold readAttribute
      rw [h]
      rfl
    simp [hother, isUseCandidate, h]
  · have hcandidate : isUseCandidate a = false := decide_eq_false h
    rw [hcandidate, Bool.or_false]
    unfold readAttribute
    repeat' apply field_ite StunMessage.useCandidate <;> intro _
    all_goals first | rfl | contradiction

theorem foldl_readAttribute_messageType (attributes : List Tlv.Attribute) (out : StunMessage) :
    (attributes.foldl readAttribute out).messageType = out.messageType := by
  induction attributes generalizing out with
  | nil => rfl
  | cons a attributes ih => rw [List.foldl_cons, ih, readAttribute_messageType]

theorem foldl_readAttribute_transactionId (attributes : List Tlv.Attribute) (out : StunMessage) :
    (attributes.foldl readAttribute out).transactionId = out.transactionId := by
  induction attributes generalizing out with
  | nil => rfl
  | cons a attributes ih => rw [List.foldl_cons, ih, readAttribute_transactionId]

theorem foldl_readAttribute_useCandidate (attributes : List Tlv.Attribute) (out : StunMessage) :
    (attributes.foldl readAttribute out).useCandidate = (out.useCandidate || attributes.any isUseCandidate) := by
  induction attributes generalizing out with
  | nil => simp
  | cons a attributes ih =>
    rw [List.foldl_cons, ih, readAttribute_useCandidate, List.any_cons, Bool.or_assoc]

/-- What is decoded carries the cookie, and keeps the type of the header. -/
theorem of_decode {bytes : Bytes} {msg : StunMessage} (h : decode bytes = some msg) :
    loadBE32 (bytes.drop 4) = kStunMagicCookie ∧ msg.messageType = loadBE16 bytes := by
  unfold decode at h
  split_ifs at h with hsize hcookie harea
  obtain ⟨attributes, -, rfl⟩ := Option.map_eq_some_iff.1 h
  exact ⟨not_not.1 hcookie, foldl_readAttribute_messageType _ _⟩

theorem length_transactionId_of_decode {bytes : Bytes} {msg : StunMessage} (h : decode bytes = some msg) :
    msg.transactionId.length = 12 := by
  unfold decode at h
  split_ifs at h with hsize hcookie harea
  obtain ⟨attributes, -, rfl⟩ := Option.map_eq_some_iff.1 h
  rw [foldl_readAttribute_transactionId, List.length_take, List.length_drop]
  omega

/-! ### What is authenticated -/

/-- Where MESSAGE-INTEGRITY ends in the datagram. -/
def integrityEnd (bytes : Bytes) : ℕ :=
  match findIntegrity bytes with
  | some (offset, _) => 20 + offset + 24
  | none => 20

/-- The attributes up to and including MESSAGE-INTEGRITY. -/
def protectedArea (bytes : Bytes) : Bytes := (attributeArea bytes).take (integrityEnd bytes - 20)

/-- The attributes behind MESSAGE-INTEGRITY. -/
def unprotectedArea (bytes : Bytes) : Bytes := (attributeArea bytes).drop (integrityEnd bytes - 20)

/-- Two datagrams with the same type, cookie, transaction id and attributes up to and including MESSAGE-INTEGRITY:
they may differ in the length field and behind MESSAGE-INTEGRITY. -/
def SameProtected (a b : Bytes) : Prop :=
  a.take 2 = b.take 2 ∧ (a.take (integrityEnd a)).drop 4 = (b.take (integrityEnd a)).drop 4

instance (a b : Bytes) : Decidable (SameProtected a b) := inferInstanceAs (Decidable (_ ∧ _))

variable {hmacSha1} {a b bytes password : Bytes} {offset : ℕ} {mi : Tlv.Attribute}

theorem dvd_of_isIntegrity (mi : Tlv.Attribute) (h : isIntegrity mi = true) : 4 ∣ mi.value.length := by
  have hlen : mi.value.length = 20 := (of_decide_eq_true h).2
  omega

theorem integrityEnd_of_findIntegrity (h : findIntegrity bytes = some (offset, mi)) : integrityEnd bytes = offset + 44 := by
  simp only [integrityEnd, h]
  omega

/-- What verifies has its attribute section in the datagram, and a MESSAGE-INTEGRITY inside it. -/
theorem of_verifyMessageIntegrity (h : verifyMessageIntegrity hmacSha1 bytes password = true) :
    20 + (loadBE16 (bytes.drop 2)).toNat ≤ bytes.length ∧
      ∃ offset mi, findIntegrity bytes = some (offset, mi) ∧ integrityEnd bytes = offset + 44 ∧
        offset + 24 ≤ (attributeArea bytes).length := by
  unfold verifyMessageIntegrity at h
  by_cases hsize : bytes.length < 20
  · rw [if_pos hsize] at h
    cases h
  rw [if_neg hsize] at h
  by_cases harea : bytes.length < 20 + (loadBE16 (bytes.drop 2)).toNat
  · rw [if_pos harea] at h
    cases h
  rw [if_neg harea] at h
  refine ⟨by omega, ?_⟩
  cases hfind : findIntegrity bytes with
  | none =>
    rw [hfind] at h
    cases h
  | some r =>
    obtain ⟨offset, mi⟩ := r
    obtain ⟨hmi, hle, -⟩ := Tlv.find_of_front hfind
    have hlen : mi.value.length = 20 := (of_decide_eq_true hmi).2
    exact ⟨offset, mi, rfl, integrityEnd_of_findIntegrity hfind, by omega⟩

/-- **A decoded message is the reading of the authenticated attributes, followed by those behind them.** -/
theorem decode_eq_of_findIntegrity (hsize : 20 + (loadBE16 (bytes.drop 2)).toNat ≤ bytes.length)
    (hcookie : loadBE32 (bytes.drop 4) = kStunMagicCookie) (h : findIntegrity bytes = some (offset, mi)) :
    ∃ front, Tlv.attributes (protectedArea bytes) = some front ∧
      decode bytes = (Tlv.attributes (unprotectedArea bytes)).map fun after =>
        (front ++ after).foldl readAttribute
          { messageType := loadBE16 bytes, transactionId := (bytes.drop 8).take 12 } := by
  obtain ⟨hmi, -, -⟩ := Tlv.find_of_front h
  have hlen : mi.value.length = 20 := (of_decide_eq_true hmi).2
  have hend : integrityEnd bytes - 20 = offset + 4 + mi.value.length := by
    rw [integrityEnd_of_findIntegrity h]
    omega
  obtain ⟨front, hfront, hall⟩ := Tlv.attributes_split h dvd_of_isIntegrity
  refine ⟨front, by rw [protectedArea, hend, hfront], ?_⟩
  unfold decode
  rw [if_neg (by omega), if_neg (not_not_intro hcookie), if_neg (by omega), hall, unprotectedArea, hend]
  simp only [Option.map_map]
  rfl

/-- Datagrams that agree up to MESSAGE-INTEGRITY have the same MESSAGE-INTEGRITY, and the same attributes before it. -/
theorem sameProtected_area (ha : verifyMessageIntegrity hmacSha1 a password = true)
    (hb : verifyMessageIntegrity hmacSha1 b password = true) (h : SameProtected a b) :
    findIntegrity b = findIntegrity a ∧ protectedArea b = protectedArea a := by
  obtain ⟨hsizeA, offset, mi, hfindA, hendA, hleA⟩ := of_verifyMessageIntegrity ha
  obtain ⟨hsizeB, offsetB, miB, hfindB, hendB, hleB⟩ := of_verifyMessageIntegrity hb
  obtain ⟨hmi, -, hfrontA⟩ := Tlv.find_of_front hfindA
  have hlen : mi.value.length = 20 := (of_decide_eq_true hmi).2
  set n := offset + 4 + mi.value.length with hn
  have hfront : (a.drop 20).take n = (b.drop 20).take n := by
    have := congrArg (List.drop 16) h.2
    rw [hendA, List.drop_drop, List.drop_drop, List.drop_take, List.drop_take] at this
    rwa [show offset + 44 - (4 + 16) = n by omega] at this
  have hareaA : (attributeArea a).take n = (a.drop 20).take n := by
    have := List.length_take_le (loadBE16 (a.drop 2)).toNat (a.drop 20)
    have hlong : n ≤ (loadBE16 (a.drop 2)).toNat := by
      rw [attributeArea] at hleA
      omega
    rw [attributeArea, List.take_take, Nat.min_eq_left hlong]
  have hfind : findIntegrity b = findIntegrity a := by
    by_cases hlong : n ≤ (loadBE16 (b.drop 2)).toNat
    · -- the section of `b` starts with the front of that of `a`
      have hareaB : attributeArea b = (attributeArea a).take n ++ (attributeArea b).drop n := by
        rw [hareaA, hfront, ← Nat.min_eq_left hlong, ← List.take_take, Nat.min_eq_left hlong]
        exact (List.take_append_drop n _).symm
      rw [findIntegrity, hareaB, hfrontA, hfindA]
    · -- it is shorter, and what is found in it is found in that of `a`
      have hareaB : attributeArea b = (attributeArea a).take (loadBE16 (b.drop 2)).toNat := by
        have hmin : min (loadBE16 (b.drop 2)).toNat n = (loadBE16 (b.drop 2)).toNat := Nat.min_eq_left (by omega)
        rw [attributeArea, ← hmin, ← List.take_take, ← List.take_take, hareaA, hfront]
      have hfound : Tlv.find isIntegrity (attributeArea b) = some (offsetB, miB) := hfindB
      rw [hareaB] at hfound
      have hlonger := Tlv.find_append hfound ((attributeArea a).drop (loadBE16 (b.drop 2)).toNat)
      rw [List.take_append_drop] at hlonger
      rw [hfindB, findIntegrity, hlonger]
  refine ⟨hfind, ?_⟩
  rw [hfindA] at hfind
  have hendB' := integrityEnd_of_findIntegrity hfind
  have hlong : n ≤ (loadBE16 (b.drop 2)).toNat := by
    have := List.length_take_le (loadBE16 (b.drop 2)).toNat (b.drop 20)
    rw [attributeArea] at hleB
    omega
  have hareaB : (attributeArea b).take n = (b.drop 20).take n := by
    rw [attributeArea, List.take_take, Nat.min_eq_left hlong]
  rw [protectedArea, protectedArea, hendA, hendB', show offset + 44 - 20 = n by omega, hareaA, hareaB, hfront]

/-- What is verified is authenticated: such datagrams verify alike under any password. -/
theorem sameProtected_verify (ha : verifyMessageIntegrity hmacSha1 a password = true)
    (hb : verifyMessageIntegrity hmacSha1 b password = true) (h : SameProtected a b) (password' : Bytes) :
    verifyMessageIntegrity hmacSha1 b password' = verifyMessageIntegrity hmacSha1 a password' := by
  obtain ⟨hfind, -⟩ := sameProtected_area ha hb h
  obtain ⟨hsizeA, offset, mi, hfindA, hendA, -⟩ := of_verifyMessageIntegrity ha
  obtain ⟨hsizeB, -⟩ := of_verifyMessageIntegrity hb
  have hwrite : ∀ n, writeLength (b.take (20 + offset)) n = writeLength (a.take (20 + offset)) n := by
    intro n
    have hbody := congrArg (List.take (16 + offset)) h.2
    rw [hendA, List.drop_take, List.drop_take, List.take_take, List.take_take, Nat.min_eq_left (by omega)] at hbody
    rw [writeLength, writeLength, List.take_take, List.take_take, Nat.min_eq_left (by omega), List.drop_take,
      List.drop_take, show 20 + offset - 4 = 16 + offset by omega, hbody, h.1]
  unfold verifyMessageIntegrity
  rw [if_neg (by omega), if_neg (by omega), if_neg (by omega), if_neg (by omega), hfind, hfindA]
  simp only [hwrite]

theorem sameProtected_header (ha : verifyMessageIntegrity hmacSha1 a password = true) (h : SameProtected a b) :
    loadBE16 b = loadBE16 a ∧ loadBE32 (b.drop 4) = loadBE32 (a.drop 4) ∧ (b.drop 8).take 12 = (a.drop 8).take 12 := by
  obtain ⟨-, offset, mi, -, hendA, -⟩ := of_verifyMessageIntegrity ha
  have hbody := h.2
  rw [hendA, List.drop_take, List.drop_take] at hbody
  refine ⟨by rw [loadBE16, loadBE16, h.1], ?_, ?_⟩
  · have := congrArg (List.take 4) hbody
    rw [List.take_take, List.take_take, Nat.min_eq_left (by omega)] at this
    rw [loadBE32, loadBE32, this]
  · have := congrArg (fun l => (l.drop 4).take 12) hbody
    simp only [List.drop_take, List.take_take, List.drop_drop] at this
    rw [Nat.min_eq_left (by omega)] at this
    exact this.symm

end StunMessageCodec

end VianiumVoip.Ice
