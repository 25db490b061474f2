import VianiumVoip.Ice.StunMessage

/-!
# What the encoder writes

`Encode` appends one attribute after the other and patches the length field of the header twice, before
MESSAGE-INTEGRITY and before FINGERPRINT.  `encode_eq` says what comes out: the header, with the length of what
follows, and the list `encodedAttributes`.  A message that fits its length field is decoded into the reading of this
list (`decode_encode`).
-/

namespace VianiumVoip.Ice.StunMessageCodec

open VianiumVoip.Lib

variable (hmacSha1 : Bytes → Bytes → Bytes)

/-- The header and a list of attributes. -/
def frame (msg : StunMessage) (length : ℕ) (attributes : List Tlv.Attribute) : Bytes :=
  storeBE16 msg.messageType ++ storeBE16 (UInt16.ofNat length) ++ storeBE32 kStunMagicCookie ++ msg.transactionId
    ++ attributes.flatMap Tlv.Attribute.encode

/-- The attributes of the fields that are set. -/
def fieldAttributes (msg : StunMessage) : List Tlv.Attribute :=
  (if msg.username ≠ [] then [⟨kStunAttrUsername, msg.username⟩] else [])
    ++ (msg.priority.map fun priority => ⟨kStunAttrPriority, storeBE32 priority⟩).toList
    ++ (msg.iceControlling.map fun tieBreak => ⟨kStunAttrIceControlling, storeBE64 tieBreak⟩).toList
    ++ (msg.iceControlled.map fun tieBreak => ⟨kStunAttrIceControlled, storeBE64 tieBreak⟩).toList
    ++ (if msg.useCandidate then [⟨kStunAttrUseCandidate, []⟩] else [])
    ++ (if msg.hasMappedAddress ∧ msg.mappedFamily = 0x01 then [⟨kStunAttrXorMappedAddress, xorMappedAddress msg⟩]
        else [])

/-- The length of a list of attributes in the datagram. -/
def areaLength (attributes : List Tlv.Attribute) : ℕ := (attributes.flatMap Tlv.Attribute.encode).length

/-- With MESSAGE-INTEGRITY, over a header whose length counts it. -/
def signedAttributes (msg : StunMessage) (password : Bytes) : List Tlv.Attribute :=
  fieldAttributes msg ++
    if password ≠ [] then
      [⟨kStunAttrMessageIntegrity,
        hmacSha1 password (frame msg (areaLength (fieldAttributes msg) + 24) (fieldAttributes msg))⟩]
    else []

/-- With FINGERPRINT, over a header whose length counts it. -/
def encodedAttributes (msg : StunMessage) (password : Bytes) : List Tlv.Attribute :=
  let signed := signedAttributes hmacSha1 msg password
  signed ++ [⟨kStunAttrFingerprint,
    storeBE32 (Crc32.compute (frame msg (areaLength signed + 8) signed) ^^^ kStunFingerprintMask)⟩]

variable {hmacSha1} {msg : StunMessage} {password : Bytes} {n : ℕ} {as : List Tlv.Attribute}

/-! ### The encoder -/

theorem length_frame (hid : msg.transactionId.length = 12) (n : ℕ) (as : List Tlv.Attribute) :
    (frame msg n as).length = 20 + areaLength as := by
  simp only [frame, List.length_append, length_storeBE16, length_storeBE32, hid, areaLength]

theorem appendAttr_frame (hid : msg.transactionId.length = 12) (n : ℕ) (as : List Tlv.Attribute) (type : UInt16)
    (value : Bytes) : appendAttr (frame msg n as) type value = frame msg n (as ++ [⟨type, value⟩]) := by
  have hlen := length_frame hid n as
  have hdvd : 4 ∣ areaLength as := Tlv.dvd_length_flatMap_encode as
  have hpad : (4 - (frame msg n as ++ storeBE16 type ++ storeBE16 (UInt16.ofNat value.length) ++ value).length % 4) % 4
      = Tlv.advance value.length - (4 + value.length) := by
    simp only [List.length_append, length_storeBE16, hlen, Tlv.advance]
    omega
  rw [appendAttr, hpad]
  simp only [frame, List.flatMap_append, List.flatMap_singleton, Tlv.Attribute.encode, List.append_assoc]

theorem appendAttr_ite (hid : msg.transactionId.length = 12) (n : ℕ) (as : List Tlv.Attribute) (type : UInt16)
    (value : Bytes) (c : Prop) [Decidable c] :
    (if c then appendAttr (frame msg n as) type value else frame msg n as)
      = frame msg n (as ++ if c then [⟨type, value⟩] else []) := by
  by_cases hc : c
  · rw [if_pos hc, if_pos hc, appendAttr_frame hid]
  · rw [if_neg hc, if_neg hc, List.append_nil]

theorem appendAttr_elim (hid : msg.transactionId.length = 12) (n : ℕ) (as : List Tlv.Attribute) (type : UInt16)
    {α : Type} (field : Option α) (store : α → Bytes) :
    field.elim (frame msg n as) (fun value => appendAttr (frame msg n as) type (store value))
      = frame msg n (as ++ (field.map fun value => ⟨type, store value⟩).toList) := by
  cases field with
  | some value => exact appendAttr_frame hid n as type (store value)
  | none => simp

theorem writeLength_frame (n m : ℕ) (as : List Tlv.Attribute) : writeLength (frame msg n as) m = frame msg m as := by
  have hform : ∀ k, frame msg k as = storeBE16 msg.messageType ++ (storeBE16 (UInt16.ofNat k) ++ (storeBE32 kStunMagicCookie
      ++ (msg.transactionId ++ as.flatMap Tlv.Attribute.encode))) := by
    intro k
    simp only [frame, List.append_assoc]
  rw [writeLength, hform n, List.take_left' (length_storeBE16 _), drop_storeBE16 _ 2, drop_storeBE16 _ 0,
    List.drop_zero, hform m, List.append_assoc]

theorem encode_fields (hid : msg.transactionId.length = 12) : encode hmacSha1 msg password =
    let buf := frame msg 0 (fieldAttributes msg)
    let buf :=
      if password ≠ [] then
        let buf := writeLength buf (buf.length - 20 + 24)
        appendAttr buf kStunAttrMessageIntegrity (hmacSha1 password buf)
      else buf
    let buf := writeLength buf (buf.length - 20 + 8)
    appendAttr buf kStunAttrFingerprint (storeBE32 (Crc32.compute buf ^^^ kStunFingerprintMask)) := by
  have hstart : storeBE16 msg.messageType ++ storeBE16 0 ++ storeBE32 kStunMagicCookie ++ msg.transactionId
      = frame msg 0 [] := by
    simp [frame]
  have hfields :
      (let buf := frame msg 0 []
      let buf := if msg.username ≠ [] then appendAttr buf kStunAttrUsername msg.username else buf
      let buf := msg.priority.elim buf fun priority => appendAttr buf kStunAttrPriority (storeBE32 priority)
      let buf := msg.iceControlling.elim buf fun tieBreak =>
        appendAttr buf kStunAttrIceControlling (storeBE64 tieBreak)
      let buf := msg.iceControlled.elim buf fun tieBreak => appendAttr buf kStunAttrIceControlled (storeBE64 tieBreak)
      let buf := if msg.useCandidate then appendAttr buf kStunAttrUseCandidate [] else buf
      if msg.hasMappedAddress ∧ msg.mappedFamily = 0x01 then
        appendAttr buf kStunAttrXorMappedAddress (xorMappedAddress msg)
      else buf) = frame msg 0 (fieldAttributes msg) := by
    simp only [appendAttr_ite hid, appendAttr_elim hid, fieldAttributes, List.nil_append]
  rw [← hfields, ← hstart]
  unfold encode
  rcases msg with ⟨type, id, username, priority, controlling, controlled, useCandidate⟩
  cases priority <;> cases controlling <;> cases controlled <;> rfl

/-- **What is encoded** is the header with the length of the attributes, and the attributes. -/
theorem encode_eq (hid : msg.transactionId.length = 12) :
    encode hmacSha1 msg password
      = frame msg (areaLength (encodedAttributes hmacSha1 msg password)) (encodedAttributes hmacSha1 msg password) := by
  have hsize : ∀ n as, (frame msg n as).length - 20 = areaLength as := by
    intro n as
    rw [length_frame hid]
    omega
  have hsigned :
      (if password ≠ [] then
        appendAttr (frame msg (areaLength (fieldAttributes msg) + 24) (fieldAttributes msg)) kStunAttrMessageIntegrity
          (hmacSha1 password (frame msg (areaLength (fieldAttributes msg) + 24) (fieldAttributes msg)))
      else frame msg 0 (fieldAttributes msg))
        = frame msg (if password ≠ [] then areaLength (fieldAttributes msg) + 24 else 0)
            (signedAttributes hmacSha1 msg password) := by
    by_cases hp : password = []
    · simp [hp, signedAttributes]
    · simp [hp, signedAttributes, appendAttr_frame hid]
  have hall : areaLength (encodedAttributes hmacSha1 msg password)
      = areaLength (signedAttributes hmacSha1 msg password) + 8 := by
    simp [areaLength, encodedAttributes, Tlv.advance]
  rw [encode_fields hid, hall]
  simp only [writeLength_frame, hsize]
  rw [hsigned]
  simp only [writeLength_frame, hsize, appendAttr_frame hid, encodedAttributes]

/-! ### The length -/

theorem areaLength_append (as bs : List Tlv.Attribute) : areaLength (as ++ bs) = areaLength as + areaLength bs := by
  simp [areaLength]

theorem areaLength_singleton (a : Tlv.Attribute) : areaLength [a] = Tlv.advance a.value.length := by
  simp [areaLength]

theorem areaLength_ite_le (c : Prop) [Decidable c] (a : Tlv.Attribute) :
    areaLength (if c then [a] else []) ≤ Tlv.advance a.value.length := by
  by_cases hc : c <;> simp [hc, areaLength]

theorem areaLength_option_le {α : Type} (field : Option α) (f : α → Tlv.Attribute) {n : ℕ}
    (h : ∀ value, (f value).value.length = n) : areaLength (field.map f).toList ≤ Tlv.advance n := by
  cases field with
  | none => simp [areaLength]
  | some value => simp [areaLength, h]

theorem length_encode_le (hmac : ∀ key data, (hmacSha1 key data).length = 20) (hid : msg.transactionId.length = 12) :
    (encode hmacSha1 msg password).length ≤ msg.username.length + 107 := by
  have husername := areaLength_ite_le (msg.username ≠ []) ⟨kStunAttrUsername, msg.username⟩
  have hpriority := areaLength_option_le msg.priority (fun priority => ⟨kStunAttrPriority, storeBE32 priority⟩)
    fun _ => length_storeBE32 _
  have hcontrolling := areaLength_option_le msg.iceControlling
    (fun tieBreak => ⟨kStunAttrIceControlling, storeBE64 tieBreak⟩) fun _ => length_storeBE64 _
  have hcontrolled := areaLength_option_le msg.iceControlled
    (fun tieBreak => ⟨kStunAttrIceControlled, storeBE64 tieBreak⟩) fun _ => length_storeBE64 _
  have hcandidate := areaLength_ite_le (msg.useCandidate = true) ⟨kStunAttrUseCandidate, []⟩
  have hmapped := areaLength_ite_le (msg.hasMappedAddress = true ∧ msg.mappedFamily = 0x01)
    ⟨kStunAttrXorMappedAddress, xorMappedAddress msg⟩
  have hintegrity := areaLength_ite_le (password ≠ []) ⟨kStunAttrMessageIntegrity,
    hmacSha1 password (frame msg (areaLength (fieldAttributes msg) + 24) (fieldAttributes msg))⟩
  have haddress : (xorMappedAddress msg).length = 8 := by simp [xorMappedAddress]
  simp only [hmac, haddress, Tlv.advance, List.length_nil] at *
  rw [encode_eq hid, length_frame hid, encodedAttributes, areaLength_append, areaLength_singleton, signedAttributes,
    areaLength_append]
  simp only [fieldAttributes, areaLength_append, length_storeBE32, Tlv.advance] at hintegrity ⊢
  omega

/-! ### The decoder behind it -/

/-- What a frame is made of: the header, and behind it the attributes, which are read back. -/
structure Framed (bytes : Bytes) (msg : StunMessage) (as : List Tlv.Attribute) : Prop where
  length : bytes.length = 20 + areaLength as
  messageType : loadBE16 bytes = msg.messageType
  areaLength : (loadBE16 (bytes.drop 2)).toNat = areaLength as
  cookie : loadBE32 (bytes.drop 4) = kStunMagicCookie
  transactionId : (bytes.drop 8).take 12 = msg.transactionId
  area : attributeArea bytes = as.flatMap Tlv.Attribute.encode

theorem framed_frame (hid : msg.transactionId.length = 12) (hfit : areaLength as < 2 ^ 16) :
    Framed (frame msg (areaLength as) as) msg as := by
  have hform : frame msg (areaLength as) as = storeBE16 msg.messageType
      ++ (storeBE16 (UInt16.ofNat (areaLength as)) ++ (storeBE32 kStunMagicCookie
        ++ (msg.transactionId ++ as.flatMap Tlv.Attribute.encode))) := by
    simp only [frame, List.append_assoc]
  have harea : (loadBE16 ((frame msg (areaLength as) as).drop 2)).toNat = areaLength as := by
    rw [hform, drop_storeBE16 _ 0, List.drop_zero, loadBE16_store, UInt16.toNat_ofNat',
      Nat.mod_eq_of_lt (by omega)]
  have hbody : (frame msg (areaLength as) as).drop 8 = msg.transactionId ++ as.flatMap Tlv.Attribute.encode := by
    rw [hform, drop_storeBE16 _ 6, drop_storeBE16 _ 4, drop_storeBE32 _ 0, List.drop_zero]
  have hbody' : (frame msg (areaLength as) as).drop 20 = as.flatMap Tlv.Attribute.encode := by
    have hskip : (msg.transactionId ++ as.flatMap Tlv.Attribute.encode).drop 12 = as.flatMap Tlv.Attribute.encode :=
      List.drop_left' hid
    rw [← hskip, ← hbody, List.drop_drop]
  refine ⟨length_frame hid _ as, by rw [hform, loadBE16_store], harea, ?_, ?_, ?_⟩
  · rw [hform, drop_storeBE16 _ 2, drop_storeBE16 _ 0, List.drop_zero, loadBE32_store]
  · rw [hbody, List.take_left' hid]
  · rw [attributeArea, harea, hbody', areaLength, List.take_length]

theorem length_value_lt_of_areaLength (hfit : areaLength as < 2 ^ 16) : ∀ a ∈ as, a.value.length < 2 ^ 16 := by
  intro a ha
  have hle := Tlv.length_value_le ha
  rw [← areaLength] at hle
  omega

/-- **A message whose attributes fit the length field is decoded** into their reading. -/
theorem decode_encode_of_areaLength (hid : msg.transactionId.length = 12)
    (hfit : areaLength (encodedAttributes hmacSha1 msg password) < 2 ^ 16) :
    decode (encode hmacSha1 msg password)
      = some ((encodedAttributes hmacSha1 msg password).foldl readAttribute
          { messageType := msg.messageType, transactionId := msg.transactionId }) := by
  rw [encode_eq hid]
  set as := encodedAttributes hmacSha1 msg password
  have hframed := framed_frame hid hfit
  have hattributes : Tlv.attributes (attributeArea (frame msg (areaLength as) as)) = some as := by
    have hread := Tlv.attributes_flatMap_encode as (length_value_lt_of_areaLength hfit) []
    rw [List.append_nil, Tlv.attributes_of_short (show ([] : Bytes).length < 4 by simp), Option.map_some,
      List.append_nil] at hread
    rw [hframed.area, hread]
  have hlen := hframed.length
  have harea := hframed.areaLength
  unfold decode
  rw [if_neg (by omega), if_neg (not_not_intro hframed.cookie), if_neg (by omega), hattributes, Option.map_some,
    hframed.transactionId, hframed.messageType]

theorem decode_encode (hid : msg.transactionId.length = 12)
    (hfit : (encode hmacSha1 msg password).length < 2 ^ 16) :
    decode (encode hmacSha1 msg password)
      = some ((encodedAttributes hmacSha1 msg password).foldl readAttribute
          { messageType := msg.messageType, transactionId := msg.transactionId }) := by
  rw [encode_eq hid, length_frame hid] at hfit
  exact decode_encode_of_areaLength hid (by omega)

/-! ### The verifier behind it -/

theorem isIntegrity_fieldAttributes (msg : StunMessage) : ∀ a ∈ fieldAttributes msg, isIntegrity a = false := by
  have htype : ∀ a ∈ fieldAttributes msg, a.type ≠ kStunAttrMessageIntegrity := by
    intro a ha
    simp only [fieldAttributes, List.mem_append, List.mem_ite_nil_right, List.mem_singleton, Option.mem_toList,
      Option.map_eq_some_iff] at ha
    rcases ha with (((((⟨-, rfl⟩ | ⟨_, -, rfl⟩) | ⟨_, -, rfl⟩) | ⟨_, -, rfl⟩) | ⟨-, rfl⟩) | ⟨-, rfl⟩) <;>
      dsimp only <;> decide
  intro a ha
  simp [isIntegrity, htype a ha]

/-- The front of a frame is the frame of the front, but for the length field. -/
theorem take_frame (hid : msg.transactionId.length = 12) (n : ℕ) (as bs : List Tlv.Attribute) :
    (frame msg n (as ++ bs)).take (20 + areaLength as) = frame msg n as := by
  have hsplit : frame msg n (as ++ bs) = frame msg n as ++ bs.flatMap Tlv.Attribute.encode := by
    simp only [frame, List.flatMap_append, List.append_assoc]
  rw [hsplit, List.take_left' (length_frame hid n as)]

/-- A frame verifies whose first MESSAGE-INTEGRITY is the tag over the frame in front of it. -/
theorem verifyMessageIntegrity_frame {rest : List Tlv.Attribute} {tag : Bytes} (hid : msg.transactionId.length = 12)
    (hfit : areaLength (as ++ ⟨kStunAttrMessageIntegrity, tag⟩ :: rest) < 2 ^ 16)
    (hnone : ∀ a ∈ as, isIntegrity a = false) (htag : tag = hmacSha1 password (frame msg (areaLength as + 24) as))
    (hlen : tag.length = 20) :
    verifyMessageIntegrity hmacSha1 (frame msg (areaLength (as ++ ⟨kStunAttrMessageIntegrity, tag⟩ :: rest))
      (as ++ ⟨kStunAttrMessageIntegrity, tag⟩ :: rest)) password = true := by
  have hlength := length_value_lt_of_areaLength hfit
  have hframed := framed_frame hid hfit
  set bytes := frame msg (areaLength (as ++ ⟨kStunAttrMessageIntegrity, tag⟩ :: rest))
    (as ++ ⟨kStunAttrMessageIntegrity, tag⟩ :: rest) with hbytes
  have hfind : findIntegrity bytes = some (areaLength as, ⟨kStunAttrMessageIntegrity, tag⟩) := by
    rw [findIntegrity, hframed.area, List.flatMap_append, List.flatMap_cons]
    exact Tlv.find_flatMap_encode (fun a ha => hlength a (List.mem_append_left _ ha)) hnone (hlength _ (by simp))
      (by simp [isIntegrity, hlen]) _
  have hsize := hframed.length
  have harea := hframed.areaLength
  unfold verifyMessageIntegrity
  rw [if_neg (by omega), if_neg (by omega), hfind]
  simp only [Nat.add_sub_cancel_left, decide_eq_true_eq]
  rw [hbytes, take_frame hid, writeLength_frame, htag]

/-- **A signed message verifies under the password it is signed with.** -/
theorem verifyMessageIntegrity_encode (hmac : ∀ key data, (hmacSha1 key data).length = 20)
    (hid : msg.transactionId.length = 12) (hpassword : password ≠ [])
    (hfit : areaLength (encodedAttributes hmacSha1 msg password) < 2 ^ 16) :
    verifyMessageIntegrity hmacSha1 (encode hmacSha1 msg password) password = true := by
  obtain ⟨fingerprint, hlast⟩ : ∃ fingerprint, encodedAttributes hmacSha1 msg password
      = signedAttributes hmacSha1 msg password ++ [fingerprint] := ⟨_, rfl⟩
  rw [encode_eq hid]
  rw [hlast, signedAttributes, if_pos hpassword, List.append_assoc, List.singleton_append] at hfit ⊢
  exact verifyMessageIntegrity_frame hid hfit (isIntegrity_fieldAttributes msg) rfl (hmac _ _)

theorem any_isUseCandidate (hmacSha1 : Bytes → Bytes → Bytes) (msg : StunMessage) (password : Bytes) :
    (encodedAttributes hmacSha1 msg password).any isUseCandidate = msg.useCandidate := by
  have hite : ∀ (c : Prop) [Decidable c] (type : UInt16) (value : Bytes), type ≠ kStunAttrUseCandidate →
      (if c then [(⟨type, value⟩ : Tlv.Attribute)] else []).any isUseCandidate = false := by
    intro c _ type value htype
    by_cases hc : c <;> simp [hc, isUseCandidate, htype]
  have hoption : ∀ (α : Type) (field : Option α) (type : UInt16) (store : α → Bytes), type ≠ kStunAttrUseCandidate →
      (field.map fun value => (⟨type, store value⟩ : Tlv.Attribute)).toList.any isUseCandidate = false := by
    intro α field type store htype
    cases field <;> simp [isUseCandidate, htype]
  have hcandidate : (if msg.useCandidate then [(⟨kStunAttrUseCandidate, []⟩ : Tlv.Attribute)] else []).any isUseCandidate
      = msg.useCandidate := by
    cases msg.useCandidate <;> simp [isUseCandidate]
  have hfingerprint : ∀ value, ([⟨kStunAttrFingerprint, value⟩] : List Tlv.Attribute).any isUseCandidate = false := by
    intro value
    simp [isUseCandidate, kStunAttrFingerprint, kStunAttrUseCandidate]
  unfold encodedAttributes signedAttributes fieldAttributes
  simp only [List.any_append, hcandidate, hfingerprint]
  rw [hite _ _ _ (by decide), hite _ _ _ (by decide), hite _ _ _ (by decide), hoption _ _ _ _ (by decide),
    hoption _ _ _ _ (by decide), hoption _ _ _ _ (by decide)]
  simp

theorem of_decode_encode (hid : msg.transactionId.length = 12)
    (hfit : (encode hmacSha1 msg password).length < 2 ^ 16) : ∃ read,
    decode (encode hmacSha1 msg password) = some read ∧ read.messageType = msg.messageType ∧
      read.useCandidate = msg.useCandidate := by
  refine ⟨_, decode_encode hid hfit, foldl_readAttribute_messageType _ _, ?_⟩
  rw [foldl_readAttribute_useCandidate, Bool.false_or, any_isUseCandidate]

end VianiumVoip.Ice.StunMessageCodec
