import VianiumVoip.Ice.Encoding

/-!
# A STUN message comes back

`Encode` writes one attribute for each field that is set, and the tags behind them.  `Decode` restores the fields
(`decode_encode_fields`), `VerifyMessageIntegrity` accepts the message under its password, and `VerifyFingerprint`
accepts it.  The verifiers look for the tags in different ways: the first walks over the attributes to MESSAGE-INTEGRITY,
the second expects FINGERPRINT in the last eight bytes; both put back the header length that the encoder had when it made
the tag.
-/

namespace VianiumVoip.Ice.StunMessageCodec

open VianiumVoip.Lib

/-- `VerifyFingerprint` -/
def verifyFingerprint (bytes : Bytes) : Bool :=
  if bytes.length < 28 then false
  else
    let fpOffset := bytes.length - 8
    if loadBE16 (bytes.drop fpOffset) ≠ kStunAttrFingerprint then false
    else if loadBE16 (bytes.drop (fpOffset + 2)) ≠ 4 then false
    else
      let tmp := bytes.take fpOffset
      if tmp.length < 20 then false
      else
        let tmp := writeLength tmp (fpOffset - 20 + 8)
        Crc32.compute tmp ^^^ kStunFingerprintMask = loadBE32 (bytes.drop (fpOffset + 4))

variable {hmacSha1 : Bytes → Bytes → Bytes} {msg out : StunMessage} {password : Bytes}

/-! ### The fields -/

theorem foldl_username (username : Bytes) (h : out.username = []) :
    (if username ≠ [] then [(⟨kStunAttrUsername, username⟩ : Tlv.Attribute)] else []).foldl readAttribute out
      = { out with username := username } := by
  by_cases hempty : username = []
  · rw [if_neg (not_not_intro hempty), hempty, ← h]
    rfl
  · rw [if_pos hempty]
    rfl

theorem foldl_option {α : Type} (field : Option α) (type : UInt16) (store : α → Bytes) (set : Option α → StunMessage)
    (hnone : set none = out) (hread : ∀ value, readAttribute out ⟨type, store value⟩ = set (some value)) :
    (field.map fun value => (⟨type, store value⟩ : Tlv.Attribute)).toList.foldl readAttribute out = set field := by
  cases field with
  | none => exact hnone.symm
  | some value => exact hread value

theorem foldl_priority (priority : Option UInt32) (h : out.priority = none) :
    (priority.map fun value => (⟨kStunAttrPriority, storeBE32 value⟩ : Tlv.Attribute)).toList.foldl readAttribute out
      = { out with priority := priority } := by
  refine foldl_option priority _ _ (fun field => { out with priority := field }) (by rw [← h]) fun value => ?_
  have hread : ∀ v : Bytes, readAttribute out ⟨kStunAttrPriority, v⟩
      = if v.length = 4 then { out with priority := some (loadBE32 v) } else out := fun _ => rfl
  rw [hread, if_pos (length_storeBE32 value), ← List.append_nil (storeBE32 value), loadBE32_store]

theorem foldl_iceControlling (tieBreak : Option UInt64) (h : out.iceControlling = none) :
    (tieBreak.map fun value => (⟨kStunAttrIceControlling, storeBE64 value⟩ : Tlv.Attribute)).toList.foldl readAttribute
      out = { out with iceControlling := tieBreak } := by
  refine foldl_option tieBreak _ _ (fun field => { out with iceControlling := field }) (by rw [← h]) fun value => ?_
  have hread : ∀ v : Bytes, readAttribute out ⟨kStunAttrIceControlling, v⟩
      = if v.length = 8 then { out with iceControlling := some (loadBE64 v) } else out := fun _ => rfl
  rw [hread, if_pos (length_storeBE64 value), ← List.append_nil (storeBE64 value), loadBE64_store]

theorem foldl_iceControlled (tieBreak : Option UInt64) (h : out.iceControlled = none) :
    (tieBreak.map fun value => (⟨kStunAttrIceControlled, storeBE64 value⟩ : Tlv.Attribute)).toList.foldl readAttribute
      out = { out with iceControlled := tieBreak } := by
  refine foldl_option tieBreak _ _ (fun field => { out with iceControlled := field }) (by rw [← h]) fun value => ?_
  have hread : ∀ v : Bytes, readAttribute out ⟨kStunAttrIceControlled, v⟩
      = if v.length = 8 then { out with iceControlled := some (loadBE64 v) } else out := fun _ => rfl
  rw [hread, if_pos (length_storeBE64 value), ← List.append_nil (storeBE64 value), loadBE64_store]

theorem foldl_useCandidate (useCandidate : Bool) (h : out.useCandidate = false) :
    (if useCandidate then [(⟨kStunAttrUseCandidate, []⟩ : Tlv.Attribute)] else []).foldl readAttribute out
      = { out with useCandidate := useCandidate } := by
  cases useCandidate with
  | false =>
    show out = { out with useCandidate := false }
    rw [← h]
  | true => rfl

/-- The address that a message carries on the wire: its family, its port and the four bytes of IPv4. -/
def carried (msg : StunMessage) : Prop := msg.hasMappedAddress = true ∧ msg.mappedFamily = 0x01

instance (msg : StunMessage) : Decidable (carried msg) := inferInstanceAs (Decidable (_ ∧ _))

theorem readAttribute_xorMappedAddress (hlen : 4 ≤ msg.mappedAddress.length) :
    readAttribute out ⟨kStunAttrXorMappedAddress, xorMappedAddress msg⟩
      = { out with
          hasMappedAddress := true
          mappedFamily := 0x01
          mappedPort := msg.mappedPort
          mappedAddress := msg.mappedAddress.take 4 ++ out.mappedAddress.drop 4 } := by
  set port := msg.mappedPort ^^^ (kStunMagicCookie >>> (16 : UInt32)).toUInt16 with hport
  set value := loadBE32 msg.mappedAddress ^^^ kStunMagicCookie with hvalue
  have hform : xorMappedAddress msg = 0 :: 0x01 :: (storeBE16 port ++ storeBE32 value) := by
    simp [xorMappedAddress, ← hport, ← hvalue]
  have hportBack : port ^^^ (kStunMagicCookie >>> (16 : UInt32)).toUInt16 = msg.mappedPort := by
    rw [hport, UInt16.xor_assoc, UInt16.xor_self, UInt16.xor_zero]
  have hvalueBack : storeBE32 (value ^^^ kStunMagicCookie) = msg.mappedAddress.take 4 := by
    rw [hvalue, UInt32.xor_assoc, UInt32.xor_self, UInt32.xor_zero, storeBE32_load hlen]
  have hread : ∀ v : Bytes, readAttribute out ⟨kStunAttrXorMappedAddress, v⟩
      = if 8 ≤ v.length then
          { out with
            hasMappedAddress := true
            mappedFamily := v.getD 1 0
            mappedPort := loadBE16 (v.drop 2) ^^^ (kStunMagicCookie >>> (16 : UInt32)).toUInt16
            mappedAddress :=
              if v.getD 1 0 = 0x01 then storeBE32 (loadBE32 (v.drop 4) ^^^ kStunMagicCookie) ++ out.mappedAddress.drop 4
              else out.mappedAddress }
        else out := fun _ => rfl
  have hload := loadBE32_store value []
  rw [List.append_nil] at hload
  have hfour : (0 :: 0x01 :: (storeBE16 port ++ storeBE32 value)).drop 4 = storeBE32 value := by
    rw [List.drop_succ_cons, List.drop_succ_cons, drop_storeBE16 _ 0, List.drop_zero]
  rw [hread, hform, if_pos (by simp), hfour, hload, hvalueBack]
  simp [hportBack]

/-- What a decoder makes of the fields of a message. -/
def restored (msg : StunMessage) : StunMessage where
  messageType := msg.messageType
  transactionId := msg.transactionId
  username := msg.username
  priority := msg.priority
  iceControlling := msg.iceControlling
  iceControlled := msg.iceControlled
  useCandidate := msg.useCandidate
  hasMappedAddress := decide (carried msg)
  mappedFamily := if carried msg then 0x01 else 0
  mappedPort := if carried msg then msg.mappedPort else 0
  mappedAddress := if carried msg then msg.mappedAddress.take 4 ++ List.replicate 12 0 else List.replicate 16 0

/-- **The fields are read back**, each from its own attribute. -/
theorem foldl_fieldAttributes (hlen : 4 ≤ msg.mappedAddress.length) :
    (fieldAttributes msg).foldl readAttribute { messageType := msg.messageType, transactionId := msg.transactionId }
      = restored msg := by
  have hmapped : ∀ out : StunMessage, out.mappedAddress = List.replicate 16 0 → out.hasMappedAddress = false →
      out.mappedFamily = 0 → out.mappedPort = 0 →
      (if msg.hasMappedAddress ∧ msg.mappedFamily = 0x01 then
        [(⟨kStunAttrXorMappedAddress, xorMappedAddress msg⟩ : Tlv.Attribute)] else []).foldl readAttribute out
      = { out with
          hasMappedAddress := decide (carried msg)
          mappedFamily := if carried msg then 0x01 else 0
          mappedPort := if carried msg then msg.mappedPort else 0
          mappedAddress :=
            if carried msg then msg.mappedAddress.take 4 ++ List.replicate 12 0 else List.replicate 16 0 } := by
    intro out haddress hhas hfamily hport
    by_cases hc : carried msg
    · have hcond : msg.hasMappedAddress = true ∧ msg.mappedFamily = 0x01 := hc
      rw [if_pos hcond, List.foldl_cons, List.foldl_nil, readAttribute_xorMappedAddress hlen, haddress]
      simp [hc]
    · have hcond : ¬ (msg.hasMappedAddress = true ∧ msg.mappedFamily = 0x01) := hc
      rw [if_neg hcond, List.foldl_nil, decide_eq_false hc, if_neg hc, if_neg hc, if_neg hc]
      rcases out with ⟨⟩
      dsimp only at haddress hhas hfamily hport
      rw [haddress, hhas, hfamily, hport]
  rw [fieldAttributes, List.foldl_append, List.foldl_append, List.foldl_append, List.foldl_append, List.foldl_append,
    foldl_username _ rfl, foldl_priority _ rfl, foldl_iceControlling _ rfl, foldl_iceControlled _ rfl,
    foldl_useCandidate _ rfl, hmapped _ rfl rfl rfl rfl]
  rfl

theorem readAttribute_fingerprint (out : StunMessage) (fingerprint : UInt32) :
    readAttribute out ⟨kStunAttrFingerprint, storeBE32 fingerprint⟩ = { out with fingerprint := some fingerprint } := by
  have hread : ∀ v : Bytes, readAttribute out ⟨kStunAttrFingerprint, v⟩
      = if v.length = 4 then { out with fingerprint := some (loadBE32 v) } else out := fun _ => rfl
  rw [hread, if_pos (length_storeBE32 fingerprint), ← List.append_nil (storeBE32 fingerprint), loadBE32_store]

theorem readAttribute_messageIntegrity (out : StunMessage) {mac : Bytes} (hmac : mac.length = 20) :
    readAttribute out ⟨kStunAttrMessageIntegrity, mac⟩ = { out with messageIntegrity := mac } := by
  have hread : ∀ v : Bytes, readAttribute out ⟨kStunAttrMessageIntegrity, v⟩
      = if v.length = 20 then { out with messageIntegrity := v } else out := fun _ => rfl
  rw [hread, if_pos hmac]

theorem foldl_signedAttributes (hmac : ∀ key data, (hmacSha1 key data).length = 20) (password : Bytes)
    (hlen : 4 ≤ msg.mappedAddress.length) :
    ∃ mac, (signedAttributes hmacSha1 msg password).foldl readAttribute
        { messageType := msg.messageType, transactionId := msg.transactionId }
      = { restored msg with messageIntegrity := mac } := by
  rw [signedAttributes, List.foldl_append, foldl_fieldAttributes hlen]
  by_cases hpassword : password = []
  · rw [if_neg (not_not_intro hpassword), List.foldl_nil]
    exact ⟨[], rfl⟩
  · rw [if_pos hpassword, List.foldl_cons, List.foldl_nil, readAttribute_messageIntegrity _ (hmac _ _)]
    exact ⟨_, rfl⟩

/-- **What is decoded** has the fields of the message, and the tags besides. -/
theorem decode_encode_fields (hmac : ∀ key data, (hmacSha1 key data).length = 20)
    (hid : msg.transactionId.length = 12) (hlen : 4 ≤ msg.mappedAddress.length)
    (hfit : areaLength (encodedAttributes hmacSha1 msg password) < 2 ^ 16) :
    ∃ mac fingerprint, decode (encode hmacSha1 msg password)
      = some { restored msg with messageIntegrity := mac, fingerprint := some fingerprint } := by
  obtain ⟨mac, hsigned⟩ := foldl_signedAttributes hmac password hlen
  rw [decode_encode_of_areaLength hid hfit, encodedAttributes, List.foldl_append, hsigned, List.foldl_cons, List.foldl_nil,
    readAttribute_fingerprint]
  exact ⟨mac, _, rfl⟩

/-! ### FINGERPRINT -/

/-- A frame is accepted whose last attribute is the fingerprint of the frame in front of it. -/
theorem verifyFingerprint_frame {as : List Tlv.Attribute} (hid : msg.transactionId.length = 12) (n : ℕ) :
    verifyFingerprint (frame msg n (as ++ [⟨kStunAttrFingerprint,
      storeBE32 (Crc32.compute (frame msg (areaLength as + 8) as) ^^^ kStunFingerprintMask)⟩])) = true := by
  set value := Crc32.compute (frame msg (areaLength as + 8) as) ^^^ kStunFingerprintMask with hvalue
  set fingerprint : Tlv.Attribute := ⟨kStunAttrFingerprint, storeBE32 value⟩ with hfingerprint
  set bytes := frame msg n (as ++ [fingerprint]) with hbytes
  have harea : areaLength (as ++ [fingerprint]) = areaLength as + 8 := by
    rw [areaLength_append, areaLength_singleton, hfingerprint, length_storeBE32]
    rfl
  have hlen : bytes.length = 20 + areaLength as + 8 := by
    rw [hbytes, length_frame hid, harea]
    omega
  have hoffset : bytes.length - 8 = 20 + areaLength as := by omega
  have hfront : bytes.take (20 + areaLength as) = frame msg n as := take_frame hid n as [fingerprint]
  have hback : bytes.drop (20 + areaLength as)
      = storeBE16 kStunAttrFingerprint ++ (storeBE16 4 ++ (storeBE32 value ++ [])) := by
    have hsplit : bytes = frame msg n as ++ fingerprint.encode := by
      rw [hbytes]
      simp only [frame, List.flatMap_append, List.flatMap_singleton, List.append_assoc]
    rw [hsplit, List.drop_left' (length_frame hid n as), Tlv.Attribute.encode, hfingerprint]
    simp [Tlv.advance]
  have hback' : ∀ k, bytes.drop (20 + areaLength as + k)
      = (storeBE16 kStunAttrFingerprint ++ (storeBE16 4 ++ (storeBE32 value ++ []))).drop k := by
    intro k
    rw [← hback, List.drop_drop]
  unfold verifyFingerprint
  simp only [hoffset, hfront]
  rw [if_neg (by omega), hback, loadBE16_store, if_neg (not_not_intro rfl), hback' 2, drop_storeBE16 _ 0, List.drop_zero,
    loadBE16_store, if_neg (not_not_intro rfl), if_neg (by rw [length_frame hid]; omega), writeLength_frame, hback' 4,
    drop_storeBE16 _ 2, drop_storeBE16 _ 0, List.drop_zero, loadBE32_store]
  rw [decide_eq_true_eq, Nat.add_sub_cancel_left, hvalue]

/-- **Every message carries its fingerprint.** -/
theorem verifyFingerprint_encode (hid : msg.transactionId.length = 12) :
    verifyFingerprint (encode hmacSha1 msg password) = true := by
  rw [encode_eq hid]
  exact verifyFingerprint_frame hid _

/-! ### The round trip -/

/-- The fields of `out` that the code shares between two agents are those of `msg`. -/
structure SameFields (out msg : StunMessage) : Prop where
  messageType : out.messageType = msg.messageType
  transactionId : out.transactionId = msg.transactionId
  username : out.username = msg.username
  priority : out.priority = msg.priority
  iceControlling : out.iceControlling = msg.iceControlling
  iceControlled : out.iceControlled = msg.iceControlled
  useCandidate : out.useCandidate = msg.useCandidate
  hasMappedAddress : out.hasMappedAddress = msg.hasMappedAddress
  /-- The four bytes of an IPv4 address; the array has sixteen. -/
  mapped : msg.hasMappedAddress = true → out.mappedFamily = msg.mappedFamily ∧ out.mappedPort = msg.mappedPort ∧
    out.mappedAddress.take 4 = msg.mappedAddress.take 4

theorem sameFields_restored (haddress : msg.mappedAddress.length = 16)
    (hfamily : msg.hasMappedAddress = true → msg.mappedFamily = 0x01) (mac : Bytes) (fingerprint : Option UInt32) :
    SameFields { restored msg with messageIntegrity := mac, fingerprint := fingerprint } msg := by
  have hcarried : carried msg ↔ msg.hasMappedAddress = true := and_iff_left_of_imp hfamily
  refine ⟨rfl, rfl, rfl, rfl, rfl, rfl, rfl, ?_, fun hhas => ?_⟩
  · show decide (carried msg) = msg.hasMappedAddress
    rw [Bool.eq_iff_iff, decide_eq_true_eq]
    exact hcarried
  · have hc : carried msg := hcarried.2 hhas
    refine ⟨(if_pos hc).trans (hfamily hhas).symm, if_pos hc, ?_⟩
    show (if carried msg then _ else _ : Bytes).take 4 = _
    rw [if_pos hc, List.take_left' (by rw [List.length_take, haddress]; rfl)]

/-- **A message comes back.**  Whatever is set of it, a message that fits its length field is decoded into the same
fields, its fingerprint is accepted, and a non-empty password accepts its tag. -/
theorem encode_round_trip (hmacSha1 : Bytes → Bytes → Vector UInt8 20) (msg : StunMessage) (password : Bytes)
    (hid : msg.transactionId.length = 12) (haddress : msg.mappedAddress.length = 16)
    (hfamily : msg.hasMappedAddress = true → msg.mappedFamily = 0x01)
    (hfit : (encode (fun key data => (hmacSha1 key data).toList) msg password).length < 20 + 2 ^ 16) :
    (∃ out, decode (encode (fun key data => (hmacSha1 key data).toList) msg password) = some out ∧ SameFields out msg) ∧
      verifyFingerprint (encode (fun key data => (hmacSha1 key data).toList) msg password) = true ∧
      (password ≠ [] → verifyMessageIntegrity (fun key data => (hmacSha1 key data).toList)
        (encode (fun key data => (hmacSha1 key data).toList) msg password) password = true) := by
  have hmac : ∀ key data, (hmacSha1 key data).toList.length = 20 := fun key data => Vector.length_toList ..
  have harea : areaLength (encodedAttributes (fun key data => (hmacSha1 key data).toList) msg password) < 2 ^ 16 := by
    rw [encode_eq hid, length_frame hid] at hfit
    omega
  obtain ⟨mac, fingerprint, hdecode⟩ := decode_encode_fields hmac hid (haddress ▸ by decide) harea
  exact ⟨⟨_, hdecode, sameFields_restored haddress hfamily mac _⟩, verifyFingerprint_encode hid,
    fun hpassword => verifyMessageIntegrity_encode hmac hid hpassword harea⟩

/-- A binding request with all its fields, and a response's address. -/
def sampleCheck : StunMessage where
  messageType := kStunBindingRequest
  transactionId := [1, 2, 3, 4, 5, 6, 7, 8, 9, 10, 11, 12]
  username := [97, 58, 98]
  priority := some 0x6E001EFF
  iceControlling := some 7
  iceControlled := some 8
  useCandidate := true
  hasMappedAddress := true
  mappedFamily := 0x01
  mappedAddress := [192, 0, 2, 1] ++ List.replicate 12 0
  mappedPort := 32853

def checkPassword : Bytes := [1]

def checkTag (_key _data : Bytes) : Vector UInt8 20 := Vector.replicate 20 7

theorem encode_round_trip_check :
    (∃ out, decode (encode (fun key data => (checkTag key data).toList) sampleCheck checkPassword) = some out ∧
        SameFields out sampleCheck) ∧
      verifyFingerprint (encode (fun key data => (checkTag key data).toList) sampleCheck checkPassword) = true ∧
      (checkPassword ≠ [] → verifyMessageIntegrity (fun key data => (checkTag key data).toList)
        (encode (fun key data => (checkTag key data).toList) sampleCheck checkPassword) checkPassword = true) :=
  encode_round_trip checkTag sampleCheck checkPassword rfl rfl (fun _ => rfl) (by decide +kernel)

end VianiumVoip.Ice.StunMessageCodec
