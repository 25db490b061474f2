import VianiumVoip.Ice.StunMessage
import VianiumVoip.Lib.TlvReads

/-!
# What the STUN codec reads

`Decode`, `VerifyMessageIntegrity` and `VerifyFingerprint` of `infrastructure/ice/stun_message` with every read of the
datagram in a trace.  The first two find what `StunMessageCodec.decode` and `StunMessageCodec.verifyMessageIntegrity`
find, and read nothing behind the attribute section that the header declares.  `VerifyFingerprint` does not look at that
length: it takes the last eight bytes of the datagram, wherever the section ends.
-/

namespace VianiumVoip.Ice.StunReads

open VianiumVoip.Lib StunMessageCodec Traced

/-! ### The three functions -/

/-- The switch over the attribute type, with the value at `aVal`. -/
def readAttribute (data : Bytes) (out : StunMessage) (aType : UInt16) (aVal aLen : ℕ) : Traced StunMessage :=
  if aType = kStunAttrUsername then do
    let username ← slice data aVal aLen
    return { out with username := username }
  else if aType = kStunAttrMessageIntegrity then
    if aLen = 20 then do
      let messageIntegrity ← slice data aVal 20
      return { out with messageIntegrity := messageIntegrity }
    else pure out
  else if aType = kStunAttrFingerprint then
    if aLen = 4 then do
      let fingerprint ← loadBE32At data aVal
      return { out with fingerprint := some fingerprint }
    else pure out
  else if aType = kStunAttrPriority then
    if aLen = 4 then do
      let priority ← loadBE32At data aVal
      return { out with priority := some priority }
    else pure out
  else if aType = kStunAttrIceControlling then
    if aLen = 8 then do
      let tieBreak ← loadBE64At data aVal
      return { out with iceControlling := some tieBreak }
    else pure out
  else if aType = kStunAttrIceControlled then
    if aLen = 8 then do
      let tieBreak ← loadBE64At data aVal
      return { out with iceControlled := some tieBreak }
    else pure out
  else if aType = kStunAttrUseCandidate then pure { out with useCandidate := true }
  else if aType = kStunAttrXorMappedAddress then
    if 8 ≤ aLen then do
      let family ← byteAt data (aVal + 1)
      let xport ← loadBE16At data (aVal + 2)
      let out := { out with
        hasMappedAddress := true
        mappedFamily := family
        mappedPort := xport ^^^ (kStunMagicCookie >>> (16 : UInt32)).toUInt16 }
      if family = 0x01 then do
        let xa ← loadBE32At data (aVal + 4)
        return { out with mappedAddress := storeBE32 (xa ^^^ kStunMagicCookie) ++ out.mappedAddress.drop 4 }
      else pure out
    else pure out
  else pure out

/-- `Decode` -/
def decode (data : Bytes) : Traced (Option StunMessage) :=
  if data.length < 20 then pure none
  else do
    let type ← loadBE16At data 0
    let attrLen ← loadBE16At data 2
    let cookie ← loadBE32At data 4
    if cookie ≠ kStunMagicCookie then pure none
    else if data.length < 20 + attrLen.toNat then pure none
    else do
      let transactionId ← slice data 8 12
      Tlv.walk (readAttribute data) data (20 + attrLen.toNat) { messageType := type, transactionId := transactionId } 20

/-- The comparison of the tag with the value at `miValue`, which ends at the first byte that differs. -/
def compareTag (msgBytes mac : Bytes) (miValue : ℕ) : List ℕ → Traced Bool
  | [] => pure true
  | i :: rest => do
    let x ← byteAt msgBytes (miValue + i)
    if mac.getD i 0 ≠ x then pure false else compareTag msgBytes mac miValue rest

variable (hmacSha1 : Bytes → Bytes → Bytes)

/-- `VerifyMessageIntegrity` -/
def verifyMessageIntegrity (msgBytes password : Bytes) : Traced Bool :=
  if msgBytes.length < 20 then pure false
  else do
    let attrLen ← loadBE16At msgBytes 2
    if msgBytes.length < 20 + attrLen.toNat then pure false
    else do
      let kind aType aLen := decide (aType = kStunAttrMessageIntegrity ∧ aLen = 20)
      match ← Tlv.findAt kind msgBytes (20 + attrLen.toNat) 20 with
      | none => pure false
      | some miOffset =>
        let tmp ← slice msgBytes 0 miOffset
        if tmp.length < 20 then pure false
        else compareTag msgBytes (hmacSha1 password (writeLength tmp (miOffset - 20 + 24))) (miOffset + 4) (List.range 20)

/-- `VerifyFingerprint` -/
def verifyFingerprint (msgBytes : Bytes) : Traced Bool :=
  if msgBytes.length < 28 then pure false
  else do
    let fpOffset := msgBytes.length - 8
    let type ← loadBE16At msgBytes fpOffset
    if type ≠ kStunAttrFingerprint then pure false
    else do
      let length ← loadBE16At msgBytes (fpOffset + 2)
      if length ≠ 4 then pure false
      else do
        let tmp ← slice msgBytes 0 fpOffset
        if tmp.length < 20 then pure false
        else do
          let expected := Crc32.compute (writeLength tmp (fpOffset - 20 + 8)) ^^^ kStunFingerprintMask
          let actual ← loadBE32At msgBytes (fpOffset + 4)
          return decide (expected = actual)

/-! ### The traced functions find what the codec finds -/

variable {hmacSha1} {data msgBytes password : Bytes} {P : Access → Prop}

theorem take_value {aVal aLen k n : ℕ} (h : k + n ≤ aLen) :
    ((((data.drop aVal).take aLen).drop k).take n) = (data.drop (aVal + k)).take n := by
  rw [List.drop_take, List.take_take, List.drop_drop, Nat.min_eq_left (by omega)]

theorem value_readAttribute (out : StunMessage) (aType : UInt16) {aVal aLen : ℕ} (h : aVal + aLen ≤ data.length) :
    (readAttribute data out aType aVal aLen).value
      = StunMessageCodec.readAttribute out ⟨aType, (data.drop aVal).take aLen⟩ := by
  have hlen : ((data.drop aVal).take aLen).length = aLen := by
    rw [List.length_take, List.length_drop]
    omega
  have hload16 : ∀ k, k + 2 ≤ aLen →
      loadBE16 (((data.drop aVal).take aLen).drop k) = loadBE16 (data.drop (aVal + k)) := by
    intro k hk
    rw [loadBE16, take_value hk, loadBE16]
  have hload32 : ∀ k, k + 4 ≤ aLen →
      loadBE32 (((data.drop aVal).take aLen).drop k) = loadBE32 (data.drop (aVal + k)) := by
    intro k hk
    rw [loadBE32, take_value hk, loadBE32]
  have hload32' : aLen = 4 → loadBE32 ((data.drop aVal).take aLen) = loadBE32 (data.drop aVal) := by
    intro hk
    exact hload32 0 (by omega)
  have hload64 : aLen = 8 → loadBE64 ((data.drop aVal).take aLen) = loadBE64 (data.drop aVal) := by
    intro hk
    have hvalue : ((((data.drop aVal).take aLen).drop 0).take 8) = (data.drop (aVal + 0)).take 8 := take_value (by omega)
    rw [List.drop_zero, Nat.add_zero] at hvalue
    rw [loadBE64, hvalue, loadBE64]
  unfold readAttribute StunMessageCodec.readAttribute
  simp only [hlen]
  refine value_ite_eq (fun _ => rfl) fun _ => ?_
  refine value_ite_eq (fun _ => value_ite_eq (fun hsize => ?_) fun _ => rfl) fun _ => ?_
  · rw [hsize]
    rfl
  refine value_ite_eq (fun _ => value_ite_eq (fun hsize => ?_) fun _ => rfl) fun _ => ?_
  · rw [hload32' hsize, value_bind, value_loadBE32At, value_pure]
  refine value_ite_eq (fun _ => value_ite_eq (fun hsize => ?_) fun _ => rfl) fun _ => ?_
  · rw [hload32' hsize, value_bind, value_loadBE32At, value_pure]
  refine value_ite_eq (fun _ => value_ite_eq (fun hsize => ?_) fun _ => rfl) fun _ => ?_
  · rw [hload64 hsize, value_bind, value_loadBE64At, value_pure]
  refine value_ite_eq (fun _ => value_ite_eq (fun hsize => ?_) fun _ => rfl) fun _ => ?_
  · rw [hload64 hsize, value_bind, value_loadBE64At, value_pure]
  refine value_ite_eq (fun _ => rfl) fun _ => ?_
  refine value_ite_eq (fun _ => value_ite_eq (fun hsize => ?_) fun _ => rfl) fun _ => rfl
  have hfamily : ((data.drop aVal).take aLen).getD 1 0 = data.getD (aVal + 1) 0 := by
    simp [List.getD, List.getElem?_drop, show 1 < aLen by omega]
  rw [hfamily, hload16 2 (by omega), hload32 4 (by omega)]
  simp only [value_bind, value_byteAt, value_loadBE16At, value_ite, value_pure, value_loadBE32At]
  by_cases hipv4 : data.getD (aVal + 1) 0 = 0x01
  · rw [if_pos hipv4, if_pos hipv4]
  · rw [if_neg hipv4, if_neg hipv4]

theorem value_decode (data : Bytes) : (decode data).value = StunMessageCodec.decode data := by
  unfold decode StunMessageCodec.decode
  refine value_ite_eq (fun _ => rfl) fun hsize => ?_
  simp only [value_bind, value_loadBE16At, value_loadBE32At, List.drop_zero]
  refine value_ite_eq (fun _ => rfl) fun _ => ?_
  refine value_ite_eq (fun _ => rfl) fun harea => ?_
  have hvisit := fun out aType aVal aLen (h : aVal + aLen ≤ 20 + (loadBE16 (data.drop 2)).toNat) =>
    value_readAttribute out aType (show aVal + aLen ≤ data.length by omega)
  rw [value_bind, value_slice, Tlv.value_walk (by omega) hvisit, attributeArea, List.drop_take,
    Nat.add_sub_cancel_left]

theorem value_compareTag (msgBytes mac : Bytes) (miValue : ℕ) (is : List ℕ) :
    (compareTag msgBytes mac miValue is).value = decide (∀ i ∈ is, mac.getD i 0 = msgBytes.getD (miValue + i) 0) := by
  induction is with
  | nil => simp [compareTag]
  | cons i is ih =>
    rw [compareTag, value_bind, value_byteAt, value_ite, ih]
    simp

theorem eq_of_forall_range {a b : Bytes} {n : ℕ} (ha : a.length = n) (hb : b.length = n) :
    (∀ i ∈ List.range n, a.getD i 0 = b.getD i 0) ↔ a = b := by
  constructor
  · intro h
    apply List.ext_getElem (ha.trans hb.symm)
    intro i hia hib
    have := h i (List.mem_range.2 (by omega))
    rwa [List.getD_eq_getElem _ _ hia, List.getD_eq_getElem _ _ hib] at this
  · intro h i _
    rw [h]

theorem value_verifyMessageIntegrity (hmac : ∀ key bytes, (hmacSha1 key bytes).length = 20) (msgBytes password : Bytes) :
    (verifyMessageIntegrity hmacSha1 msgBytes password).value
      = StunMessageCodec.verifyMessageIntegrity hmacSha1 msgBytes password := by
  unfold verifyMessageIntegrity StunMessageCodec.verifyMessageIntegrity
  refine value_ite_eq (fun _ => rfl) fun hsize => ?_
  simp only [value_bind, value_loadBE16At]
  refine value_ite_eq (fun _ => rfl) fun harea => ?_
  have hfind : (Tlv.findAt (fun aType aLen => decide (aType = kStunAttrMessageIntegrity ∧ aLen = 20)) msgBytes
      (20 + (loadBE16 (msgBytes.drop 2)).toNat) 20).value = (findIntegrity msgBytes).map fun r => 20 + r.1 := by
    have hvalue : (Tlv.findAt (fun aType aLen => decide (aType = kStunAttrMessageIntegrity ∧ aLen = 20)) msgBytes
        (20 + (loadBE16 (msgBytes.drop 2)).toNat) 20).value = _ := Tlv.value_findAt (by omega) 20
    rw [List.drop_take, Nat.add_sub_cancel_left] at hvalue
    exact hvalue
  rw [value_bind, hfind]
  cases hmi : findIntegrity msgBytes with
  | none => rfl
  | some r =>
    obtain ⟨offset, mi⟩ := r
    obtain ⟨hkind, hend, -⟩ := Tlv.find_of_front hmi
    have hlen : mi.value.length = 20 := (of_decide_eq_true hkind).2
    rw [hlen, attributeArea, List.length_take, List.length_drop] at hend
    have hbyte : ∀ i ∈ List.range 20, mi.value.getD i 0 = msgBytes.getD (20 + offset + 4 + i) 0 := by
      intro i hi
      have hi := List.mem_range.1 hi
      rw [Tlv.value_of_find hmi, hlen, attributeArea]
      simp only [List.getD, List.getElem?_take, List.getElem?_drop]
      rw [if_pos hi, if_pos (by omega)]
      congr 2
      omega
    have htmp : ¬ (slice msgBytes 0 (20 + offset)).value.length < 20 := by
      rw [value_slice, List.drop_zero, List.length_take]
      omega
    simp only [Option.map_some, value_bind]
    rw [if_neg htmp, value_compareTag, value_slice, List.drop_zero]
    refine decide_eq_decide.2 ?_
    rw [← eq_of_forall_range (hmac _ _) hlen]
    exact forall₂_congr fun i hi => by rw [hbyte i hi]

/-! ### Where they read -/

/-- Where the attribute section ends that the header declares. -/
def sectionEnd (bytes : Bytes) : ℕ := 20 + (loadBE16 (bytes.drop 2)).toNat

theorem reads_readAttribute {last : ℕ} (hP : Covers P last) (out : StunMessage) (aType : UInt16) (aVal aLen : ℕ)
    (h : aVal + aLen ≤ last) : Reads P (readAttribute data out aType aVal aLen) := by
  unfold readAttribute
  refine reads_ite (fun _ => (reads_slice hP h).bind (reads_pure _)) fun _ => ?_
  refine reads_ite (fun _ => reads_ite (fun _ => ?_) fun _ => reads_pure _) fun _ => ?_
  · exact (reads_slice hP (by omega)).bind (reads_pure _)
  refine reads_ite (fun _ => reads_ite (fun _ => ?_) fun _ => reads_pure _) fun _ => ?_
  · exact (reads_loadBE32At hP (by omega)).bind (reads_pure _)
  refine reads_ite (fun _ => reads_ite (fun _ => ?_) fun _ => reads_pure _) fun _ => ?_
  · exact (reads_loadBE32At hP (by omega)).bind (reads_pure _)
  refine reads_ite (fun _ => reads_ite (fun _ => ?_) fun _ => reads_pure _) fun _ => ?_
  · exact (reads_loadBE64At hP (by omega)).bind (reads_pure _)
  refine reads_ite (fun _ => reads_ite (fun _ => ?_) fun _ => reads_pure _) fun _ => ?_
  · exact (reads_loadBE64At hP (by omega)).bind (reads_pure _)
  refine reads_ite (fun _ => reads_pure _) fun _ => ?_
  refine reads_ite (fun _ => reads_ite (fun _ => ?_) fun _ => reads_pure _) fun _ => reads_pure _
  refine (reads_byteAt hP (by omega)).bind ((reads_loadBE16At hP (by omega)).bind ?_)
  exact reads_ite (fun _ => (reads_loadBE32At hP (by omega)).bind (reads_pure _)) fun _ => reads_pure _

/-- **`Decode` reads below the end of the declared section**, and of the datagram. -/
theorem reads_decode (hP : Covers P (min (sectionEnd data) data.length)) : Reads P (decode data) := by
  unfold decode
  refine reads_ite (fun _ => reads_pure _) fun hsize => ?_
  have hheader : Covers P 20 := hP.mono (by unfold sectionEnd; omega)
  refine (reads_loadBE16At hheader (by omega)).bind ((reads_loadBE16At hheader (by omega)).bind
    ((reads_loadBE32At hheader (by omega)).bind ?_))
  refine reads_ite (fun _ => reads_pure _) fun _ => reads_ite (fun _ => reads_pure _) fun harea => ?_
  have hsection : Covers P (20 + (loadBE16At data 2).value.toNat) := by
    rw [value_loadBE16At] at harea ⊢
    exact hP.mono (by unfold sectionEnd; omega)
  exact (reads_slice hheader (by omega)).bind (Tlv.reads_walk hsection (reads_readAttribute hsection) _ _)

theorem reads_compareTag {n : ℕ} (hP : Covers P n) (mac : Bytes) (miValue : ℕ) (is : List ℕ)
    (h : ∀ i ∈ is, miValue + i < n) : Reads P (compareTag msgBytes mac miValue is) := by
  induction is with
  | nil => exact reads_pure _
  | cons i is ih =>
    rw [compareTag]
    refine (reads_byteAt hP (h i List.mem_cons_self)).bind (reads_ite (fun _ => reads_pure _) fun _ => ?_)
    exact ih fun j hj => h j (List.mem_cons_of_mem _ hj)

/-- **`VerifyMessageIntegrity` reads below the end of the declared section**, and of the datagram. -/
theorem reads_verifyMessageIntegrity (hP : Covers P (min (sectionEnd msgBytes) msgBytes.length)) :
    Reads P (verifyMessageIntegrity hmacSha1 msgBytes password) := by
  unfold verifyMessageIntegrity
  refine reads_ite (fun _ => reads_pure _) fun hsize => ?_
  have hheader : Covers P 20 := hP.mono (by unfold sectionEnd; omega)
  refine (reads_loadBE16At hheader (by omega)).bind (reads_ite (fun _ => reads_pure _) fun harea => ?_)
  rw [value_loadBE16At] at harea ⊢
  have hsection : Covers P (20 + (loadBE16 (msgBytes.drop 2)).toNat) :=
    hP.mono (by unfold sectionEnd; omega)
  refine (Tlv.reads_findAt hsection 20).bind ?_
  cases hfind : (Tlv.findAt (fun aType aLen => decide (aType = kStunAttrMessageIntegrity ∧ aLen = 20)) msgBytes
      (20 + (loadBE16 (msgBytes.drop 2)).toNat) 20).value with
  | none => exact reads_pure _
  | some miOffset =>
    obtain ⟨-, hend, hkind⟩ := Tlv.le_of_findAt hfind
    have hlen : (loadBE16 (msgBytes.drop (miOffset + 2))).toNat = 20 := (of_decide_eq_true hkind).2
    refine (reads_slice hsection (by omega)).bind (reads_ite (fun _ => reads_pure _) fun _ => ?_)
    refine reads_compareTag hsection _ _ _ ?_
    intro i hi
    have := List.mem_range.1 hi
    omega

theorem reads_verifyFingerprint (hP : Covers P msgBytes.length) : Reads P (verifyFingerprint msgBytes) := by
  unfold verifyFingerprint
  refine reads_ite (fun _ => reads_pure _) fun hsize => ?_
  refine (reads_loadBE16At hP (by omega)).bind (reads_ite (fun _ => reads_pure _) fun _ => ?_)
  refine (reads_loadBE16At hP (by omega)).bind (reads_ite (fun _ => reads_pure _) fun _ => ?_)
  refine (reads_slice hP (by omega)).bind (reads_ite (fun _ => reads_pure _) fun _ => ?_)
  exact (reads_loadBE32At hP (by omega)).bind (reads_pure _)

end VianiumVoip.Ice.StunReads
