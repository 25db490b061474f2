import VianiumVoip.Ice.AgentRun

/-!
# A check between two agents

Two agents with crossed credentials: what one announces as its own is what the other has for its peer.  A binding
request is signed with the password of its receiver, and so is the response to it; `VerifyMessageIntegrity` takes the
signed front of a datagram apart from what follows it.  `checks_interoperate` says that all of this lines up: every
request that one side emits is answered by the other, and the answer is accepted where the request came from.
-/

namespace VianiumVoip.Ice

open VianiumVoip.Lib VianiumVoip.Lib.Run StunMessageCodec Endpoints

/-! ### Dotted quads -/

/-- The text of an IPv4 address. -/
def dottedQuad (b0 b1 b2 b3 : UInt8) : String :=
  toString b0.toNat ++ "." ++ toString b1.toNat ++ "." ++ toString b2.toNat ++ "." ++ toString b3.toNat

/-- No digit comes next. -/
def NoDigitHead (s : List Char) : Prop := ∀ c, s.head? = some c → c.isDigit = false

theorem foldl_digits_mod (digits : List Char) (n : ℕ) :
    digits.foldl (fun n c => (10 * n + (c.toNat - '0'.toNat)) % 2 ^ 32) (n % 2 ^ 32)
      = Nat.ofDigitChars 10 digits n % 2 ^ 32 := by
  induction digits generalizing n with
  | nil => rfl
  | cons c digits ih =>
    have hstep : (10 * (n % 2 ^ 32) + (c.toNat - '0'.toNat)) % 2 ^ 32 = (10 * n + (c.toNat - '0'.toNat)) % 2 ^ 32 := by
      omega
    rw [List.foldl_cons, hstep, ih, Nat.ofDigitChars_cons]

theorem scanUnsigned_toDigits {n : ℕ} (hn : n < 2 ^ 32) {rest : List Char} (hrest : NoDigitHead rest) :
    scanUnsigned (Nat.toDigits 10 n ++ rest) = some (n, rest) := by
  have hdigits : ∀ c ∈ Nat.toDigits 10 n, c.isDigit = true := fun c hc =>
    Nat.isDigit_of_mem_toDigits (by omega) (by omega) hc
  have htake : (Nat.toDigits 10 n ++ rest).takeWhile Char.isDigit = Nat.toDigits 10 n := by
    rw [List.takeWhile_append_of_pos hdigits]
    cases rest with
    | nil => simp
    | cons c rest => simp [hrest c rfl]
  have hdrop : (Nat.toDigits 10 n ++ rest).dropWhile Char.isDigit = rest := by
    rw [List.dropWhile_append_of_pos hdigits]
    cases rest with
    | nil => simp
    | cons c rest => simp [hrest c rfl]
  have hvalue : (Nat.toDigits 10 n).foldl (fun n c => (10 * n + (c.toNat - '0'.toNat)) % 2 ^ 32) 0 = n := by
    have := foldl_digits_mod (Nat.toDigits 10 n) 0
    rw [Nat.zero_mod, Nat.ofDigitChars_ten_toDigits, Nat.mod_eq_of_lt hn] at this
    exact this
  have hne : Nat.toDigits 10 n ≠ [] := Nat.toDigits_ne_nil
  -- neither white space nor a sign comes first
  obtain ⟨c, cs, hcons⟩ := List.exists_cons_of_ne_nil hne
  have hc : c.isDigit = true := hdigits c (by simp [hcons])
  have hspace : (Nat.toDigits 10 n ++ rest).dropWhile Char.isWhitespace = Nat.toDigits 10 n ++ rest := by
    have hspace : c.isWhitespace = false := by
      simp only [Char.isWhitespace, Bool.or_eq_false_iff, decide_eq_false_iff_not]
      refine ⟨⟨⟨?_, ?_⟩, ?_⟩, ?_⟩ <;> rintro rfl <;> cases hc
    rw [hcons, List.cons_append, List.dropWhile_cons_of_neg (by simp [hspace])]
  have hminus : ∀ s, c :: (cs ++ rest) = '-' :: s → False := by
    intro s heq
    obtain ⟨rfl, -⟩ := List.cons.inj heq
    cases hc
  have hplus : ∀ s, c :: (cs ++ rest) = '+' :: s → False := by
    intro s heq
    obtain ⟨rfl, -⟩ := List.cons.inj heq
    cases hc
  simp only [hcons, List.cons_append] at htake hdrop hvalue hspace
  unfold scanUnsigned
  rw [hcons, List.cons_append, hspace]
  simp (disch := assumption) only [htake, hdrop, hvalue]
  rfl

/-- **The text of an address is scanned back.** -/
theorem scanDottedQuad_dottedQuad (b0 b1 b2 b3 : UInt8) :
    scanDottedQuad (dottedQuad b0 b1 b2 b3) = some [b0, b1, b2, b3] := by
  have hscan : ∀ (b : UInt8) (rest : List Char), NoDigitHead rest →
      scanUnsigned (Nat.toDigits 10 b.toNat ++ rest) = some (b.toNat, rest) := by
    intro b rest hrest
    have := b.toNat_lt
    exact scanUnsigned_toDigits (by omega) hrest
  have hdot : ∀ rest, NoDigitHead ('.' :: rest) := by
    intro rest c hc
    cases hc
    rfl
  have hend : NoDigitHead [] := by
    intro c hc
    cases hc
  have hlist : (dottedQuad b0 b1 b2 b3).toList = Nat.toDigits 10 b0.toNat ++ '.' :: (Nat.toDigits 10 b1.toNat
      ++ '.' :: (Nat.toDigits 10 b2.toNat ++ '.' :: (Nat.toDigits 10 b3.toNat ++ []))) := by
    have hdotList : ".".toList = ['.'] := rfl
    simp only [dottedQuad, Nat.toString_eq_repr, String.toList_append, Nat.toList_repr, hdotList, List.append_assoc,
      List.cons_append, List.nil_append, List.append_nil]
  have hlt : b0.toNat < 256 ∧ b1.toNat < 256 ∧ b2.toNat < 256 ∧ b3.toNat < 256 :=
    ⟨b0.toNat_lt, b1.toNat_lt, b2.toNat_lt, b3.toNat_lt⟩
  unfold scanDottedQuad
  rw [hlist]
  simp only [hscan _ _ (hdot _), hscan _ _ hend, Option.bind_eq_bind, Option.bind_some, if_pos hlt, Nat.toUInt8,
    UInt8.ofNat_toNat]

/-! ### What is signed and read back -/

variable {hmacSha1 : Bytes → Bytes → Vector UInt8 20} {a b : IceAgent}

/-- What follows the header of a datagram fits the length field. -/
def FitsLength (bytes : Bytes) : Prop := bytes.length < 20 + 2 ^ 16

theorem length_mac (hmacSha1 : Bytes → Bytes → Vector UInt8 20) (key data : Bytes) :
    (mac hmacSha1 key data).length = 20 := Vector.length_toList ..

theorem areaLength_of_fitsLength {msg : StunMessage} {password : Bytes} (hid : msg.transactionId.length = 12)
    (h : FitsLength (encode (mac hmacSha1) msg password)) :
    areaLength (encodedAttributes (mac hmacSha1) msg password) < 2 ^ 16 := by
  unfold FitsLength at h
  rw [encode_eq hid, length_frame hid] at h
  omega

/-- The fields of the mapped address. -/
def mapped (msg : StunMessage) : Bool × UInt8 × Bytes × UInt16 :=
  (msg.hasMappedAddress, msg.mappedFamily, msg.mappedAddress, msg.mappedPort)

theorem mapped_readAttribute {tlv : Tlv.Attribute} (h : tlv.type ≠ kStunAttrXorMappedAddress)
    (out : StunMessage) : mapped (readAttribute out tlv) = mapped out := by
  unfold readAttribute
  repeat' apply field_ite mapped <;> intro _
  all_goals first | rfl | contradiction

theorem mapped_foldl {as : List Tlv.Attribute} (h : ∀ tlv ∈ as, tlv.type ≠ kStunAttrXorMappedAddress)
    (out : StunMessage) : mapped (as.foldl readAttribute out) = mapped out := by
  induction as generalizing out with
  | nil => rfl
  | cons tlv as ih =>
    rw [List.foldl_cons, ih (fun x hx => h x (by simp [hx])), mapped_readAttribute (h tlv (by simp))]

theorem mapped_xorMappedAddress {msg : StunMessage} (hlen : 4 ≤ msg.mappedAddress.length) (out : StunMessage) :
    mapped (readAttribute out ⟨kStunAttrXorMappedAddress, xorMappedAddress msg⟩)
      = (true, 0x01, msg.mappedAddress.take 4 ++ out.mappedAddress.drop 4, msg.mappedPort) := by
  have hform : xorMappedAddress msg = 0 :: 0x01 :: (storeBE16
      (msg.mappedPort ^^^ (kStunMagicCookie >>> (16 : UInt32)).toUInt16)
        ++ storeBE32 (loadBE32 msg.mappedAddress ^^^ kStunMagicCookie)) := rfl
  have hsize : 8 ≤ (xorMappedAddress msg).length := by simp [xorMappedAddress]
  have hfamily : (xorMappedAddress msg).getD 1 0 = 0x01 := rfl
  have hport : loadBE16 ((xorMappedAddress msg).drop 2) ^^^ (kStunMagicCookie >>> (16 : UInt32)).toUInt16
      = msg.mappedPort := by
    rw [hform, List.drop_succ_cons, List.drop_succ_cons, List.drop_zero, loadBE16_store, UInt16.xor_assoc,
      UInt16.xor_self, UInt16.xor_zero]
  have haddress : storeBE32 (loadBE32 ((xorMappedAddress msg).drop 4) ^^^ kStunMagicCookie)
      = msg.mappedAddress.take 4 := by
    have hload := loadBE32_store (loadBE32 msg.mappedAddress ^^^ kStunMagicCookie) []
    rw [List.append_nil] at hload
    rw [hform, List.drop_succ_cons, List.drop_succ_cons, drop_storeBE16 _ 0, List.drop_zero, hload,
      UInt32.xor_assoc, UInt32.xor_self, UInt32.xor_zero, storeBE32_load hlen]
  have hread : readAttribute out ⟨kStunAttrXorMappedAddress, xorMappedAddress msg⟩
      = if 8 ≤ (xorMappedAddress msg).length then
          { out with
            hasMappedAddress := true
            mappedFamily := (xorMappedAddress msg).getD 1 0
            mappedPort :=
              loadBE16 ((xorMappedAddress msg).drop 2) ^^^ (kStunMagicCookie >>> (16 : UInt32)).toUInt16
            mappedAddress :=
              if (xorMappedAddress msg).getD 1 0 = 0x01 then
                storeBE32 (loadBE32 ((xorMappedAddress msg).drop 4) ^^^ kStunMagicCookie) ++ out.mappedAddress.drop 4
              else out.mappedAddress }
        else out := rfl
  rw [hread, if_pos hsize, if_pos hfamily, hfamily, hport, haddress]
  rfl

/-- The message of a binding response. -/
def bindingResponse (req : StunMessage) (srcIp : String) (srcPort : ℤ) : StunMessage :=
  match scanDottedQuad srcIp with
  | some address =>
    { messageType := kStunBindingResponse
      transactionId := req.transactionId
      hasMappedAddress := true
      mappedFamily := 0x01
      mappedAddress := address ++ List.replicate 12 0
      mappedPort := UInt16.ofNat (srcPort % 65536).toNat }
  | none => { messageType := kStunBindingResponse, transactionId := req.transactionId }

theorem bindingResponse_fields (req : StunMessage) (srcIp : String) (srcPort : ℤ) :
    (bindingResponse req srcIp srcPort).messageType = kStunBindingResponse ∧
      (bindingResponse req srcIp srcPort).transactionId = req.transactionId ∧
      (bindingResponse req srcIp srcPort).username = [] := by
  unfold bindingResponse
  cases scanDottedQuad srcIp <;> exact ⟨rfl, rfl, rfl⟩

variable {req : StunMessage} {srcIp : String} {srcPort : ℤ}

theorem length_bindingResponse_transactionId (hid : req.transactionId.length = 12) :
    (bindingResponse req srcIp srcPort).transactionId.length = 12 := by
  rw [(bindingResponse_fields req srcIp srcPort).2.1, hid]

theorem buildBindingResponse_eq : b.buildBindingResponse (mac hmacSha1) req srcIp srcPort
    = encode (mac hmacSha1) (bindingResponse req srcIp srcPort) b.localPwd := by
  unfold IceAgent.buildBindingResponse bindingResponse
  cases scanDottedQuad srcIp <;> rfl

theorem areaLength_bindingResponse (hid : req.transactionId.length = 12) (password : Bytes) :
    areaLength (encodedAttributes (mac hmacSha1) (bindingResponse req srcIp srcPort) password) < 2 ^ 16 := by
  have hid' : (bindingResponse req srcIp srcPort).transactionId.length = 12 := length_bindingResponse_transactionId hid
  have hle : (encode (mac hmacSha1) (bindingResponse req srcIp srcPort) password).length
      ≤ (bindingResponse req srcIp srcPort).username.length + 107 := length_encode_le (length_mac hmacSha1) hid'
  rw [(bindingResponse_fields req srcIp srcPort).2.2, List.length_nil] at hle
  apply areaLength_of_fitsLength hid'
  unfold FitsLength
  omega

/-- **What a response says**: the transaction id of its request, and the source if it is a dotted quad. -/
theorem decode_buildBindingResponse (hid : req.transactionId.length = 12) : ∃ read,
    decode (b.buildBindingResponse (mac hmacSha1) req srcIp srcPort) = some read ∧
      read.messageType = kStunBindingResponse ∧ read.transactionId = req.transactionId ∧
      ∀ address, scanDottedQuad srcIp = some address → address.length = 4 →
        read.hasMappedAddress = true ∧ read.mappedFamily = 0x01 ∧ read.mappedAddress.take 4 = address ∧
          read.mappedPort = UInt16.ofNat (srcPort % 65536).toNat := by
  obtain ⟨htype, hsame, -⟩ := bindingResponse_fields req srcIp srcPort
  have hid' : (bindingResponse req srcIp srcPort).transactionId.length = 12 := length_bindingResponse_transactionId hid
  rw [buildBindingResponse_eq]
  refine ⟨_, decode_encode_of_areaLength hid' (areaLength_bindingResponse hid b.localPwd), ?_, ?_, ?_⟩
  · rw [foldl_readAttribute_messageType, htype]
  · rw [foldl_readAttribute_transactionId, hsame]
  intro address hscan haddress
  set resp := bindingResponse req srcIp srcPort with hresp
  have hform : resp =
      { messageType := kStunBindingResponse
        transactionId := req.transactionId
        hasMappedAddress := true
        mappedFamily := 0x01
        mappedAddress := address ++ List.replicate 12 0
        mappedPort := UInt16.ofNat (srcPort % 65536).toNat } := by
    rw [hresp, bindingResponse, hscan]
  have hfields : fieldAttributes resp = [⟨kStunAttrXorMappedAddress, xorMappedAddress resp⟩] := by
    rw [hform]
    rfl
  -- behind the address there are only MESSAGE-INTEGRITY and FINGERPRINT
  have hbehind : ∃ rest, encodedAttributes (mac hmacSha1) resp b.localPwd
      = ⟨kStunAttrXorMappedAddress, xorMappedAddress resp⟩ :: rest ∧
        ∀ tlv ∈ rest, tlv.type ≠ kStunAttrXorMappedAddress := by
    refine ⟨_, by rw [encodedAttributes, signedAttributes, hfields, List.append_assoc, List.singleton_append], ?_⟩
    intro tlv htlv
    simp only [List.mem_append, List.mem_ite_nil_right, List.mem_singleton] at htlv
    rcases htlv with ⟨-, rfl⟩ | rfl <;> dsimp only <;> decide
  obtain ⟨rest, hattributes, hrest⟩ := hbehind
  have hlen : 4 ≤ resp.mappedAddress.length := by
    rw [hform, List.length_append, haddress]
    omega
  have hmapped : mapped ((encodedAttributes (mac hmacSha1) resp b.localPwd).foldl readAttribute
      { messageType := resp.messageType, transactionId := resp.transactionId })
        = (true, 0x01, address ++ List.replicate 12 0, UInt16.ofNat (srcPort % 65536).toNat) := by
    rw [hattributes, List.foldl_cons, mapped_foldl hrest, mapped_xorMappedAddress hlen, hform,
      List.take_left' haddress]
    rfl
  obtain ⟨hhas, hfamily, hvalue, hport⟩ : _ ∧ _ ∧ _ ∧ _ := by
    simpa only [mapped, Prod.mk.injEq] using hmapped
  exact ⟨hhas, hfamily, by rw [hvalue, List.take_left' haddress], hport⟩

theorem verify_buildBindingResponse (hid : req.transactionId.length = 12) (hpwd : b.localPwd ≠ []) :
    verifyMessageIntegrity (mac hmacSha1) (b.buildBindingResponse (mac hmacSha1) req srcIp srcPort) b.localPwd = true := by
  rw [buildBindingResponse_eq]
  exact verifyMessageIntegrity_encode (length_mac hmacSha1) (length_bindingResponse_transactionId hid) hpwd
    (areaLength_bindingResponse hid b.localPwd)

/-! ### The check -/

/-- What one agent has as its own credentials, the other has for its peer. -/
structure Crossed (a b : IceAgent) : Prop where
  localUfrag : b.localUfrag = a.remoteUfrag
  localPwd : b.localPwd = a.remotePwd
  remoteUfrag : b.remoteUfrag = a.localUfrag
  remotePwd : b.remotePwd = a.localPwd

/-- The agent in a later state. -/
def later (hmacSha1 : Bytes → Bytes → Vector UInt8 20) (a : IceAgent) (calls : List AgentCall) : IceAgent :=
  run (IceAgent.call (mac hmacSha1)) a calls

/-- **A check succeeds**: `b` accepts the request of `a` from this source and answers it, and `a` accepts the answer
from the address of any pair it knows by then. -/
structure ChecksThrough (hmacSha1 : Bytes → Bytes → Vector UInt8 20) (a b : IceAgent) (request : Bytes) (srcIp : String)
    (srcPort : ℤ) : Prop where
  accepted : (b.processIncoming (mac hmacSha1) srcIp srcPort request).2.1 ≠ .other
  answered : (b.processIncoming (mac hmacSha1) srcIp srcPort request).2.2 ≠ []
  verified : ∀ calls ip port i, (later hmacSha1 a calls).findPair ip port = some i →
    let response := (b.processIncoming (mac hmacSha1) srcIp srcPort request).2.2
    verifyMessageIntegrity (mac hmacSha1) response (later hmacSha1 a calls).remotePwd = true ∧
      (((later hmacSha1 a calls).processIncoming (mac hmacSha1) ip port response).1.pairs.getD i {}).succeeded = true
  response : ∃ read, decode (b.processIncoming (mac hmacSha1) srcIp srcPort request).2.2 = some read ∧
    read.messageType = kStunBindingResponse ∧ read.transactionId = (request.drop 8).take 12 ∧
    ∀ b0 b1 b2 b3 : UInt8, srcIp = dottedQuad b0 b1 b2 b3 → 0 ≤ srcPort ∧ srcPort < 65536 →
      read.hasMappedAddress = true ∧ read.mappedFamily = 0x01 ∧ read.mappedAddress.take 4 = [b0, b1, b2, b3] ∧
        (read.mappedPort.toNat : ℤ) = srcPort

theorem Processed.remotePwd {s s' : IceAgent} {bytes response : Bytes} {result : ProcessResult}
    (h : s.Processed (mac hmacSha1) srcIp srcPort bytes s' result response) : s'.remotePwd = s.remotePwd := by
  cases h <;> rfl

theorem later_remotePwd (hmacSha1 : Bytes → Bytes → Vector UInt8 20) (a : IceAgent) (calls : List AgentCall) :
    (later hmacSha1 a calls).remotePwd = a.remotePwd := by
  have hstep : ∀ (s : IceAgent) (c : AgentCall), s.remotePwd = a.remotePwd →
      (s.call (mac hmacSha1) c).remotePwd = a.remotePwd := by
    intro s c h
    rw [← h]
    cases c with
    | addRemoteCandidate c =>
      simp only [IceAgent.call, IceAgent.addRemoteCandidate]
      split_ifs <;> rfl
    | getBindingRequestsToSend ids => rfl
    | processIncoming srcIp srcPort bytes =>
      exact Processed.remotePwd (s.processIncoming_processed (mac hmacSha1) srcIp srcPort bytes)
  exact invariant_run_of_step hstep calls rfl

variable {bytes : Bytes} {msg : StunMessage} {s : IceAgent} {i : ℕ}

theorem processIncoming_request (hdecode : decode bytes = some msg) (htype : msg.messageType = kStunBindingRequest)
    (hverify : verifyMessageIntegrity (mac hmacSha1) bytes s.localPwd = true) :
    (s.processIncoming (mac hmacSha1) srcIp srcPort bytes).2.1 ≠ .other ∧
      (s.processIncoming (mac hmacSha1) srcIp srcPort bytes).2.2
        = s.buildBindingResponse (mac hmacSha1) msg srcIp srcPort := by
  have hprocessed : ProcessResult.bindingRequestProcessed ≠ .other := by decide
  have hestablished : ProcessResult.connectivityEstablished ≠ .other := by decide
  unfold IceAgent.processIncoming
  rw [hdecode]
  simp only
  rw [if_pos htype, if_pos hverify]
  cases s.findPair srcIp srcPort with
  | none => exact ⟨hprocessed, rfl⟩
  | some i =>
    simp only
    split_ifs
    · exact ⟨hestablished, rfl⟩
    · exact ⟨hprocessed, rfl⟩

theorem succeeded_of_response (hdecode : decode bytes = some msg) (htype : msg.messageType = kStunBindingResponse)
    (hverify : verifyMessageIntegrity (mac hmacSha1) bytes s.remotePwd = true)
    (hpair : s.findPair srcIp srcPort = some i) :
    ((s.processIncoming (mac hmacSha1) srcIp srcPort bytes).1.pairs.getD i {}).succeeded = true := by
  have hi := IceAgent.length_of_findPair hpair
  have hmark : ((s.markSucceeded i).pairs.getD i {}).succeeded = true := by
    simp [IceAgent.markSucceeded, List.getD_eq_getElem?_getD, List.getElem?_eq_getElem hi]
  unfold IceAgent.processIncoming
  rw [hdecode]
  simp only
  rw [htype, if_neg (by decide), if_pos rfl, if_pos hverify, hpair]
  simp only
  split_ifs <;> exact hmark

theorem fitsLength_buildBindingRequest {useCandidate : Bool} {id : Bytes} (hid : id.length = 12)
    (h : a.remoteUfrag.length + a.localUfrag.length ≤ 65447) :
    FitsLength (a.buildBindingRequest (mac hmacSha1) useCandidate id) := by
  have hle : (a.buildBindingRequest (mac hmacSha1) useCandidate id).length
      ≤ a.remoteUfrag.length + a.localUfrag.length + 108 := IceAgent.length_buildBindingRequest_le hid
  unfold FitsLength
  omega

/-- A request that is signed with the password of its receiver goes through. -/
theorem checksThrough_encode (hpwd : a.remotePwd ≠ []) (hlocal : b.localPwd = a.remotePwd)
    (hid : msg.transactionId.length = 12) (htype : msg.messageType = kStunBindingRequest)
    (hfit : FitsLength (encode (mac hmacSha1) msg a.remotePwd)) (srcIp : String) (srcPort : ℤ) :
    ChecksThrough hmacSha1 a b (encode (mac hmacSha1) msg a.remotePwd) srcIp srcPort := by
  have harea := areaLength_of_fitsLength hid hfit
  have hwire : ((encode (mac hmacSha1) msg a.remotePwd).drop 8).take 12 = msg.transactionId := by
    rw [encode_eq hid]
    exact (framed_frame hid harea).transactionId
  -- the receiver reads the request, and verifies it under its own password
  have hdecode := decode_encode_of_areaLength hid harea
  set read := (encodedAttributes (mac hmacSha1) msg a.remotePwd).foldl readAttribute
    { messageType := msg.messageType, transactionId := msg.transactionId } with hread
  have hreadType : read.messageType = kStunBindingRequest := by
    rw [hread, foldl_readAttribute_messageType]
    exact htype
  have hreadId : read.transactionId = msg.transactionId := by
    rw [hread, foldl_readAttribute_transactionId]
  have hverify : verifyMessageIntegrity (mac hmacSha1) (encode (mac hmacSha1) msg a.remotePwd) b.localPwd = true := by
    rw [hlocal]
    exact verifyMessageIntegrity_encode (length_mac hmacSha1) hid hpwd harea
  obtain ⟨haccepted, hresponse⟩ : _ ∧ (b.processIncoming (mac hmacSha1) srcIp srcPort _).2.2 = _ :=
    processIncoming_request hdecode hreadType hverify
  -- the sender reads the response, and verifies it under the same password
  have hreadLength : read.transactionId.length = 12 := by rw [hreadId, hid]
  obtain ⟨answer, hanswer, hanswerType, hanswerId, hmapped⟩ : ∃ answer,
      decode (b.buildBindingResponse (mac hmacSha1) read srcIp srcPort) = some answer ∧ _ :=
    decode_buildBindingResponse hreadLength
  have hverifyAnswer : verifyMessageIntegrity (mac hmacSha1) (b.buildBindingResponse (mac hmacSha1) read srcIp srcPort)
      b.localPwd = true := verify_buildBindingResponse hreadLength (by rw [hlocal]; exact hpwd)
  refine ⟨haccepted, ?_, ?_, ?_⟩
  · rw [hresponse]
    intro hnil
    rw [hnil] at hanswer
    cases hanswer
  · intro calls ip port i hpair
    simp only
    rw [hresponse]
    have hsigned : verifyMessageIntegrity (mac hmacSha1) (b.buildBindingResponse (mac hmacSha1) read srcIp srcPort)
        (later hmacSha1 a calls).remotePwd = true := by
      rw [later_remotePwd, ← hlocal]
      exact hverifyAnswer
    exact ⟨hsigned, succeeded_of_response hanswer hanswerType hsigned hpair⟩
  · rw [hresponse]
    refine ⟨answer, hanswer, hanswerType, by rw [hanswerId, hreadId, hwire], ?_⟩
    rintro b0 b1 b2 b3 rfl hport
    obtain ⟨hhas, hfamily, haddress, hmappedPort⟩ := hmapped _ (scanDottedQuad_dottedQuad b0 b1 b2 b3) rfl
    refine ⟨hhas, hfamily, haddress, ?_⟩
    rw [hmappedPort, UInt16.toNat_ofNat']
    omega

/-- **Checks between two agents with crossed credentials go through**: every request that one of them emits and that
fits its length field, from any source. -/
theorem checks_interoperate (hmacSha1 : Bytes → Bytes → Vector UInt8 20) (hcrossed : Crossed a b)
    (hpwd : a.remotePwd ≠ []) (ids : ℕ → Vector UInt8 12) :
    ∀ d ∈ (a.getBindingRequestsToSend (mac hmacSha1) fun i => (ids i).toList).2, FitsLength d.2 →
      ∀ srcIp srcPort, ChecksThrough hmacSha1 (a.getBindingRequestsToSend (mac hmacSha1) fun i => (ids i).toList).1 b
        d.2 srcIp srcPort := by
  intro d hd hfit srcIp srcPort
  obtain ⟨k, p, -, rfl⟩ := IceAgent.mem_getBindingRequestsToSend.1 hd
  have hid : (ids k).toList.length = 12 := Vector.length_toList ..
  -- emitting the requests changes none of the credentials
  exact checksThrough_encode (a := (a.getBindingRequestsToSend (mac hmacSha1) fun i => (ids i).toList).1) hpwd
    hcrossed.localPwd hid rfl hfit srcIp srcPort

/-- A controlling agent with a pair to check. -/
def sampleChecker : IceAgent :=
  { IceAgent.create .controlling (ascii "left") (ascii "secret") (ascii "right") (ascii "password") 1 with
    pairs := [{ target := { ip := "10.0.0.1", port := 3478 }, succeeded := true }] }

def sampleResponder : IceAgent :=
  IceAgent.create .controlled (ascii "right") (ascii "password") (ascii "left") (ascii "secret") 2

theorem checks_interoperate_sample :
    ∃ d ∈ (sampleChecker.getBindingRequestsToSend (mac fun _ _ => Vector.replicate 20 7)
        fun i => (Vector.replicate 12 (UInt8.ofNat i)).toList).2,
      ChecksThrough (fun _ _ => Vector.replicate 20 7)
        (sampleChecker.getBindingRequestsToSend (mac fun _ _ => Vector.replicate 20 7)
          fun i => (Vector.replicate 12 (UInt8.ofNat i)).toList).1 sampleResponder d.2 "192.168.1.20" 50000 := by
  refine ⟨_, List.mem_cons_self, ?_⟩
  exact checks_interoperate (a := sampleChecker) (b := sampleResponder) (fun _ _ => Vector.replicate 20 7)
    ⟨rfl, rfl, rfl, rfl⟩ (by decide) (fun i => Vector.replicate 12 (UInt8.ofNat i)) _ List.mem_cons_self
    (by unfold FitsLength; decide +kernel) _ _

end VianiumVoip.Ice
