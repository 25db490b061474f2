import VianiumVoip.Tgcalls.IcePhase
import VianiumVoip.Ice.Integrity
import VianiumVoip.Turn.Client
import VianiumVoip.Srtp.SenderRun

/-!
# Where a datagram came from

A datagram is pushed to the connection with its source: that of the reflector session, or the XOR-PEER-ADDRESS of a
Data Indication.  The push overload frames it again and drops the source; the agent is told the address of the first
reflector.

`source_preserved_iff` says when this is the source all the same, and when a binding response marks the pair that it
came from.
-/

namespace VianiumVoip.Tgcalls

open VianiumVoip.Lib VianiumVoip.Dtls VianiumVoip.Ice VianiumVoip.Ice.StunMessageCodec

/-- The first byte of a STUN message. -/
def IsStun (payload : Bytes) : Prop := ∃ firstByte rest, payload = firstByte :: rest ∧ firstByte ≤ 0x03

namespace IceConnection

variable (C : Crypto)

/-- The data callback of a TURN client, behind `OnInboundUdp`. -/
def onTurnDatagram (c : IceConnection) (client : Turn.TurnClient) (bytes : Bytes) (draws : InitiateDraws)
    (audio : TgcallsConnection.AudioInput) : Turn.TurnClient × IceConnection × Effects :=
  let (client, inbound) := client.onInboundUdp bytes
  match inbound.delivered with
  | none => (client, c, {})
  | some (srcIp, srcPort, data) => (client, c.onReflectorDatagramFrom C srcIp srcPort data draws audio)

/-- A binding response that the agent accepts. -/
def ValidResponse (agent : IceAgent) (bytes : Bytes) : Prop :=
  (∃ msg, decode bytes = some msg ∧ msg.messageType = kStunBindingResponse) ∧
    verifyMessageIntegrity C.srtp.hmacSha1 bytes agent.remotePwd = true

/-- The agent is given a STUN datagram with the source it is pushed with. -/
def PreservesSource (c : IceConnection) (srcIp : String) (srcPort : ℤ) (payload : Bytes) (draws : InitiateDraws)
    (audio : TgcallsConnection.AudioInput) : Prop :=
  c.iceAgent.isSome = true → IsStun payload →
    (c.onReflectorDatagramFrom C srcIp srcPort payload draws audio).2.stun = some (srcIp, srcPort, payload)

/-- A valid response from a known candidate marks its pair and no other. -/
def MarksItsPair (c : IceConnection) (srcIp : String) (srcPort : ℤ) (payload : Bytes) (draws : InitiateDraws)
    (audio : TgcallsConnection.AudioInput) : Prop :=
  ∀ agent i, c.iceAgent = some agent → IsStun payload → ValidResponse C agent payload →
    agent.findPair srcIp srcPort = some i →
      ∃ agent', (c.onReflectorDatagramFrom C srcIp srcPort payload draws audio).1.iceAgent = some agent' ∧
        agent'.pairs = (agent.markSucceeded i).pairs

/-- The XOR-PEER-ADDRESS as text. -/
def dottedQuad (address : Bytes) : String := ".".intercalate (address.map fun b => toString b.toNat)

/-- A Data Indication that is delivered, with its IPv4 peer and its data. -/
structure DataIndication (client : Turn.TurnClient) (bytes : Bytes) (msg : Turn.TurnMessage) (peer : Turn.TurnAddress)
    (data : Bytes) : Prop where
  callback : client.onData = true
  decoded : Turn.decodeMessage bytes = some msg
  cls : Turn.turnClassOf msg.type = Turn.kClassIndication
  method : Turn.turnMethodOf msg.type = Turn.kMethodData
  peer_first : msg.xorPeers.head? = some peer
  family : peer.family = Turn.kFamilyIPv4
  length_address : peer.address.length = 4
  data_eq : msg.data = some data
  data_ne : data ≠ []

/-- The agent is given the STUN message of a Data Indication with the peer as its source. -/
def PreservesPeer (c : IceConnection) (client : Turn.TurnClient) (bytes : Bytes) (draws : InitiateDraws)
    (audio : TgcallsConnection.AudioInput) : Prop :=
  ∀ msg peer data, DataIndication client bytes msg peer data → c.iceAgent.isSome = true → IsStun data →
    (c.onTurnDatagram C client bytes draws audio).2.2.stun
      = some (dottedQuad peer.address, (peer.port.toNat : ℤ), data)

/-- There is nothing to mark: the pair of the source has succeeded, and so has that of the first reflector, if there
is one. -/
def NothingToMark (c : IceConnection) (srcIp : String) (srcPort : ℤ) (payload : Bytes) : Prop :=
  ∀ agent i, c.iceAgent = some agent → IsStun payload → ValidResponse C agent payload →
    agent.findPair srcIp srcPort = some i → (agent.pairs.getD i {}).succeeded = true ∧
      ∀ j, agent.findPair c.assumedSource.1 c.assumedSource.2 = some j → (agent.pairs.getD j {}).succeeded = true

variable {C} {c : IceConnection} {agent : IceAgent} {srcIp : String} {srcPort : ℤ} {payload : Bytes}
  {draws : InitiateDraws} {audio : TgcallsConnection.AudioInput} {i j : ℕ}

/-! ### The way to the agent -/

/-- The frame that the push overload puts around a payload is taken off again. -/
theorem tryStripPeerTag_reframed (payload : Bytes) : tryStripPeerTag (List.replicate 16 0 ++ payload) = some payload := by
  have hlen : ¬ (List.replicate 16 0 ++ payload).length < kPeerTagSize := by
    rw [List.length_append, List.length_replicate, kPeerTagSize]
    omega
  rw [tryStripPeerTag, if_neg hlen]
  exact congrArg some (List.drop_left' List.length_replicate)

/-- **What the agent is given**: the datagram, from the first reflector. -/
theorem onReflectorDatagramFrom_of_stun (hagent : c.iceAgent = some agent) (hstun : IsStun payload) :
    (c.onReflectorDatagramFrom C srcIp srcPort payload draws audio).2.stun
        = some (c.assumedSource.1, c.assumedSource.2, payload) ∧
      (c.onReflectorDatagramFrom C srcIp srcPort payload draws audio).1.iceAgent = some
        (agent.processIncoming C.srtp.hmacSha1 c.assumedSource.1 c.assumedSource.2 payload).1 := by
  obtain ⟨firstByte, rest, rfl, hfirst⟩ := hstun
  have hne : ¬ (firstByte :: rest) = [] := by simp
  simp only [onReflectorDatagramFrom, if_neg hne, onReflectorDatagram, tryStripPeerTag_reframed, if_pos hfirst,
    onStunDatagram, hagent, and_self]

theorem preservesSource_iff : PreservesSource C c srcIp srcPort payload draws audio ↔
    (c.iceAgent.isSome = true → IsStun payload → c.assumedSource = (srcIp, srcPort)) := by
  unfold PreservesSource
  constructor
  · intro h hsome hstun
    obtain ⟨agent, hagent⟩ := Option.isSome_iff_exists.1 hsome
    have hgiven := h hsome hstun
    rw [(onReflectorDatagramFrom_of_stun hagent hstun).1] at hgiven
    obtain ⟨hip, hport, -⟩ : c.assumedSource.1 = srcIp ∧ c.assumedSource.2 = srcPort ∧ True := by
      simpa using hgiven
    exact Prod.ext hip hport
  · intro h hsome hstun
    obtain ⟨agent, hagent⟩ := Option.isSome_iff_exists.1 hsome
    rw [(onReflectorDatagramFrom_of_stun hagent hstun).1, h hsome hstun]

/-! ### The pair that is marked -/

theorem processIncoming_pairs (h : ValidResponse C agent payload) (ip : String) (port : ℤ) :
    (agent.processIncoming C.srtp.hmacSha1 ip port payload).1.pairs =
      match agent.findPair ip port with
      | some j => (agent.markSucceeded j).pairs
      | none => agent.pairs := by
  obtain ⟨⟨msg, hmsg, htype⟩, hverify⟩ := h
  have hne : ¬ msg.messageType = kStunBindingRequest := by
    rw [htype]
    decide
  unfold IceAgent.processIncoming
  rw [hmsg]
  simp only
  rw [if_neg hne, if_pos htype, if_pos hverify]
  cases agent.findPair ip port with
  | none => rfl
  | some j =>
    simp only
    split_ifs <;> rfl

theorem succeeded_markSucceeded (hj : j < agent.pairs.length) (k : ℕ) :
    ((agent.markSucceeded j).pairs.getD k {}).succeeded = ((agent.pairs.getD k {}).succeeded || decide (k = j)) := by
  simp only [IceAgent.markSucceeded, List.getD_eq_getElem?_getD, List.getElem?_modify]
  by_cases hk : j = k
  · subst hk
    rw [List.getElem?_eq_getElem hj]
    simp
  · have hk' : ¬ k = j := fun h => hk h.symm
    cases agent.pairs[k]? <;> simp [hk, hk']

/-- Marking two pairs comes to the same when they are one pair, or have both succeeded before. -/
theorem markSucceeded_pairs_eq_iff (hi : i < agent.pairs.length) (hj : j < agent.pairs.length) :
    (agent.markSucceeded j).pairs = (agent.markSucceeded i).pairs ↔
      j = i ∨ (agent.pairs.getD i {}).succeeded = true ∧ (agent.pairs.getD j {}).succeeded = true := by
  constructor
  · intro h
    by_cases hij : j = i
    · exact .inl hij
    · have hij' : ¬ i = j := fun h => hij h.symm
      have hati := congrArg (fun pairs : List Pair => (pairs.getD i {}).succeeded) h
      have hatj := congrArg (fun pairs : List Pair => (pairs.getD j {}).succeeded) h
      simp only [succeeded_markSucceeded hi, succeeded_markSucceeded hj, hij, hij', decide_false, decide_true,
        Bool.or_false, Bool.or_true] at hati hatj
      exact .inr ⟨hati, hatj.symm⟩
  · rintro (rfl | ⟨hsucceeded, hsucceeded'⟩)
    · rfl
    · rw [(IceAgent.markSucceeded_eq_self_iff hi).2 hsucceeded, (IceAgent.markSucceeded_eq_self_iff hj).2 hsucceeded']

theorem pairs_eq_markSucceeded_iff (hi : i < agent.pairs.length) :
    agent.pairs = (agent.markSucceeded i).pairs ↔ (agent.pairs.getD i {}).succeeded = true := by
  rw [← IceAgent.markSucceeded_eq_self_iff hi]
  constructor
  · intro h
    have hpairs : agent.markSucceeded i = { agent with pairs := (agent.markSucceeded i).pairs } := rfl
    rw [hpairs, ← h]
  · intro h
    rw [h]

theorem source_eq_of_findPair {ip : String} {port : ℤ} (h : agent.findPair srcIp srcPort = some i)
    (h' : agent.findPair ip port = some i) : (ip, port) = (srcIp, srcPort) := by
  have htarget := IceAgent.findPair_target h
  rw [IceAgent.findPair_target h'] at htarget
  cases htarget
  rfl

/-- The pair of the source is marked when the source is that of the first reflector, or there is nothing to mark. -/
theorem marksItsPair_iff : MarksItsPair C c srcIp srcPort payload draws audio ↔
    c.assumedSource = (srcIp, srcPort) ∨ NothingToMark C c srcIp srcPort payload := by
  constructor
  · intro h
    by_cases hsource : c.assumedSource = (srcIp, srcPort)
    · exact .inl hsource
    refine .inr ?_
    intro agent i hagent hstun hvalid hpair
    have hi := IceAgent.length_of_findPair hpair
    obtain ⟨agent', hagent', hpairs⟩ := h agent i hagent hstun hvalid hpair
    rw [(onReflectorDatagramFrom_of_stun hagent hstun).2, Option.some.injEq] at hagent'
    rw [← hagent', processIncoming_pairs hvalid] at hpairs
    cases hfirst : agent.findPair c.assumedSource.1 c.assumedSource.2 with
    | none =>
      rw [hfirst] at hpairs
      exact ⟨(pairs_eq_markSucceeded_iff hi).1 hpairs, fun j hj => by cases hj⟩
    | some j =>
      rw [hfirst] at hpairs
      rcases (markSucceeded_pairs_eq_iff hi (IceAgent.length_of_findPair hfirst)).1 hpairs with rfl | ⟨hsame, hother⟩
      · exact absurd (source_eq_of_findPair hpair hfirst) hsource
      · refine ⟨hsame, ?_⟩
        rintro k ⟨⟩
        exact hother
  · intro h agent i hagent hstun hvalid hpair
    refine ⟨_, (onReflectorDatagramFrom_of_stun hagent hstun).2, ?_⟩
    rw [processIncoming_pairs hvalid]
    rcases h with hsource | hnothing
    · rw [hsource, hpair]
    · have hi := IceAgent.length_of_findPair hpair
      obtain ⟨hsucceeded, hfirst⟩ := hnothing agent i hagent hstun hvalid hpair
      cases hpair' : agent.findPair c.assumedSource.1 c.assumedSource.2 with
      | none => exact (pairs_eq_markSucceeded_iff hi).2 hsucceeded
      | some j =>
        have hj := IceAgent.length_of_findPair hpair'
        exact (markSucceeded_pairs_eq_iff hi hj).2 (.inr ⟨hsucceeded, hfirst j hpair'⟩)

/-! ### Data Indications -/

/-- A Data Indication is pushed with its peer as the source. -/
theorem onTurnDatagram_of_dataIndication {client : Turn.TurnClient} {bytes data : Bytes} {msg : Turn.TurnMessage}
    {peer : Turn.TurnAddress} (h : DataIndication client bytes msg peer data) :
    (c.onTurnDatagram C client bytes draws audio).2
      = c.onReflectorDatagramFrom C (dottedQuad peer.address) peer.port.toNat data draws audio := by
  have hsource : Turn.peerSource msg.xorPeers = (dottedQuad peer.address, peer.port.toNat) := by
    rw [Turn.peerSource, h.peer_first]
    exact if_pos ⟨h.family, h.length_address⟩
  unfold onTurnDatagram Turn.TurnClient.onInboundUdp
  rw [if_pos (Turn.TurnClient.looksLikeStunOrTurn_of_decodeMessage h.decoded), h.decoded]
  simp only [h.cls, h.method, and_self, if_true, h.data_eq, if_neg h.data_ne, hsource, h.callback]

/-- **When the source is preserved.**  The agent is given a STUN datagram with the source it is pushed with exactly when
this is the address of the first reflector, and so is that of a Data Indication's peer; and a valid response marks the
pair that it came from exactly when that is so, or there is nothing to mark. -/
theorem source_preserved_iff (C : Crypto) (c : IceConnection) (srcIp : String) (srcPort : ℤ) (payload : Bytes)
    (client : Turn.TurnClient) (bytes : Bytes) (draws : InitiateDraws) (audio : TgcallsConnection.AudioInput) :
    (PreservesSource C c srcIp srcPort payload draws audio ↔
        (c.iceAgent.isSome = true → IsStun payload → c.assumedSource = (srcIp, srcPort))) ∧
      (MarksItsPair C c srcIp srcPort payload draws audio ↔
        c.assumedSource = (srcIp, srcPort) ∨ NothingToMark C c srcIp srcPort payload) ∧
      (PreservesPeer C c client bytes draws audio ↔
        ∀ msg peer data, DataIndication client bytes msg peer data → c.iceAgent.isSome = true → IsStun data →
          c.assumedSource = (dottedQuad peer.address, (peer.port.toNat : ℤ))) := by
  refine ⟨preservesSource_iff, marksItsPair_iff, ?_⟩
  have hpushed : ∀ msg peer data, DataIndication client bytes msg peer data → c.iceAgent.isSome = true → IsStun data →
      ((c.onTurnDatagram C client bytes draws audio).2.2.stun
          = some (dottedQuad peer.address, (peer.port.toNat : ℤ), data) ↔
        c.assumedSource = (dottedQuad peer.address, (peer.port.toNat : ℤ))) := by
    intro msg peer data h hsome hstun
    have hiff : PreservesSource C c (dottedQuad peer.address) peer.port.toNat data draws audio ↔ _ :=
      preservesSource_iff
    rw [onTurnDatagram_of_dataIndication h]
    simpa only [PreservesSource, hsome, hstun, forall_true_left] using hiff
  constructor
  · intro h msg peer data hdata hsome hstun
    exact (hpushed msg peer data hdata hsome hstun).1 (h msg peer data hdata hsome hstun)
  · intro h msg peer data hdata hsome hstun
    exact (hpushed msg peer data hdata hsome hstun).2 (h msg peer data hdata hsome hstun)

/-! ### Two reflectors -/

/-- HMAC-SHA1 of the response below, under the password of the peer. -/
def respondingCrypto : Srtp.Crypto :=
  { Srtp.sampleCrypto with
    hmacSha1 := fun key msg => toBE 20 <|
      if key = ascii "remote password" ∧ ofBE msg = 0x010100182112a4420102030405060708090a0b0c then
        0xb1d7821fe9b1cfdf549dab796a534452469d10e5
      else 0
    length_hmacSha1 := fun _ _ => length_toBE .. }

/-- The response of the peer to a check, signed by it. -/
def sampleResponse : Bytes :=
  storeBE16 kStunBindingResponse ++ storeBE16 24 ++ storeBE32 kStunMagicCookie
    ++ [1, 2, 3, 4, 5, 6, 7, 8, 9, 10, 11, 12] ++ storeBE16 kStunAttrMessageIntegrity ++ storeBE16 20
    ++ toBE 20 0xb1d7821fe9b1cfdf549dab796a534452469d10e5

/-- A connection over two reflectors, whose agent checks a candidate on each. -/
def twoReflectors : IceConnection :=
  { isOutgoing := true, sharedKey := [], hasSignalingOut := true, iceStarted := true
    reflectors := [{ ip := "10.0.0.1", port := 1400 }, { ip := "10.0.0.2", port := 1400 }]
    iceAgent := some
      { role := .controlling, localUfrag := ascii "left", localPwd := ascii "local password"
        remoteUfrag := ascii "right", remotePwd := ascii "remote password", tieBreak := 1
        pairs := [{ target := { ip := "10.0.0.1", port := 1400 } }, { target := { ip := "10.0.0.2", port := 1400 } }] } }

/-- **A response over the second reflector marks the pair of the first one.** -/
theorem second_reflector_marks_first :
    let draws : InitiateDraws :=
      { random := List.replicate 32 0, ecdhPrivate := List.replicate 32 0, ecdhPublic := List.replicate 65 0
        random_length := rfl, ecdhPrivate_length := rfl, ecdhPublic_length := rfl }
    let audio : TgcallsConnection.AudioInput := { opened := true, codecInit := true }
    let C : Crypto := ⟨nullCrypto, respondingCrypto⟩
    ¬ PreservesSource C twoReflectors "10.0.0.2" 1400 sampleResponse draws audio ∧
      ((twoReflectors.onReflectorDatagramFrom C "10.0.0.2" 1400 sampleResponse draws audio).1.iceAgent.map
        fun agent => agent.pairs.map fun p => (p.target.ip, p.succeeded))
        = some [("10.0.0.1", true), ("10.0.0.2", false)] := by
  intro draws audio C
  have hstun : IsStun sampleResponse := ⟨0x01, sampleResponse.drop 1, by decide +kernel, by decide⟩
  refine ⟨?_, by decide +kernel⟩
  intro h
  have hsource := preservesSource_iff.1 h rfl hstun
  exact absurd hsource (by decide)

end IceConnection

end VianiumVoip.Tgcalls
