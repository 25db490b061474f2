import VianiumVoip.Dtls.Deliveries
import VianiumVoip.Dtls.FingerprintText
import VianiumVoip.Lib.Sha256
import VianiumVoip.Tgcalls.Connection

/-!
# The announced fingerprint and the certificate that is sent

A connection announces the SHA-256 fingerprint of its certificate in `InitialSetup`, and its DTLS session sends a
certificate after `ServerHelloDone`.  Neither keeps the certificate: `ToSha256Fingerprint` and
`BuildCertificateBody` both build one, each from a serial, a clock reading and a signature of its own.  So the peer
sees the announced certificate exactly when the platform answers the two calls alike (`announced_iff`).
-/

namespace VianiumVoip.Dtls

open VianiumVoip.Lib VianiumVoip.Lib.Run VianiumVoip.Cert

namespace DtlsClientSession

/-! ### The Certificate messages of a session -/

variable (C : Crypto)

/-- The body of the Certificate message that a delivery makes the session send. -/
def certificateSent (s : DtlsClientSession) : Delivery → Option Bytes
  | .handshake _ msgType _ =>
    if s.state ≠ .failed ∧ msgType = kHsServerHelloDone then some (s.buildCertificateBody C).1 else none
  | _ => none

/-- What the platform answers when that certificate is built. -/
def certificateDraw (s : DtlsClientSession) : Delivery → Option (Option CertificateFields)
  | .handshake _ msgType _ =>
    if s.state ≠ .failed ∧ msgType = kHsServerHelloDone then some (s.ourCert.drawFields C.toPlatform) else none
  | _ => none

/-- The leaf of a Certificate body: what stands behind the lengths of the chain and of the leaf. -/
def leafOf (certificateBody : Bytes) : Bytes := certificateBody.drop 6

variable {C}

/-- The flight after `ServerHelloDone` begins with the record of the Certificate message. -/
theorem certificate_on_wire (s : DtlsClientSession) (body : Bytes) :
    ∃ rest, (s.handleServerHelloDone C body).2 =
      wrapRecord kDtlsContentHandshake kDtlsVersion12 s.clientEpoch s.clientRecordSeq
        (wrapHandshakeUnfragmented kHsCertificate s.clientMessageSeq (s.buildCertificateBody C).1) :: rest := by
  unfold handleServerHelloDone
  dsimp only
  split_ifs
  · exact ⟨_, rfl⟩
  · exact ⟨_, rfl⟩

theorem leafOf_buildCertificateBody (s : DtlsClientSession) :
    leafOf (s.buildCertificateBody C).1 = EcdsaP256KeyPair.drawnDer (s.ourCert.drawFields C.toPlatform) := by
  rw [EcdsaP256KeyPair.drawnDer, ← EcdsaP256KeyPair.toX509SelfSignedDer_eq, leafOf, buildCertificateBody]
  simp only [List.append_assoc]
  rw [drop_storeBE24 _ 3, drop_storeBE24 _ 0, List.drop_zero]

theorem certificateSent_map_leafOf (s : DtlsClientSession) (d : Delivery) :
    (s.certificateSent C d).map leafOf = (s.certificateDraw C d).map EcdsaP256KeyPair.drawnDer := by
  cases d with
  | handshake o msgType body =>
    simp only [certificateSent, certificateDraw]
    split_ifs
    · rw [Option.map_some, Option.map_some, leafOf_buildCertificateBody]
    · rfl
  | changeCipherSpec => rfl
  | failure reason => rfl

end DtlsClientSession

end VianiumVoip.Dtls

namespace VianiumVoip.Tgcalls

open VianiumVoip.Lib VianiumVoip.Lib.Run VianiumVoip.Cert VianiumVoip.Dtls

/-! ### Runs of a connection -/

/-- What happens to a started connection. -/
inductive ConnectionInput
  | peerInitialSetup (msg : InitialSetupMsg)
  | datagram (arrival : TgcallsConnection.Arrival)
  | iceGaveUp
  | stop

namespace TgcallsConnection

variable (C : Crypto)

def step (c : TgcallsConnection) : ConnectionInput → TgcallsConnection
  | .peerInitialSetup msg => c.onPeerInitialSetup msg
  | .datagram arrival => (c.onReflectorDatagram C arrival).1
  | .iceGaveUp => c.onIceGaveUp
  | .stop => c.stop

/-- The DTLS session that takes the input, and the deliveries it gets. -/
def dtlsDeliveries (c : TgcallsConnection) : ConnectionInput → Option (DtlsClientSession × List Delivery)
  | .datagram arrival =>
    if 0x14 ≤ arrival.inner.headD 0 ∧ arrival.inner.headD 0 ≤ 0x1F then
      c.dtls.map fun dtls => (dtls, dtls.datagramDeliveries C.dtls arrival.inner)
    else none
  | _ => none

/-- The leaf certificates in the Certificate messages that a run sends. -/
def leavesSent (c : TgcallsConnection) (inputs : List ConnectionInput) : List Bytes :=
  (history (step C) (dtlsDeliveries C) c inputs).flatMap fun (dtls, deliveries) =>
    (history (DtlsClientSession.deliver C.dtls) (DtlsClientSession.certificateSent C.dtls) dtls deliveries).map
      DtlsClientSession.leafOf

/-- The platform's answers to the calls that built them. -/
def certificateDraws (c : TgcallsConnection) (inputs : List ConnectionInput) : List (Option CertificateFields) :=
  (history (step C) (dtlsDeliveries C) c inputs).flatMap fun (dtls, deliveries) =>
    history (DtlsClientSession.deliver C.dtls) (DtlsClientSession.certificateDraw C.dtls) dtls deliveries

/-- **The announced fingerprint is the one the peer sees.** -/
def AnnouncesItsCertificate (c : TgcallsConnection) (input : StartInput) (inputs : List ConnectionInput) : Prop :=
  ∀ msg ∈ (c.start C.dtls.toPlatform input).2.1,
    ∀ leaf ∈ (c.start C.dtls.toPlatform input).1.leavesSent C inputs,
      msg.fingerprint = EcdsaP256KeyPair.fingerprintText (C.dtls.sha256 leaf)

/-! ### The exact condition -/

variable {C} {c : TgcallsConnection}

theorem leavesSent_eq_map (inputs : List ConnectionInput) :
    c.leavesSent C inputs = (c.certificateDraws C inputs).map EcdsaP256KeyPair.drawnDer := by
  rw [leavesSent, certificateDraws, List.map_flatMap]
  congr 1
  funext ⟨dtls, deliveries⟩
  simp only [history_map, DtlsClientSession.certificateSent_map_leafOf]

theorem fingerprint_of_mem_start {input : StartInput} {msg : InitialSetupMsg}
    (h : msg ∈ (c.start C.dtls.toPlatform input).2.1) : ∃ kp, input.generate = some kp ∧
      msg.fingerprint = (kp.toSha256Fingerprint C.dtls.toPlatform).1 := by
  unfold start at h
  split at h
  · simp at h
  · split at h
    · simp at h
    · next first _ _ =>
      split at h
      · simp at h
      · split at h
        · simp at h
        · next kp hkp =>
          refine ⟨kp, hkp, ?_⟩
          dsimp only at h
          split at h
          · simp at h
          · cases hopen : input.openError first with
            | some error =>
              rw [hopen] at h
              rw [List.mem_singleton.1 h]
              rfl
            | none =>
              rw [hopen] at h
              rw [List.mem_singleton.1 h]
              rfl

/-- **When the announced fingerprint is that of every certificate sent.**  For every library and platform, every
connection and every run: exactly when each call that builds a certificate for the peer is answered by the platform
like the call that built the announced one, up to collisions of SHA-256. -/
theorem announced_iff (C : Crypto) (c : TgcallsConnection) (input : StartInput) (inputs : List ConnectionInput) :
    c.AnnouncesItsCertificate C input inputs ↔
      ∀ msg ∈ (c.start C.dtls.toPlatform input).2.1,
        ∀ draw ∈ (c.start C.dtls.toPlatform input).1.certificateDraws C inputs,
          EcdsaP256KeyPair.SameCertificate C.dtls.toPlatform (input.generate.bind (·.drawFields C.dtls.toPlatform)) draw := by
  unfold AnnouncesItsCertificate
  refine forall₂_congr fun msg hmsg => ?_
  obtain ⟨kp, hkp, hfingerprint⟩ := fingerprint_of_mem_start hmsg
  rw [leavesSent_eq_map, List.forall_mem_map, hfingerprint, hkp]
  exact forall₂_congr fun draw _ => kp.toSha256Fingerprint_eq_iff C.dtls.toPlatform draw

/-! ### A call over a platform with a random source -/

/-- A platform with one P-256 key, whose random source and signer never answer twice alike. -/
def samplePlatform : Platform where
  sha256 := Sha256.sha256
  generateRandom n := toBE 8 (0x243F6A8885A308D3 + n * 0x13198A2E03707344)
  time n := 1784641509 + 45 * n
  exportPublicKey _ := some <| toBE 27 0x3059301306072a8648ce3d020106082a8648ce3d03010703420004
    ++ toBE 32 0x38f6a2f7e716590efb6b6490d2d73eedd452de5b01ec4aee2beb788c06ae9eda ++ toBE 32 0x935e7f15e6a38ef036d44f60cd84d8bfee00b08c13453f55f655112c59913d6a
  signHashedData n hash :=
    if n = 0 ∧ hash = toBE 32 0x3b9be65d48f890479956a012cc3451d730337ec07cce718aac5622bb45bd6d02 then
      some <| toBE 32 0x41afe353c36e6f973d99d82af3d4c76482a1fb3f757ba002030fc6a1c72a3991
        ++ toBE 32 0x83d56f755940b94bd5f6530d62b65361e1ff828a0ea56213da968b8c7d271703
    else if n = 1 ∧ hash = toBE 32 0x548bafce711251452eae97ea1b37df0cae8ef3fff0eee0dfd09ccccbd4b2af6b then
      some <| toBE 32 0x9adc51696dc6f8109c59aa651f62b794c6596a5d550077c52d67acab894da62e
        ++ toBE 32 0x1e6d1fce877ab2f5ce2add6ccfd4b304d9f01bc0cf679e0cd6891bfa6da1709a
    else none
  sha256_length := Sha256.length_sha256
  generateRandom_length _ := (length_toBE ..).le
  signHashedData_length n hash sig h := by
    split_ifs at h
    · cases h
      simp
    · cases h
      simp

/-- The other primitives are not reached by the run below. -/
def sampleLibraries : Crypto where
  dtls := { nullCrypto with
    toPlatform := samplePlatform }
  srtp :=
    { encryptBlock := fun _ _ => List.replicate 16 0
      hmacSha1 := fun _ _ => List.replicate 20 0
      length_encryptBlock := fun _ _ => List.length_replicate
      length_hmacSha1 := fun _ _ => List.length_replicate }

def sampleCall : TgcallsConnection where
  isOutgoing := true
  sharedKey := List.replicate 256 0
  reflectors := [{ ip := "149.154.167.51", port := 1400, peerTag := List.replicate 16 0 }]
  hasSignalingOut := true

def sampleStart : StartInput where
  generate := some {}
  ufrag := "A1b2"
  pwd := "0123456789abcdefghijkl"
  ssrc := 1
  emitError := none
  openError _ := none

/-- The peer's setup, a connectivity check that succeeds, and a `ServerHelloDone`. -/
def sampleInputs : List ConnectionInput :=
  let arrival (inner : Bytes) (connectivityEstablished : Bool) : ConnectionInput := .datagram
    { inner := inner
      connectivityEstablished := connectivityEstablished
      draws := nullDraws
      audio := { opened := true, codecInit := true } }
  [.peerInitialSetup
      { ufrag := "c3D4", pwd := "0123456789abcdefghijkl", supportsRenomination := false, hash := "sha-256"
        setup := "passive", fingerprint := EcdsaP256KeyPair.fingerprintText (List.replicate 32 0) },
    arrival [0x01, 0x01] true,
    arrival (wrapRecord kDtlsContentHandshake kDtlsVersion12 0 0
      (wrapHandshakeUnfragmented kHsServerHelloDone 0 [])) false]

/-- **The peer sees another certificate than the announced one**: a new serial, another time, a new signature. -/
theorem announces_other_certificate :
    ¬ sampleCall.AnnouncesItsCertificate sampleLibraries sampleStart sampleInputs := by
  unfold AnnouncesItsCertificate
  decide +kernel

end TgcallsConnection

end VianiumVoip.Tgcalls
