import VianiumVoip.Lib.Run
import VianiumVoip.Srtp.PacketCodec
import Mathlib.Data.List.Chain

/-!
# The packet indices of a sender

A sender calls `Encrypt` again and again with one `SrtpEncryptParams`.  Under one session key the keystream of
a packet is fixed by its packet index, so confidentiality rests on the indices of a run being distinct; the
roll-over counter is there to keep them so when the sequence number wraps.

`advanceRollover` takes a step down by *less* than `0x8000` for a wrap.  The wrap of a sender that counts by
one is a step down by `0xFFFF`, so the counter stands still at every wrap, and the packets behind it are sent
under the initial vectors of the packets 65536 places before them.
-/

namespace VianiumVoip.Srtp

open VianiumVoip.Lib

variable (C : Crypto)

/-! ### Runs of calls -/

/-- The arguments of one call of `Encrypt`. -/
structure EncryptCall where
  rtp : Bytes
  sequenceNumber : UInt16

/-- A version 2 RTP header with something behind it. -/
def WellFormed (rtp : Bytes) : Prop := locatePayloadStart rtp ≠ 0 ∧ locatePayloadStart rtp < rtp.length

instance (rtp : Bytes) : Decidable (WellFormed rtp) := inferInstanceAs (Decidable (_ ∧ _))

/-- What is used for one packet: the roll-over counter, the packet index, the initial vector. -/
structure SentPacket where
  rolloverCounter : UInt32
  sequenceNumber : UInt16
  index : UInt64
  iv : Bytes
  srtp : Bytes

/-- The packet that leaves under the parameters as `advanceRollover` left them. -/
def sentPacket (params : SrtpEncryptParams) (call : EncryptCall) : SentPacket where
  rolloverCounter := params.rolloverCounter
  sequenceNumber := call.sequenceNumber
  index := packetIndex48 params.rolloverCounter call.sequenceNumber
  iv := buildPacketIv params.sessionSalt params.ssrc (packetIndex48 params.rolloverCounter call.sequenceNumber)
  srtp := protect C params call.rtp call.sequenceNumber

/-- One call, as a step of the parameters. -/
def encryptStep (params : SrtpEncryptParams) (call : EncryptCall) : SrtpEncryptParams :=
  (encrypt C params call.rtp call.sequenceNumber).1

/-- What one call sends. -/
def encryptSent (params : SrtpEncryptParams) (call : EncryptCall) : Option SentPacket :=
  if (encrypt C params call.rtp call.sequenceNumber).2 = [] then none
  else some (sentPacket C (encryptStep C params call) call)

/-- The packets of a run of calls, in order. -/
def sentPackets (params : SrtpEncryptParams) (calls : List EncryptCall) : List SentPacket :=
  Run.history (encryptStep C) (encryptSent C) params calls

/-- The calls of a sender that numbers its packets `seq`, `seq + 1`, … modulo `2 ^ 16`. -/
def numbered : UInt16 → List Bytes → List EncryptCall
  | _, [] => []
  | seq, rtp :: rtps => ⟨rtp, seq⟩ :: numbered (seq + 1) rtps

/-- **No keystream is used twice.**  The packet indices increase, no two packets are encrypted under one
initial vector, and every wrap of the sequence number raises the roll-over counter by one. -/
structure KeystreamFresh (sent : List SentPacket) : Prop where
  increasing : sent.Pairwise fun a b => a.index < b.index
  distinct : (sent.map (·.iv)).Nodup
  wraps : sent.IsChain fun a b => a.sequenceNumber = 0xFFFF → b.sequenceNumber = 0 →
    b.rolloverCounter = a.rolloverCounter + 1

/-! ### One call -/

theorem encrypt_of_wellFormed {params : SrtpEncryptParams} {rtp : Bytes} (seq : UInt16) (h : WellFormed rtp) :
    encrypt C params rtp seq =
      (advanceRollover params seq, protect C (advanceRollover params seq) rtp seq) := by
  have hne : rtp ≠ [] := by
    rintro rfl
    exact absurd h.2 (by simp)
  rw [encrypt, if_neg hne]
  simp only
  rw [if_neg (by rw [not_or, not_le]; exact ⟨h.1, h.2⟩)]

theorem encryptStep_of_wellFormed {params : SrtpEncryptParams} {call : EncryptCall} (h : WellFormed call.rtp) :
    encryptStep C params call = advanceRollover params call.sequenceNumber := by
  rw [encryptStep, encrypt_of_wellFormed C _ h]

theorem encryptSent_of_wellFormed {params : SrtpEncryptParams} {call : EncryptCall} (h : WellFormed call.rtp) :
    encryptSent C params call = some (sentPacket C (advanceRollover params call.sequenceNumber) call) := by
  have hsent : protect C (advanceRollover params call.sequenceNumber) call.rtp call.sequenceNumber ≠ [] := by
    intro hnil
    have := congrArg List.length hnil
    rw [length_protect, List.length_nil, kAuthTagSize] at this
    omega
  rw [encryptSent, encryptStep_of_wellFormed C h, encrypt_of_wellFormed C _ h, if_neg hsent]

/-! ### The roll-over counter stands still -/

/-- Counting by one never looks like a wrap: a step up is not one, and `0xFFFF → 0` is a step down by
`0xFFFF`. -/
theorem not_rollover_succ (seq : UInt16) :
    ¬ (seq + 1 < seq ∧ seq.toUInt32 - (seq + 1).toUInt32 < 0x8000) := by
  rintro ⟨hdown, hgap⟩
  have hsucc : (seq + 1).toNat = (seq.toNat + 1) % 65536 := UInt16.toNat_add seq 1
  have hlt := seq.toNat_lt
  have hdown' : (seq + 1).toNat < seq.toNat := hdown
  have hzero : seq + 1 = 0 := UInt16.toNat_inj.1 (by rw [hsucc]; show _ = 0; omega)
  have hlast : seq = 0xFFFF := UInt16.toNat_inj.1 (by show _ = 65535; omega)
  rw [hzero, hlast] at hgap
  exact absurd hgap (by decide)

theorem advanceRollover_succ {params : SrtpEncryptParams} {seq : UInt16} (hlast : params.lastSequenceNumber = seq) :
    advanceRollover params (seq + 1) =
      { params with lastSequenceNumber := seq + 1, hasLastSequenceNumber := true } := by
  have hstill : ¬ (params.hasLastSequenceNumber = true ∧ seq + 1 < params.lastSequenceNumber
      ∧ params.lastSequenceNumber.toUInt32 - (seq + 1).toUInt32 < 0x8000) := by
    rintro ⟨-, h⟩
    rw [hlast] at h
    exact not_rollover_succ seq h
  simp only [advanceRollover, if_neg hstill]

theorem sentPackets_succ (params : SrtpEncryptParams) (seq : UInt16) {rtps : List Bytes}
    (hlast : params.lastSequenceNumber = seq) (hwf : ∀ rtp ∈ rtps, WellFormed rtp) :
    sentPackets C params (numbered (seq + 1) rtps) = (numbered (seq + 1) rtps).map (sentPacket C params) := by
  induction rtps generalizing params seq with
  | nil => rfl
  | cons rtp rtps ih =>
    obtain ⟨hrtp, hrest⟩ := List.forall_mem_cons.1 hwf
    have hcall : WellFormed (⟨rtp, seq + 1⟩ : EncryptCall).rtp := hrtp
    rw [numbered, sentPackets, Run.history_cons, encryptSent_of_wellFormed C hcall,
      encryptStep_of_wellFormed C hcall, advanceRollover_succ hlast]
    have htail := ih { params with lastSequenceNumber := seq + 1, hasLastSequenceNumber := true } _ rfl hrest
    rw [sentPackets] at htail
    rw [htail]
    rfl

/-- **The packets of a run.**  All are sent under the roll-over counter that the first call settles on. -/
theorem sentPackets_numbered (params : SrtpEncryptParams) (start : UInt16) {rtps : List Bytes}
    (hwf : ∀ rtp ∈ rtps, WellFormed rtp) :
    sentPackets C params (numbered start rtps) =
      (numbered start rtps).map (sentPacket C (advanceRollover params start)) := by
  rcases rtps with _ | ⟨rtp, rtps⟩
  · rfl
  · obtain ⟨hrtp, hrest⟩ := List.forall_mem_cons.1 hwf
    have hcall : WellFormed (⟨rtp, start⟩ : EncryptCall).rtp := hrtp
    have htail := sentPackets_succ C (advanceRollover params start) start rfl hrest
    rw [sentPackets] at htail
    rw [numbered, sentPackets, Run.history_cons, encryptSent_of_wellFormed C hcall,
      encryptStep_of_wellFormed C hcall, htail]
    rfl

/-! ### Which sequence numbers a run uses -/

@[simp] theorem length_numbered (start : UInt16) (rtps : List Bytes) : (numbered start rtps).length = rtps.length := by
  induction rtps generalizing start with
  | nil => rfl
  | cons rtp rtps ih => rw [numbered, List.length_cons, List.length_cons, ih]

theorem le_of_mem_numbered (start : UInt16) {rtps : List Bytes} (h : start.toNat + rtps.length ≤ 65536)
    {call : EncryptCall} (hmem : call ∈ numbered start rtps) : start ≤ call.sequenceNumber := by
  induction rtps generalizing start with
  | nil => simp [numbered] at hmem
  | cons rtp rtps ih =>
    rw [numbered, List.mem_cons] at hmem
    rcases hmem with rfl | hmem
    · exact UInt16.le_refl start
    · rw [List.length_cons] at h
      have hpos : 0 < rtps.length := by
        rw [← length_numbered (start + 1)]
        exact List.length_pos_of_mem hmem
      have hsucc : (start + 1).toNat = (start.toNat + 1) % 65536 := UInt16.toNat_add start 1
      have hle := ih (start + 1) (by omega) hmem
      rw [UInt16.le_iff_toNat_le] at hle ⊢
      omega

/-- The sequence numbers increase exactly when the run does not wrap. -/
theorem pairwise_numbered_iff (start : UInt16) (rtps : List Bytes) :
    ((numbered start rtps).Pairwise fun a b => a.sequenceNumber < b.sequenceNumber) ↔
      start.toNat + rtps.length ≤ 65536 := by
  induction rtps generalizing start with
  | nil =>
    have := start.toNat_lt
    simp only [numbered, List.Pairwise.nil, List.length_nil, true_iff]
    omega
  | cons rtp rtps ih =>
    have hsucc : (start + 1).toNat = (start.toNat + 1) % 65536 := UInt16.toNat_add start 1
    have hlt := start.toNat_lt
    rw [numbered, List.pairwise_cons, ih, List.length_cons]
    constructor
    · rintro ⟨hfirst, hrest⟩
      rcases rtps with _ | ⟨rtp', rtps⟩
      · rw [List.length_nil]
        omega
      · have hstep : start < start + 1 := hfirst ⟨rtp', start + 1⟩ (by rw [numbered]; exact List.mem_cons_self)
        rw [UInt16.lt_iff_toNat_lt] at hstep
        omega
    · intro h
      refine ⟨?_, by omega⟩
      intro call hmem
      have hpos : 0 < rtps.length := by
        rw [← length_numbered (start + 1)]
        exact List.length_pos_of_mem hmem
      have hle := le_of_mem_numbered _ (by omega) hmem
      rw [UInt16.le_iff_toNat_le] at hle
      rw [UInt16.lt_iff_toNat_lt]
      show start.toNat < _
      omega

/-! ### The exact condition -/

theorem sentPacket_index_lt_iff {params : SrtpEncryptParams} {a b : EncryptCall} :
    (sentPacket C params a).index < (sentPacket C params b).index ↔ a.sequenceNumber < b.sequenceNumber := by
  rw [UInt64.lt_iff_toNat_lt, UInt16.lt_iff_toNat_lt]
  show (packetIndex48 _ _).toNat < (packetIndex48 _ _).toNat ↔ _
  rw [packetIndex48_toNat, packetIndex48_toNat]
  omega

theorem sentPacket_iv_inj {params : SrtpEncryptParams} {a b : EncryptCall}
    (h : (sentPacket C params a).iv = (sentPacket C params b).iv) : a.sequenceNumber = b.sequenceNumber := by
  have hindex := buildPacketIv_inj params.length_sessionSalt (packetIndex48_lt ..) (packetIndex48_lt ..) h
  have := congrArg UInt64.toNat hindex
  rw [packetIndex48_toNat, packetIndex48_toNat] at this
  exact UInt16.toNat_inj.1 (by omega)

/-- **When the sender never reuses a keystream.**  For every session, every state of the parameters and every
run of packets numbered from `start` on: exactly when the run stays below the wrap of the sequence number. -/
theorem keystreamFresh_iff (params : SrtpEncryptParams) (start : UInt16) (rtps : List Bytes)
    (hwf : ∀ rtp ∈ rtps, WellFormed rtp) :
    KeystreamFresh (sentPackets C params (numbered start rtps)) ↔ start.toNat + rtps.length ≤ 65536 := by
  rw [sentPackets_numbered C params start hwf, ← pairwise_numbered_iff]
  constructor
  · intro h
    have hindex := h.increasing
    rw [List.pairwise_map] at hindex
    exact hindex.imp (sentPacket_index_lt_iff C).1
  · intro h
    refine ⟨?_, ?_, ?_⟩
    · rw [List.pairwise_map]
      exact h.imp (sentPacket_index_lt_iff C).2
    · rw [List.map_map, List.Nodup, List.pairwise_map]
      refine h.imp ?_
      intro a b hab hiv
      have := sentPacket_iv_inj C hiv
      rw [this] at hab
      exact UInt16.lt_irrefl _ hab
    · refine List.Pairwise.isChain ?_
      rw [List.pairwise_map]
      refine h.imp ?_
      -- without a wrap there is nothing to show
      intro a b hab ha hb
      exact absurd (ha ▸ hb ▸ hab : (0xFFFF : UInt16) < 0) (by decide)

/-! ### A session of two packets -/

/-- AES-128 and HMAC-SHA1 under all-zero keys, at the inputs that the sessions below reach. -/
def sampleCrypto : Crypto where
  encryptBlock key block := toBE 16 <|
    if key = List.replicate 16 0 then
      ((([(0x00000000000000010000000000000000, 0x788bcd111ecf73d4e78d2e21bef55460),
        (0x00000000000000010000000000010000, 0xef15fcf11e97bc54d6a605578a431ca3),
        (0x00000000000000010000000000020000, 0xae6c76f4dfb75524e2fcb94911db7e2c),
        (0x000000000000000100000000ffff0000, 0xc3b6b6d97f25f91304f6884b6f5d5684),
        (0x00000000000000010000000100000000, 0x3b4e3f94906d558b8d020fe22d7b7be1)] : List (ℕ × ℕ)).lookup
          (ofBE block)).getD 0)
    else 0
  hmacSha1 key msg := toBE 20 <|
    if key = List.replicate 20 0 then
      ((([(0x806f0001000000000000000700000000, 0xfc97e0f7dabc75ad9ecb1587039377e332bbb7f5),
        (0x806f000000000000000000012d00000000, 0xb0ca91ea08ba0b29981205949081cf6cc66995c8),
        (0x806f00010000000000000001ba00000000, 0x26029a9e83ce058d19095389bf34764d33f0f66b),
        (0x806f00020000000000000001fb00000000, 0xb958c630228c71eb418f6ef49901e7cf1e3b828e),
        (0x806fffff00000000000000019600000000, 0xc630b649171ae17b65b0d4054656cb2f9f062286),
        (0x806f000000000000000000016e00000001, 0x863019ec59d295ef475316ec8395d32680ad67b1),
        (0x806f000000000000000000016e00000000, 0xe4ef65a00c2e695ebe14a98695140f3ef19288e3)] : List (ℕ × ℕ)).lookup
          (ofBE msg)).getD 0)
    else 0
  length_encryptBlock _ _ := length_toBE ..
  length_hmacSha1 _ _ := length_toBE ..

/-- The parameters as a session starts with them, under all-zero keys. -/
def sampleParams (ssrc : UInt32) : SrtpEncryptParams where
  sessionEncrKey := List.replicate 16 0
  sessionAuthKey := List.replicate 20 0
  sessionSalt := List.replicate 14 0
  ssrc := ssrc
  rolloverCounter := 0
  lastSequenceNumber := 0
  hasLastSequenceNumber := false
  length_sessionEncrKey := List.length_replicate
  length_sessionAuthKey := List.length_replicate
  length_sessionSalt := List.length_replicate

/-- An RTP packet of SSRC 1 with one byte of payload. -/
def sampleRtp (sequenceNumber : UInt16) : Bytes :=
  [0x80, 111] ++ storeBE16 sequenceNumber ++ [0, 0, 0, 0] ++ storeBE32 1 ++ [0x55]

theorem keystreamFresh_two :
    KeystreamFresh (sentPackets sampleCrypto (sampleParams 1) (numbered 1 [sampleRtp 1, sampleRtp 2])) ↔
      (1 : UInt16).toNat + 2 ≤ 65536 :=
  keystreamFresh_iff sampleCrypto (sampleParams 1) 1 [sampleRtp 1, sampleRtp 2] (by decide)

/-- The packet behind the wrap is sent under index 0, with the counter as it was. -/
theorem wrap_reuses_index :
    ¬ KeystreamFresh (sentPackets sampleCrypto (sampleParams 1) (numbered 0xFFFF [sampleRtp 0xFFFF, sampleRtp 0])) := by
  intro h
  have hlt := h.increasing
  revert hlt
  decide +kernel

end VianiumVoip.Srtp
