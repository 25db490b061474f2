import VianiumVoip.Lib.Bytes

/-!
# Reflector packets

`VoipReflectorPacketCodec` of `domain/voip_reflector_packet`: the two requests that a reflector answers by itself, and
the self-info response.  They stand in clear behind the peer tag, with all bits set where a relay packet has its message
key; the magic number in the response is what tells it from a packet of the peer.
-/

namespace VianiumVoip.Relay

open VianiumVoip.Lib

structure VoipReflectorSelfInfo where
  peerTag : Bytes := []
  date : Int32 := 0
  queryId : UInt64 := 0
  rawIpv4 : UInt32 := 0
  ipv4 : String := ""
  port : UInt16 := 0
  deriving DecidableEq

structure VoipReflectorPacketResult where
  success : Bool := false
  error : String := ""
  bytes : Bytes := []
  selfInfo : VoipReflectorSelfInfo := {}
  deriving DecidableEq

namespace VoipReflectorPacketCodec

def peerTagBytes : ℕ := 16
def discoveryRequestBytes : ℕ := 32
def selfInfoRequestBytes : ℕ := 40
def selfInfoResponseBytes : ℕ := 64
def kAllBits32 : UInt32 := 0xFFFFFFFF
def kAllBits64 : UInt64 := 0xFFFFFFFFFFFFFFFF
def kSelfInfoMagic : UInt32 := 0xc01572c7
def kMappedIpv4Padding : UInt32 := 0xFFFF0000

def fail (message : String) : VoipReflectorPacketResult := { error := message }

def hasPeerTag (peerTag : Bytes) : Bool := peerTag.length = peerTagBytes

def readLE64 (bytes : Bytes) : UInt64 := (loadLE32 bytes).toUInt64 ||| (loadLE32 (bytes.drop 4)).toUInt64 <<< 32

def writeLE64 (value : UInt64) : Bytes := storeLE32 value.toUInt32 ++ storeLE32 (value >>> 32).toUInt32

def ipv4ToString (rawIpv4 : UInt32) : String :=
  toString (rawIpv4 &&& 0xFF) ++ "." ++ toString (rawIpv4 >>> 8 &&& 0xFF) ++ "."
    ++ toString (rawIpv4 >>> 16 &&& 0xFF) ++ "." ++ toString (rawIpv4 >>> 24 &&& 0xFF)

/-- `SamePeerTag`: any tag will do where none is expected. -/
def samePeerTag (bytes expected : Bytes) : Bool :=
  if ¬ hasPeerTag expected then true else decide (bytes.take peerTagBytes = expected)

/-- `BuildPeerDiscoveryRequest` -/
def buildPeerDiscoveryRequest (peerTag : Bytes) : VoipReflectorPacketResult :=
  if ¬ hasPeerTag peerTag then fail "reflector peer_tag must be exactly 16 bytes"
  else { success := true, bytes := peerTag ++ List.replicate (discoveryRequestBytes - peerTagBytes) 0xFF }

/-- `BuildSelfInfoRequest` -/
def buildSelfInfoRequest (peerTag : Bytes) (queryId : UInt64) : VoipReflectorPacketResult :=
  if ¬ hasPeerTag peerTag then fail "reflector peer_tag must be exactly 16 bytes"
  else
    { success := true
      bytes :=
        peerTag ++ storeLE32 kAllBits32 ++ storeLE32 kAllBits32 ++ storeLE32 kAllBits32 ++ storeLE32 0xFFFFFFFE
          ++ writeLE64 queryId }

/-- `ParseSelfInfoResponse` -/
def parseSelfInfoResponse (bytes expectedPeerTag : Bytes) : VoipReflectorPacketResult :=
  if bytes.length < selfInfoResponseBytes then fail "reflector self-info response is too short"
  else if expectedPeerTag ≠ [] ∧ ¬ hasPeerTag expectedPeerTag then
    fail "expected reflector peer_tag must be 16 bytes"
  else if ¬ samePeerTag bytes expectedPeerTag then fail "reflector self-info peer_tag mismatch"
  else
    let sentinel1 := readLE64 (bytes.drop 16)
    let sentinel2 := loadLE32 (bytes.drop 24)
    let magic := loadLE32 (bytes.drop 28)
    let padding2 := loadLE32 (bytes.drop 52)
    if sentinel1 ≠ kAllBits64 ∨ sentinel2 ≠ kAllBits32 ∨ magic ≠ kSelfInfoMagic then
      fail "reflector self-info response has invalid marker"
    else if padding2 ≠ kMappedIpv4Padding then fail "reflector self-info response is not IPv4-mapped"
    else
      { success := true
        bytes := bytes
        selfInfo :=
          { peerTag := bytes.take peerTagBytes
            date := (loadLE32 (bytes.drop 32)).toInt32
            queryId := readLE64 (bytes.drop 36)
            rawIpv4 := loadLE32 (bytes.drop 56)
            ipv4 := ipv4ToString (loadLE32 (bytes.drop 56))
            port := (loadLE32 (bytes.drop 60)).toUInt16 } }

/-! ### Requests and responses -/

variable {bytes peerTag : Bytes} {queryId : UInt64}

theorem buildSelfInfoRequest_success_iff :
    (buildSelfInfoRequest peerTag queryId).success = true ↔ peerTag.length = peerTagBytes := by
  unfold buildSelfInfoRequest hasPeerTag
  by_cases htag : peerTag.length = peerTagBytes
  · simp [htag]
  · simp [htag, fail]

theorem length_buildSelfInfoRequest (h : peerTag.length = peerTagBytes) :
    (buildSelfInfoRequest peerTag queryId).bytes.length = selfInfoRequestBytes := by
  unfold buildSelfInfoRequest hasPeerTag writeLE64
  simp [h, peerTagBytes, selfInfoRequestBytes]

/-- A response has the tag of the endpoint and the markers. -/
theorem parseSelfInfoResponse_success_iff (htag : peerTag.length = peerTagBytes) :
    (parseSelfInfoResponse bytes peerTag).success = true ↔
      selfInfoResponseBytes ≤ bytes.length ∧ bytes.take peerTagBytes = peerTag ∧
        readLE64 (bytes.drop 16) = kAllBits64 ∧ loadLE32 (bytes.drop 24) = kAllBits32 ∧
        loadLE32 (bytes.drop 28) = kSelfInfoMagic ∧ loadLE32 (bytes.drop 52) = kMappedIpv4Padding := by
  unfold parseSelfInfoResponse samePeerTag hasPeerTag
  by_cases hshort : bytes.length < selfInfoResponseBytes
  · simp [hshort, fail]
  by_cases hsame : bytes.take peerTagBytes = peerTag
  · simp only [if_neg hshort, htag, hsame, decide_true, not_true_eq_false, and_false, if_false, true_and]
    split_ifs with hmarker hpadding
    · simp [fail]
      tauto
    · simp [fail, hpadding]
    · simp only [not_or, not_not] at hmarker hpadding
      simp [hmarker, hpadding, Nat.not_lt.1 hshort]
  · simp [hshort, htag, hsame, fail]

end VoipReflectorPacketCodec

end VianiumVoip.Relay
