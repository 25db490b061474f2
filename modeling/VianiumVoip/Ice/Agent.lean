import VianiumVoip.Ice.StunMessage
import Mathlib.Data.Int.Notation

/-!
# The ICE agent

`IceAgent` of `application/ice_agent`: the pairs it checks, the binding requests it emits and `ProcessIncoming`,
which answers the peer's requests, marks pairs as reachable and selects one of them.  The controlling side selects
on the first binding response; the controlled side on a request with USE-CANDIDATE.
-/

namespace VianiumVoip.Ice

open VianiumVoip.Lib

inductive IceAgentRole
  | controlling
  | controlled
  deriving DecidableEq, Repr

inductive IceCandidateType
  | host
  | srflx
  | prflx
  | relay
  | unknown
  deriving DecidableEq, Repr

structure ParsedIceCandidate where
  foundation : String := ""
  componentId : ℤ := 0
  transport : String := ""
  priority : UInt32 := 0
  ip : String := ""
  port : ℤ := 0
  type : IceCandidateType := .unknown
  ufrag : String := ""
  networkId : ℤ := 0
  networkCost : ℤ := 0
  generation : ℤ := 0
  relatedAddress : String := ""
  relatedPort : ℤ := 0
  deriving DecidableEq, Repr

structure IceCheckTarget where
  ip : String := ""
  port : ℤ := 0
  deriving DecidableEq, Repr

structure Pair where
  target : IceCheckTarget := {}
  succeeded : Bool := false
  useCandidateSent : Bool := false
  deriving DecidableEq, Repr

structure IceAgent where
  role : IceAgentRole
  localUfrag : Bytes
  localPwd : Bytes
  remoteUfrag : Bytes
  remotePwd : Bytes
  tieBreak : UInt64
  remoteCandidates : List ParsedIceCandidate := []
  checkTargets : List IceCheckTarget := []
  pairs : List Pair := []
  connected : Bool := false
  selected : IceCheckTarget := {}
  deriving DecidableEq

inductive ProcessResult
  | other
  | bindingRequestProcessed
  | bindingResponseProcessed
  | connectivityEstablished
  deriving DecidableEq, Repr

def makePriority (typePref localPref componentId : UInt32) : UInt32 :=
  typePref <<< (24 : UInt32) ||| localPref <<< (8 : UInt32) ||| (256 - componentId)

/-! ### Dotted quads -/

/-- `%u`: white space, a sign, and digits, accumulated in 32 bits. -/
def scanUnsigned (s : List Char) : Option (ℕ × List Char) :=
  let s := s.dropWhile Char.isWhitespace
  let (negative, s) := match s with
    | '-' :: rest => (true, rest)
    | '+' :: rest => (false, rest)
    | s => (false, s)
  let digits := s.takeWhile Char.isDigit
  if digits = [] then none
  else
    let value := digits.foldl (fun n c => (10 * n + (c.toNat - '0'.toNat)) % 2 ^ 32) 0
    some (if negative then (2 ^ 32 - value) % 2 ^ 32 else value, s.dropWhile Char.isDigit)

/-- `sscanf(ip, "%u.%u.%u.%u", …) == 4`, with every number below 256. -/
def scanDottedQuad (ip : String) : Option Bytes := do
  let dot : List Char → Option (List Char)
    | '.' :: rest => some rest
    | _ => none
  let (b0, s) ← scanUnsigned ip.toList
  let (b1, s) ← scanUnsigned (← dot s)
  let (b2, s) ← scanUnsigned (← dot s)
  let (b3, _) ← scanUnsigned (← dot s)
  if b0 < 256 ∧ b1 < 256 ∧ b2 < 256 ∧ b3 < 256 then some [b0.toUInt8, b1.toUInt8, b2.toUInt8, b3.toUInt8] else none

namespace IceAgent

variable (hmacSha1 : Bytes → Bytes → Bytes)

/-- `FindPair`, as an index. -/
def findPair (s : IceAgent) (ip : String) (port : ℤ) : Option ℕ :=
  s.pairs.findIdx? fun p => p.target.ip = ip ∧ p.target.port = port

/-- `AddRemoteCandidate` -/
def addRemoteCandidate (s : IceAgent) (c : ParsedIceCandidate) : IceAgent :=
  let s := { s with remoteCandidates := s.remoteCandidates ++ [c] }
  if (s.findPair c.ip c.port).isNone then
    let t : IceCheckTarget := { ip := c.ip, port := c.port }
    { s with checkTargets := s.checkTargets ++ [t], pairs := s.pairs ++ [{ target := t }] }
  else s

/-- `BuildBindingRequest`, with the transaction id that is drawn. -/
def buildBindingRequest (s : IceAgent) (useCandidate : Bool) (transactionId : Bytes) : Bytes :=
  StunMessageCodec.encode hmacSha1
    { messageType := kStunBindingRequest
      transactionId := transactionId
      username := s.remoteUfrag ++ ascii ":" ++ s.localUfrag
      priority := some (makePriority 110 65535 1)
      iceControlling := if s.role = .controlling then some s.tieBreak else none
      iceControlled := if s.role = .controlling then none else some s.tieBreak
      useCandidate := useCandidate } s.remotePwd

/-- USE-CANDIDATE goes to a pair that has succeeded, once. -/
def nominates (s : IceAgent) (p : Pair) : Bool := s.role = .controlling ∧ p.succeeded ∧ ¬ p.useCandidateSent

/-- `GetBindingRequestsToSend`, with the transaction ids that are drawn. -/
def getBindingRequestsToSend (s : IceAgent) (transactionId : ℕ → Bytes) : IceAgent × List (IceCheckTarget × Bytes) :=
  ({ s with pairs := s.pairs.map fun p => { p with useCandidateSent := p.useCandidateSent || s.nominates p } },
    s.pairs.mapIdx fun i p => (p.target, s.buildBindingRequest hmacSha1 (s.nominates p) (transactionId i)))

/-- `BuildBindingResponse` -/
def buildBindingResponse (s : IceAgent) (req : StunMessage) (srcIp : String) (srcPort : ℤ) : Bytes :=
  let resp : StunMessage := { messageType := kStunBindingResponse, transactionId := req.transactionId }
  let resp := match scanDottedQuad srcIp with
    | some address =>
      { resp with
        hasMappedAddress := true
        mappedFamily := 0x01
        mappedAddress := address ++ List.replicate 12 0
        mappedPort := UInt16.ofNat (srcPort % 65536).toNat }
    | none => resp
  StunMessageCodec.encode hmacSha1 resp s.localPwd

def markSucceeded (s : IceAgent) (i : ℕ) : IceAgent :=
  { s with pairs := s.pairs.modify i fun p => { p with succeeded := true } }

def select (s : IceAgent) (i : ℕ) : IceAgent :=
  { s with connected := true, selected := (s.pairs.getD i {}).target }

/-- `ProcessIncoming`: the new state, the result and the response. -/
def processIncoming (s : IceAgent) (srcIp : String) (srcPort : ℤ) (bytes : Bytes) : IceAgent × ProcessResult × Bytes :=
  match StunMessageCodec.decode bytes with
  | none => (s, .other, [])
  | some msg =>
    if msg.messageType = kStunBindingRequest then
      if StunMessageCodec.verifyMessageIntegrity hmacSha1 bytes s.localPwd then
        let outResponse := s.buildBindingResponse hmacSha1 msg srcIp srcPort
        match s.findPair srcIp srcPort with
        | some i =>
          let s := s.markSucceeded i
          if msg.useCandidate ∧ s.role = .controlled ∧ ¬ s.connected then
            (s.select i, .connectivityEstablished, outResponse)
          else (s, .bindingRequestProcessed, outResponse)
        | none => (s, .bindingRequestProcessed, outResponse)
      else (s, .other, [])
    else if msg.messageType = kStunBindingResponse then
      if StunMessageCodec.verifyMessageIntegrity hmacSha1 bytes s.remotePwd then
        match s.findPair srcIp srcPort with
        | none => (s, .other, [])
        | some i =>
          let wasNew := ¬ (s.pairs.getD i {}).succeeded
          let s := s.markSucceeded i
          if s.role = .controlling ∧ ¬ s.connected then (s.select i, .connectivityEstablished, [])
          else (s, if wasNew then .bindingResponseProcessed else .other, [])
      else (s, .other, [])
    else (s, .other, [])

/-! ### What a datagram can do -/

/-- The outcomes of `ProcessIncoming`, each with what it takes. -/
inductive Processed (s : IceAgent) (srcIp : String) (srcPort : ℤ) (bytes : Bytes) :
    IceAgent → ProcessResult → Bytes → Prop
  | ignored : Processed s srcIp srcPort bytes s .other []
  /-- A request from an address that no candidate has announced. -/
  | unknownRequest (msg : StunMessage) (hmsg : StunMessageCodec.decode bytes = some msg)
      (htype : msg.messageType = kStunBindingRequest)
      (hverify : StunMessageCodec.verifyMessageIntegrity hmacSha1 bytes s.localPwd = true)
      (hpair : s.findPair srcIp srcPort = none) :
      Processed s srcIp srcPort bytes s .bindingRequestProcessed (s.buildBindingResponse hmacSha1 msg srcIp srcPort)
  | request (msg : StunMessage) (i : ℕ) (hmsg : StunMessageCodec.decode bytes = some msg)
      (htype : msg.messageType = kStunBindingRequest)
      (hverify : StunMessageCodec.verifyMessageIntegrity hmacSha1 bytes s.localPwd = true)
      (hpair : s.findPair srcIp srcPort = some i)
      (hnot : ¬ (msg.useCandidate = true ∧ s.role = .controlled ∧ ¬ s.connected = true)) :
      Processed s srcIp srcPort bytes (s.markSucceeded i) .bindingRequestProcessed
        (s.buildBindingResponse hmacSha1 msg srcIp srcPort)
  /-- A request with USE-CANDIDATE, at a controlled side that has no selected pair. -/
  | nomination (msg : StunMessage) (i : ℕ) (hmsg : StunMessageCodec.decode bytes = some msg)
      (htype : msg.messageType = kStunBindingRequest)
      (hverify : StunMessageCodec.verifyMessageIntegrity hmacSha1 bytes s.localPwd = true)
      (hpair : s.findPair srcIp srcPort = some i) (hasked : msg.useCandidate = true) (hrole : s.role = .controlled)
      (hfresh : s.connected = false) :
      Processed s srcIp srcPort bytes ((s.markSucceeded i).select i) .connectivityEstablished
        (s.buildBindingResponse hmacSha1 msg srcIp srcPort)
  | response (msg : StunMessage) (i : ℕ) (hmsg : StunMessageCodec.decode bytes = some msg)
      (htype : msg.messageType = kStunBindingResponse)
      (hverify : StunMessageCodec.verifyMessageIntegrity hmacSha1 bytes s.remotePwd = true)
      (hpair : s.findPair srcIp srcPort = some i) (hnot : ¬ (s.role = .controlling ∧ ¬ s.connected = true)) :
      Processed s srcIp srcPort bytes (s.markSucceeded i)
        (if ¬ (s.pairs.getD i {}).succeeded then .bindingResponseProcessed else .other) []
  /-- The first response at a controlling side. -/
  | selection (msg : StunMessage) (i : ℕ) (hmsg : StunMessageCodec.decode bytes = some msg)
      (htype : msg.messageType = kStunBindingResponse)
      (hverify : StunMessageCodec.verifyMessageIntegrity hmacSha1 bytes s.remotePwd = true)
      (hpair : s.findPair srcIp srcPort = some i) (hrole : s.role = .controlling) (hfresh : s.connected = false) :
      Processed s srcIp srcPort bytes ((s.markSucceeded i).select i) .connectivityEstablished []

variable (s : IceAgent) (srcIp : String) (srcPort : ℤ) (bytes : Bytes)

/-- **`ProcessIncoming` does one of these.** -/
theorem processIncoming_processed :
    s.Processed hmacSha1 srcIp srcPort bytes (s.processIncoming hmacSha1 srcIp srcPort bytes).1
      (s.processIncoming hmacSha1 srcIp srcPort bytes).2.1 (s.processIncoming hmacSha1 srcIp srcPort bytes).2.2 := by
  unfold processIncoming
  cases hmsg : StunMessageCodec.decode bytes with
  | none => exact .ignored
  | some msg =>
    simp only
    by_cases hrequest : msg.messageType = kStunBindingRequest
    · rw [if_pos hrequest]
      by_cases hverify : StunMessageCodec.verifyMessageIntegrity hmacSha1 bytes s.localPwd = true
      · rw [if_pos hverify]
        cases hpair : s.findPair srcIp srcPort with
        | none => exact .unknownRequest msg hmsg hrequest hverify hpair
        | some i =>
          simp only
          by_cases hnominated : msg.useCandidate = true ∧ (s.markSucceeded i).role = .controlled ∧
              ¬ (s.markSucceeded i).connected = true
          · rw [if_pos hnominated]
            obtain ⟨hasked, hrole, hfresh⟩ := hnominated
            exact .nomination msg i hmsg hrequest hverify hpair hasked hrole (eq_false_of_ne_true hfresh)
          · rw [if_neg hnominated]
            exact .request msg i hmsg hrequest hverify hpair hnominated
      · rw [if_neg hverify]
        exact .ignored
    rw [if_neg hrequest]
    by_cases hresponse : msg.messageType = kStunBindingResponse
    · rw [if_pos hresponse]
      by_cases hverify : StunMessageCodec.verifyMessageIntegrity hmacSha1 bytes s.remotePwd = true
      · rw [if_pos hverify]
        cases hpair : s.findPair srcIp srcPort with
        | none => exact .ignored
        | some i =>
          simp only
          by_cases hfirst : (s.markSucceeded i).role = .controlling ∧ ¬ (s.markSucceeded i).connected = true
          · rw [if_pos hfirst]
            exact .selection msg i hmsg hresponse hverify hpair hfirst.1 (eq_false_of_ne_true hfirst.2)
          · rw [if_neg hfirst]
            exact .response msg i hmsg hresponse hverify hpair hfirst
      · rw [if_neg hverify]
        exact .ignored
    · rw [if_neg hresponse]
      exact .ignored

end IceAgent

end VianiumVoip.Ice
