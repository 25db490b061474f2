import VianiumVoip.Engine.Dh
import VianiumVoip.Lib.Run
import VianiumVoip.Turn.Client
import VianiumVoip.Turn.Codec

/-!
# A TURN client under several threads

The operations of `TurnClient` (`infrastructure/turn/turn_client`), cut at every lock section, at every access to
`m_active` and `m_allocated`, and where they send.  A thread stands at a `Point`, which holds its local variables;
`perform` does the next access and says where the thread stands then.

A `WaitForResponse` that finds no response stands at `waiting`.  From there it looks again at any time, as a
`wait_until` may wake up without reason, or it is told that the time is over.
-/

namespace VianiumVoip.Turn

open VianiumVoip.Lib VianiumVoip.Engine

structure Crypto where
  hmacSha1 : Bytes → Bytes → Bytes
  md5 : Bytes → Bytes

/-- `DeriveLongTermKey` -/
def deriveLongTermKey (C : Crypto) (username realm password : Bytes) : Bytes :=
  C.md5 (username ++ [0x3A] ++ realm ++ [0x3A] ++ password)

def transportFailed (message : String) (hr : ℤ := 0) : VoipError :=
  { kind := .transportFailed, code := hr, message := message }

def handshakeTimeout (message : String) : VoipError := { kind := .handshakeTimeout, message := message }

/-- A `TurnClient` with what its operations share. -/
structure AllocationClient extends TurnClient where
  active : Bool := false
  allocated : Bool := false
  reflectorIp : Bytes := []
  reflectorPort : ℤ := 0
  username : Bytes := []
  password : Bytes := []
  realm : Bytes := []
  nonce : Bytes := []
  key : Bytes := []
  relayed : TurnAddress := {}
  permittedPeers : List TurnAddress := []
  /-- The socket that `m_socketState` points to. -/
  socketState : Option ℕ := none
  /-- `Active` of all sockets there have been. -/
  sockets : List Bool := []
  deriving DecidableEq

/-- The arguments of `OpenAllocation` besides the peers. -/
structure Reflector where
  reflectorIp : Bytes
  reflectorPort : ℤ
  username : Bytes
  password : Bytes
  onData : Bool := true
  deriving DecidableEq

inductive Call
  | openAllocation (reflector : Reflector) (peerAddresses : List TurnAddress)
  | addPeerPermission (peer : TurnAddress)
  | send (peer : TurnAddress) (bytes : Bytes)
  | close
  /-- `MessageReceived` of a socket. -/
  | messageReceived (socket : ℕ) (bytes : Bytes)
  deriving DecidableEq

/-- The peers that a call asks permission for. -/
def Call.peers : Call → List TurnAddress
  | .openAllocation _ peerAddresses => peerAddresses
  | .addPeerPermission peer => [peer]
  | _ => []

inductive Request
  /-- The first Allocate, without authentication. -/
  | allocate
  | allocateAuthed
  | createPermission (peers : List TurnAddress)
  deriving DecidableEq

abbrev Result := Except VoipError Unit

/-- Where a thread stands: the access it makes next. -/
inductive Point
  | openAllocation (reflector : Reflector)
  | reset (reflector : Reflector)
  /-- The socket is made. -/
  | bind
  | installSocket (socket : ℕ)
  | activate
  | storeChallenge (realm nonce : Bytes)
  | recordAllocation (relayed : TurnAddress)
  | addPeerPermission (peer : TurnAddress)
  | deduplicate (peer : TurnAddress)
  | createPermission (peers : List TurnAddress)
  | permit (peers : List TurnAddress)
  | send (peer : TurnAddress) (bytes : Bytes)
  /-- The section that overwrites the pending slot. -/
  | beginRequest (request : Request)
  | encodeAuthed (txnId : Bytes)
  /-- `SendRawDatagram`; for a request, with what is waited for behind it. -/
  | takeSocket (bytes : Bytes) (request : Option (Request × Bytes))
  | store (socket : Option ℕ) (bytes : Bytes) (request : Option (Request × Bytes))
  | waitForResponse (request : Request) (txnId : Bytes)
  | waiting (request : Request) (txnId : Bytes)
  | messageReceived (socket : ℕ) (bytes : Bytes)
  | onInboundUdp (bytes : Bytes)
  /-- `Close`, with what its caller returns behind it. -/
  | close (result : Result)
  | closeSection (result : Result)
  | releaseSocket (socket : ℕ) (result : Result)
  | closeReturn (result : Result)
  | returned (result : Result)
  deriving DecidableEq

def Call.entry : Call → Point
  | .openAllocation reflector _ => .openAllocation reflector
  | .addPeerPermission peer => .addPeerPermission peer
  | .send peer bytes => .send peer bytes
  | .close => .close (.ok ())
  | .messageReceived socket bytes => .messageReceived socket bytes

/-- Where the making of a socket may fail. -/
inductive BindStage
  | constructor
  | registration
  | outputStream
  deriving DecidableEq

def BindStage.message : BindStage → String
  | .constructor => "DatagramSocket ctor failed"
  | .registration => "MessageReceived registration failed"
  | .outputStream => "GetOutputStreamAsync failed"

/-- What comes from outside. -/
structure Answers where
  /-- `GenerateTxnId` -/
  txnId : Bytes := List.replicate 12 0
  /-- The exception while the socket is made. -/
  bindFault : Option (BindStage × ℤ) := none
  /-- The exception of `StoreAsync`. -/
  storeFault : Option ℤ := none
  /-- `wait_until` reports a timeout. -/
  timedOut : Bool := false

def hexText (value : UInt16) : String := String.ofList (Nat.toDigits 16 value.toNat)

/-- A text of the server, byte by byte. -/
def rawText (bytes : Bytes) : String := String.ofList (bytes.map fun b => Char.ofNat b.toNat)

/-- The `code=… reason='…'` of a refused request. -/
def refusalText (response : TurnMessage) : String :=
  "error code=" ++ toString (response.errorCode.getD 0) ++ " reason='" ++ rawText response.errorReason ++ "'"

/-- What an answer to the first Allocate lacks. -/
def missingText (response : TurnMessage) : String :=
  "401 missing REALM/NONCE (got code=" ++ toString (response.errorCode.getD 0)
    ++ " realm=" ++ (if response.realm.isSome then "yes" else "no")
    ++ " nonce=" ++ (if response.nonce.isSome then "yes" else "no") ++ ")"

namespace AllocationClient

section Definitions

variable (C : Crypto) (answers : Answers) (c : AllocationClient) (call : Call)

/-- `OpenAllocation` goes on without its permissions. -/
def permissionFailed (error : VoipError) : Point :=
  match call with
  | .openAllocation _ _ => .returned (.ok ())
  | _ => .returned (.error error)

/-- A request fails; `OpenAllocation` closes the client when its handshake does. -/
def requestFailed (request : Request) (error : VoipError) : Point :=
  match request with
  | .createPermission _ => permissionFailed call error
  | _ => .close (.error error)

def sendFailed (request : Option (Request × Bytes)) (error : VoipError) : Point :=
  match request with
  | some (request, _) => requestFailed call request error
  | none => .returned (.error error)

def timeoutText : Request → String
  | .allocate => "Allocate#1 timed out (no 401 challenge)"
  | .allocateAuthed => "Allocate#2 timed out (no 200 OK)"
  | .createPermission _ => "CreatePermission timed out"

/-- `WaitForResponse` returns false. -/
def noResponse (request : Request) : Point :=
  requestFailed call request (handshakeTimeout (timeoutText request))

/-- The response to the first Allocate. -/
def onChallenge (response : TurnMessage) : Point :=
  if turnClassOf response.type ≠ kClassError then
    match turnClassOf response.type == kClassSuccess, response.xorRelayed with
    | true, some relayed => .recordAllocation relayed
    | _, _ =>
      .close (.error (transportFailed ("Allocate#1 unexpected reply class=0x" ++ hexText (turnClassOf response.type))))
  else
    match response.errorCode == some 401, response.realm, response.nonce with
    | true, some realm, some nonce => .storeChallenge realm nonce
    | _, _, _ => .close (.error (transportFailed ("Allocate#1 " ++ missingText response)))

/-- The response to the second. -/
def onAllocated (response : TurnMessage) : Point :=
  if turnClassOf response.type = kClassError then
    .close (.error (transportFailed ("Allocate#2 " ++ refusalText response)))
  else if turnClassOf response.type ≠ kClassSuccess then
    .close (.error (transportFailed ("Allocate#2 unexpected class=0x" ++ hexText (turnClassOf response.type))))
  else
    match response.xorRelayed with
    | none => .close (.error (transportFailed "Allocate#2 success missing XOR-RELAYED-ADDRESS"))
    | some relayed => .recordAllocation relayed

def onPermission (peers : List TurnAddress) (response : TurnMessage) : Point :=
  if turnClassOf response.type = kClassError then
    permissionFailed call (transportFailed ("CreatePermission " ++ refusalText response))
  else if turnClassOf response.type ≠ kClassSuccess then
    permissionFailed call
      (transportFailed ("CreatePermission unexpected class=0x" ++ hexText (turnClassOf response.type)))
  else .permit peers

def onResponse (request : Request) (response : TurnMessage) : Point :=
  match request with
  | .allocate => onChallenge response
  | .allocateAuthed => onAllocated response
  | .createPermission peers => onPermission call peers response

/-- The check of the arguments of `OpenAllocation`, once `m_active` is not set. -/
def checkReflector (reflector : Reflector) : Point :=
  if reflector.reflectorIp = [] then .returned (.error (invalid "reflectorIp is empty"))
  else if reflector.reflectorPort ≤ 0 ∨ 65535 < reflector.reflectorPort then
    .returned (.error (invalid "reflectorPort out of range"))
  else if reflector.username = [] then .returned (.error (invalid "TURN username is empty"))
  else if reflector.password = [] then .returned (.error (invalid "TURN password is empty"))
  else .reset reflector

def resetFor (reflector : Reflector) : AllocationClient :=
  { c with
    onData := reflector.onData
    havePending := false
    pendingComplete := false
    reflectorIp := reflector.reflectorIp
    reflectorPort := reflector.reflectorPort
    username := reflector.username
    password := reflector.password
    realm := []
    nonce := []
    key := []
    relayed := {}
    permittedPeers := [] }

def isActive (socket : Option ℕ) : Bool :=
  match socket with
  | some socket => c.sockets.getD socket false
  | none => false

/-- **The next access of a thread**: what it does to the client, and where the thread stands then. -/
def perform : Point → AllocationClient × Point
  | .openAllocation reflector =>
    (c, if c.active then .returned (.error (invalid "TurnClient already open")) else checkReflector reflector)
  | .reset reflector => (c.resetFor reflector, .bind)
  | .bind =>
    match answers.bindFault with
    | some (stage, hr) => (c, .returned (.error (transportFailed stage.message hr)))
    | none => ({ c with sockets := c.sockets ++ [true] }, .installSocket c.sockets.length)
  | .installSocket socket => ({ c with socketState := some socket }, .activate)
  | .activate => ({ c with active := true }, .beginRequest .allocate)
  | .storeChallenge realm nonce =>
    ({ c with realm := realm, nonce := nonce, key := deriveLongTermKey C c.username realm c.password },
      .beginRequest .allocateAuthed)
  | .recordAllocation relayed =>
    ({ c with relayed := relayed, allocated := true },
      if call.peers = [] then .returned (.ok ()) else .createPermission call.peers)
  | .addPeerPermission peer =>
    (c, if c.allocated then .deduplicate peer else .returned (.error (invalid "AddPeerPermission before Allocate")))
  | .deduplicate peer => (c, if peer ∈ c.permittedPeers then .returned (.ok ()) else .createPermission [peer])
  | .createPermission peers =>
    (c,
      if !c.allocated then permissionFailed call (invalid "CreatePermission before Allocate")
      else if peers = [] then .permit []
      else .beginRequest (.createPermission peers))
  | .permit peers => ({ c with permittedPeers := c.permittedPeers ++ peers }, .returned (.ok ()))
  | .send peer bytes =>
    (c,
      if !c.allocated then .returned (.error (invalid "Send before Allocate"))
      else if peer.address = [] then .returned (.error (invalid "Send peer address empty"))
      else .takeSocket (encodeSendIndication answers.txnId peer bytes) none)
  | .beginRequest request =>
    ({ c with toTurnClient := c.toTurnClient.beginRequest answers.txnId },
      match request with
      | .allocate =>
        .takeSocket (encodeAllocate C.hmacSha1 answers.txnId 600 [] [] [] []) (some (.allocate, answers.txnId))
      | .allocateAuthed => .encodeAuthed answers.txnId
      | .createPermission peers =>
        .takeSocket (encodeCreatePermission C.hmacSha1 answers.txnId peers c.username c.realm c.nonce c.key)
          (some (.createPermission peers, answers.txnId)))
  | .encodeAuthed txnId =>
    (c,
      .takeSocket (encodeAllocate C.hmacSha1 txnId 600 c.username c.realm c.nonce c.key)
        (some (.allocateAuthed, txnId)))
  | .takeSocket bytes request => (c, .store c.socketState bytes request)
  | .store socket bytes request =>
    (c,
      if !c.isActive socket then sendFailed call request (transportFailed "TurnClient socket not open")
      else if bytes = [] then sendFailed call request (invalid "SendRawDatagram empty payload")
      else
        match answers.storeFault, request with
        | some hr, _ => sendFailed call request (transportFailed "StoreAsync failed" hr)
        | none, some (request, txnId) => .waitForResponse request txnId
        | none, none => .returned (.ok ()))
  | .waitForResponse request txnId =>
    if !c.active then (c, noResponse call request)
    else
      match c.toTurnClient.waitForResponse txnId with
      | some (response, slot) => ({ c with toTurnClient := slot }, onResponse call request response)
      | none => (c, .waiting request txnId)
  | .waiting request txnId =>
    (c, if answers.timedOut then noResponse call request else .waitForResponse request txnId)
  | .messageReceived socket bytes =>
    (c, if c.isActive (some socket) ∧ bytes ≠ [] then .onInboundUdp bytes else .returned (.ok ()))
  | .onInboundUdp bytes => ({ c with toTurnClient := (c.toTurnClient.onInboundUdp bytes).1 }, .returned (.ok ()))
  | .close result => ({ c with active := false }, if c.active then .closeSection result else .closeReturn result)
  | .closeSection result =>
    ({ c with socketState := none, allocated := false, havePending := false },
      match c.socketState with
      | some socket => .releaseSocket socket result
      | none => .closeReturn result)
  | .releaseSocket socket result => ({ c with sockets := c.sockets.set socket false }, .closeReturn result)
  | .closeReturn result => (c, .returned result)
  | .returned result => (c, .returned result)

end Definitions

end AllocationClient

structure Thread where
  call : Call
  point : Point
  deriving DecidableEq

/-- A client and the threads that have called it. -/
structure TurnSystem where
  client : AllocationClient
  threads : List Thread := []
  deriving DecidableEq

inductive TurnEvent
  | calls (call : Call)
  /-- The `k`-th thread makes its next access. -/
  | performs (k : ℕ) (answers : Answers)

namespace TurnSystem

def step (C : Crypto) (s : TurnSystem) : TurnEvent → TurnSystem
  | .calls call => { s with threads := s.threads ++ [{ call := call, point := call.entry }] }
  | .performs k answers =>
    match s.threads[k]? with
    | some t =>
      let (client, point) := s.client.perform C answers t.call t.point
      { client := client, threads := s.threads.set k { t with point := point } }
    | none => s

theorem step_performs {s : TurnSystem} {k : ℕ} {t : Thread} (C : Crypto) (answers : Answers)
    (hk : s.threads[k]? = some t) :
    s.step C (.performs k answers)
      = { client := (s.client.perform C answers t.call t.point).1
          threads := s.threads.set k { t with point := (s.client.perform C answers t.call t.point).2 } } := by
  simp only [step, hk]

end TurnSystem

def sampleCrypto : Crypto where
  hmacSha1 := fun _ _ => List.replicate 20 0
  md5 := fun _ => List.replicate 16 0

end VianiumVoip.Turn
