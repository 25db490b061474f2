import VianiumVoip.Signaling.Json

/-!
# The signaling messages

`TgcallsSignalingMessages` of `domain/tgcalls_signaling_messages`: the messages as JSON objects with their type under
`"@type"`.

`parse_serialize` is the round trip, for the six types that have a text of their own: the fields of a message come back,
whatever bytes its strings have, every number of 32 bits included; a video or screencast state that is empty comes back
as `inactive` (`Same`).
-/

namespace VianiumVoip.Signaling

open VianiumVoip.Lib

inductive TgcallsMessageType
  | unknown
  | initialSetup
  | candidates
  | negotiateChannels
  | media
  | mediaState
  | connection
  | pong
  | ping
  | emptyAck
  | remoteMediaState
  deriving DecidableEq

structure DtlsFingerprint where
  hash : Bytes := []
  setup : Bytes := []
  fingerprint : Bytes := []
  deriving DecidableEq

structure IceCandidate where
  sdpString : Bytes := []
  deriving DecidableEq

structure InitialSetupMsg where
  ufrag : Bytes := []
  pwd : Bytes := []
  supportsRenomination : Bool := false
  fingerprint : DtlsFingerprint := {}
  deriving DecidableEq

structure CandidatesMsg where
  candidates : List IceCandidate := []
  deriving DecidableEq

structure ConnectionMsg where
  status : Bytes := []
  deriving DecidableEq

structure PingMsg where
  pingId : UInt32 := 0
  deriving DecidableEq

structure PongMsg where
  pingId : UInt32 := 0
  deriving DecidableEq

structure MediaStateMsg where
  isMuted : Bool := false
  videoState : Bytes := []
  screencastState : Bytes := []
  videoRotation : Int32 := 0
  lowBattery : Bool := false
  deriving DecidableEq

structure TgcallsMessage where
  type : TgcallsMessageType := .unknown
  typeName : Bytes := []
  initial : InitialSetupMsg := {}
  candidates : CandidatesMsg := {}
  connection : ConnectionMsg := {}
  ping : PingMsg := {}
  pong : PongMsg := {}
  mediaState : MediaStateMsg := {}
  rawJson : Bytes := []
  deriving DecidableEq

namespace TgcallsSignalingMessages

open Json

/-! ### Parsing -/

/-- `atoi`: blanks, a sign and digits. -/
def atoi (text : Bytes) : ℤ :=
  let (negative, rest) := scanSign (text.dropWhile fun c => c = 0x20 || (0x09 ≤ c && c ≤ 0x0D))
  let magnitude := digitsValue (rest.takeWhile isDigit)
  if negative then -magnitude else magnitude

/-- `NumberOrStringToUInt32`; outside the range of the type the language leaves the conversion of a number open. -/
def numberOrStringToUInt32 : JsonValue → UInt32
  | .number value => UInt32.ofInt value.trunc
  | .string value => UInt32.ofInt (atoi value)
  | _ => 0

/-- The string under a key, if there is one. -/
def findString (obj : JsonValue) (key : Bytes) : Option Bytes :=
  match obj.find key with
  | some (.string value) => some value
  | _ => none

/-- The truth value under a key, if there is one. -/
def findBool (obj : JsonValue) (key : Bytes) : Option Bool :=
  match obj.find key with
  | some (.bool value) => some value
  | _ => none

/-- The array under a key, if there is one. -/
def findArray (obj : JsonValue) (key : Bytes) : Option (List JsonValue) :=
  match obj.find key with
  | some (.array values) => some values
  | _ => none

/-- The fingerprint of an element of `"fingerprints"`; what is missing stays empty. -/
def parseFingerprint (fp : JsonValue) : DtlsFingerprint :=
  { hash := (findString fp (ascii "hash")).getD []
    setup := (findString fp (ascii "setup")).getD []
    fingerprint := (findString fp (ascii "fingerprint")).getD [] }

/-- `ParseInitialSetup` -/
def parseInitialSetup (obj : JsonValue) : Option InitialSetupMsg :=
  match findString obj (ascii "ufrag"), findString obj (ascii "pwd"), findArray obj (ascii "fingerprints") with
  | some ufrag, some pwd, some fps =>
    some
      { ufrag := ufrag
        pwd := pwd
        supportsRenomination := (findBool obj (ascii "renomination")).getD false
        fingerprint := (fps.head?.map parseFingerprint).getD {} }
  | _, _, _ => none

/-- `ParseCandidates` -/
def parseCandidates (obj : JsonValue) : Option CandidatesMsg :=
  (findArray obj (ascii "candidates")).map fun items =>
    { candidates := items.filterMap fun item => (findString item (ascii "sdpString")).map fun sdp => { sdpString := sdp } }

/-- `ParseConnection` -/
def parseConnection (obj : JsonValue) : Option ConnectionMsg :=
  (findString obj (ascii "status")).map fun status => { status := status }

/-- `ParsePingPong` -/
def parsePingPong (obj : JsonValue) : Option UInt32 :=
  ((obj.find (ascii "pingId")).or (obj.find (ascii "ping_id"))).map numberOrStringToUInt32

/-- `ParseMediaState` -/
def parseMediaState (obj : JsonValue) : MediaStateMsg :=
  { isMuted := (findBool obj (ascii "muted")).getD false
    videoState := (findString obj (ascii "videoState")).getD (ascii "inactive")
    screencastState := (findString obj (ascii "screencastState")).getD (ascii "inactive")
    videoRotation :=
      match obj.find (ascii "videoRotation") with
      | some (.number value) => Int32.ofInt value.trunc
      | _ => 0
    lowBattery := (findBool obj (ascii "lowBattery")).getD false }

/-- The message of an object with the type name `t`; where its fields are missing the type stays unknown. -/
def parseTyped (msg : TgcallsMessage) (root : JsonValue) (t : Bytes) : TgcallsMessage :=
  if t = ascii "InitialSetup" then
    match parseInitialSetup root with
    | some initial => { msg with initial := initial, type := .initialSetup }
    | none => msg
  else if t = ascii "Candidates" then
    match parseCandidates root with
    | some candidates => { msg with candidates := candidates, type := .candidates }
    | none => msg
  else if t = ascii "NegotiateChannels" then { msg with type := .negotiateChannels }
  else if t = ascii "Media" then { msg with type := .media }
  else if t = ascii "MediaState" then { msg with mediaState := parseMediaState root, type := .mediaState }
  else if t = ascii "RemoteMediaState" then { msg with mediaState := parseMediaState root, type := .remoteMediaState }
  else if t = ascii "Connection" then
    match parseConnection root with
    | some connection => { msg with connection := connection, type := .connection }
    | none => msg
  else if t = ascii "Ping" then
    match parsePingPong root with
    | some pingId => { msg with ping := { pingId := pingId }, type := .ping }
    | none => msg
  else if t = ascii "Pong" then
    match parsePingPong root with
    | some pingId => { msg with pong := { pingId := pingId }, type := .pong }
    | none => msg
  else if t = ascii "EmptyAck" then { msg with type := .emptyAck }
  else msg

/-- `Parse` -/
def parse (json : Bytes) : TgcallsMessage :=
  let msg : TgcallsMessage := { rawJson := json }
  match parseJson json with
  | none => msg
  | some root =>
    match findString root (ascii "@type") with
    | none => msg
    | some t => parseTyped { msg with typeName := t } root t

/-! ### Serializing -/

def boolText (value : Bool) : Bytes := if value then ascii "true" else ascii "false"

/-- `SerializeInitialSetup` -/
def serializeInitialSetup (m : InitialSetupMsg) : Bytes :=
  ascii "\x7b\"@type\":\"InitialSetup\",\"ufrag\":\"" ++ escapeJson m.ufrag
    ++ ascii "\",\"pwd\":\"" ++ escapeJson m.pwd
    ++ ascii "\",\"renomination\":" ++ boolText m.supportsRenomination
    ++ ascii ",\"fingerprints\":[\x7b\"hash\":\"" ++ escapeJson m.fingerprint.hash
    ++ ascii "\",\"setup\":\"" ++ escapeJson m.fingerprint.setup
    ++ ascii "\",\"fingerprint\":\"" ++ escapeJson m.fingerprint.fingerprint
    ++ ascii "\"\x7d]\x7d"

/-- `SerializeCandidates` -/
def serializeCandidates (m : CandidatesMsg) : Bytes :=
  ascii "\x7b\"@type\":\"Candidates\",\"candidates\":["
    ++ commaJoin (m.candidates.map fun c => ascii "\x7b\"sdpString\":\"" ++ escapeJson c.sdpString ++ ascii "\"\x7d")
    ++ ascii "]\x7d"

/-- `SerializeConnection` -/
def serializeConnection (m : ConnectionMsg) : Bytes :=
  ascii "\x7b\"@type\":\"Connection\",\"status\":\"" ++ escapeJson m.status ++ ascii "\"\x7d"

/-- `SerializePing` -/
def serializePing (m : PingMsg) : Bytes :=
  ascii "\x7b\"@type\":\"Ping\",\"pingId\":" ++ decimal m.pingId.toNat ++ ascii "\x7d"

/-- `SerializePong` -/
def serializePong (m : PongMsg) : Bytes :=
  ascii "\x7b\"@type\":\"Pong\",\"pingId\":" ++ decimal m.pingId.toNat ++ ascii "\x7d"

/-- An empty state is written as `inactive`. -/
def stateText (state : Bytes) : Bytes := if state = [] then ascii "inactive" else state

/-- `SerializeMediaState` -/
def serializeMediaState (m : MediaStateMsg) : Bytes :=
  ascii "\x7b\"@type\":\"MediaState\""
    ++ ascii ",\"muted\":" ++ boolText m.isMuted
    ++ ascii ",\"lowBattery\":" ++ boolText m.lowBattery
    ++ ascii ",\"videoState\":\"" ++ escapeJson (stateText m.videoState) ++ ascii "\""
    ++ ascii ",\"screencastState\":\"" ++ escapeJson (stateText m.screencastState) ++ ascii "\""
    ++ ascii ",\"videoRotation\":" ++ decimalInt m.videoRotation.toInt
    ++ ascii "\x7d"

/-- `Serialize` -/
def serialize (msg : TgcallsMessage) : Bytes :=
  match msg.type with
  | .initialSetup => serializeInitialSetup msg.initial
  | .candidates => serializeCandidates msg.candidates
  | .connection => serializeConnection msg.connection
  | .ping => serializePing msg.ping
  | .pong => serializePong msg.pong
  | .mediaState => serializeMediaState msg.mediaState
  | _ => msg.rawJson

/-! ### The texts as objects -/

theorem reads_boolText (value : Bool) : Reads (boolText value) (.bool value) := reads_bool value

/-- What is found in the text of an `InitialSetup`. -/
def initialSetupObject (m : InitialSetupMsg) : JsonValue :=
  .object
    [(ascii "@type", .string (ascii "InitialSetup")), (ascii "ufrag", .string m.ufrag), (ascii "pwd", .string m.pwd),
      (ascii "renomination", .bool m.supportsRenomination),
      (ascii "fingerprints", .array
        [.object
          [(ascii "hash", .string m.fingerprint.hash), (ascii "setup", .string m.fingerprint.setup),
            (ascii "fingerprint", .string m.fingerprint.fingerprint)]])]

theorem reads_serializeInitialSetup (m : InitialSetupMsg) :
    Reads (serializeInitialSetup m) (initialSetupObject m) := by
  have hfingerprint := reads_object
    [(ascii "hash", stringText m.fingerprint.hash, .string m.fingerprint.hash),
      (ascii "setup", stringText m.fingerprint.setup, .string m.fingerprint.setup),
      (ascii "fingerprint", stringText m.fingerprint.fingerprint, .string m.fingerprint.fingerprint)]
    (List.cons_ne_nil _ _) (by simp only [List.forall_mem_cons, reads_string, true_and]; simp)
  have hfingerprints := reads_array [(_, _)] (List.forall_mem_singleton.2 hfingerprint)
  have hobject := reads_object
    [(ascii "@type", stringText (ascii "InitialSetup"), .string (ascii "InitialSetup")),
      (ascii "ufrag", stringText m.ufrag, .string m.ufrag), (ascii "pwd", stringText m.pwd, .string m.pwd),
      (ascii "renomination", boolText m.supportsRenomination, .bool m.supportsRenomination),
      (ascii "fingerprints", _, _)]
    (List.cons_ne_nil _ _)
    (by simp only [List.forall_mem_cons, reads_string, reads_boolText, true_and]; exact ⟨hfingerprints, by simp⟩)
  have htext : serializeInitialSetup m = objectText
      [(ascii "@type", stringText (ascii "InitialSetup")), (ascii "ufrag", stringText m.ufrag),
        (ascii "pwd", stringText m.pwd), (ascii "renomination", boolText m.supportsRenomination),
        (ascii "fingerprints", arrayText
          [objectText
            [(ascii "hash", stringText m.fingerprint.hash), (ascii "setup", stringText m.fingerprint.setup),
              (ascii "fingerprint", stringText m.fingerprint.fingerprint)]])] := by
    simp only [serializeInitialSetup, objectText, arrayText, stringText, memberText, commaJoin, List.map_cons,
      List.map_nil, List.append_assoc, List.cons_append, List.nil_append]
    rfl
  rw [htext]
  exact hobject

/-- The object of a message with one field behind its type. -/
def fieldObject (typeName key : Bytes) (value : JsonValue) : JsonValue :=
  .object [(ascii "@type", .string typeName), (key, value)]

theorem reads_fieldObject {typeName key text : Bytes} {value : JsonValue} (h : Reads text value) :
    Reads (objectText [(ascii "@type", stringText typeName), (key, text)]) (fieldObject typeName key value) :=
  reads_object [(ascii "@type", stringText typeName, .string typeName), (key, text, value)] (List.cons_ne_nil _ _)
    (by simp only [List.forall_mem_cons, reads_string, h, true_and]; simp)

theorem reads_serializeConnection (m : ConnectionMsg) :
    Reads (serializeConnection m) (fieldObject (ascii "Connection") (ascii "status") (.string m.status)) := by
  have htext : serializeConnection m
      = objectText [(ascii "@type", stringText (ascii "Connection")), (ascii "status", stringText m.status)] := by
    simp only [serializeConnection, objectText, stringText, memberText, commaJoin, List.map_cons, List.map_nil,
      List.append_assoc, List.cons_append, List.nil_append]
    rfl
  rw [htext]
  exact reads_fieldObject (reads_string _)

theorem reads_pingId (pingId : UInt32) : Reads (decimal pingId.toNat) (.number (.finite pingId.toNat)) := by
  have hsmall : |(pingId.toNat : ℤ)| < 2 ^ 53 := by
    have := pingId.toNat_lt
    rw [abs_of_nonneg (Int.natCast_nonneg _)]
    omega
  have htext : decimalInt (pingId.toNat : ℤ) = decimal pingId.toNat := if_neg (by omega)
  have := reads_int hsmall
  rwa [htext] at this

theorem reads_serializePing (m : PingMsg) :
    Reads (serializePing m) (fieldObject (ascii "Ping") (ascii "pingId") (.number (.finite m.pingId.toNat))) := by
  have htext : serializePing m
      = objectText [(ascii "@type", stringText (ascii "Ping")), (ascii "pingId", decimal m.pingId.toNat)] := by
    simp only [serializePing, objectText, stringText, memberText, commaJoin, List.map_cons, List.map_nil,
      List.append_assoc, List.cons_append, List.nil_append]
    rfl
  rw [htext]
  exact reads_fieldObject (reads_pingId _)

theorem reads_serializePong (m : PongMsg) :
    Reads (serializePong m) (fieldObject (ascii "Pong") (ascii "pingId") (.number (.finite m.pingId.toNat))) := by
  have htext : serializePong m
      = objectText [(ascii "@type", stringText (ascii "Pong")), (ascii "pingId", decimal m.pingId.toNat)] := by
    simp only [serializePong, objectText, stringText, memberText, commaJoin, List.map_cons, List.map_nil,
      List.append_assoc, List.cons_append, List.nil_append]
    rfl
  rw [htext]
  exact reads_fieldObject (reads_pingId _)

/-- What is found in the text of a candidate. -/
def candidateObject (c : IceCandidate) : JsonValue := .object [(ascii "sdpString", .string c.sdpString)]

theorem reads_candidate (c : IceCandidate) :
    Reads (ascii "\x7b\"sdpString\":\"" ++ escapeJson c.sdpString ++ ascii "\"\x7d") (candidateObject c) := by
  have htext : ascii "\x7b\"sdpString\":\"" ++ escapeJson c.sdpString ++ ascii "\"\x7d"
      = objectText [(ascii "sdpString", stringText c.sdpString)] := by
    simp only [objectText, stringText, memberText, commaJoin, List.map_cons, List.map_nil, List.append_assoc,
      List.cons_append, List.nil_append]
    rfl
  rw [htext]
  exact reads_object [(ascii "sdpString", stringText c.sdpString, .string c.sdpString)] (List.cons_ne_nil _ _)
    (List.forall_mem_singleton.2 (reads_string _))

theorem reads_serializeCandidates (m : CandidatesMsg) :
    Reads (serializeCandidates m)
      (fieldObject (ascii "Candidates") (ascii "candidates") (.array (m.candidates.map candidateObject))) := by
  have hreads : ∀ element ∈ m.candidates.map fun c =>
      (ascii "\x7b\"sdpString\":\"" ++ escapeJson c.sdpString ++ ascii "\"\x7d", candidateObject c),
      Reads element.1 element.2 := by
    rw [List.forall_mem_map]
    exact fun c _ => reads_candidate c
  have hcandidates := reads_array _ hreads
  rw [List.map_map, List.map_map] at hcandidates
  have htext : serializeCandidates m
      = objectText
          [(ascii "@type", stringText (ascii "Candidates")),
            (ascii "candidates", arrayText (m.candidates.map fun c =>
              ascii "\x7b\"sdpString\":\"" ++ escapeJson c.sdpString ++ ascii "\"\x7d"))] := by
    simp only [serializeCandidates, objectText, arrayText, stringText, memberText, commaJoin, List.map_cons,
      List.map_nil, List.append_assoc, List.cons_append, List.nil_append]
    rfl
  rw [htext]
  exact reads_fieldObject hcandidates

/-- What is found in the text of a `MediaState`. -/
def mediaStateObject (m : MediaStateMsg) : JsonValue :=
  .object
    [(ascii "@type", .string (ascii "MediaState")), (ascii "muted", .bool m.isMuted),
      (ascii "lowBattery", .bool m.lowBattery), (ascii "videoState", .string (stateText m.videoState)),
      (ascii "screencastState", .string (stateText m.screencastState)),
      (ascii "videoRotation", .number (.finite m.videoRotation.toInt))]

theorem reads_serializeMediaState (m : MediaStateMsg) : Reads (serializeMediaState m) (mediaStateObject m) := by
  have hsmall : |m.videoRotation.toInt| < 2 ^ 53 := by
    have hlow := m.videoRotation.le_toInt
    have hhigh := m.videoRotation.toInt_lt
    rw [abs_lt]
    omega
  have hobject := reads_object
    [(ascii "@type", stringText (ascii "MediaState"), .string (ascii "MediaState")),
      (ascii "muted", boolText m.isMuted, .bool m.isMuted), (ascii "lowBattery", boolText m.lowBattery, .bool m.lowBattery),
      (ascii "videoState", stringText (stateText m.videoState), .string (stateText m.videoState)),
      (ascii "screencastState", stringText (stateText m.screencastState), .string (stateText m.screencastState)),
      (ascii "videoRotation", decimalInt m.videoRotation.toInt, .number (.finite m.videoRotation.toInt))]
    (List.cons_ne_nil _ _)
    (by simp only [List.forall_mem_cons, reads_string, reads_boolText, reads_int hsmall, true_and]; simp)
  have htext : serializeMediaState m = objectText
      [(ascii "@type", stringText (ascii "MediaState")), (ascii "muted", boolText m.isMuted),
        (ascii "lowBattery", boolText m.lowBattery), (ascii "videoState", stringText (stateText m.videoState)),
        (ascii "screencastState", stringText (stateText m.screencastState)),
        (ascii "videoRotation", decimalInt m.videoRotation.toInt)] := by
    simp only [serializeMediaState, objectText, stringText, memberText, commaJoin, List.map_cons, List.map_nil,
      List.append_assoc, List.cons_append, List.nil_append]
    rfl
  rw [htext]
  exact hobject

/-! ### The round trip -/

/-- The six types with a text of their own. -/
def IsStructured (msg : TgcallsMessage) : Prop :=
  msg.type ∈ [TgcallsMessageType.initialSetup, .candidates, .connection, .ping, .pong, .mediaState]

instance (msg : TgcallsMessage) : Decidable (IsStructured msg) := inferInstanceAs (Decidable (_ ∈ _))

/-- **The message that was received is the one that was sent**: it has its type, and the fields that this type has; an
empty state has become `inactive`. -/
def Same (sent received : TgcallsMessage) : Prop :=
  received.type = sent.type ∧
    match sent.type with
    | .initialSetup => received.initial = sent.initial
    | .candidates => received.candidates = sent.candidates
    | .connection => received.connection = sent.connection
    | .ping => received.ping = sent.ping
    | .pong => received.pong = sent.pong
    | .mediaState =>
      received.mediaState
        = { sent.mediaState with
            videoState := stateText sent.mediaState.videoState
            screencastState := stateText sent.mediaState.screencastState }
    | _ => True

/-- A text that is read as an object with a type is parsed by that type. -/
theorem parse_of_reads {json t : Bytes} {root : JsonValue} (h : Reads json root)
    (htype : findString root (ascii "@type") = some t) :
    parse json = parseTyped { rawJson := json, typeName := t } root t := by
  unfold parse
  rw [parseJson_of_reads h]
  simp only [htype]

theorem parse_serializeInitialSetup (m : InitialSetupMsg) :
    (parse (serializeInitialSetup m)).type = .initialSetup ∧ (parse (serializeInitialSetup m)).initial = m := by
  rw [parse_of_reads (reads_serializeInitialSetup m) rfl]
  exact ⟨rfl, rfl⟩

theorem parse_serializeConnection (m : ConnectionMsg) :
    (parse (serializeConnection m)).type = .connection ∧ (parse (serializeConnection m)).connection = m := by
  rw [parse_of_reads (reads_serializeConnection m) rfl]
  exact ⟨rfl, rfl⟩

theorem parseCandidates_candidateObjects (candidates : List IceCandidate) :
    parseCandidates (fieldObject (ascii "Candidates") (ascii "candidates") (.array (candidates.map candidateObject)))
      = some { candidates := candidates } := by
  have hitem (c : IceCandidate) :
      ((findString (candidateObject c) (ascii "sdpString")).map fun sdp => ({ sdpString := sdp } : IceCandidate)) = some c :=
    rfl
  have hitems : (candidates.map candidateObject).filterMap
      (fun item => (findString item (ascii "sdpString")).map fun sdp => ({ sdpString := sdp } : IceCandidate))
      = candidates := by
    induction candidates with
    | nil => rfl
    | cons c candidates ih => simp only [List.map_cons, List.filterMap_cons, hitem, ih]
  show some ({ candidates := (candidates.map candidateObject).filterMap _ } : CandidatesMsg) = _
  rw [hitems]

theorem parse_serializeCandidates (m : CandidatesMsg) :
    (parse (serializeCandidates m)).type = .candidates ∧ (parse (serializeCandidates m)).candidates = m := by
  have hparsed := parseCandidates_candidateObjects m.candidates
  rw [parse_of_reads (reads_serializeCandidates m) rfl, parseTyped, if_neg (by decide), if_pos rfl, hparsed]
  exact ⟨rfl, rfl⟩

theorem pingId_of_double (pingId : UInt32) :
    numberOrStringToUInt32 (.number (.finite pingId.toNat)) = pingId := by
  have htrunc : (Double.finite (pingId.toNat : ℚ)).trunc = (pingId.toNat : ℤ) := by
    have := Double.trunc_intCast (pingId.toNat : ℤ)
    rwa [Int.cast_natCast] at this
  have hmod : ((pingId.toNat : ℤ) % 2 ^ 32).toNat = pingId.toNat := by
    have := pingId.toNat_lt
    omega
  rw [numberOrStringToUInt32, htrunc, UInt32.ofInt, hmod, UInt32.ofNat_toNat]

theorem parse_serializePing (m : PingMsg) :
    (parse (serializePing m)).type = .ping ∧ (parse (serializePing m)).ping = m := by
  rw [parse_of_reads (reads_serializePing m) rfl]
  refine ⟨rfl, ?_⟩
  exact congrArg PingMsg.mk (pingId_of_double m.pingId)

theorem parse_serializePong (m : PongMsg) :
    (parse (serializePong m)).type = .pong ∧ (parse (serializePong m)).pong = m := by
  rw [parse_of_reads (reads_serializePong m) rfl]
  refine ⟨rfl, ?_⟩
  exact congrArg PongMsg.mk (pingId_of_double m.pingId)

theorem parse_serializeMediaState (m : MediaStateMsg) :
    (parse (serializeMediaState m)).type = .mediaState ∧
      (parse (serializeMediaState m)).mediaState
        = { m with videoState := stateText m.videoState, screencastState := stateText m.screencastState } := by
  have hrotation : Int32.ofInt (Double.finite m.videoRotation.toInt).trunc = m.videoRotation := by
    rw [Double.trunc_intCast, Int32.ofInt_toInt]
  rw [parse_of_reads (reads_serializeMediaState m) rfl]
  refine ⟨rfl, ?_⟩
  show ({ m with
      videoState := stateText m.videoState
      screencastState := stateText m.screencastState
      videoRotation := Int32.ofInt (Double.finite m.videoRotation.toInt).trunc } : MediaStateMsg) = _
  rw [hrotation]

/-- **A structured message comes back.** -/
theorem parse_serialize {msg : TgcallsMessage} (h : IsStructured msg) : Same msg (parse (serialize msg)) := by
  unfold IsStructured at h
  unfold Same serialize
  cases htype : msg.type <;> rw [htype] at h
  case initialSetup => exact parse_serializeInitialSetup msg.initial
  case candidates => exact parse_serializeCandidates msg.candidates
  case connection => exact parse_serializeConnection msg.connection
  case ping => exact parse_serializePing msg.ping
  case pong => exact parse_serializePong msg.pong
  case mediaState => exact parse_serializeMediaState msg.mediaState
  all_goals exact absurd h (by decide)

end TgcallsSignalingMessages

end VianiumVoip.Signaling
