import VianiumVoip.Ice.AgentRun
import VianiumVoip.Ice.CandidateFormat
import VianiumVoip.Signaling.Envelope
import VianiumVoip.Tgcalls.Trickle

/-!
# The local candidates

`EmitCandidates` of `application/tgcalls_connection`: the addresses of the platform, but for those that are no use to the
peer, each as a candidate line of its own, and the lines as one signaling message.

The line is the one that `Format` would write for the candidate (`candidateSdp_eq_format`), so the parser of the peer reads
it.  `candidates_reach_agent` follows the addresses to the ICE agent of the peer.
-/

namespace VianiumVoip.Tgcalls

open VianiumVoip.Lib VianiumVoip.Domain VianiumVoip.Ice VianiumVoip.Ice.IceCandidateParser
open VianiumVoip.Signaling (TgcallsMessage)

/-! ### Tokens -/

def kAlphabet : List Char := "ABCDEFGHIJKLMNOPQRSTUVWXYZabcdefghijklmnopqrstuvwxyz0123456789+/".toList

/-- `GenerateRandomToken`, with the bytes that are drawn. -/
def generateRandomToken (entropy : Bytes) : String :=
  String.ofList (entropy.map fun b => kAlphabet.getD (b.toNat % kAlphabet.length) 'A')

/-- The port of the candidate lines: it has bit 14, so it is not below 1024. -/
def localUdpPort (localSsrc : UInt32) : UInt16 :=
  let port := (localSsrc &&& 0xFFFF ||| 0x4000).toUInt16
  if port < 1024 then port + 1024 else port

/-! ### The addresses of the platform -/

inductive HostNameType
  | domainName
  | ipv4
  | ipv6
  | bluetooth
  deriving DecidableEq, Repr

/-- A host name of the platform, in UTF-16. -/
structure HostName where
  type : HostNameType
  canonicalName : List UInt16

/-- `PlatformStringToUtf8` -/
def platformStringToUtf8 (s : List UInt16) : String :=
  String.ofList (s.map fun ch => if ch < 0x80 then Char.ofNat ch.toNat else '?')

/-- `IsLocalCandidateIp`: neither loopback, nor link-local, nor with a zone. -/
def isLocalCandidateIp (ip : String) : Bool :=
  let chars := ip.toList
  if chars = [] then false
  else if ip = "127.0.0.1" ∨ ip = "::1" then false
  else
    let linkLocal : Bool := match chars with
      | a :: b :: c :: d :: _ =>
        (a = 'f' ∨ a = 'F') ∧ (b = 'e' ∨ b = 'E') ∧ (c = '8' ∨ c = '9') ∧ (d = '0' ∨ d = '1')
      | _ => false
    if linkLocal then false
    else if '%' ∈ chars then false
    else true

/-- The addresses that `EmitCandidates` keeps. -/
def localIps (hostNames : List HostName) : List String :=
  hostNames.filterMap fun host =>
    if host.type ≠ .ipv4 ∧ host.type ≠ .ipv6 then none
    else
      let ip := platformStringToUtf8 host.canonicalName
      if isLocalCandidateIp ip then some ip else none

/-! ### The lines -/

/-- A candidate line. -/
def candidateSdp (foundationCounter : ℕ) (ip : String) (port : UInt16) (ufrag : String) : String :=
  "candidate:" ++ toString foundationCounter
    ++ " 1 udp 2122194688 "
    ++ ip ++ " " ++ toString port.toNat
    ++ " typ host generation 0 ufrag " ++ ufrag
    ++ " network-id " ++ toString foundationCounter
    ++ " network-cost 10"

/-- The lines, numbered from one on. -/
def candidateLines (port : UInt16) (ufrag : String) (hostNames : List HostName) : List String :=
  ((localIps hostNames).zipIdx 1).map fun (ip, foundationCounter) => candidateSdp foundationCounter ip port ufrag

/-- `EmitCandidates`: the message. -/
def candidatesMessage (port : UInt16) (ufrag : String) (hostNames : List HostName) : TgcallsMessage where
  type := .candidates
  typeName := ascii "Candidates"
  candidates := { candidates := (candidateLines port ufrag hostNames).map fun line => { sdpString := ascii line } }

/-- A text of the code as a text of the model, with one character for each byte. -/
def textOf (bytes : Bytes) : String := String.ofList (bytes.map fun b => Char.ofNat b.toNat)

/-- The candidate of a line. -/
def hostCandidate (foundationCounter : ℕ) (ip : String) (port : UInt16) (ufrag : String) : ParsedIceCandidate where
  foundation := toString foundationCounter
  componentId := 1
  transport := "udp"
  priority := 2122194688
  ip := ip
  port := port.toNat
  type := .host
  ufrag := ufrag
  networkId := foundationCounter
  networkCost := 10

/-! ### Texts -/

/-- Every character is a byte. -/
def IsBytes (s : String) : Prop := ∀ c ∈ s.toList, c.toNat < 256

instance (s : String) : Decidable (IsBytes s) := List.decidableBAll (fun c : Char => c.toNat < 256) s.toList

theorem textOf_ascii {s : String} (h : IsBytes s) : textOf (ascii s) = s := by
  have hlist : s.toList.map ((fun b : UInt8 => Char.ofNat b.toNat) ∘ fun c => c.toNat.toUInt8) = s.toList := by
    refine (List.map_congr_left fun c hc => ?_).trans (List.map_id _)
    have hlt := h c hc
    have hbyte : (c.toNat.toUInt8).toNat = c.toNat := by
      rw [UInt8.toNat_ofNat']
      omega
    rw [Function.comp_apply, hbyte, Char.ofNat_toNat, id]
  rw [textOf, ascii, List.map_map, hlist, String.ofList_toList]

theorem IsBytes.append {s t : String} (hs : IsBytes s) (ht : IsBytes t) : IsBytes (s ++ t) := by
  intro c hc
  rw [String.toList_append, List.mem_append] at hc
  exact hc.elim (hs c) (ht c)

theorem isBytes_toString (n : ℕ) : IsBytes (toString n) := by
  intro c hc
  have hdigit : c.isDigit = true := isDigit_of_mem (n := n) (by rwa [← Nat.toList_repr])
  rw [Char.isDigit, Bool.and_eq_true, decide_eq_true_eq, decide_eq_true_eq] at hdigit
  have hle : c.toNat ≤ 57 := hdigit.2
  omega

theorem kAlphabet_plain : ∀ c ∈ kAlphabet, c.toNat < 128 ∧ ¬ (c = ' ' ∨ c = '\t') := by
  have hall : kAlphabet.all (fun c => c.toNat < 128 && !(c == ' ' || c == '\t')) = true := by decide
  simpa using hall

theorem mem_generateRandomToken {entropy : Bytes} {c : Char} (hc : c ∈ (generateRandomToken entropy).toList) :
    c ∈ kAlphabet := by
  rw [generateRandomToken, String.toList_ofList] at hc
  obtain ⟨b, -, rfl⟩ := List.mem_map.1 hc
  have hlt : b.toNat % kAlphabet.length < kAlphabet.length := Nat.mod_lt _ (by decide)
  rw [List.getD_eq_getElem _ _ hlt]
  exact List.getElem_mem hlt

theorem isBytes_generateRandomToken (entropy : Bytes) : IsBytes (generateRandomToken entropy) := by
  intro c hc
  have hlt := (kAlphabet_plain c (mem_generateRandomToken hc)).1
  omega

theorem isToken_generateRandomToken {entropy : Bytes} (h : entropy ≠ []) :
    IsToken (generateRandomToken entropy).toList := by
  refine ⟨?_, fun c hc => (kAlphabet_plain c (mem_generateRandomToken hc)).2⟩
  rw [generateRandomToken, String.toList_ofList]
  simpa using h

theorem char_ofNat_plain : ∀ n < 128, (Char.ofNat n).toNat < 256 ∧ (Char.ofNat n = ' ' → n = 0x20) ∧
    (Char.ofNat n = '\t' → n = 0x09) := by
  decide

theorem isBytes_platformStringToUtf8 (s : List UInt16) : IsBytes (platformStringToUtf8 s) := by
  intro c hc
  rw [platformStringToUtf8, String.toList_ofList] at hc
  obtain ⟨ch, -, rfl⟩ := List.mem_map.1 hc
  split
  · next hlt => exact (char_ofNat_plain ch.toNat hlt).1
  · decide

/-- `EmitCandidates` keeps the address. -/
def IsKept (host : HostName) : Prop :=
  (host.type = .ipv4 ∨ host.type = .ipv6) ∧ isLocalCandidateIp (platformStringToUtf8 host.canonicalName) = true

instance (host : HostName) : Decidable (IsKept host) :=
  inferInstanceAs (Decidable ((host.type = .ipv4 ∨ host.type = .ipv6) ∧
    isLocalCandidateIp (platformStringToUtf8 host.canonicalName) = true))

theorem mem_localIps_iff {hostNames : List HostName} {ip : String} :
    ip ∈ localIps hostNames ↔ ∃ host ∈ hostNames, IsKept host ∧ platformStringToUtf8 host.canonicalName = ip := by
  refine List.mem_filterMap.trans (exists_congr fun host => and_congr_right fun _ => ?_)
  dsimp only [IsKept]
  split_ifs with htype hlocal
  · have hneither : ¬ (host.type = .ipv4 ∨ host.type = .ipv6) := not_or.2 htype
    simp [hneither]
  · have heither : host.type = .ipv4 ∨ host.type = .ipv6 := by
      rw [← not_or] at htype
      exact not_not.1 htype
    simp [heither, hlocal]
  · simp [hlocal]

/-- Nothing in the name is taken for a blank. -/
def PlainName (host : HostName) : Prop := ∀ ch ∈ host.canonicalName, ch ≠ 0x20 ∧ ch ≠ 0x09

instance (host : HostName) : Decidable (PlainName host) :=
  List.decidableBAll (fun ch : UInt16 => ch ≠ 0x20 ∧ ch ≠ 0x09) host.canonicalName

theorem noBlank_platformStringToUtf8 {s : List UInt16} (h : ∀ ch ∈ s, ch ≠ 0x20 ∧ ch ≠ 0x09) :
    ∀ c ∈ (platformStringToUtf8 s).toList, ¬ (c = ' ' ∨ c = '\t') := by
  intro c hc
  rw [platformStringToUtf8, String.toList_ofList] at hc
  obtain ⟨ch, hch, rfl⟩ := List.mem_map.1 hc
  obtain ⟨hspace, htab⟩ := h ch hch
  split
  · next hlt =>
    obtain ⟨-, hspace', htab'⟩ := char_ofNat_plain ch.toNat hlt
    rintro (heq | heq)
    · exact hspace (UInt16.toNat_inj.1 (hspace' heq))
    · exact htab (UInt16.toNat_inj.1 (htab' heq))
  · decide

theorem isLocalCandidateIp_empty : isLocalCandidateIp "" = false := by decide

theorem isBytes_of_mem_localIps {hostNames : List HostName} {ip : String} (hip : ip ∈ localIps hostNames) :
    IsBytes ip := by
  obtain ⟨host, -, -, rfl⟩ := mem_localIps_iff.1 hip
  exact isBytes_platformStringToUtf8 _

theorem isToken_of_mem_localIps {hostNames : List HostName} {ip : String}
    (hplain : ∀ host ∈ hostNames, IsKept host → PlainName host) (hip : ip ∈ localIps hostNames) :
    IsToken ip.toList := by
  obtain ⟨host, hhost, hkept, rfl⟩ := mem_localIps_iff.1 hip
  refine ⟨fun hnil => ?_, noBlank_platformStringToUtf8 (hplain host hhost hkept)⟩
  have hlocal := hkept.2
  rw [String.toList_eq_nil_iff.1 hnil, isLocalCandidateIp_empty] at hlocal
  cases hlocal

/-! ### A line and its candidate -/

section

variable {n : ℕ} {ip ufrag : String} {port : UInt16}

theorem fields_hostCandidate : fields (hostCandidate n ip port ufrag) =
    ["1".toList, "udp".toList, "2122194688".toList, ip.toList, (toString port.toNat).toList, "typ".toList,
      "host".toList] := by
  have hpriority : toString (2122194688 : UInt32).toNat = "2122194688" := by decide +kernel
  have hcomponent : toString (1 : ℤ) = "1" := by decide +kernel
  show [(toString (1 : ℤ)).toList, _, (toString (2122194688 : UInt32).toNat).toList, _, (toString (port.toNat : ℤ)).toList,
    _, _] = _
  rw [hpriority, hcomponent]
  rfl

theorem pairs_hostCandidate (hn : 0 < n) (hufrag : ufrag ≠ "") : pairs (hostCandidate n ip port ufrag) =
    ["generation".toList, "0".toList, "ufrag".toList, ufrag.toList, "network-id".toList, (toString n).toList,
      "network-cost".toList, "10".toList] := by
  have hrelated : relatedTokens (hostCandidate n ip port ufrag) = [] := if_pos rfl
  have hgeneration : generationTokens (hostCandidate n ip port ufrag) = ["generation".toList, "0".toList] := by
    have hzero : toString (0 : ℤ) = "0" := by decide +kernel
    show [_, (toString (0 : ℤ)).toList] = _
    rw [hzero]
  have hufragTokens : ufragTokens (hostCandidate n ip port ufrag) = ["ufrag".toList, ufrag.toList] := if_neg hufrag
  have hid : networkIdTokens (hostCandidate n ip port ufrag) = ["network-id".toList, (toString n).toList] :=
    if_pos (Int.natCast_pos.2 hn)
  have hcost : networkCostTokens (hostCandidate n ip port ufrag) = ["network-cost".toList, "10".toList] := by
    have hten : toString (10 : ℤ) = "10" := by decide +kernel
    have hpos : networkCostTokens (hostCandidate n ip port ufrag) = ["network-cost".toList, (toString (10 : ℤ)).toList] :=
      if_pos (by decide : (0 : ℤ) < 10)
    rw [hpos, hten]
  rw [pairs, hrelated, hgeneration, hufragTokens, hid, hcost]
  rfl

/-- **The line is the one that `Format` writes.** -/
theorem candidateSdp_eq_format (hn : 0 < n) (hufrag : ufrag ≠ "") :
    candidateSdp n ip port ufrag = format (hostCandidate n ip port ufrag) := by
  have hudp : ("udp" : String) ≠ "" := by decide
  have htransport : (hostCandidate n ip port ufrag).transport ≠ "" := hudp
  have hfront : " 1 udp 2122194688 ".toList = spaced ["1".toList, "udp".toList, "2122194688".toList] ++ [' '] := by
    decide +kernel
  have hmiddle : " typ host generation 0 ufrag ".toList
      = spaced ["typ".toList, "host".toList, "generation".toList, "0".toList, "ufrag".toList] ++ [' '] := by
    decide +kernel
  have hid : " network-id ".toList = spaced ["network-id".toList] ++ [' '] := by decide +kernel
  have hcost : " network-cost 10".toList = spaced ["network-cost".toList, "10".toList] := by decide +kernel
  have hspace : " ".toList = [' '] := by decide +kernel
  have hfoundation : (hostCandidate n ip port ufrag).foundation = toString n := rfl
  apply String.toList_inj.1
  rw [toList_format htransport, fields_hostCandidate, pairs_hostCandidate hn hufrag]
  unfold candidateSdp
  simp only [hfoundation, String.toList_append, hfront, hmiddle, hid, hcost, hspace, spaced, List.flatMap_cons,
    List.flatMap_nil, List.append_assoc, List.cons_append, List.nil_append, List.append_nil]

theorem isInt_natCast {k : ℕ} (h : k < 2 ^ 31) : IsInt (k : ℤ) := by
  unfold IsInt
  omega

theorem printable_hostCandidate (hn : n < 2 ^ 31) (port : UInt16) (hip : IsToken ip.toList) (hufrag : IsToken ufrag.toList) :
    Printable (hostCandidate n ip port ufrag) where
  foundation := isToken_toString (n : ℤ)
  componentId := isInt_natCast (k := 1) (by decide)
  transport := (by decide : IsToken "udp".toList)
  ip := hip
  port := isInt_natCast (port.toNat_lt.trans (by decide))
  type := IceCandidateType.noConfusion
  relatedAddress := .inl rfl
  relatedPort := isInt_natCast (k := 0) (by decide)
  generation := isInt_natCast (k := 0) (by decide)
  ufrag := .inr hufrag
  networkId := isInt_natCast hn
  networkCost := isInt_natCast (k := 10) (by decide)

/-- **The parser of the peer reads the candidate.** -/
theorem parse_candidateSdp (hn : 0 < n) (hlt : n < 2 ^ 31) (hip : IsToken ip.toList) (hufrag : IsToken ufrag.toList) :
    parse (candidateSdp n ip port ufrag) = some (hostCandidate n ip port ufrag) := by
  have hprintable := printable_hostCandidate hlt port hip hufrag
  have hne : ufrag ≠ "" := by
    rintro rfl
    exact hufrag.1 rfl
  have hid : (0 : ℤ) < n := by omega
  obtain ⟨htrim, htokens⟩ := tokens_format hprintable (.inl hid)
  have hcanonical : canonical (hostCandidate n ip port ufrag) = hostCandidate n ip port ufrag := by
    have hmax : max (n : ℤ) 0 = n := max_eq_left hid.le
    have hcost : max (10 : ℤ) 0 = 10 := by decide
    simp only [canonical, hostCandidate, hmax, hcost, if_true]
  rw [← htrim] at htokens
  rw [candidateSdp_eq_format hn hne, parse_of_tokens hprintable ?_ htokens, readExtensions_pairs hprintable, hcanonical]
  rw [htrim, toList_format (transport_ne_empty hprintable)]
  simp

theorem isBytes_candidateSdp (hip : IsBytes ip) (hufrag : IsBytes ufrag) : IsBytes (candidateSdp n ip port ufrag) := by
  have hcandidate : IsBytes "candidate:" := by decide
  have hfront : IsBytes " 1 udp 2122194688 " := by decide
  have hspace : IsBytes " " := by decide
  have hmiddle : IsBytes " typ host generation 0 ufrag " := by decide
  have hid : IsBytes " network-id " := by decide
  have hcost : IsBytes " network-cost 10" := by decide
  exact ((((((((hcandidate.append (isBytes_toString n)).append hfront).append hip).append hspace).append
    (isBytes_toString _)).append hmiddle).append hufrag).append hid).append (isBytes_toString n) |>.append hcost

end

/-! ### All lines -/

section

variable {hostNames : List HostName} {ufrag : String} {port : UInt16}

/-- The candidates of the lines. -/
def hostCandidates (port : UInt16) (ufrag : String) (hostNames : List HostName) : List ParsedIceCandidate :=
  ((localIps hostNames).zipIdx 1).map fun (ip, foundationCounter) => hostCandidate foundationCounter ip port ufrag

theorem mem_zipIdx_localIps {ip : String} {n : ℕ} (h : (ip, n) ∈ (localIps hostNames).zipIdx 1) :
    ip ∈ localIps hostNames ∧ 0 < n ∧ n ≤ (localIps hostNames).length := by
  obtain ⟨hle, hlt, hip⟩ := List.mem_zipIdx h
  refine ⟨?_, by omega, by omega⟩
  rw [hip]
  exact List.getElem_mem _

theorem isBytes_of_mem_candidateLines (hufrag : IsBytes ufrag) {line : String}
    (h : line ∈ candidateLines port ufrag hostNames) : IsBytes line := by
  obtain ⟨⟨ip, n⟩, hmem, rfl⟩ := List.mem_map.1 h
  exact isBytes_candidateSdp (isBytes_of_mem_localIps (mem_zipIdx_localIps hmem).1) hufrag

/-- **The peer accepts the candidate of every line**, and no other. -/
theorem acceptedCandidates_candidateLines (port : UInt16) (hplain : ∀ host ∈ hostNames, IsKept host → PlainName host)
    (hcount : (localIps hostNames).length < 2 ^ 31) (hufrag : IsToken ufrag.toList) :
    IceConnection.acceptedCandidates (candidateLines port ufrag hostNames) = hostCandidates port ufrag hostNames := by
  have hparse : (candidateLines port ufrag hostNames).filterMap parse = hostCandidates port ufrag hostNames := by
    rw [candidateLines, hostCandidates, List.filterMap_map, ← List.filterMap_eq_map]
    refine List.filterMap_congr fun ⟨ip, n⟩ hmem => ?_
    obtain ⟨hip, hpos, hle⟩ := mem_zipIdx_localIps hmem
    rw [Function.comp_apply, Function.comp_apply]
    exact parse_candidateSdp hpos (by omega) (isToken_of_mem_localIps hplain hip) hufrag
  rw [IceConnection.acceptedCandidates, hparse, List.filter_eq_self]
  intro c hc
  obtain ⟨_, -, rfl⟩ := List.mem_map.1 hc
  rfl

/-! ### The agent of the peer -/

theorem mem_targets_addRemoteCandidate {agent : IceAgent} {c : ParsedIceCandidate} {target : IceCheckTarget} :
    target ∈ (agent.addRemoteCandidate c).pairs.map Pair.target ↔
      target ∈ agent.pairs.map Pair.target ∨ target = IceAgent.addressOf c := by
  have hfind : ({ agent with remoteCandidates := agent.remoteCandidates ++ [c] } : IceAgent).findPair c.ip c.port
      = agent.findPair c.ip c.port := rfl
  simp only [IceAgent.addRemoteCandidate, hfind]
  split
  · simp [IceAgent.addressOf]
  · next hknown =>
    rw [or_iff_left_of_imp]
    rintro rfl
    obtain ⟨i, hi⟩ := Option.ne_none_iff_exists'.1 (mt Option.isNone_iff_eq_none.2 hknown)
    obtain ⟨hlt, hmatch, -⟩ := List.findIdx?_eq_some_iff_getElem.1 hi
    have hboth : agent.pairs[i].target.ip = c.ip ∧ agent.pairs[i].target.port = c.port := of_decide_eq_true hmatch
    refine List.mem_map.2 ⟨agent.pairs[i], List.getElem_mem hlt, ?_⟩
    rcases htarget : agent.pairs[i].target with ⟨ip, p⟩
    rw [htarget] at hboth
    rw [IceAgent.addressOf, ← hboth.1, ← hboth.2]

/-- The pairs of the agent are the addresses of what it is fed, one for each. -/
theorem targets_feedCandidates {agent : IceAgent} (hsound : agent.Sound) (lines : List String) :
    (IceConnection.feedCandidates agent lines).Sound ∧
      ∀ target, target ∈ (IceConnection.feedCandidates agent lines).pairs.map Pair.target ↔
        target ∈ agent.pairs.map Pair.target ∨
          ∃ c ∈ IceConnection.acceptedCandidates lines, target = IceAgent.addressOf c := by
  induction lines generalizing agent with
  | nil => exact ⟨hsound, fun target => by simp [IceConnection.feedCandidates, IceConnection.acceptedCandidates]⟩
  | cons line lines ih =>
    have hfeed (s : IceAgent) : IceConnection.feedCandidates s (line :: lines) =
        IceConnection.feedCandidates (IceConnection.feedCandidates s [line]) lines := rfl
    rw [hfeed]
    cases hparse : parse line with
    | none =>
      have hskip : IceConnection.acceptedCandidates (line :: lines) = IceConnection.acceptedCandidates lines := by
        simp [IceConnection.acceptedCandidates, hparse]
      have hone : IceConnection.feedCandidates agent [line] = agent := by
        simp [IceConnection.feedCandidates, hparse]
      rw [hone, hskip]
      exact ih hsound
    | some c =>
      by_cases htype : acceptsType c.type = true
      · have hcons : IceConnection.acceptedCandidates (line :: lines)
            = c :: IceConnection.acceptedCandidates lines := by
          simp [IceConnection.acceptedCandidates, hparse, htype]
        have hone : IceConnection.feedCandidates agent [line] = agent.addRemoteCandidate c := by
          simp [IceConnection.feedCandidates, hparse, htype]
        rw [hone]
        obtain ⟨hsound', hmem⟩ := ih (IceAgent.sound_addRemoteCandidate hsound c)
        refine ⟨hsound', fun target => ?_⟩
        rw [hmem, mem_targets_addRemoteCandidate, hcons, List.exists_mem_cons_iff, or_assoc]
      · have hskip : IceConnection.acceptedCandidates (line :: lines) = IceConnection.acceptedCandidates lines := by
          simp [IceConnection.acceptedCandidates, hparse, htype]
        have hone : IceConnection.feedCandidates agent [line] = agent := by
          simp [IceConnection.feedCandidates, hparse, htype]
        rw [hone, hskip]
        exact ih hsound

/-! ### From the addresses to the agent -/

section

open Signaling Signaling.ChannelFrameCodec Signaling.TgcallsSignalingMessages Signaling.TgcallsSignalingEnvelope

theorem decrypt_encrypt_single (C : Domain.Crypto) {sharedKey : Bytes}
    (hkey : sharedKey.length = Domain.kSharedKeyBytes) (isOutgoing : Bool) (outgoingSeq : UInt32) {message : TgcallsMessage}
    (h : Sendable message) :
    TgcallsSignalingEnvelope.decrypt C sharedKey (!isOutgoing)
      (TgcallsSignalingEnvelope.encrypt C sharedKey isOutgoing outgoingSeq [message]) = [parse (serialize message)] := by
  set outerSeq := outerSequence outgoingSeq (decide ([message].length = 1)) with houter
  set body := joinFrames [messageFrame outerSeq message] with hbody
  have hlong : 12 ≤ body.length := le_length_packet h.1 outerSeq []
  have hpacket : TgcallsSignalingEnvelope.encrypt C sharedKey isOutgoing outgoingSeq [message]
      = TgcallsSignalingCodec.encrypt C sharedKey isOutgoing outerSeq body := rfl
  have hdecrypted : TgcallsSignalingCodec.decrypt C sharedKey (!isOutgoing)
      (TgcallsSignalingCodec.encrypt C sharedKey isOutgoing outerSeq body)
        = { success := true, seq := outerSeq, plain := body } :=
    TgcallsSignalingCodec.decrypt_encrypt_of_le hkey hlong
  have hbytes : TgcallsSignalingCodec.encrypt C sharedKey isOutgoing outerSeq body ≠ [] := by
    intro hempty
    have hlen := congrArg List.length hempty
    rw [TgcallsSignalingCodec.length_encrypt hkey, List.length_nil] at hlen
    omega
  have hsplit : splitFrames outerSeq body = [frame outerSeq kContentTagCustom (serialize message)] :=
    splitFrames_joinFrames (wellFormed_messageFrame h outerSeq) (by simp) outerSeq
  unfold TgcallsSignalingEnvelope.decrypt
  rw [hpacket, if_neg hbytes]
  simp only [hdecrypted]
  rw [if_neg (by decide)]
  show parseFrames (splitFrames outerSeq body) = _
  rw [hsplit, parseFrames_cons h]
  rfl

end

theorem length_le_commaJoin {texts : List Bytes} (h : ∀ text ∈ texts, text ≠ []) :
    texts.length ≤ (Signaling.Json.commaJoin texts).length := by
  induction texts with
  | nil => exact Nat.zero_le _
  | cons text texts ih =>
    obtain ⟨htext, hrest⟩ := List.forall_mem_cons.1 h
    have hpos := List.length_pos_iff.2 htext
    have hlen := ih hrest
    cases texts with
    | nil => exact hpos
    | cons next texts =>
      simp only [Signaling.Json.commaJoin, List.length_append, List.length_cons] at hlen ⊢
      omega

/-- A message that fits has few lines. -/
theorem length_localIps_le (port : UInt16) (ufrag : String) (hostNames : List HostName) :
    (localIps hostNames).length
      ≤ (Signaling.TgcallsSignalingMessages.serialize (candidatesMessage port ufrag hostNames)).length := by
  have hnonempty : ∀ text ∈ (candidateLines port ufrag hostNames).map fun line =>
      ascii "\x7b\"sdpString\":\"" ++ Signaling.Json.escapeJson (ascii line) ++ ascii "\"\x7d", text ≠ [] := by
    simp [ascii]
  have htexts := length_le_commaJoin hnonempty
  have hserialize : Signaling.TgcallsSignalingMessages.serialize (candidatesMessage port ufrag hostNames)
      = ascii "\x7b\"@type\":\"Candidates\",\"candidates\":["
        ++ Signaling.Json.commaJoin ((candidateLines port ufrag hostNames).map fun line =>
          ascii "\x7b\"sdpString\":\"" ++ Signaling.Json.escapeJson (ascii line) ++ ascii "\"\x7d")
        ++ ascii "]\x7d" := by
    simp only [Signaling.TgcallsSignalingMessages.serialize, candidatesMessage,
      Signaling.TgcallsSignalingMessages.serializeCandidates, List.map_map]
    rfl
  rw [List.length_map, candidateLines, List.length_map, List.length_zipIdx] at htexts
  rw [hserialize, List.length_append, List.length_append]
  exact htexts.trans (by rw [candidateLines]; omega)

/-- The lines that a message carries. -/
def messageLines (message : TgcallsMessage) : List String :=
  message.candidates.candidates.map fun c => textOf c.sdpString

theorem messageLines_candidatesMessage (hufrag : IsBytes ufrag) :
    messageLines (candidatesMessage port ufrag hostNames) = candidateLines port ufrag hostNames := by
  rw [messageLines, candidatesMessage, List.map_map]
  refine (List.map_congr_left fun line hline => ?_).trans (List.map_id _)
  exact textOf_ascii (isBytes_of_mem_candidateLines hufrag hline)

/-- **The addresses reach the agent of the peer.**  Whatever addresses the platform has, the other side decrypts one
message from the packet, and an agent that is fed its lines has one pair for each address that was kept, at the port that
was made up, and no other; it knows the candidates in their order. -/
theorem candidates_reach_agent (C : Domain.Crypto) (sharedKey : Bytes)
    (hkey : sharedKey.length = Domain.kSharedKeyBytes) (isOutgoing : Bool) (outgoingSeq : UInt32) (entropy : Bytes)
    (hentropy : entropy ≠ []) (localSsrc : UInt32) (hostNames : List HostName)
    (hplain : ∀ host ∈ hostNames, IsKept host → PlainName host)
    (hsize : (Signaling.TgcallsSignalingMessages.serialize
      (candidatesMessage (localUdpPort localSsrc) (generateRandomToken entropy) hostNames)).length ≤ 1024 * 1024)
    (role : IceAgentRole) (localUfrag localPwd remoteUfrag remotePwd : Bytes) (tieBreak : UInt64) :
    ∃ received : TgcallsMessage,
      Signaling.TgcallsSignalingEnvelope.decrypt C sharedKey (!isOutgoing)
        (Signaling.TgcallsSignalingEnvelope.encrypt C sharedKey isOutgoing outgoingSeq
          [candidatesMessage (localUdpPort localSsrc) (generateRandomToken entropy) hostNames]) = [received] ∧
      received.type = .candidates ∧
      let agent := IceConnection.feedCandidates
        (IceAgent.create role localUfrag localPwd remoteUfrag remotePwd tieBreak) (messageLines received)
      (agent.pairs.map Pair.target).Nodup ∧
        (∀ target, target ∈ agent.pairs.map Pair.target ↔
          ∃ ip ∈ localIps hostNames, target = { ip := ip, port := (localUdpPort localSsrc).toNat }) ∧
        agent.remoteCandidates
          = hostCandidates (localUdpPort localSsrc) (generateRandomToken entropy) hostNames := by
  set port := localUdpPort localSsrc with hport
  set ufrag := generateRandomToken entropy with hufrag
  have hstructured : Signaling.TgcallsSignalingMessages.IsStructured (candidatesMessage port ufrag hostNames) :=
    List.mem_cons_of_mem _ List.mem_cons_self
  obtain ⟨htype, hcandidates⟩ : Signaling.TgcallsSignalingMessages.Same (candidatesMessage port ufrag hostNames)
      (Signaling.TgcallsSignalingMessages.parse
        (Signaling.TgcallsSignalingMessages.serialize (candidatesMessage port ufrag hostNames))) :=
    Signaling.TgcallsSignalingMessages.parse_serialize hstructured
  refine ⟨_, decrypt_encrypt_single C hkey isOutgoing outgoingSeq ⟨hstructured, hsize⟩, htype, ?_⟩
  -- the lines that arrive are the lines that were written
  have hlines : messageLines (Signaling.TgcallsSignalingMessages.parse
      (Signaling.TgcallsSignalingMessages.serialize (candidatesMessage port ufrag hostNames)))
        = candidateLines port ufrag hostNames := by
    have hsame := congrArg (fun m : Signaling.CandidatesMsg => m.candidates.map fun c => textOf c.sdpString) hcandidates
    exact hsame.trans (messageLines_candidatesMessage (isBytes_generateRandomToken entropy))
  have hcount : (localIps hostNames).length < 2 ^ 31 := by
    have hle := length_localIps_le port ufrag hostNames
    omega
  have haccepted := acceptedCandidates_candidateLines port hplain hcount (isToken_generateRandomToken hentropy)
  have hsound := IceAgent.sound_create role localUfrag localPwd remoteUfrag remotePwd tieBreak
  obtain ⟨hfed, htargets⟩ := targets_feedCandidates hsound (candidateLines port ufrag hostNames)
  have hknown := IceConnection.feedCandidates_remoteCandidates
    (IceAgent.create role localUfrag localPwd remoteUfrag remotePwd tieBreak) (candidateLines port ufrag hostNames)
  rw [haccepted] at htargets hknown
  intro agent
  have hagent : agent = IceConnection.feedCandidates
      (IceAgent.create role localUfrag localPwd remoteUfrag remotePwd tieBreak) (candidateLines port ufrag hostNames) := by
    rw [← hlines]
  rw [hagent]
  refine ⟨hfed.unique, fun target => ?_, hknown⟩
  have hnone : target ∉ (IceAgent.create role localUfrag localPwd remoteUfrag remotePwd tieBreak).pairs.map Pair.target :=
    List.not_mem_nil
  rw [htargets, or_iff_right hnone]
  constructor
  · rintro ⟨c, hc, rfl⟩
    obtain ⟨⟨ip, n⟩, hmem, rfl⟩ := List.mem_map.1 hc
    exact ⟨ip, (mem_zipIdx_localIps hmem).1, rfl⟩
  · rintro ⟨ip, hip, rfl⟩
    obtain ⟨i, hlt, rfl⟩ := List.getElem_of_mem hip
    have hmem : ((localIps hostNames)[i], 1 + i) ∈ (localIps hostNames).zipIdx 1 :=
      List.mk_add_mem_zipIdx_iff_getElem?.2 (List.getElem?_eq_getElem hlt)
    exact ⟨hostCandidate (1 + i) (localIps hostNames)[i] port ufrag, List.mem_map.2 ⟨_, hmem, rfl⟩, rfl⟩

end

/-- An address of each family, a loopback address, a link-local address and the name of the machine, with a blank. -/
def sampleHostNames : List HostName :=
  [("192.168.1.20", .ipv4), ("127.0.0.1", .ipv4), ("fe80::1%4", .ipv6), ("my phone", .domainName),
    ("2001:db8::20", .ipv6)].map
    fun (name, type) => { type := type, canonicalName := name.toList.map fun c => c.toNat.toUInt16 }

example : candidateLines (localUdpPort 7) (generateRandomToken [0, 64, 63, 62]) sampleHostNames
    = ["candidate:1 1 udp 2122194688 192.168.1.20 16391 typ host generation 0 ufrag AA/+ network-id 1 network-cost 10",
      "candidate:2 1 udp 2122194688 2001:db8::20 16391 typ host generation 0 ufrag AA/+ network-id 2 network-cost 10"] :=
  by decide +kernel

theorem candidates_reach_agent_sample : ∃ received : TgcallsMessage,
    Signaling.TgcallsSignalingEnvelope.decrypt Domain.sampleCrypto
      Signaling.TgcallsSignalingCodec.sampleKey (!true)
      (Signaling.TgcallsSignalingEnvelope.encrypt Domain.sampleCrypto
        Signaling.TgcallsSignalingCodec.sampleKey true 1
        [candidatesMessage (localUdpPort 7) (generateRandomToken [0, 64, 63, 62]) sampleHostNames]) = [received] ∧
      received.type = .candidates ∧
      let agent := IceConnection.feedCandidates
        (IceAgent.create .controlled (ascii "c3D4") (ascii "pwd") (ascii "AA/+") (ascii "key") 1) (messageLines received)
      (agent.pairs.map Pair.target).Nodup ∧
        (∀ target, target ∈ agent.pairs.map Pair.target ↔
          ∃ ip ∈ localIps sampleHostNames, target = { ip := ip, port := (localUdpPort 7).toNat }) ∧
        agent.remoteCandidates = hostCandidates (localUdpPort 7) (generateRandomToken [0, 64, 63, 62]) sampleHostNames :=
  candidates_reach_agent _ _ Signaling.TgcallsSignalingCodec.length_sampleKey true 1 [0, 64, 63, 62] (by decide) 7
    sampleHostNames (by decide +kernel) (by decide +kernel) .controlled _ _ _ _ 1

end VianiumVoip.Tgcalls
