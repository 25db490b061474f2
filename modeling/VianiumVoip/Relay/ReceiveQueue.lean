import VianiumVoip.Lib.RotatingQueue
import VianiumVoip.Lib.Run
import VianiumVoip.Relay.PacketCrypto

/-!
# The receive queue of a reflector session

An open `DatagramSocketReflectorSession`: the handler of the socket puts datagrams into a queue, and `Receive` takes the
first one with the peer tag out of it, or waits.  Both hold the lock, but for the time that `Receive` waits: so an event
is the handler with one datagram, the begin of a `Receive`, or what it does when its wait ends.

What matches the tag comes out in the order it has arrived in, and nothing of it is lost (`receive_in_order`).
-/

namespace VianiumVoip.Relay.ReceiveQueue

open VianiumVoip.Lib RotatingQueue VoipPacketCrypto

/-- `MatchesPeerTag` -/
def matchesPeerTag (peerTag bytes : Bytes) : Bool :=
  if peerTag = [] then true
  else if peerTag.length ≠ kPeerTagBytes then false
  else if bytes.length < peerTag.length then false
  else (List.range peerTag.length).all fun i => bytes.getD i 0 = peerTag.getD i 0

/-- The session, with what its calls of `Receive` have returned: a datagram, or that they timed out. -/
structure DatagramSession where
  /-- `m_received` -/
  received : List Bytes := []
  /-- A `Receive` waits. -/
  waiting : Bool := false
  results : List (Option Bytes) := []
  deriving DecidableEq

inductive SocketEvent
  | arrive (bytes : Bytes)
  | receive
  /-- The wait ends in time, with a notification or without one. -/
  | wake
  | timeout
  deriving DecidableEq

namespace DatagramSession

variable (peerTag : Bytes)

/-- The loop over the datagrams that are pending. -/
def look (s : DatagramSession) : DatagramSession :=
  match search (matchesPeerTag peerTag) s.received.length s.received with
  | (some datagram, received) =>
    { received := received, waiting := false, results := s.results ++ [some datagram] }
  | (none, received) => { s with received := received, waiting := true }

/-- One `Receive` at a time: events that need a waiting one, or need none, have no effect without it. -/
def step (s : DatagramSession) : SocketEvent → DatagramSession
  | .arrive bytes => if bytes = [] then s else { s with received := s.received ++ [bytes] }
  | .receive => if s.waiting then s else s.look peerTag
  | .wake => if s.waiting then s.look peerTag else s
  | .timeout => if s.waiting then { s with waiting := false, results := s.results ++ [none] } else s

/-- The datagrams that have been returned. -/
def returned (s : DatagramSession) : List Bytes := s.results.filterMap id

/-- A new session after some events. -/
def after (events : List SocketEvent) : DatagramSession := Run.run (step peerTag) {} events

end DatagramSession

/-- The datagram that an event brings. -/
def SocketEvent.datagram : SocketEvent → Option Bytes
  | .arrive bytes => some bytes
  | .receive | .wake | .timeout => none

/-- What the socket has received, in order. -/
def arrivals (events : List SocketEvent) : List Bytes := events.filterMap SocketEvent.datagram

/-! ### The tag -/

variable {peerTag : Bytes}

theorem matchesPeerTag_iff (h : peerTag.length = kPeerTagBytes) {bytes : Bytes} :
    matchesPeerTag peerTag bytes = true ↔ peerTag <+: bytes := by
  have hne : peerTag ≠ [] := List.ne_nil_of_length_pos (by rw [h]; decide)
  rw [matchesPeerTag, if_neg hne, if_neg (not_not_intro h), List.prefix_iff_eq_take]
  by_cases hshort : bytes.length < peerTag.length
  · rw [if_pos hshort]
    refine ⟨fun hfalse => Bool.noConfusion hfalse, fun heq => ?_⟩
    have hlength := congrArg List.length heq
    rw [List.length_take] at hlength
    omega
  · have hlength : peerTag.length = (bytes.take peerTag.length).length := by
      rw [List.length_take]
      omega
    rw [if_neg hshort, List.all_eq_true]
    simp only [List.mem_range, decide_eq_true_eq]
    constructor
    · intro hall
      refine List.ext_getElem hlength fun i hi hi' => ?_
      have hbyte := hall i hi
      rw [List.getD_eq_getElem _ _ (by omega), List.getD_eq_getElem _ _ hi] at hbyte
      rw [List.getElem_take, hbyte]
    · intro heq i hi
      have hbyte := List.getElem_of_eq heq hi
      rw [List.getElem_take] at hbyte
      rw [List.getD_eq_getElem _ _ (by omega), List.getD_eq_getElem _ _ hi, hbyte]

/-! ### One event -/

namespace DatagramSession

/-- What has been returned and what waits to be: the datagrams with the tag, in order. -/
def matching (peerTag : Bytes) (s : DatagramSession) : List Bytes :=
  s.returned ++ s.received.filter (matchesPeerTag peerTag)

theorem matching_look (s : DatagramSession) : (s.look peerTag).matching peerTag = s.matching peerTag := by
  have hfilter := search_filter (matchesPeerTag peerTag) s.received
  unfold look matching returned
  generalize search (matchesPeerTag peerTag) s.received.length s.received = found at hfilter ⊢
  obtain ⟨datagram | datagram, received⟩ := found
  · rw [← hfilter]
    rfl
  · rw [← hfilter, List.filterMap_append, List.append_assoc]
    rfl

/-- **An event adds what it brings**, if it matches, and takes nothing away. -/
theorem matching_step (h : peerTag.length = kPeerTagBytes) (s : DatagramSession) (event : SocketEvent) :
    (s.step peerTag event).matching peerTag
      = s.matching peerTag ++ event.datagram.toList.filter (matchesPeerTag peerTag) := by
  cases event with
  | arrive bytes =>
    by_cases hempty : bytes = []
    · have hno : matchesPeerTag peerTag [] = false := by
        rw [← Bool.not_eq_true, matchesPeerTag_iff h, List.prefix_nil]
        exact List.ne_nil_of_length_pos (by rw [h]; decide)
      rw [step, if_pos hempty, hempty]
      simp [SocketEvent.datagram, hno]
    · rw [step, if_neg hempty]
      simp only [matching, returned, List.filter_append, List.append_assoc, SocketEvent.datagram, Option.toList_some]
  | receive =>
    rw [SocketEvent.datagram, Option.toList_none, List.filter_nil, List.append_nil, step]
    split
    · rfl
    · exact matching_look s
  | wake =>
    rw [SocketEvent.datagram, Option.toList_none, List.filter_nil, List.append_nil, step]
    split
    · exact matching_look s
    · rfl
  | timeout =>
    rw [SocketEvent.datagram, Option.toList_none, List.filter_nil, List.append_nil, step]
    split
    · simp [matching, returned, List.filterMap_append]
    · rfl

theorem results_receive {s : DatagramSession} (hwaiting : s.waiting = false) {datagram : Bytes} {rest : List Bytes}
    (h : s.received.filter (matchesPeerTag peerTag) = datagram :: rest) :
    (s.step peerTag .receive).results = s.results ++ [some datagram] := by
  rw [step, if_neg (by rw [hwaiting]; decide), look]
  rcases first_or_none (matchesPeerTag peerTag) s.received with hnone | ⟨front, first, back, heq, hfront, hfirst⟩
  · rw [List.filter_eq_nil_iff.2 fun a ha => by simp [hnone a ha]] at h
    cases h
  · have hempty : front.filter (matchesPeerTag peerTag) = [] :=
      List.filter_eq_nil_iff.2 fun a ha => by simp [hfront a ha]
    rw [heq, List.filter_append, hempty, List.filter_cons_of_pos hfirst, List.nil_append] at h
    obtain ⟨rfl, -⟩ := List.cons.inj h
    rw [heq, search_of_first hfront hfirst]

/-! ### All events -/

theorem matching_run (h : peerTag.length = kPeerTagBytes) (s : DatagramSession) (events : List SocketEvent) :
    (Run.run (step peerTag) s events).matching peerTag
      = s.matching peerTag ++ (arrivals events).filter (matchesPeerTag peerTag) := by
  induction events generalizing s with
  | nil => simp [arrivals]
  | cons event events ih =>
    have harrivals : arrivals (event :: events) = event.datagram.toList ++ arrivals events := by
      rw [arrivals, List.filterMap_cons]
      cases event.datagram <;> rfl
    rw [Run.run_cons, ih, matching_step h, harrivals, List.filter_append, List.append_assoc]

/-- **What matches the tag is received in order**: after any events the datagrams that `Receive` has returned are the
first ones of those with the tag, the others with the tag wait in the queue, and a `Receive` that finds one there
returns the next one. -/
theorem receive_in_order (peerTag : Bytes) (h : peerTag.length = kPeerTagBytes) (events : List SocketEvent) :
    let s := after peerTag events
    let tagged := (arrivals events).filter fun bytes => peerTag <+: bytes
    s.returned <+: tagged ∧ s.received.filter (fun bytes => peerTag <+: bytes) = tagged.drop s.returned.length ∧
      (∀ bytes ∈ s.returned, peerTag <+: bytes) ∧
      ∀ datagram rest, s.waiting = false → tagged.drop s.returned.length = datagram :: rest →
        (after peerTag (events ++ [.receive])).returned = s.returned ++ [datagram] := by
  intro s tagged
  have hmatches : matchesPeerTag peerTag = fun bytes => decide (peerTag <+: bytes) := by
    funext bytes
    rw [Bool.eq_iff_iff, matchesPeerTag_iff h, decide_eq_true_eq]
  have hrun : s.returned ++ s.received.filter (fun bytes => peerTag <+: bytes) = tagged := by
    have hrun := matching_run h {} events
    rw [matching, hmatches] at hrun
    exact hrun
  have hqueue : s.received.filter (fun bytes => peerTag <+: bytes) = tagged.drop s.returned.length := by
    rw [← hrun, List.drop_left]
  have hreturned : s.returned <+: tagged := ⟨_, hrun⟩
  refine ⟨hreturned, hqueue, ?_, ?_⟩
  · intro bytes hmem
    exact of_decide_eq_true (List.mem_filter.1 (hreturned.subset hmem)).2
  · intro datagram rest hwaiting hnext
    have hresults := results_receive hwaiting (by rw [hmatches, hqueue, hnext])
    rw [after, Run.run_concat, returned]
    change ((s.step peerTag .receive).results).filterMap id = _
    rw [hresults, List.filterMap_append]
    rfl

/-- A `Receive` times out; a datagram of another reflector comes, and one with the tag, which the next call returns. -/
theorem receive_in_order_one :
    (after (List.replicate 16 7)
      ([.receive, .timeout, .arrive [1, 2], .arrive (List.replicate 16 7 ++ [5])] ++ [.receive])).returned
        = [List.replicate 16 7 ++ [5]] :=
  (receive_in_order (List.replicate 16 7) (by decide)
    [.receive, .timeout, .arrive [1, 2], .arrive (List.replicate 16 7 ++ [5])]).2.2.2 (List.replicate 16 7 ++ [5]) []
    (by decide) (by decide)

end DatagramSession

end VianiumVoip.Relay.ReceiveQueue
