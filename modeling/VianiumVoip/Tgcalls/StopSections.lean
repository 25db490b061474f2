import VianiumVoip.Tgcalls.ConnectionParts

/-!
# Stopping under several threads

`Stop` sets `m_stopped`, and further down its section makes the state `Stopped`.  The retry timer and `OnIceConnected`
look at this under the lock before they go on.  `TransitionTo` does not, nor do `EmitMessages` and the handlers of
incoming signaling, and a handler that has made its check goes on when `Stop` has run.

`absorbed_run` says in which runs a connection stays stopped.  When the section of `Stop` runs, no handler stands
between its check and a transition, and none that is under way takes a branch to one later; when `Stop` returns, no
callback is outstanding; and no signaling that is answered comes in after that.
-/

namespace VianiumVoip.Tgcalls

open VianiumVoip.Lib VianiumVoip.Lib.Run VianiumVoip.Dtls VianiumVoip.Ice TgcallsConnection IceConnection

/-- What is called from outside. -/
inductive Entry
  | stop
  | retryTimer
  | datagram (srcIp : String) (srcPort : ℤ) (payload : Bytes)
  /-- `HandleIncomingSignaling`, with what it has decrypted. -/
  | signaling (messages : List TgcallsMessage)

/-- The push overload of `OnReflectorDatagram` frames the payload once more. -/
def Entry.parts : Entry → List Part
  | .stop => [.stop]
  | .retryTimer => [.retryTimer]
  | .datagram _ _ payload => if payload = [] then [] else [.onReflectorDatagram (List.replicate 16 0 ++ payload)]
  | .signaling messages => [.handleIncomingSignaling messages]

inductive StopEvent
  | enters (entry : Entry)
  /-- The `k`-th thread performs its next part. -/
  | performs (k : ℕ) (answers : Answers)

/-- The part leads to a `TransitionTo` where the connection is stopped, whatever it finds. -/
def Part.pastCheck : Part → Bool
  | .transitionTo _ => true
  -- there is no certificate any more
  | .takeLocalCert => true
  | .startAudioPhase _ => true
  | .openAudio => true
  | _ => false

/-- The part calls out, with another state than `Stopped` or with a message. -/
def Part.outstanding : Part → Bool
  | .stateChanged newState => newState ≠ .stopped
  | .emitMessages _ => true
  | .signalingOut _ => true
  | _ => false

/-- What `Stop` does behind its exchange of `m_stopped`. -/
def Part.ofStop : Part → Bool
  | .takeAll => true
  | .returnFromStop => true
  | _ => false

/-- The part is none of those. -/
structure Part.Quiet (part : Part) : Prop where
  pastCheck : part.pastCheck = false
  outstanding : part.outstanding = false
  ofStop : part.ofStop = false

/-- What a stopped connection may show. -/
def Shown.afterStop : Shown → Bool
  | .stateChanged newState => newState = .stopped
  | .signalingOut _ => false
  | .stopReturned => true

def Shown.isReturn : Shown → Bool
  | .stopReturned => true
  | _ => false

structure StopRun where
  connection : IceConnection
  /-- What the threads still have to do. -/
  threads : List (List Part) := []
  shown : List Shown := []

namespace StopRun

section Definitions

variable (C : Crypto) (r : StopRun)

def step (r : StopRun) : StopEvent → StopRun
  | .enters entry => { r with threads := r.threads ++ [entry.parts] }
  | .performs k answers =>
    match r.threads[k]? with
    | some (part :: rest) =>
      { connection := (r.connection.perform C answers part).connection
        threads := r.threads.set k ((r.connection.perform C answers part).next ++ rest)
        shown := r.shown ++ (r.connection.perform C answers part).shown }
    | _ => r

/-- What is still to be done, by any thread. -/
def parts : List Part := r.threads.flatten

/-- `Stop` has returned. -/
def returned : Bool := r.shown.any Shown.isReturn

/-- What has been shown since `Stop` returned for the first time. -/
def shownSince : List Shown := r.shown.dropWhile fun o => !o.isReturn

/-- **Stopped is absorbing.** -/
structure Absorbed : Prop where
  state : r.returned = true → r.connection.state = .stopped
  shown : ∀ o ∈ r.shownSince, o.afterStop = true

/-- The condition on a part that is performed. -/
def admits : Part → Bool
  | .stop =>
    -- a second `Stop` returns at once
    !r.connection.stopped || r.connection.state = .stopped && r.parts.all fun part => !part.outstanding
  | .takeAll => r.parts.all fun part => !part.pastCheck
  | .returnFromStop => r.parts.all fun part => !part.outstanding
  | .handleIncomingSignaling (.ping _ :: _) => !r.returned
  | .startIcePhase => !r.returned || !r.connection.peerReady || r.connection.iceStarted
  -- by a handler that has been past the check of `OnIceConnected` before
  | .startDtlsPhase => r.connection.state ≠ .stopped || r.connection.dtls.isSome
  | .readSrtpReady dtls =>
    r.connection.state ≠ .stopped || dtls.state ≠ .failed && (dtls.state ≠ .established || r.connection.srtpReady)
  | _ => true

def Admits : StopEvent → Prop
  | .enters _ => True
  | .performs k _ => ∀ part ∈ (r.threads.getD k []).head?, r.admits part = true

instance (ev : StopEvent) : Decidable (r.Admits ev) :=
  match ev with
  | .enters _ => inferInstanceAs (Decidable True)
  | .performs k _ => inferInstanceAs (Decidable (∀ part ∈ (r.threads.getD k []).head?, r.admits part = true))

/-- A started connection that no `Stop` has been called on.  Any handlers may be under way. -/
structure Running : Prop where
  state : r.connection.state ≠ .stopped
  threads : ∀ part ∈ r.parts, part.ofStop = false ∧ part ≠ .transitionTo .stopped
  returned : r.returned = false

end Definitions

end StopRun

/-! ### What one part can do -/

namespace IceConnection

variable {C : Crypto} {answers : Answers} {c : IceConnection} {part new : Part}

/-- The state changes in the section of `Stop` and in that of `TransitionTo`. -/
theorem state_perform (hall : part ≠ .takeAll) (htransition : ∀ newState, part ≠ .transitionTo newState) :
    (c.perform C answers part).connection.state = c.state := by
  cases part with
  | takeAll => exact absurd rfl hall
  | transitionTo newState => exact absurd rfl (htransition newState)
  | handleIncomingSignaling messages => cases messages <;> rfl
  | sendIceBindingRequests => rw [perform, sendIceBindingRequests_base]
  | onSrtpDatagram inner =>
    simp only [perform, TgcallsConnection.onSrtpDatagram]
    repeat' split
    all_goals rfl
  | _ =>
    simp only [perform]
    repeat' split
    all_goals rfl

theorem stopped_perform (h : c.stopped = true ∨ part = .stop) :
    (c.perform C answers part).connection.stopped = true := by
  rcases h with h | rfl
  · cases part with
    | handleIncomingSignaling messages => cases messages <;> exact h
    | sendIceBindingRequests =>
      rw [perform, sendIceBindingRequests_base]
      exact h
    | onSrtpDatagram inner =>
      simp only [perform, TgcallsConnection.onSrtpDatagram]
      repeat' split
      all_goals exact h
    | stop => rw [perform, if_pos h]; exact h
    | _ =>
      simp only [perform]
      repeat' split
      all_goals exact h
  · simp only [perform]
    split_ifs with hstopped
    · exact hstopped
    · rfl

/-- **What a part can lead to**, with the check that it has made on the way. -/
inductive Leads (c : IceConnection) : Part → Part → Prop
  | stop : Leads c .stop .takeAll
  | changedByStop : Leads c .takeAll (.stateChanged .stopped)
  | returning : Leads c .takeAll .returnFromStop
  | changed (newState : State) : Leads c (.transitionTo newState) (.stateChanged newState)
  | envelope (message : TgcallsMessage) : Leads c (.emitMessages message) (.signalingOut message)
  | pong (pingId : UInt32) (rest : List TgcallsMessage) :
      Leads c (.handleIncomingSignaling (.ping pingId :: rest)) (.emitMessages (.pong pingId))
  | candidates (lines : List String) (hready : c.peerReady = true) (hstarted : c.iceStarted = false) :
      Leads c .startIcePhase (.emitMessages (.candidates lines))
  | gaveUp (hstopped : c.stopped = false) : Leads c .retryTimer (.transitionTo .failed)
  | handshake (new : Part) (hnew : new.pastCheck = true) (htarget : new ≠ .transitionTo .stopped)
      (hdtls : c.dtls = none) : Leads c .startDtlsPhase new
  | handshakeOver (dtls : DtlsClientSession) (new : Part) (hnew : new.pastCheck = true)
      (htarget : new ≠ .transitionTo .stopped)
      (hover : dtls.state = .established ∧ c.srtpReady = false ∨ dtls.state = .failed) :
      Leads c (.readSrtpReady dtls) new
  | onward (part new : Part) (hpart : part.pastCheck = true) (hnew : new.pastCheck = true)
      (htarget : new ≠ .transitionTo .stopped) : Leads c part new
  | quiet (part new : Part) (hnew : new.Quiet) : Leads c part new

theorem Leads.of_mem {only : Part} (honly : Leads c part only) (h : new ∈ [only]) : Leads c part new := by
  rw [List.mem_singleton.1 h]
  exact honly

theorem Leads.of_mem_quiet {only : Part} (honly : only.Quiet) (h : new ∈ [only]) : Leads c part new :=
  .of_mem (.quiet part only honly) h

theorem leads_handler {message : TgcallsMessage} {rest : List TgcallsMessage} (h : new ∈ message.handler) :
    Leads c (.handleIncomingSignaling (message :: rest)) new := by
  cases message with
  | initialSetup msg => exact .of_mem_quiet ⟨rfl, rfl, rfl⟩ h
  | candidates lines => exact .of_mem_quiet ⟨rfl, rfl, rfl⟩ h
  | ping pingId => exact .of_mem (.pong pingId rest) h
  | pong pingId => cases h
  | mediaState => cases h
  | other => cases h

theorem leads_demultiplex {inner : Bytes} {firstByte : UInt8} (h : new ∈ demultiplex firstByte inner) :
    Leads c part new := by
  unfold demultiplex at h
  split_ifs at h
  · exact .of_mem_quiet ⟨rfl, rfl, rfl⟩ h
  · exact .of_mem_quiet ⟨rfl, rfl, rfl⟩ h
  · exact .of_mem_quiet ⟨rfl, rfl, rfl⟩ h
  · cases h

theorem leads_withLocalCert (h : new ∈ c.withLocalCert answers) : Leads c .takeLocalCert new := by
  unfold withLocalCert at h
  split at h
  · exact .of_mem (.onward _ _ rfl rfl (by simp)) h
  · split_ifs at h
    · exact .of_mem (.onward _ _ rfl rfl (by simp)) h
    · exact .of_mem_quiet ⟨rfl, rfl, rfl⟩ h

theorem leads_afterDatagram {dtls : DtlsClientSession} (h : new ∈ c.afterDatagram C dtls) :
    Leads c (.readSrtpReady dtls) new := by
  unfold afterDatagram at h
  by_cases hready : dtls.state = .established ∧ (!c.srtpReady) = true
  · have hover : dtls.state = .established ∧ c.srtpReady = false := by simpa using hready
    rw [if_pos hready] at h
    dsimp only at h
    split_ifs at h
    · exact .of_mem (.handshakeOver dtls _ rfl (by simp) (.inl hover)) h
    · exact .of_mem (.handshakeOver dtls _ rfl (by simp) (.inl hover)) h
  · rw [if_neg hready] at h
    split_ifs at h with hfailed
    · exact .of_mem (.handshakeOver dtls _ rfl (by simp) (.inr hfailed)) h
    · cases h

theorem leads_startIcePhase (h : new ∈ (c.perform C answers .startIcePhase).next) : Leads c .startIcePhase new := by
  by_cases hready : c.peerReady = true
  · rw [perform, if_neg (by simp [hready])] at h
    rcases List.mem_append.1 h with h | h
    · split_ifs at h with hstarted
      · cases h
      · exact .of_mem (.candidates _ hready (by simpa using hstarted)) h
    · split_ifs at h
      · cases h
      · exact .of_mem_quiet ⟨rfl, rfl, rfl⟩ h
  · rw [perform, if_pos (by simp [hready])] at h
    cases h

theorem leads_retryTimer (h : new ∈ (c.perform C answers .retryTimer).next) : Leads c .retryTimer new := by
  rw [perform] at h
  split_ifs at h with hdone hattempts
  · cases h
  · have hrunning : c.stopped = false := by
      cases hstopped : c.stopped with
      | false => rfl
      | true => exact absurd (.inl hstopped) hdone
    exact .of_mem (.gaveUp hrunning) h
  · rcases List.mem_cons.1 h with rfl | h
    · exact .quiet _ _ ⟨rfl, rfl, rfl⟩
    · exact .of_mem_quiet ⟨rfl, rfl, rfl⟩ h

theorem leads_perform (h : new ∈ (c.perform C answers part).next) : Leads c part new := by
  cases part with
  | stop =>
    rw [perform] at h
    split_ifs at h
    · cases h
    · exact .of_mem .stop h
  | takeAll =>
    rcases List.mem_cons.1 h with rfl | h
    · exact .changedByStop
    · exact .of_mem .returning h
  | returnFromStop => cases h
  | transitionTo newState =>
    rw [perform] at h
    split_ifs at h
    · cases h
    · exact .of_mem (.changed newState) h
  | stateChanged newState => cases h
  | emitMessages message =>
    rw [perform] at h
    split_ifs at h
    · exact .of_mem (.envelope message) h
    · cases h
  | signalingOut message =>
    rw [perform] at h
    split_ifs at h <;> cases h
  | handleIncomingSignaling messages =>
    cases messages with
    | nil => cases h
    | cons message rest =>
      rcases List.mem_append.1 h with h | h
      · exact leads_handler h
      · exact .of_mem_quiet ⟨rfl, rfl, rfl⟩ h
  | onPeerInitialSetup msg =>
    simp only [perform] at h
    split_ifs at h
    · exact .of_mem_quiet ⟨rfl, rfl, rfl⟩ h
    · rcases List.mem_cons.1 h with rfl | h
      · exact .quiet _ _ ⟨rfl, rfl, rfl⟩
      · exact .of_mem_quiet ⟨rfl, rfl, rfl⟩ h
  | adoptRole peerSetup =>
    rw [perform] at h
    split_ifs at h <;> cases h
  | onPeerCandidates lines => exact .of_mem_quiet ⟨rfl, rfl, rfl⟩ h
  | startIcePhase => exact leads_startIcePhase h
  | latchIceStarted agent =>
    rw [perform] at h
    split_ifs at h
    · cases h
    · exact .of_mem_quiet ⟨rfl, rfl, rfl⟩ h
  | installAgent agent => exact .of_mem_quiet ⟨rfl, rfl, rfl⟩ h
  | sendIceBindingRequests => cases h
  | retryTimer => exact leads_retryTimer h
  | countAttempt => cases h
  | onReflectorDatagram bytes =>
    rw [perform] at h
    split at h
    · cases h
    · cases h
    · exact leads_demultiplex h
  | stunDatagram =>
    rw [perform] at h
    split at h
    · cases h
    · exact .of_mem_quiet ⟨rfl, rfl, rfl⟩ h
  | processIncoming agent =>
    simp only [perform] at h
    split_ifs at h
    · exact .of_mem_quiet ⟨rfl, rfl, rfl⟩ h
    · cases h
  | onIceConnected =>
    rw [perform] at h
    split_ifs at h
    · cases h
    · exact .of_mem_quiet ⟨rfl, rfl, rfl⟩ h
  | startDtlsPhase =>
    rw [perform] at h
    split at h
    · cases h
    next hdtls =>
    rcases List.mem_cons.1 h with rfl | h
    · exact .handshake _ rfl (by simp) hdtls
    · exact .of_mem (.handshake _ rfl (by simp) hdtls) h
  | takeLocalCert => exact leads_withLocalCert h
  | installDtls dtls => cases h
  | dtlsDatagram =>
    rw [perform] at h
    split at h
    · cases h
    · exact .of_mem_quiet ⟨rfl, rfl, rfl⟩ h
  | processDatagram dtls => exact .of_mem_quiet ⟨rfl, rfl, rfl⟩ h
  | readSrtpReady dtls => exact leads_afterDatagram h
  | startAudioPhase keys => exact .of_mem (.onward _ _ rfl rfl (by simp)) h
  | openAudio =>
    rw [perform] at h
    split_ifs at h
    · exact .of_mem (.onward _ _ rfl rfl (by simp)) h
    · exact .of_mem (.onward _ _ rfl rfl (by simp)) h
    · exact .of_mem (.onward _ _ rfl rfl (by simp)) h
  | srtpDatagram inner =>
    rw [perform] at h
    split_ifs at h
    · exact .of_mem_quiet ⟨rfl, rfl, rfl⟩ h
    · cases h
  | onSrtpDatagram inner => cases h

/-- **What a part shows.** -/
theorem shown_perform (C : Crypto) (c : IceConnection) (answers : Answers) (part : Part) :
    (c.perform C answers part).shown = [] ∨
    (∃ newState, part = .stateChanged newState ∧ (c.perform C answers part).shown = [.stateChanged newState]) ∨
    (∃ message, part = .signalingOut message ∧ (c.perform C answers part).shown = [.signalingOut message]) ∨
    (part = .stop ∧ c.stopped = true ∨ part = .returnFromStop) ∧
      (c.perform C answers part).connection = c ∧ (c.perform C answers part).next = [] ∧
      (c.perform C answers part).shown = [.stopReturned] := by
  cases part with
  | stop =>
    by_cases hstopped : c.stopped = true
    · simp [perform, hstopped]
    · simp [perform, hstopped]
  | returnFromStop => exact .inr (.inr (.inr ⟨.inr rfl, rfl, rfl, rfl⟩))
  | stateChanged newState => exact .inr (.inl ⟨newState, rfl, rfl⟩)
  | signalingOut message =>
    by_cases hkey : c.sharedKey.length = kSharedKeySize
    · exact .inr (.inr (.inl ⟨message, rfl, by simp [perform, hkey]⟩))
    · exact .inl (by simp [perform, hkey])
  | handleIncomingSignaling messages => cases messages <;> exact .inl rfl
  | _ =>
    refine .inl ?_
    simp only [perform]
    repeat' split
    all_goals rfl

theorem state_of_perform (htarget : part ≠ .transitionTo .stopped)
    (h : (c.perform C answers part).connection.state = .stopped) : part = .takeAll ∨ c.state = .stopped := by
  by_cases hall : part = .takeAll
  · exact .inl hall
  refine .inr ?_
  by_cases htransition : ∃ newState, part = .transitionTo newState
  · obtain ⟨newState, rfl⟩ := htransition
    rw [perform] at h
    split_ifs at h
    · exact h
    · subst h
      exact absurd rfl htarget
  · rw [state_perform hall fun newState heq => htransition ⟨newState, heq⟩] at h
    exact h

/-- Behind its checks a part that has not been past them leaves a stopped connection stopped. -/
theorem state_perform_of_stopped (hpart : part.pastCheck = false) (h : c.state = .stopped) :
    (c.perform C answers part).connection.state = .stopped := by
  by_cases hall : part = .takeAll
  · subst hall
    rfl
  · rw [state_perform hall (by rintro newState rfl; cases hpart), h]

end IceConnection

/-! ### Threads -/

theorem Part.outstanding_of_pastCheck {part : Part} (h : part.pastCheck = true) : part.outstanding = false := by
  cases part <;> first | rfl | cases h

theorem Entry.quiet_of_mem {entry : Entry} {part : Part} (h : part ∈ entry.parts) : part.Quiet := by
  cases entry with
  | stop =>
    rw [List.mem_singleton.1 h]
    exact ⟨rfl, rfl, rfl⟩
  | retryTimer =>
    rw [List.mem_singleton.1 h]
    exact ⟨rfl, rfl, rfl⟩
  | datagram srcIp srcPort payload =>
    rw [Entry.parts] at h
    split_ifs at h
    · cases h
    · rw [List.mem_singleton.1 h]
      exact ⟨rfl, rfl, rfl⟩
  | signaling messages =>
    rw [List.mem_singleton.1 h]
    exact ⟨rfl, rfl, rfl⟩

namespace StopRun

variable {C : Crypto} {r : StopRun} {k : ℕ} {answers : Answers} {part new : Part} {rest next : List Part}

theorem mem_parts_enters {entry : Entry} (h : part ∈ (r.step C (.enters entry)).parts) :
    part ∈ r.parts ∨ part ∈ entry.parts := by
  simpa [step, parts] using h

theorem mem_parts_of_thread (hk : r.threads[k]? = some (part :: rest)) : part ∈ r.parts :=
  List.mem_flatten.2 ⟨_, List.mem_of_getElem? hk, List.mem_cons_self⟩

theorem mem_parts_set (hk : r.threads[k]? = some (part :: rest)) (h : new ∈ (r.threads.set k (next ++ rest)).flatten) :
    new ∈ next ∨ new ∈ r.parts := by
  obtain ⟨thread, hthread, hnew⟩ := List.mem_flatten.1 h
  rcases List.mem_or_eq_of_mem_set hthread with hold | rfl
  · exact .inr (List.mem_flatten.2 ⟨thread, hold, hnew⟩)
  rcases List.mem_append.1 hnew with hnew | hnew
  · exact .inl hnew
  · exact .inr (List.mem_flatten.2 ⟨part :: rest, List.mem_of_getElem? hk, List.mem_cons_of_mem _ hnew⟩)

theorem shownSince_eq_nil_iff : r.shownSince = [] ↔ r.returned = false := by
  simp [shownSince, returned, List.dropWhile_eq_nil_iff]

/-! ### What holds of an admitted run -/

/-- A connection that is `Stopped` has come there by its `Stop`, and no thread is past a check then; and behind the
return of `Stop` no thread has anything outstanding. -/
structure Settled (r : StopRun) : Prop where
  stopped : r.connection.state = .stopped → r.connection.stopped = true
  checked : r.connection.state = .stopped → ∀ part ∈ r.parts, part.pastCheck = false
  target : ∀ part ∈ r.parts, part ≠ .transitionTo .stopped
  taking : .takeAll ∈ r.parts → r.connection.stopped = true
  returning : .returnFromStop ∈ r.parts → r.connection.state = .stopped
  state : r.returned = true → r.connection.state = .stopped
  silent : r.returned = true → ∀ part ∈ r.parts, part.outstanding = false
  shown : ∀ o ∈ r.shownSince, o.afterStop = true

theorem Settled.absorbed (h : r.Settled) : r.Absorbed := ⟨h.state, h.shown⟩

theorem settled_enters (h : r.Settled) (entry : Entry) : (r.step C (.enters entry)).Settled := by
  have hparts : ∀ part ∈ (r.step C (.enters entry)).parts, part ∈ r.parts ∨ part.Quiet := fun part hpart =>
    (mem_parts_enters hpart).imp_right Entry.quiet_of_mem
  refine ⟨h.stopped, fun hstate part hpart => ?_, fun part hpart => ?_, fun hpart => ?_, fun hpart => ?_, h.state,
    fun hreturned part hpart => ?_, h.shown⟩
  · exact (hparts part hpart).elim (h.checked hstate part) fun hquiet => hquiet.pastCheck
  · rcases hparts part hpart with hold | hquiet
    · exact h.target part hold
    · rintro rfl
      cases hquiet.pastCheck
  · exact (hparts _ hpart).elim h.taking fun hquiet => by cases hquiet.ofStop
  · exact (hparts _ hpart).elim h.returning fun hquiet => by cases hquiet.ofStop
  · exact (hparts part hpart).elim (h.silent hreturned part) fun hquiet => hquiet.outstanding

/-- On a stopped connection, an admitted part leads to none that is past its check. -/
theorem pastCheck_of_leads (h : r.Settled) (hpart : part ∈ r.parts) (hadmits : r.admits part = true)
    (hstate : r.connection.state = .stopped) (hnew : Leads r.connection part new) : new.pastCheck = false := by
  have hchecked := h.checked hstate part hpart
  cases hnew with
  | gaveUp hrunning =>
    rw [h.stopped hstate] at hrunning
    cases hrunning
  | handshake _ _ _ hdtls =>
    simp [admits, hstate, hdtls] at hadmits
  | handshakeOver dtls _ hnew htarget hover =>
    simp only [admits, hstate, ne_eq, not_true_eq_false, decide_false, Bool.false_or, Bool.and_eq_true,
      Bool.or_eq_true, decide_eq_true_eq] at hadmits
    rcases hover with ⟨hestablished, hready⟩ | hfailed
    · rcases hadmits.2 with hother | hready'
      · exact absurd hestablished hother
      · rw [hready] at hready'
        cases hready'
    · exact absurd hfailed hadmits.1
  | onward _ _ hpast _ _ =>
    rw [hchecked] at hpast
    cases hpast
  | quiet _ _ hquiet => exact hquiet.pastCheck
  | _ => rfl

theorem outstanding_of_leads (h : r.Settled) (hpart : part ∈ r.parts) (hadmits : r.admits part = true)
    (hreturned : r.returned = true) (hnew : Leads r.connection part new) : new.outstanding = false := by
  have hchecked := h.checked (h.state hreturned) part hpart
  have hsilent := h.silent hreturned part hpart
  cases hnew with
  | changed newState => cases hchecked
  | envelope message => cases hsilent
  | pong pingId rest =>
    rw [admits, hreturned] at hadmits
    cases hadmits
  | candidates lines hready hstarted =>
    rw [admits, hreturned, hready, hstarted] at hadmits
    cases hadmits
  | handshake _ hnew htarget hdtls => exact Part.outstanding_of_pastCheck hnew
  | handshakeOver dtls _ hnew htarget hover => exact Part.outstanding_of_pastCheck hnew
  | onward _ _ _ hnew _ => exact Part.outstanding_of_pastCheck hnew
  | quiet _ _ hquiet => exact hquiet.outstanding
  | _ => rfl

theorem pastCheck_of_leads_takeAll (hnew : Leads r.connection .takeAll new) : new.pastCheck = false := by
  cases hnew with
  | onward _ _ hpast _ _ => cases hpast
  | quiet _ _ hquiet => exact hquiet.pastCheck
  | _ => rfl

theorem eq_stop_of_leads (hnew : Leads r.connection part .takeAll) : part = .stop := by
  cases hnew with
  | stop => rfl
  | handshake _ hnew _ _ => cases hnew
  | handshakeOver dtls _ hnew _ _ => cases hnew
  | onward _ _ _ hnew _ => cases hnew
  | quiet _ _ hquiet => cases hquiet.ofStop

theorem eq_takeAll_of_leads (hnew : Leads r.connection part .returnFromStop) : part = .takeAll := by
  cases hnew with
  | returning => rfl
  | handshake _ hnew _ _ => cases hnew
  | handshakeOver dtls _ hnew _ _ => cases hnew
  | onward _ _ _ hnew _ => cases hnew
  | quiet _ _ hquiet => cases hquiet.ofStop

theorem target_of_leads (hnew : Leads r.connection part new) : new ≠ .transitionTo .stopped := by
  cases hnew with
  | handshake _ hnew htarget hdtls => exact htarget
  | handshakeOver dtls _ hnew htarget hover => exact htarget
  | onward _ _ _ hnew htarget => exact htarget
  | quiet _ _ hquiet =>
    rintro rfl
    cases hquiet.pastCheck
  | _ => simp

theorem step_performs (hk : r.threads[k]? = some (part :: rest)) :
    r.step C (.performs k answers) =
      { connection := (r.connection.perform C answers part).connection
        threads := r.threads.set k ((r.connection.perform C answers part).next ++ rest)
        shown := r.shown ++ (r.connection.perform C answers part).shown } := by
  simp only [step, hk]

theorem state_of_return (h : r.Settled) (hpart : part ∈ r.parts) (hadmits : r.admits part = true)
    (hreturn : part = .stop ∧ r.connection.stopped = true ∨ part = .returnFromStop) :
    r.connection.state = .stopped ∧ ∀ other ∈ r.parts, other.outstanding = false := by
  rcases hreturn with ⟨rfl, hstopped⟩ | rfl
  · simpa [admits, hstopped] using hadmits
  · exact ⟨h.returning hpart, by simpa [admits] using hadmits⟩

theorem shown_return (hreturn : ((r.connection.perform C answers part).shown.any Shown.isReturn) = true) :
    (part = .stop ∧ r.connection.stopped = true ∨ part = .returnFromStop) ∧
      (r.connection.perform C answers part).connection = r.connection ∧
      (r.connection.perform C answers part).next = [] := by
  rcases shown_perform C r.connection answers part with
    hnone | ⟨newState, rfl, hshown⟩ | ⟨message, rfl, hshown⟩ | ⟨hpart, hconn, hnext, hshown⟩
  · rw [hnone] at hreturn
    cases hreturn
  · rw [hshown] at hreturn
    cases hreturn
  · rw [hshown] at hreturn
    cases hreturn
  · exact ⟨hpart, hconn, hnext⟩

theorem afterStop_of_shown (hpart : part.outstanding = false) {o : Shown}
    (ho : o ∈ (r.connection.perform C answers part).shown) : o.afterStop = true := by
  rcases shown_perform C r.connection answers part with
    hnone | ⟨newState, rfl, hshown⟩ | ⟨message, rfl, hshown⟩ | ⟨-, -, -, hshown⟩
  · rw [hnone] at ho
    cases ho
  · rw [hshown, List.mem_singleton] at ho
    subst ho
    simpa [Part.outstanding, Shown.afterStop] using hpart
  · cases hpart
  · rw [hshown, List.mem_singleton] at ho
    subst ho
    rfl

theorem afterStop_of_return {o : Shown}
    (ho : o ∈ (r.connection.perform C answers part).shown.dropWhile fun o => !o.isReturn) : o.afterStop = true := by
  rcases shown_perform C r.connection answers part with
    hnone | ⟨newState, rfl, hshown⟩ | ⟨message, rfl, hshown⟩ | ⟨-, -, -, hshown⟩
  · rw [hnone] at ho
    cases ho
  · rw [hshown] at ho
    cases ho
  · rw [hshown] at ho
    cases ho
  · rw [hshown] at ho
    obtain rfl := List.mem_singleton.1 ho
    rfl

theorem settled_performs (h : r.Settled) (hk : r.threads[k]? = some (part :: rest)) (hadmits : r.admits part = true) :
    (r.step C (.performs k answers)).Settled := by
  rw [step_performs hk]
  have hpart := mem_parts_of_thread hk
  have hleads : ∀ new ∈ (r.connection.perform C answers part).next, Leads r.connection part new :=
    fun new hnew => leads_perform hnew
  -- a stopped connection stays so, and it has become so in the section of `Stop` or was so before
  have hstays : r.connection.state = .stopped → (r.connection.perform C answers part).connection.state = .stopped :=
    fun hstate => state_perform_of_stopped (h.checked hstate part hpart) hstate
  have hcame : (r.connection.perform C answers part).connection.state = .stopped →
      part = .takeAll ∨ r.connection.state = .stopped := state_of_perform (h.target part hpart)
  refine ⟨?_, ?_, ?_, ?_, ?_, ?_, ?_, ?_⟩
  · intro hstate
    rcases hcame hstate with rfl | hbefore
    · exact stopped_perform (.inl (h.taking hpart))
    · exact stopped_perform (.inl (h.stopped hbefore))
  · intro hstate new hnew
    rcases hcame hstate with rfl | hbefore
    · rcases mem_parts_set hk hnew with hnew | hold
      · exact pastCheck_of_leads_takeAll (hleads new hnew)
      · have hall : ∀ other ∈ r.parts, other.pastCheck = false := by simpa [admits] using hadmits
        exact hall new hold
    · rcases mem_parts_set hk hnew with hnew | hold
      · exact pastCheck_of_leads h hpart hadmits hbefore (hleads new hnew)
      · exact h.checked hbefore new hold
  · intro new hnew
    rcases mem_parts_set hk hnew with hnew | hold
    · exact target_of_leads (hleads new hnew)
    · exact h.target new hold
  · intro htaking
    rcases mem_parts_set hk htaking with hnew | hold
    · exact stopped_perform (.inr (eq_stop_of_leads (hleads _ hnew)))
    · exact stopped_perform (.inl (h.taking hold))
  · intro hreturning
    rcases mem_parts_set hk hreturning with hnew | hold
    · obtain rfl := eq_takeAll_of_leads (hleads _ hnew)
      rfl
    · exact hstays (h.returning hold)
  · intro hreturned
    rw [returned, List.any_append, Bool.or_eq_true] at hreturned
    rcases hreturned with hbefore | hnow
    · exact hstays (h.state hbefore)
    · exact hstays (state_of_return h hpart hadmits (shown_return hnow).1).1
  · intro hreturned new hnew
    rw [returned, List.any_append, Bool.or_eq_true] at hreturned
    rcases hreturned with hbefore | hnow
    · rcases mem_parts_set hk hnew with hnew | hold
      · exact outstanding_of_leads h hpart hadmits hbefore (hleads new hnew)
      · exact h.silent hbefore new hold
    · obtain ⟨hreturn, -, hnext⟩ := shown_return hnow
      rcases mem_parts_set hk hnew with hnew | hold
      · rw [hnext] at hnew
        cases hnew
      · exact (state_of_return h hpart hadmits hreturn).2 new hold
  · intro o ho
    rw [shownSince, List.dropWhile_append] at ho
    split_ifs at ho with hempty
    · exact afterStop_of_return ho
    · have hreturned : r.returned = true := by
        rw [← Bool.not_eq_false, ← shownSince_eq_nil_iff, shownSince, ← List.isEmpty_iff]
        exact hempty
      rcases List.mem_append.1 ho with ho | ho
      · exact h.shown o ho
      · exact afterStop_of_shown (h.silent hreturned part hpart) ho

theorem settled_step (r : StopRun) (ev : StopEvent) (h : r.Settled) (hadmits : r.Admits ev) :
    (r.step C ev).Settled := by
  cases ev with
  | enters entry => exact settled_enters h entry
  | performs k answers =>
    cases hk : r.threads[k]? with
    | none =>
      simp only [step, hk]
      exact h
    | some thread =>
      cases thread with
      | nil =>
        simp only [step, hk]
        exact h
      | cons part rest => exact settled_performs h hk (hadmits part (by simp [hk]))

theorem Running.settled (h : r.Running) : r.Settled where
  stopped hstate := absurd hstate h.state
  checked hstate := absurd hstate h.state
  target part hpart := (h.threads part hpart).2
  taking hpart := by cases (h.threads _ hpart).1
  returning hpart := by cases (h.threads _ hpart).1
  state hreturned := by rw [h.returned] at hreturned; cases hreturned
  silent hreturned := by rw [h.returned] at hreturned; cases hreturned
  shown o ho := by rw [shownSince_eq_nil_iff.2 h.returned] at ho; cases ho

theorem state_of_start {base : TgcallsConnection} {P : Cert.Platform} {input : StartInput}
    (h : (base.start P input).2.2 = none) : (base.start P input).1.state = .iceConnecting := by
  revert h
  unfold start
  dsimp only
  split
  · intro h
    cases h
  split
  · intro h
    cases h
  split
  · intro h
    cases h
  split
  · intro h
    cases h
  split
  · intro h
    cases h
  split
  · intro h
    cases h
  · exact fun _ => rfl

theorem running_of_start {base : TgcallsConnection} {P : Cert.Platform} {input : StartInput}
    (h : (base.start P input).2.2 = none) : Running { connection := ofConnection (base.start P input).1 } := by
  refine ⟨?_, fun part hpart => (by cases hpart), rfl⟩
  rw [ofConnection, state_of_start h]
  decide

/-- **When `Stopped` is absorbing.**  In every interleaving whose parts are admitted, at every point of it: once `Stop`
has returned the state is `Stopped`, and since then there was no callback with another state and no message. -/
theorem absorbed_run (C : Crypto) (r : StopRun) (events : List StopEvent) (hrunning : r.Running)
    (hguard : Guarded (step C) Admits r events) : ∀ pre, pre <+: events → (run (step C) r pre).Absorbed := by
  rintro pre ⟨post, rfl⟩
  have hpre : Guarded (step C) Admits r pre := (guarded_append.1 hguard).1
  exact (invariant_run settled_step hrunning.settled hpre).absorbed

/-! ### A timer that is late, and a ping -/

def sampleAnswers : Answers where
  ice := sampleDraws
  handshake := nullDraws
  audio := { opened := true, codecInit := true }

/-- The `k`-th thread performs its next `n` parts. -/
def performing (k n : ℕ) : List StopEvent := List.replicate n (.performs k sampleAnswers)

def sampleLibrary : Crypto := ⟨nullCrypto, Srtp.sampleCrypto⟩

def sampleStarted : StopRun where
  connection := ofConnection (sampleCall.start sampleLibrary.dtls.toPlatform sampleStart).1

/-- `Stop` from beginning to end, as the `k`-th thread. -/
def stopping (k : ℕ) : List StopEvent := .enters .stop :: performing k 4

/-- A ping that comes in when `Stop` has returned. -/
def latePing : List StopEvent := stopping 0 ++ .enters (.signaling [.ping 7]) :: performing 1 3

/-- Twenty checks that nobody has answered, and a tick that gives up. -/
def unanswered : List StopEvent :=
  .enters (.signaling
      [.initialSetup
        { ufrag := "abcd", pwd := "0123456789abcdef012345", supportsRenomination := false, hash := "sha-256"
          setup := "active", fingerprint := [] },
        .candidates ["candidate:rl1 1 udp 16776959 10.0.0.1 1400 typ relay generation 0 ufrag abcd"]]) ::
    performing 0 14 ++
    (List.range 20).flatMap fun tick => .enters .retryTimer :: performing (tick + 1) 3

/-- `Stop` comes between the check of the last tick and its transition. -/
def lateTimer : List StopEvent := unanswered ++ .enters .retryTimer :: performing 21 1 ++ stopping 22 ++ performing 21 2

/-- A `Stop` that meets no handler, and a tick behind it. -/
theorem absorbed_sample :
    (run (step sampleLibrary) sampleStarted (stopping 0 ++ .enters .retryTimer :: performing 1 1)).Absorbed :=
  absorbed_run sampleLibrary sampleStarted _ (running_of_start (by decide +kernel)) (by decide +kernel) _
    List.prefix_rfl

/-- **A stopped connection reports `Failed`, and one answers a ping.** -/
theorem not_absorbed :
    ¬ (run (step sampleLibrary) sampleStarted lateTimer).Absorbed ∧
      ¬ (run (step sampleLibrary) sampleStarted latePing).Absorbed := by
  constructor
  · intro h
    have hfailed : (run (step sampleLibrary) sampleStarted lateTimer).returned = true ∧
        (run (step sampleLibrary) sampleStarted lateTimer).connection.state = .failed := by
      decide +kernel
    have hstopped := h.state hfailed.1
    rw [hfailed.2] at hstopped
    cases hstopped
  · intro h
    have hpong : (run (step sampleLibrary) sampleStarted latePing).shownSince.all Shown.afterStop = false := by
      decide +kernel
    rw [List.all_eq_true.2 h.shown] at hpong
    cases hpong

end StopRun

end VianiumVoip.Tgcalls
