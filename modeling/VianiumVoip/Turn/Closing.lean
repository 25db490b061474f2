import VianiumVoip.Turn.Threads

/-!
# Closing a TURN client under several threads

`Close` takes `m_active` back and clears `m_allocated` in a section of its own.  A handshake looks at `m_active` while it
waits, and not any more once it has its response: the section that records the allocation comes whenever it comes.  A
second `Close` finds `m_active` taken back and returns at once, whether the first one has cleared `m_allocated` or not;
and one that comes before `OpenAllocation` has set `m_active` does nothing.

`stays_closed_run` says in which runs a closed client stays closed.
-/

namespace VianiumVoip.Turn

open VianiumVoip.Lib VianiumVoip.Lib.Run VianiumVoip.Engine AllocationClient

/-- What a thread is about to do to the two flags. -/
inductive Phase
  /-- An `OpenAllocation` that has not set `m_active` yet. -/
  | opening
  /-- A handshake that has its response, and has not recorded the allocation yet. -/
  | recording
  /-- A `Close` that has taken `m_active` back, and not cleared `m_allocated` yet. -/
  | closing
  | other
  deriving DecidableEq

def Point.phase : Point → Phase
  | .openAllocation _ | .reset _ | .bind | .installSocket _ | .activate => .opening
  | .recordAllocation _ => .recording
  | .closeSection _ => .closing
  | _ => .other

def Point.isCloseReturn : Point → Bool
  | .closeReturn _ => true
  | _ => false

/-- `OpenAllocation` -/
def Call.opens : Call → Bool
  | .openAllocation _ _ => true
  | _ => false

/-- `Send` and `AddPeerPermission` -/
def Call.needsAllocation : Call → Bool
  | .send _ _ | .addPeerPermission _ => true
  | _ => false

structure ClosingRun extends TurnSystem where
  /-- A `Close` has returned, and no `OpenAllocation` was called since. -/
  closed : Bool := false
  /-- The threads that were called since. -/
  late : List ℕ := []

namespace ClosingRun

section Definitions

variable (C : Crypto) (r : ClosingRun)

def step (r : ClosingRun) (ev : TurnEvent) : ClosingRun :=
  match ev with
  | .calls call =>
    { toTurnSystem := r.toTurnSystem.step C ev
      closed := r.closed && !call.opens
      late := if r.closed && !call.opens then r.late ++ [r.threads.length] else [] }
  | .performs k _ =>
    { toTurnSystem := r.toTurnSystem.step C ev
      closed := r.closed || r.threads[k]?.any fun t => t.point.isCloseReturn
      late := r.late }

/-- The call has returned an error, or its next access returns one. -/
def Refused (t : Thread) : Prop :=
  ∃ error, t.point = .returned (.error error) ∨
    ∀ C answers, r.client.perform C answers t.call t.point = (r.client, .returned (.error error))

/-- **A closed client**: `IsAllocated()` is false, and every later `Send` and `AddPeerPermission` gets an error. -/
structure StaysClosed : Prop where
  allocated : r.closed = true → r.client.allocated = false
  refused : r.closed = true → ∀ k ∈ r.late, ∀ t ∈ r.threads[k]?, t.call.needsAllocation = true → r.Refused t

/-- The condition on an access. -/
def admits : Point → Bool
  | .closeSection _ => r.threads.all fun t => t.point.phase ≠ .recording
  | .closeReturn _ => !r.client.active && r.threads.all fun t => t.point.phase ≠ .opening && t.point.phase ≠ .closing
  | _ => true

def Admits : TurnEvent → Prop
  | .calls _ => True
  | .performs k _ => ∀ t ∈ r.threads[k]?, r.admits t.point = true

instance (ev : TurnEvent) : Decidable (r.Admits ev) :=
  match ev with
  | .calls _ => inferInstanceAs (Decidable True)
  | .performs k _ => inferInstanceAs (Decidable (∀ t ∈ r.threads[k]?, r.admits t.point = true))

/-- What holds in every run that meets the condition. -/
structure Inv : Prop where
  /-- An allocation, or a response that leads to one, is found on an active client or one that is being closed. -/
  tracked : (r.client.allocated = true ∨ ∃ t ∈ r.threads, t.point.phase = .recording) →
    r.client.active = true ∨ ∃ t ∈ r.threads, t.point.phase = .closing
  inactive : r.closed = true → r.client.active = false
  settled : r.closed = true → ∀ t ∈ r.threads, t.point.phase ≠ .opening ∧ t.point.phase ≠ .closing
  called : ∀ k ∈ r.late, k < r.threads.length
  first : r.closed = true → ∀ k ∈ r.late, ∀ t ∈ r.threads[k]?, t.call.needsAllocation = true →
    t.point = t.call.entry ∨ ∃ error, t.point = .returned (.error error)
  open_late : r.closed = false → r.late = []

end Definitions

end ClosingRun

/-! ### What an access does to the flags -/

namespace AllocationClient

variable {C : Crypto} {answers : Answers} {c : AllocationClient} {call : Call} {point : Point}

theorem active_perform (C : Crypto) (answers : Answers) (c : AllocationClient) (call : Call) (point : Point) :
    (c.perform C answers call point).1.active
      = match point with
        | .activate => true
        | .close _ => false
        | _ => c.active := by
  cases point with
  | bind => cases h : answers.bindFault <;> simp only [perform, h]
  | waitForResponse request txnId =>
    simp only [perform]
    split_ifs
    · rfl
    · split <;> rfl
  | _ => rfl

theorem allocated_perform (C : Crypto) (answers : Answers) (c : AllocationClient) (call : Call) (point : Point) :
    (c.perform C answers call point).1.allocated
      = match point with
        | .recordAllocation _ => true
        | .closeSection _ => false
        | _ => c.allocated := by
  cases point with
  | bind => cases h : answers.bindFault <;> simp only [perform, h]
  | waitForResponse request txnId =>
    simp only [perform]
    split_ifs
    · rfl
    · split <;> rfl
  | _ => rfl

theorem phase_permissionFailed (call : Call) (error : VoipError) : (permissionFailed call error).phase = .other := by
  cases call <;> rfl

theorem phase_requestFailed (call : Call) (request : Request) (error : VoipError) :
    (requestFailed call request error).phase = .other := by
  cases request
  case createPermission => exact phase_permissionFailed call error
  all_goals rfl

theorem phase_sendFailed (call : Call) (request : Option (Request × Bytes)) (error : VoipError) :
    (sendFailed call request error).phase = .other := by
  cases request with
  | none => rfl
  | some request => exact phase_requestFailed call request.1 error

theorem phase_onResponse (call : Call) (request : Request) (response : TurnMessage) :
    (onResponse call request response).phase = .other ∨ (onResponse call request response).phase = .recording := by
  cases request with
  | allocate =>
    simp only [onResponse, onChallenge]
    split_ifs <;> split
    all_goals first
      | exact .inl rfl
      | exact .inr rfl
  | allocateAuthed =>
    simp only [onResponse, onAllocated]
    split_ifs
    · exact .inl rfl
    · exact .inl rfl
    · split
      · exact .inl rfl
      · exact .inr rfl
  | createPermission peers =>
    simp only [onResponse, onPermission]
    split_ifs
    · exact .inl (phase_permissionFailed call _)
    · exact .inl (phase_permissionFailed call _)
    · exact .inl rfl

/-- **Where an access leads**, as far as the flags are concerned. -/
inductive Leads (c : AllocationClient) : Point → Phase → Prop
  | other (point : Point) : Leads c point .other
  | checked (reflector : Reflector) (h : c.active = false) : Leads c (.openAllocation reflector) .opening
  | opening (point : Point) (h : point.phase = .opening) : Leads c point .opening
  | recording (request : Request) (txnId : Bytes) (h : c.active = true) :
      Leads c (.waitForResponse request txnId) .recording
  | closing (result : Result) (h : c.active = true) : Leads c (.close result) .closing

theorem Leads.of_recording (h : Leads c point .recording) : c.active = true := by
  cases h with
  | recording request txnId hactive => exact hactive

theorem Leads.of_closing (h : Leads c point .closing) : c.active = true := by
  cases h with
  | closing result hactive => exact hactive

theorem Leads.of_opening (h : Leads c point .opening) : point.phase = .opening := by
  cases h with
  | checked reflector _ => rfl
  | opening _ hopening => exact hopening

theorem Leads.of_other {phase : Phase} (h : phase = .other) : Leads c point phase := by
  rw [h]
  exact .other point

theorem leads_perform (C : Crypto) (answers : Answers) (c : AllocationClient) (call : Call) (point : Point) :
    Leads c point (c.perform C answers call point).2.phase := by
  cases point with
  | openAllocation reflector =>
    simp only [perform, checkReflector]
    cases hactive : c.active with
    | true => exact .other _
    | false =>
      rw [if_neg (by decide)]
      split_ifs
      all_goals first
        | exact .other _
        | exact .checked reflector hactive
  | reset reflector => exact .opening _ rfl
  | bind =>
    simp only [perform]
    split
    · exact .other _
    · exact .opening _ rfl
  | installSocket socket => exact .opening _ rfl
  | recordAllocation relayed =>
    simp only [perform]
    split_ifs <;> exact .other _
  | addPeerPermission peer =>
    simp only [perform]
    split_ifs <;> exact .other _
  | deduplicate peer =>
    simp only [perform]
    split_ifs <;> exact .other _
  | createPermission peers =>
    simp only [perform]
    split_ifs
    · exact .of_other (phase_permissionFailed call _)
    · exact .other _
    · exact .other _
  | send peer bytes =>
    simp only [perform]
    split_ifs <;> exact .other _
  | beginRequest request => cases request <;> exact .other _
  | store socket bytes request =>
    simp only [perform]
    split_ifs
    · exact .of_other (phase_sendFailed call request _)
    · exact .of_other (phase_sendFailed call request _)
    · split
      · exact .of_other (phase_sendFailed call _ _)
      · exact .other _
      · exact .other _
  | waitForResponse request txnId =>
    simp only [perform]
    split_ifs with hactive
    · exact .of_other (phase_requestFailed call request _)
    · split
      · next response slot _ =>
        rcases phase_onResponse call request response with h | h
        · exact .of_other h
        · rw [h]
          exact .recording request txnId (by simpa using hactive)
      · exact .other _
  | waiting request txnId =>
    simp only [perform]
    split_ifs
    · exact .of_other (phase_requestFailed call request _)
    · exact .other _
  | messageReceived socket bytes =>
    simp only [perform]
    split_ifs <;> exact .other _
  | close result =>
    simp only [perform]
    split_ifs with hactive
    · exact .closing result hactive
    · exact .other _
  | closeSection result =>
    simp only [perform]
    split <;> exact .other _
  | _ => exact .other _

end AllocationClient

/-! ### The invariant -/

namespace ClosingRun

variable {C : Crypto} {r : ClosingRun} {ev : TurnEvent}

/-- Only an `OpenAllocation` begins in a phase of its own. -/
theorem phase_entry (call : Call) :
    call.entry.phase ≠ .recording ∧ call.entry.phase ≠ .closing
      ∧ (call.opens = false → call.entry.phase ≠ .opening) := by
  cases call with
  | openAllocation reflector peerAddresses =>
    refine ⟨?_, ?_, fun hopens => Bool.noConfusion hopens⟩
    all_goals simp [Call.entry, Point.phase]
  | _ =>
    refine ⟨?_, ?_, fun _ => ?_⟩
    all_goals simp [Call.entry, Point.phase]

theorem inv_calls (h : r.Inv) (call : Call) : (r.step C (.calls call)).Inv := by
  have hentry := phase_entry call
  have hthreads : (r.step C (.calls call)).threads = r.threads ++ [{ call := call, point := call.entry }] := rfl
  have hclient : (r.step C (.calls call)).client = r.client := rfl
  have hclosed : (r.step C (.calls call)).closed = (r.closed && !call.opens) := rfl
  have hlate : (r.step C (.calls call)).late
      = if r.closed && !call.opens then r.late ++ [r.threads.length] else [] := rfl
  constructor
  case tracked =>
    rw [hthreads, hclient]
    rintro (hallocated | ⟨t, ht, hphase⟩)
    · rcases h.tracked (.inl hallocated) with hactive | ⟨t, ht, hphase⟩
      · exact .inl hactive
      · exact .inr ⟨t, List.mem_append_left _ ht, hphase⟩
    · rcases List.mem_append.1 ht with ht | ht
      · rcases h.tracked (.inr ⟨t, ht, hphase⟩) with hactive | ⟨t, ht, hphase⟩
        · exact .inl hactive
        · exact .inr ⟨t, List.mem_append_left _ ht, hphase⟩
      · rw [List.mem_singleton.1 ht] at hphase
        exact absurd hphase hentry.1
  case inactive =>
    rw [hclosed, hclient, Bool.and_eq_true]
    exact fun hc => h.inactive hc.1
  case settled =>
    rw [hclosed, hthreads, Bool.and_eq_true, Bool.not_eq_true']
    rintro ⟨hc, hopens⟩ t ht
    rcases List.mem_append.1 ht with ht | ht
    · exact h.settled hc t ht
    · rw [List.mem_singleton.1 ht]
      exact ⟨hentry.2.2 hopens, hentry.2.1⟩
  case called =>
    rw [hlate, hthreads, List.length_append, List.length_singleton]
    split_ifs
    · intro k hk
      rcases List.mem_append.1 hk with hk | hk
      · exact (h.called k hk).trans (Nat.lt_succ_self _)
      · rw [List.mem_singleton.1 hk]
        exact Nat.lt_succ_self _
    · exact fun k hk => absurd hk List.not_mem_nil
  case first =>
    rw [hclosed, hlate, hthreads]
    intro hc
    rw [if_pos hc]
    rw [Bool.and_eq_true] at hc
    intro k hk t ht hneeds
    rcases List.mem_append.1 hk with hk | hk
    · rw [List.getElem?_append_left (h.called k hk)] at ht
      exact h.first hc.1 k hk t ht hneeds
    · rw [List.mem_singleton.1 hk, List.getElem?_concat_length] at ht
      rw [← Option.some.inj ht]
      exact .inl rfl
  case open_late =>
    rw [hclosed, hlate]
    intro hc
    rw [hc]
    rfl

theorem perform_entry {c : AllocationClient} {call : Call} (hneeds : call.needsAllocation = true)
    (hallocated : c.allocated = false) :
    ∃ error, ∀ C answers, c.perform C answers call call.entry = (c, .returned (.error error)) := by
  cases call with
  | send peer bytes => exact ⟨_, fun C answers => by simp only [Call.entry, perform, hallocated]; rfl⟩
  | addPeerPermission peer => exact ⟨_, fun C answers => by simp only [Call.entry, perform, hallocated]; rfl⟩
  | _ => cases hneeds

/-- While a client is closed there is no allocation, and no thread is about to record one. -/
theorem Inv.unallocated (h : r.Inv) (hclosed : r.closed = true) :
    r.client.allocated = false ∧ ∀ t ∈ r.threads, t.point.phase ≠ .recording := by
  have hnone : ¬ (r.client.allocated = true ∨ ∃ t ∈ r.threads, t.point.phase = .recording) := by
    intro hsome
    rcases h.tracked hsome with hactive | ⟨t, ht, hphase⟩
    · rw [h.inactive hclosed] at hactive
      cases hactive
    · exact (h.settled hclosed t ht).2 hphase
  refine ⟨?_, fun t ht hphase => hnone (.inr ⟨t, ht, hphase⟩)⟩
  cases hallocated : r.client.allocated with
  | false => rfl
  | true => exact absurd (.inl hallocated) hnone

theorem mem_set_of_ne {threads : List Thread} {k : ℕ} {t other : Thread} (hk : threads[k]? = some t)
    (hother : other ∈ threads) (hne : other ≠ t) (new : Thread) : other ∈ threads.set k new := by
  obtain ⟨j, hj⟩ := List.mem_iff_getElem?.1 hother
  have hkj : k ≠ j := by
    rintro rfl
    rw [hk] at hj
    exact hne (Option.some.inj hj).symm
  exact List.mem_iff_getElem?.2 ⟨j, by rw [List.getElem?_set_ne hkj, hj]⟩

section Performs

variable {answers : Answers} {k : ℕ} {t : Thread}

theorem step_performs (hk : r.threads[k]? = some t) :
    r.step C (.performs k answers)
      = { client := (r.client.perform C answers t.call t.point).1
          threads := r.threads.set k { t with point := (r.client.perform C answers t.call t.point).2 }
          closed := r.closed || t.point.isCloseReturn
          late := r.late } := by
  simp only [step, TurnSystem.step, hk]
  rfl

theorem Point.eq_of_phase_closing {point : Point} (h : point.phase = .closing) :
    ∃ result, point = .closeSection result := by
  cases point with
  | closeSection result => exact ⟨result, rfl⟩
  | _ => cases h

/-- An allocation or a response that is there after an access was there before, or the client is active. -/
theorem tracked_before (hk : r.threads[k]? = some t)
    (h : (r.client.perform C answers t.call t.point).1.allocated = true ∨
      ∃ other ∈ r.threads.set k { t with point := (r.client.perform C answers t.call t.point).2 },
        other.point.phase = .recording) :
    (r.client.allocated = true ∨ ∃ other ∈ r.threads, other.point.phase = .recording) ∨ r.client.active = true := by
  have ht : t ∈ r.threads := List.mem_of_getElem? hk
  rcases h with hallocated | ⟨other, hother, hphase⟩
  · rw [allocated_perform] at hallocated
    split at hallocated
    · next hpoint => exact .inl (.inr ⟨t, ht, by rw [hpoint]; rfl⟩)
    · cases hallocated
    · exact .inl (.inl hallocated)
  · rcases List.mem_or_eq_of_mem_set hother with hother | rfl
    · exact .inl (.inr ⟨other, hother, hphase⟩)
    · have hleads := leads_perform C answers r.client t.call t.point
      rw [show (r.client.perform C answers t.call t.point).2.phase = .recording from hphase] at hleads
      exact .inr hleads.of_recording

theorem tracked_performs (h : r.Inv) (hk : r.threads[k]? = some t) (hadmits : r.admits t.point = true)
    (hsome : (r.client.perform C answers t.call t.point).1.allocated = true ∨
      ∃ other ∈ r.threads.set k { t with point := (r.client.perform C answers t.call t.point).2 },
        other.point.phase = .recording) :
    (r.client.perform C answers t.call t.point).1.active = true ∨
      ∃ other ∈ r.threads.set k { t with point := (r.client.perform C answers t.call t.point).2 },
        other.point.phase = .closing := by
  have hbefore := tracked_before hk hsome
  have hnew : { t with point := (r.client.perform C answers t.call t.point).2 }
      ∈ r.threads.set k { t with point := (r.client.perform C answers t.call t.point).2 } :=
    List.mem_set (List.getElem?_eq_some_iff.1 hk).1 _
  by_cases hclosing : t.point.phase = .closing
  · -- the section of `Close` clears the flag, and finds no thread about to set it
    obtain ⟨result, hpoint⟩ := Point.eq_of_phase_closing hclosing
    have hnone : ∀ other ∈ r.threads, other.point.phase ≠ .recording := by
      rw [hpoint] at hadmits
      simpa [admits] using hadmits
    rcases hsome with hallocated | ⟨other, hother, hphase⟩
    · rw [allocated_perform, hpoint] at hallocated
      cases hallocated
    · rcases List.mem_or_eq_of_mem_set hother with hother | rfl
      · exact absurd hphase (hnone other hother)
      · have hleads := leads_perform C answers r.client t.call t.point
        rw [show (r.client.perform C answers t.call t.point).2.phase = .recording from hphase, hpoint] at hleads
        cases hleads
  by_cases hactive : r.client.active = true
  · by_cases hclose : ∃ result, t.point = .close result
    · obtain ⟨result, hpoint⟩ := hclose
      refine .inr ⟨_, hnew, ?_⟩
      simp only [hpoint, perform, hactive, if_true]
      rfl
    · refine .inl ?_
      rw [active_perform]
      split
      · rfl
      · next result hpoint => exact absurd ⟨result, hpoint⟩ hclose
      · exact hactive
  · rcases h.tracked (hbefore.resolve_right hactive) with hnow | ⟨other, hother, hphase⟩
    · exact absurd hnow hactive
    · exact .inr ⟨other, mem_set_of_ne hk hother (by rintro rfl; exact hclosing hphase) _, hphase⟩

theorem Point.eq_of_isCloseReturn {point : Point} (h : point.isCloseReturn = true) :
    ∃ result, point = .closeReturn result := by
  cases point with
  | closeReturn result => exact ⟨result, rfl⟩
  | _ => cases h

theorem settled_of_admits (hadmits : r.admits t.point = true) (hreturn : t.point.isCloseReturn = true) :
    r.client.active = false ∧ ∀ other ∈ r.threads, other.point.phase ≠ .opening ∧ other.point.phase ≠ .closing := by
  obtain ⟨result, hpoint⟩ := Point.eq_of_isCloseReturn hreturn
  rw [hpoint] at hadmits
  simpa [admits] using hadmits

theorem settled_before (h : r.Inv) (hadmits : r.admits t.point = true)
    (hclosed : (r.closed || t.point.isCloseReturn) = true) :
    r.client.active = false ∧ ∀ other ∈ r.threads, other.point.phase ≠ .opening ∧ other.point.phase ≠ .closing := by
  rcases Bool.or_eq_true_iff.1 hclosed with hclosed | hreturn
  · exact ⟨h.inactive hclosed, h.settled hclosed⟩
  · exact settled_of_admits hadmits hreturn

theorem inv_performs (h : r.Inv) (hk : r.threads[k]? = some t) (hadmits : r.admits t.point = true) :
    (r.step C (.performs k answers)).Inv := by
  have ht : t ∈ r.threads := List.mem_of_getElem? hk
  rw [step_performs hk]
  constructor
  case tracked => exact tracked_performs h hk hadmits
  case inactive =>
    intro hclosed
    obtain ⟨hactive, hsettled⟩ := settled_before h hadmits hclosed
    simp only
    rw [active_perform]
    split
    · next hpoint => exact absurd (by rw [hpoint]; rfl) (hsettled t ht).1
    · rfl
    · exact hactive
  case settled =>
    intro hclosed other hother
    obtain ⟨hactive, hsettled⟩ := settled_before h hadmits hclosed
    rcases List.mem_or_eq_of_mem_set hother with hother | rfl
    · exact hsettled other hother
    · have hleads := leads_perform C answers r.client t.call t.point
      constructor
      · intro hopening
        rw [show (r.client.perform C answers t.call t.point).2.phase = .opening from hopening] at hleads
        exact (hsettled t ht).1 hleads.of_opening
      · intro hclosing
        rw [show (r.client.perform C answers t.call t.point).2.phase = .closing from hclosing] at hleads
        rw [hleads.of_closing] at hactive
        cases hactive
  case called =>
    intro k' hk'
    rw [List.length_set]
    exact h.called k' hk'
  case first =>
    intro hclosed k' hk' other hother hneeds
    cases hbefore : r.closed with
    | false =>
      -- it is closed now, and nothing was called since
      rw [h.open_late hbefore] at hk'
      exact absurd hk' List.not_mem_nil
    | true =>
      rcases eq_or_ne k k' with rfl | hne
      · -- the thread itself: its first access finds no allocation
        rw [List.getElem?_set_self (List.getElem?_eq_some_iff.1 hk).1] at hother
        rw [← Option.some.inj hother] at hneeds ⊢
        rcases h.first hbefore k hk' t hk hneeds with hentry | ⟨error, hreturned⟩
        · obtain ⟨error, hperform⟩ := perform_entry hneeds (h.unallocated hbefore).1
          exact .inr ⟨error, by rw [hentry, hperform]⟩
        · exact .inr ⟨error, by rw [hreturned]; rfl⟩
      · rw [List.getElem?_set_ne hne] at hother
        exact h.first hbefore k' hk' other hother hneeds
  case open_late =>
    intro hclosed
    exact h.open_late (Bool.or_eq_false_iff.1 hclosed).1

end Performs

theorem inv_step (C : Crypto) (r : ClosingRun) (ev : TurnEvent) (h : r.Inv) (hadmits : r.Admits ev) :
    (r.step C ev).Inv := by
  cases ev with
  | calls call => exact inv_calls h call
  | performs k answers =>
    cases hk : r.threads[k]? with
    | some t => exact inv_performs h hk (hadmits t hk)
    | none =>
      have hsame : r.step C (.performs k answers) = r := by
        simp only [step, TurnSystem.step, hk, Option.any_none, Bool.or_false]
      rw [hsame]
      exact h

theorem Inv.staysClosed (h : r.Inv) : r.StaysClosed := by
  constructor
  case allocated => exact fun hclosed => (h.unallocated hclosed).1
  case refused =>
    intro hclosed k hk t ht hneeds
    rcases h.first hclosed k hk t ht hneeds with hentry | ⟨error, hreturned⟩
    · obtain ⟨error, hperform⟩ := perform_entry hneeds (h.unallocated hclosed).1
      exact ⟨error, .inr (by rw [hentry]; exact hperform)⟩
    · exact ⟨error, .inl hreturned⟩

theorem inv_new : ClosingRun.Inv { client := {} } := by
  constructor
  case tracked =>
    rintro (hallocated | ⟨t, ht, -⟩)
    · cases hallocated
    · exact absurd ht List.not_mem_nil
  case inactive => exact fun _ => rfl
  case settled => exact fun _ t ht => absurd ht List.not_mem_nil
  case called => exact fun k hk => absurd hk List.not_mem_nil
  case first => exact fun _ k hk => absurd hk List.not_mem_nil
  case open_late => exact fun _ => rfl

/-- **A closed client stays closed**, in every run of a client from its construction on in which the section of a `Close`
comes while no handshake is about to record an allocation, and a `Close` returns while `m_active` is not set, no
`OpenAllocation` is about to set it, and no other `Close` is before its section. -/
theorem stays_closed_run (C : Crypto) {events : List TurnEvent}
    (h : Guarded (step C) Admits { client := {} } events) : (run (step C) { client := {} } events).StaysClosed :=
  (invariant_run (fun r ev hinv hadmits => inv_step C r ev hinv hadmits) inv_new h).staysClosed

/-! ### Two runs -/

def sampleReflector : Reflector :=
  { reflectorIp := ascii "10.0.0.1", reflectorPort := 1400, username := ascii "u", password := ascii "p" }

/-- The success response to the first Allocate, with the relayed address 192.168.1.20:3478.  Bit 9 of its type is set. -/
def sampleAccepted : Bytes :=
  [0x03, 0x03, 0x00, 0x0C, 0x21, 0x12, 0xA4, 0x42, 0, 0, 0, 0, 0, 0, 0, 0, 0, 0, 0, 0,
    0x00, 0x16, 0x00, 0x08, 0x00, 0x01, 0x2C, 0x84, 0xE1, 0xBA, 0xA5, 0x56]

/-- `OpenAllocation` up to its response, as the only thread. -/
def sampleOpening : List TurnEvent :=
  [.calls (.openAllocation sampleReflector [])]
    ++ List.replicate 9 (.performs 0 {})
    ++ [.calls (.messageReceived 0 sampleAccepted), .performs 1 {}, .performs 1 {}, .performs 0 {}, .performs 0 {}]

/-- The handshake records the allocation, the client is closed, and a `Send` is refused. -/
def sampleClosing : List TurnEvent :=
  sampleOpening
    ++ [.performs 0 {}, .calls .close, .performs 2 {}, .performs 2 {}, .performs 2 {}, .performs 2 {},
      .calls (.send sampleIPv4 [1]), .performs 3 {}]

theorem stays_closed_sample :
    (run (step sampleCrypto) { client := {} } sampleClosing).closed = true ∧
      (run (step sampleCrypto) { client := {} } sampleClosing).StaysClosed :=
  ⟨by decide +kernel, stays_closed_run sampleCrypto (by decide +kernel)⟩

/-- `Close` comes between the response and the section that records the allocation. -/
def sampleOvertaken : List TurnEvent :=
  sampleOpening
    ++ [.calls .close, .performs 2 {}, .performs 2 {}, .performs 2 {}, .performs 2 {}, .performs 0 {}]

/-- **A handshake that has its response records the allocation of a closed client.** -/
theorem allocated_after_close :
    (run (step sampleCrypto) { client := {} } sampleOvertaken).closed = true ∧
      (run (step sampleCrypto) { client := {} } sampleOvertaken).client.allocated = true ∧
      ¬ (run (step sampleCrypto) { client := {} } sampleOvertaken).StaysClosed := by
  have hclosed : (run (step sampleCrypto) { client := {} } sampleOvertaken).closed = true := by decide +kernel
  have hallocated : (run (step sampleCrypto) { client := {} } sampleOvertaken).client.allocated = true := by
    decide +kernel
  refine ⟨hclosed, hallocated, fun h => ?_⟩
  have hnot := h.allocated hclosed
  rw [hallocated] at hnot
  cases hnot

end ClosingRun

end VianiumVoip.Turn
