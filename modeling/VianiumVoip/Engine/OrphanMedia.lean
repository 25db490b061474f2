import VianiumVoip.Engine.OtherCall

/-!
# Media that nobody stops

`StartMedia` leaves what it has started in one of three slots: `m_activeMedia`, `m_tgcallsConnection`, and for the graph
only the call in `m_tgcallsCallId`.  `StopMedia` and `DropCall` stop what they find there.

`no_orphans_iff` says which operations of a sequence leave no media running that should not: over a slot that is taken
nothing may be started that the slot does not stop, and a call that is dropped, or whose `StartMedia` fails, may have no
media but those that this operation stops.
-/

namespace VianiumVoip.Engine

open VianiumVoip.Lib.Run VianiumVoip.Cert VianiumVoip.Tgcalls

inductive MediaOperation
  | startMedia (descriptor : CallStartDescriptor) (input : StartMediaInput)
  | dropCall (callId : ℤ)
  | stopMedia (graphStop : Option VoipError)
  /-- Another operation, which makes of the sessions whatever it does. -/
  | sessions (calls : ℤ → Option CallSession)

/-- The engine, and the media that the last operation should have stopped and that run on. -/
structure MediaRun where
  engine : CallEngine
  left : Finset Media := ∅

namespace MediaRun

section Definitions

variable (P : Platform)

def step (r : MediaRun) : MediaOperation → MediaRun
  | .startMedia descriptor input =>
    match r.engine.startMedia P descriptor input with
    | (e, .error _) => { engine := e, left := e.running.filter fun m => m.callId = descriptor.callId }
    | (e, .ok ()) => { engine := e }
  | .dropCall callId =>
    { engine := r.engine.dropCall callId
      left := (r.engine.dropCall callId).running.filter fun m => m.callId = callId }
  | .stopMedia graphStop =>
    { engine := (r.engine.stopMedia graphStop).1
      left := (r.engine.stopMedia graphStop).1.running }
  | .sessions calls => { engine := { r.engine with calls := calls } }

/-- **No media are left behind**: the last operation has stopped what it had to, and a `StopMedia` would leave none. -/
structure NoOrphans (r : MediaRun) : Prop where
  left : r.left = ∅
  stoppable : ∀ graphStop, (r.engine.stopMedia graphStop).1.running = ∅

/-- No active context of the call. -/
def NoContextOf (e : CallEngine) (callId : ℤ) : Prop := ∀ active, e.activeMedia = some active → active.callId ≠ callId

/-- No slot has media of the call. -/
structure NoMediaOf (e : CallEngine) (callId : ℤ) : Prop where
  context : NoContextOf e callId
  connection : ∀ conn, e.tgcallsConnection = some conn → conn.callId ≠ callId
  graph : e.tgcallsConnection = none → 0 < e.tgcallsCallId → e.tgcallsCallId ≠ callId

/-- The condition on a `StartMedia` that comes so far, and succeeds or not: nothing is started over media that are in
another slot, and one that fails does so for a call without media, but for those that it stops itself. -/
def StartsClean (e : CallEngine) (callId : ℤ) (success : Prop) : CallEngine.StartStage → Prop
  | .checks => NoMediaOf e callId
  | .connection => (e.tgcallsConnection = none → e.tgcallsCallId ≤ 0) ∧ (¬ success → NoContextOf e callId)
  | .graph =>
    (success → e.tgcallsConnection = none ∧ (0 < e.tgcallsCallId → e.tgcallsCallId = callId)) ∧
      (¬ success → NoContextOf e callId ∧ ∀ conn, e.tgcallsConnection = some conn → conn.callId ≠ callId)
  | .endpoints => (success → e.activeMedia = none) ∧ (¬ success → NoMediaOf e callId)

/-- The condition on an operation where it takes place. -/
def LeavesNone (r : MediaRun) : MediaOperation → Prop
  | .startMedia descriptor input =>
    StartsClean r.engine descriptor.callId ((r.engine.startMedia P descriptor input).2 = .ok ())
      (r.engine.startStage P descriptor input)
  | .dropCall callId => NoContextOf r.engine callId ∧
      (∀ conn, r.engine.tgcallsConnection = some conn → conn.callId = callId → r.engine.tgcallsCallId = callId) ∧
      (r.engine.tgcallsConnection = none → 0 < r.engine.tgcallsCallId → r.engine.tgcallsCallId ≠ callId)
  | _ => True

/-- An engine without media. -/
def idle (e : CallEngine) : MediaRun where
  engine := { e with
    tgcallsConnection := none
    tgcallsCallId := 0
    activeMedia := none
    running := ∅ }

end Definitions

/-! ### What the slots hold -/

/-- `StopMedia` stops it. -/
def Tracked (e : CallEngine) (m : Media) : Prop :=
  (∃ active, e.activeMedia = some active ∧ m = active.media) ∨
    (∃ conn, e.tgcallsConnection = some conn ∧ m = conn.media) ∨
    (e.tgcallsConnection = none ∧ e.hasGraph = true ∧ 0 < e.tgcallsCallId ∧ m = .graph e.tgcallsCallId)

/-- What the slots hold runs, and was started before. -/
structure SlotsRun (e : CallEngine) : Prop where
  active : ∀ active, e.activeMedia = some active → active.media ∈ e.running ∧ active.id < e.started
  connection : ∀ conn, e.tgcallsConnection = some conn → conn.media ∈ e.running ∧ conn.id < e.started
  graph : e.tgcallsConnection = none → 0 < e.tgcallsCallId → e.hasGraph = true ∧ .graph e.tgcallsCallId ∈ e.running

variable {P : Platform} {e e' : CallEngine} {r : MediaRun} {m : Media} {callId : ℤ}

theorem mem_stopConnection (e : CallEngine) (conn : Option HeldConnection) :
    m ∈ (e.stopConnection conn).running ↔ m ∈ e.running ∧ ∀ held, conn = some held → m ≠ held.media := by
  cases conn with
  | none => simp [CallEngine.stopConnection]
  | some held => simp [CallEngine.stopConnection, and_comm]

theorem context_ne_connection (active : MediaContext) (held : HeldConnection) : active.media ≠ held.media := by
  intro heq
  cases heq

theorem context_ne_graph (active : MediaContext) (callId : ℤ) : active.media ≠ .graph callId := by
  intro heq
  cases heq

theorem connection_ne_graph (held : HeldConnection) (callId : ℤ) : held.media ≠ .graph callId := by
  intro heq
  cases heq

theorem context_mem_stopConnection {active : MediaContext} (conn : Option HeldConnection)
    (h : active.media ∈ e.running) : active.media ∈ (e.stopConnection conn).running :=
  (mem_stopConnection ..).2 ⟨h, fun held _ => context_ne_connection active held⟩

theorem mem_stopContext (e : CallEngine) (active : Option MediaContext) :
    m ∈ (e.stopContext active).running ↔ m ∈ e.running ∧ ∀ context, active = some context → m ≠ context.media := by
  cases active with
  | none => simp [CallEngine.stopContext]
  | some context => simp [CallEngine.stopContext, and_comm]

/-- The graph for the call in `m_tgcallsCallId` is what `StopMedia` tells to stop. -/
theorem mem_stopMedia_running (graphStop : Option VoipError) :
    m ∈ (e.stopMedia graphStop).1.running ↔
      m ∈ e.running ∧ (∀ active, e.activeMedia = some active → m ≠ active.media) ∧
        (∀ conn, e.tgcallsConnection = some conn → m ≠ conn.media) ∧
        (e.hasGraph = true ∧ 0 < e.tgcallsCallId ∧ e.tgcallsConnection.isNone = true → m ≠ .graph e.tgcallsCallId) := by
  unfold CallEngine.stopMedia
  dsimp only
  split_ifs with hgraph
  · cases graphStop with
    | none =>
      simp only [CallEngine.stopGraph, Finset.mem_erase, mem_stopConnection, mem_stopContext, hgraph, and_self,
        forall_true_left]
      tauto
    | some error =>
      simp only [CallEngine.stopGraph, Finset.mem_erase, mem_stopConnection, mem_stopContext, hgraph, and_self,
        forall_true_left]
      tauto
  · simp only [mem_stopConnection, mem_stopContext]
    tauto

/-- **`StopMedia` stops what the slots hold.** -/
theorem mem_stopMedia (graphStop : Option VoipError) :
    m ∈ (e.stopMedia graphStop).1.running ↔ m ∈ e.running ∧ ¬ Tracked e m := by
  rw [mem_stopMedia_running, Tracked, Option.isNone_iff_eq_none]
  constructor
  · rintro ⟨hrunning, hactive, hconn, hgraph⟩
    refine ⟨hrunning, ?_⟩
    rintro (⟨active, hslot, rfl⟩ | ⟨conn, hslot, rfl⟩ | ⟨hnone, hbound, hpos, rfl⟩)
    · exact hactive active hslot rfl
    · exact hconn conn hslot rfl
    · exact hgraph ⟨hbound, hpos, hnone⟩ rfl
  · rintro ⟨hrunning, huntracked⟩
    refine ⟨hrunning, ?_, ?_, ?_⟩
    · rintro active hslot rfl
      exact huntracked (.inl ⟨active, hslot, rfl⟩)
    · rintro conn hslot rfl
      exact huntracked (.inr (.inl ⟨conn, hslot, rfl⟩))
    · rintro ⟨hbound, hpos, hnone⟩ rfl
      exact huntracked (.inr (.inr ⟨hnone, hbound, hpos, rfl⟩))

theorem noOrphans_iff : r.NoOrphans ↔ r.left = ∅ ∧ ∀ m ∈ r.engine.running, Tracked r.engine m := by
  constructor
  · rintro ⟨hleft, hstoppable⟩
    refine ⟨hleft, fun m hm => ?_⟩
    by_contra huntracked
    have hmem := (mem_stopMedia (e := r.engine) none).2 ⟨hm, huntracked⟩
    rw [hstoppable none] at hmem
    exact absurd hmem (Finset.notMem_empty m)
  · rintro ⟨hleft, htracked⟩
    refine ⟨hleft, fun graphStop => Finset.eq_empty_of_forall_notMem fun m hm => ?_⟩
    obtain ⟨hrunning, huntracked⟩ := (mem_stopMedia graphStop).1 hm
    exact huntracked (htracked m hrunning)

theorem filter_eq_empty_iff {running : Finset Media} :
    (running.filter fun m => m.callId = callId) = ∅ ↔ ∀ m ∈ running, m.callId ≠ callId := Finset.filter_eq_empty_iff

theorem noMediaOf_iff (hslots : SlotsRun e) (htracked : ∀ m ∈ e.running, Tracked e m) :
    NoMediaOf e callId ↔ ∀ m ∈ e.running, m.callId ≠ callId := by
  constructor
  · intro h m hm
    rcases htracked m hm with ⟨active, hslot, rfl⟩ | ⟨conn, hslot, rfl⟩ | ⟨hnone, hbound, hpos, rfl⟩
    · exact h.context active hslot
    · exact h.connection conn hslot
    · exact h.graph hnone hpos
  · intro h
    refine ⟨?_, ?_, ?_⟩
    · exact fun active hslot => h _ (hslots.active active hslot).1
    · exact fun conn hslot => h _ (hslots.connection conn hslot).1
    · exact fun hnone hpos => h _ (hslots.graph hnone hpos).2

/-! ### StartMedia -/

theorem graph_mem_stopConnection (h : SlotsRun e) (hnone : e.tgcallsConnection = none) (hpos : 0 < e.tgcallsCallId) :
    .graph e.tgcallsCallId ∈ (e.stopConnection e.tgcallsConnection).running := by
  refine (mem_stopConnection ..).2 ⟨(h.graph hnone hpos).2, fun conn hconn => ?_⟩
  rw [hnone] at hconn
  cases hconn

section Start

variable {descriptor : CallStartDescriptor} {stage : CallEngine.StartStage} {outcome : CallEngine × Except VoipError Unit}

/-- **A `StartMedia` keeps its slots running.** -/
theorem slotsRun_starts (h : SlotsRun e) (hstarts : e.Starts descriptor stage outcome) : SlotsRun outcome.1 := by
  cases hstarts with
  | refused error => exact h
  | connection signaling held hpos hid hcall hslot hcallId hgraph =>
    refine ⟨?_, ?_, ?_⟩
    · intro active hactive
      rw [CallEngine.stopConnection_activeMedia] at hactive
      obtain ⟨hrunning, hlt⟩ := h.active active hactive
      exact ⟨Finset.mem_insert_of_mem (context_mem_stopConnection _ hrunning), Nat.lt_succ_of_lt hlt⟩
    · intro conn hconn
      obtain rfl := Option.some.inj (hslot.symm.trans hconn)
      exact ⟨Finset.mem_insert_self .., by rw [hid]; exact Nat.lt_succ_self _⟩
    · intro hnone
      rw [hslot] at hnone
      cases hnone
  | connectionRefused signaling held error hpos hid hcall hslot hcallId hgraph =>
    refine ⟨?_, ?_, ?_⟩
    · intro active hactive
      rw [CallEngine.stopConnection_activeMedia] at hactive
      obtain ⟨hrunning, hlt⟩ := h.active active hactive
      have hstill := Finset.mem_insert_of_mem (b := held.media) (context_mem_stopConnection e.tgcallsConnection hrunning)
      exact ⟨Finset.mem_erase.2 ⟨context_ne_connection active held, hstill⟩, Nat.lt_succ_of_lt hlt⟩
    · intro conn hconn
      rw [hslot] at hconn
      cases hconn
    · intro _ hpos'
      rw [hcallId] at hpos'
      exact absurd hpos' (lt_irrefl 0)
  | graph signaling hpos hbound hslot hcallId hgraph =>
    refine ⟨?_, ?_, ?_⟩
    · exact fun active hactive =>
        ⟨Finset.mem_insert_of_mem (h.active active hactive).1, (h.active active hactive).2⟩
    · intro conn hconn
      obtain ⟨hrunning, hlt⟩ := h.connection conn (hslot ▸ hconn)
      exact ⟨Finset.mem_insert_of_mem hrunning, hlt⟩
    · intro _ _
      simp only [hcallId, hgraph]
      exact ⟨hbound, Finset.mem_insert_self ..⟩
  | graphRefused signaling error hpos hbound hslot hcallId hgraph =>
    refine ⟨?_, ?_, ?_⟩
    · intro active hactive
      obtain ⟨hrunning, hlt⟩ := h.active active hactive
      exact ⟨Finset.mem_erase.2 ⟨context_ne_graph active _, Finset.mem_insert_of_mem hrunning⟩, hlt⟩
    · intro conn hconn
      obtain ⟨hrunning, hlt⟩ := h.connection conn (hslot ▸ hconn)
      exact ⟨Finset.mem_erase.2 ⟨connection_ne_graph conn _, Finset.mem_insert_of_mem hrunning⟩, hlt⟩
    · intro hnone hpos'
      rw [hcallId] at hpos'
      split_ifs at hpos' hcallId with hid
      · exact absurd hpos' (lt_irrefl 0)
      · obtain ⟨hbound', hrunning⟩ := h.graph (hslot ▸ hnone) hpos'
        simp only [hcallId, hgraph]
        refine ⟨hbound', Finset.mem_erase.2 ⟨fun heq => ?_, Finset.mem_insert_of_mem hrunning⟩⟩
        exact hid (Media.graph.inj heq)
  | failed s error => exact ⟨h.active, h.connection, h.graph⟩
  | classic s active hid hcall =>
    refine ⟨?_, ?_, ?_⟩
    · intro active' hactive
      obtain rfl := Option.some.inj hactive
      exact ⟨Finset.mem_insert_self .., by rw [hid]; exact Nat.lt_succ_self _⟩
    · exact fun conn hconn =>
        ⟨Finset.mem_insert_of_mem (h.connection conn hconn).1, Nat.lt_succ_of_lt (h.connection conn hconn).2⟩
    · exact fun hnone hpos => ⟨(h.graph hnone hpos).1, Finset.mem_insert_of_mem (h.graph hnone hpos).2⟩

/-- What is to hold behind a `StartMedia`: everything that runs is in a slot, and where it has failed nothing of its call
runs. -/
def CleanAfter (callId : ℤ) (outcome : CallEngine × Except VoipError Unit) : Prop :=
  (∀ m ∈ outcome.1.running, Tracked outcome.1 m) ∧
    (outcome.2 ≠ .ok () → ∀ m ∈ outcome.1.running, m.callId ≠ callId)

theorem error_ne_ok (error : VoipError) : (Except.error error : Except VoipError Unit) ≠ .ok () := fun h => by cases h

theorem cleanAfter_error_iff (h : SlotsRun e) (htracked : ∀ m ∈ e.running, Tracked e m) (error : VoipError) :
    CleanAfter callId (e, .error error) ↔ NoMediaOf e callId := by
  rw [noMediaOf_iff h htracked]
  exact ⟨fun hclean => hclean.2 (error_ne_ok error), fun hnone => ⟨htracked, fun _ => hnone⟩⟩

theorem cleanAfter_connection_iff (h : SlotsRun e) (htracked : ∀ m ∈ e.running, Tracked e m) {signaling : SignalingEngine}
    {held : HeldConnection} (hslot : signaling.tgcallsConnection = some held) :
    CleanAfter callId ({ e.stopConnection e.tgcallsConnection with
        toSignalingEngine := signaling
        started := e.started + 1
        running := insert held.media (e.stopConnection e.tgcallsConnection).running }, .ok ()) ↔
      (e.tgcallsConnection = none → e.tgcallsCallId ≤ 0) := by
  constructor
  · intro hclean hnone
    by_contra hpos
    -- the graph runs on, and `StopMedia` will find the connection
    have hstill := graph_mem_stopConnection h hnone (not_le.1 hpos)
    rcases hclean.1 _ (Finset.mem_insert_of_mem hstill) with ⟨active, -, heq⟩ | ⟨conn, -, heq⟩ | ⟨hnone', -⟩
    · cases heq
    · cases heq
    · rw [hslot] at hnone'
      cases hnone'
  · intro hclosed
    refine ⟨?_, fun hfailed => absurd rfl hfailed⟩
    intro m hm
    rcases Finset.mem_insert.1 hm with rfl | hm
    · exact .inr (.inl ⟨held, hslot, rfl⟩)
    · obtain ⟨hrunning, hother⟩ := (mem_stopConnection ..).1 hm
      rcases htracked m hrunning with ⟨active, hactive, rfl⟩ | ⟨conn, hconn, rfl⟩ | ⟨hnone, -, hpos, -⟩
      · exact .inl ⟨active, by rw [CallEngine.stopConnection_activeMedia]; exact hactive, rfl⟩
      · exact absurd rfl (hother conn hconn)
      · exact absurd hpos (not_lt.2 (hclosed hnone))

theorem cleanAfter_connectionRefused_iff (h : SlotsRun e) (htracked : ∀ m ∈ e.running, Tracked e m)
    {signaling : SignalingEngine} (held : HeldConnection) (error : VoipError) (hcallId : signaling.tgcallsCallId = 0) :
    CleanAfter callId ({ e.stopConnection e.tgcallsConnection with
        toSignalingEngine := signaling
        started := e.started + 1
        running := (insert held.media (e.stopConnection e.tgcallsConnection).running).erase held.media }, .error error) ↔
      (e.tgcallsConnection = none → e.tgcallsCallId ≤ 0) ∧ NoContextOf e callId := by
  constructor
  · intro hclean
    refine ⟨fun hnone => ?_, fun active hactive => ?_⟩
    · by_contra hpos
      have hstill := graph_mem_stopConnection h hnone (not_le.1 hpos)
      have hkept : Media.graph e.tgcallsCallId ∈
          (insert held.media (e.stopConnection e.tgcallsConnection).running).erase held.media :=
        Finset.mem_erase.2 ⟨(connection_ne_graph held _).symm, Finset.mem_insert_of_mem hstill⟩
      rcases hclean.1 _ hkept with ⟨active, -, heq⟩ | ⟨conn, -, heq⟩ | ⟨-, -, hpos', -⟩
      · cases heq
      · cases heq
      · rw [hcallId] at hpos'
        exact absurd hpos' (lt_irrefl 0)
    · have hstill := context_mem_stopConnection e.tgcallsConnection (h.active active hactive).1
      exact hclean.2 (error_ne_ok error) active.media
        (Finset.mem_erase.2 ⟨context_ne_connection active held, Finset.mem_insert_of_mem hstill⟩)
  · rintro ⟨hclosed, hcontext⟩
    have hlist : ∀ m ∈ (insert held.media (e.stopConnection e.tgcallsConnection).running).erase held.media,
        ∃ active, e.activeMedia = some active ∧ m = active.media := by
      intro m hm
      obtain ⟨hne, hm⟩ := Finset.mem_erase.1 hm
      obtain ⟨hrunning, hother⟩ := (mem_stopConnection ..).1 ((Finset.mem_insert.1 hm).resolve_left hne)
      rcases htracked m hrunning with hactive | ⟨conn, hconn, rfl⟩ | ⟨hnone, -, hpos, -⟩
      · exact hactive
      · exact absurd rfl (hother conn hconn)
      · exact absurd hpos (not_lt.2 (hclosed hnone))
    refine ⟨fun m hm => ?_, fun _ m hm => ?_⟩
    · obtain ⟨active, hactive, rfl⟩ := hlist m hm
      exact .inl ⟨active, by rw [CallEngine.stopConnection_activeMedia]; exact hactive, rfl⟩
    · obtain ⟨active, hactive, rfl⟩ := hlist m hm
      exact hcontext active hactive

theorem cleanAfter_graph_iff (h : SlotsRun e) (htracked : ∀ m ∈ e.running, Tracked e m) {signaling : SignalingEngine}
    (hpos : 0 < descriptor.callId) (hbound : e.hasGraph = true) (hslot : signaling.tgcallsConnection = e.tgcallsConnection)
    (hcallId : signaling.tgcallsCallId = descriptor.callId) (hgraph : signaling.hasGraph = e.hasGraph) :
    CleanAfter descriptor.callId ({ e with
        toSignalingEngine := signaling
        running := insert (Media.graph descriptor.callId) e.running }, .ok ()) ↔
      e.tgcallsConnection = none ∧ (0 < e.tgcallsCallId → e.tgcallsCallId = descriptor.callId) := by
  constructor
  · intro hclean
    have hnone : e.tgcallsConnection = none := by
      rcases hclean.1 _ (Finset.mem_insert_self ..) with ⟨active, -, heq⟩ | ⟨conn, -, heq⟩ | ⟨hnone, -⟩
      · cases heq
      · cases heq
      · rw [← hslot]
        exact hnone
    refine ⟨hnone, fun hpos' => ?_⟩
    rcases hclean.1 _ (Finset.mem_insert_of_mem (h.graph hnone hpos').2) with ⟨active, -, heq⟩ | ⟨conn, -, heq⟩ |
      ⟨-, -, -, heq⟩
    · cases heq
    · cases heq
    · rw [← hcallId]
      exact Media.graph.inj heq
  · rintro ⟨hnone, hsame⟩
    have hnew : Tracked { e with
        toSignalingEngine := signaling
        running := insert (Media.graph descriptor.callId) e.running } (.graph descriptor.callId) :=
      .inr (.inr ⟨hslot.trans hnone, hgraph.trans hbound, by rw [hcallId]; exact hpos, by rw [hcallId]⟩)
    refine ⟨fun m hm => ?_, fun hfailed => absurd rfl hfailed⟩
    rcases Finset.mem_insert.1 hm with rfl | hm
    · exact hnew
    · rcases htracked m hm with ⟨active, hactive, rfl⟩ | ⟨conn, hconn, rfl⟩ | ⟨-, -, hpos', rfl⟩
      · exact .inl ⟨active, hactive, rfl⟩
      · exact .inr (.inl ⟨conn, hslot.trans hconn, rfl⟩)
      · rw [hsame hpos']
        exact hnew

theorem cleanAfter_graphRefused_iff (h : SlotsRun e) (htracked : ∀ m ∈ e.running, Tracked e m) {signaling : SignalingEngine}
    (error : VoipError) (hslot : signaling.tgcallsConnection = e.tgcallsConnection)
    (hcallId : signaling.tgcallsCallId = if e.tgcallsCallId = descriptor.callId then 0 else e.tgcallsCallId)
    (hgraph : signaling.hasGraph = e.hasGraph) :
    CleanAfter descriptor.callId ({ e with
        toSignalingEngine := signaling
        running := (insert (Media.graph descriptor.callId) e.running).erase (Media.graph descriptor.callId) },
        .error error) ↔
      NoContextOf e descriptor.callId ∧ ∀ conn, e.tgcallsConnection = some conn → conn.callId ≠ descriptor.callId := by
  constructor
  · intro hclean
    have hnone := hclean.2 (error_ne_ok error)
    refine ⟨fun active hactive => ?_, fun conn hconn => ?_⟩
    · exact hnone active.media
        (Finset.mem_erase.2 ⟨context_ne_graph active _, Finset.mem_insert_of_mem (h.active active hactive).1⟩)
    · exact hnone conn.media
        (Finset.mem_erase.2 ⟨connection_ne_graph conn _, Finset.mem_insert_of_mem (h.connection conn hconn).1⟩)
  · rintro ⟨hcontext, hconnection⟩
    have hrest : ∀ m ∈ (insert (Media.graph descriptor.callId) e.running).erase (Media.graph descriptor.callId),
        m ≠ .graph descriptor.callId ∧ Tracked e m := by
      intro m hm
      obtain ⟨hne, hm⟩ := Finset.mem_erase.1 hm
      exact ⟨hne, htracked m ((Finset.mem_insert.1 hm).resolve_left hne)⟩
    refine ⟨fun m hm => ?_, fun _ m hm => ?_⟩
    · obtain ⟨hne, ⟨active, hactive, rfl⟩ | ⟨conn, hconn, rfl⟩ | ⟨hnone, hbound, hpos, rfl⟩⟩ := hrest m hm
      · exact .inl ⟨active, hactive, rfl⟩
      · exact .inr (.inl ⟨conn, hslot.trans hconn, rfl⟩)
      · have hid : signaling.tgcallsCallId = e.tgcallsCallId := by
          rw [hcallId, if_neg fun heq => hne (by rw [heq])]
        exact .inr (.inr ⟨hslot.trans hnone, hgraph.trans hbound, by rw [hid]; exact hpos, by rw [hid]⟩)
    · obtain ⟨hne, ⟨active, hactive, rfl⟩ | ⟨conn, hconn, rfl⟩ | ⟨-, -, -, rfl⟩⟩ := hrest m hm
      · exact hcontext active hactive
      · exact hconnection conn hconn
      · exact fun heq => hne (congrArg Media.graph heq)

theorem cleanAfter_classic_iff (h : SlotsRun e) (htracked : ∀ m ∈ e.running, Tracked e m) (s : CountedSession)
    {active : MediaContext} (hid : active.id = e.started) :
    CleanAfter callId ({ e with
        session := s
        activeMedia := some active
        started := e.started + 1
        running := insert active.media e.running }, .ok ()) ↔ e.activeMedia = none := by
  constructor
  · intro hclean
    by_contra hsome
    obtain ⟨old, hold⟩ := Option.ne_none_iff_exists'.1 hsome
    obtain ⟨hrunning, hlt⟩ := h.active old hold
    -- the loops of the old context run on
    rcases hclean.1 _ (Finset.mem_insert_of_mem hrunning) with ⟨active', hactive, heq⟩ | ⟨conn, -, heq⟩ | ⟨-, -, -, heq⟩
    · obtain rfl := Option.some.inj hactive
      have hids := (Media.classic.inj heq).1
      omega
    · cases heq
    · cases heq
  · intro hnone
    refine ⟨fun m hm => ?_, fun hfailed => absurd rfl hfailed⟩
    rcases Finset.mem_insert.1 hm with rfl | hm
    · exact .inl ⟨active, rfl, rfl⟩
    · rcases htracked m hm with ⟨old, hold, -⟩ | ⟨conn, hconn, rfl⟩ | hgraph
      · rw [hnone] at hold
        cases hold
      · exact .inr (.inl ⟨conn, hconn, rfl⟩)
      · exact .inr (.inr hgraph)

/-- **A `StartMedia` leaves nothing behind exactly when it meets its condition.** -/
theorem cleanAfter_iff (h : SlotsRun e) (htracked : ∀ m ∈ e.running, Tracked e m)
    (hstarts : e.Starts descriptor stage outcome) :
    CleanAfter descriptor.callId outcome ↔ StartsClean e descriptor.callId (outcome.2 = .ok ()) stage := by
  cases hstarts with
  | refused error => exact cleanAfter_error_iff h htracked error
  | connection signaling held hpos hid hcall hslot hcallId hgraph =>
    rw [cleanAfter_connection_iff h htracked hslot]
    exact ⟨fun hclosed => ⟨hclosed, fun hfailed => absurd rfl hfailed⟩, And.left⟩
  | connectionRefused signaling held error hpos hid hcall hslot hcallId hgraph =>
    rw [cleanAfter_connectionRefused_iff h htracked held error hcallId]
    exact ⟨fun hboth => ⟨hboth.1, fun _ => hboth.2⟩, fun hboth => ⟨hboth.1, hboth.2 (error_ne_ok error)⟩⟩
  | graph signaling hpos hbound hslot hcallId hgraph =>
    rw [cleanAfter_graph_iff h htracked hpos hbound hslot hcallId hgraph]
    exact ⟨fun hboth => ⟨fun _ => hboth, fun hfailed => absurd rfl hfailed⟩, fun hboth => hboth.1 rfl⟩
  | graphRefused signaling error hpos hbound hslot hcallId hgraph =>
    rw [cleanAfter_graphRefused_iff h htracked error hslot hcallId hgraph]
    exact ⟨fun hboth => ⟨fun hok => absurd hok (error_ne_ok error), fun _ => hboth⟩,
      fun hboth => hboth.2 (error_ne_ok error)⟩
  | failed s error =>
    have hiff : CleanAfter descriptor.callId (e, .error error) ↔ NoMediaOf e descriptor.callId :=
      cleanAfter_error_iff h htracked error
    exact ⟨fun hclean => ⟨fun hok => absurd hok (error_ne_ok error), fun _ => hiff.1 hclean⟩,
      fun hclean => hiff.2 (hclean.2 (error_ne_ok error))⟩
  | classic s active hid hcall =>
    rw [cleanAfter_classic_iff h htracked s hid]
    exact ⟨fun hnone => ⟨fun _ => hnone, fun hfailed => absurd rfl hfailed⟩, fun hclean => hclean.1 rfl⟩

end Start

/-! ### DropCall and StopMedia -/

/-- `DropCall` touches the slots where `m_tgcallsCallId` names the call. -/
theorem dropCall_cases (e : CallEngine) (callId : ℤ) :
    (e.dropCall callId).activeMedia = e.activeMedia ∧ (e.dropCall callId).started = e.started ∧
      (e.dropCall callId).hasGraph = e.hasGraph ∧
      (e.tgcallsCallId = callId ∧ (e.dropCall callId).running = (e.stopConnection e.tgcallsConnection).running ∧
          (e.dropCall callId).tgcallsConnection = none ∧ (e.dropCall callId).tgcallsCallId = 0 ∨
        e.tgcallsCallId ≠ callId ∧ (e.dropCall callId).running = e.running ∧
          (e.dropCall callId).tgcallsConnection = e.tgcallsConnection ∧
          (e.dropCall callId).tgcallsCallId = e.tgcallsCallId) := by
  unfold CallEngine.dropCall SignalingEngine.dropCall
  dsimp only
  split_ifs with hid
  · refine ⟨CallEngine.stopConnection_activeMedia .., CallEngine.stopConnection_started .., rfl, .inl ⟨hid, rfl, rfl, rfl⟩⟩
  · exact ⟨rfl, rfl, rfl, .inr ⟨hid, rfl, rfl, rfl⟩⟩

theorem slotsRun_dropCall (h : SlotsRun e) (callId : ℤ) : SlotsRun (e.dropCall callId) := by
  obtain ⟨hactive, hstarted, hgraph, ⟨-, hrunning, hconn, hcallId⟩ | ⟨-, hrunning, hconn, hcallId⟩⟩ :=
    dropCall_cases e callId
  · refine ⟨?_, ?_, ?_⟩
    · intro active hslot
      rw [hrunning, hstarted]
      obtain ⟨hmem, hlt⟩ := h.active active (hactive ▸ hslot)
      exact ⟨context_mem_stopConnection _ hmem, hlt⟩
    · intro conn hslot
      rw [hconn] at hslot
      cases hslot
    · intro _ hpos
      rw [hcallId] at hpos
      exact absurd hpos (lt_irrefl 0)
  · refine ⟨?_, ?_, ?_⟩
    · rw [hactive, hrunning, hstarted]
      exact h.active
    · rw [hconn, hrunning, hstarted]
      exact h.connection
    · rw [hconn, hcallId, hgraph, hrunning]
      exact h.graph

/-- **`DropCall` leaves nothing behind** exactly when the call has no media but a connection that `m_tgcallsCallId`
names. -/
theorem cleanAfter_dropCall_iff (h : SlotsRun e) (htracked : ∀ m ∈ e.running, Tracked e m) (callId : ℤ) :
    ((∀ m ∈ (e.dropCall callId).running, m.callId ≠ callId) ∧
        ∀ m ∈ (e.dropCall callId).running, Tracked (e.dropCall callId) m) ↔
      NoContextOf e callId ∧
        (∀ conn, e.tgcallsConnection = some conn → conn.callId = callId → e.tgcallsCallId = callId) ∧
        (e.tgcallsConnection = none → 0 < e.tgcallsCallId → e.tgcallsCallId ≠ callId) := by
  obtain ⟨hactive, -, hgraph, ⟨hid, hrunning, hconn, hcallId⟩ | ⟨hid, hrunning, hconn, hcallId⟩⟩ := dropCall_cases e callId
  · constructor
    · rintro ⟨hnone, -⟩
      rw [hrunning] at hnone
      refine ⟨fun active hslot => ?_, fun _ _ _ => hid, fun hslot hpos => ?_⟩
      · exact hnone active.media
          (context_mem_stopConnection _ (h.active active hslot).1)
      · refine hnone (.graph e.tgcallsCallId) ((mem_stopConnection ..).2 ⟨(h.graph hslot hpos).2, fun old hold => ?_⟩)
        rw [hslot] at hold
        cases hold
    · rintro ⟨hcontext, -, hclosed⟩
      have hlist : ∀ m ∈ (e.dropCall callId).running, ∃ active, e.activeMedia = some active ∧ m = active.media := by
        intro m hm
        rw [hrunning] at hm
        obtain ⟨hmem, hother⟩ := (mem_stopConnection ..).1 hm
        rcases htracked m hmem with hslot | ⟨conn, hslot, rfl⟩ | ⟨hslot, -, hpos, -⟩
        · exact hslot
        · exact absurd rfl (hother conn hslot)
        · exact absurd hid (hclosed hslot hpos)
      refine ⟨fun m hm => ?_, fun m hm => ?_⟩
      · obtain ⟨active, hslot, rfl⟩ := hlist m hm
        exact hcontext active hslot
      · obtain ⟨active, hslot, rfl⟩ := hlist m hm
        exact .inl ⟨active, hactive.trans hslot, rfl⟩
  · have hsame : ∀ m, Tracked e m → Tracked (e.dropCall callId) m := by
      rintro m (⟨active, hslot, rfl⟩ | ⟨conn, hslot, rfl⟩ | ⟨hslot, hbound, hpos, rfl⟩)
      · exact .inl ⟨active, hactive.trans hslot, rfl⟩
      · exact .inr (.inl ⟨conn, hconn.trans hslot, rfl⟩)
      · exact .inr (.inr ⟨hconn.trans hslot, hgraph.trans hbound, by rw [hcallId]; exact hpos, by rw [hcallId]⟩)
    have hiff : NoMediaOf e callId ↔ ∀ m ∈ e.running, m.callId ≠ callId := noMediaOf_iff h htracked
    rw [hrunning, ← hiff]
    constructor
    · rintro ⟨hnone, -⟩
      exact ⟨hnone.context, fun conn hslot heq => absurd heq (hnone.connection conn hslot), fun _ _ => hid⟩
    · rintro ⟨hcontext, hconnection, -⟩
      refine ⟨⟨hcontext, fun conn hslot heq => hid (hconnection conn hslot heq), fun _ _ => hid⟩, ?_⟩
      exact fun m hm => hsame m (htracked m hm)

theorem slotsRun_stopMedia (graphStop : Option VoipError) : SlotsRun (e.stopMedia graphStop).1 := by
  have hslots : (e.stopMedia graphStop).1.activeMedia = none ∧ (e.stopMedia graphStop).1.tgcallsConnection = none ∧
      (e.stopMedia graphStop).1.tgcallsCallId = 0 := by
    unfold CallEngine.stopMedia CallEngine.stopGraph
    dsimp only
    split_ifs
    · cases graphStop <;> cases e.activeMedia <;> cases e.tgcallsConnection <;> exact ⟨rfl, rfl, rfl⟩
    · cases e.activeMedia <;> cases e.tgcallsConnection <;> exact ⟨rfl, rfl, rfl⟩
  obtain ⟨hactive, hconn, hcallId⟩ := hslots
  refine ⟨?_, ?_, ?_⟩
  · intro active hslot
    rw [hactive] at hslot
    cases hslot
  · intro conn hslot
    rw [hconn] at hslot
    cases hslot
  · intro _ hpos
    rw [hcallId] at hpos
    exact absurd hpos (lt_irrefl 0)

/-! ### Runs -/

theorem slotsRun_step (r : MediaRun) (op : MediaOperation) (h : SlotsRun r.engine) : SlotsRun (r.step P op).engine := by
  cases op with
  | startMedia descriptor input =>
    have hstarts := slotsRun_starts h (CallEngine.startMedia_starts P r.engine descriptor input)
    simp only [step]
    split
    · next e error heq =>
      rw [heq] at hstarts
      exact hstarts
    · next e heq =>
      rw [heq] at hstarts
      exact hstarts
  | dropCall callId => exact slotsRun_dropCall h callId
  | stopMedia graphStop => exact slotsRun_stopMedia graphStop
  | sessions calls => exact ⟨h.active, h.connection, h.graph⟩

/-- **An operation leaves nothing behind exactly when it meets its condition.** -/
theorem noOrphans_step_iff (hslots : SlotsRun r.engine) (h : r.NoOrphans) (op : MediaOperation) :
    (r.step P op).NoOrphans ↔ r.LeavesNone P op := by
  have htracked := (noOrphans_iff.1 h).2
  rw [noOrphans_iff]
  cases op with
  | startMedia descriptor input =>
    have hclean := cleanAfter_iff hslots htracked (CallEngine.startMedia_starts P r.engine descriptor input)
    rw [LeavesNone, ← hclean, CleanAfter]
    simp only [step]
    split
    · next e error heq =>
      simp only [heq, filter_eq_empty_iff, ne_eq, error_ne_ok error, not_false_eq_true, forall_true_left]
      exact And.comm
    · next e heq =>
      simp only [heq, ne_eq, not_true_eq_false, false_implies, true_and, and_true]
  | dropCall callId =>
    simp only [step, filter_eq_empty_iff, LeavesNone]
    exact cleanAfter_dropCall_iff hslots htracked callId
  | stopMedia graphStop =>
    refine iff_of_true ⟨h.stoppable graphStop, ?_⟩ trivial
    simp only [step, h.stoppable graphStop]
    exact fun m hm => absurd hm (Finset.notMem_empty m)
  | sessions calls => exact iff_of_true ⟨rfl, htracked⟩ trivial

/-- **When no media are left behind.**  In every sequence of operations on an engine without media, at every point of it,
the last operation has left none running that it had to stop, and a `StopMedia` would leave none at all, exactly when every
operation meets its condition. -/
theorem no_orphans_iff (P : Platform) (e : CallEngine) (ops : List MediaOperation) :
    (∀ pre, pre <+: ops → (run (step P) (idle e) pre).NoOrphans) ↔ Guarded (step P) (LeavesNone P) (idle e) ops := by
  have hslots : SlotsRun (idle e).engine := by
    refine ⟨?_, ?_, ?_⟩
    · intro active hslot
      cases hslot
    · intro conn hslot
      cases hslot
    · exact fun _ hpos => absurd hpos (lt_irrefl 0)
  have hstart : (idle e).NoOrphans := noOrphans_iff.2 ⟨rfl, fun m hm => absurd hm (Finset.notMem_empty m)⟩
  have hstep : ∀ (r : MediaRun) op, SlotsRun r.engine → r.NoOrphans → ((r.step P op).NoOrphans ↔ r.LeavesNone P op) :=
    fun r op hslots h => noOrphans_step_iff hslots h op
  exact reached_iff_guarded slotsRun_step hstep ops hslots hstart

/-! ### Media that run on -/

/-- The classic media of a call are started twice. -/
def sampleTwice : List MediaOperation :=
  [.startMedia (CallEngine.classicCall 1) CallEngine.sampleAnswers,
    .startMedia (CallEngine.classicCall 1) CallEngine.sampleAnswers]

def sampleIdle : MediaRun := idle { toSignalingEngine := CallEngine.sampleCalls }

/-- **The first of the two contexts runs behind `StopMedia`, and both behind `DropCall`.** -/
theorem orphan_media :
    (¬ (run (step Dtls.nullCrypto.toPlatform) sampleIdle (sampleTwice ++ [.stopMedia none])).NoOrphans ∧
        (run (step Dtls.nullCrypto.toPlatform) sampleIdle (sampleTwice ++ [.stopMedia none])).left = {.classic 0 1}) ∧
      ¬ (run (step Dtls.nullCrypto.toPlatform) sampleIdle (sampleTwice ++ [.dropCall 1])).NoOrphans ∧
        (run (step Dtls.nullCrypto.toPlatform) sampleIdle (sampleTwice ++ [.dropCall 1])).left
          = {.classic 0 1, .classic 1 1} := by
  have hstopped : (run (step Dtls.nullCrypto.toPlatform) sampleIdle (sampleTwice ++ [.stopMedia none])).left
      = {.classic 0 1} := by decide +kernel
  have hdropped : (run (step Dtls.nullCrypto.toPlatform) sampleIdle (sampleTwice ++ [.dropCall 1])).left
      = {.classic 0 1, .classic 1 1} := by decide +kernel
  refine ⟨⟨fun h => ?_, hstopped⟩, fun h => ?_, hdropped⟩
  · have hempty := h.left
    rw [hstopped] at hempty
    exact absurd hempty (Finset.singleton_ne_empty _)
  · have hempty := h.left
    rw [hdropped] at hempty
    exact absurd hempty (Finset.insert_ne_empty _ _)

end MediaRun

end VianiumVoip.Engine
