import VianiumVoip.Lib.Run
import VianiumVoip.Engine.MediaSession

/-!
# The media graph of the native library

`DynamicTgcallsMediaGraph` loads `Vianium.Tgcalls.dll`, creates one native graph and hands the calls over to it.  The
signaling that the native graph produces goes to the handler of the call that is active.  `Start` makes its call the
active one before the native start, which may fail; the call that was active before is forgotten then.

The library is a parameter: what it and the loader answer, from a state of their own.
-/

namespace VianiumVoip.Engine

open VianiumVoip.Lib

/-! ### The library -/

/-- The functions that the library may export. -/
inductive Entrypoint
  | getAbiVersion
  | create
  | destroy
  | start
  | receiveSignalingData
  | stop
  | setMuted
  | setSpeaker
  | getSnapshot
  deriving DecidableEq

/-- `VianiumTgcallsResult` -/
structure NativeResult where
  code : ℤ := 0
  nativeCode : ℤ := 0
  message : String := ""

/-- What a function of the library returns and what it fills in. -/
structure NativeReply where
  returnCode : ℤ := 0
  result : NativeResult := {}

structure GraphEndpoint extends VoipEndpoint where
  tcp : Bool := false
  stun : Bool := false
  turn : Bool := false
  reflectorId : ℤ := 0

/-- What `Start` reads of a `VoipCallStartDescriptor`. -/
structure GraphDescriptor where
  callId : ℤ
  accessHash : ℤ := 0
  isInitiator : Bool := false
  isVideo : Bool := false
  udpP2p : Bool := false
  udpReflector : Bool := false
  minLayer : ℤ := 0
  maxLayer : ℤ := 0
  libraryVersions : List String := []
  keyFingerprint : Int64 := 0
  endpoints : List GraphEndpoint := []
  callConfigJson : String := ""

def kTgcallsAbiVersion : ℤ := 1

/-- `VianiumTgcallsStartDescriptor`, without the callback, which is `OnSignalingDataProduced` of the graph. -/
structure NativeStartDescriptor extends GraphDescriptor where
  abiVersion : ℤ
  sharedKey : Bytes

/-- What the loader and the functions of the library answer; `N` is their state, `H` the handles they give out. -/
structure TgcallsLibrary (N H : Type) where
  /-- `LoadPackagedLibrary`: the code of the error if it fails. -/
  loadPackagedLibrary : N → Option ℤ × N
  /-- `GetProcAddress` finds the function. -/
  exports : Entrypoint → Bool
  getAbiVersion : N → ℤ × N
  create : N → Option H × NativeReply × N
  start : N → Option H → NativeStartDescriptor → NativeReply × N
  receiveSignalingData : N → Option H → ℤ → Bytes → NativeReply × N
  stop : N → H → ℤ → NativeReply × N
  setMuted : N → Option H → ℤ → Bool → NativeReply × N
  setSpeaker : N → Option H → ℤ → Bool → NativeReply × N

/-! ### Errors -/

def unavailable (message : String) : VoipError := { kind := .unavailable, message := message }

def mapResultCode (code : ℤ) : VoipErrorKind :=
  if code = 1 then .unavailable
  else if code = 2 then .invalidArgument
  else if code = 3 then .cryptoUnavailable
  else if code = 4 then .transportFailed
  else if code = 5 then .codecFailed
  else if code = 6 then .audioDeviceFailed
  else .internalError

/-- The function has failed. -/
def NativeReply.Failed (reply : NativeReply) : Prop := reply.returnCode ≠ 0 ∨ reply.result.code ≠ 0

instance (reply : NativeReply) : Decidable reply.Failed := inferInstanceAs (Decidable (_ ∨ _))

def toVoipError (reply : NativeReply) (operation : String) : Except VoipError Unit :=
  if reply.returnCode = 0 ∧ reply.result.code = 0 then .ok ()
  else
    let code := if reply.result.code = 0 then reply.returnCode else reply.result.code
    .error
      { kind := mapResultCode code
        code := if reply.result.nativeCode = 0 then reply.returnCode else reply.result.nativeCode
        message := operation ++ " failed" ++
          if reply.result.message ≠ "" then ": " ++ reply.result.message else "" }

theorem toVoipError_eq_ok_iff {reply : NativeReply} (operation : String) :
    toVoipError reply operation = .ok () ↔ ¬ reply.Failed := by
  unfold toVoipError NativeReply.Failed
  split_ifs with h
  · simp [h]
  · exact iff_of_false (by simp) (not_not_intro (not_and_or.1 h))

/-! ### The graph -/

/-- `F` are the handlers for what the native graph produces. -/
structure TgcallsMediaGraphStartContext (F : Type) where
  descriptor : GraphDescriptor
  sharedKey : Bytes := []
  signalingDataProduced : Option F

def TgcallsMediaGraphStartContext.toNative {F : Type} (context : TgcallsMediaGraphStartContext F) :
    NativeStartDescriptor where
  toGraphDescriptor := context.descriptor
  abiVersion := kTgcallsAbiVersion
  sharedKey := context.sharedKey

structure DynamicTgcallsMediaGraph (N H F : Type) where
  native : N
  /-- `m_module` is not null. -/
  module : Bool := false
  handle : Option H := none
  loadAttempted : Bool := false
  activeCallId : ℤ := 0
  signalingDataProduced : Option F := none
  /-- The pointers to functions that are not null. -/
  entrypoints : Entrypoint → Bool := fun _ => false

namespace DynamicTgcallsMediaGraph

variable {N H F : Type} (D : TgcallsLibrary N H)

def requiredEntrypoints : List Entrypoint := [.getAbiVersion, .create, .destroy, .start, .receiveSignalingData, .stop]

def ensureLoaded (g : DynamicTgcallsMediaGraph N H F) : DynamicTgcallsMediaGraph N H F × Except VoipError Unit :=
  if g.module then (g, .ok ())
  else if g.loadAttempted then
    (g, .error (unavailable ("Vianium.Tgcalls.dll is not loaded; package a modern tgcalls/WebRTC backend implementing "
      ++ "VianiumTgcalls ABI v1")))
  else
    let g := { g with loadAttempted := true }
    match D.loadPackagedLibrary g.native with
    | (some code, native) =>
      ({ g with native := native }, .error (unavailable ("Vianium.Tgcalls.dll was not found or could not be loaded; "
        ++ "build and bundle the modern tgcalls/WebRTC backend DLL win32=" ++ toString code)))
    | (none, native) =>
      let g := { g with native := native, entrypoints := D.exports }
      if ¬ requiredEntrypoints.all g.entrypoints then
        (g, .error (unavailable "Vianium.Tgcalls.dll does not export the required VianiumTgcalls ABI v1 entrypoints"))
      else
        let (abiVersion, native) := D.getAbiVersion g.native
        let g := { g with native := native }
        if abiVersion ≠ kTgcallsAbiVersion then
          (g, .error (unavailable ("Vianium.Tgcalls.dll ABI mismatch; expected " ++ toString kTgcallsAbiVersion
            ++ " got " ++ toString abiVersion)))
        else ({ g with module := true }, .ok ())

def ensureHandle (g : DynamicTgcallsMediaGraph N H F) : DynamicTgcallsMediaGraph N H F × Except VoipError Unit :=
  match g.ensureLoaded D with
  | (g, .error error) => (g, .error error)
  | (g, .ok ()) =>
    if g.handle.isSome then (g, .ok ())
    else
      let (handle, reply, native) := D.create g.native
      ({ g with handle := handle, native := native }, toVoipError reply "VianiumTgcallsCreate")

/-- The call is no longer the active one, if it was. -/
def detach (g : DynamicTgcallsMediaGraph N H F) (callId : ℤ) : DynamicTgcallsMediaGraph N H F :=
  if g.activeCallId = callId then { g with activeCallId := 0, signalingDataProduced := none } else g

def start (g : DynamicTgcallsMediaGraph N H F) (context : TgcallsMediaGraphStartContext F) :
    DynamicTgcallsMediaGraph N H F × Except VoipError Unit :=
  match g.ensureHandle D with
  | (g, .error error) => (g, .error error)
  | (g, .ok ()) =>
    let g :=
      { g with
        activeCallId := context.descriptor.callId
        signalingDataProduced := context.signalingDataProduced }
    let (reply, native) := D.start g.native g.handle context.toNative
    let g := { g with native := native }
    match toVoipError reply "VianiumTgcallsStart" with
    | .error error => (g.detach context.descriptor.callId, .error error)
    | .ok () => (g, .ok ())

/-- `ReceiveSignalingData`, `SetMuted` and `SetSpeaker`: a function of the library on the handle. -/
def callNative (g : DynamicTgcallsMediaGraph N H F) (operation : String) (call : N → Option H → NativeReply × N) :
    DynamicTgcallsMediaGraph N H F × Except VoipError Unit :=
  let (reply, native) := call g.native g.handle
  ({ g with native := native }, toVoipError reply operation)

def receiveSignalingData (g : DynamicTgcallsMediaGraph N H F) (callId : ℤ) (data : Bytes) :
    DynamicTgcallsMediaGraph N H F × Except VoipError Unit :=
  match g.ensureHandle D with
  | (g, .error error) => (g, .error error)
  | (g, .ok ()) =>
    g.callNative "VianiumTgcallsReceiveSignalingData" fun native handle =>
      D.receiveSignalingData native handle callId data

def stop (g : DynamicTgcallsMediaGraph N H F) (callId : ℤ) : DynamicTgcallsMediaGraph N H F × Except VoipError Unit :=
  match g.ensureLoaded D with
  | (g, .error _) => (g.detach callId, .ok ())
  | (g, .ok ()) =>
    let (reply, native) :=
      match g.handle with
      | none => (({} : NativeReply), g.native)
      | some handle => D.stop g.native handle callId
    let g := { g with native := native }
    (g.detach callId, toVoipError reply "VianiumTgcallsStop")

def setMuted (g : DynamicTgcallsMediaGraph N H F) (callId : ℤ) (muted : Bool) :
    DynamicTgcallsMediaGraph N H F × Except VoipError Unit :=
  match g.ensureHandle D with
  | (g, .error error) => (g, .error error)
  | (g, .ok ()) =>
    if ¬ g.entrypoints .setMuted then (g, .ok ())
    else g.callNative "VianiumTgcallsSetMuted" fun native handle => D.setMuted native handle callId muted

def setSpeaker (g : DynamicTgcallsMediaGraph N H F) (callId : ℤ) (on : Bool) :
    DynamicTgcallsMediaGraph N H F × Except VoipError Unit :=
  match g.ensureHandle D with
  | (g, .error error) => (g, .error error)
  | (g, .ok ()) =>
    if ¬ g.entrypoints .setSpeaker then (g, .ok ())
    else g.callNative "VianiumTgcallsSetSpeaker" fun native handle => D.setSpeaker native handle callId on

/-- `OnSignalingDataProduced`: the handler that is called, and with what. -/
def onSignalingDataProduced (g : DynamicTgcallsMediaGraph N H F) (callId : ℤ) (data : Bytes) : Option (F × ℤ × Bytes) :=
  if data = [] then none
  else if g.activeCallId ≠ callId then none
  else g.signalingDataProduced.map fun handler => (handler, callId, data)

/-! ### When there is no handle -/

/-- The state of the library once it is loaded, if it can be. -/
def loaded (g : DynamicTgcallsMediaGraph N H F) : Option N :=
  if g.module then some g.native
  else if g.loadAttempted then none
  else
    match D.loadPackagedLibrary g.native with
    | (some _, _) => none
    | (none, native) =>
      if requiredEntrypoints.all D.exports ∧ (D.getAbiVersion native).1 = kTgcallsAbiVersion then
        some (D.getAbiVersion native).2
      else none

/-- There is no native graph, and none can be had: the library cannot be loaded, or its `create` fails. -/
def NoHandle (g : DynamicTgcallsMediaGraph N H F) : Prop :=
  match g.loaded D with
  | none => True
  | some native => g.handle = none ∧ (D.create native).2.1.Failed

variable {D} {g g' : DynamicTgcallsMediaGraph N H F} {error : VoipError}

theorem ensureLoaded_frame (g : DynamicTgcallsMediaGraph N H F) :
    (g.ensureLoaded D).1.handle = g.handle ∧ (g.ensureLoaded D).1.activeCallId = g.activeCallId ∧
      (g.ensureLoaded D).1.signalingDataProduced = g.signalingDataProduced := by
  unfold ensureLoaded
  by_cases hmodule : g.module = true
  · simp only [if_pos hmodule, and_self]
  by_cases hattempted : g.loadAttempted = true
  · simp only [if_neg hmodule, if_pos hattempted, and_self]
  simp only [if_neg hmodule, if_neg hattempted]
  rcases D.loadPackagedLibrary g.native with ⟨_ | code, native⟩
  · dsimp only
    split_ifs <;> exact ⟨rfl, rfl, rfl⟩
  · exact ⟨rfl, rfl, rfl⟩

theorem ensureLoaded_spec (g : DynamicTgcallsMediaGraph N H F) :
    match g.loaded D with
    | none => ∃ error, (g.ensureLoaded D).2 = .error error
    | some native => (g.ensureLoaded D).2 = .ok () ∧ (g.ensureLoaded D).1.native = native ∧
        (g.ensureLoaded D).1.module = true := by
  unfold loaded ensureLoaded
  by_cases hmodule : g.module = true
  · simp [hmodule]
  by_cases hattempted : g.loadAttempted = true
  · simp [hmodule, hattempted]
  simp only [if_neg hmodule, if_neg hattempted]
  rcases D.loadPackagedLibrary g.native with ⟨_ | code, native⟩
  · by_cases hexports : requiredEntrypoints.all D.exports = true
    · by_cases habi : (D.getAbiVersion native).1 = kTgcallsAbiVersion
      · simp [hexports, habi]
      · simp [hexports, habi]
    · simp [hexports]
  · simp

theorem ensureHandle_frame (g : DynamicTgcallsMediaGraph N H F) :
    (g.ensureHandle D).1.activeCallId = g.activeCallId ∧
      (g.ensureHandle D).1.signalingDataProduced = g.signalingDataProduced := by
  have hloaded := (ensureLoaded_frame (D := D) g).2
  unfold ensureHandle
  generalize g.ensureLoaded D = loading at hloaded ⊢
  obtain ⟨g', error | _⟩ := loading
  · exact hloaded
  · dsimp only
    split_ifs <;> exact hloaded

theorem ensureHandle_error_iff (g : DynamicTgcallsMediaGraph N H F) :
    (∃ error, (g.ensureHandle D).2 = .error error) ↔ g.NoHandle D := by
  have hspec := ensureLoaded_spec (D := D) g
  have hhandle := (ensureLoaded_frame (D := D) g).1
  unfold NoHandle ensureHandle
  rcases hload : g.loaded D with _ | native
  · rw [hload] at hspec
    obtain ⟨error, herror⟩ := hspec
    rcases hensure : g.ensureLoaded D with ⟨g', _ | _⟩
    · simp
    · rw [hensure] at herror
      cases herror
  · rw [hload] at hspec
    obtain ⟨hok, hnative, -⟩ := hspec
    rcases hensure : g.ensureLoaded D with ⟨g', _ | _⟩
    · rw [hensure] at hok
      cases hok
    rw [hensure] at hnative hhandle
    dsimp only at hnative hhandle ⊢
    rw [hnative, hhandle]
    cases g.handle with
    | some handle => simp
    | none =>
      have hreply : (∃ error, toVoipError (D.create native).2.1 "VianiumTgcallsCreate" = .error error) ↔
          (D.create native).2.1.Failed := by
        rw [← not_iff_not, ← toVoipError_eq_ok_iff "VianiumTgcallsCreate"]
        rcases toVoipError (D.create native).2.1 "VianiumTgcallsCreate" with error | _ <;> simp
      simpa using hreply

/-! ### The active call -/

/-- The call is the active one, and its handler is installed. -/
structure Attached (g : DynamicTgcallsMediaGraph N H F) (callId : ℤ) (handler : F) : Prop where
  active : g.activeCallId = callId
  installed : g.signalingDataProduced = some handler

/-- What the native graph produces for the active call reaches its handler. -/
theorem Attached.reaches {callId : ℤ} {handler : F} (h : g.Attached callId handler) {data : Bytes} (hdata : data ≠ []) :
    g.onSignalingDataProduced callId data = some (handler, callId, data) := by
  rw [onSignalingDataProduced, if_neg hdata, if_neg (not_not_intro h.active), h.installed, Option.map_some]

/-- A start that fails without a handle has touched nothing of the active call. -/
theorem start_of_noHandle (context : TgcallsMediaGraphStartContext F) (h : g.NoHandle D) :
    (g.start D context).1.activeCallId = g.activeCallId ∧
      (g.start D context).1.signalingDataProduced = g.signalingDataProduced := by
  have hframe := ensureHandle_frame (D := D) g
  obtain ⟨error, herror⟩ := ensureHandle_error_iff g |>.2 h
  unfold start
  generalize g.ensureHandle D = handling at hframe herror ⊢
  obtain ⟨g', _⟩ := handling
  dsimp only at herror hframe
  subst herror
  exact hframe

/-- A start that the native graph refuses leaves no active call behind. -/
theorem start_of_handle (context : TgcallsMediaGraphStartContext F) (h : ¬ g.NoHandle D)
    (hfail : (g.start D context).2 = .error error) :
    (g.start D context).1.activeCallId = 0 ∧ (g.start D context).1.signalingDataProduced = none := by
  rw [← ensureHandle_error_iff] at h
  unfold start at hfail ⊢
  generalize g.ensureHandle D = handling at h hfail ⊢
  obtain ⟨g', refused | _⟩ := handling
  · exact absurd ⟨refused, rfl⟩ h
  dsimp only at hfail ⊢
  cases hreply : toVoipError (D.start g'.native g'.handle context.toNative).1 "VianiumTgcallsStart" with
  | ok _ =>
    rw [hreply] at hfail
    cases hfail
  | error error =>
    simp only [detach, if_true]
    exact ⟨trivial, trivial⟩

/-- **A failed start, for whatever call, leaves the active call attached, and what is produced for it on its way to its
handler, exactly when it fails for want of a handle.** -/
theorem failed_start_keeps_iff {callId : ℤ} {handler : F} {context : TgcallsMediaGraphStartContext F}
    (hactive : g.Attached callId handler) (hfail : (g.start D context).2 = .error error) :
    ((g.start D context).1.Attached callId handler ∧ ∀ data, data ≠ [] →
      (g.start D context).1.onSignalingDataProduced callId data = some (handler, callId, data)) ↔ g.NoHandle D := by
  constructor
  · rintro ⟨h, -⟩
    by_contra hhandle
    have hgone := (start_of_handle context hhandle hfail).2
    rw [h.installed] at hgone
    cases hgone
  · intro hhandle
    obtain ⟨hid, hhandler⟩ := start_of_noHandle context hhandle
    have h : (g.start D context).1.Attached callId handler :=
      ⟨hid.trans hactive.active, hhandler.trans hactive.installed⟩
    exact ⟨h, fun data hdata => h.reaches hdata⟩

/-! ### Runs -/

end DynamicTgcallsMediaGraph

/-- The calls of the graph's interface. -/
inductive GraphCall (F : Type)
  | start (context : TgcallsMediaGraphStartContext F)
  | receiveSignalingData (callId : ℤ) (data : Bytes)
  | stop (callId : ℤ)
  | setMuted (callId : ℤ) (muted : Bool)
  | setSpeaker (callId : ℤ) (on : Bool)

/-- A `create` that reports success has made a handle. -/
def TgcallsLibrary.CreatesHandles {N H : Type} (D : TgcallsLibrary N H) : Prop :=
  ∀ native, ¬ (D.create native).2.1.Failed → (D.create native).1 ≠ none

namespace DynamicTgcallsMediaGraph

variable {N H F : Type} (D : TgcallsLibrary N H)

def step (g : DynamicTgcallsMediaGraph N H F) : GraphCall F → DynamicTgcallsMediaGraph N H F
  | .start context => (g.start D context).1
  | .receiveSignalingData callId data => (g.receiveSignalingData D callId data).1
  | .stop callId => (g.stop D callId).1
  | .setMuted callId muted => (g.setMuted D callId muted).1
  | .setSpeaker callId on => (g.setSpeaker D callId on).1

/-- A graph in use has a handle, and a graph with a handle its library. -/
structure Ready (g : DynamicTgcallsMediaGraph N H F) : Prop where
  handle_of_active : g.activeCallId ≠ 0 → g.handle ≠ none
  module_of_handle : g.handle ≠ none → g.module = true

variable {D} {g : DynamicTgcallsMediaGraph N H F}

theorem Ready.ensureLoaded (h : g.Ready) : (g.ensureLoaded D).1.Ready := by
  obtain ⟨hhandle, hactive, -⟩ := ensureLoaded_frame (D := D) g
  refine ⟨fun hid => ?_, fun hset => ?_⟩
  · rw [hactive] at hid
    rw [hhandle]
    exact h.handle_of_active hid
  · rw [hhandle] at hset
    have hmodule := h.module_of_handle hset
    rw [DynamicTgcallsMediaGraph.ensureLoaded, if_pos hmodule]
    exact hmodule

theorem Ready.ensureHandle (hD : D.CreatesHandles) (h : g.Ready) :
    (g.ensureHandle D).1.Ready ∧
      ((g.ensureHandle D).2 = .ok () → (g.ensureHandle D).1.handle ≠ none ∧ (g.ensureHandle D).1.module = true) := by
  have hloaded := h.ensureLoaded (D := D)
  have hspec := ensureLoaded_spec (D := D) g
  unfold DynamicTgcallsMediaGraph.ensureHandle
  generalize g.ensureLoaded D = loading at hloaded hspec ⊢
  obtain ⟨g', error | _⟩ := loading
  · exact ⟨hloaded, fun hok => by cases hok⟩
  have hmodule : g'.module = true := by
    rcases hload : g.loaded D with _ | native <;> rw [hload] at hspec
    · obtain ⟨error, herror⟩ := hspec
      cases herror
    · exact hspec.2.2
  dsimp only
  by_cases hset : g'.handle.isSome = true
  · rw [if_pos hset]
    exact ⟨hloaded, fun _ => ⟨Option.isSome_iff_ne_none.1 hset, hmodule⟩⟩
  rw [if_neg hset]
  refine ⟨⟨fun hid => ?_, fun _ => hmodule⟩, fun hok => ⟨?_, hmodule⟩⟩
  · have hnone := hloaded.handle_of_active hid
    exact absurd (Option.isSome_iff_ne_none.2 hnone) hset
  · exact hD _ ((toVoipError_eq_ok_iff _).1 hok)

theorem Ready.detach (h : g.Ready) (callId : ℤ) : (g.detach callId).Ready := by
  unfold DynamicTgcallsMediaGraph.detach
  split_ifs
  · exact ⟨fun hid => absurd rfl hid, h.module_of_handle⟩
  · exact h

theorem Ready.of_slots {g' : DynamicTgcallsMediaGraph N H F} (h : g.Ready) (hhandle : g'.handle = g.handle)
    (hmodule : g'.module = g.module) (hactive : g'.activeCallId = g.activeCallId) : g'.Ready :=
  ⟨fun hid => hhandle ▸ h.handle_of_active (hactive ▸ hid), fun hset => hmodule ▸ h.module_of_handle (hhandle ▸ hset)⟩

theorem Ready.step (hD : D.CreatesHandles) (h : g.Ready) (call : GraphCall F) : (g.step D call).Ready := by
  have hhandling := h.ensureHandle hD
  cases call with
  | start context =>
    unfold DynamicTgcallsMediaGraph.step DynamicTgcallsMediaGraph.start
    generalize g.ensureHandle D = handling at hhandling ⊢
    obtain ⟨g', error | _⟩ := handling
    · exact hhandling.1
    obtain ⟨hset, hmodule⟩ := hhandling.2 rfl
    dsimp only at hset hmodule ⊢
    split
    · refine Ready.detach ?_ _
      exact ⟨fun _ => hset, fun _ => hmodule⟩
    · exact ⟨fun _ => hset, fun _ => hmodule⟩
  | receiveSignalingData callId data =>
    unfold DynamicTgcallsMediaGraph.step DynamicTgcallsMediaGraph.receiveSignalingData
    generalize g.ensureHandle D = handling at hhandling ⊢
    obtain ⟨g', error | _⟩ := handling
    · exact hhandling.1
    · exact hhandling.1.of_slots rfl rfl rfl
  | stop callId =>
    have hloaded := h.ensureLoaded (D := D)
    unfold DynamicTgcallsMediaGraph.step DynamicTgcallsMediaGraph.stop
    generalize g.ensureLoaded D = loading at hloaded ⊢
    obtain ⟨g', error | _⟩ := loading
    · exact hloaded.detach callId
    · refine Ready.detach ?_ callId
      exact hloaded.of_slots rfl rfl rfl
  | setMuted callId muted =>
    unfold DynamicTgcallsMediaGraph.step DynamicTgcallsMediaGraph.setMuted
    generalize g.ensureHandle D = handling at hhandling ⊢
    obtain ⟨g', error | _⟩ := handling
    · exact hhandling.1
    dsimp only
    split_ifs <;> exact hhandling.1.of_slots rfl rfl rfl
  | setSpeaker callId on =>
    unfold DynamicTgcallsMediaGraph.step DynamicTgcallsMediaGraph.setSpeaker
    generalize g.ensureHandle D = handling at hhandling ⊢
    obtain ⟨g', error | _⟩ := handling
    · exact hhandling.1
    dsimp only
    split_ifs <;> exact hhandling.1.of_slots rfl rfl rfl

theorem ready_run (hD : D.CreatesHandles) (native : N) (calls : List (GraphCall F)) :
    (Run.run (step D) ({ native := native } : DynamicTgcallsMediaGraph N H F) calls).Ready :=
  Run.invariant_run_of_step (fun _ call h => h.step hD call) calls
    ⟨fun hid => absurd rfl hid, fun hset => absurd rfl hset⟩

theorem not_noHandle_run (hD : D.CreatesHandles) (native : N) (calls : List (GraphCall F))
    (hactive : (Run.run (step D) ({ native := native } : DynamicTgcallsMediaGraph N H F) calls).activeCallId ≠ 0) :
    ¬ (Run.run (step D) ({ native := native } : DynamicTgcallsMediaGraph N H F) calls).NoHandle D := by
  have hready := ready_run (F := F) hD native calls
  generalize Run.run (step D) ({ native := native } : DynamicTgcallsMediaGraph N H F) calls = g at hactive hready
  have hset := hready.handle_of_active hactive
  have hload : g.loaded D = some g.native := by rw [loaded, if_pos (hready.module_of_handle hset)]
  rw [NoHandle, hload]
  exact fun h => hset h.1

/-! ### A call that is silenced -/

/-- A library that runs one call at a time; its state are the calls that it runs. -/
def oneCallLibrary : TgcallsLibrary (List ℤ) Unit where
  loadPackagedLibrary running := (none, running)
  exports _ := true
  getAbiVersion running := (1, running)
  create running := (some (), {}, running)
  start running _ descriptor :=
    if running = [] then ({}, [descriptor.callId])
    else ({ returnCode := 2, result := { code := 2, message := "another call is running" } }, running)
  receiveSignalingData running _ _ _ := ({}, running)
  stop running _ callId := ({}, running.filter (· ≠ callId))
  setMuted running _ _ _ := ({}, running)
  setSpeaker running _ _ _ := ({}, running)

/-- The first call is started. -/
def firstStarted : DynamicTgcallsMediaGraph (List ℤ) Unit String :=
  Run.run (step oneCallLibrary) { native := [] }
    [.start { descriptor := { callId := 1 }, signalingDataProduced := some "engine" }]

/-- The start of the second call, which the library refuses. -/
def secondRefused : DynamicTgcallsMediaGraph (List ℤ) Unit String × Except VoipError Unit :=
  firstStarted.start oneCallLibrary { descriptor := { callId := 2 }, signalingDataProduced := some "engine" }

/-- The first call goes on in the library, and what it produces reaches nobody any more. -/
theorem failed_start_silences :
    firstStarted.Attached 1 "engine" ∧
      firstStarted.onSignalingDataProduced 1 [0xAA] = some ("engine", 1, [0xAA]) ∧
      (∃ error, secondRefused.2 = .error error) ∧ secondRefused.1.native = [1] ∧
      ¬ secondRefused.1.Attached 1 "engine" ∧ secondRefused.1.onSignalingDataProduced 1 [0xAA] = none := by
  refine ⟨⟨rfl, rfl⟩, rfl, ⟨_, rfl⟩, rfl, fun h => ?_, rfl⟩
  have hactive : (0 : ℤ) = 1 := h.active
  omega

/-- Without the library nothing happens to the call that is active. -/
theorem failed_start_keeps_unloaded :
    let g : DynamicTgcallsMediaGraph (List ℤ) Unit String :=
      { native := [], loadAttempted := true, activeCallId := 1, signalingDataProduced := some "engine" }
    let context : TgcallsMediaGraphStartContext String :=
      { descriptor := { callId := 2 }, signalingDataProduced := some "engine" }
    ((g.start oneCallLibrary context).1.Attached 1 "engine" ∧ ∀ data, data ≠ [] →
      (g.start oneCallLibrary context).1.onSignalingDataProduced 1 data = some ("engine", 1, data)) ↔
        g.NoHandle oneCallLibrary :=
  failed_start_keeps_iff ⟨rfl, rfl⟩ rfl

end DynamicTgcallsMediaGraph

end VianiumVoip.Engine
