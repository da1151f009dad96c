import Tarako.Driver.Ioctl
import Tarako.Driver.SetOnce
import Tarako.Library.Transitions

/-! The life of the module: loads with all their failure exits, the ioctls of arbitrary
processes while the device exists, and unloads, over one `KEY_PAIR`.
-/

namespace Tarako.Driver

open Lang Transitions

/-- Where `init` or the teardown of the module stands. -/
inductive Phase
  | unloaded
  | generated (keyPair : KeyPair)
  | registered (keyPair : KeyPair)
  | claimed (keyPair : KeyPair)
  | written
  | loaded
  | refused
  | deregistered
deriving DecidableEq

/-- Whether the misc device is registered. -/
def Phase.hasDevice : Phase → Bool
  | .registered _ => true
  | .claimed _ => true
  | .written => true
  | .loaded => true
  | .refused => true
  | _ => false

/-- An ioctl in flight: whether its `KEY_PAIR.as_ref()` handed out a reference. -/
structure PendingCall where
  cmd : UInt32
  arg : Nat
  referred : Bool

/-- `KEY_PAIR`, the phase of the module, and the ioctls in flight. -/
structure TarakoModule where
  keyPair : SetOnce KeyPair
  phase : Phase
  calls : List PendingCall

/-- No device and no ioctl. -/
def TarakoModule.unloaded (keyPair : SetOnce KeyPair) : TarakoModule :=
  ⟨keyPair, .unloaded, []⟩

/-- A step of the module's `init` or teardown, or of an ioctl. Whether IMA recorded what it was
handed is up to the kernel, as is the outcome of the registration.
-/
inductive LifecycleStep
  | generate (calls : GenerateCalls) (recorded : ImaMeasurement → Bool)
  | register (succeeds : Bool)
  | claim
  | write
  | publish
  | abort
  | startIoctl (cmd : UInt32) (arg : Nat)
  | finishIoctl (index : Nat) (calls : Nat → KeyCalls) (task : CurrentTask) (memory : UserMemory)
  | dropDevice
  | dropKeyCleanup

/-- What happens in a life of the module. A load begins with the pair it generated, if any;
`KEY_PAIR` is noted where loads begin and fail and where an unload ends.
-/
inductive LifecycleEvent
  | loading (before : SetOnce KeyPair) (generated : Option KeyPair)
  | recorded (measurement : ImaMeasurement)
  | registered
  | failed (after : SetOnce KeyPair)
  | returned (cmd : UInt32) (arg : Nat) (used : Option KeyPair) (memory : UserMemory)
      (result : Except Errno Int)
  | unloaded (after : SetOnce KeyPair)

namespace TarakoModule

/-- One step, with the events it emits, newest first. Dropping the registration waits for the
ioctls in flight.
-/
def step (kernel : Kernel) (state : TarakoModule)
    : LifecycleStep → Option (TarakoModule × List LifecycleEvent)
  | .generate calls recorded =>
      match state.phase with
      | .unloaded =>
          let generation := generateKeyPairLog calls
          let measured := (generation.calls.filter recorded).map .recorded
          match generation.result with
          | .error _ =>
              some (state,
                .failed state.keyPair :: (measured ++ [.loading state.keyPair none]))
          | .ok keyPair =>
              some ({ state with phase := .generated keyPair },
                measured ++ [.loading state.keyPair (some keyPair)])
      | _ => none
  | .register succeeds =>
      match state.phase with
      | .generated keyPair =>
          if succeeds then
            some ({ state with phase := .registered keyPair }, [.registered])
          else
            some ({ state with phase := .unloaded }, [.failed state.keyPair])
      | _ => none
  | .claim =>
      match state.phase with
      | .registered keyPair =>
          match state.keyPair.claim with
          | (claimed, true) =>
              some ({ state with keyPair := claimed, phase := .claimed keyPair }, [])
          | (found, false) => some ({ state with keyPair := found, phase := .refused }, [])
      | _ => none
  | .write =>
      match state.phase with
      | .claimed keyPair =>
          some ({ state with keyPair := state.keyPair.write keyPair, phase := .written }, [])
      | _ => none
  | .publish =>
      match state.phase with
      | .written => some ({ state with keyPair := state.keyPair.store 2, phase := .loaded }, [])
      | _ => none
  | .abort =>
      -- `EBUSY` drops the registration, and with it every ioctl
      match state.phase, state.calls with
      | .refused, [] => some ({ state with phase := .unloaded }, [.failed state.keyPair])
      | _, _ => none
  | .startIoctl cmd arg =>
      if state.phase.hasDevice then
        some ({ state with calls := ⟨cmd, arg, state.keyPair.asRef⟩ :: state.calls }, [])
      else
        none
  | .finishIoctl index calls task memory =>
      match state.calls[index]? with
      | none => none
      | some call =>
          -- the reference is followed here, long after the load that handed it out
          let used := if call.referred then state.keyPair.value else none
          let (written, result) := ioctl kernel calls used task memory call.cmd call.arg
          some ({ state with calls := state.calls.eraseIdx index },
            [.returned call.cmd call.arg used written result])
  | .dropDevice =>
      match state.phase, state.calls with
      | .loaded, [] => some ({ state with phase := .deregistered }, [])
      | _, _ => none
  | .dropKeyCleanup =>
      match state.phase with
      | .deregistered =>
          some ({ state with keyPair := state.keyPair.clear, phase := .unloaded },
            [.unloaded state.keyPair.clear])
      | _ => none

end TarakoModule

/-- A step of the module with its trace. -/
def lifecycleStep (kernel : Kernel)
    : TarakoModule × List LifecycleEvent → LifecycleStep
      → Option (TarakoModule × List LifecycleEvent) :=
  traced (fun state step => state.step kernel step)

-----------------------------------------------------------------------------------------
-- What a step can do
-----------------------------------------------------------------------------------------

/-- Every way in which a step changes the module. -/
inductive LifecycleEffect (kernel : Kernel) (state : TarakoModule)
    : LifecycleStep → TarakoModule → List LifecycleEvent → Prop
  | notGenerated {calls recorded} (idle : state.phase = .unloaded)
    : LifecycleEffect kernel state (.generate calls recorded) state
        [.failed state.keyPair, .loading state.keyPair none]
  | generated {calls recorded keyPair} (idle : state.phase = .unloaded)
      (made : generateKeyPair calls = .ok keyPair)
    : LifecycleEffect kernel state (.generate calls recorded)
        { state with phase := .generated keyPair }
        (((generateKeyPairLog calls).calls.filter recorded).map .recorded
          ++ [.loading state.keyPair (some keyPair)])
  | registered {keyPair} (ready : state.phase = .generated keyPair)
    : LifecycleEffect kernel state (.register true)
        { state with phase := .registered keyPair } [.registered]
  | notRegistered {keyPair} (ready : state.phase = .generated keyPair)
    : LifecycleEffect kernel state (.register false)
        { state with phase := .unloaded } [.failed state.keyPair]
  | claimed {keyPair} (ready : state.phase = .registered keyPair)
      (empty : state.keyPair.init = 0)
    : LifecycleEffect kernel state .claim
        { state with keyPair := state.keyPair.store 1, phase := .claimed keyPair } []
  | refused {keyPair} (ready : state.phase = .registered keyPair)
      (occupied : state.keyPair.init ≠ 0)
    : LifecycleEffect kernel state .claim { state with phase := .refused } []
  | written {keyPair} (ready : state.phase = .claimed keyPair)
    : LifecycleEffect kernel state .write
        { state with keyPair := state.keyPair.write keyPair, phase := .written } []
  | published (ready : state.phase = .written)
    : LifecycleEffect kernel state .publish
        { state with keyPair := state.keyPair.store 2, phase := .loaded } []
  | aborted (ready : state.phase = .refused) (quiet : state.calls = [])
    : LifecycleEffect kernel state .abort
        { state with phase := .unloaded } [.failed state.keyPair]
  | started {cmd arg} (device : state.phase.hasDevice = true)
    : LifecycleEffect kernel state (.startIoctl cmd arg)
        { state with calls := ⟨cmd, arg, state.keyPair.asRef⟩ :: state.calls } []
  | finished {index calls task memory call used written result}
      (pending : state.calls[index]? = some call)
      (found : used = if call.referred then state.keyPair.value else none)
      (answered : ioctl kernel calls used task memory call.cmd call.arg = (written, result))
    : LifecycleEffect kernel state (.finishIoctl index calls task memory)
        { state with calls := state.calls.eraseIdx index }
        [.returned call.cmd call.arg used written result]
  | deviceDropped (ready : state.phase = .loaded) (quiet : state.calls = [])
    : LifecycleEffect kernel state .dropDevice { state with phase := .deregistered } []
  | keyDropped (ready : state.phase = .deregistered)
    : LifecycleEffect kernel state .dropKeyCleanup
        { state with keyPair := state.keyPair.clear, phase := .unloaded }
        [.unloaded state.keyPair.clear]

theorem TarakoModule.step_effect {kernel : Kernel} {state next : TarakoModule}
    {step : LifecycleStep} {events : List LifecycleEvent}
    (stepped : state.step kernel step = some (next, events))
    : LifecycleEffect kernel state step next events := by
  cases step with
  | generate calls recorded =>
      simp only [TarakoModule.step] at stepped
      split at stepped
      · next idle =>
          split at stepped
          · next failed =>
              rw [generateKeyPair_error failed] at stepped
              cases stepped
              exact .notGenerated idle
          · next made =>
              cases stepped
              exact .generated idle made
      · cases stepped
  | register succeeds =>
      simp only [TarakoModule.step] at stepped
      split at stepped
      · next ready =>
          cases succeeds with
          | true =>
              cases stepped
              exact .registered ready
          | false =>
              cases stepped
              exact .notRegistered ready
      · cases stepped
  | claim =>
      simp only [TarakoModule.step, SetOnce.claim_eq] at stepped
      split at stepped
      · next ready =>
          by_cases empty : state.keyPair.init = 0
          · rw [if_pos empty] at stepped
            cases stepped
            exact .claimed ready empty
          · rw [if_neg empty] at stepped
            cases stepped
            exact .refused ready empty
      · cases stepped
  | write =>
      simp only [TarakoModule.step] at stepped
      split at stepped
      · next ready =>
          cases stepped
          exact .written ready
      · cases stepped
  | publish =>
      simp only [TarakoModule.step] at stepped
      split at stepped
      · next ready =>
          cases stepped
          exact .published ready
      · cases stepped
  | abort =>
      simp only [TarakoModule.step] at stepped
      split at stepped
      · next ready quiet =>
          cases stepped
          exact .aborted ready quiet
      · cases stepped
  | startIoctl cmd arg =>
      simp only [TarakoModule.step] at stepped
      split at stepped
      · next device =>
          cases stepped
          exact .started device
      · cases stepped
  | finishIoctl index calls task memory =>
      simp only [TarakoModule.step] at stepped
      split at stepped
      · cases stepped
      · next call pending =>
          cases stepped
          exact .finished pending rfl rfl
  | dropDevice =>
      simp only [TarakoModule.step] at stepped
      split at stepped
      · next ready quiet =>
          cases stepped
          exact .deviceDropped ready quiet
      · cases stepped
  | dropKeyCleanup =>
      simp only [TarakoModule.step] at stepped
      split at stepped
      · next ready =>
          cases stepped
          exact .keyDropped ready
      · cases stepped

/-- The beginning of the current or last load: `KEY_PAIR` at that time and the generated pair. -/
def loadStart : List LifecycleEvent → Option (SetOnce KeyPair × Option KeyPair)
  | [] => none
  | .loading before generated :: _ => some (before, generated)
  | _ :: older => loadStart older

/-- The events since the current or last load began. -/
def currentLoad : List LifecycleEvent → List LifecycleEvent
  | [] => []
  | .loading _ _ :: _ => []
  | event :: older => event :: currentLoad older

/-- Whether an event begins a load. -/
def LifecycleEvent.isLoading : LifecycleEvent → Bool
  | .loading _ _ => true
  | _ => false

theorem loadStart_cons {event : LifecycleEvent} (later : event.isLoading = false)
    (older : List LifecycleEvent)
    : loadStart (event :: older) = loadStart older := by
  cases event with
  | loading before generated => cases later
  | _ => rfl

theorem currentLoad_cons {event : LifecycleEvent} (later : event.isLoading = false)
    (older : List LifecycleEvent)
    : currentLoad (event :: older) = event :: currentLoad older := by
  cases event with
  | loading before generated => cases later
  | _ => rfl

/-- Records belong to the load that they are made in. -/
theorem loadStart_recorded (measurements : List ImaMeasurement) (older : List LifecycleEvent)
    : loadStart (measurements.map .recorded ++ older) = loadStart older := by
  induction measurements with
  | nil => rfl
  | cons first rest ih => exact ih

theorem currentLoad_recorded (measurements : List ImaMeasurement) (older : List LifecycleEvent)
    : currentLoad (measurements.map .recorded ++ older)
      = measurements.map .recorded ++ currentLoad older := by
  induction measurements with
  | nil => rfl
  | cons first rest ih => exact congrArg (List.cons _) ih

/-- Events of one load share its beginning. -/
theorem loadStart_of_mem_currentLoad {trace : List LifecycleEvent} {event : LifecycleEvent}
    (member : event ∈ currentLoad trace)
    : ∃ newer older, trace = newer ++ event :: older ∧ loadStart trace = loadStart older := by
  induction trace with
  | nil => cases member
  | cons first older ih =>
      cases isLoading : first.isLoading with
      | true =>
          cases first with
          | loading before generated => cases member
          | _ => cases isLoading
      | false =>
          rw [currentLoad_cons isLoading] at member
          rcases List.mem_cons.mp member with rfl | inside
          · exact ⟨[], older, rfl, loadStart_cons isLoading older⟩
          · obtain ⟨newer, before, rfl, same⟩ := ih inside
            exact ⟨first :: newer, before, rfl, (loadStart_cons isLoading _).trans same⟩

theorem currentLoad_subset (trace : List LifecycleEvent) : currentLoad trace ⊆ trace := by
  intro event member
  obtain ⟨newer, older, rfl, _⟩ := loadStart_of_mem_currentLoad member
  exact List.mem_append_right _ (.head _)

/-- IMA recorded a public key itself, not its digest. -/
def KeyRecorded (pubkey : Bytes) (trace : List LifecycleEvent) : Prop :=
  ∃ measurement,
    .recorded measurement ∈ trace ∧ measurement.buf = pubkey ∧ measurement.hash = false

theorem KeyRecorded.mono {pubkey : Bytes} {trace larger : List LifecycleEvent}
    (recorded : KeyRecorded pubkey trace) (subset : trace ⊆ larger)
    : KeyRecorded pubkey larger := by
  obtain ⟨measurement, member, shown⟩ := recorded
  exact ⟨measurement, subset member, shown⟩

/-- A public key that IMA recorded before the device was registered, within one load. -/
def RecordedFirst (pubkey : Bytes) (load : List LifecycleEvent) : Prop :=
  ∃ newer older, load = newer ++ .registered :: older ∧ KeyRecorded pubkey older

theorem RecordedFirst.recorded {pubkey : Bytes} {load : List LifecycleEvent}
    (first : RecordedFirst pubkey load)
    : KeyRecorded pubkey load := by
  obtain ⟨newer, older, rfl, recorded⟩ := first
  exact recorded.mono fun _ member => List.mem_append_right _ (.tail _ member)

theorem RecordedFirst.later {pubkey : Bytes} {load : List LifecycleEvent}
    (first : RecordedFirst pubkey load) (event : LifecycleEvent)
    : RecordedFirst pubkey (event :: load) := by
  obtain ⟨newer, older, rfl, recorded⟩ := first
  exact ⟨event :: newer, older, rfl, recorded⟩

/-- The public key that a successful call left in its caller's memory. -/
def LifecycleEvent.returnedPubkey : LifecycleEvent → Option Bytes
  | .returned cmd arg _ memory (.ok _) =>
      if cmd = TARAKO_GET_PUBKEY then
        some (memory.load arg P256_PUBKEY_BYTES)
      else if cmd = TARAKO_SIGN_DATA then
        let filled : U8Array SIGN_DATA_REQ_BYTES :=
          ⟨memory.load arg SIGN_DATA_REQ_BYTES, memory.load_length arg _⟩
        some (SignDataReq.ofBytes filled).pubkey.1
      else
        none
  | _ => none

theorem LifecycleEvent.returnedPubkey_some {event : LifecycleEvent} {pubkey : Bytes}
    (returned : event.returnedPubkey = some pubkey)
    : ∃ cmd arg used memory result,
        event = .returned cmd arg used memory (.ok result)
        ∧ (cmd = TARAKO_GET_PUBKEY ∨ cmd = TARAKO_SIGN_DATA) := by
  unfold LifecycleEvent.returnedPubkey at returned
  split at returned
  · next cmd arg used memory result =>
      refine ⟨cmd, arg, used, memory, result, rfl, ?_⟩
      split_ifs at returned with isGet isSign
      · exact .inl isGet
      · exact .inr isSign
  · cases returned

/-- A successful call returns the public key of the pair it used. -/
theorem ioctl_returnedPubkey {kernel : Kernel} {calls : Nat → KeyCalls} {used : Option KeyPair}
    {task : CurrentTask} {before memory : UserMemory} {cmd : UInt32} {arg : Nat} {result : Int}
    (answered : ioctl kernel calls used task before cmd arg = (memory, .ok result))
    (known : cmd = TARAKO_GET_PUBKEY ∨ cmd = TARAKO_SIGN_DATA)
    : ∃ keyPair,
        used = some keyPair
        ∧ (LifecycleEvent.returned cmd arg used memory (.ok result)).returnedPubkey
          = some keyPair.pubkey.1 := by
  rcases known with rfl | rfl
  · obtain ⟨_, keyPair, same, loaded⟩ := handleGetPubkey_ok answered
    exact ⟨keyPair, same, congrArg some loaded⟩
  · obtain ⟨_, keyPair, digest, userData, r, s, same, data⟩ := handleSignData_ok answered
    refine ⟨keyPair, same, congrArg some ?_⟩
    have filled := SignDataReq.ofBytes_bytes ⟨userData,
      sha256Hash kernel (digest.digest ++ userData.1), scalarBytes r, scalarBytes s,
      keyPair.pubkey⟩
    have loaded : (⟨memory.load arg SIGN_DATA_REQ_BYTES, memory.load_length arg _⟩
        : U8Array SIGN_DATA_REQ_BYTES) = ⟨_, SignDataReq.bytes_length _⟩ :=
      Subtype.ext data.answered
    rw [loaded, filled]

/-- A successful signing call used a measured pair. -/
theorem ioctl_signData_measured {kernel : Kernel} {calls : Nat → KeyCalls}
    {used : Option KeyPair} {task : CurrentTask} {before memory : UserMemory} {arg : Nat}
    {result : Int}
    (answered : ioctl kernel calls used task before TARAKO_SIGN_DATA arg
      = (memory, .ok result))
    : ∃ keyPair, used = some keyPair ∧ keyPair.imaMeasured = true := by
  obtain ⟨_, keyPair, _, _, _, _, same, data⟩ := handleSignData_ok answered
  exact ⟨keyPair, same, data.measured⟩

-----------------------------------------------------------------------------------------
-- Failed loads
-----------------------------------------------------------------------------------------

/-- A failed load leaves `KEY_PAIR` as it was when the load began. -/
def FailureKeeps (event : LifecycleEvent) (older : List LifecycleEvent) : Prop :=
  match event with
  | .failed after => ∃ generated, loadStart older = some (after, generated)
  | _ => True

/-- Until its claim succeeds, a load has not touched `KEY_PAIR`. -/
def Untouched (state : TarakoModule) (trace : List LifecycleEvent) : Prop :=
  match state.phase with
  | .generated _ | .registered _ | .refused =>
      ∃ generated, loadStart trace = some (state.keyPair, generated)
  | _ => True

theorem failureKeeps_step {kernel : Kernel} {state next : TarakoModule}
    {events trace : List LifecycleEvent} {step : LifecycleStep}
    (effect : LifecycleEffect kernel state step next events) (untouched : Untouched state trace)
    (keeps : Each FailureKeeps trace)
    : Untouched next (events ++ trace) ∧ Each FailureKeeps (events ++ trace) := by
  unfold Untouched at untouched
  cases effect with
  | notGenerated idle =>
      refine ⟨?_, ⟨none, rfl⟩, trivial, keeps⟩
      simp [Untouched, idle]
  | @generated calls recorded keyPair idle made =>
      rw [List.append_assoc]
      refine ⟨⟨some keyPair, loadStart_recorded .. |>.trans rfl⟩, ?_⟩
      refine Each.extend ⟨trivial, keeps⟩ fun event member _ => ?_
      obtain ⟨measurement, _, rfl⟩ := List.mem_map.mp member
      trivial
  | registered ready =>
      rw [ready] at untouched
      exact ⟨untouched, trivial, keeps⟩
  | notRegistered ready =>
      rw [ready] at untouched
      exact ⟨trivial, untouched, keeps⟩
  | claimed ready empty => exact ⟨trivial, keeps⟩
  | refused ready occupied =>
      rw [ready] at untouched
      exact ⟨untouched, keeps⟩
  | written ready => exact ⟨trivial, keeps⟩
  | published ready => exact ⟨trivial, keeps⟩
  | aborted ready quiet =>
      rw [ready] at untouched
      exact ⟨trivial, untouched, keeps⟩
  | started device => exact ⟨untouched, keeps⟩
  | finished pending found answered => exact ⟨untouched, trivial, keeps⟩
  | deviceDropped ready quiet => exact ⟨trivial, keeps⟩
  | keyDropped ready => exact ⟨trivial, trivial, keeps⟩

/-- In every life of the module, whatever `KEY_PAIR` held before, failed loads keep it. -/
theorem failureKeeps_run {kernel : Kernel} {cell : SetOnce KeyPair}
    {steps : List LifecycleStep} {state : TarakoModule × List LifecycleEvent}
    (reached : Transitions.run (lifecycleStep kernel) (TarakoModule.unloaded cell, []) steps
      = some state)
    : Each FailureKeeps state.2 := by
  have both : Untouched state.1 state.2 ∧ Each FailureKeeps state.2 := by
    refine run_invariant_of_allowed (fun _ => True)
      (fun state : TarakoModule × List LifecycleEvent =>
        Untouched state.1 state.2 ∧ Each FailureKeeps state.2)
      ?_ reached (fun _ _ => trivial) ⟨trivial, trivial⟩
    intro before step after stepped _ kept
    obtain ⟨events, found, extended⟩ := traced_some stepped
    rw [extended]
    exact failureKeeps_step (TarakoModule.step_effect found) kept.1 kept.2
  exact both.2

-----------------------------------------------------------------------------------------
-- Measured keys
-----------------------------------------------------------------------------------------

/-- A non-negative return of `ima_measure_critical_data` means that the buffer of that call was
recorded.
-/
def LifecycleStep.Documented : LifecycleStep → Prop
  | .generate calls recorded =>
      ∀ measurement ∈ (generateKeyPairLog calls).calls,
        0 ≤ calls.imaMeasureCriticalData measurement → recorded measurement = true
  | _ => True

/-- What a load has done for its pair once the device is registered. -/
def Prepared (keyPair : KeyPair) (trace : List LifecycleEvent) : Prop :=
  (∃ before, loadStart trace = some (before, some keyPair))
  ∧ (keyPair.imaMeasured = true → RecordedFirst keyPair.pubkey.1 (currentLoad trace))

theorem Prepared.later {keyPair : KeyPair} {trace : List LifecycleEvent}
    (prepared : Prepared keyPair trace) {event : LifecycleEvent}
    (later : event.isLoading = false)
    : Prepared keyPair (event :: trace) := by
  obtain ⟨⟨before, start⟩, recorded⟩ := prepared
  refine ⟨⟨before, (loadStart_cons later trace).trans start⟩, fun measured => ?_⟩
  rw [currentLoad_cons later]
  exact (recorded measured).later event

/-- What `KEY_PAIR` holds in each phase, and what the trace says of that pair. -/
def CellFits (trace : List LifecycleEvent) (cell : SetOnce KeyPair) : Phase → Prop
  | .unloaded => cell = .new
  | .generated keyPair =>
      cell = .new
      ∧ (∃ before, loadStart trace = some (before, some keyPair))
      ∧ (keyPair.imaMeasured = true → KeyRecorded keyPair.pubkey.1 (currentLoad trace))
  | .registered keyPair => cell = .new ∧ Prepared keyPair trace
  | .claimed keyPair => cell = ⟨1, none⟩ ∧ Prepared keyPair trace
  | .written => ∃ keyPair, cell = ⟨1, some keyPair⟩ ∧ Prepared keyPair trace
  | .loaded => ∃ keyPair, cell = ⟨2, some keyPair⟩ ∧ Prepared keyPair trace
  | .refused => False
  | .deregistered => ∃ keyPair, cell = ⟨2, some keyPair⟩

/-- What stands behind a returned call, an unload and a load. -/
def LifeJustified (kernel : Kernel) (event : LifecycleEvent) (older : List LifecycleEvent)
    : Prop :=
  match event with
  | .returned cmd arg used memory result =>
      (∃ calls task before, ioctl kernel calls used task before cmd arg = (memory, result))
      ∧ ∀ keyPair, used = some keyPair → Prepared keyPair older
  | .unloaded after => after = .new
  | .loading _ (some keyPair) => ∃ calls, generateKeyPair calls = .ok keyPair
  | _ => True

/-- The module as its life so far left it: the cell fits the phase, only calls of a loaded
module hold references, and none outlives the device.
-/
structure LifeSound (kernel : Kernel) (state : TarakoModule) (trace : List LifecycleEvent) :
    Prop where
  cell : CellFits trace state.keyPair state.phase
  referred : ∀ call ∈ state.calls, call.referred = true → state.phase = .loaded
  quiet : state.phase.hasDevice = false → state.calls = []
  justified : Each (LifeJustified kernel) trace

theorem LifeSound.initial (kernel : Kernel)
    : LifeSound kernel (TarakoModule.unloaded .new) [] where
  cell := rfl
  referred := nofun
  quiet _ := rfl
  justified := trivial

/-- A returned call leaves what the trace says of the pair. -/
theorem CellFits.returned {trace : List LifecycleEvent} {cell : SetOnce KeyPair} {phase : Phase}
    (fits : CellFits trace cell phase) {event : LifecycleEvent}
    (later : event.isLoading = false)
    : CellFits (event :: trace) cell phase := by
  cases phase with
  | unloaded => exact fits
  | generated keyPair =>
      obtain ⟨empty, ⟨before, start⟩, recorded⟩ := fits
      refine ⟨empty, ⟨before, (loadStart_cons later trace).trans start⟩, fun measured => ?_⟩
      rw [currentLoad_cons later]
      exact (recorded measured).mono (List.subset_cons_self ..)
  | registered keyPair => exact ⟨fits.1, fits.2.later later⟩
  | claimed keyPair => exact ⟨fits.1, fits.2.later later⟩
  | written =>
      obtain ⟨keyPair, filled, prepared⟩ := fits
      exact ⟨keyPair, filled, prepared.later later⟩
  | loaded =>
      obtain ⟨keyPair, filled, prepared⟩ := fits
      exact ⟨keyPair, filled, prepared.later later⟩
  | refused => exact fits
  | deregistered => exact fits

/-- While the device exists, only the cell of a loaded module hands out references. -/
theorem CellFits.asRef {trace : List LifecycleEvent} {cell : SetOnce KeyPair} {phase : Phase}
    (fits : CellFits trace cell phase) (device : phase.hasDevice = true)
    (referred : cell.asRef = true)
    : phase = .loaded := by
  cases phase with
  | registered keyPair =>
      rw [fits.1] at referred
      cases referred
  | claimed keyPair =>
      rw [fits.1] at referred
      cases referred
  | written =>
      obtain ⟨keyPair, filled, _⟩ := fits
      rw [filled] at referred
      cases referred
  | loaded => rfl
  | refused => exact fits.elim
  | unloaded | generated _ | deregistered => cases device

section Steps

variable {kernel : Kernel} {state next : TarakoModule} {events trace : List LifecycleEvent}

/-- A change of the phase outside the loaded one, with no reference handed out. -/
theorem LifeSound.advance (sound : LifeSound kernel state trace) {cell : SetOnce KeyPair}
    {phase : Phase} (unloaded : state.phase ≠ .loaded)
    (fits : CellFits (events ++ trace) cell phase)
    (quiet : phase.hasDevice = false → state.calls = [])
    (free : ∀ event ∈ events, ∀ before, LifeJustified kernel event before)
    : LifeSound kernel { state with keyPair := cell, phase } (events ++ trace) where
  cell := fits
  referred call member referred := absurd (sound.referred call member referred) unloaded
  quiet := quiet
  justified := sound.justified.extend free

/-- A generated pair was recorded if it counts as measured. -/
theorem LifeSound.generate (sound : LifeSound kernel state trace)
    (idle : state.phase = .unloaded) {calls : GenerateCalls}
    {recorded : ImaMeasurement → Bool} {keyPair : KeyPair}
    (made : generateKeyPair calls = .ok keyPair)
    (documented : (LifecycleStep.generate calls recorded).Documented)
    : LifeSound kernel { state with phase := .generated keyPair }
        (((generateKeyPairLog calls).calls.filter recorded).map .recorded
          ++ [.loading state.keyPair (some keyPair)] ++ trace) := by
  have empty := sound.cell
  rw [idle] at empty
  have quiet := sound.quiet (by rw [idle]; rfl)
  refine sound.advance (by simp [idle]) ⟨empty, ?_, fun measured => ?_⟩ (fun _ => quiet) ?_
  · rw [List.append_assoc, loadStart_recorded]
    exact ⟨_, rfl⟩
  · -- a pair counts as measured only after a non-negative return, which means a record
    obtain ⟨_, _, _, _, _, measurement, called, _, key, whole, accepted⟩ := generateKeyPair_ok made
    have made : measurement ∈ (generateKeyPairLog calls).calls := by
      rw [called]
      exact List.mem_singleton_self _
    have kept := documented measurement made (accepted measured)
    rw [List.append_assoc, currentLoad_recorded]
    exact ⟨measurement,
      List.mem_append_left _ (List.mem_map_of_mem (List.mem_filter.mpr ⟨made, kept⟩)), key, whole⟩
  · intro event member before
    rcases List.mem_append.mp member with record | start
    · obtain ⟨measurement, _, rfl⟩ := List.mem_map.mp record
      trivial
    · cases List.mem_singleton.mp start
      exact ⟨calls, made⟩

/-- A call that returns used the pair of the loaded module, or none. -/
theorem LifeSound.finish (sound : LifeSound kernel state trace) {index : Nat}
    {calls : Nat → KeyCalls} {task : CurrentTask} {memory written : UserMemory}
    {call : PendingCall} {used : Option KeyPair} {result : Except Errno Int}
    (pending : state.calls[index]? = some call)
    (found : used = if call.referred then state.keyPair.value else none)
    (answered : ioctl kernel calls used task memory call.cmd call.arg = (written, result))
    : LifeSound kernel { state with calls := state.calls.eraseIdx index }
        ([.returned call.cmd call.arg used written result] ++ trace) where
  cell := sound.cell.returned rfl
  referred other member := sound.referred other (List.mem_of_mem_eraseIdx member)
  quiet gone := by simp [sound.quiet gone]
  justified := by
    refine ⟨⟨⟨calls, task, memory, answered⟩, fun keyPair same => ?_⟩, sound.justified⟩
    cases referred : call.referred with
    | false =>
        rw [referred] at found
        rw [found] at same
        cases same
    | true =>
        have loaded := sound.referred call (List.mem_of_getElem? pending) referred
        have fits := sound.cell
        rw [loaded] at fits
        obtain ⟨filled, cell, prepared⟩ := fits
        rw [referred, cell] at found
        rw [found] at same
        cases same
        exact prepared

/-- Every documented step keeps the module sound. -/
theorem LifeSound.step {step : LifecycleStep} (sound : LifeSound kernel state trace)
    (effect : LifecycleEffect kernel state step next events) (documented : step.Documented)
    : LifeSound kernel next (events ++ trace) := by
  have fits := sound.cell
  cases effect with
  | notGenerated idle =>
      refine ⟨?_, sound.referred, sound.quiet, trivial, trivial, sound.justified⟩
      rw [idle] at fits ⊢
      exact fits
  | generated idle made => exact sound.generate idle made documented
  | @registered keyPair ready =>
      rw [ready] at fits
      obtain ⟨empty, start, recorded⟩ := fits
      refine sound.advance (by simp [ready]) ⟨empty, start, fun measured => ?_⟩ nofun
        (by simp [LifeJustified])
      exact ⟨[], _, rfl, recorded measured⟩
  | notRegistered ready =>
      rw [ready] at fits
      exact sound.advance (by simp [ready]) fits.1 (fun _ => sound.quiet (by rw [ready]; rfl))
        (by simp [LifeJustified])
  | claimed ready empty =>
      rw [ready] at fits
      exact sound.advance (by simp [ready]) ⟨by rw [fits.1]; rfl, fits.2⟩ nofun nofun
  | refused ready occupied =>
      -- a sound life never gets here: the cell is empty until this load claims it
      rw [ready] at fits
      exact absurd (congrArg SetOnce.init fits.1) occupied
  | written ready =>
      rw [ready] at fits
      exact sound.advance (by simp [ready]) ⟨_, by rw [fits.1]; rfl, fits.2⟩ nofun nofun
  | published ready =>
      rw [ready] at fits
      obtain ⟨keyPair, filled, prepared⟩ := fits
      exact sound.advance (by simp [ready]) ⟨keyPair, by rw [filled]; rfl, prepared⟩ nofun nofun
  | aborted ready quiet =>
      rw [ready] at fits
      exact fits.elim
  | started device =>
      refine ⟨fits, ?_, ?_, sound.justified⟩
      · intro call member referred
        rcases List.mem_cons.mp member with rfl | older
        · exact fits.asRef device referred
        · exact sound.referred call older referred
      · intro gone
        rw [device] at gone
        cases gone
  | finished pending found answered => exact sound.finish pending found answered
  | deviceDropped ready quiet =>
      rw [ready] at fits
      obtain ⟨keyPair, filled, _⟩ := fits
      exact ⟨⟨keyPair, filled⟩, by simp [quiet], fun _ => quiet, sound.justified⟩
  | keyDropped ready =>
      rw [ready] at fits
      obtain ⟨keyPair, filled⟩ := fits
      have cleared : state.keyPair.clear = .new := by
        rw [SetOnce.clear_eq, filled]
        rfl
      refine sound.advance (by simp [ready]) cleared
        (fun _ => sound.quiet (by rw [ready]; rfl)) ?_
      intro event member before
      cases List.mem_singleton.mp member
      exact cleared

/-- Every life that begins with an empty `KEY_PAIR` is sound. -/
theorem LifeSound.run {steps : List LifecycleStep}
    (documented : ∀ step ∈ steps, step.Documented)
    (reached : Transitions.run (lifecycleStep kernel) (TarakoModule.unloaded .new, []) steps
      = some (state, trace))
    : LifeSound kernel state trace := by
  refine run_invariant_of_allowed LifecycleStep.Documented
    (fun state : TarakoModule × List LifecycleEvent => LifeSound kernel state.1 state.2)
    ?_ reached documented (LifeSound.initial kernel)
  intro before step after stepped allowed sound
  obtain ⟨events, found, extended⟩ := traced_some stepped
  rw [extended]
  exact sound.step (TarakoModule.step_effect found) allowed

/-- A call of a sound life that returned a public key used the pair of its load. -/
theorem LifeSound.returnedPubkey (sound : LifeSound kernel state trace)
    {newer older : List LifecycleEvent} {event : LifecycleEvent}
    (split : trace = newer ++ event :: older) {pubkey : Bytes}
    (returned : event.returnedPubkey = some pubkey)
    : ∃ keyPair before,
        loadStart older = some (before, some keyPair) ∧ keyPair.pubkey.1 = pubkey := by
  obtain ⟨cmd, arg, used, memory, result, rfl, known⟩ :=
    LifecycleEvent.returnedPubkey_some returned
  have justified := sound.justified
  rw [split] at justified
  obtain ⟨⟨calls, task, before, answered⟩, prepared⟩ := justified.justifies
  obtain ⟨keyPair, same, found⟩ := ioctl_returnedPubkey answered known
  obtain ⟨⟨start, began⟩, _⟩ := prepared keyPair same
  rw [returned] at found
  exact ⟨keyPair, start, began, (Option.some.inj found).symm⟩

/-- The beginning of a load that generated a pair is in the trace. -/
theorem loadStart_generated {before : SetOnce KeyPair} {keyPair : KeyPair}
    (justified : Each (LifeJustified kernel) trace)
    (start : loadStart trace = some (before, some keyPair))
    : ∃ calls, generateKeyPair calls = .ok keyPair := by
  induction trace with
  | nil => cases start
  | cons event older ih =>
      cases isLoading : event.isLoading with
      | true =>
          cases event with
          | loading found generated =>
              cases start
              exact justified.1
          | _ => cases isLoading
      | false => exact ih justified.2 ((loadStart_cons isLoading older).symm.trans start)

/-- A load of an empty `KEY_PAIR` whose calls all succeed publishes its pair. -/
theorem load_completes (idle : state.phase = .unloaded) (empty : state.keyPair = .new)
    {calls : GenerateCalls} {keyPair : KeyPair} (made : generateKeyPair calls = .ok keyPair)
    (recorded : ImaMeasurement → Bool)
    : ∃ next events,
        Transitions.run (lifecycleStep kernel) (state, trace)
            [.generate calls recorded, .register true, .claim, .write, .publish]
          = some (next, events)
        ∧ next.phase = .loaded
        ∧ next.keyPair = ⟨2, some keyPair⟩
        ∧ state.keyPair.populate keyPair = (next.keyPair, true) := by
  refine ⟨{ state with keyPair := ⟨2, some keyPair⟩, phase := .loaded }, ?events, ?completed, rfl,
    rfl, by rw [empty, SetOnce.populate_eq]; rfl⟩
  case completed =>
    unfold generateKeyPair at made
    simp only [Transitions.run, lifecycleStep, traced, TarakoModule.step, idle, made, empty,
      SetOnce.claim_eq]
    rfl

end Steps

/-- Only an IMA-measured key ever signs, and one load shows one key. In every life of the
module, a failed load leaves `KEY_PAIR` as it was when it began. If `KEY_PAIR` was empty at
first, each successful `TARAKO_SIGN_DATA` used a generated pair whose public key it returned
and IMA recorded, earlier in the same load, before the device was registered; successful calls
of one load return one public key; no load finds `KEY_PAIR` occupied; and `KEY_PAIR` is empty
after each unload, and whenever the module is not loaded, when the next load can fill it.
-/
theorem measured_key_signs {kernel : Kernel} {cell : SetOnce KeyPair}
    {steps : List LifecycleStep} {state : TarakoModule} {trace : List LifecycleEvent}
    (documented : ∀ step ∈ steps, step.Documented)
    (reached : Transitions.run (lifecycleStep kernel) (TarakoModule.unloaded cell, []) steps
      = some (state, trace))
    : (∀ newer older after,
        trace = newer ++ .failed after :: older
        → ∃ generated, loadStart older = some (after, generated))
      ∧ (cell = .new
        → (∀ newer older event arg used memory result,
            trace = newer ++ event :: older
            → event = .returned TARAKO_SIGN_DATA arg used memory (.ok result)
            → ∃ keyPair calls,
                used = some keyPair
                ∧ generateKeyPair calls = .ok keyPair
                ∧ event.returnedPubkey = some keyPair.pubkey.1
                ∧ RecordedFirst keyPair.pubkey.1 (currentLoad older))
          ∧ (∀ newer older event other pubkey pubkey',
              trace = newer ++ event :: older
              → other ∈ currentLoad older
              → event.returnedPubkey = some pubkey
              → other.returnedPubkey = some pubkey'
              → pubkey = pubkey')
          ∧ (∀ newer older after, trace = newer ++ .unloaded after :: older → after = .new)
          ∧ state.phase ≠ .refused
          ∧ (state.phase = .unloaded
            → state.keyPair = .new
              ∧ ∀ calls recorded keyPair,
                  generateKeyPair calls = .ok keyPair
                  → ∃ next events,
                      Transitions.run (lifecycleStep kernel) (state, trace)
                          [.generate calls recorded, .register true, .claim, .write, .publish]
                        = some (next, events)
                      ∧ next.phase = .loaded
                      ∧ next.keyPair = ⟨2, some keyPair⟩
                      ∧ state.keyPair.populate keyPair = (next.keyPair, true))) := by
  refine ⟨?_, ?_⟩
  · intro newer older after split
    have keeps := failureKeeps_run reached
    dsimp only at keeps
    rw [split] at keeps
    exact keeps.justifies
  · rintro rfl
    have sound := LifeSound.run documented reached
    refine ⟨?_, ?_, ?_, ?_, ?_⟩
    · rintro newer older event arg used memory result split rfl
      have justified := sound.justified
      rw [split] at justified
      obtain ⟨⟨calls, task, before, answered⟩, prepared⟩ := justified.justifies
      obtain ⟨keyPair, same, returned⟩ := ioctl_returnedPubkey answered (.inr rfl)
      obtain ⟨measuredPair, sameMeasured, measured⟩ := ioctl_signData_measured answered
      obtain rfl : keyPair = measuredPair := Option.some.inj (same.symm.trans sameMeasured)
      obtain ⟨⟨start, began⟩, recorded⟩ := prepared keyPair same
      obtain ⟨generation, made⟩ := loadStart_generated justified.older.2 began
      exact ⟨keyPair, generation, same, made, returned, recorded measured⟩
    · intro newer older event other pubkey pubkey' split member returned returned'
      obtain ⟨keyPair, before, start, rfl⟩ := sound.returnedPubkey split returned
      obtain ⟨between, past, inside, sameStart⟩ := loadStart_of_mem_currentLoad member
      have split' : trace = (newer ++ event :: between) ++ other :: past := by
        rw [split, inside, List.append_assoc, List.cons_append]
      obtain ⟨keyPair', before', start', rfl⟩ := sound.returnedPubkey split' returned'
      rw [← sameStart, start] at start'
      cases start'
      rfl
    · intro newer older after split
      have justified := sound.justified
      rw [split] at justified
      exact justified.justifies
    · intro refused
      have fits := sound.cell
      rwa [refused] at fits
    · intro idle
      have empty : state.keyPair = .new := by
        have fits := sound.cell
        rwa [idle] at fits
      refine ⟨empty, fun calls recorded keyPair made => ?_⟩
      exact load_completes idle empty made recorded

/-! A life of the module: a load that fails, a load during which a process asks too early, a
signature and a public key, and an unload.
-/

def lifeMemory : UserMemory where
  byte _ := 0
  readable _ := true
  writable _ := true

def lifeTask : CurrentTask where
  hasMm := true
  mmNull := false
  exeFileNull := false
  inodeNull := false
  fsverityGetDigest := (32, ⟨List.replicate 64 0x33, List.length_replicate⟩)

def lifeCalls : GenerateCalls where
  key := KeyCalls.one
  eccGetCurve := some (some (Vli.ofValue P256_DIGITS P256.n))
  imaMeasureCriticalData _ := 0

def lifeSteps : List LifecycleStep :=
  let finish := LifecycleStep.finishIoctl 0 (fun _ => KeyCalls.one) lifeTask lifeMemory
  [
    .generate { lifeCalls with eccGetCurve := none } fun _ => true,
    .generate lifeCalls fun _ => true,
    .register true,
    .startIoctl TARAKO_GET_PUBKEY 4096,
    .claim, .write, .publish,
    finish,
    .startIoctl TARAKO_SIGN_DATA 4096, finish,
    .startIoctl TARAKO_GET_PUBKEY 4096, finish,
    .dropDevice, .dropKeyCleanup
  ]

/-- Whether an event is a successful signing call. -/
def LifecycleEvent.isSigned : LifecycleEvent → Bool
  | .returned cmd _ _ _ (.ok _) => decide (cmd = TARAKO_SIGN_DATA)
  | _ => false

theorem LifecycleEvent.isSigned_eq {event : LifecycleEvent} (signed : event.isSigned = true)
    : ∃ arg used memory result,
        event = .returned TARAKO_SIGN_DATA arg used memory (.ok result) := by
  unfold LifecycleEvent.isSigned at signed
  split at signed
  · cases of_decide_eq_true signed
    exact ⟨_, _, _, _, rfl⟩
  · cases signed

theorem measured_key_signs_life
    : ∃ state trace keyPair arg memory result,
        Transitions.run (lifecycleStep Kernel.reference) (TarakoModule.unloaded .new, [])
            lifeSteps
          = some (state, trace)
        ∧ .returned TARAKO_SIGN_DATA arg (some keyPair) memory (.ok result) ∈ trace
        ∧ KeyRecorded keyPair.pubkey.1 trace := by
  let reaches := Transitions.run (lifecycleStep Kernel.reference)
    (TarakoModule.unloaded .new, []) lifeSteps
  have evaluated : reaches.any (fun state : TarakoModule × List LifecycleEvent =>
      state.2.any LifecycleEvent.isSigned) = true := by
    decide +kernel
  obtain ⟨⟨state, trace⟩, reached, signed⟩ := (Option.any_eq_true _ _).mp evaluated
  obtain ⟨event, member, signed⟩ := List.any_eq_true.mp signed
  obtain ⟨arg, used, memory, result, rfl⟩ := LifecycleEvent.isSigned_eq signed
  dsimp only at member
  obtain ⟨newer, older, split⟩ := List.append_of_mem member
  have documented : ∀ step ∈ lifeSteps, step.Documented := by
    simp [lifeSteps, LifecycleStep.Documented]
  obtain ⟨keyPair, _, rfl, _, _, recorded⟩ :=
    ((measured_key_signs documented reached).2 rfl).1 newer older _ arg used memory result split
      rfl
  refine ⟨state, trace, keyPair, arg, memory, result, reached, member, ?_⟩
  rw [split]
  exact recorded.recorded.mono fun _ inside =>
    List.mem_append_right _ (.tail _ (currentLoad_subset older inside))

end Tarako.Driver
