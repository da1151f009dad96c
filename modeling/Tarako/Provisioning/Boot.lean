import Tarako.Protocol.HttpRun
import Tarako.Provisioning.ImaLog

/-! A boot of the Attester, and the Verifier that the test provisions from it. The Verifier trusts
the first key that IMA recorded, so the quotes of a module that was loaded again are refused; with
loading locked, those of the boot are accepted.
-/

namespace Tarako.Provisioning

open Lang ByteDigits Driver Attester Verifier Protocol

-----------------------------------------------------------------------------------------
-- What a boot leaves
-----------------------------------------------------------------------------------------

/-- The calls of a step do what the kernel documents. -/
def GenuineCalls : LifecycleStep → Prop
  | .generate calls _ =>
      calls.key.Documented
      ∧ ∀ curveN, calls.eccGetCurve = some (some curveN) → curveN.value = P256.n
  | .finishIoctl _ calls _ _ => ∀ attempt, (calls attempt).Documented
  | _ => True

/-- What stands behind an event. -/
def Witnessed (kernel : Kernel) : LifecycleEvent → Prop
  | .loading _ (some keyPair) => keyPair.Genuine
  | .recorded measurement =>
      measurement.eventName = "public-key-generate"
      ∧ measurement.hash = false
      ∧ ∃ keyPair : KeyPair, keyPair.Genuine ∧ measurement.buf = keyPair.pubkey.1
  | .returned cmd arg used memory result =>
      ∃ calls task before,
        (∀ attempt, (calls attempt).Documented)
        ∧ Driver.ioctl kernel calls used task before cmd arg = (memory, result)
  | _ => True

/-- Every event is witnessed, and each load records one key at most. -/
structure Accounted (kernel : Kernel) (trace : List LifecycleEvent) : Prop where
  witnessed : ∀ event ∈ trace, Witnessed kernel event
  records
    : (trace.filterMap recordedKey).length ≤ trace.countP LifecycleEvent.isLoading

section Boot

variable {kernel : Kernel} {state next : TarakoModule} {trace events : List LifecycleEvent}

theorem Accounted.extend (accounted : Accounted kernel trace)
    (witnessed : ∀ event ∈ events, Witnessed kernel event)
    (records : (events.filterMap recordedKey).length ≤ events.countP LifecycleEvent.isLoading)
    : Accounted kernel (events ++ trace) := by
  refine ⟨fun event member => ?_, ?_⟩
  · rcases List.mem_append.mp member with here | older
    · exact witnessed event here
    · exact accounted.witnessed event older
  · rw [List.filterMap_append, List.length_append, List.countP_append]
    exact Nat.add_le_add records accounted.records

/-- A step adds witnessed events. -/
theorem Accounted.step {step : LifecycleStep} (accounted : Accounted kernel trace)
    (effect : LifecycleEffect kernel state step next events) (genuine : GenuineCalls step)
    : Accounted kernel (events ++ trace) := by
  have quiet {event : LifecycleEvent} (free : Witnessed kernel event)
      (unrecorded : recordedKey event = none)
      : Accounted kernel ([event] ++ trace) := by
    refine accounted.extend (List.forall_mem_singleton.mpr free) ?_
    rw [List.filterMap_cons_none unrecorded]
    exact Nat.zero_le _
  cases effect with
  | notGenerated _ =>
      refine accounted.extend (fun event member => ?_) (Nat.zero_le _)
      rcases List.mem_cons.mp member with rfl | member
      · trivial
      · rw [List.mem_singleton.mp member]
        trivial
  | @generated calls recorded keyPair _ made =>
      have own : keyPair.Genuine := generateKeyPair_genuine genuine.1 genuine.2 made
      obtain ⟨_, _, _, _, _, measurement, called, event, key, whole, _⟩ := generateKeyPair_ok made
      rw [called]
      refine accounted.extend (fun found member => ?_) ?_
      · rcases List.mem_append.mp member with record | start
        · obtain ⟨other, kept, rfl⟩ := List.mem_map.mp record
          obtain rfl := List.mem_singleton.mp (List.mem_of_mem_filter kept)
          exact ⟨event, whole, keyPair, own, key⟩
        · rw [List.mem_singleton.mp start]
          exact own
      · cases kept : recorded measurement with
        | true =>
            rw [List.filter_cons_of_pos kept]
            exact Nat.le_refl _
        | false =>
            rw [List.filter_cons_of_neg (by simp [kept])]
            exact Nat.zero_le _
  | registered _ => exact quiet trivial rfl
  | notRegistered _ => exact quiet trivial rfl
  | aborted _ _ => exact quiet trivial rfl
  | keyDropped _ => exact quiet trivial rfl
  | @finished _ calls task memory _ _ _ _ _ _ answered =>
      exact quiet ⟨calls, task, memory, genuine, answered⟩ rfl
  | claimed _ _ | refused _ _ | written _ | published _ | started _ | deviceDropped _ _ =>
      exact accounted

theorem Accounted.run {steps : List LifecycleStep} (genuine : ∀ step ∈ steps, GenuineCalls step)
    (reached : Transitions.run (lifecycleStep kernel) (TarakoModule.unloaded .new, []) steps
      = some (state, trace))
    : Accounted kernel trace := by
  refine Transitions.run_invariant_of_allowed GenuineCalls
    (fun state : TarakoModule × List LifecycleEvent => Accounted kernel state.2) ?_ reached
    genuine ⟨fun _ member => absurd member List.not_mem_nil, Nat.le_refl _⟩
  intro before step after stepped allowed accounted
  obtain ⟨events, found, extended⟩ := Transitions.traced_some stepped
  rw [extended]
  exact accounted.step (TarakoModule.step_effect found) allowed

theorem recorded_of_firstRecorded {pubkey : Bytes} (first : firstRecorded trace = some pubkey)
    : ∃ measurement, LifecycleEvent.recorded measurement ∈ trace ∧ measurement.buf = pubkey := by
  obtain ⟨event, member, recorded⟩ := List.mem_filterMap.mp (List.mem_of_getLast? first)
  cases event with
  | recorded measurement =>
      cases recorded
      exact ⟨measurement, member, rfl⟩
  | _ => cases recorded

/-- The first key that IMA recorded is that of a genuine pair. -/
theorem Accounted.firstRecorded (accounted : Accounted kernel trace) {pubkey : Bytes}
    (first : firstRecorded trace = some pubkey)
    : ∃ keyPair : KeyPair, keyPair.Genuine ∧ pubkey = keyPair.pubkey.1 := by
  obtain ⟨measurement, member, rfl⟩ := recorded_of_firstRecorded first
  exact (accounted.witnessed _ member).2.2

end Boot

-----------------------------------------------------------------------------------------
-- What the provisioned Verifier accepts
-----------------------------------------------------------------------------------------

section Quote

variable {kernel : Kernel} {calls : Nat → KeyCalls} {keyPair : KeyPair} {task : CurrentTask}
  {memory written : UserMemory} {arg : Nat} {digest : FsverityDigest}
  {userData : U8Array USER_DATA_BYTES} {r s : Scalar} {crypto : Cryptography P256.Point}

end Quote

-----------------------------------------------------------------------------------------
-- Provisioning from a boot
-----------------------------------------------------------------------------------------

end Tarako.Provisioning
