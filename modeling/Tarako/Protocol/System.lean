import Tarako.Attester.Quote
import Tarako.Client.Session
import Tarako.Driver.Ioctl
import Tarako.Protocol.BindingAgreement
import Tarako.Verifier.OneShot

/-! The whole system: one Verifier, one kernel key pair with arbitrary callers, and any number
of clients, under a network that supplies every message.
-/

namespace Tarako.Protocol

open Lang Driver Verifier Transitions

/-- What is fixed during a run: the kernel and its key pair, the Verifier's library and policy
files, and the clients' root CA.
-/
structure Environment (PublicKey : Type) where
  kernel : Kernel
  keyPair : KeyPair
  crypto : Cryptography PublicKey
  files : PolicyFiles
  root : Client.RootCa PublicKey

/-- An ioctl in which the kernel's key signed: the calling task, the user data in its memory, the
bytes that `KeyPair::sign` signed, and what the call returned.
-/
structure SignCall where
  task : CurrentTask
  userData : Bytes
  signed : Bytes
  result : Except Errno Int

structure State where
  service : Service
  sessions : Nat → Option Client.Session

/-- An atomic step of a Verifier handler, of a client, or an ioctl by some process. -/
inductive Action
  | verifier (step : Verifier.Step)
  | client (step : Client.Step)
  | ioctl (calls : Nat → KeyCalls) (task : CurrentTask) (memory : UserMemory) (cmd : UInt32)
      (arg : Nat)

inductive Event (PublicKey : Type)
  | verifier (note : Verifier.Note PublicKey)
  | client (note : Client.Note PublicKey)
  | signed (call : SignCall)

variable {PublicKey : Type}

/-- What an ioctl had the kernel's key sign, whether or not its answer reached the caller. -/
def signCallsOf (env : Environment PublicKey) (calls : Nat → KeyCalls) (task : CurrentTask)
    (memory : UserMemory) (cmd : UInt32) (arg : Nat)
    : List SignCall :=
  let called := (ioctlLog env.kernel calls (some env.keyPair) task memory cmd arg).2
  called.calls.map fun signed => ⟨task, memory.load arg USER_DATA_BYTES, signed, called.result⟩

/-- Whether a step reads the policy, it reads the files of the environment. -/
def usesPolicy (env : Environment PublicKey) : Verifier.Step → Bool
  | .appraise _ files _ => decide (files = env.files)
  | _ => true

/-- One step of the system, with the events it emits, newest first. -/
def State.step (env : Environment PublicKey) (state : State)
    : Action → Option (State × List (Event PublicKey))
  | .verifier step =>
      if usesPolicy env step then
        match state.service.step env.crypto step with
        | none => none
        | some (service, notes) => some ({ state with service }, notes.map .verifier)
      else
        none
  | .client step =>
      match Client.step env.root env.crypto state.sessions step with
      | none => none
      | some (sessions, notes) => some ({ state with sessions }, notes.map .client)
  | .ioctl calls task memory cmd arg =>
      some (state, (signCallsOf env calls task memory cmd arg).map .signed)

/-- No challenges, handlers or clients. -/
def State.initial (certificate : PyStr) : State :=
  ⟨Service.initial certificate, fun _ => none⟩

/-- A step of the system with its trace. -/
def systemStep (env : Environment PublicKey)
    : State × List (Event PublicKey) → Action → Option (State × List (Event PublicKey)) :=
  traced (fun state action => state.step env action)

/-- A state and trace that some run from the initial state reaches. -/
def Reached (env : Environment PublicKey) (state : State × List (Event PublicKey)) : Prop :=
  ∃ certificate actions,
    Transitions.run (systemStep env) (State.initial certificate, []) actions = some state

def Event.verifier? : Event PublicKey → Option (Verifier.Note PublicKey)
  | .verifier note => some note
  | _ => none

def Event.signed? : Event PublicKey → Option SignCall
  | .signed call => some call
  | _ => none

/-- The Verifier's part of a trace. -/
def verifierNotes (trace : List (Event PublicKey)) : List (Verifier.Note PublicKey) :=
  trace.filterMap Event.verifier?

/-- The signing calls of a trace. -/
def signCalls (trace : List (Event PublicKey)) : List SignCall :=
  trace.filterMap Event.signed?

theorem verifierNotes_append (newer older : List (Event PublicKey))
    : verifierNotes (newer ++ older) = verifierNotes newer ++ verifierNotes older :=
  List.filterMap_append

theorem mem_verifierNotes {trace : List (Event PublicKey)} {note : Verifier.Note PublicKey}
    : note ∈ verifierNotes trace ↔ .verifier note ∈ trace := by
  constructor
  · intro member
    obtain ⟨event, inside, found⟩ := List.mem_filterMap.mp member
    cases event with
    | verifier other =>
        cases found
        exact inside
    | client _ | signed _ => cases found
  · intro inside
    exact List.mem_filterMap.mpr ⟨_, inside, rfl⟩

/-- What the Verifier did before an event is part of the trace. -/
theorem verifierNotes_of_split {trace newer older : List (Event PublicKey)}
    {event : Event PublicKey} (split : trace = newer ++ event :: older)
    {note : Verifier.Note PublicKey} (inside : note ∈ verifierNotes older)
    : note ∈ verifierNotes trace := by
  rw [mem_verifierNotes] at inside ⊢
  rw [split]
  exact List.mem_append_right _ (.tail _ inside)

@[simp]
theorem verifierNotes_map_verifier (notes : List (Verifier.Note PublicKey))
    : verifierNotes (notes.map .verifier) = notes := by
  simp [verifierNotes, List.filterMap_map, Function.comp_def, Event.verifier?]

@[simp]
theorem verifierNotes_map_client (notes : List (Client.Note PublicKey))
    : verifierNotes (notes.map .client) = [] := by
  simp [verifierNotes, List.filterMap_map, Function.comp_def, Event.verifier?]

@[simp]
theorem signCalls_map_verifier (notes : List (Verifier.Note PublicKey))
    : signCalls (notes.map .verifier) = [] := by
  simp [signCalls, List.filterMap_map, Function.comp_def, Event.signed?]

@[simp]
theorem signCalls_map_client (notes : List (Client.Note PublicKey))
    : signCalls (notes.map .client) = [] := by
  simp [signCalls, List.filterMap_map, Function.comp_def, Event.signed?]

@[simp]
theorem verifierNotes_map_signed (calls : List SignCall)
    : verifierNotes (calls.map .signed : List (Event PublicKey)) = [] := by
  simp [verifierNotes, List.filterMap_map, Function.comp_def, Event.verifier?]

@[simp]
theorem signCalls_map_signed (calls : List SignCall)
    : signCalls (calls.map .signed : List (Event PublicKey)) = calls := by
  simp [signCalls, List.filterMap_map, Function.comp_def, Event.signed?]

theorem signCalls_append (newer older : List (Event PublicKey))
    : signCalls (newer ++ older) = signCalls newer ++ signCalls older :=
  List.filterMap_append

/-- The ways in which a step changes the system. -/
inductive SystemEffect (env : Environment PublicKey) (state : State)
    : State → List (Event PublicKey) → Prop
  | verifier {step service notes} (policy : usesPolicy env step = true)
      (effect : Effect env.crypto state.service step service notes)
    : SystemEffect env state { state with service } (notes.map .verifier)
  | client {step sessions notes}
      (stepped : Client.step env.root env.crypto state.sessions step = some (sessions, notes))
    : SystemEffect env state { state with sessions } (notes.map .client)
  | called {calls task memory cmd arg}
    : SystemEffect env state state ((signCallsOf env calls task memory cmd arg).map .signed)

theorem systemStep_effect {env : Environment PublicKey}
    {state next : State × List (Event PublicKey)} {action : Action}
    (stepped : systemStep env state action = some next)
    : ∃ events, SystemEffect env state.1 next.1 events ∧ next.2 = events ++ state.2 := by
  obtain ⟨events, found, extended⟩ := traced_some stepped
  refine ⟨events, ?_, extended⟩
  cases action with
  | verifier step =>
      simp only [State.step] at found
      split at found
      · next policy =>
          split at found
          · cases found
          · next serviceStep =>
              obtain ⟨same, rfl⟩ := Prod.mk.inj (Option.some.inj found)
              rw [← same]
              exact .verifier policy (Service.step_effect serviceStep)
      · cases found
  | client step =>
      simp only [State.step] at found
      split at found
      · cases found
      · next clientStep =>
          obtain ⟨same, rfl⟩ := Prod.mk.inj (Option.some.inj found)
          rw [← same]
          exact .client clientStep
  | ioctl calls task memory cmd arg =>
      obtain ⟨same, rfl⟩ := Prod.mk.inj (Option.some.inj found)
      rw [← same]
      exact .called

section Verifier

variable {env : Environment PublicKey}
  {invariant : Service → List (Verifier.Note PublicKey) → Prop}
  (kept : ∀ {service next : Service} {step : Verifier.Step}
      {events notes : List (Verifier.Note PublicKey)},
    Effect env.crypto service step next events
    → invariant service notes
    → invariant next (events ++ notes))

include kept

/-- What the Verifier's own steps keep, every step of the system keeps. -/
theorem verifier_step {state next : State × List (Event PublicKey)} {action : Action}
    (stepped : systemStep env state action = some next)
    (holds : invariant state.1.service (verifierNotes state.2))
    : invariant next.1.service (verifierNotes next.2) := by
  obtain ⟨after, trace⟩ := next
  obtain ⟨events, effect, extended⟩ := systemStep_effect stepped
  dsimp only at effect extended ⊢
  rw [extended, verifierNotes_append]
  cases effect with
  | verifier policyUsed effect =>
      rw [verifierNotes_map_verifier]
      exact kept effect holds
  | client clientStep => simpa using holds
  | called => simpa using holds

/-- Such a property holds in every reached state, if it holds of a fresh Verifier. -/
theorem verifier_reached (start : ∀ certificate, invariant (Service.initial certificate) [])
    {state : State × List (Event PublicKey)} (reached : Reached env state)
    : invariant state.1.service (verifierNotes state.2) := by
  obtain ⟨certificate, actions, run⟩ := reached
  refine run_invariant_of_allowed (fun _ => True)
    (fun state : State × List (Event PublicKey) =>
      invariant state.1.service (verifierNotes state.2))
    ?_ run (fun _ _ => trivial) (start certificate)
  intro before action after stepped _ holds
  exact verifier_step kept stepped holds

end Verifier

/-- The Verifier of a reached state accounts for its trace if its identifiers do not repeat. -/
theorem consistent_reached {env : Environment PublicKey}
    {state : State × List (Event PublicKey)} (reached : Reached env state)
    (freshIds : (issuedIds (verifierNotes state.2)).Nodup)
    : Consistent env.crypto state.1.service (verifierNotes state.2) := by
  refine @verifier_reached _ env
    (fun service notes => (issuedIds notes).Nodup → Consistent env.crypto service notes) ?_
    (fun certificate _ => Consistent.initial certificate) _ reached freshIds
  intro service next step events notes effect holds fresh
  have older := fresh
  rw [issuedIds, List.filterMap_append] at older
  exact (holds older.of_append_right).step effect fresh

-----------------------------------------------------------------------------------------
-- A concrete environment
-----------------------------------------------------------------------------------------

/-! The environment of the Verifier's sample run: the kernel holds the key pair of the secret
one, the Verifier that of the secret two, and the library knows the one signature of each.
-/

def sampleVerifierKey : Bytes :=
  P256.compress 0x7cf27b188d034f7e8a52380304b51ac3c08969e277f21b35a60b48fc47669978
    0x7775510db8ed040293d9ac69f7430dbba7dade63ce982299e04b79d227873d1

/-- The result of the sample run. -/
def sampleResult : List (PyStr × Json) :=
  resultFields (pyHex sampleId.1) ⟨pyHex sampleNonce.1, py "r"⟩
    (verdictFor ⟨pyHex sampleNonce.1, py "r"⟩ sampleNonce.1 sampleDigest)

def sampleResultSignature : Bytes :=
  Der.pair P256.gx 0x593c607614c87da31025a26826c3f3c170716bef2fac3fdc6c13a9b9540282a8

/-- A process whose executable has the sample digest. -/
def sampleTask : CurrentTask where
  hasMm := true
  mmNull := false
  exeFileNull := false
  inodeNull := false
  fsverityGetDigest := (32, ⟨sampleDigest ++ List.replicate 32 0, by decide⟩)

def sampleEnvironment : Environment Bytes where
  kernel := Kernel.reference
  keyPair :=
    ⟨Vli.ofValue P256_DIGITS 1, ⟨sampleKey, by decide +kernel⟩, Vli.ofValue P256_DIGITS P256.n,
      true⟩
  crypto :=
    { sampleCrypto with
      verify key signature message :=
        sampleCrypto.verify key signature message
          || decide (key = sampleVerifierKey
            ∧ signature = sampleResultSignature
            ∧ message = (Json.obj sampleResult).dumps) }
  files := sampleFiles
  root :=
    { opensslVerify pem := decide (pem = ascii "certificate")
      subject := some (ascii "root")
      loadCertificate pem :=
        if pem = ascii "certificate" then some ⟨ascii "root", some sampleVerifierKey⟩ else none }

/-- The signing call of the sample run. -/
def sampleSign : Action :=
  .ioctl (fun _ => KeyCalls.one) sampleTask
    (Attester.variableAt 8192
      (Attester.signingRequestMemory (makeRequestBinding (py "r") sampleNonce.1)))
    TARAKO_SIGN_DATA 8192

/-- A client that is handed the sample challenge, quote and result. -/
def sampleClient (client : Nat) : List Action :=
  [
    .client (.start client (py "r")),
    .client (.reply client (.json (.obj
      [
        (py "challenge_id", .str (pyHex sampleId.1)),
        (py "nonce", .str (pyHex sampleNonce.1)),
        (py "request", .str (py "r"))
      ]))),
    .client (.reply client (.json sampleQuote)),
    .client (.reply client (.json (.obj
      [
        (py "certificate", .str (py "certificate")),
        (py "result", .obj sampleResult),
        (py "signature", .str (pyHex sampleResultSignature))
      ])))
  ]

/-- The sample run of the Verifier, with the signing call after its challenge. -/
def sampleActions : List Action :=
  (sampleSteps.take 2).map .verifier ++ sampleSign :: (sampleSteps.drop 2).map .verifier

end Tarako.Protocol
