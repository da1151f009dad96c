import Tarako.Protocol.System

/-! Accepted evidence is authentic: every accepted result goes back to a signing call by the
approved program for exactly that challenge, and no call serves two results.
-/

namespace Tarako.Protocol

open Lang Driver Verifier Transitions

variable {PublicKey : Type}

/-- A signature that verifies under the kernel's public key is of a message that the key signed in an
earlier call.
-/
def SignedBefore (env : Environment PublicKey) (event : Event PublicKey)
    (older : List (Event PublicKey)) : Prop :=
  match event with
  | .verifier (.presented key signature message) =>
      env.crypto.fromEncodedPoint env.keyPair.pubkey.1 = some key
      → env.crypto.verify key signature message = true
      → message ∈ (signCalls older).map SignCall.signed
  | _ => True

instance [DecidableEq PublicKey] (env : Environment PublicKey) (event : Event PublicKey)
    (older : List (Event PublicKey))
    : Decidable (SignedBefore env event older) :=
  match event with
  | .verifier (.presented _ _ _) => inferInstanceAs (Decidable (_ → _ → _))
  | .verifier (.issued _ _) => .isTrue trivial
  | .verifier (.verifying _ _) => .isTrue trivial
  | .verifier (.consumed _ _ _) => .isTrue trivial
  | .verifier (.accepted _ _ _ _ _) => .isTrue trivial
  | .client _ => .isTrue trivial
  | .signed _ => .isTrue trivial

/-- No signature under the kernel's key that reaches the Verifier is forged. -/
def KernelUnforged (env : Environment PublicKey) : List (Event PublicKey) → Prop :=
  Each (SignedBefore env)

/-- The challenges issued in a trace, with their identifiers. -/
def issuedChallenges (notes : List (Verifier.Note PublicKey)) : List (PyStr × Challenge) :=
  notes.filterMap fun note =>
    match note with
    | .issued challengeId challenge => some (challengeId, challenge)
    | _ => none

/-- The challenges whose evidence was accepted, with their identifiers. -/
def acceptedChallenges (notes : List (Verifier.Note PublicKey)) : List (PyStr × Challenge) :=
  notes.filterMap fun note =>
    match note with
    | .accepted _ challengeId challenge _ _ => some (challengeId, challenge)
    | _ => none

/-- The nonces drawn for challenges. -/
def issuedNonces (notes : List (Verifier.Note PublicKey)) : List PyStr :=
  (issuedChallenges notes).map (fun issued => issued.2.nonce)

/-- The texts that bindings of issued challenges hash. -/
def bindingInputs (notes : List (Verifier.Note PublicKey)) : List Bytes :=
  (issuedChallenges notes).filterMap fun issued =>
    (fromhex issued.2.nonce).map (makeRequestBindingInput issued.2.request)

theorem mem_issuedChallenges {notes : List (Verifier.Note PublicKey)} {challengeId : PyStr}
    {challenge : Challenge}
    : (challengeId, challenge) ∈ issuedChallenges notes
      ↔ .issued challengeId challenge ∈ notes := by
  constructor
  · intro member
    obtain ⟨note, inside, found⟩ := List.mem_filterMap.mp member
    cases note with
    | issued id value =>
        cases found
        exact inside
    | _ => cases found
  · intro inside
    exact List.mem_filterMap.mpr ⟨_, inside, rfl⟩

theorem mem_acceptedChallenges {notes : List (Verifier.Note PublicKey)} {challengeId : PyStr}
    {challenge : Challenge}
    : (challengeId, challenge) ∈ acceptedChallenges notes
      ↔ ∃ thread result signature,
          .accepted thread challengeId challenge result signature ∈ notes := by
  constructor
  · intro member
    obtain ⟨note, inside, found⟩ := List.mem_filterMap.mp member
    cases note with
    | accepted thread id value result signature =>
        cases found
        exact ⟨thread, result, signature, inside⟩
    | _ => cases found
  · rintro ⟨thread, result, signature, inside⟩
    exact List.mem_filterMap.mpr ⟨_, inside, rfl⟩

theorem acceptedIds_eq_map (notes : List (Verifier.Note PublicKey))
    : acceptedIds notes = (acceptedChallenges notes).map Prod.fst := by
  rw [acceptedIds, acceptedChallenges, List.map_filterMap]
  refine List.filterMap_congr fun note _ => ?_
  cases note <;> rfl

/-- What a signing call signed: the digest of the caller's executable followed by its user data. Its
answer was then copied out, unless the copy failed.
-/
structure SignCall.Made (call : SignCall) : Prop where
  length : call.userData.length = userDataBytes
  signed : ∃ digest, call.task.HasDigest digest ∧ call.signed = digest ++ call.userData
  ended : call.result = .ok 0 ∨ call.result = .error EFAULT

/-- A call by a process whose executable has a digest, which had the kernel's key sign that digest
and its user data.
-/
structure SignCall.Vouches (call : SignCall) (digest userData : Bytes) : Prop where
  caller : call.task.HasDigest digest
  data : call.userData = userData
  signed : call.signed = digest ++ userData
  ended : call.result = .ok 0 ∨ call.result = .error EFAULT

/-- What stands behind an accepted result at the time of its acceptance: its challenge was
issued with a nonce, the result is the one for that challenge and the approved digest, and a
call by a process with that digest signed the padded binding.
-/
def Authenticated (digest : Bytes) (challengeId : PyStr) (challenge : Challenge)
    (result : List (PyStr × Json)) (older : List (Event PublicKey)) : Prop :=
  ∃ (nonce : U8Array 32) (id : U8Array 16),
    challenge.nonce = pyHex nonce.1
    ∧ challengeId = pyHex id.1
    ∧ .issued challengeId challenge ∈ verifierNotes older
    ∧ result = resultFields challengeId challenge (verdictFor challenge nonce.1 digest)
    ∧ ∃ call ∈ signCalls older,
        call.Vouches digest (expectedUserData (makeRequestBinding challenge.request nonce.1))

/-- Evidence stays evidence when the trace grows. -/
theorem Authenticated.later {digest : Bytes} {challengeId : PyStr} {challenge : Challenge}
    {result : List (PyStr × Json)} {older : List (Event PublicKey)}
    (authenticated : Authenticated digest challengeId challenge result older)
    (newer : List (Event PublicKey))
    : Authenticated digest challengeId challenge result (newer ++ older) := by
  obtain ⟨nonce, id, text, idText, issued, same, call, member, signed⟩ := authenticated
  refine ⟨nonce, id, text, idText, ?_, same, call, ?_, signed⟩
  · rw [verifierNotes_append]
    exact List.mem_append_right _ issued
  · rw [signCalls_append]
    exact List.mem_append_right _ member

/-- Acceptances are authenticated by what came before them. -/
def AcceptanceAuthenticated (digest : Bytes) (event : Event PublicKey)
    (older : List (Event PublicKey)) : Prop :=
  match event with
  | .verifier (.accepted _ challengeId challenge result _) =>
      Authenticated digest challengeId challenge result older
  | _ => True

/-- How the system accounts for a trace: the Verifier holds and accepts only what it issued, the
key signed digests followed by user data, and acceptances are authentic.
-/
structure Sound (env : Environment PublicKey) (digest : Bytes)
    (state : State × List (Event PublicKey)) : Prop where
  grounded : Grounded state.1.service (verifierNotes state.2)
  made : ∀ call ∈ signCalls state.2, call.Made
  authentic : Each (AcceptanceAuthenticated digest) state.2

theorem KernelUnforged.inherit {env : Environment PublicKey}
    {state next : State × List (Event PublicKey)} {action : Action}
    (stepped : systemStep env state action = some next) (unforged : KernelUnforged env next.2)
    : KernelUnforged env state.2 := by
  obtain ⟨events, _, extended⟩ := systemStep_effect stepped
  rw [extended] at unforged
  exact unforged.older

theorem Sound.initial (env : Environment PublicKey) (digest : Bytes) (certificate : PyStr)
    : Sound env digest (State.initial certificate, []) where
  grounded := Grounded.initial certificate
  made call member := by cases member
  authentic := trivial

theorem signCallsOf_made {env : Environment PublicKey} {calls : Nat → KeyCalls}
    {task : CurrentTask} {memory : UserMemory} {cmd : UInt32} {arg : Nat} {call : SignCall}
    (called : call ∈ signCallsOf env calls task memory cmd arg)
    : call.Made := by
  obtain ⟨data, signed, rfl⟩ := List.mem_map.mp called
  obtain ⟨_, _, digest, _, _, _, _, caller, same, _, ended⟩ := ioctlLog_signed signed
  exact ⟨memory.load_length arg USER_DATA_BYTES, ⟨digest, caller, same⟩, ended⟩

/-- The user data has a fixed length, so the signed bytes split at one place only. -/
theorem SignCall.Made.vouches {call : SignCall} (made : call.Made) {digest userData : Bytes}
    (length : userData.length = userDataBytes) (signed : call.signed = digest ++ userData)
    : call.Vouches digest userData := by
  obtain ⟨own, caller, same⟩ := made.signed
  obtain ⟨rfl, data⟩ := List.append_inj' (same.symm.trans signed) (made.length.trans length.symm)
  exact ⟨caller, data, signed, made.ended⟩

/-- A padded binding has the length of user data. -/
theorem expectedUserData_length (request : PyStr) (nonce : Bytes)
    : (expectedUserData (makeRequestBinding request nonce)).length = userDataBytes := by
  simp [expectedUserData, makeRequestBinding, userDataBytes]

section Fixed

variable {env : Environment PublicKey} {policy : AppraisalPolicy PublicKey}
  (loaded : loadAppraisalPolicy env.crypto env.files = .ok policy)
  (trusted : policy.publicKeyBytes = env.keyPair.pubkey.1)

include loaded trusted

/-- The acceptance of evidence by a sound system is authenticated. Witness: the message that
the trusted key accepted was signed before, and both parts of it have a known length.
-/
theorem accepted_authenticated {state : State × List (Event PublicKey)}
    (sound : Sound env policy.digest state) {thread : Nat} {challengeId : PyStr}
    {challenge : Challenge} {body : List (PyStr × Json)}
    (waiting : state.1.service.threads thread = some (.appraising challengeId body challenge))
    {verdict : Verdict} (passed : appraise env.crypto env.files challenge body = .ok verdict)
    (unforged : KernelUnforged env
      ((presentedNotes env.crypto env.files challenge body).map .verifier ++ state.2))
    : Authenticated policy.digest challengeId challenge
        (resultFields challengeId challenge verdict) state.2 := by
  obtain ⟨bytes, found, signatureDer, decoded, foundLoaded, rfl, presented, agreed⟩ :=
    appraise_ok passed
  rw [loaded] at foundLoaded
  cases foundLoaded
  have issued := sound.grounded.appraising waiting
  obtain ⟨nonce, id, text, idText⟩ := sound.grounded.drawn issued
  rw [text, fromhex_pyHex] at decoded
  cases decoded
  have key := loadAppraisalPolicy_key loaded
  rw [trusted] at key
  simp only [presentedNotes, presented, List.map_cons, List.map_nil, List.cons_append,
    List.nil_append] at unforged
  obtain ⟨call, member, message⟩ := List.mem_map.mp (unforged.1 key agreed)
  have vouches := (sound.made call member).vouches (expectedUserData_length _ _) message
  exact ⟨nonce, id, text, idText, issued, rfl, call, member, vouches⟩

/-- A step of the Verifier keeps acceptances authentic: only an accepting appraisal adds one. -/
theorem authentic_step {state : State × List (Event PublicKey)}
    (sound : Sound env policy.digest state) {step : Verifier.Step} {next : Service}
    {notes : List (Verifier.Note PublicKey)} (policyUsed : usesPolicy env step = true)
    (effect : Effect env.crypto state.1.service step next notes)
    (unforged : KernelUnforged env (notes.map .verifier ++ state.2))
    : Each (AcceptanceAuthenticated policy.digest) (notes.map .verifier ++ state.2) := by
  have presentedFree (files : PolicyFiles) (expected : Challenge) (body : List (PyStr × Json))
      : Each (AcceptanceAuthenticated policy.digest)
          ((presentedNotes env.crypto files expected body).map .verifier ++ state.2) := by
    refine sound.authentic.extend fun event member before => ?_
    obtain ⟨note, inside, rfl⟩ := List.mem_map.mp member
    obtain ⟨key, signature, message, rfl⟩ := presentedNotes_mem inside
    trivial
  cases effect with
  | @accepted thread files signature challengeId body expected verdict response waiting passed =>
      have same : files = env.files := by simpa [usesPolicy] using policyUsed
      subst same
      rw [List.map_cons, List.cons_append] at unforged ⊢
      exact ⟨(accepted_authenticated loaded trusted sound waiting passed unforged.2).later _,
        presentedFree _ _ _⟩
  | rejected waiting => exact presentedFree _ _ _
  | _ => exact sound.authentic.extend (by simp [AcceptanceAuthenticated])

/-- Every step keeps the system sound. -/
theorem Sound.step {state next : State × List (Event PublicKey)} {action : Action}
    (stepped : systemStep env state action = some next) (unforged : KernelUnforged env next.2)
    (sound : Sound env policy.digest state)
    : Sound env policy.digest next := by
  have grounded := verifier_step Grounded.step stepped sound.grounded
  obtain ⟨after, trace⟩ := next
  obtain ⟨events, effect, extended⟩ := systemStep_effect stepped
  dsimp only at effect extended unforged
  subst extended
  cases effect with
  | @verifier step service notes policyUsed effect =>
      refine ⟨grounded, ?_, authentic_step loaded trusted sound policyUsed effect unforged⟩
      simpa [signCalls_append] using sound.made
  | @client step sessions notes clientStep =>
      refine ⟨grounded, ?_, ?_⟩
      · simpa [signCalls_append] using sound.made
      · refine sound.authentic.extend fun event member before => ?_
        obtain ⟨note, _, rfl⟩ := List.mem_map.mp member
        trivial
  | called =>
      refine ⟨grounded, ?_, ?_⟩
      · intro other member
        rw [signCalls_append, signCalls_map_signed] at member
        rcases List.mem_append.mp member with new | old
        · exact signCallsOf_made new
        · exact sound.made other old
      · refine sound.authentic.extend fun event member before => ?_
        obtain ⟨call, _, rfl⟩ := List.mem_map.mp member
        trivial

/-- Every reached state is sound. -/
theorem Sound.reached {state : State × List (Event PublicKey)} (reached : Reached env state)
    (unforged : KernelUnforged env state.2)
    : Sound env policy.digest state := by
  obtain ⟨certificate, actions, run⟩ := reached
  exact run_invariant (fun state => KernelUnforged env state.2) (Sound env policy.digest)
    KernelUnforged.inherit (Sound.step loaded trusted) run unforged
    (Sound.initial env policy.digest certificate)

end Fixed

-----------------------------------------------------------------------------------------
-- From accepted results to signing calls
-----------------------------------------------------------------------------------------

/-- A binding is padded with ninety-six zeros. -/
theorem expectedUserData_binding (request : PyStr) (nonce : Bytes)
    : expectedUserData (makeRequestBinding request nonce)
      = makeRequestBinding request nonce ++ List.replicate 96 0 := by
  simp [expectedUserData, makeRequestBinding, userDataBytes]

/-- An acceptance in an older part of a sound trace has its evidence in that part. -/
theorem Sound.authenticated {env : Environment PublicKey} {digest : Bytes}
    {state : State × List (Event PublicKey)} (sound : Sound env digest state)
    {newer older : List (Event PublicKey)} (split : state.2 = newer ++ older) {thread : Nat}
    {challengeId : PyStr} {challenge : Challenge} {result : List (PyStr × Json)}
    {signature : Bytes}
    (accepted : .accepted thread challengeId challenge result signature ∈ verifierNotes older)
    : Authenticated digest challengeId challenge result older := by
  obtain ⟨between, before, rfl⟩ := List.append_of_mem (mem_verifierNotes.mp accepted)
  have authentic := sound.authentic
  rw [split, ← List.append_assoc] at authentic
  have authenticated : Authenticated digest challengeId challenge result before :=
    authentic.justifies
  rw [← List.singleton_append, ← List.append_assoc]
  exact authenticated.later _

/-- Challenges issued with one nonce are one challenge when nonces do not repeat. -/
theorem issued_of_nonce {notes : List (Verifier.Note PublicKey)}
    (fresh : (issuedNonces notes).Nodup) {challengeId challengeId' : PyStr}
    {challenge challenge' : Challenge} (issued : .issued challengeId challenge ∈ notes)
    (issued' : .issued challengeId' challenge' ∈ notes)
    (same : challenge.nonce = challenge'.nonce)
    : challengeId = challengeId' := by
  have equal := List.inj_on_of_nodup_map fresh (mem_issuedChallenges.mpr issued)
    (mem_issuedChallenges.mpr issued') same
  exact congrArg Prod.fst equal

theorem mem_bindingInputs {notes : List (Verifier.Note PublicKey)} {challengeId : PyStr}
    {challenge : Challenge} (issued : .issued challengeId challenge ∈ notes) {nonce : Bytes}
    (text : challenge.nonce = pyHex nonce)
    : makeRequestBindingInput challenge.request nonce ∈ bindingInputs notes := by
  refine List.mem_filterMap.mpr ⟨_, mem_issuedChallenges.mpr issued, ?_⟩
  rw [text, fromhex_pyHex]
  rfl

/-- Accepted evidence is authentic, injectively. In every run with one policy that trusts the
kernel's key, with fresh identifiers and nonces, no forged kernel signature and no collision
among the hashed binding texts, accepted results map one to one to signing calls made by a
process with the approved digest over the padded binding of the result's challenge. Witness:
equal user data has equal bindings, hence equal nonces and identifiers.
-/
theorem accepted_results_inject {env : Environment PublicKey}
    {policy : AppraisalPolicy PublicKey}
    (loaded : loadAppraisalPolicy env.crypto env.files = .ok policy)
    (trusted : policy.publicKeyBytes = env.keyPair.pubkey.1) {state : State}
    {trace : List (Event PublicKey)} (reached : Reached env (state, trace))
    (freshIds : (issuedIds (verifierNotes trace)).Nodup)
    (freshNonces : (issuedNonces (verifierNotes trace)).Nodup)
    (injective : ∀ first ∈ bindingInputs (verifierNotes trace),
      ∀ second ∈ bindingInputs (verifierNotes trace),
        Sha256.digest first = Sha256.digest second → first = second)
    (unforged : KernelUnforged env trace)
    : ∃ source : Fin (acceptedChallenges (verifierNotes trace)).length
          → Fin (signCalls trace).length,
        Function.Injective source
        ∧ ∀ i,
            let challenge := ((acceptedChallenges (verifierNotes trace)).get i).2
            let call := (signCalls trace).get (source i)
            ∃ nonce,
              challenge.nonce = pyHex nonce
              ∧ call.Vouches policy.digest
                  (makeRequestBinding challenge.request nonce ++ List.replicate 96 0) := by
  have sound := Sound.reached loaded trusted reached unforged
  have evidence (i : Fin (acceptedChallenges (verifierNotes trace)).length)
      : ∃ (j : Fin (signCalls trace).length) (nonce : U8Array 32),
          let accepted := (acceptedChallenges (verifierNotes trace)).get i
          accepted.2.nonce = pyHex nonce.1
          ∧ .issued accepted.1 accepted.2 ∈ verifierNotes trace
          ∧ ((signCalls trace).get j).Vouches policy.digest
              (makeRequestBinding accepted.2.request nonce.1 ++ List.replicate 96 0) := by
    obtain ⟨_, result, _, accepted⟩ := mem_acceptedChallenges.mp (List.get_mem _ i)
    obtain ⟨nonce, _, text, _, issued, _, call, member, vouches⟩ :=
      sound.authenticated (List.nil_append trace).symm accepted
    obtain ⟨j, found⟩ := List.mem_iff_get.mp member
    rw [expectedUserData_binding] at vouches
    exact ⟨j, nonce, text, issued, found ▸ vouches⟩
  choose source nonce text issued vouches using evidence
  refine ⟨source, ?_, fun i => ⟨(nonce i).1, text i, vouches i⟩⟩
  intro i j same
  have bindings := List.append_cancel_right
    ((vouches i).data.symm.trans
      ((congrArg (fun k => ((signCalls trace).get k).userData) same).trans (vouches j).data))
  have inputs := injective _ (mem_bindingInputs (issued i) (text i)) _
    (mem_bindingInputs (issued j) (text j)) bindings
  have nonces := makeRequestBindingInput_nonce inputs
  have identifiers := issued_of_nonce freshNonces (issued i) (issued j)
    (by rw [text i, text j, nonces])
  have once := (consistent_reached reached freshIds).acceptedOnce
  rw [acceptedIds_eq_map] at once
  have position := List.inj_on_of_nodup_map once (List.get_mem _ i) (List.get_mem _ j) identifiers
  exact (List.Nodup.of_map _ once).injective_get position

theorem accepted_results_inject_sample
    : ∃ state trace,
        Reached sampleEnvironment (state, trace)
        ∧ (acceptedChallenges (verifierNotes trace)).length = 1
        ∧ ∃ source : Fin (acceptedChallenges (verifierNotes trace)).length
              → Fin (signCalls trace).length,
            Function.Injective source := by
  let result := Transitions.run (systemStep sampleEnvironment) (State.initial [], [])
    sampleActions
  have evaluated : result.any (fun state : State × List (Event Bytes) =>
      decide ((issuedIds (verifierNotes state.2)).Nodup
        ∧ (issuedNonces (verifierNotes state.2)).Nodup
        ∧ (∀ first ∈ bindingInputs (verifierNotes state.2),
            ∀ second ∈ bindingInputs (verifierNotes state.2),
              Sha256.digest first = Sha256.digest second → first = second)
        ∧ Each (SignedBefore sampleEnvironment) state.2
        ∧ (acceptedChallenges (verifierNotes state.2)).length = 1)) = true := by
    decide +kernel
  obtain ⟨⟨state, trace⟩, reached, checked⟩ := (Option.any_eq_true _ _).mp evaluated
  obtain ⟨freshIds, freshNonces, injective, unforged, accepted⟩ := of_decide_eq_true checked
  obtain ⟨policy, loaded, trusted⟩ : ∃ policy,
      loadAppraisalPolicy sampleEnvironment.crypto sampleEnvironment.files = .ok policy
      ∧ policy.publicKeyBytes = sampleEnvironment.keyPair.pubkey.1 :=
    ⟨⟨sampleDigest, sampleKey, sampleKey⟩, by decide +kernel, rfl⟩
  obtain ⟨source, one, _⟩ := accepted_results_inject loaded trusted ⟨[], _, reached⟩ freshIds
    freshNonces injective unforged
  exact ⟨state, trace, ⟨[], _, reached⟩, accepted, source, one⟩

end Tarako.Protocol
