import Tarako.Lang.FlatObject
import Tarako.Protocol.Evidence

/-! What stands behind a client's acceptance: a result of the Verifier for the client's own
request, and behind that the evidence of the approved program.
-/

namespace Tarako.Protocol

open Lang Driver Verifier Transitions

variable {PublicKey : Type}

/-- The root CA certifies only one key: whatever `openssl verify` accepts from its issuer holds
that key.
-/
def CertifiesOnly (root : Client.RootCa PublicKey) (verifierKey : PublicKey) : Prop :=
  ∀ pem certificate key,
    root.opensslVerify pem = true
    → root.loadCertificate pem = some certificate
    → root.subject = some certificate.issuer
    → certificate.publicKey = some key
    → key = verifierKey

/-- The texts that the Verifier signed. -/
def resultTexts (notes : List (Verifier.Note PublicKey)) : List Bytes :=
  notes.filterMap fun note =>
    match note with
    | .accepted _ _ _ result _ => some (Json.obj result).dumps
    | _ => none

/-- A signature that verifies under the Verifier's key is of a result that it signed earlier. -/
def ResultSignedBefore (env : Environment PublicKey) (verifierKey : PublicKey)
    (event : Event PublicKey) (older : List (Event PublicKey)) : Prop :=
  match event with
  | .client (.presented key signature message) =>
      key = verifierKey
      → env.crypto.verify key signature message = true
      → message ∈ resultTexts (verifierNotes older)
  | _ => True

instance [DecidableEq PublicKey] (env : Environment PublicKey) (verifierKey : PublicKey)
    (event : Event PublicKey) (older : List (Event PublicKey))
    : Decidable (ResultSignedBefore env verifierKey event older) :=
  match event with
  | .client (.presented _ _ _) => inferInstanceAs (Decidable (_ → _ → _))
  | .client (.posted _ _) => .isTrue trivial
  | .client (.accepted _ _ _ _) => .isTrue trivial
  | .verifier _ => .isTrue trivial
  | .signed _ => .isTrue trivial

/-- No signature under the Verifier's key that reaches a client is forged. -/
def VerifierUnforged (env : Environment PublicKey) (verifierKey : PublicKey)
    : List (Event PublicKey) → Prop :=
  Each (ResultSignedBefore env verifierKey)

/-- Every issued request is a sequence of scalar values. -/
def ScalarRequests (notes : List (Verifier.Note PublicKey)) : Prop :=
  ∀ issued ∈ issuedChallenges notes, ∀ c ∈ issued.2.request, c.IsScalar

/-- A run in which the root CA certifies only the Verifier's key, and no signature under that key
is forged.
-/
structure VerifierRun (env : Environment PublicKey) (verifierKey : PublicKey) (state : State)
    (trace : List (Event PublicKey)) : Prop where
  certifies : CertifiesOnly env.root verifierKey
  reached : Reached env (state, trace)
  verifierUnforged : VerifierUnforged env verifierKey trace

/-- A run under all assumptions of the protocol: in addition, one policy that trusts the kernel's
key, requests of scalar values, and no forged kernel signature.
-/
structure AssumedRun (env : Environment PublicKey) (policy : AppraisalPolicy PublicKey)
    (verifierKey : PublicKey) (state : State) (trace : List (Event PublicKey)) : Prop extends
    VerifierRun env verifierKey state trace where
  loaded : loadAppraisalPolicy env.crypto env.files = .ok policy
  trusted : policy.publicKeyBytes = env.keyPair.pubkey.1
  scalar : ScalarRequests (verifierNotes trace)
  kernelUnforged : KernelUnforged env trace

/-- Code points of a string without surrogates or astral values. -/
def Basic (text : PyStr) : Prop :=
  ∀ c ∈ text, c.val < 0xd800

/-- The members of a result, in key order. -/
def resultMembers (challengeId : PyStr) (challenge : Challenge) (verdict : Verdict)
    : List FlatMember :=
  [
    ⟨py "accepted", none, py_basic _ (by decide)⟩,
    ⟨py "challenge_id", some challengeId, py_basic _ (by decide)⟩,
    ⟨py "digest", some (pyHex verdict.digest), py_basic _ (by decide)⟩,
    ⟨py "kernel_hash", some verdict.kernelHash, py_basic _ (by decide)⟩,
    ⟨py "nonce", some challenge.nonce, py_basic _ (by decide)⟩,
    ⟨py "request", some challenge.request, py_basic _ (by decide)⟩,
    ⟨py "request_binding", some (pyHex verdict.binding), py_basic _ (by decide)⟩
  ]

theorem sortByKey_resultFields (challengeId : PyStr) (challenge : Challenge) (verdict : Verdict)
    : sortByKey (resultFields challengeId challenge verdict)
      = resultFields challengeId challenge verdict :=
  rfl

/-- A decoded value with the text of a result is that result, up to a request with the same
escaped text.
-/
theorem fields_of_result_text {fields : List (PyStr × Json)} {challengeId : PyStr}
    {challenge : Challenge} {verdict : Verdict} (idBasic : Basic challengeId)
    (nonceBasic : Basic challenge.nonce) (hashBasic : Basic verdict.kernelHash)
    (same : (Json.obj fields).dumps
      = (Json.obj (resultFields challengeId challenge verdict)).dumps)
    : ∃ request,
        sortByKey fields = resultFields challengeId { challenge with request } verdict
        ∧ request.flatMap pyEscape = challenge.request.flatMap pyEscape := by
  have flat : (Json.obj fields).dumps
      = (Json.obj (flatFields (resultMembers challengeId challenge verdict))).dumps := same
  obtain ⟨found, isObject, matched⟩ := obj_of_flat_text
    (resultMembers challengeId challenge verdict) (by simp [resultMembers])
    (sortByKey_resultFields challengeId challenge verdict) flat
  cases isObject
  -- the members are matched one after the other, in key order
  obtain ⟨_, accepted, fromId⟩ := matches_cons_true matched
  obtain ⟨_, rfl, fromDigest⟩ := matches_cons_basic idBasic fromId
  obtain ⟨_, rfl, fromHash⟩ := matches_cons_basic (pyHex_basic _) fromDigest
  obtain ⟨_, rfl, fromNonce⟩ := matches_cons_basic hashBasic fromHash
  obtain ⟨_, rfl, fromRequest⟩ := matches_cons_basic nonceBasic fromNonce
  obtain ⟨request, _, rfl, tokens, fromBinding⟩ := matches_cons_text fromRequest
  obtain ⟨_, rfl, nothing⟩ := matches_cons_basic (pyHex_basic _) fromBinding
  cases nothing
  exact ⟨request, accepted, tokens⟩

/-- What a client checked right before it accepted. -/
def AcceptanceChecked (env : Environment PublicKey) (event : Event PublicKey)
    (older : List (Event PublicKey)) : Prop :=
  match event with
  | .client (.accepted _ request challenge result) =>
      ∃ pem key signature before,
        Client.verifierPublicKey env.root pem = .ok key
        ∧ env.crypto.verify key signature (Json.obj result).dumps = true
        ∧ older = .client (.presented key signature (Json.obj result).dumps) :: before
        ∧ (getOrNone result "challenge_id").eq (getOrNone challenge "challenge_id") = true
        ∧ (getOrNone result "nonce").eq (getOrNone challenge "nonce") = true
        ∧ getOrNone result "request" = .str request
  | _ => True

/-- Every step of the system keeps acceptances checked. -/
theorem acceptanceChecked_step {env : Environment PublicKey}
    {state next : State × List (Event PublicKey)} {action : Action}
    (stepped : systemStep env state action = some next)
    (checked : Each (AcceptanceChecked env) state.2)
    : Each (AcceptanceChecked env) next.2 := by
  obtain ⟨after, trace⟩ := next
  obtain ⟨events, effect, extended⟩ := systemStep_effect stepped
  dsimp only at effect extended ⊢
  subst extended
  cases effect with
  | verifier policyUsed effect =>
      refine checked.extend fun event member before => ?_
      obtain ⟨note, _, rfl⟩ := List.mem_map.mp member
      trivial
  | called =>
      refine checked.extend fun event member before => ?_
      obtain ⟨call, _, rfl⟩ := List.mem_map.mp member
      trivial
  | client clientStep =>
      rcases Client.step_notes clientStep with silent | accepting
      · refine checked.extend fun event member before => ?_
        obtain ⟨note, inside, rfl⟩ := List.mem_map.mp member
        cases note with
        | accepted client request challenge result =>
            exact absurd rfl (silent _ inside client request challenge result)
        | posted client body => trivial
        | presented key signature message => trivial
      · obtain ⟨client, request, challenge, result, envelope, rfl, passed⟩ := accepting
        obtain ⟨key, signature, signed, agreed, _, sameId, sameNonce, sameRequest⟩ :=
          Client.checkEnvelope_ok passed
        obtain ⟨pem, _, certified, _⟩ := Client.signedResult_ok signed
        have presented : Client.presentedNotes env.root envelope
            = [.presented key signature (Json.obj result).dumps] := by
          simp only [Client.presentedNotes, signed]
        rw [presented]
        exact ⟨⟨pem, key, signature, _, certified, agreed, rfl, sameId, sameNonce, sameRequest⟩,
          trivial, checked⟩

theorem acceptanceChecked_reached {env : Environment PublicKey}
    {state : State × List (Event PublicKey)} (reached : Reached env state)
    : Each (AcceptanceChecked env) state.2 := by
  obtain ⟨certificate, actions, run⟩ := reached
  have start : Each (AcceptanceChecked env) ([] : List (Event PublicKey)) := trivial
  refine run_invariant (fun _ => True)
    (fun state : State × List (Event PublicKey) => Each (AcceptanceChecked env) state.2)
    (fun _ _ => trivial) ?_ run trivial start
  intro before action after stepped _ checked
  exact acceptanceChecked_step stepped checked

/-- The key of an accepted certificate is the certified one. -/
theorem certified_key {root : Client.RootCa PublicKey} {verifierKey key : PublicKey}
    (certifies : CertifiesOnly root verifierKey) {pem : Bytes}
    (certified : Client.verifierPublicKey root pem = .ok key)
    : key = verifierKey := by
  unfold Client.verifierPublicKey at certified
  split at certified
  · cases certified
  · next verified =>
      split at certified
      · next subject certificate hasSubject loaded =>
          split at certified
          · cases certified
          · next issued =>
              split at certified
              · next found hasKey =>
                  cases certified
                  refine certifies pem certificate key (by simpa using verified) loaded ?_ hasKey
                  rw [hasSubject, not_not.mp issued]
              · cases certified
      · cases certified

/-- An accepted result of the Verifier whose signed text is that of a client's result. -/
def StandsBehind (note : Verifier.Note PublicKey) (result : List (PyStr × Json)) : Prop :=
  ∃ thread challengeId challenge produced signature,
    note = .accepted thread challengeId challenge produced signature
    ∧ (Json.obj result).dumps = (Json.obj produced).dumps

theorem mem_resultTexts {notes : List (Verifier.Note PublicKey)} {text : Bytes}
    : text ∈ resultTexts notes
      ↔ ∃ thread challengeId challenge result signature,
          .accepted thread challengeId challenge result signature ∈ notes
          ∧ (Json.obj result).dumps = text := by
  constructor
  · intro member
    obtain ⟨note, inside, found⟩ := List.mem_filterMap.mp member
    cases note with
    | accepted thread challengeId challenge result signature =>
        cases found
        exact ⟨thread, challengeId, challenge, result, signature, inside, rfl⟩
    | _ => cases found
  · rintro ⟨thread, challengeId, challenge, result, signature, inside, rfl⟩
    exact List.mem_filterMap.mpr ⟨_, inside, rfl⟩

/-- The fields of a result under the names the client reads, in any order of the fields. -/
theorem getOrNone_resultFields {fields : List (PyStr × Json)} {challengeId : PyStr}
    {challenge : Challenge} {verdict : Verdict}
    (same : fields.Perm (resultFields challengeId challenge verdict))
    : getOrNone fields "challenge_id" = .str challengeId
      ∧ getOrNone fields "nonce" = .str challenge.nonce
      ∧ getOrNone fields "request" = .str challenge.request
      ∧ getOrNone fields "digest" = .str (pyHex verdict.digest) := by
  have distinct : (fields.map Prod.fst).Nodup := by
    have keys : (resultFields challengeId challenge verdict).map Prod.fst
        = [py "accepted", py "challenge_id", py "digest", py "kernel_hash", py "nonce",
          py "request", py "request_binding"] := rfl
    rw [(same.map Prod.fst).nodup_iff, keys]
    decide
  have found {name : String} {value : Json}
      (member : (py name, value) ∈ resultFields challengeId challenge verdict)
      : getOrNone fields name = value := by
    rw [getOrNone, Json.get?, lookup_of_mem distinct (same.mem_iff.mpr member)]
    rfl
  exact ⟨found (by simp [resultFields]), found (by simp [resultFields]),
    found (by simp [resultFields]), found (by simp [resultFields])⟩

/-- What stands behind an acceptance: a result of the Verifier with the same text, for an issued
challenge whose identifier and nonce were delivered to the client.
-/
structure Produced (request : PyStr) (delivered result : List (PyStr × Json)) (thread : Nat)
    (challengeId : PyStr) (challenge : Challenge) (verdict : Verdict) (signature : Bytes)
    (older : List (Event PublicKey)) : Prop where
  accepted
    : .accepted thread challengeId challenge (resultFields challengeId challenge verdict) signature
      ∈ verifierNotes older
  text
    : (Json.obj result).dumps = (Json.obj (resultFields challengeId challenge verdict)).dumps
  basic : Basic challengeId ∧ Basic challenge.nonce ∧ Basic verdict.kernelHash
  same : result.Perm (resultFields challengeId { challenge with request } verdict)
  tokens : request.flatMap pyEscape = challenge.request.flatMap pyEscape
  deliveredId : getOrNone delivered "challenge_id" = .str challengeId
  deliveredNonce : getOrNone delivered "nonce" = .str challenge.nonce

/-- The Verifier result behind the text that a client accepted. -/
theorem result_produced {trace newer older : List (Event PublicKey)}
    (recorded : Recorded (verifierNotes trace)) (split : trace = newer ++ older)
    {request : PyStr} {delivered result : List (PyStr × Json)}
    (signed : (Json.obj result).dumps ∈ resultTexts (verifierNotes older))
    (sameId : (getOrNone result "challenge_id").eq (getOrNone delivered "challenge_id") = true)
    (sameNonce : (getOrNone result "nonce").eq (getOrNone delivered "nonce") = true)
    (sameRequest : getOrNone result "request" = .str request)
    : ∃ thread challengeId challenge verdict signature,
        Produced request delivered result thread challengeId challenge verdict signature older := by
  obtain ⟨thread, challengeId, challenge, produced, signature, accepted, text⟩ :=
    mem_resultTexts.mp signed
  have inTrace : .accepted thread challengeId challenge produced signature
      ∈ verifierNotes trace := by
    rw [split, verifierNotes_append]
    exact List.mem_append_right _ accepted
  obtain ⟨issued, nonceBytes, digest, rfl⟩ := recorded.produced inTrace
  obtain ⟨nonce, id, nonceText, idText⟩ := recorded.drawn issued
  have basic : Basic challengeId ∧ Basic challenge.nonce
      ∧ Basic (verdictFor challenge nonceBytes digest).kernelHash :=
    ⟨idText ▸ pyHex_basic id.1, nonceText ▸ pyHex_basic nonce.1, pyHex_basic _⟩
  obtain ⟨found, sorted, tokens⟩ :=
    fields_of_result_text basic.1 basic.2.1 basic.2.2 text.symm
  have same := sorted ▸ (sortByKey_perm result).symm
  obtain ⟨resultId, resultNonce, resultRequest, _⟩ := getOrNone_resultFields same
  -- the client compared the field itself, not its text
  have sameFound : found = request := by
    rw [sameRequest] at resultRequest
    exact (Json.str.inj resultRequest).symm
  subst sameFound
  rw [resultId] at sameId
  rw [resultNonce] at sameNonce
  exact ⟨thread, challengeId, challenge, _, signature,
    { accepted
      text := text.symm
      basic
      same
      tokens
      deliveredId := Json.str_eq sameId
      deliveredNonce := Json.str_eq sameNonce }⟩

-----------------------------------------------------------------------------------------
-- The sample run, with clients
-----------------------------------------------------------------------------------------

/-- The client and the request of an acceptance. -/
def Event.acceptance? : Event PublicKey → Option (Nat × PyStr)
  | .client (.accepted number request _ _) => some (number, request)
  | _ => none

/-- The client and the request of the acceptance at a position of a trace. -/
def acceptanceAt (events : List (Event PublicKey)) (position : Nat) : Option (Nat × PyStr) :=
  events[position]?.bind Event.acceptance?

theorem acceptanceAt_some {events : List (Event PublicKey)} {position client : Nat}
    {request : PyStr} (found : acceptanceAt events position = some (client, request))
    : ∃ delivered result newer older,
        events = newer ++ .client (.accepted client request delivered result) :: older
        ∧ .client (.accepted client request delivered result) ∈ events := by
  obtain ⟨event, inside, projected⟩ := Option.bind_eq_some_iff.mp found
  obtain ⟨bound, same⟩ := List.getElem?_eq_some_iff.mp inside
  have member := List.mem_of_getElem same
  obtain ⟨newer, older, whole⟩ := List.append_of_mem member
  unfold Event.acceptance? at projected
  split at projected
  · next delivered result =>
      cases projected
      exact ⟨delivered, result, newer, older, whole, member⟩
  · cases projected

/-- What a run of the sample environment must meet, in decidable form. -/
def samplePremises (trace : List (Event Bytes)) : Bool :=
  decide (Each (SignedBefore sampleEnvironment) trace)
    && decide (Each (ResultSignedBefore sampleEnvironment sampleVerifierKey) trace)
    && (issuedChallenges (verifierNotes trace)).all
      (fun issued => issued.2.request.all (fun c => decide c.IsScalar))

theorem sample_certifiesOnly : CertifiesOnly sampleEnvironment.root sampleVerifierKey := by
  intro pem certificate key _ read _ holds
  simp only [sampleEnvironment] at read
  split at read
  · cases read
    exact (Option.some.inj holds).symm
  · cases read

theorem sample_policy
    : loadAppraisalPolicy sampleEnvironment.crypto sampleEnvironment.files
      = .ok ⟨sampleDigest, sampleKey, sampleKey⟩ := by
  decide +kernel

theorem sample_assumedRun {actions : List Action} {state : State} {trace : List (Event Bytes)}
    (reached : Transitions.run (systemStep sampleEnvironment) (State.initial [], []) actions
      = some (state, trace))
    (premises : samplePremises trace = true)
    : AssumedRun sampleEnvironment ⟨sampleDigest, sampleKey, sampleKey⟩ sampleVerifierKey state
        trace := by
  simp only [samplePremises, Bool.and_eq_true, decide_eq_true_eq, List.all_eq_true] at premises
  obtain ⟨⟨kernelUnforged, verifierUnforged⟩, scalar⟩ := premises
  exact {
    loaded := sample_policy
    trusted := rfl
    certifies := sample_certifiesOnly
    reached := ⟨[], actions, reached⟩
    scalar
    kernelUnforged
    verifierUnforged }

/-- Two clients that are handed the same recorded messages after one run of the Verifier. -/
def replayActions : List Action :=
  sampleActions ++ sampleClient 0 ++ sampleClient 1

theorem replayActions_run
    : ∃ state trace,
        Transitions.run (systemStep sampleEnvironment) (State.initial [], []) replayActions
          = some (state, trace)
        ∧ samplePremises trace = true
        ∧ acceptanceAt trace 0 = some (1, py "r")
        ∧ acceptanceAt trace 5 = some (0, py "r")
        ∧ (resultTexts (verifierNotes trace)).length = 1 := by
  let result := Transitions.run (systemStep sampleEnvironment) (State.initial [], [])
    replayActions
  have evaluated : result.any (fun state : State × List (Event Bytes) =>
      decide (samplePremises state.2 = true
        ∧ acceptanceAt state.2 0 = some (1, py "r")
        ∧ acceptanceAt state.2 5 = some (0, py "r")
        ∧ (resultTexts (verifierNotes state.2)).length = 1)) = true := by
    decide +kernel
  obtain ⟨⟨state, trace⟩, reached, checked⟩ := (Option.any_eq_true _ _).mp evaluated
  exact ⟨state, trace, reached, of_decide_eq_true checked⟩

/-- The request of the sample run is plain text. -/
theorem sample_request_scalar : ∀ c ∈ py "r", c.IsScalar := by
  intro c member
  obtain ⟨character, _, rfl⟩ := List.mem_map.mp member
  exact codePoint_scalar character

-----------------------------------------------------------------------------------------
-- What an acceptance implies
-----------------------------------------------------------------------------------------

section Assumed

variable {env : Environment PublicKey} {policy : AppraisalPolicy PublicKey}
  {verifierKey : PublicKey} {state : State} {trace : List (Event PublicKey)}

/-- Every acceptance of a run has an earlier Verifier result behind it. Witness: the key of the
envelope is the certified one, so the presented text was signed by the Verifier.
-/
theorem acceptance_produced (assumed : VerifierRun env verifierKey state trace)
    {newer older : List (Event PublicKey)} {client : Nat} {request : PyStr}
    {delivered result : List (PyStr × Json)}
    (accepted : trace = newer ++ .client (.accepted client request delivered result) :: older)
    : ∃ thread challengeId challenge verdict signature,
        Produced request delivered result thread challengeId challenge verdict signature older := by
  have grounded := verifier_reached Grounded.step Grounded.initial assumed.reached
  have checked := acceptanceChecked_reached assumed.reached
  have verifierUnforged := assumed.verifierUnforged
  dsimp only at checked
  rw [accepted] at checked verifierUnforged
  obtain ⟨pem, key, signature, before, certified, agreed, rfl, sameId, sameNonce, sameRequest⟩ :=
    checked.justifies
  have later : Each (ResultSignedBefore env verifierKey)
      (.client (.accepted client request delivered result)
        :: .client (.presented key signature (Json.obj result).dumps) :: before) :=
    verifierUnforged.older
  have signed := later.2.1 (certified_key assumed.certifies certified) agreed
  rw [← List.singleton_append, ← List.append_assoc] at accepted
  exact result_produced grounded.toRecorded accepted signed sameId sameNonce sameRequest

/-- Client acceptance implies approved execution. In every run with one policy, a root CA that
certifies only the Verifier's key, and no forged signature of the Verifier or of the kernel, a
client that accepts for its request was handed a result that the Verifier produced before, from
a challenge it had issued for that request, with the approved digest; and a process with that
digest had obtained a signature over the padded binding of the request and the result's nonce.
-/
theorem client_acceptance_authentic (assumed : AssumedRun env policy verifierKey state trace)
    {newer older : List (Event PublicKey)} {client : Nat} {request : PyStr}
    {delivered result : List (PyStr × Json)}
    (accepted : trace = newer ++ .client (.accepted client request delivered result) :: older)
    (requested : ∀ c ∈ request, c.IsScalar)
    : ∃ (thread : Nat) (challengeId : PyStr) (produced : List (PyStr × Json))
          (signature : Bytes) (nonce : U8Array 32),
        .accepted thread challengeId ⟨pyHex nonce.1, request⟩ produced signature
            ∈ verifierNotes older
        ∧ .issued challengeId ⟨pyHex nonce.1, request⟩ ∈ verifierNotes older
        ∧ result.Perm produced
        ∧ getOrNone result "nonce" = .str (pyHex nonce.1)
        ∧ getOrNone result "digest" = .str (pyHex policy.digest)
        ∧ ∃ call ∈ signCalls older,
            call.Vouches policy.digest
              (makeRequestBinding request nonce.1 ++ List.replicate 96 0) := by
  obtain ⟨thread, challengeId, challenge, verdict, signature, produced⟩ :=
    acceptance_produced assumed.toVerifierRun accepted
  have sound := Sound.reached assumed.loaded assumed.trusted assumed.reached
    assumed.kernelUnforged
  have split : trace
      = (newer ++ [.client (.accepted client request delivered result)]) ++ older := by
    rw [accepted, List.append_assoc, List.singleton_append]
  obtain ⟨nonce, id, nonceText, _, issued, fields, call, called, vouches⟩ :=
    sound.authenticated split produced.accepted
  have whole := verifierNotes_of_split accepted issued
  have equal : request = challenge.request :=
    text_of_escapes_eq (assumed.scalar _ (mem_issuedChallenges.mpr whole)) (.inl requested)
      produced.tokens
  obtain rfl : challenge = ⟨pyHex nonce.1, request⟩ := by rw [equal, ← nonceText]
  have same := produced.same
  dsimp only at same
  rw [fields] at same
  obtain ⟨_, resultNonce, _, resultDigest⟩ := getOrNone_resultFields same
  rw [expectedUserData_binding] at vouches
  exact ⟨thread, challengeId, _, signature, nonce, produced.accepted, issued, produced.same,
    resultNonce, resultDigest, call, called, vouches⟩

theorem client_acceptance_authentic_replay
    : ∃ state trace delivered result,
        Transitions.run (systemStep sampleEnvironment) (State.initial [], []) replayActions
          = some (state, trace)
        ∧ .client (.accepted 1 (py "r") delivered result) ∈ trace
        ∧ getOrNone result "digest" = .str (pyHex sampleDigest) := by
  obtain ⟨state, trace, reached, premises, found, _⟩ := replayActions_run
  obtain ⟨delivered, result, _, _, accepted, member⟩ := acceptanceAt_some found
  obtain ⟨_, _, _, _, _, _, _, _, _, digest, _⟩ :=
    client_acceptance_authentic (sample_assumedRun reached premises) accepted
      sample_request_scalar
  exact ⟨state, trace, delivered, result, reached, member, digest⟩

/-- Client acceptances are as fresh as the challenges delivered to them. Every acceptance goes
back to an accepted result of the Verifier, and one such result stands behind two acceptances
only if both clients were delivered the same challenge identifier and nonce, for the same
request.
-/
theorem acceptances_fresh_per_challenge
    (assumed : VerifierRun env verifierKey state trace)
    {newer older newer' older' : List (Event PublicKey)}
    {client client' : Nat} {request request' : PyStr}
    {delivered result delivered' result' : List (PyStr × Json)}
    (accepted : trace = newer ++ .client (.accepted client request delivered result) :: older)
    (accepted' : trace
      = newer' ++ .client (.accepted client' request' delivered' result') :: older')
    : (∃ note ∈ verifierNotes older, StandsBehind note result)
      ∧ (∃ note ∈ verifierNotes older', StandsBehind note result')
      ∧ ∀ note : Verifier.Note PublicKey,
          StandsBehind note result
          → StandsBehind note result'
          → getOrNone delivered "challenge_id" = getOrNone delivered' "challenge_id"
            ∧ getOrNone delivered "nonce" = getOrNone delivered' "nonce"
            ∧ ((∀ c ∈ request, c.IsScalar)
              → (∀ c ∈ request', c.IsScalar)
              → request = request') := by
  obtain ⟨_, challengeId, challenge, verdict, _, produced⟩ :=
    acceptance_produced assumed accepted
  obtain ⟨_, challengeId', challenge', verdict', _, produced'⟩ :=
    acceptance_produced assumed accepted'
  refine ⟨⟨_, produced.accepted, _, _, _, _, _, rfl, produced.text⟩,
    ⟨_, produced'.accepted, _, _, _, _, _, rfl, produced'.text⟩, ?_⟩
  rintro note ⟨_, _, _, _, _, rfl, behind⟩ ⟨_, _, _, _, _, ⟨⟩, behind'⟩
  -- read the second client's result through the first client's challenge
  have shared := behind'.trans (behind.symm.trans produced.text)
  obtain ⟨idBasic, nonceBasic, hashBasic⟩ := produced.basic
  obtain ⟨found, sorted, tokens⟩ := fields_of_result_text idBasic nonceBasic hashBasic shared
  obtain ⟨sameId, sameNonce, sameRequest, _⟩ :=
    getOrNone_resultFields (sorted ▸ (sortByKey_perm result').symm)
  obtain ⟨ownId, ownNonce, ownRequest, _⟩ := getOrNone_resultFields produced'.same
  rw [ownId] at sameId
  rw [ownNonce] at sameNonce
  rw [ownRequest] at sameRequest
  obtain rfl : request' = found := Json.str.inj sameRequest
  refine ⟨?_, ?_, fun scalar scalar' => ?_⟩
  · rw [produced.deliveredId, produced'.deliveredId, sameId]
  · rw [produced.deliveredNonce, produced'.deliveredNonce, sameNonce]
  · exact text_of_escapes_eq scalar' (.inl scalar) (produced.tokens.trans tokens.symm)

theorem acceptances_fresh_per_challenge_replay
    : ∃ state trace delivered delivered',
        Transitions.run (systemStep sampleEnvironment) (State.initial [], []) replayActions
          = some (state, trace)
        ∧ (∃ result, .client (.accepted 1 (py "r") delivered result) ∈ trace)
        ∧ (∃ result, .client (.accepted 0 (py "r") delivered' result) ∈ trace)
        ∧ ∃ note ∈ verifierNotes trace, ∃ result, StandsBehind note result := by
  obtain ⟨state, trace, reached, premises, found, found', _⟩ := replayActions_run
  obtain ⟨delivered, result, _, _, accepted, member⟩ := acceptanceAt_some found
  obtain ⟨delivered', result', _, _, accepted', member'⟩ := acceptanceAt_some found'
  obtain ⟨⟨note, earlier, behind⟩, _⟩ :=
    acceptances_fresh_per_challenge (sample_assumedRun reached premises).toVerifierRun accepted
      accepted'
  exact ⟨state, trace, delivered, delivered', reached, ⟨result, member⟩, ⟨result', member'⟩, note,
    verifierNotes_of_split accepted earlier, result, behind⟩

/-- A replayed challenge: two distinct clients accept, and the Verifier accepted only once. -/
theorem acceptances_share_result
    : ∃ state trace,
        Transitions.run (systemStep sampleEnvironment) (State.initial [], []) replayActions
          = some (state, trace)
        ∧ VerifierRun sampleEnvironment sampleVerifierKey state trace
        ∧ (resultTexts (verifierNotes trace)).length = 1
        ∧ ∃ delivered result delivered' result' note,
            .client (.accepted 1 (py "r") delivered result) ∈ trace
            ∧ .client (.accepted 0 (py "r") delivered' result') ∈ trace
            ∧ note ∈ verifierNotes trace
            ∧ StandsBehind note result
            ∧ StandsBehind note result' := by
  obtain ⟨state, trace, reached, premises, found, found', single⟩ := replayActions_run
  have assumed := (sample_assumedRun reached premises).toVerifierRun
  obtain ⟨delivered, result, _, _, accepted, member⟩ := acceptanceAt_some found
  obtain ⟨delivered', result', _, _, accepted', member'⟩ := acceptanceAt_some found'
  obtain ⟨_, _, _, _, _, produced⟩ := acceptance_produced assumed accepted
  obtain ⟨_, _, _, _, _, produced'⟩ := acceptance_produced assumed accepted'
  have behind := verifierNotes_of_split accepted produced.accepted
  have behind' := verifierNotes_of_split accepted' produced'.accepted
  have text := mem_resultTexts.mpr ⟨_, _, _, _, _, behind, produced.text.symm⟩
  have text' := mem_resultTexts.mpr ⟨_, _, _, _, _, behind', produced'.text.symm⟩
  obtain ⟨only, isOnly⟩ := List.length_eq_one_iff.mp single
  rw [isOnly, List.mem_singleton] at text text'
  exact ⟨state, trace, reached, assumed, single, delivered, result, delivered', result', _,
    member, member', behind, ⟨_, _, _, _, _, rfl, produced.text⟩,
    ⟨_, _, _, _, _, rfl, text'.trans (text.symm.trans produced.text)⟩⟩

end Assumed

end Tarako.Protocol
