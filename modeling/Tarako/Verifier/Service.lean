import Tarako.Library.Transitions
import Tarako.Verifier.Appraisal

/-! The Verifier's two handlers as threads over one store of outstanding challenges.
Each lock-protected update and each appraisal is a step of its own; what a step did is
recorded as events.
-/

namespace Tarako.Verifier

open Lang

/-- An entry of `outstanding_challenges`. -/
structure Challenge where
  nonce : PyStr
  request : PyStr
deriving DecidableEq

/-- `dict.get`, with `None` for a missing key. -/
def getOrNone (fields : List (PyStr × Json)) (name : String) : Json :=
  (Json.get? fields name).getD .null

/-- `json_request_value`, returning the request of the body. A body that is no JSON is
`None`, like the body `null`.
-/
def jsonRequestValue (body : Json) : Except String PyStr :=
  match body with
  | .obj fields =>
      match getOrNone fields "request" with
      | .str request =>
          if request = [] then .error "request must not be empty" else .ok request
      | _ => .error "request must be a JSON string"
  | _ => .error "request must be a JSON string"

variable {PublicKey : Type}

/-- What the checks of `verify` establish. -/
structure Verdict where
  binding : Bytes
  digest : Bytes
  kernelHash : PyStr
deriving DecidableEq

/-- The checks of `verify` on its own arguments, up to the quote. -/
def quoteFor (expected : Challenge) (body : List (PyStr × Json))
    : Except AppraisalError (List (PyStr × Json) × Bytes) :=
  if !(getOrNone body "request").eq (.str expected.request) then
    .error (.value "request does not match the challenge")
  else if !(getOrNone body "nonce").eq (.str expected.nonce) then
    .error (.value "nonce does not match the challenge")
  else
    match getOrNone body "tq" with
    | .obj quote => do
        let nonce ← fromhexOrRaise expected.nonce
        pure (quote, makeRequestBinding expected.request nonce)
    | _ => .error (.value "tq must be a JSON object")

/-- The `try` block of `verify`. -/
def appraise (crypto : Cryptography PublicKey) (files : PolicyFiles) (expected : Challenge)
    (body : List (PyStr × Json))
    : Except AppraisalError Verdict := do
  let (quote, binding) ← quoteFor expected body
  let policy ← loadAppraisalPolicy crypto files
  let kernelHash ← verifyTarakoQuote crypto quote binding policy
  pure ⟨binding, policy.digest, kernelHash⟩

/-- The key, signature and message with which `appraise` calls `trusted_key.verify`, if it
gets that far.
-/
def presented (crypto : Cryptography PublicKey) (files : PolicyFiles) (expected : Challenge)
    (body : List (PyStr × Json))
    : Except AppraisalError (PublicKey × Bytes × Bytes) := do
  let (quote, binding) ← quoteFor expected body
  let policy ← loadAppraisalPolicy crypto files
  let (signatureDer, message, _) ←
    checkedQuote quote binding policy.digest policy.publicKeyBytes
  pure (policy.publicKey, signatureDer, message)

/-- The fields of `result`. -/
def resultFields (challengeId : PyStr) (expected : Challenge) (verdict : Verdict)
    : List (PyStr × Json) :=
  [
    (py "accepted", .bool true),
    (py "challenge_id", .str challengeId),
    (py "digest", .str (pyHex verdict.digest)),
    (py "kernel_hash", .str verdict.kernelHash),
    (py "nonce", .str expected.nonce),
    (py "request", .str expected.request),
    (py "request_binding", .str (pyHex verdict.binding))
  ]

/-- `result_bytes`. -/
def resultBytes (challengeId : PyStr) (expected : Challenge) (verdict : Verdict) : Bytes :=
  (Json.obj (resultFields challengeId expected verdict)).dumps

/-- The verdict that a challenge and a policy allow: nothing of the evidence is left in it. -/
def verdictFor (expected : Challenge) (nonce digest : Bytes) : Verdict :=
  let binding := makeRequestBinding expected.request nonce
  ⟨binding, digest, pyHex (Sha256.digest (digest ++ expectedUserData binding))⟩

theorem quoteFor_ok {expected : Challenge} {body : List (PyStr × Json)}
    {found : List (PyStr × Json) × Bytes} (passed : quoteFor expected body = .ok found)
    : ∃ nonce,
        fromhex expected.nonce = some nonce
        ∧ found.2 = makeRequestBinding expected.request nonce := by
  unfold quoteFor at passed
  split at passed
  · cases passed
  · split at passed
    · cases passed
    · split at passed
      · obtain ⟨nonce, decoded, passed⟩ := bind_eq_ok.mp passed
        unfold fromhexOrRaise at decoded
        split at decoded
        · next bytes read =>
            cases decoded
            cases passed
            exact ⟨nonce, read, rfl⟩
        · cases decoded
      · cases passed

/-- An accepting appraisal called the trusted key of the policy on the approved digest and the
padded binding, and the key agreed.
-/
theorem appraise_ok {crypto : Cryptography PublicKey} {files : PolicyFiles}
    {expected : Challenge} {body : List (PyStr × Json)} {verdict : Verdict}
    (passed : appraise crypto files expected body = .ok verdict)
    : ∃ nonce policy signatureDer,
        fromhex expected.nonce = some nonce
        ∧ loadAppraisalPolicy crypto files = .ok policy
        ∧ verdict = verdictFor expected nonce policy.digest
        ∧ (let message :=
            policy.digest ++ expectedUserData (makeRequestBinding expected.request nonce)
          presented crypto files expected body = .ok (policy.publicKey, signatureDer, message)
          ∧ crypto.verify policy.publicKey signatureDer message = true) := by
  obtain ⟨⟨quote, binding⟩, quoted, passed⟩ := bind_eq_ok.mp passed
  obtain ⟨policy, loaded, passed⟩ := bind_eq_ok.mp passed
  obtain ⟨kernelHash, verified, passed⟩ := bind_eq_ok.mp passed
  obtain ⟨⟨signatureDer, message, hash⟩, checked, verified⟩ := bind_eq_ok.mp verified
  obtain ⟨nonce, decoded, bound⟩ := quoteFor_ok quoted
  obtain ⟨rfl, rfl⟩ := checkedQuote_ok checked
  cases passed
  dsimp only at verified
  split at verified
  · next agreed =>
      cases verified
      subst bound
      refine ⟨nonce, policy, signatureDer, decoded, loaded, rfl, ?_, agreed⟩
      simp only [presented, quoted, loaded, checked, bind, Except.bind, pure, Except.pure]
  · cases verified

/-- The text of a failure: fixed, or `str(error)` of what was caught. -/
inductive FailureText
  | fixed (text : String)
  | caught (error : AppraisalError)
deriving DecidableEq

/-- The JSON responses of the two handlers. -/
inductive Response
  | challengeFailure (status : Nat) (error : String)
  | challenge (challengeId nonce request : PyStr)
  | verifyFailure (status : Nat) (error : FailureText)
  | verified (certificate : PyStr) (result : List (PyStr × Json)) (signature : PyStr)

/-- Where a handler stands: before its store update, before its appraisal, or done. -/
inductive Thread
  | storing (request : PyStr)
  | popping (challengeId : PyStr) (body : List (PyStr × Json))
  | appraising (challengeId : PyStr) (body : List (PyStr × Json)) (expected : Challenge)
  | responded (response : Response)

/-- The service: its store, its certificate, and the handlers started so far. -/
structure Service where
  outstanding : PyStr → Option Challenge
  certificate : PyStr
  threads : Nat → Option Thread

/-- A service without challenges or handlers. -/
def Service.initial (certificate : PyStr) : Service :=
  ⟨fun _ => none, certificate, fun _ => none⟩

def Service.respond (service : Service) (thread : Nat) (response : Response) : Service :=
  { service with
    threads := Function.update service.threads thread (some (.responded response)) }

/-- One atomic step of a handler. Requests carry their decoded body; a store update draws the
random bytes; an appraisal reads the policy files and draws the signature of its result.
-/
inductive Step
  | challenge (thread : Nat) (body : Json)
  | store (thread : Nat) (nonce : U8Array 32) (id : U8Array 16)
  | verify (thread : Nat) (body : Json)
  | pop (thread : Nat)
  | appraise (thread : Nat) (files : PolicyFiles) (signature : Bytes)

def Step.thread : Step → Nat
  | .challenge thread _ => thread
  | .store thread _ _ => thread
  | .verify thread _ => thread
  | .pop thread => thread
  | .appraise thread _ _ => thread

/-- What a step did to the store, what it asked of the trusted key, and what it signed. -/
inductive Note (PublicKey : Type)
  | issued (challengeId : PyStr) (challenge : Challenge)
  | verifying (thread : Nat) (body : Json)
  | consumed (thread : Nat) (challengeId : PyStr) (challenge : Challenge)
  | presented (key : PublicKey) (signature message : Bytes)
  | accepted (thread : Nat) (challengeId : PyStr) (challenge : Challenge)
      (result : List (PyStr × Json)) (signature : Bytes)

/-- The string `challenge_id` of a request body. -/
def bodyChallengeId? (body : Json) : Option PyStr :=
  match body with
  | .obj fields =>
      match getOrNone fields "challenge_id" with
      | .str challengeId => some challengeId
      | _ => none
  | _ => none

/-- The call of `trusted_key.verify` in an appraisal, as an event. -/
def presentedNotes (crypto : Cryptography PublicKey) (files : PolicyFiles)
    (expected : Challenge) (body : List (PyStr × Json))
    : List (Note PublicKey) :=
  match presented crypto files expected body with
  | .ok (key, signatureDer, message) => [.presented key signatureDer message]
  | .error _ => []

/-- The end of `verify`: the outcome of the appraisal and its response. -/
def finish (crypto : Cryptography PublicKey) (service : Service) (thread : Nat)
    (challengeId : PyStr) (expected : Challenge) (body : List (PyStr × Json))
    (files : PolicyFiles) (signature : Bytes)
    : Service × List (Note PublicKey) :=
  match appraise crypto files expected body with
  | .error error =>
      (service.respond thread (.verifyFailure 400 (.caught error)),
        presentedNotes crypto files expected body)
  | .ok verdict =>
      let result := resultFields challengeId expected verdict
      (service.respond thread (.verified service.certificate result (pyHex signature)),
        .accepted thread challengeId expected result signature
          :: presentedNotes crypto files expected body)

/-- One atomic step of the service, with the events it emits, newest first. -/
def Service.step (crypto : Cryptography PublicKey) (service : Service)
    : Step → Option (Service × List (Note PublicKey))
  | .challenge thread body =>
      if (service.threads thread).isSome then
        none
      else
        match jsonRequestValue body with
        | .error error => some (service.respond thread (.challengeFailure 400 error), [])
        | .ok request =>
            some ({ service with
              threads := Function.update service.threads thread (some (.storing request)) }, [])
  | .store thread nonce id =>
      match service.threads thread with
      | some (.storing request) =>
          let challengeId := pyHex id.1
          let challenge : Challenge := ⟨pyHex nonce.1, request⟩
          some (
            { service.respond thread (.challenge challengeId challenge.nonce request) with
              outstanding :=
                Function.update service.outstanding challengeId (some challenge) },
            [.issued challengeId challenge])
      | _ => none
  | .verify thread body =>
      if (service.threads thread).isSome then
        none
      else
        match body with
        | .obj fields =>
            match bodyChallengeId? body with
            | none =>
                some (
                  service.respond thread (.verifyFailure 400 (.fixed "challenge_id required")),
                  [.verifying thread body])
            | some challengeId =>
                some (
                  { service with
                    threads := Function.update service.threads thread
                      (some (.popping challengeId fields)) },
                  [.verifying thread body])
        | _ =>
            some (
              service.respond thread (.verifyFailure 400 (.fixed "JSON object required")),
              [.verifying thread body])
  | .pop thread =>
      match service.threads thread with
      | some (.popping challengeId body) =>
          match service.outstanding challengeId with
          | none =>
              some (
                service.respond thread
                  (.verifyFailure 409 (.fixed "unknown or consumed challenge")),
                [])
          | some expected =>
              some (
                { service with
                  outstanding := Function.update service.outstanding challengeId none,
                  threads := Function.update service.threads thread
                    (some (.appraising challengeId body expected)) },
                [.consumed thread challengeId expected])
      | _ => none
  | .appraise thread files signature =>
      match service.threads thread with
      | some (.appraising challengeId body expected) =>
          some (finish crypto service thread challengeId expected body files signature)
      | _ => none

-----------------------------------------------------------------------------------------
-- What a step can do
-----------------------------------------------------------------------------------------

/-- Every way in which a step changes the service, with the state of its thread before. -/
inductive Effect (crypto : Cryptography PublicKey) (service : Service)
    : Step → Service → List (Note PublicKey) → Prop
  | refused {thread body response} (fresh : service.threads thread = none)
    : Effect crypto service (.challenge thread body) (service.respond thread response) []
  | storing {thread body request} (fresh : service.threads thread = none)
      (parsed : jsonRequestValue body = .ok request)
    : Effect crypto service (.challenge thread body)
        { service with
          threads := Function.update service.threads thread (some (.storing request)) }
        []
  | stored {thread nonce id request}
      (waiting : service.threads thread = some (.storing request))
    : Effect crypto service (.store thread nonce id)
        { service.respond thread (.challenge (pyHex id.1) (pyHex nonce.1) request) with
          outstanding :=
            Function.update service.outstanding (pyHex id.1) (some ⟨pyHex nonce.1, request⟩) }
        [.issued (pyHex id.1) ⟨pyHex nonce.1, request⟩]
  | malformed {thread body response} (fresh : service.threads thread = none)
      (unnamed : bodyChallengeId? body = none)
    : Effect crypto service (.verify thread body) (service.respond thread response)
        [.verifying thread body]
  | popping {thread fields challengeId} (fresh : service.threads thread = none)
      (named : bodyChallengeId? (.obj fields) = some challengeId)
    : Effect crypto service (.verify thread (.obj fields))
        { service with
          threads := Function.update service.threads thread
            (some (.popping challengeId fields)) }
        [.verifying thread (.obj fields)]
  | unknown {thread challengeId body response}
      (waiting : service.threads thread = some (.popping challengeId body))
      (absent : service.outstanding challengeId = none)
    : Effect crypto service (.pop thread) (service.respond thread response) []
  | consumed {thread challengeId body expected}
      (waiting : service.threads thread = some (.popping challengeId body))
      (found : service.outstanding challengeId = some expected)
    : Effect crypto service (.pop thread)
        { service with
          outstanding := Function.update service.outstanding challengeId none,
          threads := Function.update service.threads thread
            (some (.appraising challengeId body expected)) }
        [.consumed thread challengeId expected]
  | rejected {thread files signature challengeId body expected response}
      (waiting : service.threads thread = some (.appraising challengeId body expected))
    : Effect crypto service (.appraise thread files signature) (service.respond thread response)
        (presentedNotes crypto files expected body)
  | accepted {thread files signature challengeId body expected verdict response}
      (waiting : service.threads thread = some (.appraising challengeId body expected))
      (passed : appraise crypto files expected body = .ok verdict)
    : Effect crypto service (.appraise thread files signature) (service.respond thread response)
        (.accepted thread challengeId expected (resultFields challengeId expected verdict) signature
          :: presentedNotes crypto files expected body)

/-- The step function does nothing else. -/
theorem Service.step_effect {crypto : Cryptography PublicKey} {service next : Service}
    {step : Step} {notes : List (Note PublicKey)}
    (stepped : service.step crypto step = some (next, notes))
    : Effect crypto service step next notes := by
  cases step with
  | challenge thread body =>
      simp only [Service.step] at stepped
      split at stepped
      · cases stepped
      · next fresh =>
          have free : service.threads thread = none := by simpa using fresh
          split at stepped
          · cases stepped
            exact .refused free
          · next parsed =>
              cases stepped
              exact .storing free parsed
  | store thread nonce id =>
      simp only [Service.step] at stepped
      split at stepped
      · next waiting =>
          cases stepped
          exact .stored waiting
      · cases stepped
  | verify thread body =>
      simp only [Service.step] at stepped
      split at stepped
      · cases stepped
      · next fresh =>
          have free : service.threads thread = none := by simpa using fresh
          split at stepped
          · split at stepped
            · next unnamed =>
                cases stepped
                exact .malformed free unnamed
            · next named =>
                cases stepped
                exact .popping free named
          · next other =>
              cases stepped
              refine .malformed free ?_
              unfold bodyChallengeId?
              split
              · next fields => exact absurd rfl (other fields)
              · rfl
  | pop thread =>
      simp only [Service.step] at stepped
      split at stepped
      · next waiting =>
          split at stepped
          · next absent =>
              cases stepped
              exact .unknown waiting absent
          · next found =>
              cases stepped
              exact .consumed waiting found
      · cases stepped
  | appraise thread files signature =>
      simp only [Service.step] at stepped
      split at stepped
      · next waiting =>
          unfold finish at stepped
          split at stepped
          · cases stepped
            exact .rejected waiting
          · next passed =>
              cases stepped
              exact .accepted waiting passed
      · cases stepped

end Tarako.Verifier
