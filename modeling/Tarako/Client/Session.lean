import Tarako.Verifier.Service

/-! The client of one attestation: three HTTP exchanges and the check of the signed result.
Whatever arrives over the network is a reply chosen by somebody else.
-/

namespace Tarako.Client

open Lang Verifier

/-- An X.509 certificate: its issuer and its key, where that is an elliptic-curve key. -/
structure Certificate (PublicKey : Type) where
  issuer : Bytes
  publicKey : Option PublicKey

/-- The root CA file as the tools see it: `openssl verify -CAfile`, the subject of the root
certificate, and the loader of PEM certificates.
-/
structure RootCa (PublicKey : Type) where
  opensslVerify : Bytes → Bool
  subject : Option Bytes
  loadCertificate : Bytes → Option (Certificate PublicKey)

/-- How a run ends without acceptance. -/
inductive ClientError
  | requestFailed
  | missingKey (name : String)
  | wrongType
  | notEncodable
  | notHex
  | opensslFailed
  | notCertificate
  | invalidSignature
  | runtime (text : String)
deriving DecidableEq

/-- `str.encode()`: surrogates have no UTF-8 form. -/
def encode (text : PyStr) : Option Bytes :=
  if text.all (fun c => decide c.IsScalar) then
    some (text.flatMap (fun c => String.utf8EncodeChar (Char.ofNat c.val)))
  else
    none

/-- Subscription of a decoded value by a string. -/
def subscript (value : Json) (name : String) : Except ClientError Json :=
  match value with
  | .obj fields =>
      match Json.get? fields name with
      | some found => .ok found
      | none => .error (.missingKey name)
  | _ => .error .wrongType

variable {PublicKey : Type}

/-- The key of a certificate that the root CA issued. -/
def verifierPublicKey (root : RootCa PublicKey) (certificatePem : Bytes)
    : Except ClientError PublicKey :=
  if !root.opensslVerify certificatePem then
    .error .opensslFailed
  else
    match root.subject, root.loadCertificate certificatePem with
    | some subject, some certificate =>
        if certificate.issuer ≠ subject then
          .error (.runtime "Verifier certificate was not issued by the root CA")
        else
          match certificate.publicKey with
          | some key => .ok key
          | none => .error (.runtime "Verifier certificate does not contain an EC key")
    | _, _ => .error .notCertificate

/-- The key, the signature and the result that the client hands to `verify`. -/
def signedResult (root : RootCa PublicKey) (envelope : Json)
    : Except ClientError (PublicKey × Bytes × Json) := do
  match ← subscript envelope "certificate" with
  | .str text =>
      match encode text with
      | none => .error .notEncodable
      | some certificatePem =>
          let key ← verifierPublicKey root certificatePem
          let result ← subscript envelope "result"
          match ← subscript envelope "signature" with
          | .str signature =>
              match fromhex signature with
              | some bytes => pure (key, bytes, result)
              | none => .error .notHex
          | _ => .error .wrongType
  | _ => .error .wrongType

/-- The comparisons after the signature check; the printed result is returned. -/
def checkResult (request : PyStr) (challenge : List (PyStr × Json)) (result : Json)
    : Except ClientError (List (PyStr × Json)) :=
  match result with
  | .obj fields =>
      match getOrNone fields "accepted" with
      | .bool true =>
          if !(getOrNone fields "challenge_id").eq (getOrNone challenge "challenge_id") then
            .error (.runtime "Attestation Result has the wrong challenge ID")
          else if !(getOrNone fields "nonce").eq (getOrNone challenge "nonce") then
            .error (.runtime "Attestation Result has the wrong nonce")
          else if !(getOrNone fields "request").eq (.str request) then
            .error (.runtime "Attestation Result has the wrong request")
          else
            .ok fields
      | _ => .error (.runtime "Verifier rejected the Tarako Quote")
  | _ => .error .wrongType

/-- The end of `main`, from the envelope on. -/
def checkEnvelope (root : RootCa PublicKey) (crypto : Cryptography PublicKey)
    (request : PyStr) (challenge : List (PyStr × Json)) (envelope : Json)
    : Except ClientError (List (PyStr × Json)) := do
  let (key, signature, result) ← signedResult root envelope
  if crypto.verify key signature result.dumps then
    checkResult request challenge result
  else
    .error .invalidSignature

-----------------------------------------------------------------------------------------
-- Sessions
-----------------------------------------------------------------------------------------

/-- The outcome of one `requests.post`: no reply or a bad status, a good one whose body is not
JSON, and a decoded body.
-/
inductive Reply
  | failed
  | notJson
  | json (value : Json)

/-- `response.json()`. -/
def Reply.decoded : Reply → Except ClientError Json
  | .json value => .ok value
  | .failed | .notJson => .error .requestFailed

/-- Where a run of the client stands. -/
inductive Session
  | challenging (request : PyStr) (attempt : Nat)
  | quoting (request : PyStr) (challenge : List (PyStr × Json))
  | verifying (request : PyStr) (challenge : List (PyStr × Json))
  | finished (outcome : Except ClientError (List (PyStr × Json)))

/-- A step of the client: its start with an argument, or the next reply. -/
inductive Step
  | start (client : Nat) (request : PyStr)
  | reply (client : Nat) (reply : Reply)

/-- What a client posted, asked of the Verifier's key, and accepted. -/
inductive Note (PublicKey : Type)
  | posted (client : Nat) (body : Json)
  | presented (key : PublicKey) (signature message : Bytes)
  | accepted (client : Nat) (request : PyStr) (challenge result : List (PyStr × Json))

/-- The body for `/quote`. -/
def quotePost (challenge : List (PyStr × Json)) : Except ClientError Json := do
  let nonce ← subscript (.obj challenge) "nonce"
  let request ← subscript (.obj challenge) "request"
  pure (.obj [(py "nonce", nonce), (py "request", request)])

/-- The body for `/verify`: the quote is decoded after the three lookups. -/
def verifyPost (challenge : List (PyStr × Json)) (quoteResponse : Reply)
    : Except ClientError Json := do
  let challengeId ← subscript (.obj challenge) "challenge_id"
  let nonce ← subscript (.obj challenge) "nonce"
  let request ← subscript (.obj challenge) "request"
  let quote ← quoteResponse.decoded
  pure (.obj
    [
      (py "challenge_id", challengeId), (py "nonce", nonce), (py "request", request),
      (py "tq", quote)
    ])

/-- The reply to `/challenge`: up to five attempts, then the quote is requested. -/
def onChallenge (client : Nat) (request : PyStr) (attempt : Nat)
    : Reply → Session × List (Note PublicKey)
  | .failed | .notJson =>
      if attempt = 4 then
        (.finished (.error .requestFailed), [])
      else
        (.challenging request (attempt + 1), [.posted client (.obj [(py "request", .str request)])])
  | .json (.obj challenge) =>
      match quotePost challenge with
      | .error error => (.finished (.error error), [])
      | .ok body => (.quoting request challenge, [.posted client body])
  | .json _ => (.finished (.error .wrongType), [])

/-- The reply to `/quote`: the result is requested. -/
def onQuote (client : Nat) (request : PyStr) (challenge : List (PyStr × Json))
    : Reply → Session × List (Note PublicKey)
  | .failed => (.finished (.error .requestFailed), [])
  | quoteResponse =>
      match verifyPost challenge quoteResponse with
      | .error error => (.finished (.error error), [])
      | .ok body => (.verifying request challenge, [.posted client body])

/-- The call of `verify` on an envelope, as an event. -/
def presentedNotes (root : RootCa PublicKey) (envelope : Json) : List (Note PublicKey) :=
  match signedResult root envelope with
  | .ok (key, signature, result) => [.presented key signature result.dumps]
  | .error _ => []

/-- The reply to `/verify`: the envelope is checked. -/
def onResult (root : RootCa PublicKey) (crypto : Cryptography PublicKey) (client : Nat)
    (request : PyStr) (challenge : List (PyStr × Json))
    : Reply → Session × List (Note PublicKey)
  | .failed | .notJson => (.finished (.error .requestFailed), [])
  | .json envelope =>
      match checkEnvelope root crypto request challenge envelope with
      | .error error => (.finished (.error error), presentedNotes root envelope)
      | .ok result =>
          (.finished (.ok result),
            .accepted client request challenge result :: presentedNotes root envelope)

/-- One step of the clients, with the events it emits, newest first. -/
def step (root : RootCa PublicKey) (crypto : Cryptography PublicKey)
    (sessions : Nat → Option Session)
    : Step → Option ((Nat → Option Session) × List (Note PublicKey))
  | .start client request =>
      if (sessions client).isSome then
        none
      else
        some (
          Function.update sessions client (some (.challenging request 0)),
          [.posted client (.obj [(py "request", .str request)])])
  | .reply client reply =>
      let advance (next : Session × List (Note PublicKey)) :=
        some (Function.update sessions client (some next.1), next.2)
      match sessions client with
      | some (.challenging request attempt) => advance (onChallenge client request attempt reply)
      | some (.quoting request challenge) => advance (onQuote client request challenge reply)
      | some (.verifying request challenge) =>
          advance (onResult root crypto client request challenge reply)
      | _ => none

/-- An accepted envelope was signed by a key that the root CA certified. -/
theorem checkEnvelope_ok {root : RootCa PublicKey} {crypto : Cryptography PublicKey}
    {request : PyStr} {challenge fields : List (PyStr × Json)} {envelope : Json}
    (accepted : checkEnvelope root crypto request challenge envelope = .ok fields)
    : ∃ key signature,
        signedResult root envelope = .ok (key, signature, .obj fields)
        ∧ crypto.verify key signature (Json.obj fields).dumps = true
        ∧ getOrNone fields "accepted" = .bool true
        ∧ (getOrNone fields "challenge_id").eq (getOrNone challenge "challenge_id") = true
        ∧ (getOrNone fields "nonce").eq (getOrNone challenge "nonce") = true
        ∧ getOrNone fields "request" = .str request := by
  obtain ⟨⟨key, signature, result⟩, signed, accepted⟩ := bind_eq_ok.mp accepted
  dsimp only at accepted
  split at accepted
  · next agreed =>
      unfold checkResult at accepted
      split at accepted
      · split at accepted
        · next isAccepted =>
            split_ifs at accepted with wrongId wrongNonce wrongRequest
            cases accepted
            simp only [Bool.not_eq_true, Bool.not_eq_false'] at wrongId wrongNonce wrongRequest
            exact ⟨key, signature, signed, agreed, isAccepted, wrongId, wrongNonce,
              Json.eq_str wrongRequest⟩
        · cases accepted
      · cases accepted
  · cases accepted

/-- What a signed result is made of: the key of a certificate that passed every check, and the
signature and the result of the envelope.
-/
theorem signedResult_ok {root : RootCa PublicKey} {envelope result : Json}
    {key : PublicKey} {signature : Bytes}
    (signed : signedResult root envelope = .ok (key, signature, result))
    : ∃ certificatePem text,
        verifierPublicKey root certificatePem = .ok key
        ∧ subscript envelope "result" = .ok result
        ∧ subscript envelope "signature" = .ok (.str text)
        ∧ fromhex text = some signature := by
  obtain ⟨certificate, _, signed⟩ := bind_eq_ok.mp signed
  split at signed
  · split at signed
    · cases signed
    · next certificatePem _ =>
        obtain ⟨found, certified, signed⟩ := bind_eq_ok.mp signed
        obtain ⟨value, named, signed⟩ := bind_eq_ok.mp signed
        obtain ⟨written, read, signed⟩ := bind_eq_ok.mp signed
        split at signed
        · next text =>
            split at signed
            · next bytes decoded =>
                cases signed
                exact ⟨certificatePem, text, certified, named, read, decoded⟩
            · cases signed
        · cases signed
  · cases signed

theorem subscript_error {value : Json} {name : String} {error : ClientError}
    (failed : subscript value name = .error error)
    : error ≠ .invalidSignature := by
  unfold subscript at failed
  split at failed
  · split at failed
    · cases failed
    · cases failed
      exact nofun
  · cases failed
    exact nofun

theorem verifierPublicKey_error {root : RootCa PublicKey} {certificatePem : Bytes}
    {error : ClientError} (failed : verifierPublicKey root certificatePem = .error error)
    : error ≠ .invalidSignature := by
  unfold verifierPublicKey at failed
  split at failed
  · cases failed
    exact nofun
  · split at failed
    · split at failed
      · cases failed
        exact nofun
      · split at failed
        · cases failed
        · cases failed
          exact nofun
    · cases failed
      exact nofun

/-- Nothing before the signature check fails like that check. -/
theorem signedResult_error {root : RootCa PublicKey} {envelope : Json} {error : ClientError}
    (failed : signedResult root envelope = .error error)
    : error ≠ .invalidSignature := by
  rcases bind_eq_error.mp failed with missing | ⟨certificate, _, failed⟩
  · exact subscript_error missing
  · split at failed
    · split at failed
      · cases failed
        exact nofun
      · rcases bind_eq_error.mp failed with uncertified | ⟨key, _, failed⟩
        · exact verifierPublicKey_error uncertified
        · rcases bind_eq_error.mp failed with missing | ⟨result, _, failed⟩
          · exact subscript_error missing
          · rcases bind_eq_error.mp failed with missing | ⟨signature, _, failed⟩
            · exact subscript_error missing
            · split at failed
              · split at failed
                · cases failed
                · cases failed
                  exact nofun
              · cases failed
                exact nofun
    · cases failed
      exact nofun

/-- Nor does anything after it. -/
theorem checkResult_error {request : PyStr} {challenge : List (PyStr × Json)} {result : Json}
    {error : ClientError} (failed : checkResult request challenge result = .error error)
    : error ≠ .invalidSignature := by
  unfold checkResult at failed
  split at failed
  · split at failed
    · split_ifs at failed
      all_goals
        cases failed
        exact nofun
    · cases failed
      exact nofun
  · cases failed
    exact nofun

/-- A client step emits at most one acceptance, of an envelope that passed every check. -/
theorem step_notes {root : RootCa PublicKey} {crypto : Cryptography PublicKey}
    {sessions next : Nat → Option Session} {step : Step} {notes : List (Note PublicKey)}
    (stepped : Client.step root crypto sessions step = some (next, notes))
    : (∀ note ∈ notes, ∀ client request challenge result,
        note ≠ .accepted client request challenge result)
      ∨ ∃ client request challenge result envelope,
          notes = .accepted client request challenge result :: presentedNotes root envelope
          ∧ checkEnvelope root crypto request challenge envelope = .ok result := by
  have presentedFree (envelope : Json) : ∀ note ∈ presentedNotes root envelope,
      ∀ client request challenge result,
        note ≠ .accepted client request challenge result := by
    intro note member client request challenge result
    unfold presentedNotes at member
    split at member
    · rw [List.mem_singleton.mp member]
      exact nofun
    · cases member
  cases step with
  | start client request =>
      simp only [Client.step] at stepped
      split at stepped
      · cases stepped
      · cases stepped
        exact .inl (by simp)
  | reply client reply =>
      simp only [Client.step] at stepped
      split at stepped
      · cases stepped
        left
        unfold onChallenge
        split
        · split <;> simp
        · split <;> simp
        · split <;> simp
        · simp
      · cases stepped
        left
        unfold onQuote
        split
        · simp
        · split <;> simp
      · cases stepped
        cases reply with
        | failed | notJson => exact .inl (by simp [onResult])
        | json envelope =>
            simp only [onResult]
            split
            · exact .inl (presentedFree _)
            · next accepted => exact .inr ⟨_, _, _, _, _, rfl, accepted⟩
      · cases stepped

end Tarako.Client
