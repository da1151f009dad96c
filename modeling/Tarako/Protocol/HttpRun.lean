import Tarako.Attester.Http
import Tarako.Protocol.BindingAgreement
import Tarako.Protocol.HonestRun
import Tarako.Protocol.SignedBytes
import Tarako.Verifier.OneShot

/-! A run of the client against an honest Verifier and an honest Attester, over the texts that
their HTTP libraries exchange and over a network that may lose any of them. Nobody else sends
messages.
-/

namespace Tarako.Protocol

open Lang Driver Attester Verifier Client

/-- The parties of one attestation with the libraries they use and what they draw: the kernel and
the process of the Attester, the files, random bytes and signing key of the Verifier, the root CA
of the client, and the JSON texts of the two Python programs.
-/
structure Deployment (VerifierKey : Type) where
  kernel : Kernel
  calls : Nat → KeyCalls
  keyPair : KeyPair
  task : CurrentTask
  keyAddress : Nat
  requestAddress : Nat
  describe : Bytes → DecodeError → GoError
  errorText : GoError → GoString
  crypto : Cryptography P256.Point
  files : PolicyFiles
  nonce : U8Array 32
  id : U8Array 16
  sign : Bytes → Bytes
  root : RootCa VerifierKey
  library : Cryptography VerifierKey
  numbers : NumberReader
  clientText : Json → PyStr
  verifierText : Json → PyStr

variable {VerifierKey : Type}

namespace Deployment

-----------------------------------------------------------------------------------------
-- The three exchanges
-----------------------------------------------------------------------------------------

/-- `request.get_json(silent=True)` on a body that the client posted. -/
def received (deployment : Deployment VerifierKey) (body : Json) : Json :=
  (loads deployment.numbers (deployment.clientText body)).getD .null

/-- The steps of a handler in turn; those that do not apply any more are left out. -/
def serve (deployment : Deployment VerifierKey) (service : Service) (steps : List Verifier.Step)
    : Service :=
  steps.foldl
    (fun service step =>
      match service.step deployment.crypto step with
      | some (next, _) => next
      | none => service)
    service

/-- The body of a successful response; the others have a status that `raise_for_status` refuses. -/
def successBody : Response → Option Json
  | .challenge challengeId nonce request =>
      some (.obj (stringFields
        [(py "challenge_id", challengeId), (py "nonce", nonce), (py "request", request)]))
  | .verified certificate result signature =>
      some (.obj (envelopeFields certificate result signature))
  | .challengeFailure _ _ => none
  | .verifyFailure _ _ => none

/-- A response text as the client takes it. -/
def replyOf (deployment : Deployment VerifierKey) (text : PyStr) : Reply :=
  match loads deployment.numbers text with
  | some value => .json value
  | none => .notJson

/-- What the client gets from a handler of the Verifier. -/
def answer (deployment : Deployment VerifierKey) (service : Service) (thread : Nat) : Reply :=
  match service.threads thread with
  | some (.responded response) =>
      match successBody response with
      | some value => deployment.replyOf (deployment.verifierText value)
      | none => .failed
  | _ => .failed

def device (deployment : Deployment VerifierKey) : Device :=
  kernelDevice deployment.kernel deployment.calls deployment.keyPair deployment.task

/-- What the client gets from the Attester. -/
def quoted (deployment : Deployment VerifierKey) (body : Json) : Reply :=
  match encode (deployment.clientText body) with
  | none => .failed
  | some bytes =>
      let response := quoteService deployment.device deployment.keyAddress
        deployment.requestAddress deployment.describe true bytes
      if response.status = 200 then
        deployment.replyOf (asText (response.body deployment.errorText))
      else
        .failed

/-- `verifier_signing_key.sign(result_bytes)`, where an appraisal gets that far. -/
def signature (deployment : Deployment VerifierKey) (service : Service) (thread : Nat) : Bytes :=
  match service.threads thread with
  | some (.appraising challengeId body expected) =>
      match appraise deployment.crypto deployment.files expected body with
      | .ok verdict => deployment.sign (resultBytes challengeId expected verdict)
      | .error _ => []
  | _ => []

/-- `challenge`, as one exchange. -/
def challenged (deployment : Deployment VerifierKey) (service : Service) (thread : Nat)
    (body : Json)
    : Service :=
  deployment.serve service
    [.challenge thread (deployment.received body), .store thread deployment.nonce deployment.id]

/-- `verify`, as one exchange. -/
def verified (deployment : Deployment VerifierKey) (service : Service) (thread : Nat) (body : Json)
    : Service :=
  let consumed := deployment.serve service
    [.verify thread (deployment.received body), .pop thread]
  deployment.serve consumed
    [.appraise thread deployment.files (deployment.signature consumed thread)]

-----------------------------------------------------------------------------------------
-- Runs
-----------------------------------------------------------------------------------------

end Deployment

/-- Where a run stands: the Verifier with the next thread of it, the client, and what the client
posted last.
-/
structure HttpRun where
  service : Service
  thread : Nat
  session : Session
  body : Json

/-- The body of the request that a step of the client ends with. -/
def postedBody (notes : List (Client.Note VerifierKey)) (before : Json) : Json :=
  match notes with
  | [.posted _ body] => body
  | _ => before

/-- The client with its first request under way. -/
def HttpRun.start (service : Service) (thread : Nat) (request : PyStr) : HttpRun where
  service := service
  thread := thread
  session := .challenging request 0
  body := .obj [(py "request", .str request)]

/-- What the network does with a request and its reply. -/
inductive Fate
  | delivered
  | requestLost
  | replyLost
deriving DecidableEq

/-- A party that the request reached, or left as it was. -/
def Fate.reached {Party : Type*} (fate : Fate) (before after : Party) : Party :=
  if fate = .requestLost then before else after

/-- A reply that came back; a lost one is an exception of `requests`. -/
def Fate.answered (fate : Fate) (reply : Reply) : Reply :=
  if fate = .delivered then reply else .failed

/-- The request under way meets its fate, and the client goes on. -/
def Deployment.round (deployment : Deployment VerifierKey) (fate : Fate) (run : HttpRun)
    : HttpRun :=
  match run.session with
  | .challenging request attempt =>
      let service := fate.reached run.service
        (deployment.challenged run.service run.thread run.body)
      let next : Session × List (Client.Note VerifierKey) :=
        onChallenge 0 request attempt (fate.answered (deployment.answer service run.thread))
      ⟨service, run.thread + 1, next.1, postedBody next.2 run.body⟩
  | .quoting request challenge =>
      let next : Session × List (Client.Note VerifierKey) :=
        onQuote 0 request challenge (fate.answered (deployment.quoted run.body))
      ⟨run.service, run.thread, next.1, postedBody next.2 run.body⟩
  | .verifying request challenge =>
      let service := fate.reached run.service
        (deployment.verified run.service run.thread run.body)
      let next := onResult deployment.root deployment.library 0 request challenge
        (fate.answered (deployment.answer service run.thread))
      ⟨service, run.thread + 1, next.1, postedBody next.2 run.body⟩
  | .finished _ => run

/-- The random bytes for a challenge: its nonce and its identifier. -/
abbrev Draw := U8Array 32 × U8Array 16

def Deployment.drawing (deployment : Deployment VerifierKey) (draw : Draw)
    : Deployment VerifierKey :=
  { deployment with nonce := draw.1, id := draw.2 }

/-- The next `count` requests of a run, from number `post` on. -/
def Deployment.rounds (deployment : Deployment VerifierKey) (draws : Nat → Draw)
    (fates : Nat → Fate) (post : Nat)
    : Nat → HttpRun → HttpRun
  | 0, run => run
  | count + 1, run =>
      deployment.rounds draws fates (post + 1) count
        ((deployment.drawing (draws post)).round (fates post) run)

/-- Five challenges, a quote and a result at most. -/
def Deployment.run (deployment : Deployment VerifierKey) (draws : Nat → Draw)
    (fates : Nat → Fate) (service : Service) (thread : Nat) (request : PyStr)
    : HttpRun :=
  deployment.rounds draws fates 0 7 (.start service thread request)

/-- A text of a JSON library: one of the standard encoder's, with blanks after it. -/
def Encodes (write : Json → PyStr) : Prop :=
  ∀ value, ∃ text gap, write value = text ++ gap ∧ Written value text ∧ Blank gap

/-- What the parties rely on: the documented behaviour of the libraries, a genuine key pair that
the policy trusts, an approved executable, and a certificate of the root CA for the Verifier's
signing key.
-/
structure Deployment.Honest (deployment : Deployment VerifierKey) (certificate : PyStr)
    (digest : FsverityDigest) : Prop where
  kernel : deployment.kernel.Documented
  draws : ∀ i, (deployment.calls i).Documented
  genuine : deployment.keyPair.Genuine
  caller : currentExeFsverityDigest deployment.task = .ok digest
  crypto : Cryptography.Documented deployment.crypto
  policy
    : ∃ policy,
        loadAppraisalPolicy deployment.crypto deployment.files = .ok policy
        ∧ policy.digest = digest.digest
        ∧ policy.publicKeyBytes = deployment.keyPair.pubkey.1
  clientText : ∀ value, Written value (deployment.clientText value)
  verifierText : Encodes deployment.verifierText
  pem : mergePairs certificate = certificate
  certified
    : ∃ certificatePem key,
        encode certificate = some certificatePem
        ∧ verifierPublicKey deployment.root certificatePem = .ok key
        ∧ ∀ message, deployment.library.verify key (deployment.sign message) message = true

-----------------------------------------------------------------------------------------
-- Texts on the way
-----------------------------------------------------------------------------------------

/-- ASCII text has the bytes of its code points. -/
theorem encode_ascii {text : PyStr} (plain : Ascii text)
    : ∃ bytes, encode text = some bytes ∧ asText bytes = text := by
  have scalar : text.all (fun c => decide c.IsScalar) = true := by
    rw [List.all_eq_true]
    intro c member
    have small := plain c member
    exact decide_eq_true (show c.IsScalar by simp only [CodePoint.IsScalar]; omega)
  refine ⟨_, by rw [encode, if_pos scalar], ?_⟩
  clear scalar
  induction text with
  | nil => rfl
  | cons c rest ih =>
      have small := plain c (.head _)
      have value : (Char.ofNat c.val).toNat = c.val := ofNat_ascii small
      have byte : String.utf8EncodeChar (Char.ofNat c.val) = [UInt8.ofNat c.val] := by
        have limit : (Char.ofNat c.val).val.toNat ≤ 127 := by
          change (Char.ofNat c.val).toNat ≤ 127
          omega
        rw [String.utf8EncodeChar, if_pos limit]
        exact congrArg (fun code => [UInt8.ofNat code]) value
      have back : (UInt8.ofNat c.val).toNat = c.val := by
        rw [UInt8.toNat_ofNat']
        omega
      rw [List.flatMap_cons, byte, asText_append, ih fun other member => plain other (.tail _ member)]
      simp only [asText, List.map_cons, List.map_nil, back, List.singleton_append]

theorem written_strings_ascii {fields : List (PyStr × PyStr)} {text : PyStr}
    (written : Written (.obj (stringFields fields)) text)
    : Ascii text := by
  cases written with
  | @obj _ order text same members =>
      obtain ⟨strings, _, rfl⟩ := perm_stringFields same
      exact (MembersWritten.ascii members).cons (by decide)

/-- A written object is read from its text. -/
theorem loads_object {numbers : NumberReader} {fields : List (PyStr × Json)} {good : Json → Prop}
    (reads : Reads numbers (.obj fields) good) {text gap : PyStr}
    (written : Written (.obj fields) text) (blank : Blank gap)
    : ∃ found, good found ∧ loads numbers (text ++ gap) = some found := by
  refine loads_written reads written ?_ blank
  cases written
  simp

theorem reads_stable (numbers : NumberReader) {text : PyStr} (stable : mergePairs text = text)
    : Reads numbers (.str text) (· = .str text) := by
  have reads := reads_str numbers text
  rwa [stable] at reads

/-- Objects of strings that were read before are read unchanged. -/
theorem reads_strings (numbers : NumberReader) {fields : List (PyStr × PyStr)}
    (stable : ∀ field ∈ fields, mergePairs field.2 = field.2)
    (basic : ∀ field ∈ fields, ∀ c ∈ field.1, c.val < 0xd800) (nonempty : fields ≠ [])
    (distinct : (fields.map Prod.fst).Nodup)
    : Reads numbers (.obj (stringFields fields))
        (fun found => ∃ members, found = .obj members ∧ members.Perm (stringFields fields)) := by
  refine reads_perm ?_ ?_ (by simpa [stringFields] using nonempty)
    (by rw [stringFields_keys]; exact distinct)
  · intro field member
    obtain ⟨⟨key, text⟩, inside, rfl⟩ := List.mem_map.mp member
    exact reads_stable numbers (stable _ inside)
  · intro field member
    obtain ⟨⟨key, text⟩, inside, rfl⟩ := List.mem_map.mp member
    exact basic _ inside

/-- A field of an object, in whichever order it came. -/
theorem subscript_perm {fields members : List (PyStr × Json)} (same : members.Perm fields)
    (distinct : (fields.map Prod.fst).Nodup) {name : String} {value : Json}
    (found : Json.get? fields name = some value)
    : subscript (.obj members) name = .ok value := by
  simp only [subscript, get?_of_perm same distinct, found]

-----------------------------------------------------------------------------------------
-- The first exchange
-----------------------------------------------------------------------------------------

section Challenge

variable {deployment : Deployment VerifierKey} {certificate : PyStr} {digest : FsverityDigest}

/-- The Verifier's copy of a request, and the nonce it drew. -/
def Deployment.issued (deployment : Deployment VerifierKey) (request : PyStr) : Challenge :=
  ⟨pyHex deployment.nonce.1, mergePairs request⟩

/-- What the client gets of it. -/
def Deployment.challengeFields (deployment : Deployment VerifierKey) (request : PyStr)
    : List (PyStr × PyStr) :=
  [
    (py "challenge_id", pyHex deployment.id.1), (py "nonce", (deployment.issued request).nonce),
    (py "request", (deployment.issued request).request)
  ]

theorem received_request (honest : deployment.Honest certificate digest) (request : PyStr)
    : deployment.received (.obj [(py "request", .str request)])
      = .obj [(py "request", .str (mergePairs request))] := by
  have reads : Reads deployment.numbers (.obj [(py "request", .str request)])
      (ReadObject (fun _ found => found = .str (mergePairs request))
        [(py "request", .str request)]) := by
    refine reads_obj ?_ ?_ (List.cons_ne_nil _ _) (by simp)
    · simp only [List.forall_mem_cons]
      exact ⟨reads_str _ _, nofun⟩
    · simp only [List.forall_mem_cons]
      exact ⟨py_basic _ (by decide), nofun⟩
  obtain ⟨found, ⟨order, members, rfl, same, values⟩, loaded⟩ :=
    loads_object reads (honest.clientText _) blank_nil
  rw [List.append_nil] at loaded
  rw [List.perm_singleton.mp same] at values
  cases values with
  | @cons _ member _ _ first rest =>
      cases rest
      have only : member = (py "request", .str (mergePairs request)) := Prod.ext first.1 first.2
      rw [Deployment.received, loaded, Option.getD_some, only]

theorem hex_stable (data : Bytes) : mergePairs (pyHex data) = pyHex data :=
  mergePairs_basic (pyHex_basic data)

theorem challengeFields_distinct (request : PyStr)
    : ((deployment.challengeFields request).map Prod.fst).Nodup := by
  have keys : (deployment.challengeFields request).map Prod.fst
      = ["challenge_id", "nonce", "request"].map py := rfl
  rw [keys]
  decide

/-- The Verifier after `challenge`: one challenge more, and a handler that has responded. -/
def Deployment.afterChallenge (deployment : Deployment VerifierKey) (service : Service)
    (thread : Nat) (request : PyStr)
    : Service where
  outstanding := Function.update service.outstanding (pyHex deployment.id.1)
    (some (deployment.issued request))
  certificate := service.certificate
  threads := Function.update service.threads thread
    (some (.responded (.challenge (pyHex deployment.id.1) (pyHex deployment.nonce.1)
      (mergePairs request))))

theorem challenged_issues (honest : deployment.Honest certificate digest) {service : Service}
    {thread : Nat} (fresh : service.threads thread = none) {request : PyStr}
    (nonempty : request ≠ [])
    : deployment.challenged service thread (.obj [(py "request", .str request)])
      = deployment.afterChallenge service thread request := by
  have parsed : jsonRequestValue (.obj [(py "request", .str (mergePairs request))])
      = .ok (mergePairs request) := by
    rw [jsonRequestValue, show getOrNone [(py "request", Json.str (mergePairs request))] "request"
      = .str (mergePairs request) by simp [getOrNone, Json.get?]]
    dsimp only
    rw [if_neg (mergePairs_ne_nil nonempty)]
  rw [Deployment.challenged, received_request honest]
  simp [Deployment.serve, Service.step, fresh, parsed, Deployment.afterChallenge, Service.respond,
    Deployment.issued]

/-- The client reads the challenge, in whichever order, and posts its nonce and its request. -/
theorem round_challenge (honest : deployment.Honest certificate digest) {service : Service}
    {thread attempt : Nat} (fresh : service.threads thread = none) {request : PyStr}
    (nonempty : request ≠ [])
    : ∃ challenge : List (PyStr × Json),
        challenge.Perm (stringFields (deployment.challengeFields request))
        ∧ deployment.round .delivered
            ⟨service, thread, .challenging request attempt, .obj [(py "request", .str request)]⟩
          = ⟨deployment.afterChallenge service thread request, thread + 1,
              .quoting request challenge,
              .obj (stringFields
                (postedFields (pyHex deployment.nonce.1) (mergePairs request)))⟩ := by
  have reads := @reads_strings deployment.numbers (deployment.challengeFields request)
    (by
      simp only [Deployment.challengeFields, Deployment.issued, List.forall_mem_cons]
      exact ⟨hex_stable _, hex_stable _, mergePairs_mergePairs _, nofun⟩)
    (by
      simp only [Deployment.challengeFields, List.forall_mem_cons]
      exact ⟨py_basic _ (by decide), py_basic _ (by decide), py_basic _ (by decide), nofun⟩)
    (List.cons_ne_nil _ _) (challengeFields_distinct request)
  obtain ⟨text, gap, sent, written, blank⟩ := honest.verifierText
    (.obj (stringFields (deployment.challengeFields request)))
  obtain ⟨_, ⟨challenge, rfl, same⟩, loaded⟩ := loads_object reads written blank
  rw [← sent] at loaded
  refine ⟨challenge, same, ?_⟩
  have distinct : ((stringFields (deployment.challengeFields request)).map Prod.fst).Nodup := by
    rw [stringFields_keys]
    exact challengeFields_distinct request
  have answered : deployment.answer (deployment.afterChallenge service thread request) thread
      = .json (.obj challenge) := by
    have shape : Deployment.successBody (.challenge (pyHex deployment.id.1)
        (pyHex deployment.nonce.1) (mergePairs request))
        = some (.obj (stringFields (deployment.challengeFields request))) := rfl
    simp only [Deployment.answer, Deployment.afterChallenge, Function.update_self, shape,
      Deployment.replyOf, loaded]
  have nonce : subscript (.obj challenge) "nonce" = .ok (.str (pyHex deployment.nonce.1)) :=
    subscript_perm same distinct rfl
  have asked : subscript (.obj challenge) "request" = .ok (.str (mergePairs request)) :=
    subscript_perm same distinct rfl
  have posted : quotePost challenge = .ok (.obj (stringFields
      (postedFields (pyHex deployment.nonce.1) (mergePairs request)))) := by
    simp only [quotePost, nonce, asked, bind, Except.bind]
    rfl
  have returned : Fate.delivered.answered
      (deployment.answer (deployment.afterChallenge service thread request) thread)
      = .json (.obj challenge) := answered
  have stored : Fate.delivered.reached service (deployment.afterChallenge service thread request)
      = deployment.afterChallenge service thread request := rfl
  simp only [Deployment.round, challenged_issues honest fresh nonempty, stored, returned,
    onChallenge, posted, postedBody]

/-- An empty request is refused, and nothing is stored. -/
theorem challenged_refuses (honest : deployment.Honest certificate digest) {service : Service}
    {thread : Nat} (fresh : service.threads thread = none)
    : deployment.challenged service thread (.obj [(py "request", .str [])])
      = service.respond thread (.challengeFailure 400 "request must not be empty") := by
  have refused : jsonRequestValue (.obj [(py "request", .str [])])
      = .error "request must not be empty" := by decide
  rw [Deployment.challenged, received_request honest, mergePairs]
  simp [Deployment.serve, Service.step, fresh, refused, Service.respond]

/-- The store after the first requests of a run. A challenge that was issued stays in it, also if
the client never learned of it.
-/
def Deployment.issuedStore (deployment : Deployment VerifierKey) (draws : Nat → Draw)
    (fates : Nat → Fate) (request : PyStr) (store : PyStr → Option Challenge)
    : Nat → PyStr → Option Challenge
  | 0 => store
  | post + 1 =>
      let before := deployment.issuedStore draws fates request store post
      if request = [] ∨ fates post = .requestLost then
        before
      else
        Function.update before (pyHex (draws post).2.1)
          (some ((deployment.drawing (draws post)).issued request))

/-- The state of a run whose first requests all failed. -/
def failedAttempts (service : Service) (thread : Nat) (request : PyStr) (attempt : Nat)
    : HttpRun where
  service := service
  thread := thread
  session :=
    if attempt = 5 then .finished (.error .requestFailed) else .challenging request attempt
  body := .obj [(py "request", .str request)]

/-- An attempt that brings no challenge is followed by another one, up to five times. -/
theorem round_failed {service : Service} {thread attempt : Nat} (early : attempt < 5)
    {request : PyStr} {fate : Fate} {after : Service}
    (left : fate.reached service
        (deployment.challenged service thread (.obj [(py "request", .str request)]))
      = after)
    (failed : fate.answered (deployment.answer after thread) = .failed)
    : deployment.round fate (failedAttempts service thread request attempt)
      = failedAttempts after (thread + 1) request (attempt + 1) := by
  simp only [failedAttempts, if_neg (Nat.ne_of_lt early), Deployment.round, left, failed,
    onChallenge]
  by_cases last : attempt = 4
  · rw [if_pos last, if_pos (by omega)]
    rfl
  · rw [if_neg last, if_neg (by omega)]
    rfl

end Challenge

-----------------------------------------------------------------------------------------
-- The second exchange
-----------------------------------------------------------------------------------------

section Quote

variable {deployment : Deployment VerifierKey} {certificate : PyStr} {digest : FsverityDigest}

/-- Scalars survive the way through Go. -/
theorem runes_ofChars (text : GoString) : runes (PyStr.ofChars text) = text := by
  rw [runes, PyStr.ofChars, List.map_map]
  refine (List.map_congr_left (g := id) fun c _ => ?_).trans (List.map_id _)
  change runeOf (codePoint c).val = c
  have scalar := codePoint_scalar c
  have alone : (isHigh (codePoint c).val || isLow (codePoint c).val) = false := by
    simp only [CodePoint.IsScalar] at scalar
    simp only [isHigh, isLow, Bool.or_eq_false_iff, Bool.and_eq_false_iff, decide_eq_false_iff_not]
    omega
  rw [runeOf, alone, if_neg Bool.false_ne_true]
  exact Char.ofNat_toNat c

/-- What the Attester decodes. -/
def Deployment.input (deployment : Deployment VerifierKey) (request : PyStr) : QuoteRequest :=
  ⟨runes (mergePairs request), hexEncodeToString deployment.nonce.1⟩

/-- The text that the Attester hashes, and its binding. -/
def Deployment.inputText (deployment : Deployment VerifierKey) (request : PyStr) : Bytes :=
  bindingDomain ++ marshalStrings (bindingContext (deployment.input request))

def Deployment.binding (deployment : Deployment VerifierKey) (request : PyStr) : Bytes :=
  Sha256.digest (deployment.inputText request)

/-- The client's body for `/quote`. -/
def Deployment.quoteBody (deployment : Deployment VerifierKey) (request : PyStr) : Json :=
  .obj (stringFields (postedFields (pyHex deployment.nonce.1) (mergePairs request)))

/-- The body ends within the Attester's limit, and the kernel signs what the Attester makes of it. -/
def Deployment.Quotes (deployment : Deployment VerifierKey) (request : PyStr) : Prop :=
  (deployment.clientText (deployment.quoteBody request)).length ≤ maxBody
  ∧ ∃ result,
      (Driver.ioctl deployment.kernel deployment.calls (some deployment.keyPair) deployment.task
        (variableAt deployment.requestAddress
          (signingRequestMemory (deployment.binding request)))
        TARAKO_SIGN_DATA deployment.requestAddress).2
      = .ok result

theorem requestBinding_input {request : PyStr} (nonempty : request ≠ [])
    : requestBinding (deployment.input request) = .ok (deployment.binding request) := by
  have present : runes (mergePairs request) ≠ [] := by
    simpa [runes] using mergePairs_ne_nil nonempty
  rw [requestBinding, Deployment.input, requestBindingInput_hex present deployment.nonce.2]
  rfl

/-- A signing call that fails ends `tarakoQuote`. -/
theorem tarakoQuote_unsigned {binding : Bytes} {keyAddress requestAddress : Nat} {errno : Errno}
    (failed : (Driver.ioctl deployment.kernel deployment.calls (some deployment.keyPair)
        deployment.task (variableAt requestAddress (signingRequestMemory binding)) TARAKO_SIGN_DATA
        requestAddress).2
      = .error errno)
    : tarakoQuote deployment.device keyAddress requestAddress binding
      = .error (.wrap "TARAKO_SIGN_DATA" (.errno (-errno.code))) := by
  have call : Attester.ioctl deployment.device tarakoSignData requestAddress
      (signingRequestMemory binding)
      = .error (.errno (-errno.code)) := by
    rw [commands_agree.2.2]
    simp only [Attester.ioctl, Deployment.device, kernelDevice]
    split
    · next found =>
        rw [found] at failed
        cases failed
        rfl
    · next found =>
        rw [found] at failed
        cases failed
  have opened : deployment.device.openFile = .ok () := rfl
  have hello := ioctl_hello deployment.kernel deployment.calls deployment.keyPair deployment.task
  have key := ioctl_getPubkey deployment.kernel deployment.calls deployment.keyPair deployment.task
    keyAddress
  simp only [Deployment.device] at opened call ⊢
  simp only [tarakoQuote, opened, hello, key, call, ne_eq, not_true_eq_false, if_false]

theorem goQuote_hex (data : Bytes) : goQuote (hexEncodeToString data) = pyQuote (pyHex data) := by
  rw [goQuote, pyQuote, hex_escapes_agree]

/-- The response to a quote has the text that Python would write. -/
theorem quoteResponse_written (hash key signature userData : Bytes)
    : let response : QuoteResponse :=
        ⟨hexEncodeToString hash, hexEncodeToString key, hexEncodeToString signature,
          hexEncodeToString userData⟩
      Written (.obj response.json) (asText (marshalStrings response.fields)) := by
  intro response
  have members := @membersWritten_compact response.json (fun field _ => written_dumps field.2)
  have keys : goQuote "hash".toList = pyQuote (py "hash")
      ∧ goQuote "public_key".toList = pyQuote (py "public_key")
      ∧ goQuote "signature_der".toList = pyQuote (py "signature_der")
      ∧ goQuote "user_data".toList = pyQuote (py "user_data") := by decide
  have same : response.fields.map (fun field => goQuote field.1 ++ 0x3a :: goQuote field.2)
      = response.json.map (fun field => memberText (field.1, field.2.dumps)) := by
    simp only [QuoteResponse.fields, QuoteResponse.json, List.map_cons, List.map_nil, memberText,
      Json.dumps, response, goQuote_hex, keys]
    rfl
  rw [marshalStrings, same]
  exact .obj (.refl _) members

/-- The fields of the Attester's response to a signed binding. -/
def Deployment.quoteFields (deployment : Deployment VerifierKey) (digest : FsverityDigest)
    (binding : Bytes) (r s : Scalar)
    : List (PyStr × PyStr) :=
  [
    (py "hash", pyHex (sha256Hash deployment.kernel
      (digest.digest ++ expectedUserData binding)).1),
    (py "public_key", pyHex deployment.keyPair.pubkey.1),
    (py "signature_der", pyHex (Der.pair r.value s.value)),
    (py "user_data", pyHex (expectedUserData binding))
  ]

theorem quoteFields_distinct (binding : Bytes) (r s : Scalar)
    : ((deployment.quoteFields digest binding r s).map Prod.fst).Nodup := by
  have keys : (deployment.quoteFields digest binding r s).map Prod.fst
      = ["hash", "public_key", "signature_der", "user_data"].map py := rfl
  rw [keys]
  decide

theorem reads_quote (numbers : NumberReader) (binding : Bytes) (r s : Scalar)
    : Reads numbers (.obj (stringFields (deployment.quoteFields digest binding r s)))
        (fun found => ∃ members, found = .obj members
          ∧ members.Perm (stringFields (deployment.quoteFields digest binding r s))) := by
  refine reads_strings numbers ?_ ?_ (List.cons_ne_nil _ _) (quoteFields_distinct binding r s)
  · simp only [Deployment.quoteFields, List.forall_mem_cons]
    exact ⟨hex_stable _, hex_stable _, hex_stable _, hex_stable _, nofun⟩
  · simp only [Deployment.quoteFields, List.forall_mem_cons]
    exact ⟨py_basic _ (by decide), py_basic _ (by decide), py_basic _ (by decide),
      py_basic _ (by decide), List.forall_mem_nil _⟩

/-- The Attester decodes what the client posted, or refuses a body that is too long. -/
theorem decodeBody_quoteBody (honest : deployment.Honest certificate digest) (request : PyStr)
    : ∃ bytes,
        encode (deployment.clientText (deployment.quoteBody request)) = some bytes
        ∧ decodeBody bytes
          = if (deployment.clientText (deployment.quoteBody request)).length ≤ maxBody then
              .ok (deployment.input request)
            else
              .error .unreadable := by
  have written := honest.clientText (deployment.quoteBody request)
  obtain ⟨bytes, encoded, sent⟩ := encode_ascii (written_strings_ascii written)
  refine ⟨bytes, encoded, ?_⟩
  rw [decodeBody_posted written Ascii.nil (sent.trans (List.append_nil _).symm),
    mergePairs_mergePairs, hex_stable]
  rw [show runes (pyHex deployment.nonce.1) = hexEncodeToString deployment.nonce.1 from
    runes_ofChars _]
  rfl

/-- Without a quote the client gets nothing. -/
theorem quoted_failed (honest : deployment.Honest certificate digest) {request : PyStr}
    (nonempty : request ≠ []) (refused : ¬ deployment.Quotes request)
    : deployment.quoted (deployment.quoteBody request) = .failed := by
  obtain ⟨bytes, encoded, decoded⟩ := decodeBody_quoteBody honest request
  have bound := @requestBinding_input _ deployment _ nonempty
  have status : (quoteService deployment.device deployment.keyAddress deployment.requestAddress
      deployment.describe true bytes).status ≠ 200 := by
    rw [quoteService, decoded]
    split_ifs with fits
    · have unsigned : ∃ errno, (Driver.ioctl deployment.kernel deployment.calls
          (some deployment.keyPair) deployment.task
          (variableAt deployment.requestAddress
            (signingRequestMemory (deployment.binding request)))
          TARAKO_SIGN_DATA deployment.requestAddress).2 = .error errno := by
        cases outcome : (Driver.ioctl deployment.kernel deployment.calls (some deployment.keyPair)
            deployment.task (variableAt deployment.requestAddress
              (signingRequestMemory (deployment.binding request)))
            TARAKO_SIGN_DATA deployment.requestAddress).2 with
        | error errno => exact ⟨errno, rfl⟩
        | ok result => exact absurd ⟨fits, result, outcome⟩ refused
      obtain ⟨errno, unsigned⟩ := unsigned
      simp [quoteHandler, Except.mapError, bound, tarakoQuote_unsigned unsigned,
        HttpResponse.status]
    · simp [quoteHandler, Except.mapError, HttpResponse.status]
  rw [Deployment.quoted, encoded]
  dsimp only
  rw [if_neg status]

/-- Otherwise it gets the quote that the kernel signed. -/
theorem quoted_json (honest : deployment.Honest certificate digest) {request : PyStr}
    (nonempty : request ≠ []) (quotes : deployment.Quotes request)
    : ∃ r s members,
        ecdsaSign deployment.kernel deployment.calls
            (digest.digest ++ expectedUserData (deployment.binding request))
            deployment.keyPair.secret deployment.keyPair.curveN
          = .ok (r, s)
        ∧ members.Perm
            (stringFields (deployment.quoteFields digest (deployment.binding request) r s))
        ∧ deployment.quoted (deployment.quoteBody request) = .json (.obj members) := by
  obtain ⟨fits, result, signed⟩ := quotes
  obtain ⟨bytes, encoded, decoded⟩ := decodeBody_quoteBody honest request
  rw [if_pos fits] at decoded
  have room : (deployment.binding request).length ≤ Attester.userDataBytes :=
    (Sha256.digest_length _).trans_le (by decide)
  obtain ⟨r, s, signature, quoted⟩ := @tarakoQuote_padded deployment.kernel deployment.calls
    deployment.keyPair deployment.task (deployment.binding request) room digest honest.caller
    deployment.keyAddress deployment.requestAddress result signed
  let response := kernelQuote deployment.kernel deployment.keyPair digest.digest
    (deployment.binding request) r s
  have served : quoteService deployment.device deployment.keyAddress deployment.requestAddress
      deployment.describe true bytes = .quote 200 response := by
    rw [quoteService, decoded]
    simp only [quoteHandler, Except.mapError, requestBinding_input nonempty, Bool.not_true,
      Bool.false_eq_true, if_false]
    rw [Deployment.device, quoted]
  have written : Written
      (.obj (stringFields (deployment.quoteFields digest (deployment.binding request) r s)))
      (asText (marshalStrings response.fields)) :=
    quoteResponse_written
      (sha256Hash deployment.kernel
        (digest.digest ++ expectedUserData (deployment.binding request))).1
      deployment.keyPair.pubkey.1 (Der.pair r.value s.value)
      (expectedUserData (deployment.binding request))
  have blank : Blank [0x0a] := by
    intro c member
    rw [List.mem_singleton.mp member]
    decide
  obtain ⟨_, ⟨members, rfl, same⟩, loaded⟩ := loads_object
    (reads_quote deployment.numbers (deployment.binding request) r s) written blank
  refine ⟨r, s, members, signature, same, ?_⟩
  have text : asText (HttpResponse.body deployment.errorText (.quote 200 response))
      = asText (marshalStrings response.fields) ++ [0x0a] := asText_append _ _
  rw [Deployment.quoted, encoded]
  dsimp only
  rw [served, if_pos (show HttpResponse.status (.quote 200 response) = 200 from rfl), text,
    Deployment.replyOf, loaded]

end Quote

-----------------------------------------------------------------------------------------
-- The third exchange
-----------------------------------------------------------------------------------------

section Verify

variable {deployment : Deployment VerifierKey} {certificate : PyStr} {digest : FsverityDigest}

/-- The client's body for `/verify`. -/
def Deployment.verifyFields (deployment : Deployment VerifierKey) (request : PyStr)
    (quote : List (PyStr × Json))
    : List (PyStr × Json) :=
  [
    (py "challenge_id", .str (pyHex deployment.id.1)),
    (py "nonce", .str (pyHex deployment.nonce.1)), (py "request", .str (mergePairs request)),
    (py "tq", .obj quote)
  ]

/-- The client adds the quote to what it knows of the challenge. -/
theorem verifyPost_challenge {request : PyStr} {challenge : List (PyStr × Json)}
    (same : challenge.Perm (stringFields (deployment.challengeFields request)))
    (quote : List (PyStr × Json))
    : verifyPost challenge (.json (.obj quote))
      = .ok (.obj (deployment.verifyFields request quote)) := by
  have distinct : ((stringFields (deployment.challengeFields request)).map Prod.fst).Nodup := by
    rw [stringFields_keys]
    exact challengeFields_distinct request
  have id : subscript (.obj challenge) "challenge_id" = .ok (.str (pyHex deployment.id.1)) :=
    subscript_perm same distinct rfl
  have nonce : subscript (.obj challenge) "nonce" = .ok (.str (pyHex deployment.nonce.1)) :=
    subscript_perm same distinct rfl
  have asked : subscript (.obj challenge) "request" = .ok (.str (mergePairs request)) :=
    subscript_perm same distinct rfl
  simp only [verifyPost, id, nonce, asked, bind, Except.bind]
  rfl

/-- A value that is read unchanged, or an object that is read with the members `inner`, in some
order.
-/
def ReadWithin (inner : List (PyStr × Json)) (field : PyStr × Json) (found : Json) : Prop :=
  match field.2 with
  | .obj _ => ∃ members, found = .obj members ∧ members.Perm inner
  | value => found = value

theorem reads_within_str (numbers : NumberReader) (inner : List (PyStr × Json)) (key : PyStr)
    {text : PyStr} (stable : mergePairs text = text)
    : Reads numbers (.str text) (ReadWithin inner (key, .str text)) :=
  reads_stable numbers stable

theorem getOrNone_of_subscript {fields : List (PyStr × Json)} {name : String} {value : Json}
    (found : subscript (.obj fields) name = .ok value)
    : getOrNone fields name = value := by
  simp only [subscript] at found
  split at found
  · next here =>
      cases found
      rw [getOrNone, here, Option.getD_some]
  · cases found

/-- The Verifier reads the body with the quote in it. -/
theorem received_verify (honest : deployment.Honest certificate digest) (request : PyStr)
    {binding : Bytes} {r s : Scalar} {quote : List (PyStr × Json)}
    (sent : quote.Perm (stringFields (deployment.quoteFields digest binding r s)))
    : ∃ body members,
        deployment.received (.obj (deployment.verifyFields request quote)) = .obj body
        ∧ members.Perm (stringFields (deployment.quoteFields digest binding r s))
        ∧ getOrNone body "challenge_id" = .str (pyHex deployment.id.1)
        ∧ getOrNone body "nonce" = .str (pyHex deployment.nonce.1)
        ∧ getOrNone body "request" = .str (mergePairs request)
        ∧ getOrNone body "tq" = .obj members := by
  let inner := stringFields (deployment.quoteFields digest binding r s)
  have distinct : ((deployment.verifyFields request quote).map Prod.fst).Nodup := by
    have keys : (deployment.verifyFields request quote).map Prod.fst
        = ["challenge_id", "nonce", "request", "tq"].map py := rfl
    rw [keys]
    decide
  have readsQuote : Reads deployment.numbers (.obj quote) (ReadWithin inner (py "tq", .obj quote)) :=
    fun text written => reads_quote deployment.numbers binding r s text (written.perm sent)
  have reads : Reads deployment.numbers (.obj (deployment.verifyFields request quote))
      (ReadObject (ReadWithin inner) (deployment.verifyFields request quote)) := by
    refine reads_obj ?_ ?_ (List.cons_ne_nil _ _) distinct
    · simp only [Deployment.verifyFields, List.forall_mem_cons]
      exact ⟨reads_within_str _ _ _ (hex_stable _), reads_within_str _ _ _ (hex_stable _),
        reads_within_str _ _ _ (mergePairs_mergePairs _), readsQuote, nofun⟩
    · simp only [Deployment.verifyFields, List.forall_mem_cons]
      exact ⟨py_basic _ (by decide), py_basic _ (by decide), py_basic _ (by decide),
        py_basic _ (by decide), List.forall_mem_nil _⟩
  obtain ⟨found, read, loaded⟩ := loads_object reads (honest.clientText _) blank_nil
  rw [List.append_nil] at loaded
  have member {name : String} {value : Json}
      (inside : (py name, value) ∈ deployment.verifyFields request quote)
      : ∃ received, subscript found name = .ok received ∧ ReadWithin inner (py name, value) received :=
    subscript_readObject distinct read inside
  obtain ⟨_, idFound, rfl⟩ := @member "challenge_id" _ (.head _)
  obtain ⟨_, nonceFound, rfl⟩ := @member "nonce" _ (.tail _ (.head _))
  obtain ⟨_, requestFound, rfl⟩ := @member "request" _ (.tail _ (.tail _ (.head _)))
  obtain ⟨_, quoteFound, members, rfl, kept⟩ :=
    @member "tq" _ (.tail _ (.tail _ (.tail _ (.head _))))
  obtain ⟨_, body, rfl, _, _⟩ := read
  refine ⟨body, members, by rw [Deployment.received, loaded, Option.getD_some], kept,
    getOrNone_of_subscript idFound, getOrNone_of_subscript nonceFound,
    getOrNone_of_subscript requestFound, getOrNone_of_subscript quoteFound⟩

/-- The checks of a quote look its items up by name only. -/
theorem checkedQuote_congr {quote other : List (PyStr × Json)}
    (same : ∀ name, Json.get? quote name = Json.get? other name)
    (binding approved key : Bytes)
    : checkedQuote quote binding approved key = checkedQuote other binding approved key := by
  have items (name : String) : item quote name = item other name := by
    simp only [item, same]
  simp only [checkedQuote, hexItem, items]

/-- Other user data than expected fails the first check. -/
theorem checkedQuote_foreign {quote : List (PyStr × Json)} {userData binding : Bytes}
    (found : hexItem quote "user_data" = .ok userData)
    (different : userData ≠ expectedUserData binding) (approved key : Bytes)
    : checkedQuote quote binding approved key
      = .error (.value "TQ user data does not contain the expected request binding") := by
  rw [checkedQuote, found]
  simp only [bind, Except.bind]
  rw [if_pos different]

/-- The trusted key agrees with what the kernel signed. -/
theorem kernelSignature_verifies (honest : deployment.Honest certificate digest)
    {policy : AppraisalPolicy P256.Point}
    (loaded : loadAppraisalPolicy deployment.crypto deployment.files = .ok policy)
    (trusted : policy.publicKeyBytes = deployment.keyPair.pubkey.1) {message : Bytes} {r s : Scalar}
    (signed : ecdsaSign deployment.kernel deployment.calls message deployment.keyPair.secret
        deployment.keyPair.curveN
      = .ok (r, s))
    : deployment.crypto.verify policy.publicKey (Der.pair r.value s.value) message = true := by
  rw [trusted_key honest.crypto honest.genuine loaded trusted]
  exact signature_verifies honest.kernel honest.draws honest.genuine honest.crypto signed

/-- The padding of a binding can be taken off again. -/
theorem expectedUserData_inj {binding other : Bytes} (length : binding.length = other.length)
    (same : expectedUserData binding = expectedUserData other)
    : binding = other :=
  (List.append_inj same length).1

/-- The binding that the Verifier expects. -/
def Deployment.expectedBinding (deployment : Deployment VerifierKey) (request : PyStr) : Bytes :=
  makeRequestBinding (mergePairs request) deployment.nonce.1

/-- The appraisal of a kernel's quote compares its user data with the expected binding; nothing
else can fail. The members of the quote may have come in any order.
-/
theorem appraise_kernelQuote (honest : deployment.Honest certificate digest) {data : Bytes}
    {r s : Scalar}
    (signed : ecdsaSign deployment.kernel deployment.calls (digest.digest ++ expectedUserData data)
        deployment.keyPair.secret deployment.keyPair.curveN
      = .ok (r, s))
    {expected : Challenge} {nonce : Bytes} {body members : List (PyStr × Json)}
    (decoded : fromhex expected.nonce = some nonce)
    (asked : getOrNone body "request" = .str expected.request)
    (echoed : getOrNone body "nonce" = .str expected.nonce)
    (posted : getOrNone body "tq" = .obj members)
    (kept : ∀ name, Json.get? members name
      = Json.get? (kernelQuote deployment.kernel deployment.keyPair digest.digest data r s).json name)
    : appraise deployment.crypto deployment.files expected body
      = if expectedUserData data = expectedUserData (makeRequestBinding expected.request nonce) then
          .ok (verdictFor expected nonce digest.digest)
        else
          .error (.value "TQ user data does not contain the expected request binding") := by
  let quote := (kernelQuote deployment.kernel deployment.keyPair digest.digest data r s).json
  let binding := makeRequestBinding expected.request nonce
  obtain ⟨policy, loaded, approved, trusted⟩ := honest.policy
  have same (text : PyStr) : (Json.str text).eq (.str text) = true := by simp [Json.eq]
  have quoted : quoteFor expected body = .ok (members, binding) := by
    have raised : fromhexOrRaise expected.nonce = .ok nonce := by
      rw [fromhexOrRaise, decoded]
    simp only [quoteFor, asked, echoed, posted, same, raised, bind, Except.bind, pure, Except.pure,
      Bool.not_true, Bool.false_eq_true, if_false]
    rfl
  have checked : checkedQuote members binding digest.digest deployment.keyPair.pubkey.1
      = checkedQuote quote binding digest.digest deployment.keyPair.pubkey.1 :=
    checkedQuote_congr kept _ _ _
  change _ = if expectedUserData data = expectedUserData binding then _ else _
  split_ifs with agree
  · have verifies := kernelSignature_verifies honest loaded trusted signed
    have alike : quote
        = (kernelQuote deployment.kernel deployment.keyPair digest.digest binding r s).json := by
      simp only [quote, kernelQuote, agree]
    rw [alike, checkedQuote_kernelQuote honest.kernel] at checked
    rw [agree] at verifies
    simp only [appraise, quoted, loaded, verifyTarakoQuote, approved, trusted, checked, verifies,
      bind, Except.bind, pure, Except.pure, if_true]
    rfl
  · have userData : hexItem quote "user_data" = .ok (expectedUserData data) := hexItem_text rfl
    rw [checkedQuote_foreign userData agree] at checked
    simp only [appraise, quoted, loaded, verifyTarakoQuote, approved, trusted, checked, bind,
      Except.bind]

/-- The appraisal of the Attester's quote compares the two bindings. -/
theorem appraise_quote (honest : deployment.Honest certificate digest) {request : PyStr}
    {r s : Scalar}
    (signed : ecdsaSign deployment.kernel deployment.calls
        (digest.digest ++ expectedUserData (deployment.binding request))
        deployment.keyPair.secret deployment.keyPair.curveN
      = .ok (r, s))
    {body members : List (PyStr × Json)}
    (kept : members.Perm
      (stringFields (deployment.quoteFields digest (deployment.binding request) r s)))
    (nonce : getOrNone body "nonce" = .str (pyHex deployment.nonce.1))
    (asked : getOrNone body "request" = .str (mergePairs request))
    (quote : getOrNone body "tq" = .obj members)
    : appraise deployment.crypto deployment.files (deployment.issued request) body
      = if deployment.binding request = deployment.expectedBinding request then
          .ok (verdictFor (deployment.issued request) deployment.nonce.1 digest.digest)
        else
          .error (.value "TQ user data does not contain the expected request binding") := by
  have distinct : ((stringFields (deployment.quoteFields digest (deployment.binding request) r
      s)).map Prod.fst).Nodup := by
    rw [stringFields_keys]
    exact quoteFields_distinct (deployment.binding request) r s
  have lengths : (deployment.binding request).length
      = (deployment.expectedBinding request).length :=
    (Sha256.digest_length _).trans (Sha256.digest_length _).symm
  have padded : expectedUserData (deployment.binding request)
        = expectedUserData (deployment.expectedBinding request)
      ↔ deployment.binding request = deployment.expectedBinding request :=
    ⟨expectedUserData_inj lengths, congrArg expectedUserData⟩
  have appraised := appraise_kernelQuote honest signed
    (show fromhex (deployment.issued request).nonce = some deployment.nonce.1 from fromhex_pyHex _)
    asked nonce quote (get?_of_perm kept distinct)
  exact appraised.trans (if_congr padded rfl rfl)

/-- The result that the Verifier signs for a quote over the binding it expects. -/
def Deployment.result (deployment : Deployment VerifierKey) (digest : FsverityDigest)
    (request : PyStr)
    : List (PyStr × Json) :=
  resultFields (pyHex deployment.id.1) (deployment.issued request)
    (verdictFor (deployment.issued request) deployment.nonce.1 digest.digest)

/-- The response of `verify`, by the two bindings. -/
def Deployment.verdictResponse (deployment : Deployment VerifierKey) (certificate : PyStr)
    (digest : FsverityDigest) (request : PyStr)
    : Response :=
  if deployment.binding request = deployment.expectedBinding request then
    .verified certificate (deployment.result digest request)
      (pyHex (deployment.sign (Json.obj (deployment.result digest request)).dumps))
  else
    .verifyFailure 400
      (.caught (.value "TQ user data does not contain the expected request binding"))

/-- `verify` consumes the challenge and responds. -/
theorem verified_consumes (honest : deployment.Honest certificate digest) {service : Service}
    (named : service.certificate = certificate) {thread : Nat}
    (fresh : service.threads thread = none) {request : PyStr}
    (issued : service.outstanding (pyHex deployment.id.1) = some (deployment.issued request))
    {r s : Scalar}
    (signed : ecdsaSign deployment.kernel deployment.calls
        (digest.digest ++ expectedUserData (deployment.binding request))
        deployment.keyPair.secret deployment.keyPair.curveN
      = .ok (r, s))
    {quote : List (PyStr × Json)}
    (sent : quote.Perm
      (stringFields (deployment.quoteFields digest (deployment.binding request) r s)))
    : deployment.verified service thread (.obj (deployment.verifyFields request quote))
      = ⟨Function.update service.outstanding (pyHex deployment.id.1) none, certificate,
          Function.update service.threads thread
            (some (.responded (deployment.verdictResponse certificate digest request)))⟩ := by
  obtain ⟨body, members, read, kept, idFound, nonce, asked, quoteFound⟩ :=
    received_verify honest request sent
  have named' : bodyChallengeId? (.obj body) = some (pyHex deployment.id.1) := by
    simp only [bodyChallengeId?, idFound]
  have consumed : deployment.serve service
      [.verify thread (deployment.received (.obj (deployment.verifyFields request quote))),
        .pop thread]
      = ⟨Function.update service.outstanding (pyHex deployment.id.1) none, certificate,
          Function.update service.threads thread
            (some (.appraising (pyHex deployment.id.1) body (deployment.issued request)))⟩ := by
    simp [Deployment.serve, Service.step, fresh, read, named', issued, named]
  have appraised := appraise_quote honest signed kept nonce asked quoteFound
  rw [Deployment.verified, consumed]
  simp only [Deployment.serve, List.foldl_cons, List.foldl_nil, Service.step, Function.update_self,
    Deployment.signature, finish, appraised, Deployment.verdictResponse]
  split_ifs with agree
  · simp [Service.respond, Deployment.result, resultBytes]
  · simp [Service.respond]

/-- Members in another order are written alike. -/
theorem dumps_perm {fields members : List (PyStr × Json)} (same : members.Perm fields)
    (distinct : (fields.map Prod.fst).Nodup)
    : (Json.obj members).dumps = (Json.obj fields).dumps :=
  @dumps_readObject (fun field found => found = field.2) fields distinct
    (fun _ _ _ kept => by rw [kept]) (.obj members)
    ⟨members, members, rfl, same, List.forall₂_same.mpr fun _ _ => ⟨rfl, rfl⟩⟩

theorem reads_result (numbers : NumberReader) (request : PyStr)
    : Reads numbers (.obj (deployment.result digest request))
        (fun found => ∃ members, found = .obj members
          ∧ members.Perm (deployment.result digest request)) := by
  refine reads_perm ?_ ?_ (List.cons_ne_nil _ _) (resultFields_distinct _ _ _)
  · simp only [Deployment.result, resultFields, verdictFor, List.forall_mem_cons]
    exact ⟨reads_true numbers, reads_stable numbers (hex_stable _),
      reads_stable numbers (hex_stable _), reads_stable numbers (hex_stable _),
      reads_stable numbers (hex_stable _), reads_stable numbers (mergePairs_mergePairs _),
      reads_stable numbers (hex_stable _), List.forall_mem_nil _⟩
  · simp only [Deployment.result, resultFields, List.forall_mem_cons]
    exact ⟨py_basic _ (by decide), py_basic _ (by decide), py_basic _ (by decide),
      py_basic _ (by decide), py_basic _ (by decide), py_basic _ (by decide),
      py_basic _ (by decide), List.forall_mem_nil _⟩

/-- The client reads the envelope of a result, and its signature agrees. -/
theorem envelope_accepted (honest : deployment.Honest certificate digest) {request : PyStr}
    (unmerged : mergePairs request = request) {challenge : List (PyStr × Json)}
    (same : challenge.Perm (stringFields (deployment.challengeFields request)))
    : ∃ envelope result,
        loads deployment.numbers (deployment.verifierText (.obj (envelopeFields certificate
            (deployment.result digest request)
            (pyHex (deployment.sign (Json.obj (deployment.result digest request)).dumps)))))
          = some envelope
        ∧ result.Perm (deployment.result digest request)
        ∧ checkEnvelope deployment.root deployment.library request challenge envelope
          = .ok result := by
  let fields := envelopeFields certificate (deployment.result digest request)
    (pyHex (deployment.sign (Json.obj (deployment.result digest request)).dumps))
  have distinct : (fields.map Prod.fst).Nodup := envelopeFields_distinct _ _ _
  have reads : Reads deployment.numbers (.obj fields)
      (ReadObject (ReadWithin (deployment.result digest request)) fields) := by
    refine reads_obj ?_ ?_ (List.cons_ne_nil _ _) distinct
    · simp only [fields, envelopeFields, List.forall_mem_cons]
      exact ⟨reads_within_str _ _ _ honest.pem, reads_result _ _,
        reads_within_str _ _ _ (hex_stable _), List.forall_mem_nil _⟩
    · simp only [fields, envelopeFields, List.forall_mem_cons]
      exact ⟨py_basic _ (by decide), py_basic _ (by decide), py_basic _ (by decide),
        List.forall_mem_nil _⟩
  obtain ⟨text, gap, sent, written, blank⟩ := honest.verifierText (.obj fields)
  obtain ⟨envelope, read, loaded⟩ := loads_object reads written blank
  rw [← sent] at loaded
  have member {name : String} {value : Json} (inside : (py name, value) ∈ fields)
      : ∃ received,
          subscript envelope name = .ok received
          ∧ ReadWithin (deployment.result digest request) (py name, value) received :=
    subscript_readObject distinct read inside
  obtain ⟨_, certificateFound, rfl⟩ := @member "certificate" _ (.head _)
  obtain ⟨_, resultFound, result, rfl, kept⟩ := @member "result" _ (.tail _ (.head _))
  obtain ⟨_, signatureFound, rfl⟩ := @member "signature" _ (.tail _ (.tail _ (.head _)))
  refine ⟨envelope, result, loaded, kept, ?_⟩
  obtain ⟨certificatePem, key, encoded, certified, verifies⟩ := honest.certified
  have resultDistinct : ((deployment.result digest request).map Prod.fst).Nodup :=
    resultFields_distinct _ _ _
  have presented : signedResult deployment.root envelope
      = .ok (key, deployment.sign (Json.obj (deployment.result digest request)).dumps,
          .obj result) := by
    simp only [signedResult, certificateFound, encoded, certified, resultFound, signatureFound,
      fromhex_pyHex, bind, Except.bind, pure, Except.pure]
  have agreed : deployment.library.verify key
      (deployment.sign (Json.obj (deployment.result digest request)).dumps)
      (Json.obj result).dumps = true := by
    rw [dumps_perm kept resultDistinct]
    exact verifies _
  have challengeDistinct : ((stringFields (deployment.challengeFields request)).map
      Prod.fst).Nodup := by
    rw [stringFields_keys]
    exact challengeFields_distinct request
  have looked (name : String)
      : getOrNone result name = getOrNone (deployment.result digest request) name := by
    rw [getOrNone, getOrNone, get?_of_perm kept resultDistinct]
  have known (name : String)
      : getOrNone challenge name
        = getOrNone (stringFields (deployment.challengeFields request)) name := by
    rw [getOrNone, getOrNone, get?_of_perm same challengeDistinct]
  have equal (text : PyStr) : (Json.str text).eq (.str text) = true := by simp [Json.eq]
  have accepted : getOrNone (deployment.result digest request) "accepted" = .bool true := rfl
  have id : getOrNone (deployment.result digest request) "challenge_id"
      = .str (pyHex deployment.id.1) := rfl
  have nonce : getOrNone (deployment.result digest request) "nonce"
      = .str (pyHex deployment.nonce.1) := rfl
  have asked : getOrNone (deployment.result digest request) "request"
      = .str (mergePairs request) := rfl
  have idKnown : getOrNone (stringFields (deployment.challengeFields request)) "challenge_id"
      = .str (pyHex deployment.id.1) := rfl
  have nonceKnown : getOrNone (stringFields (deployment.challengeFields request)) "nonce"
      = .str (pyHex deployment.nonce.1) := rfl
  simp only [checkEnvelope, presented, bind, Except.bind, agreed, if_true, checkResult, looked,
    known, accepted, id, nonce, asked, idKnown, nonceKnown, unmerged, equal, Bool.not_true,
    Bool.false_eq_true, if_false]

end Verify

-----------------------------------------------------------------------------------------
-- Whole runs
-----------------------------------------------------------------------------------------

section Runs

variable {deployment : Deployment VerifierKey} {certificate : PyStr} {digest : FsverityDigest}

/-- A request of scalars that both runtimes escape alike. -/
def Plain (request : PyStr) : Prop :=
  ∃ scalars, request = PyStr.ofChars scalars ∧ ∀ c ∈ scalars, EscapesAgree c

/-- Merging leaves its traces outside of the first plane. -/
theorem mergePairs_eq_of_small {text : PyStr} (small : ∀ c ∈ mergePairs text, c.val < 0x10000)
    : mergePairs text = text := by
  induction text using mergePairs.induct with
  | case1 => rfl
  | case2 c => rfl
  | case3 c d rest pair ih =>
      rw [mergePairs, if_pos pair] at small
      rw [Bool.and_eq_true] at pair
      have range := joinPair_range pair.1 pair.2
      have value := ofNat_code range.2
      have first : (Fin.ofNat 0x110000 (joinPair c.val d.val)).val < 0x10000 := small _ (.head _)
      omega
  | case4 c d rest single ih =>
      rw [mergePairs, if_neg single] at small ⊢
      rw [ih fun other member => small other (.tail _ member)]

theorem escapesAgree_small {c : Char} (agree : EscapesAgree c) : (codePoint c).val < 0xd800 := by
  have value : (codePoint c).val = c.toNat := rfl
  rcases agree with ⟨small, _⟩ | same | same <;> omega

theorem Plain.unmerged {request : PyStr} (plain : Plain request) : mergePairs request = request := by
  obtain ⟨scalars, rfl, agree⟩ := plain
  refine mergePairs_basic fun c member => ?_
  obtain ⟨scalar, inside, rfl⟩ := List.mem_map.mp member
  exact escapesAgree_small (agree scalar inside)

/-- SHA-256 does not collide on the two texts that a run hashes. -/
def Deployment.CollisionFree (deployment : Deployment VerifierKey) (request : PyStr) : Prop :=
  deployment.binding request = deployment.expectedBinding request
  → deployment.inputText request
    = makeRequestBindingInput (mergePairs request) deployment.nonce.1

/-- The two bindings of a run are the same exactly for plain requests. -/
theorem bindings_eq_iff_plain {request : PyStr} (collisionFree : deployment.CollisionFree request)
    : deployment.binding request = deployment.expectedBinding request ↔ Plain request := by
  have inputs : deployment.inputText request
        = makeRequestBindingInput (mergePairs request) deployment.nonce.1
      ↔ (mergePairs request).flatMap pyEscape = (runes (mergePairs request)).map goEscape := by
    rw [Deployment.inputText, requestBinding_layout, makeRequestBinding_layout, hex_escapes_agree]
    constructor
    · intro same
      exact (bindingText_inj same).2.symm
    · intro same
      rw [same]
      rfl
  constructor
  · intro same
    have escapes := inputs.mp (collisionFree same)
    have scalars : PyStr.ofChars (runes (mergePairs request)) = mergePairs request :=
      ofChars_of_escapes_eq escapes.symm
    have agree : ∀ c ∈ runes (mergePairs request), EscapesAgree c := by
      rw [← request_escapes_eq_iff, scalars]
      exact escapes
    have unmerged : mergePairs request = request := by
      refine mergePairs_eq_of_small fun c member => ?_
      rw [← scalars] at member
      obtain ⟨scalar, inside, rfl⟩ := List.mem_map.mp member
      have small := escapesAgree_small (agree scalar inside)
      omega
    exact ⟨runes (mergePairs request), by rw [scalars, unmerged], agree⟩
  · intro plain
    have unmerged := plain.unmerged
    obtain ⟨scalars, rfl, agree⟩ := plain
    have escapes := (request_escapes_eq_iff scalars).mpr agree
    have same : deployment.inputText (PyStr.ofChars scalars)
        = makeRequestBindingInput (mergePairs (PyStr.ofChars scalars)) deployment.nonce.1 := by
      rw [inputs, unmerged, runes_ofChars]
      exact escapes
    exact congrArg Sha256.digest same

theorem round_finished {fate : Fate} {run : HttpRun}
    {outcome : Except ClientError (List (PyStr × Json))}
    (finished : run.session = .finished outcome)
    : deployment.round fate run = run := by
  rw [Deployment.round, finished]

theorem rounds_finished {draws : Nat → Draw} {fates : Nat → Fate} {run : HttpRun}
    {outcome : Except ClientError (List (PyStr × Json))}
    (finished : run.session = .finished outcome) (post count : Nat)
    : deployment.rounds draws fates post count run = run := by
  induction count generalizing post with
  | zero => rfl
  | succ count ih => rw [Deployment.rounds, round_finished finished, ih]

theorem rounds_add (draws : Nat → Draw) (fates : Nat → Fate) (post count more : Nat)
    (run : HttpRun)
    : deployment.rounds draws fates post (count + more) run
      = deployment.rounds draws fates (post + count) more
          (deployment.rounds draws fates post count run) := by
  induction count generalizing post run with
  | zero =>
      rw [Nat.zero_add]
      rfl
  | succ count ih =>
      rw [Nat.succ_add_eq_add_succ, Nat.add_succ, Deployment.rounds, ih, Deployment.rounds,
        Nat.succ_add_eq_add_succ post]

/-- Other draws make the same parties. -/
theorem Deployment.Honest.drawing (honest : deployment.Honest certificate digest) (draw : Draw)
    : (deployment.drawing draw).Honest certificate digest :=
  ⟨honest.kernel, honest.draws, honest.genuine, honest.caller, honest.crypto, honest.policy,
    honest.clientText, honest.verifierText, honest.pem, honest.certified⟩

theorem rounds_drawing (draw : Draw) (draws : Nat → Draw) (fates : Nat → Fate) (post count : Nat)
    (run : HttpRun)
    : (deployment.drawing draw).rounds draws fates post count run
      = deployment.rounds draws fates post count run := by
  induction count generalizing post run with
  | zero => rfl
  | succ count ih => exact ih (post + 1) _

/-- After the challenge nothing is drawn. -/
theorem round_drawing {run : HttpRun} (later : ∀ request attempt, run.session ≠ .challenging request
    attempt) (draw : Draw) (fate : Fate)
    : (deployment.drawing draw).round fate run = deployment.round fate run := by
  obtain ⟨service, thread, session, body⟩ := run
  cases session with
  | challenging request attempt => exact absurd rfl (later request attempt)
  | quoting request challenge => rfl
  | verifying request challenge => rfl
  | finished outcome => rfl

theorem round_quoting_later {fate : Fate} {stored : Service} {thread : Nat} {request : PyStr}
    {challenge : List (PyStr × Json)} {body : Json} (other : PyStr) (attempt : Nat)
    : (deployment.round fate ⟨stored, thread, .quoting request challenge, body⟩).session
      ≠ .challenging other attempt := by
  simp only [Deployment.round]
  cases fate.answered (deployment.quoted body) with
  | failed => exact nofun
  | notJson =>
      simp only [onQuote]
      cases verifyPost challenge .notJson <;> exact nofun
  | json quote =>
      simp only [onQuote]
      cases verifyPost challenge (.json quote) <;> exact nofun

/-- What a run without an answered attempt leaves: the client gave up after five attempts or tries
again, and every challenge that was issued is in the store. The induction is on the attempts.
-/
theorem attempts_failed (honest : deployment.Honest certificate digest) {service : Service}
    {thread : Nat} (fresh : ∀ later, thread ≤ later → service.threads later = none)
    {request : PyStr} {draws : Nat → Draw} {fates : Nat → Fate} {count : Nat} (few : count ≤ 5)
    (failing : ∀ attempt < count, request = [] ∨ fates attempt ≠ .delivered)
    : ∃ left : Service,
        deployment.rounds draws fates 0 count (.start service thread request)
          = failedAttempts left (thread + count) request count
        ∧ left.outstanding
          = deployment.issuedStore draws fates request service.outstanding count
        ∧ left.certificate = service.certificate
        ∧ ∀ later, thread + count ≤ later → left.threads later = none := by
  induction count with
  | zero => exact ⟨service, rfl, rfl, rfl, fresh⟩
  | succ count ih =>
      obtain ⟨left, reached, kept, named, free⟩ :=
        ih (by omega) fun attempt before => failing attempt (by omega)
      have here := free (thread + count) (Nat.le_refl _)
      let drawn := deployment.drawing (draws count)
      have drawnHonest := honest.drawing (draws count)
      rw [rounds_add, reached, Nat.zero_add]
      change ∃ after : Service, drawn.round (fates count)
        (failedAttempts left (thread + count) request count) = _ ∧ _
      -- what the attempt leaves, and why the client gets nothing from it
      have proceed : ∀ after : Service,
          (fates count).reached left
              (drawn.challenged left (thread + count) (.obj [(py "request", .str request)]))
            = after
          → (fates count).answered (drawn.answer after (thread + count)) = .failed
          → after.outstanding
            = deployment.issuedStore draws fates request service.outstanding (count + 1)
          → after.certificate = left.certificate
          → (∀ later, later ≠ thread + count → after.threads later = left.threads later)
          → ∃ after : Service,
              drawn.round (fates count) (failedAttempts left (thread + count) request count)
                = failedAttempts after (thread + (count + 1)) request (count + 1)
              ∧ after.outstanding
                = deployment.issuedStore draws fates request service.outstanding (count + 1)
              ∧ after.certificate = service.certificate
              ∧ ∀ later, thread + (count + 1) ≤ later → after.threads later = none := by
        intro after arrived failed stored certified others
        refine ⟨after, round_failed (by omega) arrived failed, stored, certified.trans named, ?_⟩
        intro later beyond
        rw [others later (by omega)]
        exact free later (by omega)
      by_cases empty : request = []
      · have unchanged : deployment.issuedStore draws fates request service.outstanding (count + 1)
            = left.outstanding := by
          rw [Deployment.issuedStore, kept]
          exact if_pos (.inl empty)
        subst empty
        cases fate : fates count with
        | requestLost =>
            rw [fate] at proceed
            exact proceed left rfl rfl unchanged.symm rfl fun _ _ => rfl
        | delivered =>
            rw [fate] at proceed
            refine proceed _ (challenged_refuses drawnHonest here) ?_ unchanged.symm rfl ?_
            · simp [Fate.answered, Deployment.answer, Service.respond, Deployment.successBody]
            · exact fun later different => Function.update_of_ne different _ _
        | replyLost =>
            rw [fate] at proceed
            refine proceed _ (challenged_refuses drawnHonest here) rfl unchanged.symm rfl ?_
            exact fun later different => Function.update_of_ne different _ _
      · cases fate : fates count with
        | delivered => exact absurd fate ((failing count (by omega)).resolve_left empty)
        | requestLost =>
            rw [fate] at proceed
            refine proceed left rfl rfl ?_ rfl fun _ _ => rfl
            rw [Deployment.issuedStore, kept]
            exact (if_pos (.inr fate)).symm
        | replyLost =>
            rw [fate] at proceed
            refine proceed _ (challenged_issues drawnHonest here empty) rfl ?_ rfl ?_
            · have stays : ¬ (request = [] ∨ fates count = .requestLost) := by
                rw [fate]
                exact not_or.mpr ⟨empty, Fate.noConfusion⟩
              rw [Deployment.issuedStore, if_neg stays, ← kept]
              rfl
            · exact fun later different => Function.update_of_ne different _ _

/-- The rest of a run that holds a challenge: whether the client accepts, and what the store keeps.
Without a quote nothing is consumed; with one the Verifier consumes the challenge as soon as the
request reaches it, also if the result is lost on the way back.
-/
structure Decided (deployment : Deployment VerifierKey) (digest : FsverityDigest) (request : PyStr)
    (quoting verifying : Fate) (store : PyStr → Option Challenge) (final : HttpRun) : Prop where
  accepted
    : quoting = .delivered ∧ deployment.Quotes request ∧ verifying = .delivered ∧ Plain request
      → ∃ result : List (PyStr × Json),
          result.Perm (deployment.result digest request) ∧ final.session = .finished (.ok result)
  failed
    : ¬ (quoting = .delivered ∧ deployment.Quotes request ∧ verifying = .delivered
        ∧ Plain request)
      → final.session = .finished (.error .requestFailed)
  consumed
    : quoting = .delivered ∧ deployment.Quotes request ∧ verifying ≠ .requestLost
      → final.service.outstanding = Function.update store (pyHex deployment.id.1) none
  kept
    : ¬ (quoting = .delivered ∧ deployment.Quotes request ∧ verifying ≠ .requestLost)
      → final.service.outstanding = store

/-- Without a quote the client stops. -/
theorem decided_unquoted (honest : deployment.Honest certificate digest) {stored : Service}
    {thread : Nat} {request : PyStr} (nonempty : request ≠ []) {challenge : List (PyStr × Json)}
    {quoting verifying : Fate}
    (refused : ¬ (quoting = .delivered ∧ deployment.Quotes request))
    : ∃ final,
        deployment.round quoting
            ⟨stored, thread, .quoting request challenge, deployment.quoteBody request⟩
          = final
        ∧ final.session = .finished (.error .requestFailed)
        ∧ Decided deployment digest request quoting verifying stored.outstanding final := by
  have failed : quoting.answered (deployment.quoted (deployment.quoteBody request)) = .failed := by
    by_cases delivered : quoting = .delivered
    · rw [quoted_failed honest nonempty fun quotes => refused ⟨delivered, quotes⟩]
      exact ite_self _
    · exact if_neg delivered
  refine ⟨_, rfl, ?_, ?_⟩
  · simp only [Deployment.round, failed, onQuote]
  · simp only [Deployment.round, failed, onQuote]
    exact ⟨fun all => absurd ⟨all.1, all.2.1⟩ refused, fun _ => rfl,
      fun all => absurd ⟨all.1, all.2.1⟩ refused, fun _ => rfl⟩

/-- The client posts the quote that it gets to the Verifier. -/
theorem round_quoted (honest : deployment.Honest certificate digest) {stored : Service}
    {thread : Nat} {request : PyStr} (nonempty : request ≠ []) {challenge : List (PyStr × Json)}
    (same : challenge.Perm (stringFields (deployment.challengeFields request)))
    (quotes : deployment.Quotes request)
    : ∃ r s quote,
        ecdsaSign deployment.kernel deployment.calls
            (digest.digest ++ expectedUserData (deployment.binding request))
            deployment.keyPair.secret deployment.keyPair.curveN
          = .ok (r, s)
        ∧ quote.Perm
            (stringFields (deployment.quoteFields digest (deployment.binding request) r s))
        ∧ deployment.round .delivered
            ⟨stored, thread, .quoting request challenge, deployment.quoteBody request⟩
          = ⟨stored, thread, .verifying request challenge,
              .obj (deployment.verifyFields request quote)⟩ := by
  obtain ⟨r, s, quote, signed, sent, answered⟩ := quoted_json honest nonempty quotes
  have returned : Fate.delivered.answered (deployment.quoted (deployment.quoteBody request))
      = .json (.obj quote) := answered
  refine ⟨r, s, quote, signed, sent, ?_⟩
  simp only [Deployment.round, returned, onQuote, verifyPost_challenge same, postedBody]

/-- With a quote the fate of the last exchange and the two bindings decide. -/
theorem decided_quoted (honest : deployment.Honest certificate digest) {stored : Service}
    (named : stored.certificate = certificate) {thread : Nat}
    (free : stored.threads thread = none) {request : PyStr} (nonempty : request ≠ [])
    (issued : stored.outstanding (pyHex deployment.id.1) = some (deployment.issued request))
    {challenge : List (PyStr × Json)}
    (same : challenge.Perm (stringFields (deployment.challengeFields request)))
    (collisionFree : deployment.CollisionFree request) (quotes : deployment.Quotes request)
    (verifying : Fate)
    : ∃ final outcome,
        deployment.round verifying (deployment.round .delivered
            ⟨stored, thread, .quoting request challenge, deployment.quoteBody request⟩)
          = final
        ∧ final.session = .finished outcome
        ∧ Decided deployment digest request .delivered verifying stored.outstanding final := by
  obtain ⟨r, s, quote, signed, sent, second⟩ :=
    @round_quoted _ _ _ _ honest stored thread request nonempty challenge same quotes
  have consumed := @verified_consumes _ deployment certificate digest honest stored named thread
    free request issued r s signed quote sent
  rw [second]
  cases verifying with
  | requestLost =>
      refine ⟨_, .error .requestFailed, rfl, rfl, ?_, fun _ => rfl, fun all => absurd rfl all.2.2,
        fun _ => rfl⟩
      rintro ⟨_, _, impossible, _⟩
      cases impossible
  | replyLost =>
      have store : (deployment.round .replyLost ⟨stored, thread, .verifying request challenge,
          .obj (deployment.verifyFields request quote)⟩).service.outstanding
          = Function.update stored.outstanding (pyHex deployment.id.1) none := by
        change (deployment.verified stored thread _).outstanding = _
        rw [consumed]
      refine ⟨_, .error .requestFailed, rfl, rfl, ?_, fun _ => rfl, fun _ => store, ?_⟩
      · rintro ⟨_, _, impossible, _⟩
        cases impossible
      · intro missing
        exact absurd ⟨rfl, quotes, by decide⟩ missing
  | delivered =>
      let final := deployment.round .delivered ⟨stored, thread, .verifying request challenge,
        .obj (deployment.verifyFields request quote)⟩
      have reply : final.session = (onResult deployment.root deployment.library 0 request challenge
          (deployment.answer (deployment.verified stored thread
            (.obj (deployment.verifyFields request quote))) thread)).1 := rfl
      have store : final.service.outstanding
          = Function.update stored.outstanding (pyHex deployment.id.1) none := by
        change (deployment.verified stored thread _).outstanding = _
        rw [consumed]
      have accepts (plain : Plain request)
          : ∃ result : List (PyStr × Json),
              result.Perm (deployment.result digest request)
              ∧ final.session = .finished (.ok result) := by
        obtain ⟨envelope, result, loaded, kept, accepted⟩ :=
          envelope_accepted honest plain.unmerged same
        have agree := (bindings_eq_iff_plain collisionFree).mpr plain
        refine ⟨result, kept, ?_⟩
        rw [reply, consumed]
        simp only [Deployment.answer, Function.update_self, Deployment.verdictResponse,
          if_pos agree, Deployment.successBody, Deployment.replyOf, loaded, onResult, accepted]
      have rejects (special : ¬ Plain request)
          : final.session = .finished (.error .requestFailed) := by
        have differ := mt (bindings_eq_iff_plain collisionFree).mp special
        rw [reply, consumed]
        simp only [Deployment.answer, Function.update_self, Deployment.verdictResponse,
          if_neg differ, Deployment.successBody, onResult]
      have decided : Decided deployment digest request .delivered .delivered stored.outstanding
          final := by
        refine ⟨fun all => accepts all.2.2.2, fun other => rejects fun plain => ?_, fun _ => store,
          fun missing => absurd ⟨rfl, quotes, by decide⟩ missing⟩
        exact other ⟨rfl, quotes, rfl, plain⟩
      by_cases plain : Plain request
      · obtain ⟨result, _, finished⟩ := accepts plain
        exact ⟨final, _, rfl, finished, decided⟩
      · exact ⟨final, _, rfl, rejects plain, decided⟩

/-- The rest of a run that holds a challenge is decided by the next two exchanges. -/
theorem rounds_decided (honest : deployment.Honest certificate digest) {stored : Service}
    (named : stored.certificate = certificate) {thread : Nat}
    (free : stored.threads thread = none) {request : PyStr} (nonempty : request ≠ [])
    (issued : stored.outstanding (pyHex deployment.id.1) = some (deployment.issued request))
    {challenge : List (PyStr × Json)}
    (same : challenge.Perm (stringFields (deployment.challengeFields request)))
    (collisionFree : deployment.CollisionFree request) (draws : Nat → Draw) (fates : Nat → Fate)
    (post count : Nat)
    : Decided deployment digest request (fates post) (fates (post + 1)) stored.outstanding
        (deployment.rounds draws fates post (count + 2)
          ⟨stored, thread, .quoting request challenge, deployment.quoteBody request⟩) := by
  have later : ∀ other attempt, Session.quoting request challenge ≠ .challenging other attempt := by
    intro other attempt same
    cases same
  rw [Deployment.rounds, round_drawing later]
  by_cases quoted : fates post = .delivered ∧ deployment.Quotes request
  · obtain ⟨delivered, quotes⟩ := quoted
    obtain ⟨final, outcome, reached, finished, decided⟩ := decided_quoted honest named free nonempty
      issued same collisionFree quotes (fates (post + 1))
    rw [Deployment.rounds, round_drawing round_quoting_later, delivered, reached,
      rounds_finished finished]
    exact decided
  · obtain ⟨final, reached, finished, decided⟩ :=
      @decided_unquoted _ _ _ _ honest stored thread request nonempty challenge _
        (fates (post + 1)) quoted
    rw [reached, rounds_finished finished]
    exact decided

/-- A run over a network that loses requests and replies is decided by what it loses and by the
request. The first of five attempts whose challenge comes back carries the run; if there is none,
or the request is empty, the run fails. After it the client accepts exactly if the quote and the
result come back too, the Attester can quote, and Go and Python escape the request alike; it then
holds the result that the Verifier signed for this request and this attempt's nonce. Any other run
ends with a failed request. Every challenge that was issued stays in the store but the one of the
carrying attempt, and that one is consumed as soon as a quote for it reaches the Verifier. SHA-256
is assumed not to collide on the two binding inputs of an attempt.
-/
theorem lossy_run_decided (honest : deployment.Honest certificate digest) {service : Service}
    (named : service.certificate = certificate) {thread : Nat}
    (fresh : ∀ later, thread ≤ later → service.threads later = none) (request : PyStr)
    (draws : Nat → Draw) (fates : Nat → Fate)
    (collisionFree : ∀ post, (deployment.drawing (draws post)).CollisionFree request)
    : let final := deployment.run draws fates service thread request
      let store := deployment.issuedStore draws fates request service.outstanding
      (request = [] ∨ (∀ attempt < 5, fates attempt ≠ .delivered)
        → final.session = .finished (.error .requestFailed)
          ∧ final.service.outstanding = store 5)
      ∧ ∀ attempt < 5,
          request ≠ []
          → (∀ earlier < attempt, fates earlier ≠ .delivered)
          → fates attempt = .delivered
          → Decided (deployment.drawing (draws attempt)) digest request (fates (attempt + 1))
              (fates (attempt + 2)) (store (attempt + 1)) final := by
  intro final store
  constructor
  · intro never
    obtain ⟨left, reached, kept, _⟩ := @attempts_failed _ _ _ _ honest service thread fresh request
      draws fates 5 (Nat.le_refl _) fun attempt early =>
        never.imp_right fun undelivered => undelivered attempt early
    have finished : (failedAttempts left (thread + 5) request 5).session
        = .finished (.error .requestFailed) := rfl
    have whole : final = failedAttempts left (thread + 5) request 5 := by
      change deployment.rounds draws fates 0 (5 + 2) _ = _
      rw [rounds_add, reached, rounds_finished finished]
    rw [whole]
    exact ⟨finished, kept⟩
  · intro attempt early nonempty earlier delivered
    obtain ⟨left, reached, kept, certified, free⟩ := @attempts_failed _ _ _ _ honest service thread
      fresh request draws fates attempt (by omega) fun before lost => .inr (earlier before lost)
    let drawn := deployment.drawing (draws attempt)
    obtain ⟨challenge, same, answered⟩ := @round_challenge _ drawn certificate digest
      (honest.drawing (draws attempt)) left (thread + attempt) attempt
      (free _ (Nat.le_refl _)) request nonempty
    have waiting : failedAttempts left (thread + attempt) request attempt
        = ⟨left, thread + attempt, .challenging request attempt,
            .obj [(py "request", .str request)]⟩ := by
      rw [failedAttempts, if_neg (Nat.ne_of_lt early)]
    let stored := drawn.afterChallenge left (thread + attempt) request
    have storedStore : stored.outstanding = store (attempt + 1) := by
      have stays : ¬ (request = [] ∨ fates attempt = .requestLost) := by
        rw [delivered]
        exact not_or.mpr ⟨nonempty, nofun⟩
      change Function.update left.outstanding _ _ = _
      rw [kept]
      exact (if_neg stays).symm
    have issued : stored.outstanding (pyHex drawn.id.1) = some (drawn.issued request) :=
      Function.update_self _ _ _
    have available : stored.threads (thread + attempt + 1) = none :=
      (Function.update_of_ne (by omega) _ _).trans (free _ (by omega))
    have whole : final
        = drawn.rounds draws fates (attempt + 1) (4 - attempt + 2)
            ⟨stored, thread + attempt + 1, .quoting request challenge,
              drawn.quoteBody request⟩ := by
      have split : 7 = attempt + (1 + (4 - attempt + 2)) := by omega
      change deployment.rounds draws fates 0 7 _ = _
      rw [split, rounds_add, reached, rounds_add, Nat.zero_add, waiting]
      change deployment.rounds draws fates (attempt + 1) (4 - attempt + 2)
        (drawn.round (fates attempt) _) = _
      rw [delivered, answered, rounds_drawing]
      rfl
    rw [whole, ← storedStore]
    have certificateKept : stored.certificate = certificate := certified.trans named
    exact rounds_decided (honest.drawing (draws attempt)) certificateKept available nonempty
      issued same (collisionFree attempt) draws fates (attempt + 1) (4 - attempt)

/-- The parties of the sample run: the Verifier's library knows the signatures that its key makes. -/
noncomputable def sampleDeployment : Deployment Bytes where
  kernel := Kernel.reference
  calls _ := KeyCalls.one
  keyPair := keyPairOne
  task := taskThrees
  keyAddress := 4096
  requestAddress := 8192
  describe _ _ := .new "invalid body"
  errorText _ := []
  crypto := documentedCryptography
  files := filesThrees
  nonce := sampleNonce
  id := sampleId
  sign message := Der.pair 1 (ByteDigits.beValue (Sha256.digest message))
  root :=
    { opensslVerify pem := decide (pem = ascii "certificate")
      subject := some (ascii "root")
      loadCertificate pem :=
        if pem = ascii "certificate" then some ⟨ascii "root", some [1]⟩ else none }
  library :=
    { fromEncodedPoint := some
      verify key signature message :=
        decide (key = [1]
          ∧ signature = Der.pair 1 (ByteDigits.beValue (Sha256.digest message))) }
  numbers _ := none
  clientText value := asText value.dumps
  verifierText value := asText value.dumps

theorem sampleDeployment_honest
    : sampleDeployment.Honest (py "certificate")
        ⟨32, taskThrees.fsverityGetDigest.2, by decide, by decide⟩ where
  kernel := Kernel.reference_documented
  draws _ := KeyCalls.one_documented
  genuine := keyPairOne_genuine
  caller := rfl
  crypto := documentedCryptography_documented
  policy := filesThrees_policy
  clientText := written_dumps
  verifierText value :=
    ⟨asText value.dumps, [], (List.append_nil _).symm, written_dumps value, blank_nil⟩
  pem := by decide
  certified := by
    refine ⟨ascii "certificate", [1], by decide, by decide, ?_⟩
    intro message
    simp [sampleDeployment]

/-- The first challenge is lost on its way back, and the second attempt carries the run. -/
def sampleFates : Nat → Fate
  | 0 => .replyLost
  | _ => .delivered

def sampleDraws (post : Nat) : Draw :=
  (sampleNonce, ⟨List.replicate 15 0x22 ++ [UInt8.ofNat post], by simp⟩)

theorem lossy_run_decided_sample
    : ∃ result,
        (sampleDeployment.run sampleDraws sampleFates (Service.initial (py "certificate")) 0
          (py "r")).session
        = .finished (.ok result) := by
  have quotes : (sampleDeployment.drawing (sampleDraws 1)).Quotes (py "r") :=
    ⟨by decide +kernel, 0, by decide +kernel⟩
  have plain : Plain (py "r") := ⟨['r'], rfl, List.forall_mem_singleton.mpr (by decide)⟩
  have collisionFree : ∀ post, (sampleDeployment.drawing (sampleDraws post)).CollisionFree
      (py "r") := by
    intro post _
    change sampleDeployment.inputText (py "r")
      = makeRequestBindingInput (mergePairs (py "r")) (List.replicate 32 0x11)
    decide +kernel
  obtain ⟨_, carried⟩ := @lossy_run_decided _ sampleDeployment _ _ sampleDeployment_honest
    (Service.initial (py "certificate")) rfl 0 (fun _ _ => rfl) (py "r") sampleDraws sampleFates
    collisionFree
  have decided := carried 1 (by decide) (by decide) (by decide) rfl
  obtain ⟨result, _, finished⟩ := decided.accepted ⟨rfl, quotes, rfl, plain⟩
  exact ⟨result, finished⟩

end Runs

end Tarako.Protocol
