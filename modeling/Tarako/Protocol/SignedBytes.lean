import Tarako.Client.Session
import Tarako.Lang.FlatObject
import Tarako.Lang.PythonDecoder
import Tarako.Verifier.OneShot

/-! The signed bytes on their way to the client: the Verifier signs the compact text of its
result, the result travels as JSON, and the client writes what it read once more.
-/

namespace Tarako.Protocol

open Lang Verifier Client

variable {PublicKey : Type}

/-- What `verify` hands to `jsonify` with an accepted result. -/
def envelopeFields (certificate : PyStr) (result : List (PyStr × Json)) (signature : PyStr)
    : List (PyStr × Json) :=
  [(py "certificate", .str certificate), (py "result", .obj result), (py "signature", .str signature)]

/-- A value that is written as another one, and is its merged text if that is a string. -/
def WrittenAlike (field : PyStr × Json) (found : Json) : Prop :=
  found.dumps = field.2.dumps ∧ ∀ text, field.2 = .str text → found = .str (mergePairs text)

theorem envelopeFields_distinct (certificate : PyStr) (result : List (PyStr × Json))
    (signature : PyStr)
    : ((envelopeFields certificate result signature).map Prod.fst).Nodup := by
  have keys : (envelopeFields certificate result signature).map Prod.fst
      = ["certificate", "result", "signature"].map py := rfl
  rw [keys]
  decide

/-- An accepting `verify` answers with the result of its appraisal. -/
theorem finish_verified {crypto : Cryptography PublicKey} {service : Service} {thread : Nat}
    {challengeId : PyStr} {expected : Challenge} {body : List (PyStr × Json)} {files : PolicyFiles}
    {signature : Bytes} {certificate signatureText : PyStr} {result : List (PyStr × Json)}
    (responded : (finish crypto service thread challengeId expected body files
      signature).1.threads thread = some (.responded (.verified certificate result signatureText)))
    : ∃ verdict,
        appraise crypto files expected body = .ok verdict
        ∧ result = resultFields challengeId expected verdict
        ∧ signatureText = pyHex signature := by
  unfold finish at responded
  split at responded
  · simp [Service.respond] at responded
  · next verdict passed =>
      simp only [Service.respond, Function.update_self, Option.some.injEq, Thread.responded.injEq,
        Response.verified.injEq] at responded
      exact ⟨verdict, passed, responded.2.1.symm, responded.2.2.symm⟩

/-- Strings and `true` are read as values that are written alike. -/
theorem reads_str_alike (numbers : NumberReader) (key text : PyStr)
    : Reads numbers (.str text) (WrittenAlike (key, .str text)) := by
  refine (reads_str numbers text).imp ?_
  rintro found rfl
  refine ⟨dumps_mergePairs text, ?_⟩
  intro other same
  cases same
  rfl

theorem reads_true_alike (numbers : NumberReader) (key : PyStr)
    : Reads numbers (.bool true) (WrittenAlike (key, .bool true)) := by
  refine (reads_true numbers).imp ?_
  rintro found rfl
  exact ⟨rfl, nofun⟩

section Results

variable (numbers : NumberReader) (challengeId : PyStr) (expected : Challenge) (verdict : Verdict)

theorem resultFields_distinct
    : ((resultFields challengeId expected verdict).map Prod.fst).Nodup := by
  have keys : (resultFields challengeId expected verdict).map Prod.fst
      = ["accepted", "challenge_id", "digest", "kernel_hash", "nonce", "request",
        "request_binding"].map py := rfl
  rw [keys]
  decide

/-- The result inside an envelope is read as an object that is written alike. -/
theorem reads_result_alike (key : PyStr)
    : Reads numbers (.obj (resultFields challengeId expected verdict))
        (WrittenAlike (key, .obj (resultFields challengeId expected verdict))) := by
  have distinct := resultFields_distinct challengeId expected verdict
  have reads : ∀ field ∈ resultFields challengeId expected verdict,
      Reads numbers field.2 (WrittenAlike field) := by
    simp only [resultFields, List.forall_mem_cons]
    exact ⟨reads_true_alike numbers _, reads_str_alike numbers _ _, reads_str_alike numbers _ _,
      reads_str_alike numbers _ _, reads_str_alike numbers _ _, reads_str_alike numbers _ _,
      reads_str_alike numbers _ _, nofun⟩
  have basic : ∀ field ∈ resultFields challengeId expected verdict,
      ∀ c ∈ field.1, c.val < 0xd800 := by
    simp only [resultFields, List.forall_mem_cons]
    exact ⟨py_basic _ (by decide), py_basic _ (by decide), py_basic _ (by decide),
      py_basic _ (by decide), py_basic _ (by decide), py_basic _ (by decide),
      py_basic _ (by decide), nofun⟩
  refine (reads_obj reads basic (List.cons_ne_nil _ _) distinct).imp ?_
  intro found read
  exact ⟨dumps_readObject distinct (fun _ _ _ alike => alike.1) read, nofun⟩

/-- The envelope is read with all its values written alike. -/
theorem reads_envelope (certificate signature : PyStr)
    : Reads numbers
        (.obj (envelopeFields certificate (resultFields challengeId expected verdict) signature))
        (ReadObject WrittenAlike
          (envelopeFields certificate (resultFields challengeId expected verdict) signature)) := by
  refine reads_obj ?_ ?_ (List.cons_ne_nil _ _) ?_
  · simp only [envelopeFields, List.forall_mem_cons]
    exact ⟨reads_str_alike numbers _ _, reads_result_alike numbers challengeId expected verdict _,
      reads_str_alike numbers _ _, nofun⟩
  · simp only [envelopeFields, List.forall_mem_cons]
    exact ⟨py_basic _ (by decide), py_basic _ (by decide), py_basic _ (by decide), nofun⟩
  · exact envelopeFields_distinct ..

end Results

/-- A field of an object that was read. -/
theorem subscript_readObject {good : PyStr × Json → Json → Prop} {fields : List (PyStr × Json)}
    (distinct : (fields.map Prod.fst).Nodup) {found : Json} (read : ReadObject good fields found)
    {name : String} {value : Json} (member : (py name, value) ∈ fields)
    : ∃ received, subscript found name = .ok received ∧ good (py name, value) received := by
  obtain ⟨order, members, rfl, same, values⟩ := read
  have inOrder : order.lookup (py name) = some value :=
    lookup_of_mem ((same.map Prod.fst).nodup_iff.mpr distinct) (same.mem_iff.mpr member)
  obtain ⟨received, looked, isGood⟩ := lookup_members values inOrder
  refine ⟨received, ?_, isGood⟩
  simp only [subscript, Json.get?, looked]

/-- The client re-creates exactly the signed bytes. Whatever the request, the envelope of an
accepted result is read by the client, and what it writes of the result are the bytes that the
Verifier signed. So the check of an unmodified response is a check of the Verifier's signature
over the bytes that it was made for.
-/
theorem client_recreates_signed_bytes {crypto : Cryptography PublicKey} {service : Service}
    {thread : Nat} {challengeId : PyStr} {expected : Challenge} {body : List (PyStr × Json)}
    {files : PolicyFiles} {signature : Bytes} {certificate signatureText : PyStr}
    {result : List (PyStr × Json)}
    (responded : (finish crypto service thread challengeId expected body files
      signature).1.threads thread = some (.responded (.verified certificate result signatureText)))
    (numbers : NumberReader) {text gap : PyStr}
    (sent : Written (.obj (envelopeFields certificate result signatureText)) text)
    (blank : Blank gap)
    : ∃ verdict envelope received,
        appraise crypto files expected body = .ok verdict
        ∧ loads numbers (text ++ gap) = some envelope
        ∧ subscript envelope "result" = .ok received
        ∧ received.dumps = resultBytes challengeId expected verdict
        ∧ ∀ (root : RootCa PublicKey) (library : Cryptography PublicKey) request challenge,
            (∀ key found presented,
              signedResult root envelope = .ok (key, found, presented)
              → library.verify key signature (resultBytes challengeId expected verdict) = true)
            → checkEnvelope root library request challenge envelope
              ≠ .error .invalidSignature := by
  obtain ⟨verdict, passed, rfl, rfl⟩ := finish_verified responded
  have distinct := envelopeFields_distinct certificate (resultFields challengeId expected verdict)
    (pyHex signature)
  have visible : text.head? ≠ some 0xfeff := by
    cases sent
    simp
  obtain ⟨envelope, read, loaded⟩ := loads_written
    (reads_envelope numbers challengeId expected verdict certificate (pyHex signature)) sent visible
    blank
  obtain ⟨received, named, alike⟩ := subscript_readObject distinct read
    (List.Mem.tail (a := (py "result", _)) _ (.head _))
  obtain ⟨signed, signedName, alikeSigned⟩ := subscript_readObject distinct read
    (List.Mem.tail (a := (py "signature", _)) _ (.tail _ (.head _)))
  have signatureRead : signed = .str (pyHex signature) := by
    rw [alikeSigned.2 _ rfl, mergePairs_basic (pyHex_basic signature)]
  have recreated : received.dumps = resultBytes challengeId expected verdict := alike.1
  refine ⟨verdict, envelope, received, passed, loaded, named, recreated, ?_⟩
  intro root library request challenge verifies failed
  rcases bind_eq_error.mp failed with early | ⟨⟨key, found, presented⟩, checked, late⟩
  · exact signedResult_error early rfl
  · have agreed := verifies key found presented checked
    obtain ⟨_, written, _, sameResult, sameSignature, decoded⟩ := signedResult_ok checked
    cases named.symm.trans sameResult
    cases (signedName.symm.trans sameSignature).symm.trans (congrArg _ signatureRead)
    rw [fromhex_pyHex] at decoded
    cases decoded
    dsimp only at late
    rw [recreated, if_pos agreed] at late
    exact checkResult_error late rfl

/-! The Verifier's sample run again, for a request of two raw surrogates that form a pair: the
client reads another string than the one that was signed for.
-/

def pairRequest : PyStr :=
  [⟨0xd83d, by decide⟩, ⟨0xde00, by decide⟩]

def pairSignature : Bytes :=
  Der.pair P256.gx 0xc81549b7c15d38253d9d19f62aa7ecca872b2b2d96983b127a3e488a23f202b0

def pairMessage : Bytes :=
  sampleDigest ++ expectedUserData (makeRequestBinding pairRequest sampleNonce.1)

/-- A library that knows the one signature for the pair. -/
def pairCrypto : Cryptography Bytes where
  fromEncodedPoint := some
  verify key signature message :=
    decide (key = sampleKey ∧ signature = pairSignature ∧ message = pairMessage)

def pairQuote : List (PyStr × Json) :=
  [
    (py "hash", .str (pyHex (Sha256.digest pairMessage))),
    (py "public_key", .str (pyHex sampleKey)),
    (py "signature_der", .str (pyHex pairSignature)),
    (py "user_data", .str (pyHex (expectedUserData (makeRequestBinding pairRequest sampleNonce.1))))
  ]

def pairBody : List (PyStr × Json) :=
  [
    (py "nonce", .str (pyHex sampleNonce.1)), (py "request", .str pairRequest),
    (py "tq", .obj pairQuote)
  ]

def pairChallenge : Challenge :=
  ⟨pyHex sampleNonce.1, pairRequest⟩

theorem pair_accepted
    : ∃ verdict, appraise pairCrypto sampleFiles pairChallenge pairBody = .ok verdict := by
  have evaluated : (appraise pairCrypto sampleFiles pairChallenge pairBody).isOk = true := by
    decide +kernel
  cases passed : appraise pairCrypto sampleFiles pairChallenge pairBody with
  | error error =>
      rw [passed] at evaluated
      cases evaluated
  | ok verdict => exact ⟨verdict, rfl⟩

theorem client_recreates_signed_bytes_pair
    : mergePairs pairRequest ≠ pairRequest
      ∧ ∃ verdict envelope received,
          appraise pairCrypto sampleFiles pairChallenge pairBody = .ok verdict
          ∧ loads (fun _ => none)
              (asText (Json.obj (envelopeFields (py "certificate")
                (resultFields (pyHex sampleId.1) pairChallenge verdict) (pyHex [1]))).dumps
                ++ [0x0a])
            = some envelope
          ∧ subscript envelope "result" = .ok received
          ∧ received.dumps = resultBytes (pyHex sampleId.1) pairChallenge verdict := by
  refine ⟨by decide, ?_⟩
  obtain ⟨verdict, passed⟩ := pair_accepted
  have responded : (finish pairCrypto (Service.initial (py "certificate")) 0 (pyHex sampleId.1)
      pairChallenge pairBody sampleFiles [1]).1.threads 0
      = some (.responded (.verified (py "certificate")
          (resultFields (pyHex sampleId.1) pairChallenge verdict) (pyHex [1]))) := by
    rw [finish, passed]
    rfl
  have blank : Blank [0x0a] := by
    intro c member
    rw [List.mem_singleton.mp member]
    decide
  obtain ⟨found, envelope, received, again, loaded, named, recreated, _⟩ :=
    client_recreates_signed_bytes responded (fun _ => none) (written_dumps _) blank
  cases passed.symm.trans again
  exact ⟨verdict, envelope, received, passed, loaded, named, recreated⟩

end Tarako.Protocol
