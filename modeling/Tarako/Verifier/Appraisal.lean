import Tarako.Verifier.RequestBinding

/-! The Verifier's appraisal policy and its check of a Tarako Quote. -/

namespace Tarako.Verifier

open Lang

/-- The public keys of the `cryptography` package: SEC1 decoding for P-256, and ECDSA
verification with SHA-256 of a DER signature over a message.
-/
structure Cryptography (PublicKey : Type) where
  fromEncodedPoint : Bytes → Option PublicKey
  verify : PublicKey → Bytes → Bytes → Bool

/-- What the `try` block of `verify` catches: errors raised by the service with their text,
and those of the Python operations it uses.
-/
inductive AppraisalError
  | value (text : String)
  | missingKey (name : String)
  | notText
  | notHex
  | unreadable (file : String)
  | notPoint
  | invalidSignature
deriving DecidableEq

/-- The policy directory: the text of `approved-digest` and the bytes of `trusted-tak.bin`,
where they can be read.
-/
structure PolicyFiles where
  approvedDigest : Option PyStr
  trustedTak : Option Bytes
deriving DecidableEq

/-- `str.isspace` of one code point. -/
def isSpace (c : CodePoint) : Bool :=
  decide (c.val ∈ [0x20, 0x85, 0xa0, 0x1680, 0x2028, 0x2029, 0x202f, 0x205f, 0x3000])
    || (9 ≤ c.val && c.val ≤ 13)
    || (0x1c ≤ c.val && c.val ≤ 0x1f)
    || (0x2000 ≤ c.val && c.val ≤ 0x200a)

/-- `str.strip`. -/
def strip (text : PyStr) : PyStr :=
  ((text.dropWhile isSpace).reverse.dropWhile isSpace).reverse

structure AppraisalPolicy (PublicKey : Type) where
  digest : Bytes
  publicKeyBytes : Bytes
  publicKey : PublicKey
deriving DecidableEq

variable {PublicKey : Type}

/-- `bytes.fromhex` as a step that may raise. -/
def fromhexOrRaise (text : PyStr) : Except AppraisalError Bytes :=
  match fromhex text with
  | some bytes => .ok bytes
  | none => .error .notHex

/-- `load_appraisal_policy`. -/
def loadAppraisalPolicy (crypto : Cryptography PublicKey) (files : PolicyFiles)
    : Except AppraisalError (AppraisalPolicy PublicKey) :=
  match files.approvedDigest with
  | none => .error (.unreadable "approved-digest")
  | some text => do
      let digest ← fromhexOrRaise (strip text)
      match files.trustedTak with
      | none => .error (.unreadable "trusted-tak.bin")
      | some publicKeyBytes =>
          match crypto.fromEncodedPoint publicKeyBytes with
          | none => .error .notPoint
          | some publicKey => pure ⟨digest, publicKeyBytes, publicKey⟩

/-- Subscription of a decoded object. -/
def item (fields : List (PyStr × Json)) (name : String) : Except AppraisalError Json :=
  match Json.get? fields name with
  | some value => .ok value
  | none => .error (.missingKey name)

/-- `bytes.fromhex` of a decoded value. -/
def hexItem (fields : List (PyStr × Json)) (name : String) : Except AppraisalError Bytes := do
  match ← item fields name with
  | .str text => fromhexOrRaise text
  | _ => .error .notText

/-- `binding + bytes(USER_DATA_BYTES - len(binding))`. -/
def expectedUserData (binding : Bytes) : Bytes :=
  binding ++ List.replicate (userDataBytes - binding.length) 0

/-- The signature, the message and its hash as `verify_tarako_quote` hands them to the
trusted key: every check before the last.
-/
def checkedQuote (quote : List (PyStr × Json)) (binding digest trustedKeyBytes : Bytes)
    : Except AppraisalError (Bytes × Bytes × PyStr) := do
  let responseUserData ← hexItem quote "user_data"
  if responseUserData ≠ expectedUserData binding then
    .error (.value "TQ user data does not contain the expected request binding")
  else
    let quotedKey ← hexItem quote "public_key"
    if quotedKey ≠ trustedKeyBytes then
      .error (.value "TQ public key does not match the provisioned TAKpub")
    else
      let message := digest ++ expectedUserData binding
      let expectedHash := pyHex (Sha256.digest message)
      let hash ← item quote "hash"
      if !hash.eq (.str expectedHash) then
        .error (.value "TQ message hash does not match D || U")
      else
        let signatureDer ← hexItem quote "signature_der"
        pure (signatureDer, message, expectedHash)

/-- `verify_tarako_quote`. -/
def verifyTarakoQuote (crypto : Cryptography PublicKey) (quote : List (PyStr × Json))
    (binding : Bytes) (policy : AppraisalPolicy PublicKey)
    : Except AppraisalError PyStr := do
  let (signatureDer, message, expectedHash) ←
    checkedQuote quote binding policy.digest policy.publicKeyBytes
  if crypto.verify policy.publicKey signatureDer message then
    pure expectedHash
  else
    .error .invalidSignature

/-- The trusted key of a loaded policy is the decoded key file. -/
theorem loadAppraisalPolicy_key {crypto : Cryptography PublicKey}
    {files : PolicyFiles} {policy : AppraisalPolicy PublicKey}
    (loaded : loadAppraisalPolicy crypto files = .ok policy)
    : crypto.fromEncodedPoint policy.publicKeyBytes = some policy.publicKey := by
  unfold loadAppraisalPolicy at loaded
  split at loaded
  · cases loaded
  · obtain ⟨digest, _, loaded⟩ := bind_eq_ok.mp loaded
    split at loaded
    · cases loaded
    · split at loaded
      · cases loaded
      · next decoded =>
          cases loaded
          exact decoded

/-- The message handed to the trusted key is the approved digest followed by the padded
binding, and the hash is of that message.
-/
theorem checkedQuote_ok {quote : List (PyStr × Json)} {binding digest trustedKeyBytes : Bytes}
    {checked : Bytes × Bytes × PyStr}
    (passed : checkedQuote quote binding digest trustedKeyBytes = .ok checked)
    : checked.2.1 = digest ++ expectedUserData binding
      ∧ checked.2.2 = pyHex (Sha256.digest (digest ++ expectedUserData binding)) := by
  obtain ⟨userData, _, passed⟩ := bind_eq_ok.mp passed
  split at passed
  · cases passed
  · obtain ⟨quotedKey, _, passed⟩ := bind_eq_ok.mp passed
    split at passed
    · cases passed
    · obtain ⟨hash, _, passed⟩ := bind_eq_ok.mp passed
      split at passed
      · cases passed
      · obtain ⟨signatureDer, _, passed⟩ := bind_eq_ok.mp passed
        cases passed
        exact ⟨rfl, rfl⟩

end Tarako.Verifier
