import Tarako.Library.AppliedPi

/-! The symbolic model of Tarako establishment followed by cached attestations: free names,
constructors, the signature destructor, and events. Types are ignored, so the attacker may also
send terms that the source's types exclude.
-/

namespace Tarako.Symbolic

open AppliedPi

-----------------------------------------------------------------------------------------
-- Terms
-----------------------------------------------------------------------------------------

/-- The free names of the model. -/
inductive FreeName
  | network
  | tdxAttestationKey
  | tdxVerifierKey
  | imaVerifierKey
  | tarakoSigningKey
  | relyingVerifierKey
  | approvedTaDigest
  | unapprovedTaDigest
  | approvedTdxMeasurement
  | approvedImaPolicyState
  | unapprovedImaPolicyState
deriving DecidableEq, Repr

/-- The names declared `[private]`: the genuine evidence keys and appraisal-result keys. -/
def FreeName.isPrivate : FreeName → Bool
  | tdxAttestationKey => true
  | tdxVerifierKey => true
  | imaVerifierKey => true
  | tarakoSigningKey => true
  | relyingVerifierKey => true
  | _ => false

/-- Constructors declared `[data]`, by the number of their arguments. -/
inductive Unary
  | verificationRequest
  | tdxRequest
  | tdxAppraisalRequest
  | imaRequest
  | tarakoRequest
  | untrustedTarakoRequest
  | imaKeyEntry
  | rtmrWithIma
deriving DecidableEq, Repr

inductive Binary
  | sessionContext
  | requestContext
  | imaAppraisalRequest
  | tarakoClaim
  | integrityVerdict
deriving DecidableEq, Repr

inductive Ternary
  | tdxClaim
  | tdxAppraisalAnswer
  | imaEvidence
  | imaAppraisalAnswer
deriving DecidableEq, Repr

/-- Terms are free: distinct constructors give distinct terms. -/
inductive Term
  | name (name : Nat)
  | free (name : FreeName)
  | publicKey (key : Term)
  | sign (message key : Term)
  | hash (message : Term)
  | imaRoot (key state : Term)
  | unary (constructor : Unary) (argument : Term)
  | binary (constructor : Binary) (first second : Term)
  | ternary (constructor : Ternary) (first second third : Term)
deriving DecidableEq, Repr

namespace Term

@[match_pattern]
abbrev verificationRequest (request : Term) : Term :=
  .unary .verificationRequest request

@[match_pattern]
abbrev sessionContext (sessionId nonce : Term) : Term :=
  .binary .sessionContext sessionId nonce

@[match_pattern]
abbrev requestContext (request nonce : Term) : Term :=
  .binary .requestContext request nonce

@[match_pattern]
abbrev tdxRequest (challenge : Term) : Term :=
  .unary .tdxRequest challenge

@[match_pattern]
abbrev tdxClaim (challenge measurement rtmr : Term) : Term :=
  .ternary .tdxClaim challenge measurement rtmr

@[match_pattern]
abbrev tdxAppraisalRequest (quote : Term) : Term :=
  .unary .tdxAppraisalRequest quote

@[match_pattern]
abbrev tdxAppraisalAnswer (quoteBinding challenge rtmr : Term) : Term :=
  .ternary .tdxAppraisalAnswer quoteBinding challenge rtmr

@[match_pattern]
abbrev imaRequest (tdxAnswerBinding : Term) : Term :=
  .unary .imaRequest tdxAnswerBinding

@[match_pattern]
abbrev imaEvidence (tdxAnswerBinding root key : Term) : Term :=
  .ternary .imaEvidence tdxAnswerBinding root key

@[match_pattern]
abbrev imaAppraisalRequest (tdxAnswer evidence : Term) : Term :=
  .binary .imaAppraisalRequest tdxAnswer evidence

@[match_pattern]
abbrev imaAppraisalAnswer (tdxAnswerBinding evidenceBinding key : Term) : Term :=
  .ternary .imaAppraisalAnswer tdxAnswerBinding evidenceBinding key

@[match_pattern]
abbrev tarakoRequest (requestBinding : Term) : Term :=
  .unary .tarakoRequest requestBinding

@[match_pattern]
abbrev untrustedTarakoRequest (requestBinding : Term) : Term :=
  .unary .untrustedTarakoRequest requestBinding

@[match_pattern]
abbrev tarakoClaim (requestBinding digest : Term) : Term :=
  .binary .tarakoClaim requestBinding digest

@[match_pattern]
abbrev integrityVerdict (request digest : Term) : Term :=
  .binary .integrityVerdict request digest

@[match_pattern]
abbrev imaKeyEntry (key : Term) : Term :=
  .unary .imaKeyEntry key

@[match_pattern]
abbrev rtmrWithIma (root : Term) : Term :=
  .unary .rtmrWithIma root

/-- The destructor `verify`: the message, if the term is a signature under the public key. -/
def verify (signature key : Term) : Option Term :=
  match signature, key with
  | .sign message signer, .publicKey owner => if signer = owner then some message else none
  | _, _ => none

/-- The arguments of a data constructor. -/
def arguments : Term → List Term
  | .unary _ argument => [argument]
  | .binary _ first second => [first, second]
  | .ternary _ first second third => [first, second, third]
  | _ => []

/-- A verified term is a signature of the message. -/
theorem verify_eq_some {signature key message : Term}
    : verify signature (.publicKey key) = some message ↔ signature = .sign message key := by
  constructor
  · intro verified
    cases signature with
    | sign signed signer =>
        simp only [verify] at verified
        split at verified
        · next same =>
            rw [same, Option.some.inj verified]
        · cases verified
    | _ => cases verified
  · rintro rfl
    simp [verify]

end Term

/-- What the attacker can apply: public names, constructors, the projections of data
constructors, and `verify`.
-/
inductive Op
  | free (name : FreeName)
  | publicKey
  | sign
  | hash
  | imaRoot
  | unary (constructor : Unary)
  | binary (constructor : Binary)
  | ternary (constructor : Ternary)
  | argument (index : Nat)
  | verify
deriving DecidableEq, Repr

def Op.apply : Op → List Term → Option Term
  | .free name, [] => if name.isPrivate then none else some (.free name)
  | .publicKey, [key] => some (.publicKey key)
  | .sign, [message, key] => some (.sign message key)
  | .hash, [message] => some (.hash message)
  | .imaRoot, [key, state] => some (.imaRoot key state)
  | .unary constructor, [term] => some (.unary constructor term)
  | .binary constructor, [first, second] => some (.binary constructor first second)
  | .ternary constructor, [first, second, third] =>
      some (.ternary constructor first second third)
  | .argument index, [term] => term.arguments[index]?
  | .verify, [signature, key] => signature.verify key
  | _, _ => none

/-- The attacker's algebra. -/
def algebra : Algebra Term Op :=
  ⟨.name, Op.apply⟩

-----------------------------------------------------------------------------------------
-- Roles and events
-----------------------------------------------------------------------------------------

inductive Role
  | tdxQuotingEntity
  | tdxOpaqueVerifier
  | imaLogEntity
  | imaOpaqueVerifier
  | tarakoEntity
  | untrustedCaller
  | relyingVerifier
  | client
deriving DecidableEq, Repr

/-- The instance of `RelyingVerifier` that raises an event, by its variables: the two names it
generated and the key it verifies with.
-/
structure Session where
  sessionId : Nat
  verifierNonce : Nat
  tarakoPublicKey : Term
deriving DecidableEq, Repr

/-- The challenge of an instance. -/
def Session.tdxChallenge (session : Session) : Term :=
  .hash (.sessionContext (.name session.sessionId) (.name session.verifierNonce))

/-- The events of the model. A `TarakoQuoteAccepted` also carries the instance that raises it,
which the source leaves implicit.
-/
inductive Event
  | tdxQuoteIssued (challenge measurement rtmr : Term)
  | tdxQuoteVerified (challenge measurement rtmr : Term)
  | tdxAnswerIssued (answerBinding quoteBinding challenge rtmr : Term)
  | tdxAnswerAccepted (answerBinding quoteBinding challenge rtmr : Term)
  | imaLogCommitted (root key : Term)
  | imaEvidenceVerified (tdxAnswerBinding root key : Term)
  | imaAnswerIssued (answerBinding tdxAnswerBinding evidenceBinding key : Term)
  | imaAnswerAccepted (answerBinding tdxAnswerBinding evidenceBinding key : Term)
  | tarakoQuoteIssued (binding digest : Term)
  | tarakoQuoteAccepted (session : Session) (cache binding digest : Term)
  | integrityVerdictIssued (request digest : Term)
  | clientAcceptedIntegrity (request digest : Term)
deriving DecidableEq, Repr

abbrev Process :=
  AppliedPi.Process Term (Term × Term) Role Event

abbrev Entry :=
  AppliedPi.Entry Term Role Event

end Tarako.Symbolic
