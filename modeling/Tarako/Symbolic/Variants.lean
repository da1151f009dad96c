import Tarako.Symbolic.Roles

/-! Variants of the symbolic model, as the negative controls make them: a private key is made
public, a role leaves out a check, or the binding of a cached request is computed from less. A
variant may combine any of these. The source model is the variant without a weakness.
-/

namespace Tarako.Symbolic

open AppliedPi Term

-----------------------------------------------------------------------------------------
-- Variants
-----------------------------------------------------------------------------------------

/-- The checks that a variant may leave out. -/
inductive Check
  | tdxServiceQuoteSignature
  | imaServiceTdxVerifierSignature
  | imaServiceRtmrComparison
  | imaServiceLogMembership
  | relyingVerifierTdxServiceSignature
  | relyingVerifierImaServiceSignature
  | relyingVerifierTarakoSignature
  | relyingVerifierRequestBinding
  | relyingVerifierApprovedDigest
  | clientRelyingVerifierSignature
deriving DecidableEq, Repr

/-- What the binding of a cached request is computed from. -/
inductive BindingInput
  | requestContext
  | imaAnswerBinding
  | verificationRequest
deriving DecidableEq, Repr

structure Variant where
  isPublic : FreeName → Bool
  makes : Check → Bool
  bindingInput : BindingInput

namespace Variant

/-- The model as it stands in the source. -/
def sound : Variant where
  isPublic _ := false
  makes _ := true
  bindingInput := .requestContext

/-- The names that the attacker is not given. -/
def secret (variant : Variant) (name : FreeName) : Bool :=
  name.isPrivate && !variant.isPublic name

/-- The operations of the attacker, who is given the names made public. -/
def apply (variant : Variant) : Op → List Term → Option Term
  | .free value, [] => if variant.secret value then none else some (.free value)
  | op, arguments => op.apply arguments

def algebra (variant : Variant) : Algebra Term Op :=
  ⟨.name, variant.apply⟩

/-- The content of a received message: where the check of its signature is left out, the
message itself.
-/
def content (variant : Variant) (check : Check) (received key : Term) : Option Term :=
  if variant.makes check then verify received key else some received

/-- A comparison that may be left out. -/
def require (variant : Variant) (check : Check) (condition : Prop) [Decidable condition]
    (next : Process) : Process :=
  if variant.makes check then if condition then next else .stop else next

-----------------------------------------------------------------------------------------
-- Roles
-----------------------------------------------------------------------------------------

/-- Opaque TDX verifier. -/
def tdxOpaqueVerifier (variant : Variant) : Process :=
  .replicate <| .input fun
    | .tdxAppraisalRequest receivedQuote =>
        match variant.content .tdxServiceQuoteSignature receivedQuote
            (.publicKey (.free .tdxAttestationKey)) with
        | some (.tdxClaim challenge (.free .approvedTdxMeasurement) quotedRtmr) =>
            .event (.tdxQuoteVerified challenge (.free .approvedTdxMeasurement) quotedRtmr) <|
            let quoteBinding := .hash receivedQuote
            let signedAnswer :=
              .sign (.tdxAppraisalAnswer quoteBinding challenge quotedRtmr)
                (.free .tdxVerifierKey)
            let answerBinding := .hash signedAnswer
            .event (.tdxAnswerIssued answerBinding quoteBinding challenge quotedRtmr) <|
            .output .tdxOpaqueVerifier signedAnswer .stop
        | _ => .stop
    | _ => .stop

/-- The answer of the IMA verifier, after its checks. -/
def imaAnswer (tdxAnswerBinding receivedImaEvidence replayedImaRoot tarakoPublicKey : Term)
    : Process :=
  let evidenceBinding := .hash receivedImaEvidence
  .event (.imaEvidenceVerified tdxAnswerBinding replayedImaRoot tarakoPublicKey) <|
  let signedAnswer :=
    .sign (.imaAppraisalAnswer tdxAnswerBinding evidenceBinding tarakoPublicKey)
      (.free .imaVerifierKey)
  let answerBinding := .hash signedAnswer
  .event (.imaAnswerIssued answerBinding tdxAnswerBinding evidenceBinding tarakoPublicKey) <|
  .output .imaOpaqueVerifier signedAnswer .stop

/-- A lookup in the log that may be left out. -/
def requireLogged (variant : Variant) (replayedImaRoot tarakoPublicKey : Term) (next : Process)
    : Process :=
  if variant.makes .imaServiceLogMembership then
    .get fun row => if row = (replayedImaRoot, .imaKeyEntry tarakoPublicKey) then next else .stop
  else
    next

/-- Opaque IMA verifier. -/
def imaOpaqueVerifier (variant : Variant) : Process :=
  .replicate <| .input fun
    | .imaAppraisalRequest receivedTdxAnswer receivedImaEvidence =>
        match variant.content .imaServiceTdxVerifierSignature receivedTdxAnswer
            (.publicKey (.free .tdxVerifierKey)) with
        | some (.tdxAppraisalAnswer _ _ quotedRtmr) =>
            let tdxAnswerBinding := .hash receivedTdxAnswer
            match receivedImaEvidence with
            | .imaEvidence boundAnswer replayedImaRoot tarakoPublicKey =>
                if boundAnswer = tdxAnswerBinding then
                  variant.require .imaServiceRtmrComparison
                    (quotedRtmr = .rtmrWithIma replayedImaRoot) <|
                  variant.requireLogged replayedImaRoot tarakoPublicKey <|
                  imaAnswer tdxAnswerBinding receivedImaEvidence replayedImaRoot tarakoPublicKey
                else
                  .stop
            | _ => .stop
        | _ => .stop
    | _ => .stop

/-- The binding of a cached request. -/
def requestBinding (variant : Variant) (imaAnswerBinding clientRequest : Term) (requestNonce : Nat)
    : Term :=
  match variant.bindingInput with
  | .requestContext => .hash (.requestContext clientRequest (.name requestNonce))
  | .imaAnswerBinding => imaAnswerBinding
  | .verificationRequest => .hash (.verificationRequest clientRequest)

/-- The verdict of a relying verifier, after its checks. -/
def verdict (session : Session) (imaAnswerBinding requestBinding clientRequest digest : Term)
    : Process :=
  .event (.tarakoQuoteAccepted session imaAnswerBinding requestBinding digest) <|
  .event (.integrityVerdictIssued clientRequest digest) <|
  .output .relyingVerifier
    (.sign (.integrityVerdict clientRequest digest) (.free .relyingVerifierKey))
    .stop

/-- The replicated request handler of a relying verifier. -/
def requestHandler (variant : Variant) (session : Session) (imaAnswerBinding : Term) : Process :=
  .replicate <| .input fun
    | .verificationRequest clientRequest =>
        .new .relyingVerifier fun requestNonce =>
        let requestBinding := variant.requestBinding imaAnswerBinding clientRequest requestNonce
        .output .relyingVerifier (.tarakoRequest requestBinding) <|
        .input fun receivedTarakoQuote =>
        match variant.content .relyingVerifierTarakoSignature receivedTarakoQuote
            session.tarakoPublicKey with
        | some (.tarakoClaim boundRequest measuredTaDigest) =>
            variant.require .relyingVerifierRequestBinding (boundRequest = requestBinding) <|
            variant.require .relyingVerifierApprovedDigest
              (measuredTaDigest = .free .approvedTaDigest) <|
            verdict session imaAnswerBinding requestBinding clientRequest measuredTaDigest
        | _ => .stop
    | _ => .stop

/-- Stage 2 of a relying verifier. -/
def imaAppraisal (variant : Variant) (sessionId verifierNonce : Nat) (receivedTdxAnswer : Term)
    : Process :=
  let tdxAnswerBinding := .hash receivedTdxAnswer
  .output .relyingVerifier (.imaRequest tdxAnswerBinding) <|
  .input fun receivedImaEvidence =>
  .output .relyingVerifier (.imaAppraisalRequest receivedTdxAnswer receivedImaEvidence) <|
  .input fun receivedImaAnswer =>
  match variant.content .relyingVerifierImaServiceSignature receivedImaAnswer
      (.publicKey (.free .imaVerifierKey)) with
  | some (.imaAppraisalAnswer boundAnswer boundEvidence tarakoPublicKey) =>
      if boundAnswer = tdxAnswerBinding ∧ boundEvidence = .hash receivedImaEvidence then
        let imaAnswerBinding := .hash receivedImaAnswer
        .event
          (.imaAnswerAccepted imaAnswerBinding tdxAnswerBinding (.hash receivedImaEvidence)
            tarakoPublicKey) <|
        variant.requestHandler ⟨sessionId, verifierNonce, tarakoPublicKey⟩ imaAnswerBinding
      else
        .stop
  | _ => .stop

/-- A relying verifier. -/
def relyingVerifier (variant : Variant) : Process :=
  .new .relyingVerifier fun sessionId =>
  .new .relyingVerifier fun verifierNonce =>
  let tdxChallenge := .hash (.sessionContext (.name sessionId) (.name verifierNonce))
  .output .relyingVerifier (.tdxRequest tdxChallenge) <|
  .input fun receivedTdxQuote =>
  .output .relyingVerifier (.tdxAppraisalRequest receivedTdxQuote) <|
  .input fun receivedTdxAnswer =>
  match variant.content .relyingVerifierTdxServiceSignature receivedTdxAnswer
      (.publicKey (.free .tdxVerifierKey)) with
  | some (.tdxAppraisalAnswer boundQuote boundChallenge quotedRtmr) =>
      if boundQuote = .hash receivedTdxQuote ∧ boundChallenge = tdxChallenge then
        .event
          (.tdxAnswerAccepted (.hash receivedTdxAnswer) (.hash receivedTdxQuote) tdxChallenge
            quotedRtmr) <|
        variant.imaAppraisal sessionId verifierNonce receivedTdxAnswer
      else
        .stop
  | _ => .stop

/-- A client. -/
def client (variant : Variant) : Process :=
  .replicate <|
  .new .client fun clientRequest =>
  .output .client (.verificationRequest (.name clientRequest)) <|
  .input fun receivedVerdict =>
  match variant.content .clientRelyingVerifierSignature receivedVerdict
      (.publicKey (.free .relyingVerifierKey)) with
  | some (.integrityVerdict boundRequest measuredTaDigest) =>
      if boundRequest = .name clientRequest then
        .event (.clientAcceptedIntegrity (.name clientRequest) measuredTaDigest) .stop
      else
        .stop
  | _ => .stop

-----------------------------------------------------------------------------------------
-- The process
-----------------------------------------------------------------------------------------

/-- The roles of the top-level process, in parallel. -/
def roles (variant : Variant) : Process :=
  .par (tdxQuotingEntity (.free .approvedTdxMeasurement) currentRtmr) <|
  .par (tdxQuotingEntity (.free .approvedTdxMeasurement) unapprovedRtmr) <|
  .par variant.tdxOpaqueVerifier <|
  .par (imaLogEntity currentImaRoot tarakoPublicKey) <|
  .par variant.imaOpaqueVerifier <|
  .par tarakoEntity <|
  .par untrustedCaller <|
  .par (.replicate variant.relyingVerifier) variant.client

/-- The top-level process. -/
def process (variant : Variant) : Process :=
  .event (.imaLogCommitted currentImaRoot tarakoPublicKey) <|
  .insert (currentImaRoot, .imaKeyEntry tarakoPublicKey) variant.roles

/-- A state that some run of a variant under attack reaches. -/
def Reached (variant : Variant) (state : State) : Prop :=
  ∃ actions, AppliedPi.run variant.algebra variant.process actions = some state

/-- Without a weakness the roles are those of the source. -/
theorem sound_process : sound.process = Symbolic.process := by
  rfl

theorem sound_algebra : sound.algebra = Symbolic.algebra := by
  have same (op : Op) (arguments : List Term) : sound.apply op arguments = op.apply arguments := by
    unfold apply
    split
    · next name => simp [secret, sound, Op.apply]
    · rfl
  exact congrArg (AppliedPi.Algebra.mk Term.name)
    (funext fun op => funext fun arguments => same op arguments)

theorem sound_reached {state : State} : sound.Reached state ↔ Symbolic.Reached state := by
  unfold Reached Symbolic.Reached
  rw [sound_process, sound_algebra]

end Variant

end Tarako.Symbolic
