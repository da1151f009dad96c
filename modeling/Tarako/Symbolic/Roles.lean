import Tarako.Symbolic.Terms

/-! The roles of the symbolic model and its top-level process. A pattern or comparison that
fails ends the role instance.
-/

namespace Tarako.Symbolic

open AppliedPi Term

/-- Genuine Intel TDX quoting source. -/
def tdxQuotingEntity (currentMeasurement currentRtmr : Term) : Process :=
  .replicate <| .input fun
    | .tdxRequest challenge =>
        .event (.tdxQuoteIssued challenge currentMeasurement currentRtmr) <|
        .output .tdxQuotingEntity
          (.sign (.tdxClaim challenge currentMeasurement currentRtmr) (.free .tdxAttestationKey))
          .stop
    | _ => .stop

/-- Opaque TDX verifier. -/
def tdxOpaqueVerifier : Process :=
  .replicate <| .input fun
    | .tdxAppraisalRequest receivedQuote =>
        match verify receivedQuote (.publicKey (.free .tdxAttestationKey)) with
        | some (.tdxClaim challenge (.free .approvedTdxMeasurement) quotedRtmr) =>
            .event (.tdxQuoteVerified challenge (.free .approvedTdxMeasurement) quotedRtmr) <|
            let quoteBinding := .hash receivedQuote
            let signedAnswer :=
              .sign (.tdxAppraisalAnswer quoteBinding challenge quotedRtmr)
                (.free .tdxVerifierKey)
            let answerBinding := .hash signedAnswer
            .event (.tdxAnswerIssued answerBinding quoteBinding challenge quotedRtmr) <|
            .output .tdxOpaqueVerifier signedAnswer .stop
        | _ => .stop
    | _ => .stop

/-- The IMA log transport, which is not itself signed. -/
def imaLogEntity (currentRoot tarakoKey : Term) : Process :=
  .replicate <| .input fun
    | .imaRequest tdxAnswerBinding =>
        .output .imaLogEntity (.imaEvidence tdxAnswerBinding currentRoot tarakoKey) .stop
    | _ => .stop

/-- Opaque IMA verifier: it validates the signed TDX answer, compares the replayed root with
its RTMR, and finds the Tarako key in the log.
-/
def imaOpaqueVerifier : Process :=
  .replicate <| .input fun
    | .imaAppraisalRequest receivedTdxAnswer receivedImaEvidence =>
        match verify receivedTdxAnswer (.publicKey (.free .tdxVerifierKey)) with
        | some (.tdxAppraisalAnswer _ _ quotedRtmr) =>
            let tdxAnswerBinding := .hash receivedTdxAnswer
            match receivedImaEvidence with
            | .imaEvidence boundAnswer replayedImaRoot tarakoPublicKey =>
                if boundAnswer = tdxAnswerBinding then
                  if quotedRtmr = .rtmrWithIma replayedImaRoot then
                    .get fun row =>
                      if row = (replayedImaRoot, .imaKeyEntry tarakoPublicKey) then
                        let evidenceBinding := .hash receivedImaEvidence
                        .event
                          (.imaEvidenceVerified tdxAnswerBinding replayedImaRoot tarakoPublicKey) <|
                        let signedAnswer :=
                          .sign
                            (.imaAppraisalAnswer tdxAnswerBinding evidenceBinding tarakoPublicKey)
                            (.free .imaVerifierKey)
                        let answerBinding := .hash signedAnswer
                        .event
                          (.imaAnswerIssued answerBinding tdxAnswerBinding evidenceBinding
                            tarakoPublicKey) <|
                        .output .imaOpaqueVerifier signedAnswer .stop
                      else
                        .stop
                  else
                    .stop
                else
                  .stop
            | _ => .stop
        | _ => .stop
    | _ => .stop

/-- Tarako gets the caller digest from fs-verity; the request binding is opaque to it. -/
def tarakoEntity : Process :=
  .replicate <| .input fun
    | .tarakoRequest requestBinding =>
        .event (.tarakoQuoteIssued requestBinding (.free .approvedTaDigest)) <|
        .output .tarakoEntity
          (.sign (.tarakoClaim requestBinding (.free .approvedTaDigest)) (.free .tarakoSigningKey))
          .stop
    | _ => .stop

/-- A genuine quote from another fs-verity caller. -/
def untrustedCaller : Process :=
  .replicate <| .input fun
    | .untrustedTarakoRequest requestBinding =>
        .event (.tarakoQuoteIssued requestBinding (.free .unapprovedTaDigest)) <|
        .output .untrustedCaller
          (.sign (.tarakoClaim requestBinding (.free .unapprovedTaDigest))
            (.free .tarakoSigningKey))
          .stop
    | _ => .stop

/-- The replicated request handler of a relying verifier, after its platform appraisal. -/
def requestHandler (session : Session) (imaAnswerBinding : Term) : Process :=
  .replicate <| .input fun
    | .verificationRequest clientRequest =>
        .new .relyingVerifier fun requestNonce =>
        let requestBinding := .hash (.requestContext clientRequest (.name requestNonce))
        .output .relyingVerifier (.tarakoRequest requestBinding) <|
        .input fun receivedTarakoQuote =>
        match verify receivedTarakoQuote session.tarakoPublicKey with
        | some (.tarakoClaim boundRequest measuredTaDigest) =>
            if boundRequest = requestBinding then
              if measuredTaDigest = .free .approvedTaDigest then
                .event
                  (.tarakoQuoteAccepted session imaAnswerBinding requestBinding
                    measuredTaDigest) <|
                .event (.integrityVerdictIssued clientRequest measuredTaDigest) <|
                .output .relyingVerifier
                  (.sign (.integrityVerdict clientRequest measuredTaDigest)
                    (.free .relyingVerifierKey))
                  .stop
              else
                .stop
            else
              .stop
        | _ => .stop
    | _ => .stop

/-- Stage 2 of a relying verifier: obtain the log and outsource replay and policy appraisal. -/
def imaAppraisal (sessionId verifierNonce : Nat) (receivedTdxAnswer : Term) : Process :=
  let tdxAnswerBinding := .hash receivedTdxAnswer
  .output .relyingVerifier (.imaRequest tdxAnswerBinding) <|
  .input fun receivedImaEvidence =>
  .output .relyingVerifier (.imaAppraisalRequest receivedTdxAnswer receivedImaEvidence) <|
  .input fun receivedImaAnswer =>
  match verify receivedImaAnswer (.publicKey (.free .imaVerifierKey)) with
  | some (.imaAppraisalAnswer boundAnswer boundEvidence tarakoPublicKey) =>
      if boundAnswer = tdxAnswerBinding ∧ boundEvidence = .hash receivedImaEvidence then
        let imaAnswerBinding := .hash receivedImaAnswer
        .event
          (.imaAnswerAccepted imaAnswerBinding tdxAnswerBinding (.hash receivedImaEvidence)
            tarakoPublicKey) <|
        requestHandler ⟨sessionId, verifierNonce, tarakoPublicKey⟩ imaAnswerBinding
      else
        .stop
  | _ => .stop

/-- A relying verifier: stage 1 obtains a TDX quote and outsources its appraisal. -/
def relyingVerifier : Process :=
  .new .relyingVerifier fun sessionId =>
  .new .relyingVerifier fun verifierNonce =>
  let tdxChallenge := .hash (.sessionContext (.name sessionId) (.name verifierNonce))
  .output .relyingVerifier (.tdxRequest tdxChallenge) <|
  .input fun receivedTdxQuote =>
  .output .relyingVerifier (.tdxAppraisalRequest receivedTdxQuote) <|
  .input fun receivedTdxAnswer =>
  match verify receivedTdxAnswer (.publicKey (.free .tdxVerifierKey)) with
  | some (.tdxAppraisalAnswer boundQuote boundChallenge quotedRtmr) =>
      if boundQuote = .hash receivedTdxQuote ∧ boundChallenge = tdxChallenge then
        .event
          (.tdxAnswerAccepted (.hash receivedTdxAnswer) (.hash receivedTdxQuote) tdxChallenge
            quotedRtmr) <|
        imaAppraisal sessionId verifierNonce receivedTdxAnswer
      else
        .stop
  | _ => .stop

/-- A client: it accepts the verdict that is signed for its own request. -/
def client : Process :=
  .replicate <|
  .new .client fun clientRequest =>
  .output .client (.verificationRequest (.name clientRequest)) <|
  .input fun receivedVerdict =>
  match verify receivedVerdict (.publicKey (.free .relyingVerifierKey)) with
  | some (.integrityVerdict boundRequest measuredTaDigest) =>
      if boundRequest = .name clientRequest then
        .event (.clientAcceptedIntegrity (.name clientRequest) measuredTaDigest) .stop
      else
        .stop
  | _ => .stop

-----------------------------------------------------------------------------------------
-- The process
-----------------------------------------------------------------------------------------

def tarakoPublicKey : Term :=
  .publicKey (.free .tarakoSigningKey)

def currentImaRoot : Term :=
  .imaRoot tarakoPublicKey (.free .approvedImaPolicyState)

def currentRtmr : Term :=
  .rtmrWithIma currentImaRoot

def unapprovedImaRoot : Term :=
  .imaRoot tarakoPublicKey (.free .unapprovedImaPolicyState)

def unapprovedRtmr : Term :=
  .rtmrWithIma unapprovedImaRoot

/-- The roles of the top-level process, in parallel. -/
def roles : Process :=
  .par (tdxQuotingEntity (.free .approvedTdxMeasurement) currentRtmr) <|
  .par (tdxQuotingEntity (.free .approvedTdxMeasurement) unapprovedRtmr) <|
  .par tdxOpaqueVerifier <|
  .par (imaLogEntity currentImaRoot tarakoPublicKey) <|
  .par imaOpaqueVerifier <|
  .par tarakoEntity <|
  .par untrustedCaller <|
  .par (.replicate relyingVerifier) client

/-- The top-level process. -/
def process : Process :=
  .event (.imaLogCommitted currentImaRoot tarakoPublicKey) <|
  .insert (currentImaRoot, .imaKeyEntry tarakoPublicKey) roles

abbrev State :=
  AppliedPi.State Term (Term × Term) Role Event

/-- A state that some run under attack reaches. -/
def Reached (state : State) : Prop :=
  ∃ actions, AppliedPi.run algebra process actions = some state

end Tarako.Symbolic
