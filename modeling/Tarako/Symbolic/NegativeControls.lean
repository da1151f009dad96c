import Tarako.Library.AttackScript
import Tarako.Symbolic.IntactQueries

/-! The negative controls of the symbolic model: each scenario weakens the model in one place,
and falsifies exactly the queries that rest on that place.
-/

namespace Tarako.Symbolic

open AppliedPi Term

-----------------------------------------------------------------------------------------
-- Scenarios
-----------------------------------------------------------------------------------------

/-- A private key is made public, a check is left out, or a binding is replaced. -/
inductive Scenario
  | publicKey (key : FreeName)
  | skips (check : Check)
  | cachedRequestReusesStaticBinding
  | cachedRequestOmitsVerifierNonce
deriving DecidableEq, Repr

def Scenario.variant : Scenario → Variant
  | publicKey key => { Variant.sound with isPublic := fun name => name = key }
  | skips check => { Variant.sound with makes := fun other => other ≠ check }
  | cachedRequestReusesStaticBinding => { Variant.sound with bindingInput := .imaAnswerBinding }
  | cachedRequestOmitsVerifierNonce => { Variant.sound with bindingInput := .verificationRequest }

/-- The scenarios that are run, in the order of the source. -/
def scenarios : List Scenario :=
  [.publicKey .tdxAttestationKey, .publicKey .tdxVerifierKey, .publicKey .imaVerifierKey,
    .publicKey .tarakoSigningKey, .publicKey .relyingVerifierKey,
    .skips .tdxServiceQuoteSignature, .skips .imaServiceTdxVerifierSignature,
    .skips .imaServiceRtmrComparison, .skips .imaServiceLogMembership,
    .skips .relyingVerifierTdxServiceSignature, .skips .relyingVerifierImaServiceSignature,
    .skips .relyingVerifierTarakoSignature, .cachedRequestReusesStaticBinding,
    .cachedRequestOmitsVerifierNonce, .skips .relyingVerifierRequestBinding,
    .skips .relyingVerifierApprovedDigest, .skips .clientRelyingVerifierSignature]

/-- The queries that a scenario is expected to falsify. -/
def Scenario.expected : Scenario → List Query
  | publicKey .tdxAttestationKey => [.tdxQuoteIssued, .tdxAttestationKeySecret]
  | publicKey .tdxVerifierKey => [.tdxAnswerIssued]
  | publicKey .imaVerifierKey => [.imaAnswerIssued, .cacheAnswerIssued]
  | publicKey .tarakoSigningKey => [.tarakoQuoteIssued, .tarakoSigningKeySecret]
  | publicKey .relyingVerifierKey => [.integrityVerdictIssued, .approvedDigest]
  | publicKey _ => []
  | skips .tdxServiceQuoteSignature => [.tdxQuoteIssued]
  | skips .imaServiceTdxVerifierSignature => [.imaTdxAnswerIssued]
  | skips .imaServiceRtmrComparison => [.imaTdxAnswerIssued]
  | skips .imaServiceLogMembership => [.imaLogCommitted]
  | skips .relyingVerifierTdxServiceSignature => [.tdxAnswerIssued]
  | skips .relyingVerifierImaServiceSignature => [.imaAnswerIssued]
  | skips .relyingVerifierTarakoSignature => [.tarakoQuoteIssued]
  | cachedRequestReusesStaticBinding => [.tarakoQuoteInjective]
  | cachedRequestOmitsVerifierNonce => [.tarakoQuoteInjective]
  | skips .relyingVerifierRequestBinding => [.tarakoQuoteInjective]
  | skips .relyingVerifierApprovedDigest => [.approvedDigest]
  | skips .clientRelyingVerifierSignature => [.integrityVerdictIssued, .approvedDigest]

-----------------------------------------------------------------------------------------
-- Attacks
-----------------------------------------------------------------------------------------

/-- How the attacker builds a term. -/
def Term.parts : Term → Option (Op × List Term)
  | .name _ => none
  | .free value => some (.free value, [])
  | .publicKey key => some (.publicKey, [key])
  | .sign message key => some (.sign, [message, key])
  | .hash message => some (.hash, [message])
  | .imaRoot key state => some (.imaRoot, [key, state])
  | .unary constructor argument => some (.unary constructor, [argument])
  | .binary constructor first second => some (.binary constructor, [first, second])
  | .ternary constructor first second third =>
      some (.ternary constructor, [first, second, third])

namespace Attack

abbrev Script :=
  List (Move Term Op)

/-- A value of the attacker, which it also uses as its own signing key. -/
def own : Term :=
  .free .network

/-- The roles run in parallel: first the relying verifiers, then the client, the untrusted
caller, Tarako, the IMA verifier, the IMA log, the TDX verifier, and the quoting entities of the
unapproved and the current log.
-/
def start : Script :=
  .proceed 0 2 :: List.replicate 7 (.proceed 1 0)

/-- A served message: the copy of the role that receives it is the first thread then. -/
def serve (thread : Nat) (message : Term) (more : Nat) : Script :=
  [.proceed thread 0, .deliver 0 message more]

/-- The attacker reads the argument of a message. -/
def read (message : Term) : Move Term Op :=
  .take (.argument 0) [message]

def challenge : Term :=
  .hash (.sessionContext (.name 0) (.name 1))

/-- A relying verifier sends its challenge. -/
def session : Script :=
  start ++ [.proceed 0 3, read (.tdxRequest challenge)]

def quote : Term :=
  .sign (.tdxClaim challenge (.free .approvedTdxMeasurement) currentRtmr) (.free .tdxAttestationKey)

def tdxAnswer : Term :=
  .sign (.tdxAppraisalAnswer (.hash quote) challenge currentRtmr) (.free .tdxVerifierKey)

/-- Its challenge is quoted and appraised by the genuine services. -/
def tdxAppraised : Script :=
  session
    ++ serve 9 (.tdxRequest challenge) 2
    ++ [.deliver 2 quote 1]
    ++ serve 9 (.tdxAppraisalRequest quote) 3
    ++ [.deliver 2 tdxAnswer 2]

def evidence : Term :=
  .imaEvidence (.hash tdxAnswer) currentImaRoot tarakoPublicKey

def imaAnswer : Term :=
  .sign (.imaAppraisalAnswer (.hash tdxAnswer) (.hash evidence) tarakoPublicKey)
    (.free .imaVerifierKey)

/-- The log is appraised by the genuine service as well. -/
def established : Script :=
  tdxAppraised
    ++ serve 10 (.imaRequest (.hash tdxAnswer)) 1
    ++ [.deliver 2 evidence 1]
    ++ serve 11 (.imaAppraisalRequest tdxAnswer evidence) 4
    ++ [.deliver 2 imaAnswer 1]

/-- The binding of a request with a nonce. -/
def binding (request : Term) (nonce : Nat) : Term :=
  .hash (.requestContext request (.name nonce))

/-- The attacker requests a verdict and learns the binding of the request. -/
def requested (bound : Term) : Script :=
  serve 0 (.verificationRequest own) 2 ++ [read (.tarakoRequest bound)]

/-- A claim about the approved digest for the attacker's request. -/
def claim : Term :=
  .tarakoClaim (binding own 2) (.free .approvedTaDigest)

/-- Two handlers for one request accept the one quote for their common binding. -/
def replayed (bound : Term) : Script :=
  established
    ++ requested bound
    ++ (serve 1 (.verificationRequest own) 2)
    ++ serve 14 (.tarakoRequest bound) 2
    ++ [.deliver 4 (signed bound) 1, .deliver 3 (signed bound) 1]
where
  signed (bound : Term) : Term :=
    .sign (.tarakoClaim bound (.free .approvedTaDigest)) (.free .tarakoSigningKey)

/-- The attacker presents a quote or a verdict of its own. -/
def forgedQuote (received : Term) : Script :=
  start ++ serve 6 (.tdxAppraisalRequest received) 2

def forgedVerdict (received : Term) : Script :=
  start ++ [.proceed 1 2, read (.verificationRequest (.name 0)), .deliver 0 received 1]

/-- The attacker presents a TDX answer of its own to the relying verifier. -/
def forgedTdxAnswer (received : Term) : Script :=
  session ++ [.deliver 0 own 1, .deliver 0 received 1]

/-- The attacker presents a TDX answer of its own to the IMA verifier, with the genuine log. -/
def forgedImaRequest (log service : Nat) (received : Term) : Script :=
  serve log (.imaRequest own) 1
    ++ [.take (.argument 2) [.imaEvidence own currentImaRoot tarakoPublicKey]]
    ++ serve service
      (.imaAppraisalRequest received (.imaEvidence (.hash received) currentImaRoot tarakoPublicKey))
      3

/-- The attacker presents an IMA answer for its own key, and then signs its quote itself. -/
def forgedImaAnswer (received : Term) : Script :=
  tdxAppraised
    ++ [.deliver 0 own 1, .deliver 0 received 1]
    ++ requested (binding own 2)
    ++ [.deliver 0 (.sign claim own) 1]

def forgedAnswer : Term :=
  .tdxAppraisalAnswer (.hash own) challenge own

def forgedVouching : Term :=
  .imaAppraisalAnswer (.hash tdxAnswer) (.hash own) (.publicKey own)

end Attack

open Attack in
/-- An attack for each scenario. -/
def Scenario.script : Scenario → Script
  | publicKey .tdxAttestationKey =>
      forgedQuote
        (.sign (.tdxClaim own (.free .approvedTdxMeasurement) own) (.free .tdxAttestationKey))
  | publicKey .tdxVerifierKey =>
      forgedTdxAnswer (.sign forgedAnswer (.free .tdxVerifierKey))
        ++ forgedImaRequest 6 7
          (.sign (.tdxAppraisalAnswer own own currentRtmr) (.free .tdxVerifierKey))
  | publicKey .imaVerifierKey => forgedImaAnswer (.sign forgedVouching (.free .imaVerifierKey))
  | publicKey .tarakoSigningKey =>
      established ++ requested (binding own 2)
        ++ [.deliver 0 (.sign claim (.free .tarakoSigningKey)) 1]
  | publicKey .relyingVerifierKey =>
      forgedVerdict
        (.sign (.integrityVerdict (.name 0) (.free .unapprovedTaDigest)) (.free .relyingVerifierKey))
  | publicKey _ => []
  | skips .tdxServiceQuoteSignature =>
      forgedQuote (.tdxClaim own (.free .approvedTdxMeasurement) own)
  | skips .imaServiceTdxVerifierSignature =>
      start ++ forgedImaRequest 5 6 (.tdxAppraisalAnswer own own currentRtmr)
  | skips .imaServiceRtmrComparison =>
      -- the genuine answer for the unapproved log stands beside the approved log
      let quote :=
        .sign (.tdxClaim own (.free .approvedTdxMeasurement) unapprovedRtmr)
          (.free .tdxAttestationKey)
      start
        ++ serve 7 (.tdxRequest own) 2
        ++ serve 8 (.tdxAppraisalRequest quote) 3
        ++ forgedImaRequest 9 10
          (.sign (.tdxAppraisalAnswer (.hash quote) own unapprovedRtmr) (.free .tdxVerifierKey))
  | skips .imaServiceLogMembership =>
      -- the genuine answer for the current log stands beside the attacker's key
      let evidence := .imaEvidence (.hash tdxAnswer) currentImaRoot (.publicKey own)
      let answer :=
        .sign (.imaAppraisalAnswer (.hash tdxAnswer) (.hash evidence) (.publicKey own))
          (.free .imaVerifierKey)
      tdxAppraised
        ++ serve 10 (.imaRequest own) 1
        ++ [.take (.argument 1) [.imaEvidence own currentImaRoot tarakoPublicKey]]
        ++ serve 11 (.imaAppraisalRequest tdxAnswer evidence) 3
        ++ [.deliver 4 evidence 1, .deliver 0 answer 1]
        ++ requested (binding own 2)
        ++ [.deliver 0 (.sign claim own) 1]
  | skips .relyingVerifierTdxServiceSignature => forgedTdxAnswer forgedAnswer
  | skips .relyingVerifierImaServiceSignature => forgedImaAnswer forgedVouching
  | skips .relyingVerifierTarakoSignature =>
      established ++ requested (binding own 2) ++ [.deliver 0 claim 1]
  | cachedRequestReusesStaticBinding => replayed (.hash imaAnswer)
  | cachedRequestOmitsVerifierNonce => replayed (.hash (.verificationRequest own))
  | skips .relyingVerifierRequestBinding =>
      established
        ++ requested (binding own 2)
        ++ serve 13 (.tarakoRequest own) 2
        ++ [.deliver 2
            (.sign (.tarakoClaim own (.free .approvedTaDigest)) (.free .tarakoSigningKey)) 1]
  | skips .relyingVerifierApprovedDigest =>
      let bound := binding (.name 2) 3
      established
        ++ [.proceed 10 2]
        ++ serve 2 (.verificationRequest (.name 2)) 2
        ++ [read (.tarakoRequest bound)]
        ++ serve 13 (.untrustedTarakoRequest bound) 2
        ++ [.deliver 2
            (.sign (.tarakoClaim bound (.free .unapprovedTaDigest)) (.free .tarakoSigningKey)) 3,
          .deliver 4
            (.sign (.integrityVerdict (.name 2) (.free .unapprovedTaDigest))
              (.free .relyingVerifierKey)) 1]
  | skips .clientRelyingVerifierSignature =>
      forgedVerdict (.integrityVerdict (.name 0) (.free .unapprovedTaDigest))

/-- The state after the attack of a scenario. -/
def Scenario.attacked (scenario : Scenario) : Option State :=
  play scenario.variant.algebra Term.parts 6 scenario.variant.process scenario.script

/-- The attack falsifies each query that is not intact. -/
def Scenario.succeeds (scenario : Scenario) : Bool :=
  scenario.attacked.any fun state =>
    Query.all.all fun query => decide (query.Intact scenario.variant) || query.refuted state

theorem scenarios_succeed (scenario : Scenario) : scenario.succeeds = true := by
  cases scenario with
  | publicKey key => cases key <;> decide +kernel
  | skips check => cases check <;> decide +kernel
  | cachedRequestReusesStaticBinding => decide +kernel
  | cachedRequestOmitsVerifierNonce => decide +kernel

/-- Some run of the scenario under attack makes the query false. -/
def Scenario.Falsifies (scenario : Scenario) (query : Query) : Prop :=
  ∃ state, scenario.variant.Reached state ∧ ¬ query.Holds state

theorem Scenario.falsifies_of_not_intact {scenario : Scenario} {query : Query}
    (weakened : ¬ query.Intact scenario.variant)
    : scenario.Falsifies query := by
  have succeeds := scenarios_succeed scenario
  unfold Scenario.succeeds at succeeds
  cases attacked : scenario.attacked with
  | none =>
      rw [attacked] at succeeds
      cases succeeds
  | some state =>
      rw [attacked] at succeeds
      have tested := List.all_eq_true.mp succeeds query query.mem_all
      rw [decide_eq_false weakened, Bool.false_or] at tested
      exact ⟨state, play_reached attacked, Query.not_holds_of_refuted tested⟩

/-- The negative controls are exact: a scenario falsifies a query if and only if the query rests
on what the scenario weakens. In particular each scenario falsifies what is expected of it, each
query is falsified by some scenario, and all twelve hold in the source model, where a client can
accept, and two quotes can be accepted under one cached appraisal.
-/
theorem negative_controls_exact
    : (∀ (scenario : Scenario) (query : Query),
        scenario.Falsifies query ↔ ¬ query.Intact scenario.variant)
      ∧ (∀ scenario ∈ scenarios, ∀ query ∈ scenario.expected, scenario.Falsifies query)
      ∧ (∀ query : Query, ∃ scenario ∈ scenarios, scenario.Falsifies query)
      ∧ (∀ (query : Query) (state : State), Reached state → query.Holds state)
      ∧ ∃ (state : State) (request digest : Term) (session : Session) (cache first second : Term),
          Reached state
          ∧ Raised state.history (.clientAcceptedIntegrity request digest)
          ∧ Raised state.history (.tarakoQuoteAccepted session cache first digest)
          ∧ Raised state.history (.tarakoQuoteAccepted session cache second digest)
          ∧ first ≠ second := by
  refine ⟨fun scenario query => ⟨?_, Scenario.falsifies_of_not_intact⟩, ?_, ?_, ?_, ?_⟩
  · rintro ⟨state, reached, fails⟩ intact
    exact fails (reached.holds intact)
  · intro scenario member query expected
    have weakened : ∀ scenario ∈ scenarios, ∀ query ∈ scenario.expected,
        ¬ query.Intact scenario.variant := by
      decide
    exact Scenario.falsifies_of_not_intact (weakened scenario member query expected)
  · intro query
    have controlled : ∀ query ∈ Query.all, ∃ scenario ∈ scenarios,
        ¬ query.Intact scenario.variant := by
      decide
    obtain ⟨scenario, member, weakened⟩ := controlled query query.mem_all
    exact ⟨scenario, member, Scenario.falsifies_of_not_intact weakened⟩
  · intro query state reached
    have intact : ∀ query ∈ Query.all, query.Intact Variant.sound := by
      decide
    exact (Variant.sound_reached.mpr reached).holds (intact query query.mem_all)
  · obtain ⟨state, reached, client, second, first⟩ := sample_reached
    exact ⟨state, _, _, _, _, _, _, reached, List.mem_of_getElem? client,
      List.mem_of_getElem? first, List.mem_of_getElem? second, by decide⟩

end Tarako.Symbolic
