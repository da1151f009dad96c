import Tarako.Symbolic.Authenticity

/-! Session-fresh platform establishment: the correspondences of the model, composed along the
chain from the challenge of a relying verifier to the quote that it accepts.
-/

namespace Tarako.Symbolic

open AppliedPi Term

/-- The source model is the variant without a weakness, so every assumption holds of it. -/
theorem Reached.sound {state : State} (reached : Reached state) : Variant.sound.rules.Sound state :=
  (Variant.sound_reached.mpr reached).sound

theorem Reached.justified {state : State} (reached : Reached state) {older : List Entry}
    (past : older <:+ state.history) {event : Event} (raised : Raised older event)
    : Variant.sound.Justified older event :=
  (Variant.sound_reached.mpr reached).justified past raised

theorem Variant.sound_checked : Variant.sound.QuoteChecked where
  secret := rfl
  listed := rfl
  answered := rfl
  signer := rfl
  signed := rfl
  compared := rfl

/-- The answer that the IMA appraisal relied on is the one for the session's own challenge:
both are bound by the hash of the signed answer. Hence its RTMR commits to the current log.
-/
theorem rtmr_of_appraisal {state : State} (reached : Reached state) {older : List Entry}
    (past : older <:+ state.history)
    {cache tdxAnswerBinding quoteBinding challenge rtmr evidenceBinding key : Term}
    (tdxAccepted : Raised older
      (.tdxAnswerAccepted tdxAnswerBinding quoteBinding challenge rtmr))
    (imaAccepted : Raised older (.imaAnswerAccepted cache tdxAnswerBinding evidenceBinding key))
    : rtmr = currentRtmr
      ∧ Raised older (.imaAnswerIssued cache tdxAnswerBinding evidenceBinding key)
      ∧ Raised older (.imaLogCommitted currentImaRoot key) := by
  have imaIssued := reached.justified past imaAccepted rfl rfl
  obtain ⟨_, evidenceVerified⟩ := reached.justified past imaIssued rfl
  obtain ⟨committed, answered⟩ := reached.justified past evidenceVerified
  obtain ⟨_, _, relied⟩ := answered rfl rfl rfl
  have tdxIssued := reached.justified past tdxAccepted rfl rfl
  obtain ⟨own, _⟩ := reached.justified past tdxIssued
  obtain ⟨other, _⟩ := reached.justified past relied
  have same := (Term.sign.inj (Term.hash.inj (own.symm.trans other))).1
  exact ⟨(Term.ternary.inj same).2.2.2, imaIssued, committed rfl⟩

/-- In every run under attack, a relying verifier that accepts a quote has the approved digest
and the Tarako key, and its own challenge was quoted with the RTMR of the current log, that
quote appraised, and the answer used for the IMA appraisal it cached. Witness: each event is
justified by the earlier ones, and the two appraisals agree on the signed answer.
-/
theorem session_fresh_establishment {state : State} (reached : Reached state)
    {session : Session} {cache binding digest : Term} {newer older : List Entry}
    (split : state.history
      = newer ++ .raised (.tarakoQuoteAccepted session cache binding digest) :: older)
    : digest = .free .approvedTaDigest
      ∧ session.tarakoPublicKey = .publicKey (.free .tarakoSigningKey)
      ∧ Fresh older .relyingVerifier session.sessionId
      ∧ Fresh older .relyingVerifier session.verifierNonce
      ∧ Raised older
          (.tdxQuoteIssued session.tdxChallenge (.free .approvedTdxMeasurement)
            (.rtmrWithIma currentImaRoot))
      ∧ Raised older (.imaLogCommitted currentImaRoot (.publicKey (.free .tarakoSigningKey)))
      ∧ Raised older (.tarakoQuoteIssued binding (.free .approvedTaDigest))
      ∧ ∃ quote answer evidenceBinding,
          quote
            = .sign
                (.tdxClaim session.tdxChallenge (.free .approvedTdxMeasurement)
                  (.rtmrWithIma currentImaRoot))
                (.free .tdxAttestationKey)
          ∧ answer
            = .sign
                (.tdxAppraisalAnswer (.hash quote) session.tdxChallenge
                  (.rtmrWithIma currentImaRoot))
                (.free .tdxVerifierKey)
          ∧ Raised older
              (.tdxAnswerIssued (.hash answer) (.hash quote) session.tdxChallenge
                (.rtmrWithIma currentImaRoot))
          ∧ Raised older
              (.imaAnswerIssued cache (.hash answer) evidenceBinding
                (.publicKey (.free .tarakoSigningKey))) := by
  have here : .raised (.tarakoQuoteAccepted session cache binding digest) :: older
      <:+ state.history := by
    rw [split]
    exact List.suffix_append _ _
  have past : older <:+ state.history := (List.suffix_cons _ _).trans here
  have accepted : Variant.sound.Accepted older session cache binding digest :=
    (Variant.sound_reached.mpr reached).justified_newest here
  have approved := accepted.approved rfl
  have key := accepted.key Variant.sound_checked.toKeyVouched
  have quoteIssued := accepted.issued Variant.sound_checked
  obtain ⟨tdxAnswerBinding, quoteBinding, rtmr, evidenceBinding, tdxAccepted, imaAccepted⟩ :=
    accepted.appraised
  obtain ⟨rfl, imaIssued, committed⟩ := rtmr_of_appraisal reached past tdxAccepted imaAccepted
  have tdxIssued := reached.justified past tdxAccepted rfl rfl
  obtain ⟨rfl, quoted⟩ := reached.justified past tdxIssued
  obtain ⟨rfl, challengeQuoted⟩ := quoted rfl rfl
  rw [key] at imaIssued committed
  rw [approved] at quoteIssued
  exact ⟨approved, key, accepted.sessionId, accepted.verifierNonce, challengeQuoted, committed,
    quoteIssued, _, _, evidenceBinding, rfl, rfl, tdxIssued, imaIssued⟩

-----------------------------------------------------------------------------------------
-- A run without attack
-----------------------------------------------------------------------------------------

/-- The thread that stepped last goes on. -/
def proceed (steps : Nat) : List (Action Op) :=
  List.replicate steps (.resume 0 0)

/-- A client's request is forwarded to an established relying verifier twice, and the client
receives the second verdict.
-/
def sampleActions : List (Action Op) :=
  -- the roles, the client's request, and the challenge of a relying verifier
  proceed 3 ++ List.replicate 7 (.resume 1 0)
    ++ (.resume 1 0 :: proceed 2)
    ++ (.resume 2 0 :: proceed 3)
    -- TDX quote and its appraisal
    ++ (.resume 10 0 :: proceed 3)
    ++ (.resume 2 0 :: proceed 1)
    ++ (.resume 10 0 :: proceed 4)
    ++ (.resume 2 0 :: proceed 2)
    -- IMA evidence and its appraisal
    ++ (.resume 11 0 :: proceed 2)
    ++ (.resume 2 0 :: proceed 1)
    ++ (.resume 12 0 :: proceed 5)
    ++ (.resume 2 0 :: proceed 1)
    -- two handlers for the one request, each with its own quote
    ++ (.resume 0 0 :: .resume 0 8 :: proceed 2)
    ++ (.resume 14 0 :: proceed 3)
    ++ (.resume 2 0 :: proceed 3)
    ++ (.resume 3 0 :: .resume 0 11 :: proceed 2)
    ++ (.resume 4 0 :: proceed 3)
    ++ (.resume 2 0 :: proceed 3)
    -- the client's acceptance
    ++ (.resume 15 0 :: proceed 1)

def sampleSession : Session :=
  ⟨1, 2, tarakoPublicKey⟩

def sampleQuote : Term :=
  .sign (.tdxClaim sampleSession.tdxChallenge (.free .approvedTdxMeasurement) currentRtmr)
    (.free .tdxAttestationKey)

def sampleTdxAnswer : Term :=
  .sign (.tdxAppraisalAnswer (.hash sampleQuote) sampleSession.tdxChallenge currentRtmr)
    (.free .tdxVerifierKey)

def sampleCache : Term :=
  .hash
    (.sign
      (.imaAppraisalAnswer (.hash sampleTdxAnswer)
        (.hash (.imaEvidence (.hash sampleTdxAnswer) currentImaRoot tarakoPublicKey))
        tarakoPublicKey)
      (.free .imaVerifierKey))

def sampleBinding (nonce : Nat) : Term :=
  .hash (.requestContext (.name 0) (.name nonce))

/-- The event at a position of a history, newest first. -/
def At (history : List Entry) (position : Nat) (event : Event) : Prop :=
  history[position]? = some (.raised event)

theorem sample_reached
    : ∃ state,
        Reached state
        ∧ At state.history 0 (.clientAcceptedIntegrity (.name 0) (.free .approvedTaDigest))
        ∧ At state.history 3
            (.tarakoQuoteAccepted sampleSession sampleCache (sampleBinding 4)
              (.free .approvedTaDigest))
        ∧ At state.history 10
            (.tarakoQuoteAccepted sampleSession sampleCache (sampleBinding 3)
              (.free .approvedTaDigest)) := by
  have evaluated : (AppliedPi.run algebra process sampleActions).map
      (fun state => (state.history[0]?, state.history[3]?, state.history[10]?))
      = some
        (some (.raised (.clientAcceptedIntegrity (.name 0) (.free .approvedTaDigest))),
          some (.raised (.tarakoQuoteAccepted sampleSession sampleCache (sampleBinding 4)
            (.free .approvedTaDigest))),
          some (.raised (.tarakoQuoteAccepted sampleSession sampleCache (sampleBinding 3)
            (.free .approvedTaDigest)))) := by
    rfl
  obtain ⟨state, run, found⟩ := Option.map_eq_some_iff.mp evaluated
  obtain ⟨client, accepted⟩ := Prod.mk.inj found
  obtain ⟨second, first⟩ := Prod.mk.inj accepted
  exact ⟨state, ⟨sampleActions, run⟩, client, second, first⟩

theorem session_fresh_establishment_run
    : ∃ state newer older,
        Reached state
        ∧ state.history
          = newer
            ++ .raised
                (.tarakoQuoteAccepted sampleSession sampleCache (sampleBinding 4)
                  (.free .approvedTaDigest))
              :: older
        ∧ Raised older
            (.tdxQuoteIssued sampleSession.tdxChallenge (.free .approvedTdxMeasurement)
              (.rtmrWithIma currentImaRoot)) := by
  obtain ⟨state, reached, _, accepted, _⟩ := sample_reached
  have split := Transitions.split_at accepted
  exact ⟨state, _, _, reached, split, (session_fresh_establishment reached split).2.2.2.2.1⟩

end Tarako.Symbolic
