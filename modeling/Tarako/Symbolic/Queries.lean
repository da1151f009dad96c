import Mathlib.Data.List.Infix
import Tarako.Symbolic.Establishment

/-! The twelve queries of the symbolic model, what each of them rests on, and a test that finds
a query false in a state.
-/

namespace Tarako.Symbolic

open AppliedPi Term

/-- The queries, in the order of the source. -/
inductive Query
  | tdxQuoteIssued
  | tdxAnswerIssued
  | imaLogCommitted
  | imaTdxAnswerIssued
  | imaAnswerIssued
  | tarakoQuoteIssued
  | cacheAnswerIssued
  | tarakoQuoteInjective
  | integrityVerdictIssued
  | approvedDigest
  | tdxAttestationKeySecret
  | tarakoSigningKeySecret
deriving DecidableEq, Repr

namespace Query

def all : List Query :=
  [tdxQuoteIssued, tdxAnswerIssued, imaLogCommitted, imaTdxAnswerIssued, imaAnswerIssued,
    tarakoQuoteIssued, cacheAnswerIssued, tarakoQuoteInjective, integrityVerdictIssued,
    approvedDigest, tdxAttestationKeySecret, tarakoSigningKeySecret]

theorem mem_all (query : Query) : query ∈ all := by
  cases query <;> decide

/-- The correspondences `event(A) ==> event(B)`: for an event of the left side, the events of
the right side. A variable that stands on the right only may have any value.
-/
def relies : Query → Event → Option (Event → Bool)
  | tdxQuoteIssued, .tdxQuoteVerified challenge measurement rtmr =>
      some fun earlier => earlier = .tdxQuoteIssued challenge measurement rtmr
  | tdxAnswerIssued, .tdxAnswerAccepted answerBinding quoteBinding challenge rtmr =>
      some fun earlier => earlier = .tdxAnswerIssued answerBinding quoteBinding challenge rtmr
  | imaLogCommitted, .imaEvidenceVerified _ root key =>
      some fun earlier => earlier = .imaLogCommitted root key
  | imaTdxAnswerIssued, .imaEvidenceVerified tdxBinding root _ =>
      some fun
        | .tdxAnswerIssued answerBinding _ _ rtmr =>
            answerBinding = tdxBinding ∧ rtmr = .rtmrWithIma root
        | _ => false
  | imaAnswerIssued, .imaAnswerAccepted answerBinding tdxBinding evidenceBinding key =>
      some fun earlier => earlier = .imaAnswerIssued answerBinding tdxBinding evidenceBinding key
  | tarakoQuoteIssued, .tarakoQuoteAccepted _ _ binding digest =>
      some fun earlier => earlier = .tarakoQuoteIssued binding digest
  | cacheAnswerIssued, .tarakoQuoteAccepted _ cache _ _ =>
      some fun
        | .imaAnswerIssued answerBinding _ _ _ => answerBinding = cache
        | _ => false
  | integrityVerdictIssued, .clientAcceptedIntegrity request digest =>
      some fun earlier => earlier = .integrityVerdictIssued request digest
  | _, _ => none

/-- Each event of the left side comes after one of the right side. -/
def Corresponds (query : Query) (history : List Entry) : Prop :=
  ∀ event older,
    .raised event :: older <:+ history
    → ∀ cause, query.relies event = some cause
    → ∃ earlier, Raised older earlier ∧ cause earlier = true

/-- A query is true of a state. -/
def Holds (query : Query) (state : State) : Prop :=
  match query with
  | tarakoQuoteInjective =>
      ∃ source : Nat → Nat,
        Set.InjOn source
          {position | ∃ session cache binding digest,
            At state.history position (.tarakoQuoteAccepted session cache binding digest)}
        ∧ ∀ position session cache binding digest,
            At state.history position (.tarakoQuoteAccepted session cache binding digest)
            → position < source position
              ∧ At state.history (source position) (.tarakoQuoteIssued binding digest)
  | approvedDigest =>
      ∀ request digest,
        Raised state.history (.clientAcceptedIntegrity request digest)
        → digest = .free .approvedTaDigest
  | tdxAttestationKeySecret => .free .tdxAttestationKey ∉ state.knowledge
  | tarakoSigningKeySecret => .free .tarakoSigningKey ∉ state.knowledge
  | correspondence => correspondence.Corresponds state.history

/-- What a query rests on: the keys that must be secret, the checks that must be made, and
whether the binding must name the request and its nonce.
-/
def keys : Query → List FreeName
  | tdxQuoteIssued => [.tdxAttestationKey]
  | tdxAnswerIssued => [.tdxVerifierKey]
  | imaLogCommitted => []
  | imaTdxAnswerIssued => [.tdxVerifierKey]
  | imaAnswerIssued => [.imaVerifierKey]
  | tarakoQuoteIssued => [.imaVerifierKey, .tarakoSigningKey]
  | cacheAnswerIssued => [.imaVerifierKey]
  | tarakoQuoteInjective => [.imaVerifierKey, .tarakoSigningKey]
  | integrityVerdictIssued => [.relyingVerifierKey]
  | approvedDigest => [.relyingVerifierKey]
  | tdxAttestationKeySecret => [.tdxAttestationKey]
  | tarakoSigningKeySecret => [.tarakoSigningKey]

def checks : Query → List Check
  | tdxQuoteIssued => [.tdxServiceQuoteSignature]
  | tdxAnswerIssued => [.relyingVerifierTdxServiceSignature]
  | imaLogCommitted => [.imaServiceLogMembership]
  | imaTdxAnswerIssued => [.imaServiceTdxVerifierSignature, .imaServiceRtmrComparison]
  | imaAnswerIssued => [.relyingVerifierImaServiceSignature]
  | tarakoQuoteIssued =>
      [.imaServiceLogMembership, .relyingVerifierImaServiceSignature,
        .relyingVerifierTarakoSignature, .relyingVerifierRequestBinding]
  | cacheAnswerIssued => [.relyingVerifierImaServiceSignature]
  | tarakoQuoteInjective =>
      [.imaServiceLogMembership, .relyingVerifierImaServiceSignature,
        .relyingVerifierTarakoSignature, .relyingVerifierRequestBinding]
  | integrityVerdictIssued => [.clientRelyingVerifierSignature]
  | approvedDigest => [.relyingVerifierApprovedDigest, .clientRelyingVerifierSignature]
  | tdxAttestationKeySecret => []
  | tarakoSigningKeySecret => []

/-- A variant leaves what the query rests on as it is in the source. -/
structure Intact (query : Query) (variant : Variant) : Prop where
  keys : ∀ key ∈ query.keys, variant.secret key = true
  checks : ∀ check ∈ query.checks, variant.makes check = true
  binding : query = tarakoQuoteInjective → variant.bindingInput = .requestContext

instance (query : Query) (variant : Variant) : Decidable (query.Intact variant) :=
  decidable_of_iff
    ((∀ key ∈ query.keys, variant.secret key = true)
      ∧ (∀ check ∈ query.checks, variant.makes check = true)
      ∧ (query = tarakoQuoteInjective → variant.bindingInput = .requestContext))
    ⟨fun ⟨keys, checks, binding⟩ => ⟨keys, checks, binding⟩,
      fun ⟨keys, checks, binding⟩ => ⟨keys, checks, binding⟩⟩

-----------------------------------------------------------------------------------------
-- Finding a query false
-----------------------------------------------------------------------------------------

/-- An entry raises an event that satisfies a test. -/
def raises (test : Event → Bool) : Entry → Bool
  | .raised event => test event
  | _ => false

/-- An acceptance of a quote, and its issue. -/
def accepts (binding digest : Term) : Event → Bool
  | .tarakoQuoteAccepted _ _ bound accepted => bound = binding ∧ accepted = digest
  | _ => false

def issues (binding digest : Term) (event : Event) : Bool :=
  event = .tarakoQuoteIssued binding digest

/-- The newest event has no cause, or a quote is accepted more often than it was issued. -/
def refutedNewest (query : Query) : List Entry → Bool
  | .raised event :: older =>
      match query.relies event with
      | some cause => !older.any (raises cause)
      | none => false
  | _ => false

def overdrawn (history : List Entry) : Entry → Bool
  | .raised (.tarakoQuoteAccepted _ _ binding digest) =>
      history.countP (raises (issues binding digest))
        < history.countP (raises (accepts binding digest))
  | _ => false

def disapproved : Entry → Bool
  | .raised (.clientAcceptedIntegrity _ digest) => digest ≠ .free .approvedTaDigest
  | _ => false

/-- A test that is passed only where the query is false. -/
def refuted (query : Query) (state : State) : Bool :=
  match query with
  | tarakoQuoteInjective => state.history.any (overdrawn state.history)
  | approvedDigest => state.history.any disapproved
  | tdxAttestationKeySecret => state.knowledge.contains (.free .tdxAttestationKey)
  | tarakoSigningKeySecret => state.knowledge.contains (.free .tarakoSigningKey)
  | correspondence => state.history.tails.any correspondence.refutedNewest

theorem not_corresponds_of_refuted {query : Query} {history : List Entry}
    (refuted : history.tails.any query.refutedNewest = true)
    : ¬ query.Corresponds history := by
  intro corresponds
  obtain ⟨recent, within, failed⟩ := List.any_eq_true.mp refuted
  have past := (List.mem_tails _ _).mp within
  unfold refutedNewest at failed
  split at failed
  · next event older =>
      split at failed
      · next cause relied =>
          obtain ⟨earlier, raised, meets⟩ := corresponds event older past cause relied
          have found : older.any (raises cause) = true :=
            List.any_eq_true.mpr ⟨_, raised, meets⟩
          rw [found] at failed
          cases failed
      · cases failed
  · cases failed

/-- An injection of acceptances into issues rules out that a quote is accepted more often than
it was issued.
-/
theorem not_injective_of_overdrawn {state : State}
    (overdrawn : state.history.any (overdrawn state.history) = true)
    : ¬ tarakoQuoteInjective.Holds state := by
  rintro ⟨source, injective, found⟩
  obtain ⟨entry, _, failed⟩ := List.any_eq_true.mp overdrawn
  unfold Query.overdrawn at failed
  split at failed
  · next session cache binding digest _ =>
      have accepted (position : Nat) (event : Entry)
          (here : state.history[position]? = some event)
          (meets : raises (accepts binding digest) event = true)
          : ∃ session cache,
              At state.history position (.tarakoQuoteAccepted session cache binding digest) := by
        unfold raises accepts at meets
        split at meets
        · split at meets
          · obtain ⟨rfl, rfl⟩ := of_decide_eq_true meets
            exact ⟨_, _, here⟩
          · cases meets
        · cases meets
      have bounded : state.history.countP (raises (accepts binding digest))
          ≤ state.history.countP (raises (issues binding digest)) := by
        refine Transitions.countP_le_of_injOn (injective.mono ?_) ?_
        · rintro position ⟨event, here, meets⟩
          obtain ⟨session, cache, there⟩ := accepted position event here meets
          exact ⟨session, cache, binding, digest, there⟩
        · intro position event here meets
          obtain ⟨session, cache, there⟩ := accepted position event here meets
          exact ⟨_, (found _ _ _ _ _ there).2, decide_eq_true rfl⟩
      exact absurd (of_decide_eq_true failed) (Nat.not_lt.mpr bounded)
  · cases failed

/-- The test finds no query false that is true. -/
theorem not_holds_of_refuted {query : Query} {state : State}
    (refuted : query.refuted state = true)
    : ¬ query.Holds state := by
  cases query with
  | tarakoQuoteInjective => exact not_injective_of_overdrawn refuted
  | approvedDigest =>
      intro holds
      obtain ⟨entry, member, failed⟩ := List.any_eq_true.mp refuted
      unfold disapproved at failed
      split at failed
      · next request digest => exact of_decide_eq_true failed (holds request digest member)
      · cases failed
  | tdxAttestationKeySecret | tarakoSigningKeySecret =>
      intro holds
      exact holds (List.contains_iff_mem.mp refuted)
  | _ => exact not_corresponds_of_refuted refuted

end Query

end Tarako.Symbolic
