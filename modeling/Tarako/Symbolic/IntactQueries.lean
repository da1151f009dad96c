import Tarako.Symbolic.Integrity
import Tarako.Symbolic.Queries

/-! A query is true in every run of a variant that leaves what the query rests on intact,
whatever other weaknesses the variant combines.
-/

namespace Tarako.Symbolic

open AppliedPi Term

namespace Variant

variable {variant : Variant} {state : State}

/-- What the correspondence for quotes rests on. -/
theorem quoteChecked_of_intact (intact : Query.tarakoQuoteIssued.Intact variant)
    : variant.QuoteChecked where
  secret := intact.keys _ (by decide)
  listed := intact.checks _ (by decide)
  answered := intact.checks _ (by decide)
  signer := intact.keys _ (by decide)
  signed := intact.checks _ (by decide)
  compared := intact.checks _ (by decide)

/-- What justifies an event answers each intact correspondence about it; a cached answer by way
of its acceptance.
-/
theorem Reached.relied (reached : variant.Reached state) {older : List Entry} {event : Event}
    (past : .raised event :: older <:+ state.history) {query : Query}
    (intact : query.Intact variant) {cause : Event → Bool}
    (relied : query.relies event = some cause)
    : ∃ earlier, Raised older earlier ∧ cause earlier = true := by
  have justified := reached.justified_newest past
  have before := (List.suffix_cons _ _).trans past
  obtain ⟨keys, checks, _⟩ := id intact
  unfold Query.relies at relied
  split at relied
  · cases relied
    exact ⟨_, justified (keys _ (by decide)) (checks _ (by decide)), decide_eq_true rfl⟩
  · cases relied
    exact ⟨_, justified (keys _ (by decide)) (checks _ (by decide)), decide_eq_true rfl⟩
  · cases relied
    exact ⟨_, justified.1 (checks _ (by decide)), decide_eq_true rfl⟩
  · cases relied
    obtain ⟨_, _, issued⟩ :=
      justified.2 (keys _ (by decide)) (checks _ (by decide)) (checks _ (by decide))
    exact ⟨_, issued, decide_eq_true ⟨rfl, rfl⟩⟩
  · cases relied
    exact ⟨_, justified (keys _ (by decide)) (checks _ (by decide)), decide_eq_true rfl⟩
  · cases relied
    exact ⟨_, justified.issued (quoteChecked_of_intact intact), decide_eq_true rfl⟩
  · cases relied
    obtain ⟨_, _, _, _, _, answerAccepted⟩ := justified.appraised
    have issued :=
      reached.justified before answerAccepted (keys _ (by decide)) (checks _ (by decide))
    exact ⟨_, issued, decide_eq_true rfl⟩
  · cases relied
    exact ⟨_, justified.2 (keys _ (by decide)) (checks _ (by decide)), decide_eq_true rfl⟩
  · cases relied

theorem Reached.corresponds (reached : variant.Reached state) {query : Query}
    (intact : query.Intact variant)
    : query.Corresponds state.history :=
  fun _ _ past _ relied => reached.relied past intact relied

/-- Each acceptance uses up the nonce that its binding names. -/
theorem Reached.injective (reached : variant.Reached state)
    (intact : Query.tarakoQuoteInjective.Intact variant)
    : Query.tarakoQuoteInjective.Holds state := by
  have checked := quoteChecked_of_intact ⟨intact.keys, intact.checks, nofun⟩
  exact reached.quotes_inject checked (intact.binding rfl)

/-- The accepted digest is the one of a verdict, and of the quote that its issuer accepted. -/
theorem Reached.approved (reached : variant.Reached state)
    (intact : Query.approvedDigest.Intact variant)
    : Query.approvedDigest.Holds state := by
  obtain ⟨keys, checks, _⟩ := intact
  have all := List.suffix_refl state.history
  intro request digest accepted
  obtain ⟨_, verdict⟩ := reached.justified all accepted
  have issued := verdict (keys _ (by decide)) (checks _ (by decide))
  obtain ⟨_, _, _, _, quoteAccepted⟩ := reached.justified all issued
  exact (reached.justified all quoteAccepted).approved (checks _ (by decide))

/-- By cases of the query: a correspondence from the justification of its event, secrecy from
what is known.
-/
theorem Reached.holds {state : State} (reached : variant.Reached state) {query : Query}
    (intact : query.Intact variant)
    : query.Holds state := by
  cases query with
  | tarakoQuoteInjective => exact reached.injective intact
  | approvedDigest => exact reached.approved intact
  | tdxAttestationKeySecret | tarakoSigningKeySecret =>
      intro leaked
      have given := reached.sound.known _ leaked
      exact absurd ((intact.keys _ (by decide)).symm.trans given) (by decide)
  | _ => exact reached.corresponds intact

/-- In every run of every variant under attack, however many keys it makes public and checks it
leaves out, each query holds that rests on none of them.
-/
theorem intact_query_holds (variant : Variant) {state : State} (reached : variant.Reached state)
    (query : Query) (intact : query.Intact variant)
    : query.Holds state :=
  reached.holds intact

/-- The attacker has the keys of the relying verifier and of the TDX verifier, and the client
does not check its verdict; the quotes that are accepted still go back to the Tarako key.
-/
def exposed : Variant where
  isPublic name := name = .relyingVerifierKey ∨ name = .tdxVerifierKey
  makes check := check ≠ .clientRelyingVerifierSignature
  bindingInput := .requestContext

theorem intact_query_holds_exposed
    : ∃ state,
        exposed.Reached state
        ∧ Query.tarakoQuoteInjective.Intact exposed
        ∧ At state.history 2
            (.tarakoQuoteAccepted sampleSession sampleCache (sampleBinding 4)
              (.free .approvedTaDigest))
        ∧ Query.tarakoQuoteInjective.Holds state := by
  have evaluated : (AppliedPi.run exposed.algebra exposed.process sampleActions.dropLast).map
      (fun state => state.history[2]?)
      = some
        (some (.raised (.tarakoQuoteAccepted sampleSession sampleCache (sampleBinding 4)
          (.free .approvedTaDigest)))) := by
    rfl
  have intact : Query.tarakoQuoteInjective.Intact exposed := by
    decide
  obtain ⟨state, run, accepted⟩ := Option.map_eq_some_iff.mp evaluated
  have reached : exposed.Reached state := ⟨sampleActions.dropLast, run⟩
  exact ⟨state, reached, intact, accepted, intact_query_holds exposed reached _ intact⟩

end Variant

end Tarako.Symbolic
