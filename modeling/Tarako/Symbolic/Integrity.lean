import Mathlib.Data.Set.Function
import Tarako.Symbolic.Establishment

/-! One quote accounts for one acceptance, by the nonce of the handler, and one client
acceptance for one quote, by the request of the client. Positions count from the newest entry,
so an earlier event is at a larger position.
-/

namespace Tarako.Symbolic

open AppliedPi Term Transitions

/-- What was raised before an event is at a larger position. -/
theorem Raised.at {history : List Entry} {position : Nat} {event : Event}
    (raised : Raised (history.drop (position + 1)) event)
    : ∃ earlier, position < earlier ∧ At history earlier event :=
  exists_position_of_mem_drop raised

/-- A choice of related positions that tell their origins apart is injective. -/
theorem exists_injOn_source {origin : Nat → Prop} {related : Nat → Nat → Prop}
    (total : ∀ position, origin position → ∃ source, related position source)
    (unique : ∀ {first second source}, related first source → related second source →
      first = second)
    : ∃ source : Nat → Nat,
        Set.InjOn source {position | origin position}
        ∧ ∀ position, origin position → related position (source position) := by
  choose! source found using total
  refine ⟨source, ?_, found⟩
  intro first firstOrigin second secondOrigin same
  have secondFound := found second secondOrigin
  rw [← same] at secondFound
  exact unique (found first firstOrigin) secondFound

section QuoteReplay

/-- An accepted quote and an earlier issue of it. -/
def QuoteSource (history : List Entry) (position source : Nat) : Prop :=
  ∃ session cache binding digest,
    At history position (.tarakoQuoteAccepted session cache binding digest)
    ∧ position < source
    ∧ At history source (.tarakoQuoteIssued binding digest)

theorem QuoteSource.unique {variant : Variant} {state : State} (reached : variant.Reached state)
    (named : variant.bindingInput = .requestContext) {first second source : Nat}
    (one : QuoteSource state.history first source)
    (other : QuoteSource state.history second source)
    : first = second := by
  obtain ⟨session, cache, binding, digest, accepted, _, issued⟩ := one
  obtain ⟨_, _, _, _, otherAccepted, _, otherIssued⟩ := other
  -- the one quote fixes the binding, and the binding the nonce that both acceptances use up
  have same := Entry.raised.inj (Option.some.inj (issued.symm.trans otherIssued))
  obtain ⟨rfl, rfl⟩ := Event.tarakoQuoteIssued.inj same
  have holds : variant.Accepted _ session cache binding digest :=
    reached.sound.justified_at accepted
  obtain ⟨request, nonce, rfl⟩ := holds.bound named
  exact reached.sound.position_eq accepted otherAccepted (if_pos named) (if_pos named)

/-- Acceptances of quotes map one to one to issues, where quotes are checked and a binding names
its request and nonce.
-/
theorem Variant.Reached.quotes_inject {variant : Variant} {state : State}
    (reached : variant.Reached state) (checked : variant.QuoteChecked)
    (named : variant.bindingInput = .requestContext)
    : ∃ source : Nat → Nat,
        Set.InjOn source
          {position | ∃ session cache binding digest,
            At state.history position (.tarakoQuoteAccepted session cache binding digest)}
        ∧ ∀ position session cache binding digest,
            At state.history position (.tarakoQuoteAccepted session cache binding digest)
            → position < source position
              ∧ At state.history (source position) (.tarakoQuoteIssued binding digest) := by
  have total (position : Nat)
      (origin : ∃ session cache binding digest,
        At state.history position (.tarakoQuoteAccepted session cache binding digest))
      : ∃ source, QuoteSource state.history position source := by
    obtain ⟨session, cache, binding, digest, accepted⟩ := origin
    have holds : variant.Accepted _ session cache binding digest :=
      reached.sound.justified_at accepted
    obtain ⟨source, earlier, found⟩ := Raised.at (holds.issued checked)
    exact ⟨source, _, _, _, _, accepted, earlier, found⟩
  obtain ⟨source, injective, found⟩ :=
    exists_injOn_source total (QuoteSource.unique reached named)
  refine ⟨source, injective, fun position session cache binding digest accepted => ?_⟩
  obtain ⟨_, _, _, _, again, earlier, issued⟩ := found position ⟨_, _, _, _, accepted⟩
  have same := Entry.raised.inj (Option.some.inj (accepted.symm.trans again))
  obtain ⟨_, _, rfl, rfl⟩ := Event.tarakoQuoteAccepted.inj same
  exact ⟨earlier, issued⟩

/-- In every run under attack, acceptances of quotes map one to one to earlier issues of the
same binding and digest, in whatever session and for whatever request they were raised.
-/
theorem accepted_quotes_inject {state : State} (reached : Reached state)
    : ∃ source : Nat → Nat,
        Set.InjOn source
          {position | ∃ session cache binding digest,
            At state.history position (.tarakoQuoteAccepted session cache binding digest)}
        ∧ ∀ position session cache binding digest,
            At state.history position (.tarakoQuoteAccepted session cache binding digest)
            → position < source position
              ∧ At state.history (source position) (.tarakoQuoteIssued binding digest) :=
  (Variant.sound_reached.mpr reached).quotes_inject Variant.sound_checked rfl

/-- Two acceptances of quotes for one request under one cached appraisal. -/
theorem accepted_quotes_inject_run
    : ∃ (state : State) (source : Nat → Nat),
        Reached state
        ∧ At state.history 3
            (.tarakoQuoteAccepted sampleSession sampleCache (sampleBinding 4)
              (.free .approvedTaDigest))
        ∧ At state.history 10
            (.tarakoQuoteAccepted sampleSession sampleCache (sampleBinding 3)
              (.free .approvedTaDigest))
        ∧ source 3 ≠ source 10
        ∧ At state.history (source 3)
            (.tarakoQuoteIssued (sampleBinding 4) (.free .approvedTaDigest)) := by
  obtain ⟨state, reached, _, second, first⟩ := sample_reached
  obtain ⟨source, injective, found⟩ := accepted_quotes_inject reached
  refine ⟨state, source, reached, second, first, ?_, (found _ _ _ _ _ second).2⟩
  intro same
  exact absurd (injective ⟨_, _, _, _, second⟩ ⟨_, _, _, _, first⟩ same) (by decide)

end QuoteReplay

section EndToEnd

/-- A client's acceptance, the verdict for its request, and the quote that the verdict rests
on.
-/
def ClientSource (history : List Entry) (position source : Nat) : Prop :=
  ∃ request nonce verdict,
    At history position (.clientAcceptedIntegrity request (.free .approvedTaDigest))
    ∧ position < verdict
    ∧ At history verdict (.integrityVerdictIssued request (.free .approvedTaDigest))
    ∧ Fresh (history.drop (verdict + 1)) .relyingVerifier nonce
    ∧ verdict < source
    ∧ At history source
        (.tarakoQuoteIssued (.hash (.requestContext request (.name nonce)))
          (.free .approvedTaDigest))

theorem ClientSource.unique {state : State} (reached : Reached state) {first second source : Nat}
    (one : ClientSource state.history first source)
    (other : ClientSource state.history second source)
    : first = second := by
  obtain ⟨request, nonce, _, accepted, _, _, _, _, issued⟩ := one
  obtain ⟨_, _, _, otherAccepted, _, _, _, _, otherIssued⟩ := other
  -- the one quote fixes the request, which both clients use up
  have same := Entry.raised.inj (Option.some.inj (issued.symm.trans otherIssued))
  have binding := (Event.tarakoQuoteIssued.inj same).1
  obtain ⟨_, rfl, _⟩ := Term.binary.inj (Term.hash.inj binding)
  obtain ⟨⟨name, rfl⟩, _⟩ := reached.sound.justified_at accepted
  exact reached.sound.position_eq accepted otherAccepted rfl rfl

/-- A client's acceptance goes back, event by event, to a quote for its own request. -/
theorem exists_clientSource {state : State} (reached : Reached state) {position : Nat}
    {request digest : Term}
    (accepted : At state.history position (.clientAcceptedIntegrity request digest))
    : digest = .free .approvedTaDigest
      ∧ ∃ source, ClientSource state.history position source := by
  obtain ⟨_, verdictRaised⟩ := reached.sound.justified_at accepted
  obtain ⟨verdict, afterVerdict, verdictAt⟩ := Raised.at (verdictRaised rfl rfl)
  obtain ⟨session, cache, nonce, fresh, quoteRaised⟩ := reached.sound.justified_at verdictAt
  obtain ⟨quote, afterQuote, quoteAt⟩ := Raised.at quoteRaised
  have quoteAccepted : Variant.sound.Accepted _ session cache _ digest :=
    reached.sound.justified_at quoteAt
  obtain rfl := quoteAccepted.approved rfl
  obtain ⟨source, afterIssue, issuedAt⟩ := Raised.at (quoteAccepted.issued Variant.sound_checked)
  exact ⟨rfl, source, request, nonce, verdict, accepted, afterVerdict, verdictAt, fresh,
    afterQuote.trans afterIssue, issuedAt⟩

/-- In every run under attack, acceptances by clients map one to one to earlier issues of a
quote with the approved digest, which is also the accepted one, for the client's request and a
nonce that a relying verifier generated; the verdict was issued in between.
-/
theorem client_acceptances_inject {state : State} (reached : Reached state)
    : ∃ source : Nat → Nat,
        Set.InjOn source
          {position | ∃ request digest,
            At state.history position (.clientAcceptedIntegrity request digest)}
        ∧ ∀ position request digest,
            At state.history position (.clientAcceptedIntegrity request digest)
            → digest = .free .approvedTaDigest
              ∧ ∃ nonce verdict,
                  position < verdict
                  ∧ At state.history verdict (.integrityVerdictIssued request digest)
                  ∧ Fresh (state.history.drop (verdict + 1)) .relyingVerifier nonce
                  ∧ verdict < source position
                  ∧ At state.history (source position)
                      (.tarakoQuoteIssued (.hash (.requestContext request (.name nonce)))
                        (.free .approvedTaDigest)) := by
  have total (position : Nat)
      (origin : ∃ request digest,
        At state.history position (.clientAcceptedIntegrity request digest))
      : ∃ source, ClientSource state.history position source := by
    obtain ⟨request, digest, accepted⟩ := origin
    exact (exists_clientSource reached accepted).2
  obtain ⟨source, injective, found⟩ := exists_injOn_source total (ClientSource.unique reached)
  refine ⟨source, injective, fun position request digest accepted => ?_⟩
  obtain ⟨_, nonce, verdict, again, rest⟩ := found position ⟨_, _, accepted⟩
  have same := Entry.raised.inj (Option.some.inj (accepted.symm.trans again))
  obtain ⟨rfl, rfl⟩ := Event.clientAcceptedIntegrity.inj same
  exact ⟨rfl, nonce, verdict, rest⟩

theorem client_acceptances_inject_run
    : ∃ state source,
        Reached state
        ∧ At state.history 0 (.clientAcceptedIntegrity (.name 0) (.free .approvedTaDigest))
        ∧ ∃ nonce,
            At state.history source
              (.tarakoQuoteIssued (.hash (.requestContext (.name 0) (.name nonce)))
                (.free .approvedTaDigest)) := by
  obtain ⟨state, reached, accepted, _⟩ := sample_reached
  obtain ⟨source, _, found⟩ := client_acceptances_inject reached
  obtain ⟨_, nonce, _, _, _, _, _, issued⟩ := found _ _ _ accepted
  exact ⟨state, source 0, reached, accepted, nonce, issued⟩

end EndToEnd

end Tarako.Symbolic
