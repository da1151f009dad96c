import Tarako.Symbolic.Establishment

/-! The signing keys stay with their owners: no private key can be derived from what the roles
send, so a signature that can be derived is one that an owner of the key has sent.
-/

namespace Tarako.Symbolic

open AppliedPi Term

/-- What the attacker can derive from the messages of a history. -/
abbrev Derives (history : List Entry) (term : Term) : Prop :=
  Derivable algebra (Output history) term

/-- All that the attacker knows or could compute is disclosed. -/
theorem Reached.disclosed {state : State} (reached : Reached state) {term : Term}
    (derives : Derives state.history term)
    : Variant.sound.Disclosed state.history term := by
  have closed := @Variant.closed Variant.sound
  rw [Variant.sound_algebra] at closed
  have sound := reached.sound
  obtain ⟨actions, run⟩ := reached
  exact sound.derivable closed (.reached run) derives

/-- The source model publishes no private key. -/
theorem Variant.sound_secret (key : FreeName) : Variant.sound.secret key = key.isPrivate :=
  Bool.and_true _

/-- In every run under attack, the attacker's knowledge is derivable from the messages sent; the
five private signing keys are not; and a derivable signature under one of them was sent, for
the same message, by a role that owns the key.
-/
theorem signing_keys_secret {state : State} (reached : Reached state)
    : (∀ term ∈ state.knowledge, Derives state.history term)
      ∧ ∀ key : FreeName,
          key.isPrivate = true
          → ¬ Derives state.history (.free key)
            ∧ ∀ message,
                Derives state.history (.sign message (.free key))
                → ∃ role ∈ key.owners, Sent state.history role (.sign message (.free key)) := by
  refine ⟨?_, fun key secret => ⟨fun derives => ?_, fun message derives => ?_⟩⟩
  · obtain ⟨actions, run⟩ := reached
    exact (Learned.reached run).derived
  · have shown : Variant.sound.secret key = false := reached.disclosed derives
    rw [Variant.sound_secret, secret] at shown
    cases shown
  · have shown := reached.disclosed derives
    exact (shown.2 key rfl ((Variant.sound_secret key).trans secret)).sent

/-- The attacker takes a quote out of the request for its appraisal, and the quoting entity has
sent that quote.
-/
theorem signing_keys_secret_run
    : ∃ state,
        Reached state
        ∧ ¬ Derives state.history (.free .tdxAttestationKey)
        ∧ Derives state.history sampleQuote
        ∧ Sent state.history .tdxQuotingEntity sampleQuote := by
  have evaluated : (AppliedPi.run algebra process sampleActions).map
      (fun state => state.history.contains
        (.sent .relyingVerifier (.tdxAppraisalRequest sampleQuote)))
      = some true := by
    rfl
  obtain ⟨state, run, found⟩ := Option.map_eq_some_iff.mp evaluated
  have reached : Reached state := ⟨sampleActions, run⟩
  have request : Derives state.history (.tdxAppraisalRequest sampleQuote) :=
    .given ⟨.relyingVerifier, List.contains_iff_mem.mp found⟩
  have quote : Derives state.history sampleQuote := by
    have projected : algebra.apply (.argument 0) [.tdxAppraisalRequest sampleQuote]
        = some sampleQuote := rfl
    refine .apply (fun argument member => ?_) projected
    rw [List.mem_singleton.mp member]
    exact request
  obtain ⟨keySecret, signed⟩ := (signing_keys_secret reached).2 .tdxAttestationKey rfl
  obtain ⟨role, owner, sent⟩ := signed _ quote
  rw [List.mem_singleton.mp owner] at sent
  exact ⟨state, reached, keySecret, quote, sent⟩

end Tarako.Symbolic
