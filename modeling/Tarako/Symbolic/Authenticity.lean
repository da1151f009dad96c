import Tarako.Symbolic.Variants

/-! What the attacker can come to know, and which events the roles can raise: a signature under
a private key that is known was sent by an owner of the key, after the events it stands for. The
argument is made once for all variants, with each step under the assumptions that it uses; in
the source model all of them hold.
-/

namespace Tarako.Symbolic

open AppliedPi Term

abbrev Raised (history : List Entry) (event : Event) : Prop :=
  .raised event ∈ history

abbrev Sent (history : List Entry) (role : Role) (message : Term) : Prop :=
  .sent role message ∈ history

abbrev Fresh (history : List Entry) (role : Role) (name : Nat) : Prop :=
  .fresh role name ∈ history

/-- The roles that sign with a key. -/
def FreeName.owners : FreeName → List Role
  | tdxAttestationKey => [.tdxQuotingEntity]
  | tdxVerifierKey => [.tdxOpaqueVerifier]
  | imaVerifierKey => [.imaOpaqueVerifier]
  | tarakoSigningKey => [.tarakoEntity, .untrustedCaller]
  | relyingVerifierKey => [.relyingVerifier]
  | _ => []

namespace Variant

-----------------------------------------------------------------------------------------
-- What a run keeps
-----------------------------------------------------------------------------------------

/-- What a message signed with a secret key stands for. The IMA verifier vouches for the Tarako
key only if it looks into the log.
-/
def StandsFor (variant : Variant) (history : List Entry) (key : FreeName) (message : Term) : Prop :=
  match key with
  | .tdxAttestationKey =>
      ∃ challenge measurement rtmr,
        message = .tdxClaim challenge measurement rtmr
        ∧ Raised history (.tdxQuoteIssued challenge measurement rtmr)
  | .tdxVerifierKey =>
      ∃ quoteBinding challenge rtmr,
        message = .tdxAppraisalAnswer quoteBinding challenge rtmr
        ∧ Raised history
            (.tdxAnswerIssued (.hash (.sign message (.free key))) quoteBinding challenge rtmr)
  | .imaVerifierKey =>
      ∃ tdxAnswerBinding evidenceBinding vouched,
        message = .imaAppraisalAnswer tdxAnswerBinding evidenceBinding vouched
        ∧ (variant.makes .imaServiceLogMembership = true → vouched = tarakoPublicKey)
        ∧ Raised history
            (.imaAnswerIssued (.hash (.sign message (.free key))) tdxAnswerBinding
              evidenceBinding vouched)
  | .tarakoSigningKey =>
      ∃ binding digest,
        message = .tarakoClaim binding digest
        ∧ Raised history (.tarakoQuoteIssued binding digest)
  | .relyingVerifierKey =>
      ∃ request digest,
        message = .integrityVerdict request digest
        ∧ Raised history (.integrityVerdictIssued request digest)
  | _ => True

/-- A signature under a secret key comes from one of its owners. -/
structure Genuine (variant : Variant) (history : List Entry) (message : Term) (key : FreeName)
    : Prop where
  sent : ∃ role ∈ key.owners, Sent history role (.sign message (.free key))
  standsFor : variant.StandsFor history key message

/-- What the attacker may know after a history. Names, hashes, roots and public keys are given
away; signatures under secret keys must be genuine.
-/
def Disclosed (variant : Variant) (history : List Entry) : Term → Prop
  | .name _ => True
  | .free value => variant.secret value = false
  | .publicKey _ => True
  | .sign message key =>
      variant.Disclosed history message
      ∧ ∀ owned, key = .free owned → variant.secret owned = true →
          variant.Genuine history message owned
  | .hash _ => True
  | .imaRoot _ _ => True
  | .unary _ argument => variant.Disclosed history argument
  | .binary _ first second => variant.Disclosed history first ∧ variant.Disclosed history second
  | .ternary _ first second third =>
      variant.Disclosed history first
      ∧ variant.Disclosed history second
      ∧ variant.Disclosed history third

/-- The key that a relying verifier caches is the Tarako key. -/
structure KeyVouched (variant : Variant) : Prop where
  secret : variant.secret .imaVerifierKey = true
  listed : variant.makes .imaServiceLogMembership = true
  answered : variant.makes .relyingVerifierImaServiceSignature = true

/-- And a quote that it accepts is signed with that key, for the binding it asked for. -/
structure QuoteChecked (variant : Variant) : Prop extends variant.KeyVouched where
  signer : variant.secret .tarakoSigningKey = true
  signed : variant.makes .relyingVerifierTarakoSignature = true
  compared : variant.makes .relyingVerifierRequestBinding = true

/-- What a relying verifier has established when it starts to serve requests. -/
structure Established (variant : Variant) (history : List Entry) (session : Session) (cache : Term)
    : Prop where
  hashed : ∃ answer, cache = .hash answer
  key : variant.KeyVouched → session.tarakoPublicKey = tarakoPublicKey
  sessionId : Fresh history .relyingVerifier session.sessionId
  verifierNonce : Fresh history .relyingVerifier session.verifierNonce
  appraised : ∃ tdxAnswerBinding quoteBinding rtmr evidenceBinding,
    Raised history (.tdxAnswerAccepted tdxAnswerBinding quoteBinding session.tdxChallenge rtmr)
    ∧ Raised history
      (.imaAnswerAccepted cache tdxAnswerBinding evidenceBinding session.tarakoPublicKey)

/-- And when it accepts a quote. -/
structure Accepted (variant : Variant) (history : List Entry) (session : Session)
    (cache binding digest : Term) : Prop
    extends variant.Established history session cache where
  approved : variant.makes .relyingVerifierApprovedDigest = true → digest = .free .approvedTaDigest
  bound : variant.bindingInput = .requestContext →
    ∃ request nonce, binding = .hash (.requestContext request (.name nonce))
  issued : variant.QuoteChecked → Raised history (.tarakoQuoteIssued binding digest)

/-- What each event relies on, and under which assumptions. The cases are the correspondences
that the model queries, and what the role has checked itself.
-/
def Justified (variant : Variant) (history : List Entry) : Event → Prop
  | .tdxQuoteIssued _ _ _ => True
  | .tdxQuoteVerified challenge measurement rtmr =>
      variant.secret .tdxAttestationKey = true
      → variant.makes .tdxServiceQuoteSignature = true
      → Raised history (.tdxQuoteIssued challenge measurement rtmr)
  | .tdxAnswerIssued answerBinding quoteBinding challenge rtmr =>
      let quote :=
        .sign (.tdxClaim challenge (.free .approvedTdxMeasurement) rtmr) (.free .tdxAttestationKey)
      answerBinding
        = .hash (.sign (.tdxAppraisalAnswer quoteBinding challenge rtmr) (.free .tdxVerifierKey))
      ∧ (variant.secret .tdxAttestationKey = true
        → variant.makes .tdxServiceQuoteSignature = true
        → quoteBinding = .hash quote
          ∧ Raised history (.tdxQuoteIssued challenge (.free .approvedTdxMeasurement) rtmr))
  | .tdxAnswerAccepted answerBinding quoteBinding challenge rtmr =>
      variant.secret .tdxVerifierKey = true
      → variant.makes .relyingVerifierTdxServiceSignature = true
      → Raised history (.tdxAnswerIssued answerBinding quoteBinding challenge rtmr)
  | .imaLogCommitted _ _ => True
  | .imaEvidenceVerified tdxAnswerBinding root key =>
      (variant.makes .imaServiceLogMembership = true → Raised history (.imaLogCommitted root key))
      ∧ (variant.secret .tdxVerifierKey = true
        → variant.makes .imaServiceTdxVerifierSignature = true
        → variant.makes .imaServiceRtmrComparison = true
        → ∃ quoteBinding challenge,
            Raised history
              (.tdxAnswerIssued tdxAnswerBinding quoteBinding challenge (.rtmrWithIma root)))
  | .imaAnswerIssued _ tdxAnswerBinding _ key =>
      variant.makes .imaServiceLogMembership = true
      → key = tarakoPublicKey
        ∧ Raised history (.imaEvidenceVerified tdxAnswerBinding currentImaRoot key)
  | .imaAnswerAccepted answerBinding tdxAnswerBinding evidenceBinding key =>
      variant.secret .imaVerifierKey = true
      → variant.makes .relyingVerifierImaServiceSignature = true
      → Raised history (.imaAnswerIssued answerBinding tdxAnswerBinding evidenceBinding key)
  | .tarakoQuoteIssued _ _ => True
  | .tarakoQuoteAccepted session cache binding digest =>
      variant.Accepted history session cache binding digest
  | .integrityVerdictIssued request digest =>
      ∃ session cache nonce,
        Fresh history .relyingVerifier nonce
        ∧ Raised history
            (.tarakoQuoteAccepted session cache (variant.requestBinding cache request nonce) digest)
  | .clientAcceptedIntegrity request digest =>
      (∃ name, request = .name name)
      ∧ (variant.secret .relyingVerifierKey = true
        → variant.makes .clientRelyingVerifierSignature = true
        → Raised history (.integrityVerdictIssued request digest))

/-- The name that an acceptance uses up: the nonce of the handler, where the binding names it,
and the request of the client.
-/
def spends (variant : Variant) : Event → Option Nat
  | .tarakoQuoteAccepted _ _ (.hash (.requestContext _ (.name nonce))) _ =>
      if variant.bindingInput = .requestContext then some nonce else none
  | .clientAcceptedIntegrity (.name request) _ => some request
  | _ => none

variable {variant : Variant} {history older newer : List Entry}

theorem StandsFor.later (grown : older <:+ newer) {key : FreeName} {message : Term}
    (holds : variant.StandsFor older key message)
    : variant.StandsFor newer key message := by
  cases key with
  | tdxAttestationKey | tdxVerifierKey =>
      obtain ⟨first, second, third, shape, raised⟩ := holds
      exact ⟨first, second, third, shape, grown.mem raised⟩
  | imaVerifierKey =>
      obtain ⟨first, second, third, shape, listed, raised⟩ := holds
      exact ⟨first, second, third, shape, listed, grown.mem raised⟩
  | tarakoSigningKey | relyingVerifierKey =>
      obtain ⟨first, second, shape, raised⟩ := holds
      exact ⟨first, second, shape, grown.mem raised⟩
  | _ => trivial

theorem Genuine.later (grown : older <:+ newer) {message : Term} {key : FreeName}
    (genuine : variant.Genuine older message key)
    : variant.Genuine newer message key := by
  obtain ⟨role, owner, sent⟩ := genuine.sent
  exact ⟨⟨role, owner, grown.mem sent⟩, genuine.standsFor.later grown⟩

theorem Disclosed.later (grown : older <:+ newer) {term : Term}
    (disclosed : variant.Disclosed older term)
    : variant.Disclosed newer term := by
  induction term with
  | sign message key message_ih _ =>
      refine ⟨message_ih disclosed.1, fun name same secret => ?_⟩
      exact (disclosed.2 name same secret).later grown
  | unary _ argument ih => exact ih disclosed
  | binary _ first second first_ih second_ih =>
      exact ⟨first_ih disclosed.1, second_ih disclosed.2⟩
  | ternary _ first second third first_ih second_ih third_ih =>
      exact ⟨first_ih disclosed.1, second_ih disclosed.2.1, third_ih disclosed.2.2⟩
  | _ => exact disclosed

theorem Established.later (grown : older <:+ newer) {session : Session} {cache : Term}
    (established : variant.Established older session cache)
    : variant.Established newer session cache := by
  obtain ⟨_, _, _, _, tdxAccepted, imaAccepted⟩ := established.appraised
  exact ⟨established.hashed, established.key, grown.mem established.sessionId,
    grown.mem established.verifierNonce, _, _, _, _, grown.mem tdxAccepted, grown.mem imaAccepted⟩

theorem Justified.later (grown : older <:+ newer) {event : Event}
    (justified : variant.Justified older event)
    : variant.Justified newer event := by
  cases event with
  | tdxQuoteVerified | tdxAnswerAccepted | imaAnswerAccepted =>
      exact fun secret made => grown.mem (justified secret made)
  | tdxAnswerIssued =>
      obtain ⟨answer, quoted⟩ := justified
      refine ⟨answer, fun secret made => ?_⟩
      exact ⟨(quoted secret made).1, grown.mem (quoted secret made).2⟩
  | imaEvidenceVerified =>
      obtain ⟨committed, answered⟩ := justified
      refine ⟨fun made => grown.mem (committed made), fun secret signed compared => ?_⟩
      obtain ⟨_, _, issued⟩ := answered secret signed compared
      exact ⟨_, _, grown.mem issued⟩
  | imaAnswerIssued =>
      exact fun made => ⟨(justified made).1, grown.mem (justified made).2⟩
  | tarakoQuoteAccepted =>
      exact ⟨justified.toEstablished.later grown, justified.approved, justified.bound,
        fun checked => grown.mem (justified.issued checked)⟩
  | integrityVerdictIssued =>
      obtain ⟨_, _, _, fresh, accepted⟩ := justified
      exact ⟨_, _, _, grown.mem fresh, grown.mem accepted⟩
  | clientAcceptedIntegrity =>
      obtain ⟨request, issued⟩ := justified
      exact ⟨request, fun secret made => grown.mem (issued secret made)⟩
  | _ => trivial

/-- The table holds the key of the committed log only. -/
def Logged (history : List Entry) (row : Term × Term) : Prop :=
  row = (currentImaRoot, .imaKeyEntry tarakoPublicKey)
  ∧ Raised history (.imaLogCommitted currentImaRoot tarakoPublicKey)

/-- The rules of a variant. -/
def rules (variant : Variant) : Rules Term (Term × Term) Role Event where
  known := variant.Disclosed
  stored := Logged
  justified := variant.Justified
  spends := variant.spends
  known_later grown disclosed := disclosed.later grown
  stored_later grown logged := ⟨logged.1, grown.mem logged.2⟩

-----------------------------------------------------------------------------------------
-- The attacker
-----------------------------------------------------------------------------------------

/-- The arguments of a disclosed data term are disclosed. -/
theorem Disclosed.arguments {term argument : Term} (disclosed : variant.Disclosed history term)
    (member : argument ∈ term.arguments)
    : variant.Disclosed history argument := by
  cases term with
  | unary _ first =>
      rw [List.mem_singleton.mp member]
      exact disclosed
  | binary _ first second =>
      obtain ⟨firstShown, secondShown⟩ := disclosed
      simp only [Term.arguments, List.mem_cons, List.not_mem_nil, or_false] at member
      rcases member with rfl | rfl
      · exact firstShown
      · exact secondShown
  | ternary _ first second third =>
      obtain ⟨firstShown, secondShown, thirdShown⟩ := disclosed
      simp only [Term.arguments, List.mem_cons, List.not_mem_nil, or_false] at member
      rcases member with rfl | rfl | rfl
      · exact firstShown
      · exact secondShown
      · exact thirdShown
  | _ => cases member

/-- A verified message is disclosed with its signature. -/
theorem Disclosed.verified {signature key message : Term}
    (disclosed : variant.Disclosed history signature)
    (verified : verify signature key = some message)
    : variant.Disclosed history message := by
  unfold verify at verified
  split at verified
  · split at verified
    · rw [← Option.some.inj verified]
      exact disclosed.1
    · cases verified
  · cases verified

/-- Operations other than the free names are those of the source model. The attacker signs with
no secret key, since it knows none.
-/
theorem disclosed_apply {op : Op} {arguments : List Term} {result : Term}
    (other : ∀ value, op = .free value → arguments ≠ [])
    (known : ∀ argument ∈ arguments, variant.Disclosed history argument)
    (applied : op.apply arguments = some result)
    : variant.Disclosed history result := by
  unfold Op.apply at applied
  split at applied
  · next value =>
      split at applied
      · cases applied
      · exact absurd rfl (other value rfl)
  · cases applied
    trivial
  · next message key =>
      cases applied
      have keyShown : variant.Disclosed history key := known key (by simp)
      refine ⟨known message (by simp), fun name same secret => ?_⟩
      rw [same] at keyShown
      exact absurd (secret.symm.trans keyShown) (by decide)
  · cases applied
    trivial
  · cases applied
    trivial
  · next term =>
      cases applied
      exact known term (by simp)
  · cases applied
    exact ⟨known _ (by simp), known _ (by simp)⟩
  · cases applied
    exact ⟨known _ (by simp), known _ (by simp), known _ (by simp)⟩
  · next term => exact (known term (by simp)).arguments (List.mem_of_getElem? applied)
  · next signature key => exact (known signature (by simp)).verified applied
  · cases applied

/-- The attacker cannot leave the disclosed terms. -/
theorem closed : variant.rules.Closed variant.algebra where
  name _ _ := trivial
  apply {history op arguments result} known applied := by
    change variant.apply op arguments = some result at applied
    unfold apply at applied
    split at applied
    · next value =>
        split at applied
        · cases applied
        · next given =>
            cases applied
            exact (Bool.not_eq_true _).mp given
    · next other => exact disclosed_apply other known applied

-----------------------------------------------------------------------------------------
-- The checks
-----------------------------------------------------------------------------------------

/-- What is read from a disclosed message is disclosed, whether or not its signature is checked.
-/
theorem Disclosed.content {check : Check} {received key message : Term}
    (disclosed : variant.Disclosed history received)
    (opened : variant.content check received key = some message)
    : variant.Disclosed history message := by
  unfold Variant.content at opened
  split at opened
  · exact disclosed.verified opened
  · rw [← Option.some.inj opened]
    exact disclosed

/-- What a disclosed message stands for, if its signature is checked with a secret key. -/
theorem Disclosed.genuine {check : Check} {received message : Term} {key : FreeName}
    (disclosed : variant.Disclosed history received) (secret : variant.secret key = true)
    (made : variant.makes check = true)
    (opened : variant.content check received (.publicKey (.free key)) = some message)
    : received = .sign message (.free key) ∧ variant.StandsFor history key message := by
  unfold Variant.content at opened
  rw [if_pos made] at opened
  have shape := verify_eq_some.mp opened
  rw [shape] at disclosed
  exact ⟨shape, (disclosed.2 key rfl secret).standsFor⟩

/-- What an owner has signed is known with the events it stands for. -/
theorem Disclosed.signed {message : Term} {key : FreeName} {role : Role}
    (shown : variant.Disclosed history message) (owner : role ∈ key.owners)
    (sent : Sent history role (.sign message (.free key)))
    (stands : variant.StandsFor history key message)
    : variant.Disclosed history (.sign message (.free key)) := by
  refine ⟨shown, fun name same _ => ?_⟩
  cases same
  exact ⟨⟨role, owner, sent⟩, stands⟩

theorem require_safe {check : Check} {condition : Prop} [Decidable condition] {next : Process}
    {owned : List Nat}
    (safe : (variant.makes check = true → condition) → variant.rules.Safe next owned history)
    : variant.rules.Safe (variant.require check condition next) owned history := by
  unfold require
  split_ifs with made holds
  · exact safe fun _ => holds
  · trivial
  · exact safe fun makes => absurd makes made

theorem requireLogged_safe {root key : Term} {next : Process} {owned : List Nat}
    (safe : ∀ later, history <:+ later →
      (variant.makes .imaServiceLogMembership = true →
        root = currentImaRoot ∧ key = tarakoPublicKey ∧ Raised later (.imaLogCommitted root key)) →
      variant.rules.Safe next owned later)
    : variant.rules.Safe (variant.requireLogged root key next) owned history := by
  unfold requireLogged
  split_ifs with made
  · refine .look fun later grown row stored => ?_
    obtain ⟨rfl, committed⟩ := stored
    split_ifs with listed
    · obtain ⟨rfl, entry⟩ := Prod.mk.inj listed
      obtain ⟨_, rfl⟩ := Term.unary.inj entry
      exact safe later grown fun _ => ⟨rfl, rfl, committed⟩
    · trivial
  · exact safe history (List.suffix_refl _) fun makes => absurd makes made

-----------------------------------------------------------------------------------------
-- The roles
-----------------------------------------------------------------------------------------

theorem tdxQuotingEntity_safe {rtmr : Term} (shown : ∀ history, variant.Disclosed history rtmr)
    : variant.rules.Safe (tdxQuotingEntity (.free .approvedTdxMeasurement) rtmr) [] history := by
  refine .serve fun asked _ message known => ?_
  split
  · next challenge =>
      refine .raise rfl (fun _ _ => trivial) fun issued grown raised => ?_
      refine .answer fun signed more sent => ?_
      have challengeShown : variant.Disclosed signed challenge :=
        Disclosed.later (grown.trans more) known
      refine .signed ⟨challengeShown, rfl, shown signed⟩ (by decide) sent ?_
      exact ⟨_, _, _, rfl, more.mem raised⟩
  · trivial

theorem tdxOpaqueVerifier_safe : variant.rules.Safe variant.tdxOpaqueVerifier [] history := by
  refine .serve fun asked _ message known => ?_
  split
  · next quote =>
      have quoteShown : variant.Disclosed asked quote := known
      split
      · next challenge rtmr opened =>
          have claimShown := quoteShown.content opened
          have genuine (secret : variant.secret .tdxAttestationKey = true)
              (made : variant.makes .tdxServiceQuoteSignature = true)
              : quote = .sign (.tdxClaim challenge (.free .approvedTdxMeasurement) rtmr)
                  (.free .tdxAttestationKey)
                ∧ Raised asked (.tdxQuoteIssued challenge (.free .approvedTdxMeasurement) rtmr) := by
            obtain ⟨shape, _, _, _, same, issued⟩ := quoteShown.genuine secret made opened
            obtain ⟨_, rfl, rfl, rfl⟩ := Term.ternary.inj same
            exact ⟨shape, issued⟩
          refine .raise rfl ?_ fun checked grown _ => .raise rfl ?_ fun answered more raised => ?_
          · intro later grown secret made
            exact grown.mem (genuine secret made).2
          · intro later more
            refine ⟨rfl, fun secret made => ?_⟩
            obtain ⟨shape, issued⟩ := genuine secret made
            exact ⟨congrArg Term.hash shape, more.mem (grown.mem issued)⟩
          · refine .answer fun signed last sent => ?_
            have shown := claimShown.later ((grown.trans more).trans last)
            refine .signed ⟨trivial, shown.1, shown.2.2⟩ (by decide) sent ?_
            exact ⟨_, _, _, rfl, last.mem raised⟩
      · trivial
  · trivial

theorem imaLogEntity_safe
    : variant.rules.Safe (imaLogEntity currentImaRoot tarakoPublicKey) [] history := by
  refine .serve fun asked _ message known => ?_
  split
  · next binding => exact .forward ⟨known, trivial, trivial⟩ fun _ _ => trivial
  · trivial

theorem imaAnswer_safe {binding evidence root key : Term}
    (evidenceShown : variant.Disclosed history (.imaEvidence binding root key))
    (listed : variant.makes .imaServiceLogMembership = true →
      root = currentImaRoot ∧ key = tarakoPublicKey ∧ Raised history (.imaLogCommitted root key))
    (answered : variant.secret .tdxVerifierKey = true →
      variant.makes .imaServiceTdxVerifierSignature = true →
      variant.makes .imaServiceRtmrComparison = true →
      ∃ quoteBinding challenge,
        Raised history (.tdxAnswerIssued binding quoteBinding challenge (.rtmrWithIma root)))
    : variant.rules.Safe (imaAnswer binding evidence root key) [] history := by
  refine .raise rfl ?_ fun checked grown evidenceRaised => ?_
  · intro later grown
    refine ⟨fun made => grown.mem (listed made).2.2, fun secret signed compared => ?_⟩
    obtain ⟨quoteBinding, challenge, issued⟩ := answered secret signed compared
    exact ⟨quoteBinding, challenge, grown.mem issued⟩
  · refine .raise rfl ?_ fun issued more raised => .answer ?_
    · intro later more made
      obtain ⟨rfl, own, _⟩ := listed made
      exact ⟨own, more.mem evidenceRaised⟩
    · intro signed last sent
      obtain ⟨bindingShown, _, keyShown⟩ := evidenceShown.later ((grown.trans more).trans last)
      refine .signed ⟨bindingShown, trivial, keyShown⟩ (by decide) sent ?_
      exact ⟨_, _, _, rfl, fun made => (listed made).2.1, last.mem raised⟩

theorem imaOpaqueVerifier_safe : variant.rules.Safe variant.imaOpaqueVerifier [] history := by
  refine .serve fun asked _ message known => ?_
  split
  · next answer evidence =>
      obtain ⟨answerShown, evidenceShown⟩
        : variant.Disclosed asked answer ∧ variant.Disclosed asked evidence := known
      split
      · next rtmr opened =>
          dsimp only
          split
          · next root key =>
              split_ifs with bound
              · subst bound
                refine require_safe fun compared => requireLogged_safe fun later grown listed => ?_
                refine imaAnswer_safe (evidenceShown.later grown) listed fun secret made checks => ?_
                obtain ⟨shape, _, _, _, same, issued⟩ := answerShown.genuine secret made opened
                obtain ⟨_, rfl, rfl, rfl⟩ := Term.ternary.inj same
                rw [← shape, compared checks] at issued
                exact ⟨_, _, grown.mem issued⟩
              · trivial
          · trivial
      · trivial
  · trivial

/-- Both callers of the Tarako key: they sign any binding with their own digest. -/
theorem quoteIssuer_safe {role : Role} {digest : FreeName} {binding : Term}
    (owner : role ∈ FreeName.tarakoSigningKey.owners) (shown : digest.isPrivate = false)
    (bindingShown : variant.Disclosed history binding)
    : variant.rules.Safe
        (.event (.tarakoQuoteIssued binding (.free digest)) <|
          .output role
            (.sign (.tarakoClaim binding (.free digest)) (.free .tarakoSigningKey))
            .stop)
        [] history := by
  have digestShown : variant.secret digest = false := by
    rw [secret, shown]
    rfl
  refine .raise rfl (fun _ _ => trivial) fun issued grown raised => ?_
  refine .answer fun signed more sent => ?_
  refine .signed ⟨bindingShown.later (grown.trans more), digestShown⟩ owner sent ?_
  exact ⟨_, _, rfl, more.mem raised⟩

theorem tarakoEntity_safe : variant.rules.Safe tarakoEntity [] history := by
  refine .serve fun asked _ message known => ?_
  split
  · exact quoteIssuer_safe (by decide) rfl known
  · trivial

theorem untrustedCaller_safe : variant.rules.Safe untrustedCaller [] history := by
  refine .serve fun asked _ message known => ?_
  split
  · exact quoteIssuer_safe (by decide) rfl known
  · trivial

/-- A verified quote was issued for the binding of the request. -/
theorem Established.issued {session : Session} {cache quote : Term}
    (established : variant.Established older session cache)
    (shown : variant.Disclosed history quote) {bound binding digest : Term}
    (opened : variant.content .relyingVerifierTarakoSignature quote session.tarakoPublicKey
      = some (.tarakoClaim bound digest))
    (compared : variant.makes .relyingVerifierRequestBinding = true → bound = binding)
    (checked : variant.QuoteChecked)
    : Raised history (.tarakoQuoteIssued binding digest) := by
  rw [established.key checked.toKeyVouched] at opened
  obtain ⟨_, _, _, same, issued⟩ := shown.genuine checked.signer checked.signed opened
  obtain ⟨_, rfl, rfl⟩ := Term.binary.inj same
  rw [compared checked.compared] at issued
  exact issued

/-- The verdict, after the checks of the handler, uses up the nonce that the handler generated.
-/
theorem verdict_safe {session : Session} {cache request digest : Term} {nonce : Nat}
    {owned : List Nat}
    (accepted : variant.Accepted history session cache
      (variant.requestBinding cache request nonce) digest)
    (fresh : Fresh history .relyingVerifier nonce)
    (requestShown : variant.Disclosed history request)
    (digestShown : variant.Disclosed history digest)
    : variant.rules.Safe
        (verdict session cache (variant.requestBinding cache request nonce) request digest)
        (nonce :: owned) history := by
  let event : Event :=
    .tarakoQuoteAccepted session cache (variant.requestBinding cache request nonce) digest
  have held : variant.Justified history event := accepted
  have justified (later : List Entry) (grown : history <:+ later)
      : variant.Justified later event := held.later grown
  have verdictSafe (later : List Entry) (grown : history <:+ later) (raised : Raised later event)
      (left : List Nat)
      : variant.rules.Safe
          (.event (.integrityVerdictIssued request digest) <|
            .output .relyingVerifier
              (.sign (.integrityVerdict request digest) (.free .relyingVerifierKey))
              .stop)
          left later := by
    refine .raise rfl ?_ fun issued more verdictRaised => .answer fun signed last sent => ?_
    · intro issued more
      exact ⟨_, _, nonce, (grown.trans more).mem fresh, more.mem raised⟩
    · have past := grown.trans (more.trans last)
      refine .signed ⟨requestShown.later past, digestShown.later past⟩ (by decide) sent ?_
      exact ⟨_, _, rfl, last.mem verdictRaised⟩
  by_cases named : variant.bindingInput = .requestContext
  · refine .spend ?_ justified fun later grown raised => verdictSafe later grown raised _
    simp [rules, spends, requestBinding, named]
  · refine .raise ?_ justified fun later grown raised => verdictSafe later grown raised _
    simp only [rules, spends]
    split
    · exact if_neg named
    · next other => cases other
    · rfl

theorem requestHandler_safe {session : Session} {cache : Term} {owned : List Nat}
    (established : variant.Established history session cache)
    : variant.rules.Safe (variant.requestHandler session cache) owned history := by
  refine .serve fun asked started message known => ?_
  split
  · next request =>
      have requestShown : variant.Disclosed asked request := known
      refine .generate fun drawn nonce grown fresh => ?_
      have bindingShown : variant.Disclosed drawn (variant.requestBinding cache request nonce) := by
        obtain ⟨answer, shape⟩ := established.hashed
        rw [requestBinding, shape]
        split <;> trivial
      refine .forward bindingShown fun requested more => ?_
      refine .receive fun received further quote shown => ?_
      have quoteShown : variant.Disclosed received quote := shown
      have past := grown.trans (more.trans further)
      split
      · next bound digest opened =>
          refine require_safe fun compared => require_safe fun approved => ?_
          have claimShown := quoteShown.content opened
          refine verdict_safe ⟨established.later (started.trans past), approved, ?_, ?_⟩
            ((more.trans further).mem fresh) (requestShown.later past) claimShown.2
          · intro named
            refine ⟨request, nonce, ?_⟩
            rw [requestBinding, named]
          · exact established.issued quoteShown opened compared
      · trivial
  · trivial

theorem imaAppraisal_safe {sessionId verifierNonce : Nat} {answer : Term} {owned : List Nat}
    (idFresh : Fresh history .relyingVerifier sessionId)
    (nonceFresh : Fresh history .relyingVerifier verifierNonce)
    (answerShown : variant.Disclosed history answer) {quoteBinding rtmr : Term}
    (accepted : Raised history
      (.tdxAnswerAccepted (.hash answer) quoteBinding
        (.hash (.sessionContext (.name sessionId) (.name verifierNonce))) rtmr))
    : variant.rules.Safe (variant.imaAppraisal sessionId verifierNonce answer) owned history := by
  refine .forward trivial fun asked grown => .receive fun replied more evidence evidenceShown => ?_
  refine .forward ⟨answerShown.later (grown.trans more), evidenceShown⟩ fun sent further => ?_
  refine .receive fun received last imaAnswer shown => ?_
  have imaAnswerShown : variant.Disclosed received imaAnswer := shown
  have past := (grown.trans more).trans (further.trans last)
  split
  · next bound boundEvidence key opened =>
      split_ifs with own
      · obtain ⟨rfl, rfl⟩ := own
        have genuine (secret : variant.secret .imaVerifierKey = true)
            (made : variant.makes .relyingVerifierImaServiceSignature = true)
            : (variant.makes .imaServiceLogMembership = true → key = tarakoPublicKey)
              ∧ Raised received
                  (.imaAnswerIssued (.hash imaAnswer) (.hash answer) (.hash evidence) key) := by
          obtain ⟨shape, _, _, _, same, listed, issued⟩ := imaAnswerShown.genuine secret made opened
          obtain ⟨_, rfl, rfl, rfl⟩ := Term.ternary.inj same
          rw [← shape] at issued
          exact ⟨listed, issued⟩
        refine .raise rfl ?_ fun later final imaAccepted => ?_
        · intro later final secret made
          exact final.mem (genuine secret made).2
        · have tdxAccepted := final.mem (past.mem accepted)
          refine requestHandler_safe ⟨⟨_, rfl⟩, ?_, ?_, ?_, _, _, _, _, tdxAccepted, imaAccepted⟩
          · intro vouched
            exact (genuine vouched.secret vouched.answered).1 vouched.listed
          · exact final.mem (past.mem idFresh)
          · exact final.mem (past.mem nonceFresh)
      · trivial
  · trivial

theorem relyingVerifier_safe : variant.rules.Safe variant.relyingVerifier [] history := by
  refine .generate fun first sessionId _ idFresh => ?_
  refine .generate fun second verifierNonce grown nonceFresh => ?_
  refine .forward trivial fun asked more => .receive fun quoted further quote quoteShown => ?_
  refine .forward quoteShown fun sent last => .receive fun received final answer shown => ?_
  have answerShown : variant.Disclosed received answer := shown
  have past := more.trans (further.trans (last.trans final))
  split
  · next boundQuote boundChallenge rtmr opened =>
      split_ifs with own
      · obtain ⟨rfl, rfl⟩ := own
        refine .raise rfl ?_ fun later next accepted => ?_
        · intro later grown secret made
          obtain ⟨shape, _, _, _, same, issued⟩ := answerShown.genuine secret made opened
          obtain ⟨_, rfl, rfl, rfl⟩ := Term.ternary.inj same
          rw [← shape] at issued
          exact grown.mem issued
        · refine imaAppraisal_safe ?_ ?_ (answerShown.later next) accepted
          · exact next.mem (past.mem (grown.mem idFresh))
          · exact next.mem (past.mem nonceFresh)
      · trivial
  · trivial

/-- A client uses up its request when it accepts. -/
theorem client_safe : variant.rules.Safe variant.client [] history := by
  intro _ _
  refine .generate fun drawn request _ _ => ?_
  refine .forward trivial fun asked _ => .receive fun received _ verdict verdictShown => ?_
  split
  · next bound digest opened =>
      split_ifs with own
      · subst own
        refine .spend rfl (fun later grown => ⟨⟨request, rfl⟩, fun secret made => ?_⟩)
          fun _ _ _ => trivial
        obtain ⟨_, _, _, same, issued⟩ := Disclosed.genuine verdictShown secret made opened
        obtain ⟨_, rfl, rfl⟩ := Term.binary.inj same
        exact grown.mem issued
      · trivial
  · trivial

/-- The roles in parallel respect the rules. -/
theorem roles_safe : variant.rules.Safe variant.roles [] history := by
  refine .together (tdxQuotingEntity_safe fun _ => trivial) ?_
  refine .together (tdxQuotingEntity_safe fun _ => trivial) ?_
  refine .together tdxOpaqueVerifier_safe ?_
  refine .together imaLogEntity_safe ?_
  refine .together imaOpaqueVerifier_safe ?_
  refine .together tarakoEntity_safe ?_
  refine .together untrustedCaller_safe ?_
  refine .together (fun _ _ => relyingVerifier_safe) client_safe

/-- And so does the process, which commits the log first. -/
theorem process_safe : variant.rules.Safe variant.process [] [] := by
  refine .raise rfl (fun _ _ => trivial) fun committed _ raised => ?_
  intro later grown
  exact ⟨⟨rfl, grown.mem raised⟩, roles_safe⟩

-----------------------------------------------------------------------------------------
-- The runs
-----------------------------------------------------------------------------------------

variable {state : State}

/-- What holds in every state that a variant reaches under attack. -/
theorem Reached.sound (reached : variant.Reached state) : variant.rules.Sound state := by
  obtain ⟨actions, run⟩ := reached
  exact .reached closed process_safe run

/-- Whatever was raised up to some time of a run was justified by then. -/
theorem Reached.justified (reached : variant.Reached state) (past : older <:+ state.history)
    {event : Event} (raised : Raised older event)
    : variant.Justified older event := by
  obtain ⟨before, within, justified⟩ := reached.sound.justified_before past raised
  exact Justified.later within justified

/-- An event is justified by what came before it. -/
theorem Reached.justified_newest (reached : variant.Reached state) {event : Event}
    (past : .raised event :: older <:+ state.history)
    : variant.Justified older event := by
  obtain ⟨newer, split⟩ := past
  have allowed := reached.sound.allowed
  rw [← split] at allowed
  exact allowed.justifies

end Variant

end Tarako.Symbolic
