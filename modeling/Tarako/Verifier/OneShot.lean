import Tarako.Curve.P256
import Tarako.Library.Der
import Tarako.Verifier.Service

/-! One-shot challenges: the store, the consumed challenges and the accepted results of a
service agree in every interleaving of its handlers.
-/

namespace Tarako.Verifier

open Lang Transitions

variable {PublicKey : Type} {crypto : Cryptography PublicKey}

def Note.issuedId? : Note PublicKey → Option PyStr
  | .issued challengeId _ => some challengeId
  | _ => none

def Note.acceptedId? : Note PublicKey → Option PyStr
  | .accepted _ challengeId _ _ _ => some challengeId
  | _ => none

/-- The identifiers drawn for challenges. -/
def issuedIds (notes : List (Note PublicKey)) : List PyStr :=
  notes.filterMap Note.issuedId?

/-- The identifiers of accepted results. -/
def acceptedIds (notes : List (Note PublicKey)) : List PyStr :=
  notes.filterMap Note.acceptedId?

theorem mem_issuedIds {notes : List (Note PublicKey)} {challengeId : PyStr}
    : challengeId ∈ issuedIds notes ↔ ∃ challenge, .issued challengeId challenge ∈ notes := by
  constructor
  · intro member
    obtain ⟨note, inside, drawn⟩ := List.mem_filterMap.mp member
    cases note with
    | issued found challenge =>
        cases drawn
        exact ⟨challenge, inside⟩
    | _ => cases drawn
  · rintro ⟨challenge, inside⟩
    exact List.mem_filterMap.mpr ⟨_, inside, rfl⟩

theorem mem_acceptedIds {notes : List (Note PublicKey)} {challengeId : PyStr}
    : challengeId ∈ acceptedIds notes
      ↔ ∃ thread challenge result signature,
          .accepted thread challengeId challenge result signature ∈ notes := by
  constructor
  · intro member
    obtain ⟨note, inside, drawn⟩ := List.mem_filterMap.mp member
    cases note with
    | accepted thread found challenge result signature =>
        cases drawn
        exact ⟨thread, challenge, result, signature, inside⟩
    | _ => cases drawn
  · rintro ⟨thread, challenge, result, signature, inside⟩
    exact List.mem_filterMap.mpr ⟨_, inside, rfl⟩

/-- The identifiers of one service run never repeat. -/
def FreshIds (state : Service × List (Note PublicKey)) : Prop :=
  (issuedIds state.2).Nodup

theorem presentedNotes_mem {files : PolicyFiles} {expected : Challenge}
    {body : List (PyStr × Json)} {note : Note PublicKey}
    (member : note ∈ presentedNotes crypto files expected body)
    : ∃ key signature message, note = .presented key signature message := by
  unfold presentedNotes at member
  split at member
  · exact ⟨_, _, _, List.mem_singleton.mp member⟩
  · cases member

-----------------------------------------------------------------------------------------
-- The invariant
-----------------------------------------------------------------------------------------

/-- What the trace says of a thread in each of its states. -/
def ThreadFits (notes : List (Note PublicKey)) (thread : Nat) : Option Thread → Prop
  | none => ∀ body, .verifying thread body ∉ notes
  | some (.popping challengeId fields) =>
      .verifying thread (.obj fields) ∈ notes
      ∧ bodyChallengeId? (.obj fields) = some challengeId
      ∧ ∀ other challenge, .consumed thread other challenge ∉ notes
  | some (.appraising challengeId _ challenge) =>
      .consumed thread challengeId challenge ∈ notes
      ∧ ∀ other found result signature,
          .accepted thread other found result signature ∉ notes
  | some (.storing _) => True
  | some (.responded _) => True

/-- How the store and the threads account for the events so far. -/
structure Consistent (crypto : Cryptography PublicKey) (service : Service)
    (notes : List (Note PublicKey)) : Prop where
  threads : ∀ thread, ThreadFits notes thread (service.threads thread)
  stored
    : ∀ challengeId challenge,
        service.outstanding challengeId = some challenge
        ↔ .issued challengeId challenge ∈ notes
          ∧ ∀ thread other, .consumed thread challengeId other ∉ notes
  consumedIssued
    : ∀ {thread challengeId challenge},
        .consumed thread challengeId challenge ∈ notes
        → .issued challengeId challenge ∈ notes
  consumedOnce
    : ∀ {thread thread' challengeId challenge challenge'},
        .consumed thread challengeId challenge ∈ notes
        → .consumed thread' challengeId challenge' ∈ notes
        → thread = thread'
  consumedBody
    : ∀ {thread challengeId challenge},
        .consumed thread challengeId challenge ∈ notes
        → ∃ body, .verifying thread body ∈ notes ∧ bodyChallengeId? body = some challengeId
  verifyingOnce
    : ∀ {thread body body'},
        .verifying thread body ∈ notes → .verifying thread body' ∈ notes → body = body'
  accepted
    : ∀ {thread challengeId challenge result signature},
        .accepted thread challengeId challenge result signature ∈ notes
        → .consumed thread challengeId challenge ∈ notes
          ∧ ∃ files body verdict,
              appraise crypto files challenge body = .ok verdict
              ∧ result = resultFields challengeId challenge verdict
  acceptedOnce : (acceptedIds notes).Nodup

theorem Consistent.initial (certificate : PyStr)
    : Consistent crypto (Service.initial certificate) [] where
  threads thread := by simp [Service.initial, ThreadFits]
  stored := by simp [Service.initial]
  consumedIssued := by simp
  consumedOnce := by simp
  consumedBody := by simp
  verifyingOnce := by simp
  accepted := by simp
  acceptedOnce := List.nodup_nil

/-- Events about no other thread leave what the trace says of a thread. -/
theorem ThreadFits.extend {notes : List (Note PublicKey)} {thread : Nat}
    {state : Option Thread} {event : Note PublicKey} (fits : ThreadFits notes thread state)
    (notVerifying : ∀ body, event ≠ .verifying thread body)
    (notConsumed : ∀ challengeId challenge, event ≠ .consumed thread challengeId challenge)
    (notAccepted : ∀ challengeId challenge result signature,
      event ≠ .accepted thread challengeId challenge result signature)
    : ThreadFits (event :: notes) thread state := by
  unfold ThreadFits at fits ⊢
  split at fits
  · intro body member
    rcases List.mem_cons.mp member with same | older
    · exact notVerifying body same.symm
    · exact fits body older
  · obtain ⟨verifying, named, unconsumed⟩ := fits
    refine ⟨List.mem_cons_of_mem _ verifying, named, fun other challenge member => ?_⟩
    rcases List.mem_cons.mp member with same | older
    · exact notConsumed other challenge same.symm
    · exact unconsumed other challenge older
  · obtain ⟨consumed, unaccepted⟩ := fits
    refine ⟨List.mem_cons_of_mem _ consumed, fun other found result signature member => ?_⟩
    rcases List.mem_cons.mp member with same | older
    · exact notAccepted other found result signature same.symm
    · exact unaccepted other found result signature older
  · trivial
  · trivial

variable {service : Service} {notes : List (Note PublicKey)}

/-- A thread that moves on without an event. -/
theorem Consistent.move (consistent : Consistent crypto service notes) {thread : Nat}
    {state : Thread} (fits : ThreadFits notes thread (some state))
    : Consistent crypto
        { service with threads := Function.update service.threads thread (some state) }
        notes where
  threads other := by
    by_cases same : other = thread
    · subst same
      simpa using fits
    · simpa [Function.update_of_ne same] using consistent.threads other
  stored := consistent.stored
  consumedIssued := consistent.consumedIssued
  consumedOnce := consistent.consumedOnce
  consumedBody := consistent.consumedBody
  verifyingOnce := consistent.verifyingOnce
  accepted := consistent.accepted
  acceptedOnce := consistent.acceptedOnce

theorem Consistent.respond (consistent : Consistent crypto service notes) (thread : Nat)
    (response : Response)
    : Consistent crypto (service.respond thread response) notes :=
  consistent.move trivial

/-- A call of the trusted key changes nothing. -/
theorem Consistent.present (consistent : Consistent crypto service notes) (key : PublicKey)
    (signature message : Bytes)
    : Consistent crypto service (.presented key signature message :: notes) where
  threads thread := (consistent.threads thread).extend (by simp) (by simp) (by simp)
  stored := by simpa using consistent.stored
  consumedIssued member := .tail _ (consistent.consumedIssued (by simpa using member))
  consumedOnce first second :=
    consistent.consumedOnce (by simpa using first) (by simpa using second)
  consumedBody member := by
    obtain ⟨found, verifying, named⟩ := consistent.consumedBody (by simpa using member)
    exact ⟨found, .tail _ verifying, named⟩
  verifyingOnce first second :=
    consistent.verifyingOnce (by simpa using first) (by simpa using second)
  accepted member := by
    obtain ⟨consumed, appraised⟩ := consistent.accepted (by simpa using member)
    exact ⟨.tail _ consumed, appraised⟩
  acceptedOnce := consistent.acceptedOnce

theorem Consistent.presentNotes (consistent : Consistent crypto service notes)
    (files : PolicyFiles) (expected : Challenge) (body : List (PyStr × Json))
    : Consistent crypto service (presentedNotes crypto files expected body ++ notes) := by
  unfold presentedNotes
  split
  · exact consistent.present _ _ _
  · exact consistent

/-- A new verification request. -/
theorem Consistent.verify (consistent : Consistent crypto service notes) {thread : Nat}
    (fresh : service.threads thread = none) (body : Json) {state : Thread}
    (fits : ThreadFits (.verifying thread body :: notes) thread (some state))
    : Consistent crypto
        { service with threads := Function.update service.threads thread (some state) }
        (.verifying thread body :: notes) where
  threads other := by
    by_cases same : other = thread
    · subst same
      simpa using fits
    · simp only [Function.update_of_ne same]
      exact (consistent.threads other).extend (by simp [Ne.symm same]) (by simp) (by simp)
  stored := by simpa using consistent.stored
  consumedIssued member := .tail _ (consistent.consumedIssued (by simpa using member))
  consumedOnce first second :=
    consistent.consumedOnce (by simpa using first) (by simpa using second)
  consumedBody member := by
    obtain ⟨found, verifying, named⟩ := consistent.consumedBody (by simpa using member)
    exact ⟨found, .tail _ verifying, named⟩
  verifyingOnce first second := by
    have unused : ∀ body, Note.verifying thread body ∉ notes := by
      have free := consistent.threads thread
      rwa [fresh] at free
    simp only [List.mem_cons, Note.verifying.injEq] at first second
    rcases first with ⟨rfl, rfl⟩ | first
    · rcases second with ⟨_, rfl⟩ | second
      · rfl
      · exact absurd second (unused _)
    · rcases second with ⟨rfl, rfl⟩ | second
      · exact absurd first (unused _)
      · exact consistent.verifyingOnce first second
  accepted member := by
    obtain ⟨consumed, appraised⟩ := consistent.accepted (by simpa using member)
    exact ⟨.tail _ consumed, appraised⟩
  acceptedOnce := consistent.acceptedOnce

/-- A stored challenge under an identifier that was never drawn before. -/
theorem Consistent.issue (consistent : Consistent crypto service notes) {challengeId : PyStr}
    (challenge : Challenge) (fresh : challengeId ∉ issuedIds notes)
    : Consistent crypto
        { service with
          outstanding := Function.update service.outstanding challengeId (some challenge) }
        (.issued challengeId challenge :: notes) where
  threads thread := (consistent.threads thread).extend (by simp) (by simp) (by simp)
  stored other found := by
    have unconsumed : ∀ thread before, Note.consumed thread challengeId before ∉ notes :=
      fun thread before member =>
        fresh (mem_issuedIds.mpr ⟨before, consistent.consumedIssued member⟩)
    have unissued : ∀ before, Note.issued challengeId before ∉ notes :=
      fun before member => fresh (mem_issuedIds.mpr ⟨before, member⟩)
    by_cases same : other = challengeId
    · subst same
      simp [unconsumed, unissued, eq_comm]
    · simpa [Function.update_of_ne same, same] using consistent.stored other found
  consumedIssued member := .tail _ (consistent.consumedIssued (by simpa using member))
  consumedOnce first second :=
    consistent.consumedOnce (by simpa using first) (by simpa using second)
  consumedBody member := by
    obtain ⟨found, verifying, named⟩ := consistent.consumedBody (by simpa using member)
    exact ⟨found, .tail _ verifying, named⟩
  verifyingOnce first second :=
    consistent.verifyingOnce (by simpa using first) (by simpa using second)
  accepted member := by
    obtain ⟨consumed, appraised⟩ := consistent.accepted (by simpa using member)
    exact ⟨.tail _ consumed, appraised⟩
  acceptedOnce := consistent.acceptedOnce

/-- The removal of a stored challenge by the thread that asked for it. -/
theorem Consistent.consume (consistent : Consistent crypto service notes) {thread : Nat}
    {challengeId : PyStr} {fields : List (PyStr × Json)} {challenge : Challenge}
    (waiting : service.threads thread = some (.popping challengeId fields))
    (found : service.outstanding challengeId = some challenge)
    : Consistent crypto
        { service with
          outstanding := Function.update service.outstanding challengeId none,
          threads := Function.update service.threads thread
            (some (.appraising challengeId fields challenge)) }
        (.consumed thread challengeId challenge :: notes) := by
  obtain ⟨issued, unconsumed⟩ := (consistent.stored challengeId challenge).mp found
  have fits := consistent.threads thread
  rw [waiting] at fits
  obtain ⟨verifying, named, idle⟩ := fits
  refine {
    threads := ?_, stored := ?_, consumedIssued := ?_, consumedOnce := ?_, consumedBody := ?_,
    verifyingOnce := ?_, accepted := ?_, acceptedOnce := consistent.acceptedOnce }
  · intro other
    by_cases same : other = thread
    · subst same
      simp only [Function.update_self]
      refine ⟨.head _, fun id other result signature member => ?_⟩
      have before := (consistent.accepted (by simpa using member)).1
      exact idle _ _ before
    · simp only [Function.update_of_ne same]
      exact (consistent.threads other).extend (by simp) (by simp [Ne.symm same]) (by simp)
  · intro other value
    by_cases same : other = challengeId
    · subst same
      simp only [Function.update_self, reduceCtorEq, false_iff, not_and]
      intro _ never
      exact never thread challenge (.head _)
    · simpa [Function.update_of_ne same, same] using consistent.stored other value
  · intro other id value member
    simp only [List.mem_cons, Note.consumed.injEq] at member
    rcases member with ⟨rfl, rfl, rfl⟩ | member
    · exact .tail _ issued
    · exact .tail _ (consistent.consumedIssued member)
  · intro first second id value value' one two
    simp only [List.mem_cons, Note.consumed.injEq] at one two
    rcases one with ⟨rfl, rfl, rfl⟩ | one
    · rcases two with ⟨rfl, _, _⟩ | two
      · rfl
      · exact absurd two (unconsumed _ _)
    · rcases two with ⟨rfl, rfl, rfl⟩ | two
      · exact absurd one (unconsumed _ _)
      · exact consistent.consumedOnce one two
  · intro other id value member
    simp only [List.mem_cons, Note.consumed.injEq] at member
    rcases member with ⟨rfl, rfl, rfl⟩ | member
    · exact ⟨_, .tail _ verifying, named⟩
    · obtain ⟨body, earlier, bodyNamed⟩ := consistent.consumedBody member
      exact ⟨body, .tail _ earlier, bodyNamed⟩
  · intro other body body' one two
    exact consistent.verifyingOnce (by simpa using one) (by simpa using two)
  · intro other id value result signature member
    obtain ⟨consumed, appraised⟩ := consistent.accepted (by simpa using member)
    exact ⟨.tail _ consumed, appraised⟩

/-- An accepted result of the thread that consumed its challenge. -/
theorem Consistent.accept (consistent : Consistent crypto service notes) {thread : Nat}
    {challengeId : PyStr} {body : List (PyStr × Json)} {challenge : Challenge}
    (waiting : service.threads thread = some (.appraising challengeId body challenge))
    {files : PolicyFiles} {verdict : Verdict}
    (passed : appraise crypto files challenge body = .ok verdict) (signature : Bytes)
    (response : Response)
    : Consistent crypto (service.respond thread response)
        (.accepted thread challengeId challenge (resultFields challengeId challenge verdict)
            signature
          :: notes) := by
  have fits := consistent.threads thread
  rw [waiting] at fits
  obtain ⟨consumed, unaccepted⟩ := fits
  refine {
    threads := ?_, stored := ?_, consumedIssued := ?_, consumedOnce := ?_, consumedBody := ?_,
    verifyingOnce := ?_, accepted := ?_, acceptedOnce := ?_ }
  · intro other
    by_cases same : other = thread
    · subst same
      simp [Service.respond, ThreadFits]
    · simp only [Service.respond, Function.update_of_ne same]
      exact (consistent.threads other).extend (by simp) (by simp) (by simp [Ne.symm same])
  · simpa [Service.respond] using consistent.stored
  · exact fun member => .tail _ (consistent.consumedIssued (by simpa using member))
  · exact fun one two => consistent.consumedOnce (by simpa using one) (by simpa using two)
  · intro other id value member
    obtain ⟨found, verifying, named⟩ := consistent.consumedBody (by simpa using member)
    exact ⟨found, .tail _ verifying, named⟩
  · exact fun one two => consistent.verifyingOnce (by simpa using one) (by simpa using two)
  · intro other id value result signature member
    simp only [List.mem_cons, Note.accepted.injEq] at member
    rcases member with ⟨rfl, rfl, rfl, rfl, rfl⟩ | member
    · exact ⟨.tail _ consumed, files, body, verdict, passed, rfl⟩
    · obtain ⟨earlier, appraised⟩ := consistent.accepted member
      exact ⟨.tail _ earlier, appraised⟩
  · -- another acceptance of this identifier would be by this very thread
    refine List.nodup_cons.mpr ⟨?_, consistent.acceptedOnce⟩
    intro member
    obtain ⟨other, value, result, signed, before⟩ := mem_acceptedIds.mp member
    have same := consistent.consumedOnce consumed (consistent.accepted before).1
    exact unaccepted _ _ _ _ (same ▸ before)

/-- Every step keeps the accounting, as long as identifiers do not repeat. -/
theorem Consistent.step {next : Service} {events : List (Note PublicKey)} {step : Step}
    (effect : Effect crypto service step next events)
    (fresh : FreshIds (next, events ++ notes)) (consistent : Consistent crypto service notes)
    : Consistent crypto next (events ++ notes) := by
  cases effect with
  | refused free => exact consistent.respond _ _
  | storing free parsed => exact consistent.move trivial
  | stored waiting =>
      have drawn := (List.nodup_cons.mp fresh).1
      exact (consistent.respond _ _).issue _ drawn
  | malformed free unnamed => exact consistent.verify free _ trivial
  | @popping thread fields challengeId free named =>
      refine consistent.verify free _ ⟨.head _, named, fun other challenge member => ?_⟩
      have unused := consistent.threads thread
      rw [free] at unused
      obtain ⟨body, verifying, _⟩ := consistent.consumedBody (by simpa using member)
      exact unused body verifying
  | unknown waiting absent => exact consistent.respond _ _
  | consumed waiting found => exact consistent.consume waiting found
  | rejected waiting => exact (consistent.presentNotes _ _ _).respond _ _
  | accepted waiting passed =>
      exact (consistent.presentNotes _ _ _).accept waiting passed _ _

/-- Every challenge that the store or an appraisal holds was issued under its identifier. This
needs no freshness: a repeated identifier replaces the older challenge.
-/
structure Tracked (service : Service) (notes : List (Note PublicKey)) : Prop where
  stored
    : ∀ {challengeId challenge},
        service.outstanding challengeId = some challenge
        → .issued challengeId challenge ∈ notes
  appraising
    : ∀ {thread challengeId body challenge},
        service.threads thread = some (.appraising challengeId body challenge)
        → .issued challengeId challenge ∈ notes

theorem Tracked.initial (certificate : PyStr)
    : Tracked (Service.initial certificate) ([] : List (Note PublicKey)) where
  stored found := by cases found
  appraising found := by cases found

/-- New events keep what was issued. -/
theorem Tracked.later (tracked : Tracked service notes) (events : List (Note PublicKey))
    : Tracked service (events ++ notes) where
  stored found := List.mem_append_right _ (tracked.stored found)
  appraising found := List.mem_append_right _ (tracked.appraising found)

/-- A thread that moves on, to an appraisal of an issued challenge at most. -/
theorem Tracked.move (tracked : Tracked service notes) {thread : Nat} {state : Thread}
    (held : ∀ challengeId body challenge,
      state = .appraising challengeId body challenge → .issued challengeId challenge ∈ notes)
    : Tracked
        { service with threads := Function.update service.threads thread (some state) }
        notes where
  stored := tracked.stored
  appraising {other challengeId body challenge} found := by
    by_cases same : other = thread
    · subst same
      simp only [Function.update_self] at found
      exact held _ _ _ (Option.some.inj found)
    · simp only [Function.update_of_ne same] at found
      exact tracked.appraising found

theorem Tracked.respond (tracked : Tracked service notes) (thread : Nat) (response : Response)
    : Tracked (service.respond thread response) notes :=
  tracked.move nofun

/-- Every step keeps track of the challenges. -/
theorem Tracked.step {next : Service} {events : List (Note PublicKey)} {step : Step}
    (effect : Effect crypto service step next events) (tracked : Tracked service notes)
    : Tracked next (events ++ notes) := by
  cases effect with
  | refused free => exact tracked.respond _ _
  | storing free parsed => exact tracked.move nofun
  | @stored thread nonce id request waiting =>
      refine ⟨?_, ((tracked.later _).respond _ _).appraising⟩
      intro challengeId challenge found
      by_cases same : challengeId = pyHex id.1
      · subst same
        simp only [Function.update_self, Option.some.injEq] at found
        exact found ▸ .head _
      · simp only [Function.update_of_ne same] at found
        exact .tail _ (tracked.stored found)
  | malformed free unnamed => exact (tracked.later _).respond _ _
  | popping free named => exact (tracked.later _).move nofun
  | unknown waiting absent => exact tracked.respond _ _
  | @consumed thread challengeId body expected waiting found =>
      refine ⟨?_, ?_⟩
      · intro other challenge kept
        by_cases same : other = challengeId
        · simp [same] at kept
        · simp only [Function.update_of_ne same] at kept
          exact .tail _ (tracked.stored kept)
      · refine ((tracked.later _).move ?_).appraising
        rintro _ _ _ ⟨⟩
        exact .tail _ (tracked.stored found)
  | rejected waiting => exact (tracked.later _).respond _ _
  | accepted waiting passed => exact (tracked.later _).respond _ _

/-- What every trace of a service shows: nonces and identifiers are hexadecimal, and an accepted
result is the one for its issued challenge and some approved digest.
-/
structure Recorded (notes : List (Note PublicKey)) : Prop where
  drawn
    : ∀ {challengeId challenge},
        .issued challengeId challenge ∈ notes
        → ∃ (nonce : U8Array 32) (id : U8Array 16),
            challenge.nonce = pyHex nonce.1 ∧ challengeId = pyHex id.1
  produced
    : ∀ {thread challengeId challenge result signature},
        .accepted thread challengeId challenge result signature ∈ notes
        → .issued challengeId challenge ∈ notes
          ∧ ∃ nonce digest,
              result = resultFields challengeId challenge (verdictFor challenge nonce digest)

theorem Recorded.initial : Recorded ([] : List (Note PublicKey)) where
  drawn member := by cases member
  produced member := by cases member

/-- Events that neither issue nor accept. -/
theorem Recorded.extend (recorded : Recorded notes) {events : List (Note PublicKey)}
    (free : ∀ event ∈ events, event.issuedId? = none ∧ event.acceptedId? = none)
    : Recorded (events ++ notes) where
  drawn member := by
    rcases List.mem_append.mp member with new | old
    · cases (free _ new).1
    · exact recorded.drawn old
  produced member := by
    rcases List.mem_append.mp member with new | old
    · cases (free _ new).2
    · obtain ⟨issued, result⟩ := recorded.produced old
      exact ⟨List.mem_append_right _ issued, result⟩

theorem Recorded.present (recorded : Recorded notes) (files : PolicyFiles)
    (expected : Challenge) (body : List (PyStr × Json))
    : Recorded (presentedNotes crypto files expected body ++ notes) := by
  refine recorded.extend fun event member => ?_
  obtain ⟨key, signature, message, rfl⟩ := presentedNotes_mem member
  exact ⟨rfl, rfl⟩

/-- Every step records what it draws and accepts. -/
theorem Recorded.step {next : Service} {events : List (Note PublicKey)} {step : Step}
    (effect : Effect crypto service step next events) (tracked : Tracked service notes)
    (recorded : Recorded notes)
    : Recorded (events ++ notes) := by
  cases effect with
  | @stored thread nonce id request waiting =>
      refine ⟨?_, ?_⟩
      · intro challengeId challenge member
        rcases List.mem_cons.mp member with same | old
        · cases same
          exact ⟨nonce, id, rfl, rfl⟩
        · exact recorded.drawn old
      · intro thread challengeId challenge result signature member
        obtain ⟨issued, same⟩ := recorded.produced (by simpa using member)
        exact ⟨.tail _ issued, same⟩
  | rejected waiting => exact recorded.present _ _ _
  | @accepted thread files signature challengeId body expected verdict response waiting passed =>
      have presented := @Recorded.present _ crypto _ recorded files expected body
      refine ⟨?_, ?_⟩
      · intro other challenge member
        exact presented.drawn (by simpa using member)
      · intro other otherId challenge result signed member
        rcases List.mem_cons.mp member with same | old
        · cases same
          obtain ⟨nonce, policy, _, _, _, rfl, _⟩ := appraise_ok passed
          have issued := tracked.appraising waiting
          exact ⟨.tail _ (List.mem_append_right _ issued), nonce, policy.digest, rfl⟩
        · obtain ⟨issued, same⟩ := presented.produced old
          exact ⟨.tail _ issued, same⟩
  | _ => exact recorded.extend (by simp [Note.issuedId?, Note.acceptedId?])

/-- A service that holds and accepts only what it issued. -/
structure Grounded (service : Service) (notes : List (Note PublicKey)) : Prop extends
    Tracked service notes, Recorded notes

theorem Grounded.initial (certificate : PyStr)
    : Grounded (Service.initial certificate) ([] : List (Note PublicKey)) :=
  ⟨Tracked.initial certificate, Recorded.initial⟩

theorem Grounded.step {next : Service} {events : List (Note PublicKey)} {step : Step}
    (effect : Effect crypto service step next events) (grounded : Grounded service notes)
    : Grounded next (events ++ notes) :=
  ⟨grounded.toTracked.step effect, grounded.toRecorded.step effect grounded.toTracked⟩

-----------------------------------------------------------------------------------------
-- Runs
-----------------------------------------------------------------------------------------

/-- A step of the service with its trace. -/
def tracedStep (crypto : Cryptography PublicKey)
    : Service × List (Note PublicKey) → Step → Option (Service × List (Note PublicKey)) :=
  traced (fun service step => service.step crypto step)

theorem FreshIds.inherit {state next : Service × List (Note PublicKey)} {step : Step}
    (stepped : tracedStep crypto state step = some next) (fresh : FreshIds next)
    : FreshIds state := by
  obtain ⟨events, _, extended⟩ := traced_some stepped
  rw [FreshIds, extended, issuedIds, List.filterMap_append] at fresh
  exact fresh.of_append_right

/-- In every run whose identifiers do not repeat, the accounting holds. -/
theorem Consistent.run {certificate : PyStr} {steps : List Step}
    {state : Service × List (Note PublicKey)}
    (reached : Transitions.run (tracedStep crypto) (Service.initial certificate, []) steps
      = some state)
    (fresh : FreshIds state)
    : Consistent crypto state.1 state.2 := by
  refine run_invariant FreshIds (fun state => Consistent crypto state.1 state.2)
    FreshIds.inherit ?_ reached fresh (Consistent.initial certificate)
  intro before step after stepped fresh consistent
  obtain ⟨events, found, extended⟩ := traced_some stepped
  rw [extended]
  refine consistent.step (Service.step_effect found) ?_
  rwa [← extended]

def sampleNonce : U8Array 32 := ⟨List.replicate 32 0x11, List.length_replicate⟩

def sampleId : U8Array 16 := ⟨List.replicate 16 0x22, List.length_replicate⟩

def sampleDigest : Bytes := List.replicate 32 0x33

def sampleKey : Bytes := P256.compress P256.gx P256.gy

def sampleSignature : Bytes :=
  Der.pair P256.gx 0x914e072ecf7946a3bfe654a8746c2d39101f174b3c436e5bb12c3fbe86a6a71d

def sampleMessage : Bytes :=
  sampleDigest ++ expectedUserData (makeRequestBinding (py "r") sampleNonce.1)

/-- A library that knows the one signature of the run. -/
def sampleCrypto : Cryptography Bytes where
  fromEncodedPoint := some
  verify key signature message :=
    decide (key = sampleKey ∧ signature = sampleSignature ∧ message = sampleMessage)

def sampleFiles : PolicyFiles where
  approvedDigest := some (pyHex sampleDigest ++ py "\n")
  trustedTak := some sampleKey

def sampleQuote : Json :=
  .obj
    [
      (py "hash", .str (pyHex (Sha256.digest sampleMessage))),
      (py "public_key", .str (pyHex sampleKey)),
      (py "signature_der", .str (pyHex sampleSignature)),
      (py "user_data",
        .str (pyHex (expectedUserData (makeRequestBinding (py "r") sampleNonce.1))))
    ]

def sampleBody : Json :=
  .obj
    [
      (py "challenge_id", .str (pyHex sampleId.1)),
      (py "nonce", .str (pyHex sampleNonce.1)),
      (py "request", .str (py "r")),
      (py "tq", sampleQuote)
    ]

def sampleSteps : List Step :=
  [
    .challenge 0 (.obj [(py "request", .str (py "r"))]),
    .store 0 sampleNonce sampleId,
    .verify 1 sampleBody,
    .verify 2 sampleBody,
    .pop 1,
    .pop 2,
    .appraise 1 sampleFiles []
  ]

end Tarako.Verifier
