import Tarako.Library.Reduction
import Tarako.Verifier.OneShot

/-! The handlers of the Verifier are serializable: whatever the interleaving of their atomic
steps, the store and the responses are those of handlers that ran one after the other, in the
order in which they accessed the store.
-/

namespace Tarako.Verifier

open Lang Transitions

variable {PublicKey : Type} {crypto : Cryptography PublicKey}

/-- The steps under `challenge_lock`. -/
def Step.locked : Step → Bool
  | .store _ _ _ => true
  | .pop _ => true
  | _ => false

/-- A step without its events. -/
def serviceStep (crypto : Cryptography PublicKey) (service : Service) (step : Step)
    : Option Service :=
  (service.step crypto step).map Prod.fst

-----------------------------------------------------------------------------------------
-- Steps act on their thread and on the store
-----------------------------------------------------------------------------------------

abbrev Store := PyStr → Option Challenge

/-- How the first step of `verify` goes on. -/
def verifyThread (body : Json) : Thread :=
  match body with
  | .obj fields =>
      match bodyChallengeId? body with
      | none => .responded (.verifyFailure 400 (.fixed "challenge_id required"))
      | some challengeId => .popping challengeId fields
  | _ => .responded (.verifyFailure 400 (.fixed "JSON object required"))

/-- How the first step of `challenge` goes on. -/
def challengeThread (body : Json) : Thread :=
  match jsonRequestValue body with
  | .error error => .responded (.challengeFailure 400 error)
  | .ok request => .storing request

/-- The response of `verify` to an appraisal. -/
def appraisalResponse (crypto : Cryptography PublicKey) (certificate challengeId : PyStr)
    (body : List (PyStr × Json)) (expected : Challenge) (files : PolicyFiles) (signature : Bytes)
    : Response :=
  match appraise crypto files expected body with
  | .error error => .verifyFailure 400 (.caught error)
  | .ok verdict =>
      .verified certificate (resultFields challengeId expected verdict) (pyHex signature)

/-- What a step makes of the state of its thread and of the store. -/
def threadStep (crypto : Cryptography PublicKey) (certificate : PyStr)
    : Step → Option Thread → Store → Option (Thread × Store)
  | .challenge _ body, none, store => some (challengeThread body, store)
  | .store _ nonce id, some (.storing request), store =>
      some (
        .responded (.challenge (pyHex id.1) (pyHex nonce.1) request),
        Function.update store (pyHex id.1) (some ⟨pyHex nonce.1, request⟩))
  | .verify _ body, none, store => some (verifyThread body, store)
  | .pop _, some (.popping challengeId body), store =>
      match store challengeId with
      | none =>
          some (.responded (.verifyFailure 409 (.fixed "unknown or consumed challenge")), store)
      | some expected =>
          some (.appraising challengeId body expected, Function.update store challengeId none)
  | .appraise _ files signature, some (.appraising challengeId body expected), store =>
      some (
        .responded (appraisalResponse crypto certificate challengeId body expected files signature),
        store)
  | _, _, _ => none

/-- A service with a new state of a thread and of the store. -/
def Service.put (service : Service) (thread : Nat) (next : Thread × Store) : Service where
  outstanding := next.2
  certificate := service.certificate
  threads := Function.update service.threads thread (some next.1)

theorem serviceStep_eq (service : Service) (step : Step)
    : serviceStep crypto service step
      = (threadStep crypto service.certificate step (service.threads step.thread)
          service.outstanding).map (service.put step.thread) := by
  cases step with
  | challenge thread body =>
      simp only [serviceStep, Service.step, Step.thread]
      cases service.threads thread with
      | some found => simp [threadStep]
      | none =>
          simp only [threadStep, challengeThread, Option.isSome_none, Bool.false_eq_true, if_false]
          cases jsonRequestValue body <;> rfl
  | store thread nonce id =>
      simp only [serviceStep, Service.step, Step.thread]
      cases service.threads thread with
      | none => rfl
      | some found => cases found <;> rfl
  | verify thread body =>
      simp only [serviceStep, Service.step, Step.thread]
      cases service.threads thread with
      | some found => simp [threadStep]
      | none =>
          simp only [threadStep, verifyThread, Option.isSome_none, Bool.false_eq_true, if_false]
          cases body with
          | obj fields =>
              dsimp only
              cases bodyChallengeId? (.obj fields) <;> rfl
          | _ => rfl
  | pop thread =>
      simp only [serviceStep, Service.step, Step.thread]
      cases service.threads thread with
      | none => rfl
      | some found =>
          cases found with
          | popping challengeId body =>
              simp only [threadStep]
              cases service.outstanding challengeId <;> rfl
          | _ => rfl
  | appraise thread files signature =>
      simp only [serviceStep, Service.step, Step.thread]
      cases service.threads thread with
      | none => rfl
      | some found =>
          cases found with
          | appraising challengeId body expected =>
              simp only [threadStep, appraisalResponse, finish]
              cases appraise crypto files expected body <;> rfl
          | _ => rfl

/-- Without the lock the store is neither read nor written. -/
theorem threadStep_unlocked (certificate : PyStr) {step : Step} (unlocked : step.locked = false)
    (thread : Option Thread) (store other : Store)
    : threadStep crypto certificate step thread store
      = (threadStep crypto certificate step thread other).map fun next => (next.1, store) := by
  cases step with
  | challenge _ body => cases thread <;> rfl
  | store _ nonce id => cases unlocked
  | verify _ body => cases thread <;> rfl
  | pop _ => cases unlocked
  | appraise _ files signature =>
      cases thread with
      | none => rfl
      | some found => cases found <;> rfl

theorem serviceStep_put_other (service : Service) {thread : Nat} (next : Thread × Store)
    {step : Step} (different : step.thread ≠ thread)
    : serviceStep crypto (service.put thread next) step
      = (threadStep crypto service.certificate step (service.threads step.thread) next.2).map
          ((service.put thread next).put step.thread) := by
  rw [serviceStep_eq]
  simp only [Service.put, Function.update_of_ne different]

/-- An unlocked step commutes with every step of another thread. -/
theorem unlocked_commutes {first second : Step} (different : first.thread ≠ second.thread)
    (unlocked : first.locked = false)
    : Commutes (serviceStep crypto) first second := by
  intro service
  rw [serviceStep_eq service first, serviceStep_eq service second]
  cases hFirst : threadStep crypto service.certificate first (service.threads first.thread)
      service.outstanding with
  | none =>
      cases threadStep crypto service.certificate second (service.threads second.thread)
          service.outstanding with
      | none => rfl
      | some other =>
          change none = serviceStep crypto (service.put second.thread other) first
          rw [serviceStep_put_other service other different,
            threadStep_unlocked _ unlocked _ other.2 service.outstanding, hFirst]
          rfl
  | some next =>
      have kept : next.2 = service.outstanding := by
        have same := @threadStep_unlocked _ crypto service.certificate first unlocked
          (service.threads first.thread) service.outstanding service.outstanding
        rw [hFirst, Option.map_some] at same
        exact congrArg Prod.snd (Option.some.inj same)
      change serviceStep crypto (service.put first.thread next) second = _
      rw [serviceStep_put_other service next different.symm, kept]
      cases threadStep crypto service.certificate second (service.threads second.thread)
          service.outstanding with
      | none => rfl
      | some other =>
          change some ((service.put first.thread next).put second.thread other)
            = serviceStep crypto (service.put second.thread other) first
          rw [serviceStep_put_other service other different,
            threadStep_unlocked _ unlocked _ other.2 service.outstanding, hFirst, Option.map_some,
            Option.map_some]
          simp only [Service.put, Function.update_comm different]

/-- Only accesses to the store need their order. -/
theorem steps_independent : Independent Step.thread Step.locked (serviceStep crypto) := by
  intro first second different apart
  cases lockedFirst : first.locked with
  | false => exact unlocked_commutes different lockedFirst
  | true =>
      cases lockedSecond : second.locked with
      | false => exact (unlocked_commutes different.symm lockedSecond).symm
      | true => exact absurd ⟨lockedFirst, lockedSecond⟩ apart

-----------------------------------------------------------------------------------------
-- Every thread accesses the store at most once
-----------------------------------------------------------------------------------------

/-- A thread that will not access the store any more. -/
def Thread.Past : Option Thread → Prop
  | some (.appraising _ _ _) => True
  | some (.responded _) => True
  | _ => False

theorem threadStep_past {certificate : PyStr} {step : Step} {thread : Option Thread} {store : Store}
    {next : Thread × Store}
    (stepped : threadStep crypto certificate step thread store = some next)
    : (Thread.Past thread → step.locked = false ∧ Thread.Past (some next.1))
      ∧ (step.locked = true → Thread.Past (some next.1)) := by
  cases step with
  | challenge _ body =>
      cases thread with
      | none => exact ⟨False.elim, nofun⟩
      | some found => cases stepped
  | store _ nonce id =>
      match thread with
      | some (.storing request) =>
          cases stepped
          exact ⟨False.elim, fun _ => trivial⟩
      | none => cases stepped
      | some (.popping _ _) => cases stepped
      | some (.appraising _ _ _) => cases stepped
      | some (.responded _) => cases stepped
  | verify _ body =>
      cases thread with
      | none => exact ⟨False.elim, nofun⟩
      | some found => cases stepped
  | pop _ =>
      match thread with
      | some (.popping challengeId body) =>
          simp only [threadStep] at stepped
          split at stepped
          · cases stepped
            exact ⟨False.elim, fun _ => trivial⟩
          · cases stepped
            exact ⟨False.elim, fun _ => trivial⟩
      | none => cases stepped
      | some (.storing _) => cases stepped
      | some (.appraising _ _ _) => cases stepped
      | some (.responded _) => cases stepped
  | appraise _ files signature =>
      match thread with
      | some (.appraising _ _ _) =>
          cases stepped
          exact ⟨fun _ => ⟨rfl, trivial⟩, nofun⟩
      | none => cases stepped
      | some (.storing _) => cases stepped
      | some (.popping _ _) => cases stepped
      | some (.responded _) => cases stepped

/-- The state of a thread after a step, by whose step it is. -/
theorem serviceStep_threads {service next : Service} {step : Step}
    (stepped : serviceStep crypto service step = some next)
    : (∃ store,
        threadStep crypto service.certificate step (service.threads step.thread) service.outstanding
        = some store
        ∧ next = service.put step.thread store)
      ∧ ∀ thread, thread ≠ step.thread → next.threads thread = service.threads thread := by
  rw [serviceStep_eq] at stepped
  obtain ⟨store, found, rfl⟩ := Option.map_eq_some_iff.mp stepped
  exact ⟨⟨store, found, rfl⟩, fun thread different => Function.update_of_ne different _ _⟩

/-- A thread accesses the store once in a run, and not at all once it is past it. The induction is
on the run.
-/
theorem locked_once {service last : Service} {steps : List Step}
    (reached : run (serviceStep crypto) service steps = some last) (thread : Nat)
    : let locked := (ownedBy Step.thread thread steps).filter Step.locked
      locked.length ≤ 1 ∧ (Thread.Past (service.threads thread) → locked = []) := by
  induction steps generalizing service with
  | nil => exact ⟨Nat.zero_le _, fun _ => rfl⟩
  | cons step rest ih =>
      obtain ⟨next, stepped, remaining⟩ := run_cons reached
      obtain ⟨once, never⟩ := ih remaining
      obtain ⟨⟨state, found, rfl⟩, others⟩ := serviceStep_threads stepped
      by_cases mine : step.thread = thread
      · subst mine
        obtain ⟨past, locks⟩ := threadStep_past found
        have after : (service.put step.thread state).threads step.thread = some state.1 :=
          Function.update_self _ _ _
        rw [after] at never
        have shape : ownedBy Step.thread step.thread (step :: rest)
            = step :: ownedBy Step.thread step.thread rest := by
          simp [ownedBy]
        dsimp only
        rw [shape, List.filter_cons]
        split_ifs with isLocked
        · rw [never (locks isLocked)]
          refine ⟨Nat.le_refl _, fun before => ?_⟩
          rw [(past before).1] at isLocked
          cases isLocked
        · exact ⟨once, fun before => never (past before).2⟩
      · have shape : ownedBy Step.thread thread (step :: rest) = ownedBy Step.thread thread rest := by
          simp [ownedBy, mine]
        dsimp only
        rw [shape]
        refine ⟨once, fun before => never ?_⟩
        rw [others thread (Ne.symm mine)]
        exact before

-----------------------------------------------------------------------------------------
-- Handlers that run alone
-----------------------------------------------------------------------------------------

/-- A request with all that its handler draws and reads. -/
inductive Call
  | challenge (thread : Nat) (body : Json) (nonce : U8Array 32) (id : U8Array 16)
  | verify (thread : Nat) (body : Json) (files : PolicyFiles) (signature : Bytes)

def Call.thread : Call → Nat
  | .challenge thread _ _ _ => thread
  | .verify thread _ _ _ => thread

/-- The steps of a handler that is not refused. -/
def Call.steps : Call → List Step
  | .challenge thread body nonce id => [.challenge thread body, .store thread nonce id]
  | .verify thread body files signature =>
      [.verify thread body, .pop thread, .appraise thread files signature]

/-- A step in which a request arrives. -/
def Step.invokes : Step → Bool
  | .challenge _ _ => true
  | .verify _ _ => true
  | _ => false

/-- `challenge` and `verify` as one step each. -/
def Call.execute (crypto : Cryptography PublicKey) (service : Service) : Call → Service
  | .challenge thread body nonce id =>
      match jsonRequestValue body with
      | .error error => service.respond thread (.challengeFailure 400 error)
      | .ok request =>
          let stored :=
            { service with
              outstanding :=
                Function.update service.outstanding (pyHex id.1) (some ⟨pyHex nonce.1, request⟩) }
          stored.respond thread (.challenge (pyHex id.1) (pyHex nonce.1) request)
  | .verify thread body files signature =>
      match body with
      | .obj fields =>
          match bodyChallengeId? body with
          | none =>
              service.respond thread (.verifyFailure 400 (.fixed "challenge_id required"))
          | some challengeId =>
              match service.outstanding challengeId with
              | none =>
                  service.respond thread
                    (.verifyFailure 409 (.fixed "unknown or consumed challenge"))
              | some expected =>
                  let popped :=
                    { service with
                      outstanding := Function.update service.outstanding challengeId none }
                  popped.respond thread
                    (appraisalResponse crypto service.certificate challengeId fields expected files
                      signature)
      | _ => service.respond thread (.verifyFailure 400 (.fixed "JSON object required"))

/-- A thread without a handler, or with one that has responded. -/
def Thread.Idle : Option Thread → Prop
  | none => True
  | some (.responded _) => True
  | _ => False

/-- No handler is under way. -/
def Service.Idle (service : Service) : Prop :=
  ∀ thread, Thread.Idle (service.threads thread)

theorem Service.put_put (service : Service) (thread : Nat) (first second : Thread × Store)
    : (service.put thread first).put thread second = service.put thread second := by
  simp only [Service.put, Function.update_idem]

theorem Service.put_threads (service : Service) (thread : Nat) (next : Thread × Store)
    : (service.put thread next).threads thread = some next.1 :=
  Function.update_self _ _ _

/-- A handler that has responded takes no more steps. -/
theorem run_responded {service last : Service} {thread : Nat} {response : Response}
    {steps : List Step} (owned : ∀ step ∈ steps, step.thread = thread)
    (done : service.threads thread = some (.responded response))
    (reached : run (serviceStep crypto) service steps = some last)
    : steps = [] ∧ last = service := by
  cases steps with
  | nil =>
      cases reached
      exact ⟨rfl, rfl⟩
  | cons step rest =>
      obtain ⟨next, stepped, _⟩ := run_cons reached
      have mine := owned step (List.mem_cons_self ..)
      rw [serviceStep_eq, mine, done] at stepped
      cases step <;> cases stepped

/-- The next step of a handler under way, or none if the run is over. -/
theorem run_put {service last : Service} {thread : Nat} {state : Thread × Store}
    {steps : List Step} (owned : ∀ step ∈ steps, step.thread = thread)
    (reached : run (serviceStep crypto) (service.put thread state) steps = some last)
    : (steps = [] ∧ last = service.put thread state)
      ∨ ∃ step rest next,
          steps = step :: rest
          ∧ threadStep crypto service.certificate step (some state.1) state.2 = some next
          ∧ run (serviceStep crypto) (service.put thread next) rest = some last := by
  cases steps with
  | nil =>
      cases reached
      exact .inl ⟨rfl, rfl⟩
  | cons step rest =>
      obtain ⟨after, stepped, remaining⟩ := run_cons reached
      have mine := owned step (List.mem_cons_self ..)
      rw [serviceStep_eq, mine, Service.put_threads] at stepped
      obtain ⟨next, found, rfl⟩ := Option.map_eq_some_iff.mp stepped
      rw [Service.put_put] at remaining
      exact .inr ⟨step, rest, next, rfl, found, remaining⟩

theorem run_put_responded {service last : Service} {thread : Nat} {response : Response}
    {store : Store} {steps : List Step} (owned : ∀ step ∈ steps, step.thread = thread)
    (reached : run (serviceStep crypto) (service.put thread (.responded response, store)) steps
      = some last)
    : steps = [] ∧ last = service.put thread (.responded response, store) :=
  run_responded owned (Service.put_threads ..) reached

/-- The rest of a `challenge` handler, run alone to its end. -/
theorem challenge_group {service last : Service} {thread : Nat} {body : Json} {steps : List Step}
    (owned : ∀ step ∈ steps, step.thread = thread)
    (reached : run (serviceStep crypto)
      (service.put thread (challengeThread body, service.outstanding)) steps = some last)
    (ended : Thread.Idle (last.threads thread))
    : ∃ nonce id,
        (Call.challenge thread body nonce id).execute crypto service = last
        ∧ ∀ step ∈ steps, step = .store thread nonce id := by
  unfold challengeThread at reached
  cases parsed : jsonRequestValue body with
  | error error =>
      rw [parsed] at reached
      obtain ⟨rfl, rfl⟩ := run_put_responded owned reached
      refine ⟨U8Array.zero 32, U8Array.zero 16, ?_, nofun⟩
      simp only [Call.execute, parsed]
      rfl
  | ok request =>
      rw [parsed] at reached
      obtain ⟨rfl, rfl⟩ | ⟨step, rest, next, rfl, stepped, remaining⟩ := run_put owned reached
      · rw [Service.put_threads] at ended
        cases ended
      · obtain ⟨mine, others⟩ := List.forall_mem_cons.mp owned
        cases step with
        | store owner nonce id =>
            change owner = thread at mine
            subst mine
            cases stepped
            obtain ⟨rfl, rfl⟩ := run_put_responded others remaining
            refine ⟨nonce, id, ?_, fun step member => List.mem_singleton.mp member⟩
            simp only [Call.execute, parsed]
            rfl
        | _ => cases stepped

/-- The end of a `verify` handler that has consumed its challenge, run alone. -/
theorem appraise_group {service last : Service} {thread : Nat} {fields : List (PyStr × Json)}
    {challengeId : PyStr} {expected : Challenge} {steps : List Step}
    (named : bodyChallengeId? (.obj fields) = some challengeId)
    (outstanding : service.outstanding challengeId = some expected)
    (owned : ∀ step ∈ steps, step.thread = thread)
    (reached : run (serviceStep crypto)
      (service.put thread
        (.appraising challengeId fields expected,
          Function.update service.outstanding challengeId none))
      steps = some last)
    (ended : Thread.Idle (last.threads thread))
    : ∃ files signature,
        (Call.verify thread (.obj fields) files signature).execute crypto service = last
        ∧ ∀ step ∈ .pop thread :: steps,
            step = .pop thread ∨ step = .appraise thread files signature := by
  obtain ⟨rfl, rfl⟩ | ⟨step, rest, next, rfl, stepped, remaining⟩ := run_put owned reached
  · rw [Service.put_threads] at ended
    cases ended
  · obtain ⟨mine, others⟩ := List.forall_mem_cons.mp owned
    cases step with
    | appraise owner files signature =>
        change owner = thread at mine
        subst mine
        cases stepped
        obtain ⟨rfl, rfl⟩ := run_put_responded others remaining
        refine ⟨files, signature, ?_, by simp⟩
        simp only [Call.execute, named, outstanding]
        rfl
    | _ => cases stepped

/-- The rest of a `verify` handler, run alone to its end. -/
theorem verify_group {service last : Service} {thread : Nat} {body : Json} {steps : List Step}
    (owned : ∀ step ∈ steps, step.thread = thread)
    (reached : run (serviceStep crypto)
      (service.put thread (verifyThread body, service.outstanding)) steps = some last)
    (ended : Thread.Idle (last.threads thread))
    : ∃ files signature,
        (Call.verify thread body files signature).execute crypto service = last
        ∧ ∀ step ∈ steps, step = .pop thread ∨ step = .appraise thread files signature := by
  have refused : ∀ {response : Response},
      verifyThread body = .responded response
      → (∀ files signature,
          (Call.verify thread body files signature).execute crypto service
          = service.respond thread response)
      → ∃ files signature,
          (Call.verify thread body files signature).execute crypto service = last
          ∧ ∀ step ∈ steps, step = .pop thread ∨ step = .appraise thread files signature := by
    intro response refusing executed
    rw [refusing] at reached
    obtain ⟨rfl, rfl⟩ := run_put_responded owned reached
    exact ⟨⟨none, none⟩, [], executed _ _, nofun⟩
  cases body with
  | obj fields =>
      cases named : bodyChallengeId? (.obj fields) with
      | none =>
          refine @refused (.verifyFailure 400 (.fixed "challenge_id required"))
            (by simp only [verifyThread, named]) fun files signature => ?_
          simp only [Call.execute, named]
      | some challengeId =>
          simp only [verifyThread, named] at reached
          obtain ⟨rfl, rfl⟩ | ⟨step, rest, next, rfl, stepped, remaining⟩ := run_put owned reached
          · rw [Service.put_threads] at ended
            cases ended
          · obtain ⟨mine, others⟩ := List.forall_mem_cons.mp owned
            cases step with
            | pop owner =>
                change owner = thread at mine
                subst mine
                simp only [threadStep] at stepped
                cases outstanding : service.outstanding challengeId with
                | none =>
                    rw [outstanding] at stepped
                    cases stepped
                    obtain ⟨rfl, rfl⟩ := run_put_responded others remaining
                    refine ⟨⟨none, none⟩, [], ?_, fun step member => ?_⟩
                    · simp only [Call.execute, named, outstanding]
                      rfl
                    · exact .inl (List.mem_singleton.mp member)
                | some expected =>
                    rw [outstanding] at stepped
                    cases stepped
                    exact appraise_group named outstanding others remaining ended
            | _ => cases stepped
  | _ => exact refused rfl fun _ _ => rfl

/-- The steps of one thread, from idle to idle and without interruption, are a call. -/
theorem group_call {service last : Service} {thread : Nat} {steps : List Step}
    (owned : ∀ step ∈ steps, step.thread = thread) (present : steps ≠ [])
    (before : Thread.Idle (service.threads thread))
    (reached : run (serviceStep crypto) service steps = some last)
    (ended : Thread.Idle (last.threads thread))
    : ∃ call : Call,
        call.thread = thread
        ∧ call.execute crypto service = last
        ∧ (∃ step ∈ steps, step.invokes = true)
        ∧ ∀ step ∈ steps, step ∈ call.steps := by
  obtain ⟨step, rest, rfl⟩ := List.exists_cons_of_ne_nil present
  obtain ⟨mine, others⟩ := List.forall_mem_cons.mp owned
  match idle : service.threads thread with
  | none =>
      obtain ⟨next, stepped, remaining⟩ := run_cons reached
      rw [serviceStep_eq, mine, idle] at stepped
      cases step with
      | challenge owner body =>
          change owner = thread at mine
          subst mine
          cases stepped
          obtain ⟨nonce, id, executed, all⟩ := challenge_group others remaining ended
          refine ⟨.challenge owner body nonce id, rfl, executed, ⟨_, .head _, rfl⟩, ?_⟩
          rintro step (_ | ⟨_, member⟩)
          · exact .head _
          · rw [all step member]
            exact .tail _ (.head _)
      | verify owner body =>
          change owner = thread at mine
          subst mine
          cases stepped
          obtain ⟨files, signature, executed, all⟩ := verify_group others remaining ended
          refine ⟨.verify owner body files signature, rfl, executed, ⟨_, .head _, rfl⟩, ?_⟩
          rintro step (_ | ⟨_, member⟩)
          · exact .head _
          · rcases all step member with rfl | rfl
            · exact .tail _ (.head _)
            · exact .tail _ (.tail _ (.head _))
      | _ => cases stepped
  | some (.responded response) =>
      obtain ⟨impossible, _⟩ := run_responded owned idle reached
      cases impossible
  | some (.storing _) =>
      rw [idle] at before
      cases before
  | some (.popping _ _) =>
      rw [idle] at before
      cases before
  | some (.appraising _ _ _) =>
      rw [idle] at before
      cases before

/-- Steps of other threads leave a thread as it is. -/
theorem run_threads_other {service last : Service} {steps : List Step} {thread : Nat}
    (others : ∀ step ∈ steps, step.thread ≠ thread)
    (reached : run (serviceStep crypto) service steps = some last)
    : last.threads thread = service.threads thread := by
  refine run_invariant_of_allowed (fun step => step.thread ≠ thread)
    (fun state => state.threads thread = service.threads thread) ?_ reached others rfl
  intro state step next stepped different kept
  rw [(serviceStep_threads stepped).2 thread different.symm]
  exact kept

theorem ownedBy_thread {thread : Nat} {steps : List Step} {step : Step}
    (member : step ∈ ownedBy Step.thread thread steps)
    : step.thread = thread ∧ step ∈ steps := by
  obtain ⟨inside, mine⟩ := List.mem_filter.mp member
  exact ⟨by simpa using mine, inside⟩

/-- Threads that run one after the other are calls. The induction is on their order; a thread that
comes later is still idle, and one that came earlier has responded for good.
-/
theorem grouped_calls {steps : List Step} {order : List Nat} {service last : Service}
    (distinct : order.Nodup)
    (acting : ∀ thread ∈ order, ∃ step ∈ steps, step.thread = thread)
    (before : ∀ thread ∈ order, Thread.Idle (service.threads thread))
    (reached : run (serviceStep crypto) service (grouped Step.thread order steps) = some last)
    (ended : last.Idle)
    : ∃ calls : List Call,
        calls.map Call.thread = order
        ∧ calls.foldl (Call.execute crypto) service = last
        ∧ ∀ call ∈ calls,
            (∃ step ∈ steps, step.thread = call.thread ∧ step.invokes = true)
            ∧ ∀ step ∈ steps, step.thread = call.thread → step ∈ call.steps := by
  induction order generalizing service with
  | nil =>
      cases reached
      exact ⟨[], rfl, rfl, nofun⟩
  | cons thread order ih =>
      obtain ⟨absent, distinct⟩ := List.nodup_cons.mp distinct
      obtain ⟨acts, acting⟩ := List.forall_mem_cons.mp acting
      obtain ⟨idle, before⟩ := List.forall_mem_cons.mp before
      rw [grouped, List.flatMap_cons, run_append] at reached
      obtain ⟨middle, alone, remaining⟩ := Option.bind_eq_some_iff.mp reached
      have later : ∀ step ∈ grouped Step.thread order steps, step.thread ≠ thread := by
        intro step member same
        obtain ⟨other, inside, owned⟩ := List.mem_flatMap.mp member
        rw [(ownedBy_thread owned).1] at same
        subst same
        exact absent inside
      have idleAfter : Thread.Idle (middle.threads thread) := by
        rw [← run_threads_other later remaining]
        exact ended thread
      have present : ownedBy Step.thread thread steps ≠ [] := by
        obtain ⟨step, member, mine⟩ := acts
        exact List.ne_nil_of_mem (List.mem_filter.mpr ⟨member, by simpa using mine⟩)
      obtain ⟨call, mine, executed, ⟨first, member, invokes⟩, all⟩ :=
        group_call (fun step owned => (ownedBy_thread owned).1) present idle alone idleAfter
      have stillIdle : ∀ other ∈ order, Thread.Idle (middle.threads other) := by
        intro other inside
        have unchanged : middle.threads other = service.threads other := by
          refine run_threads_other (fun step owned same => ?_) alone
          rw [(ownedBy_thread owned).1] at same
          subst same
          exact absent inside
        rw [unchanged]
        exact before other inside
      obtain ⟨calls, threads, folded, each⟩ := ih distinct acting stillIdle remaining
      refine ⟨call :: calls, by rw [List.map_cons, mine, threads], ?_, ?_⟩
      · rw [List.foldl_cons, executed]
        exact folded
      · refine List.forall_mem_cons.mpr ⟨⟨⟨first, ?_⟩, ?_⟩, each⟩
        · obtain ⟨theirs, inside⟩ := ownedBy_thread member
          exact ⟨inside, by rw [theirs, mine], invokes⟩
        · intro step inside same
          exact all step (List.mem_filter.mpr ⟨inside, by simpa using same.trans mine⟩)

-----------------------------------------------------------------------------------------
-- Serializability
-----------------------------------------------------------------------------------------

/-- Calls that do one after the other what a run does: each step is one of its handler's call, and
the calls are in the order of the accesses to the store.
-/
structure Serializes (crypto : Cryptography PublicKey) (start final : Service) (steps : List Step)
    (calls : List Call) : Prop where
  executed : calls.foldl (Call.execute crypto) start = final
  distinct : (calls.map Call.thread).Nodup
  invoked : ∀ call ∈ calls, ∃ step ∈ steps, step.invokes = true ∧ step ∈ call.steps
  covered : ∀ step ∈ steps, ∃ call ∈ calls, step ∈ call.steps
  ordered : ((steps.filter Step.locked).map Step.thread).Sublist (calls.map Call.thread)

/-- A run from idle to idle is serializable. -/
theorem idle_run_serializes {start final : Service} {steps : List Step} (idle : start.Idle)
    (reached : run (serviceStep crypto) start steps = some final) (ended : final.Idle)
    : ∃ calls, Serializes crypto start final steps calls := by
  have once : SharesOnce Step.thread Step.locked steps := fun thread =>
    (locked_once reached thread).1
  obtain ⟨order, distinct, covers, kept, equal⟩ :=
    run_grouped (@steps_independent _ crypto) once
  rw [← equal start] at reached
  obtain ⟨calls, threads, executed, each⟩ := grouped_calls distinct
    (fun thread inside => (covers thread).mp inside) (fun thread _ => idle thread) reached ended
  refine ⟨calls, executed, by rwa [threads], ?_, ?_, ?_⟩
  · intro call member
    obtain ⟨⟨step, inside, mine, invokes⟩, all⟩ := each call member
    exact ⟨step, inside, invokes, all step inside mine⟩
  · intro step inside
    have turn : step.thread ∈ calls.map Call.thread := by
      rw [threads]
      exact (covers step.thread).mpr ⟨step, inside, rfl⟩
    obtain ⟨call, member, same⟩ := List.mem_map.mp turn
    exact ⟨call, member, (each call member).2 step inside same.symm⟩
  · rw [threads, ← kept]
    exact grouped_shared_sublist once order

/-- Steps with which a handler goes on to its response, with arbitrary draws. -/
def remainingSteps (service : Service) (thread : Nat) : List Step :=
  match service.threads thread with
  | some (.storing _) => [.store thread (U8Array.zero 32) (U8Array.zero 16)]
  | some (.popping challengeId _) =>
      match service.outstanding challengeId with
      | none => [.pop thread]
      | some _ => [.pop thread, .appraise thread ⟨none, none⟩ []]
  | some (.appraising _ _ _) => [.appraise thread ⟨none, none⟩ []]
  | _ => []

theorem remainingSteps_owned (service : Service) (thread : Nat)
    : ∀ step ∈ remainingSteps service thread, step.thread = thread ∧ step.invokes = false := by
  unfold remainingSteps
  split
  · simp [Step.thread, Step.invokes]
  · split <;> simp [Step.thread, Step.invokes]
  · simp [Step.thread, Step.invokes]
  · exact nofun

theorem remainingSteps_idle {service : Service} {thread : Nat}
    (idle : Thread.Idle (service.threads thread))
    : remainingSteps service thread = [] := by
  unfold remainingSteps
  split
  · next state =>
      rw [state] at idle
      cases idle
  · next state =>
      rw [state] at idle
      cases idle
  · next state =>
      rw [state] at idle
      cases idle
  · rfl

/-- Every handler can go on to its response. -/
theorem run_remainingSteps (service : Service) (thread : Nat)
    : ∃ last,
        run (serviceStep crypto) service (remainingSteps service thread) = some last
        ∧ Thread.Idle (last.threads thread) := by
  have responds : ∀ {steps : List Step} {response : Response} {store : Store},
      run (serviceStep crypto) service steps
      = some (service.put thread (.responded response, store))
      → ∃ last,
          run (serviceStep crypto) service steps = some last
          ∧ Thread.Idle (last.threads thread) := by
    intro steps response store reached
    refine ⟨_, reached, ?_⟩
    rw [Service.put_threads]
    trivial
  unfold remainingSteps
  match state : service.threads thread with
  | none => exact ⟨service, rfl, by rw [state]; trivial⟩
  | some (.responded _) => exact ⟨service, rfl, by rw [state]; trivial⟩
  | some (.storing request) =>
      apply responds
      simp only [run, serviceStep_eq, Step.thread, state, threadStep, Option.map_some]
      rfl
  | some (.appraising challengeId body expected) =>
      apply responds
      simp only [run, serviceStep_eq, Step.thread, state, threadStep, Option.map_some]
      rfl
  | some (.popping challengeId body) =>
      dsimp only
      cases outstanding : service.outstanding challengeId with
      | none =>
          apply responds
          simp only [run, serviceStep_eq, Step.thread, state, threadStep, outstanding,
            Option.map_some]
          rfl
      | some expected =>
          apply responds
          simp only [run, serviceStep_eq, Step.thread, state, threadStep, outstanding,
            Option.map_some, Service.put_threads, Service.put_put]
          rfl

/-- All handlers of a list of threads can go on to their responses, and those that have responded
keep theirs.
-/
theorem exists_finished (threads : List Nat) (service : Service)
    : ∃ rest final,
        run (serviceStep crypto) service rest = some final
        ∧ (∀ step ∈ rest, step.invokes = false)
        ∧ (∀ thread ∈ threads, Thread.Idle (final.threads thread))
        ∧ (∀ thread,
            Thread.Idle (service.threads thread)
            → final.threads thread = service.threads thread)
        ∧ (service.Idle → rest = []) := by
  induction threads generalizing service with
  | nil => exact ⟨[], service, rfl, nofun, nofun, fun _ _ => rfl, fun _ => rfl⟩
  | cons thread threads ih =>
      obtain ⟨middle, reached, idle⟩ := @run_remainingSteps _ crypto service thread
      have owned := remainingSteps_owned service thread
      have untouched : ∀ other,
          Thread.Idle (service.threads other) → middle.threads other = service.threads other := by
        intro other idleOther
        by_cases same : other = thread
        · subst same
          rw [remainingSteps_idle idleOther] at reached
          cases reached
          rfl
        · refine run_threads_other (fun step member mine => ?_) reached
          exact same (mine.symm.trans (owned step member).1)
      obtain ⟨rest, final, remaining, quiet, finished, kept, nothing⟩ := ih middle
      refine ⟨remainingSteps service thread ++ rest, final, ?_, ?_, ?_, ?_, ?_⟩
      · rw [run_append, reached]
        exact remaining
      · intro step member
        rcases List.mem_append.mp member with mine | later
        · exact (owned step mine).2
        · exact quiet step later
      · refine List.forall_mem_cons.mpr ⟨?_, finished⟩
        rw [kept thread idle]
        exact idle
      · intro other idleOther
        have same := untouched other idleOther
        rw [kept other (by rw [same]; exact idleOther), same]
      · intro idleAll
        rw [remainingSteps_idle (idleAll thread)] at reached ⊢
        cases reached
        exact nothing idleAll

/-- Whatever the interleaving, the responses of the Verifier and its store are those of handlers
that run one after the other, in the order in which they access the store. Handlers still under way
are finished first, which changes no response given.
-/
theorem handlers_serializable {start last : Service} {steps : List Step} (idle : start.Idle)
    (reached : run (serviceStep crypto) start steps = some last)
    : ∃ rest final calls,
        run (serviceStep crypto) last rest = some final
        ∧ (∀ step ∈ rest, step.invokes = false)
        ∧ (last.Idle → rest = [])
        ∧ (∀ thread response,
            last.threads thread = some (.responded response)
            → final.threads thread = some (.responded response))
        ∧ Serializes crypto start final (steps ++ rest) calls := by
  obtain ⟨rest, final, remaining, quiet, finished, kept, nothing⟩ :=
    @exists_finished _ crypto (steps.map Step.thread) last
  have whole : run (serviceStep crypto) start (steps ++ rest) = some final := by
    rw [run_append, reached]
    exact remaining
  have ended : final.Idle := by
    intro thread
    by_cases acted : thread ∈ steps.map Step.thread
    · exact finished thread acted
    · have same : last.threads thread = start.threads thread :=
        run_threads_other (fun step member mine =>
          acted (List.mem_map.mpr ⟨step, member, mine⟩)) reached
      rw [kept thread (by rw [same]; exact idle thread), same]
      exact idle thread
  obtain ⟨calls, serial⟩ := idle_run_serializes idle whole ended
  refine ⟨rest, final, calls, remaining, quiet, nothing, ?_, serial⟩
  intro thread response responded
  rw [kept thread (by rw [responded]; trivial), responded]

theorem handlers_serializable_sample
    : ∃ last rest final calls,
        run (serviceStep sampleCrypto) (Service.initial []) sampleSteps = some last
        ∧ run (serviceStep sampleCrypto) last rest = some final
        ∧ Serializes sampleCrypto (Service.initial []) final (sampleSteps ++ rest) calls := by
  have idle : (Service.initial []).Idle := fun _ => trivial
  have evaluated :
      (run (serviceStep sampleCrypto) (Service.initial []) sampleSteps).isSome = true := by
    decide +kernel
  obtain ⟨last, reached⟩ := Option.isSome_iff_exists.mp evaluated
  obtain ⟨rest, final, calls, remaining, _, _, _, serial⟩ :=
    handlers_serializable idle reached
  exact ⟨last, rest, final, calls, reached, remaining, serial⟩

end Tarako.Verifier
