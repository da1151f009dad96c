import Mathlib.Data.List.InsertIdx
import Mathlib.Data.List.Nodup
import Mathlib.Data.List.Perm.Basic
import Tarako.Library.Transitions

/-! Processes of an applied pi calculus over one public channel, run against an attacker who
holds the network, and a rule for what every such run keeps. What happens between two actions
of a process is plain Lean: a pattern or test that fails continues as `stop`.
-/

namespace AppliedPi

open Transitions

section Processes

/-- A process. Outputs and fresh names are attributed to the role of the source that makes
them.
-/
inductive Process (Term Row Role Event : Type)
  | stop
  | input (next : Term → Process Term Row Role Event)
  | output (role : Role) (message : Term) (next : Process Term Row Role Event)
  | event (event : Event) (next : Process Term Row Role Event)
  | new (role : Role) (next : Nat → Process Term Row Role Event)
  | insert (row : Row) (next : Process Term Row Role Event)
  | get (next : Row → Process Term Row Role Event)
  | par (left right : Process Term Row Role Event)
  | replicate (body : Process Term Row Role Event)

/-- What a run records. -/
inductive Entry (Term Role Event : Type)
  | fresh (role : Role) (name : Nat)
  | sent (role : Role) (message : Term)
  | raised (event : Event)
deriving DecidableEq

/-- The terms of names, and the public functions: constructors and destructors alike are
partial operations on terms.
-/
structure Algebra (Term Op : Type) where
  name : Nat → Term
  apply : Op → List Term → Option Term

/-- The running processes, what the attacker has received or computed, the rows of the table,
the number of names generated so far, and the history of the run, newest first.
-/
structure State (Term Row Role Event : Type) where
  threads : List (Process Term Row Role Event)
  knowledge : List Term
  rows : List Row
  names : Nat
  history : List (Entry Term Role Event)

/-- A thread takes one step, where `choice` selects what it receives from the attacker's
knowledge or reads from the table; or the attacker generates a name or applies an operation to
what it knows.
-/
inductive Action (Op : Type)
  | resume (thread choice : Nat)
  | generate
  | compute (op : Op) (arguments : List Nat)
deriving DecidableEq

variable {Term Row Role Event Op : Type}

/-- One step of a process that has been taken out of the threads. -/
def State.resume (state : State Term Row Role Event) (choice : Nat)
    : Process Term Row Role Event → Option (State Term Row Role Event)
  | .stop => none
  | .input next =>
      match state.knowledge[choice]? with
      | none => none
      | some message => some { state with threads := next message :: state.threads }
  | .output role message next =>
      some { state with
        threads := next :: state.threads
        knowledge := message :: state.knowledge
        history := .sent role message :: state.history }
  | .event event next =>
      some { state with
        threads := next :: state.threads
        history := .raised event :: state.history }
  | .new role next =>
      some { state with
        threads := next state.names :: state.threads
        names := state.names + 1
        history := .fresh role state.names :: state.history }
  | .insert row next =>
      some { state with
        threads := next :: state.threads
        rows := row :: state.rows }
  | .get next =>
      match state.rows[choice]? with
      | none => none
      | some row => some { state with threads := next row :: state.threads }
  | .par left right => some { state with threads := left :: right :: state.threads }
  | .replicate body => some { state with threads := body :: .replicate body :: state.threads }

/-- One step of a run. -/
def State.step (algebra : Algebra Term Op) (state : State Term Row Role Event)
    : Action Op → Option (State Term Row Role Event)
  | .resume thread choice =>
      match state.threads[thread]? with
      | none => none
      | some process =>
          { state with threads := state.threads.eraseIdx thread }.resume choice process
  | .generate =>
      some { state with
        knowledge := algebra.name state.names :: state.knowledge
        names := state.names + 1 }
  | .compute op arguments =>
      match arguments.mapM (state.knowledge[·]?) with
      | none => none
      | some values =>
          match algebra.apply op values with
          | none => none
          | some result => some { state with knowledge := result :: state.knowledge }

/-- Before a process runs. -/
def State.initial (process : Process Term Row Role Event) : State Term Row Role Event :=
  ⟨[process], [], [], 0, []⟩

/-- The state after a sequence of actions. -/
def run (algebra : Algebra Term Op) (process : Process Term Row Role Event)
    (actions : List (Action Op))
    : Option (State Term Row Role Event) :=
  Transitions.run (State.step algebra) (State.initial process) actions

end Processes

-----------------------------------------------------------------------------------------
-- What every run keeps
-----------------------------------------------------------------------------------------

section Rules

variable {Term Row Role Event Op : Type}

/-- What a proof about a calculus fixes: the terms that may be known, the rows that may be
stored and the events that may be raised after a history, and the name that an event uses up.
Nothing that a history allows is lost when it grows.
-/
structure Rules (Term Row Role Event : Type) where
  known : List (Entry Term Role Event) → Term → Prop
  stored : List (Entry Term Role Event) → Row → Prop
  justified : List (Entry Term Role Event) → Event → Prop
  spends : Event → Option Nat
  known_later : ∀ {older later term}, older <:+ later → known older term → known later term
  stored_later : ∀ {older later row}, older <:+ later → stored older row → stored later row

variable (rules : Rules Term Row Role Event)

/-- A process respects the rules from a history on, whatever the other processes add to the
history before each of its steps. It owns the names it generated, and an event that uses up a
name takes it from the owned ones; copies of a replicated process own nothing.
-/
def Rules.Safe
    : Process Term Row Role Event → List Nat → List (Entry Term Role Event) → Prop
  | .stop, _, _ => True
  | .input next, owned, history =>
      ∀ later, history <:+ later → ∀ message, rules.known later message →
        Rules.Safe (next message) owned later
  | .output role message next, owned, history =>
      ∀ later, history <:+ later →
        rules.known (.sent role message :: later) message
        ∧ Rules.Safe next owned (.sent role message :: later)
  | .event event next, owned, history =>
      ∀ later, history <:+ later →
        rules.justified later event
        ∧ ∃ kept,
            ((rules.spends event).toList ++ kept).Perm owned
            ∧ Rules.Safe next kept (.raised event :: later)
  | .new role next, owned, history =>
      ∀ later, history <:+ later → ∀ name,
        Rules.Safe (next name) (name :: owned) (.fresh role name :: later)
  | .insert row next, owned, history =>
      ∀ later, history <:+ later → rules.stored later row ∧ Rules.Safe next owned later
  | .get next, owned, history =>
      ∀ later, history <:+ later → ∀ row, rules.stored later row →
        Rules.Safe (next row) owned later
  | .par left right, owned, history =>
      ∃ forLeft forRight,
        (forLeft ++ forRight).Perm owned
        ∧ Rules.Safe left forLeft history
        ∧ Rules.Safe right forRight history
  | .replicate body, _, history =>
      ∀ later, history <:+ later → Rules.Safe body [] later

variable {rules}

section Introduction

variable {owned : List Nat} {history : List (Entry Term Role Event)}

/-- A role that answers any number of messages. -/
theorem Rules.Safe.serve {answer : Term → Process Term Row Role Event}
    (answers : ∀ later, history <:+ later → ∀ message, rules.known later message →
      rules.Safe (answer message) [] later)
    : rules.Safe (.replicate (.input answer)) owned history :=
  fun _ grown later more message known => answers later (grown.trans more) message known

theorem Rules.Safe.receive {next : Term → Process Term Row Role Event}
    (continues : ∀ later, history <:+ later → ∀ message, rules.known later message →
      rules.Safe (next message) owned later)
    : rules.Safe (.input next) owned history :=
  continues

/-- A message that is known already may be sent. -/
theorem Rules.Safe.forward {role : Role} {message : Term} {next : Process Term Row Role Event}
    (known : rules.known history message)
    (continues : ∀ later, history <:+ later → rules.Safe next owned later)
    : rules.Safe (.output role message next) owned history := by
  intro later grown
  have extended := grown.trans (List.suffix_cons (.sent role message) later)
  exact ⟨rules.known_later extended known, continues _ extended⟩

/-- The last message of a role. -/
theorem Rules.Safe.answer {role : Role} {message : Term}
    (known : ∀ later, history <:+ later → .sent role message ∈ later →
      rules.known later message)
    : rules.Safe (.output role message .stop) owned history := by
  intro later grown
  refine ⟨known _ (grown.trans (List.suffix_cons _ _)) (List.mem_cons_self ..), trivial⟩

/-- An event that uses up no name. -/
theorem Rules.Safe.raise {event : Event} {next : Process Term Row Role Event}
    (free : rules.spends event = none)
    (justified : ∀ later, history <:+ later → rules.justified later event)
    (continues : ∀ later, history <:+ later → .raised event ∈ later →
      rules.Safe next owned later)
    : rules.Safe (.event event next) owned history := by
  intro later grown
  refine ⟨justified later grown, owned, ?_, ?_⟩
  · rw [free]
    exact .refl _
  · exact continues _ (grown.trans (List.suffix_cons _ _)) (List.mem_cons_self ..)

/-- An event that uses up the name generated last. -/
theorem Rules.Safe.spend {event : Event} {next : Process Term Row Role Event} {name : Nat}
    (spends : rules.spends event = some name)
    (justified : ∀ later, history <:+ later → rules.justified later event)
    (continues : ∀ later, history <:+ later → .raised event ∈ later →
      rules.Safe next owned later)
    : rules.Safe (.event event next) (name :: owned) history := by
  intro later grown
  refine ⟨justified later grown, owned, ?_, ?_⟩
  · rw [spends]
    exact .refl _
  · exact continues _ (grown.trans (List.suffix_cons _ _)) (List.mem_cons_self ..)

theorem Rules.Safe.generate {role : Role} {next : Nat → Process Term Row Role Event}
    (continues : ∀ later name, history <:+ later → .fresh role name ∈ later →
      rules.Safe (next name) (name :: owned) later)
    : rules.Safe (.new role next) owned history := by
  intro later grown name
  exact continues _ name (grown.trans (List.suffix_cons _ _)) (List.mem_cons_self ..)

theorem Rules.Safe.look {next : Row → Process Term Row Role Event}
    (continues : ∀ later, history <:+ later → ∀ row, rules.stored later row →
      rules.Safe (next row) owned later)
    : rules.Safe (.get next) owned history :=
  continues

/-- Roles in parallel that own nothing. -/
theorem Rules.Safe.together {left right : Process Term Row Role Event}
    (leftSafe : rules.Safe left [] history) (rightSafe : rules.Safe right [] history)
    : rules.Safe (.par left right) [] history :=
  ⟨[], [], .refl _, leftSafe, rightSafe⟩

end Introduction

/-- A process stays safe while the history grows. -/
theorem Rules.Safe.later {process : Process Term Row Role Event} {owned : List Nat}
    {older later : List (Entry Term Role Event)} (grown : older <:+ later)
    (safe : rules.Safe process owned older)
    : rules.Safe process owned later := by
  induction process generalizing owned with
  | stop => trivial
  | par left right left_ih right_ih =>
      obtain ⟨forLeft, forRight, split, leftSafe, rightSafe⟩ := safe
      exact ⟨forLeft, forRight, split, left_ih leftSafe, right_ih rightSafe⟩
  | _ =>
      -- every other process already speaks about all later histories
      intro last more
      exact safe last (grown.trans more)

/-- The name that an entry of the history uses up. -/
def Rules.spent (rules : Rules Term Row Role Event) : Entry Term Role Event → Option Nat
  | .raised event => rules.spends event
  | _ => none

/-- An entry of the history after its past. -/
def Rules.Allowed (rules : Rules Term Row Role Event) (entry : Entry Term Role Event)
    (older : List (Entry Term Role Event)) : Prop :=
  match entry with
  | .raised event => rules.justified older event
  | _ => True

/-- Names that were generated, each at most once. -/
def Account (names : Nat) (tokens : List Nat) : Prop :=
  tokens.Nodup ∧ ∀ token ∈ tokens, token < names

theorem Account.perm {names : Nat} {tokens others : List Nat} (account : Account names tokens)
    (same : others.Perm tokens)
    : Account names others :=
  ⟨same.nodup_iff.mpr account.1, fun token member => account.2 token (same.mem_iff.mp member)⟩

theorem Account.generate {names : Nat} {tokens : List Nat} (account : Account names tokens)
    : Account (names + 1) (names :: tokens) := by
  refine ⟨List.nodup_cons.mpr ⟨fun member => ?_, account.1⟩, ?_⟩
  · exact absurd (account.2 _ member) (Nat.lt_irrefl _)
  · intro token member
    rcases List.mem_cons.mp member with rfl | member
    · exact Nat.lt_succ_self _
    · exact Nat.lt_succ_of_lt (account.2 token member)

/-- The names that threads own, and that a history has used up. -/
def Rules.tokens (rules : Rules Term Row Role Event)
    (pool : List (Process Term Row Role Event × List Nat))
    (history : List (Entry Term Role Event)) : List Nat :=
  pool.flatMap Prod.snd ++ history.filterMap rules.spent

/-- Threads with the names they own. -/
structure Rules.Pool (rules : Rules Term Row Role Event) (state : State Term Row Role Event)
    (pool : List (Process Term Row Role Event × List Nat)) : Prop where
  threads : pool.map Prod.fst = state.threads
  safe : ∀ thread ∈ pool, rules.Safe thread.1 thread.2 state.history
  account : Account state.names (rules.tokens pool state.history)

/-- The invariant of a run. -/
structure Rules.Sound (rules : Rules Term Row Role Event) (state : State Term Row Role Event)
    : Prop where
  known : ∀ term ∈ state.knowledge, rules.known state.history term
  stored : ∀ row ∈ state.rows, rules.stored state.history row
  allowed : Each rules.Allowed state.history
  pool : ∃ pool, rules.Pool state pool

/-- What is left when a thread is taken out to make a step. -/
structure Rules.Rest (rules : Rules Term Row Role Event) (state : State Term Row Role Event)
    (owned : List Nat) (rest : List (Process Term Row Role Event × List Nat)) : Prop where
  threads : rest.map Prod.fst = state.threads
  safe : ∀ thread ∈ rest, rules.Safe thread.1 thread.2 state.history
  account : Account state.names (owned ++ rules.tokens rest state.history)

theorem Rules.Pool.take {state : State Term Row Role Event}
    {pool : List (Process Term Row Role Event × List Nat)} (holds : rules.Pool state pool)
    {thread : Nat} {process : Process Term Row Role Event}
    (found : state.threads[thread]? = some process)
    : ∃ owned rest,
        rules.Safe process owned state.history
        ∧ rules.Rest { state with threads := state.threads.eraseIdx thread } owned rest := by
  rw [← holds.threads, List.getElem?_map, Option.map_eq_some_iff] at found
  obtain ⟨⟨same, owned⟩, found, rfl⟩ := found
  have inside := List.mem_of_getElem? found
  obtain ⟨bound, found⟩ := List.getElem?_eq_some_iff.mp found
  have split := List.getElem_cons_eraseIdx_perm bound
  rw [found] at split
  refine ⟨owned, pool.eraseIdx thread, holds.safe _ inside, ?_, ?_, ?_⟩
  · rw [← holds.threads]
    exact (List.eraseIdx_map Prod.fst pool thread).symm
  · intro other member
    exact holds.safe other (List.mem_of_mem_eraseIdx member)
  · refine holds.account.perm ?_
    unfold Rules.tokens
    rw [← List.append_assoc]
    exact (split.flatMap_right Prod.snd).append_right _

/-- The threads that a step starts join the others. -/
theorem Rules.Rest.join {state next : State Term Row Role Event} {owned : List Nat}
    {rest : List (Process Term Row Role Event × List Nat)}
    (left : rules.Rest state owned rest)
    (started : List (Process Term Row Role Event × List Nat))
    (threads : next.threads = started.map Prod.fst ++ state.threads)
    (grown : state.history <:+ next.history)
    (safe : ∀ thread ∈ started, rules.Safe thread.1 thread.2 next.history)
    (account : Account next.names (rules.tokens (started ++ rest) next.history))
    : ∃ pool, rules.Pool next pool := by
  refine ⟨started ++ rest, ?_, ?_, account⟩
  · rw [List.map_append, left.threads, threads]
  · intro thread member
    rcases List.mem_append.mp member with member | member
    · exact safe thread member
    · exact (left.safe thread member).later grown

/-- A thread goes on with the names it owned, without an entry that uses up a name. -/
theorem Rules.Rest.proceed {state next : State Term Row Role Event} {owned : List Nat}
    {rest : List (Process Term Row Role Event × List Nat)}
    (left : rules.Rest state owned rest) {process : Process Term Row Role Event}
    (threads : next.threads = process :: state.threads) (names : next.names = state.names)
    (grown : state.history <:+ next.history)
    (free : next.history.filterMap rules.spent = state.history.filterMap rules.spent)
    (safe : rules.Safe process owned next.history)
    : ∃ pool, rules.Pool next pool := by
  refine left.join [(process, owned)] threads grown ?_ ?_
  · intro thread member
    rw [List.mem_singleton.mp member]
    exact safe
  · have account := left.account
    rw [names]
    simpa [Rules.tokens, free] using account

/-- An entry moves the name it uses up from the owned names to the history. -/
theorem Rules.tokens_cons {kept owned : List Nat} {entry : Entry Term Role Event}
    (process : Process Term Row Role Event)
    (rest : List (Process Term Row Role Event × List Nat))
    (history : List (Entry Term Role Event))
    (taken : ((rules.spent entry).toList ++ kept).Perm owned)
    : (rules.tokens ((process, kept) :: rest) (entry :: history)).Perm
        (owned ++ rules.tokens rest history) := by
  have moved : (entry :: history).filterMap rules.spent
      = (rules.spent entry).toList ++ history.filterMap rules.spent := by
    cases found : rules.spent entry <;> simp [found]
  have shared := taken.append_right (rules.tokens rest history)
  refine List.Perm.trans ?_ shared
  unfold Rules.tokens
  rw [moved, List.flatMap_cons, List.append_assoc, List.append_assoc]
  refine List.Perm.trans ?_ (List.perm_append_comm_assoc _ _ _)
  exact (List.perm_append_comm_assoc _ _ _).append_left kept

/-- One step of a thread keeps the invariant. The cases are those of the process. -/
theorem Rules.Sound.resume {state next : State Term Row Role Event} {choice : Nat}
    {process : Process Term Row Role Event} {owned : List Nat}
    {rest : List (Process Term Row Role Event × List Nat)}
    (known : ∀ term ∈ state.knowledge, rules.known state.history term)
    (stored : ∀ row ∈ state.rows, rules.stored state.history row)
    (allowed : Each rules.Allowed state.history)
    (safe : rules.Safe process owned state.history) (left : rules.Rest state owned rest)
    (resumed : state.resume choice process = some next)
    : rules.Sound next := by
  have now := List.suffix_refl state.history
  have knownLater {entry : Entry Term Role Event} (term : Term) (member : term ∈ state.knowledge)
      : rules.known (entry :: state.history) term :=
    rules.known_later (List.suffix_cons _ _) (known term member)
  have storedLater {entry : Entry Term Role Event} (row : Row) (member : row ∈ state.rows)
      : rules.stored (entry :: state.history) row :=
    rules.stored_later (List.suffix_cons _ _) (stored row member)
  cases process with
  | stop => cases resumed
  | input continued =>
      simp only [State.resume] at resumed
      split at resumed
      · cases resumed
      · next message found =>
          cases resumed
          have received := known message (List.mem_of_getElem? found)
          exact ⟨known, stored, allowed,
            left.proceed rfl rfl now rfl (safe _ now message received)⟩
  | output role message continued =>
      cases resumed
      obtain ⟨shown, continuedSafe⟩ := safe _ now
      refine ⟨?_, storedLater, ⟨trivial, allowed⟩,
        left.proceed rfl rfl (List.suffix_cons _ _) rfl continuedSafe⟩
      intro term member
      rcases List.mem_cons.mp member with rfl | member
      · exact shown
      · exact knownLater term member
  | event event continued =>
      cases resumed
      obtain ⟨justified, kept, taken, continuedSafe⟩ := safe _ now
      refine ⟨knownLater, storedLater, ⟨justified, allowed⟩,
        left.join [(continued, kept)] rfl (List.suffix_cons _ _) (by simpa using continuedSafe)
          (left.account.perm (rules.tokens_cons continued rest state.history taken))⟩
  | new role continued =>
      cases resumed
      refine ⟨knownLater, storedLater, ⟨trivial, allowed⟩,
        left.join [(continued state.names, state.names :: owned)] rfl (List.suffix_cons _ _)
          (by simpa using safe _ now state.names) ?_⟩
      simpa [Rules.tokens, Rules.spent, List.filterMap_cons] using left.account.generate
  | insert row continued =>
      cases resumed
      obtain ⟨fits, continuedSafe⟩ := safe _ now
      refine ⟨known, ?_, allowed, left.proceed rfl rfl now rfl continuedSafe⟩
      intro other member
      rcases List.mem_cons.mp member with rfl | member
      · exact fits
      · exact stored other member
  | get continued =>
      simp only [State.resume] at resumed
      split at resumed
      · cases resumed
      · next row found =>
          cases resumed
          have read := stored row (List.mem_of_getElem? found)
          exact ⟨known, stored, allowed, left.proceed rfl rfl now rfl (safe _ now row read)⟩
  | par first second =>
      cases resumed
      obtain ⟨forFirst, forSecond, split, firstSafe, secondSafe⟩ := safe
      refine ⟨known, stored, allowed,
        left.join [(first, forFirst), (second, forSecond)] rfl now
          (by simpa using ⟨firstSafe, secondSafe⟩) (left.account.perm ?_)⟩
      simpa [Rules.tokens] using split.append_right (rules.tokens rest state.history)
  | replicate body =>
      cases resumed
      refine ⟨known, stored, allowed,
        left.join [(body, []), (.replicate body, owned)] rfl now
          (by simpa using ⟨safe _ now, safe⟩) ?_⟩
      simpa [Rules.tokens] using left.account

/-- The attacker cannot leave the known terms: it may know every name, and operations on known
terms give known terms.
-/
structure Rules.Closed (rules : Rules Term Row Role Event) (algebra : Algebra Term Op) : Prop where
  name : ∀ history name, rules.known history (algebra.name name)
  apply : ∀ {history op arguments result},
    (∀ argument ∈ arguments, rules.known history argument)
    → algebra.apply op arguments = some result
    → rules.known history result

/-- The arguments of an operation come from the attacker's knowledge. -/
theorem mem_of_mapM_getElem? {knowledge values : List Term} {arguments : List Nat}
    (found : arguments.mapM (knowledge[·]?) = some values) {value : Term}
    (inside : value ∈ values)
    : value ∈ knowledge := by
  induction arguments generalizing values with
  | nil =>
      cases found
      cases inside
  | cons index rest ih =>
      simp only [List.mapM_cons, Option.bind_eq_bind, Option.bind_eq_some_iff, Option.pure_def,
        Option.some.injEq] at found
      obtain ⟨head, headFound, tail, tailFound, rfl⟩ := found
      rcases List.mem_cons.mp inside with rfl | inside
      · exact List.mem_of_getElem? headFound
      · exact ih tailFound inside

theorem Rules.Sound.step {algebra : Algebra Term Op} (closed : rules.Closed algebra)
    {state next : State Term Row Role Event} {action : Action Op}
    (stepped : state.step algebra action = some next) (sound : rules.Sound state)
    : rules.Sound next := by
  obtain ⟨pool, holds⟩ := sound.pool
  cases action with
  | resume thread choice =>
      simp only [State.step] at stepped
      split at stepped
      · cases stepped
      · next process found =>
          obtain ⟨owned, rest, safe, left⟩ := holds.take found
          refine .resume ?_ ?_ ?_ ?_ left stepped
          · exact sound.known
          · exact sound.stored
          · exact sound.allowed
          · exact safe
  | generate =>
      cases stepped
      refine ⟨?_, sound.stored, sound.allowed, pool, holds.threads, holds.safe,
        holds.account.1, fun token member => Nat.lt_succ_of_lt (holds.account.2 token member)⟩
      intro term member
      rcases List.mem_cons.mp member with rfl | member
      · exact closed.name _ _
      · exact sound.known term member
  | compute op arguments =>
      simp only [State.step] at stepped
      split at stepped
      · cases stepped
      · next values found =>
          split at stepped
          · cases stepped
          · next result computed =>
              cases stepped
              refine ⟨?_, sound.stored, sound.allowed, pool, holds.threads, holds.safe,
                holds.account⟩
              intro term member
              rcases List.mem_cons.mp member with rfl | member
              · refine closed.apply (fun value inside => ?_) computed
                exact sound.known value (mem_of_mapM_getElem? found inside)
              · exact sound.known term member

/-- A process that respects the rules from the empty history on keeps the invariant in every
run with the attacker.
-/
theorem Rules.Sound.reached {algebra : Algebra Term Op} (closed : rules.Closed algebra)
    {process : Process Term Row Role Event} (safe : rules.Safe process [] [])
    {actions : List (Action Op)} {state : State Term Row Role Event}
    (reached : run algebra process actions = some state)
    : rules.Sound state := by
  refine run_invariant_of_allowed (fun _ => True) rules.Sound ?_ reached (fun _ _ => trivial) ?_
  · intro before action after stepped _ sound
    exact sound.step closed stepped
  · refine ⟨by simp [State.initial], by simp [State.initial], trivial, [(process, [])], rfl, ?_, ?_⟩
    · simpa [State.initial] using safe
    · simp [Account, Rules.tokens, State.initial]

/-- An event of a run is justified by what came before it. -/
theorem Rules.Sound.justified_before {state : State Term Row Role Event}
    (sound : rules.Sound state) {older : List (Entry Term Role Event)}
    (past : older <:+ state.history) {event : Event} (raised : .raised event ∈ older)
    : ∃ before, before <:+ older ∧ rules.justified before event := by
  obtain ⟨last, split⟩ := past
  obtain ⟨newer, before, rfl⟩ := List.append_of_mem raised
  have allowed := sound.allowed
  rw [← split] at allowed
  refine ⟨before, ?_, allowed.older.justifies⟩
  exact (List.suffix_cons _ _).trans (List.suffix_append _ _)

theorem Rules.Sound.justified_at {state : State Term Row Role Event} (sound : rules.Sound state)
    {position : Nat} {event : Event} (found : state.history[position]? = some (.raised event))
    : rules.justified (state.history.drop (position + 1)) event :=
  sound.allowed.justifies_at found

/-- Two events that use up the same name are one. -/
theorem Rules.Sound.position_eq {state : State Term Row Role Event} (sound : rules.Sound state)
    {first second : Nat} {event other : Event} {name : Nat}
    (foundFirst : state.history[first]? = some (.raised event))
    (foundSecond : state.history[second]? = some (.raised other))
    (spendsFirst : rules.spends event = some name)
    (spendsSecond : rules.spends other = some name)
    : first = second := by
  obtain ⟨pool, holds⟩ := sound.pool
  have once := (List.nodup_append.mp holds.account.1).2.1
  rw [List.Nodup, List.pairwise_filterMap] at once
  obtain ⟨firstBound, foundFirst⟩ := List.getElem?_eq_some_iff.mp foundFirst
  obtain ⟨secondBound, foundSecond⟩ := List.getElem?_eq_some_iff.mp foundSecond
  rw [List.pairwise_iff_getElem] at once
  rcases Nat.lt_trichotomy first second with earlier | same | later
  · refine absurd rfl (once first second firstBound secondBound earlier name ?_ name ?_)
    · rw [foundFirst]
      exact spendsFirst
    · rw [foundSecond]
      exact spendsSecond
  · exact same
  · refine absurd rfl (once second first secondBound firstBound later name ?_ name ?_)
    · rw [foundSecond]
      exact spendsSecond
    · rw [foundFirst]
      exact spendsFirst

end Rules

-----------------------------------------------------------------------------------------
-- What the attacker can derive
-----------------------------------------------------------------------------------------

section Derivations

variable {Term Row Role Event Op : Type}

/-- What the attacker can derive from terms that it is given. It may know every name. -/
inductive Derivable (algebra : Algebra Term Op) (given : Term → Prop) : Term → Prop
  | given {term : Term} (shown : given term) : Derivable algebra given term
  | name (name : Nat) : Derivable algebra given (algebra.name name)
  | apply {op : Op} {arguments : List Term} {result : Term}
    (each : ∀ argument ∈ arguments, Derivable algebra given argument)
    (applied : algebra.apply op arguments = some result)
    : Derivable algebra given result

/-- The messages that any role has sent. -/
def Output (history : List (Entry Term Role Event)) (message : Term) : Prop :=
  ∃ role, .sent role message ∈ history

theorem Output.later {older later : List (Entry Term Role Event)} (grown : older <:+ later)
    {message : Term} (output : Output older message)
    : Output later message := by
  obtain ⟨role, sent⟩ := output
  exact ⟨role, grown.mem sent⟩

variable {algebra : Algebra Term Op}

/-- More given terms derive more, by induction on the derivation. -/
theorem Derivable.mono {given more : Term → Prop}
    (wider : ∀ {term}, given term → more term) {term : Term}
    (derivable : Derivable algebra given term)
    : Derivable algebra more term := by
  induction derivable with
  | given shown => exact .given (wider shown)
  | name name => exact .name name
  | apply _ applied ih => exact .apply ih applied

/-- Derivations do not leave the known terms, by induction on the derivation. -/
theorem Rules.Closed.derivable {rules : Rules Term Row Role Event}
    (closed : rules.Closed algebra) {history : List (Entry Term Role Event)}
    {given : Term → Prop} (known : ∀ {term}, given term → rules.known history term) {term : Term}
    (derivable : Derivable algebra given term)
    : rules.known history term := by
  induction derivable with
  | given shown => exact known shown
  | name name => exact closed.name history name
  | apply _ applied ih => exact closed.apply ih applied

/-- The attacker has received what was sent, and can derive from it all that it knows. -/
structure Learned (algebra : Algebra Term Op) (state : State Term Row Role Event) : Prop where
  received : ∀ {message}, Output state.history message → message ∈ state.knowledge
  derived : ∀ term ∈ state.knowledge, Derivable algebra (Output state.history) term

variable {state next : State Term Row Role Event}

/-- An entry that is not a message sends nothing. -/
theorem output_cons {entry : Entry Term Role Event} {history : List (Entry Term Role Event)}
    (silent : ∀ role message, entry ≠ .sent role message) {message : Term}
    (output : Output (entry :: history) message)
    : Output history message := by
  obtain ⟨role, sent⟩ := output
  rcases List.mem_cons.mp sent with same | sent
  · exact absurd same.symm (silent role message)
  · exact ⟨role, sent⟩

/-- Entries other than messages teach nothing. -/
theorem Learned.silent (learned : Learned algebra state) {entry : Entry Term Role Event}
    (history : next.history = entry :: state.history) (knowledge : next.knowledge = state.knowledge)
    (silent : ∀ role message, entry ≠ .sent role message)
    : Learned algebra next := by
  refine ⟨fun {message} output => ?_, fun term member => ?_⟩
  · rw [history] at output
    rw [knowledge]
    exact learned.received (output_cons silent output)
  · rw [knowledge] at member
    rw [history]
    exact (learned.derived term member).mono (·.later (List.suffix_cons _ _))

/-- One step of a process teaches the attacker what it sends, and nothing else. -/
theorem Learned.resume {choice : Nat} {process : Process Term Row Role Event}
    (learned : Learned algebra state) (resumed : state.resume choice process = some next)
    : Learned algebra next := by
  cases process with
  | stop => cases resumed
  | input continued =>
      simp only [State.resume] at resumed
      split at resumed
      · cases resumed
      · cases resumed
        exact ⟨learned.received, learned.derived⟩
  | output role message continued =>
      cases resumed
      have past := List.suffix_cons (Entry.sent role message) state.history
      refine ⟨fun {other} output => ?_, fun term member => ?_⟩
      · obtain ⟨sender, sent⟩ := output
        rcases List.mem_cons.mp sent with same | sent
        · cases same
          exact List.mem_cons_self ..
        · exact List.mem_cons_of_mem _ (learned.received ⟨sender, sent⟩)
      · rcases List.mem_cons.mp member with rfl | member
        · exact .given ⟨role, List.mem_cons_self ..⟩
        · exact (learned.derived term member).mono (·.later past)
  | event event continued =>
      cases resumed
      exact learned.silent rfl rfl nofun
  | new role continued =>
      cases resumed
      exact learned.silent rfl rfl nofun
  | insert row continued =>
      cases resumed
      exact ⟨learned.received, learned.derived⟩
  | get continued =>
      simp only [State.resume] at resumed
      split at resumed
      · cases resumed
      · cases resumed
        exact ⟨learned.received, learned.derived⟩
  | par first second =>
      cases resumed
      exact ⟨learned.received, learned.derived⟩
  | replicate body =>
      cases resumed
      exact ⟨learned.received, learned.derived⟩

/-- A term that the attacker derives itself. -/
theorem Learned.derive (learned : Learned algebra state) {term : Term}
    (derivable : Derivable algebra (Output state.history) term)
    (history : next.history = state.history) (knowledge : next.knowledge = term :: state.knowledge)
    : Learned algebra next := by
  refine ⟨fun {message} output => ?_, fun other member => ?_⟩
  · rw [history] at output
    rw [knowledge]
    exact List.mem_cons_of_mem _ (learned.received output)
  · rw [history]
    rw [knowledge] at member
    rcases List.mem_cons.mp member with rfl | member
    · exact derivable
    · exact learned.derived other member

theorem Learned.step {action : Action Op} (learned : Learned algebra state)
    (stepped : state.step algebra action = some next)
    : Learned algebra next := by
  cases action with
  | resume thread choice =>
      simp only [State.step] at stepped
      split at stepped
      · cases stepped
      · have taken : Learned algebra { state with threads := state.threads.eraseIdx thread } :=
          ⟨learned.received, learned.derived⟩
        exact taken.resume stepped
  | generate =>
      cases stepped
      exact learned.derive (.name state.names) rfl rfl
  | compute op arguments =>
      simp only [State.step] at stepped
      split at stepped
      · cases stepped
      · next values found =>
          split at stepped
          · cases stepped
          · next result computed =>
              cases stepped
              refine learned.derive (.apply (fun value inside => ?_) computed) rfl rfl
              exact learned.derived value (mem_of_mapM_getElem? found inside)

/-- In every run the attacker knows what was sent, and no more than it can derive from that. -/
theorem Learned.reached {process : Process Term Row Role Event} {actions : List (Action Op)}
    (reached : run algebra process actions = some state)
    : Learned algebra state := by
  refine run_invariant_of_allowed (fun _ => True) (Learned algebra) ?_ reached
    (fun _ _ => trivial) ?_
  · intro before action after stepped _ learned
    exact learned.step stepped
  · refine ⟨fun {message} output => ?_, nofun⟩
    obtain ⟨role, sent⟩ := output
    cases sent

/-- What can be derived from the messages of a sound run is known. -/
theorem Rules.Sound.derivable {rules : Rules Term Row Role Event} (sound : rules.Sound state)
    (closed : rules.Closed algebra) (learned : Learned algebra state) {term : Term}
    (derivable : Derivable algebra (Output state.history) term)
    : rules.known state.history term :=
  closed.derivable (fun output => sound.known _ (learned.received output)) derivable

end Derivations

end AppliedPi
