import Mathlib.Algebra.BigOperators.Fin
import Mathlib.Algebra.Order.Group.Multiset
import Mathlib.Data.Fintype.Basic
import Mathlib.Tactic.Abel
import Tarako.Driver.SetOnce
import Tarako.Library.Transitions

/-! `SetOnce` shared by any number of threads. Every atomic access is a step of its own, so a run
is one interleaving of the threads' accesses; the storage is read and dropped as it stands, and
a ledger of values says who has to drop each of them.
-/

namespace Tarako.Driver

open Transitions

/-- Where a thread stands in an operation on the cell. -/
inductive Operation (T : Type)
  | idle
  | claiming (value : T)
  | writing (value : T)
  | publishing (value : T)
  | rejected (value : T)
  | withdrawing
  | dropping
  | emptying
deriving DecidableEq

namespace Operation

variable {T : Type}

def isIdle : Operation T → Bool
  | .idle => true
  | _ => false

/-- In `clear`. -/
def clears : Operation T → Bool
  | .withdrawing => true
  | .dropping => true
  | .emptying => true
  | _ => false

/-- Between the `cmpxchg` that changed the word to 1 and the store that ends this. -/
def holdsWord : Operation T → Bool
  | .writing _ => true
  | .publishing _ => true
  | .dropping => true
  | .emptying => true
  | _ => false

/-- The argument of `populate`. -/
def argument : Operation T → Option T
  | .claiming value => some value
  | .writing value => some value
  | .publishing value => some value
  | .rejected value => some value
  | _ => none

/-- The values that the operation owns: the argument until it is written. -/
def owned : Operation T → Multiset T
  | .claiming value => {value}
  | .writing value => {value}
  | .rejected value => {value}
  | _ => 0

end Operation

/-- The cell with the threads that use it, the references that are alive, and whether the cell
itself is. References may be passed on, so they are only counted.
-/
structure SharedCell (n : Nat) (T : Type) where
  cell : SetOnce T
  threads : Fin n → Operation T
  references : Nat
  alive : Bool

/-- What a thread does: a call, the single access of `as_ref`, or the next access of the
operation that it is in.
-/
inductive Access (T : Type)
  | populate (value : T)
  | clear
  | asRef
  | proceed

/-- What happens next: a thread acts, a reference is followed or given up, or the owner drops
the cell.
-/
inductive CellAction (n : Nat) (T : Type)
  | act (thread : Fin n) (access : Access T)
  | follow
  | release
  | dropCell

/-- What happened. The storage is noted as it was found when a reference to it was made or
followed and when it was dropped.
-/
inductive CellEvent (n : Nat) (T : Type)
  | passed (thread : Fin n) (value : T)
  | populated (thread : Fin n) (value : T) (success : Bool)
  | absent (thread : Fin n)
  | referred (thread : Fin n) (storage : Option T)
  | followed (storage : Option T)
  | dropped (storage : Option T)
  | cleared (thread : Fin n)
deriving DecidableEq

namespace SharedCell

variable {n : Nat} {T : Type}

/-- A new cell, before any thread uses it. -/
def new : SharedCell n T :=
  ⟨SetOnce.new, fun _ => .idle, 0, true⟩

/-- A thread goes on to another place. -/
def goto (state : SharedCell n T) (thread : Fin n) (operation : Operation T) : SharedCell n T :=
  { state with threads := Function.update state.threads thread operation }

/-- No thread is in an operation. -/
def quiet (state : SharedCell n T) : Bool :=
  decide (∀ thread, (state.threads thread).isIdle = true)

/-- The contract of `clear`: no reference is alive, and no other thread accesses the cell. -/
def mayClear (state : SharedCell n T) (thread : Fin n) : Bool :=
  state.references == 0
    && decide (∀ other, other ≠ thread → (state.threads other).isIdle = true)

/-- The rest of that contract: until `clear` returns, no other thread accesses the cell. -/
def excluded (state : SharedCell n T) (thread : Fin n) : Bool :=
  decide (∃ other, other ≠ thread ∧ (state.threads other).clears = true)

/-- The next access of a thread that is in an operation. A rejected argument is dropped as
`populate` returns.
-/
def proceed (state : SharedCell n T) (thread : Fin n)
    : Option (SharedCell n T × List (CellEvent n T)) :=
  match state.threads thread with
  | .idle => none
  | .claiming value =>
      match state.cell.claim with
      | (claimed, true) => some ({ state with cell := claimed }.goto thread (.writing value), [])
      | (found, false) => some ({ state with cell := found }.goto thread (.rejected value), [])
  | .writing value =>
      some ({ state with cell := state.cell.write value }.goto thread (.publishing value), [])
  | .publishing value =>
      some ({ state with cell := state.cell.store 2 }.goto thread .idle,
        [.populated thread value true])
  | .rejected value =>
      some (state.goto thread .idle, [.populated thread value false, .dropped (some value)])
  | .withdrawing =>
      match state.cell.cmpxchg 2 1 with
      | (claimed, .ok 2) => some ({ state with cell := claimed }.goto thread .dropping, [])
      | (found, _) => some ({ state with cell := found }.goto thread .idle, [.cleared thread])
  | .dropping =>
      some ({ state with cell := state.cell.dropInPlace }.goto thread .emptying,
        [.dropped state.cell.value])
  | .emptying =>
      some ({ state with cell := state.cell.store 0 }.goto thread .idle, [.cleared thread])

/-- What a thread does, if it can. -/
def access (state : SharedCell n T) (thread : Fin n)
    : Access T → Option (SharedCell n T × List (CellEvent n T))
  | .populate value =>
      if (state.threads thread).isIdle then
        some (state.goto thread (.claiming value), [.passed thread value])
      else
        none
  | .clear =>
      if (state.threads thread).isIdle && state.mayClear thread then
        some (state.goto thread .withdrawing, [])
      else
        none
  | .asRef =>
      if (state.threads thread).isIdle then
        if state.cell.asRef then
          some ({ state with references := state.references + 1 },
            [.referred thread state.cell.value])
        else
          some (state, [.absent thread])
      else
        none
  | .proceed => state.proceed thread

/-- `Drop`: the borrow checker admits it only with exclusive access. -/
def dropCell (state : SharedCell n T) : SharedCell n T × List (CellEvent n T) :=
  if state.cell.init == 2 then
    ({ state with cell := state.cell.dropInPlace, alive := false }, [.dropped state.cell.value])
  else
    ({ state with alive := false }, [])

/-- One step, with the events it emits, newest first. -/
def step (state : SharedCell n T) : CellAction n T → Option (SharedCell n T × List (CellEvent n T))
  | .act thread access =>
      if state.alive && !state.excluded thread then state.access thread access else none
  | .follow =>
      if state.alive && state.references != 0 then
        some (state, [.followed state.cell.value])
      else
        none
  | .release =>
      if state.alive && state.references != 0 then
        some ({ state with references := state.references - 1 }, [])
      else
        none
  | .dropCell =>
      if state.alive && state.quiet && state.references == 0 then some state.dropCell else none

end SharedCell

-----------------------------------------------------------------------------------------
-- What a trace says
-----------------------------------------------------------------------------------------

section Traces

variable {n : Nat} {T : Type}

/-- The arguments of the successful `populate`s since the last `clear`. -/
def current : List (CellEvent n T) → List T
  | [] => []
  | .cleared _ :: _ => []
  | .populated _ value true :: older => value :: current older
  | _ :: older => current older

def CellEvent.isCleared : CellEvent n T → Bool
  | .cleared _ => true
  | _ => false

/-- The argument of a `populate` that returned true. -/
def CellEvent.published : CellEvent n T → Option T
  | .populated _ value true => some value
  | _ => none

/-- What `as_ref` returned, or what a reference showed. -/
def CellEvent.shown : CellEvent n T → Option (Option T)
  | .referred _ storage => some storage
  | .followed storage => some storage
  | _ => none

def CellEvent.passedValue : CellEvent n T → Option T
  | .passed _ value => some value
  | _ => none

def CellEvent.droppedValue : CellEvent n T → Option T
  | .dropped storage => storage
  | _ => none

/-- What must have happened before an event. -/
def CellEvent.Justified (event : CellEvent n T) (older : List (CellEvent n T)) : Prop :=
  match event with
  | .populated thread value success =>
      .passed thread value ∈ older ∧ (success = true → current older = [])
  | .absent _ => current older = []
  | .referred _ storage => ∃ value, storage = some value ∧ current older = [value]
  | .followed storage => ∃ value, storage = some value ∧ current older = [value]
  | .dropped storage => storage ≠ none
  | _ => True

end Traces

-----------------------------------------------------------------------------------------
-- What one step can do
-----------------------------------------------------------------------------------------

namespace SharedCell

variable {n : Nat} {T : Type}

/-- The accesses of a thread, with the guards under which they are made. -/
inductive Transition (state : SharedCell n T) (thread : Fin n)
    : SharedCell n T → List (CellEvent n T) → Prop
  | passes (value : T) (idle : state.threads thread = .idle)
    : Transition state thread (state.goto thread (.claiming value)) [.passed thread value]
  | claims {value : T} (found : state.threads thread = .claiming value)
    (word : state.cell.init = 0)
    : Transition state thread
        ({ state with cell := state.cell.store 1 }.goto thread (.writing value)) []
  | rejects {value : T} (found : state.threads thread = .claiming value)
    : Transition state thread (state.goto thread (.rejected value)) []
  | writes {value : T} (found : state.threads thread = .writing value)
    : Transition state thread
        ({ state with cell := state.cell.write value }.goto thread (.publishing value)) []
  | publishes {value : T} (found : state.threads thread = .publishing value)
    : Transition state thread ({ state with cell := state.cell.store 2 }.goto thread .idle)
        [.populated thread value true]
  | returns {value : T} (found : state.threads thread = .rejected value)
    : Transition state thread (state.goto thread .idle)
        [.populated thread value false, .dropped (some value)]
  | begins (idle : state.threads thread = .idle) (unreferred : state.references = 0)
    (alone : ∀ other, other ≠ thread → state.threads other = .idle)
    : Transition state thread (state.goto thread .withdrawing) []
  | withdraws (found : state.threads thread = .withdrawing) (word : state.cell.init = 2)
    : Transition state thread
        ({ state with cell := state.cell.store 1 }.goto thread .dropping) []
  | leaves (found : state.threads thread = .withdrawing) (word : state.cell.init ≠ 2)
    : Transition state thread (state.goto thread .idle) [.cleared thread]
  | drops (found : state.threads thread = .dropping)
    : Transition state thread
        ({ state with cell := state.cell.dropInPlace }.goto thread .emptying)
        [.dropped state.cell.value]
  | empties (found : state.threads thread = .emptying)
    : Transition state thread ({ state with cell := state.cell.store 0 }.goto thread .idle)
        [.cleared thread]
  | refers (idle : state.threads thread = .idle) (word : state.cell.init = 2)
    : Transition state thread { state with references := state.references + 1 }
        [.referred thread state.cell.value]
  | misses (idle : state.threads thread = .idle) (word : state.cell.init ≠ 2)
    : Transition state thread state [.absent thread]

theorem isIdle_iff (operation : Operation T) : operation.isIdle = true ↔ operation = .idle := by
  cases operation <;> simp [Operation.isIdle]

/-- The accesses of a thread that is in an operation. -/
theorem proceed_transition {state next : SharedCell n T} {thread : Fin n}
    {events : List (CellEvent n T)} (stepped : state.proceed thread = some (next, events))
    : Transition state thread next events := by
  unfold proceed at stepped
  split at stepped
  · cases stepped
  · next value found =>
      rw [SetOnce.claim_eq] at stepped
      split_ifs at stepped with word
      · cases stepped
        exact .claims found word
      · cases stepped
        exact .rejects found
  · next value found =>
      cases stepped
      exact .writes found
  · next value found =>
      cases stepped
      exact .publishes found
  · next value found =>
      cases stepped
      exact .returns found
  · next found =>
      unfold SetOnce.cmpxchg at stepped
      split_ifs at stepped with word
      · cases stepped
        exact .withdraws found word
      · cases stepped
        exact .leaves found word
  · next found =>
      cases stepped
      exact .drops found
  · next found =>
      cases stepped
      exact .empties found

theorem access_transition {state next : SharedCell n T} {thread : Fin n} {access : Access T}
    {events : List (CellEvent n T)} (stepped : state.access thread access = some (next, events))
    : Transition state thread next events := by
  cases access with
  | populate value =>
      simp only [SharedCell.access] at stepped
      split_ifs at stepped with idle
      cases stepped
      exact .passes value ((isIdle_iff _).mp idle)
  | clear =>
      simp only [SharedCell.access] at stepped
      split_ifs at stepped with admitted
      cases stepped
      simp only [mayClear, Bool.and_eq_true, beq_iff_eq, decide_eq_true_eq] at admitted
      obtain ⟨idle, unreferred, alone⟩ := admitted
      exact .begins ((isIdle_iff _).mp idle) unreferred
        fun other different => (isIdle_iff _).mp (alone other different)
  | asRef =>
      simp only [SharedCell.access] at stepped
      split_ifs at stepped with idle set
      · cases stepped
        exact .refers ((isIdle_iff _).mp idle) (by simpa [SetOnce.asRef] using set)
      · cases stepped
        exact .misses ((isIdle_iff _).mp idle) (by simpa [SetOnce.asRef] using set)
  | proceed => exact proceed_transition stepped

@[simp]
theorem goto_self (state : SharedCell n T) (thread : Fin n) (operation : Operation T)
    : (state.goto thread operation).threads thread = operation :=
  Function.update_self ..

@[simp]
theorem goto_other (state : SharedCell n T) {thread other : Fin n} (different : other ≠ thread)
    (operation : Operation T)
    : (state.goto thread operation).threads other = state.threads other :=
  Function.update_of_ne different ..

/-- What holds of every thread after one of them went on. -/
theorem forall_goto {state : SharedCell n T} {thread : Fin n} {operation : Operation T}
    (property : Fin n → Operation T → Prop) (here : property thread operation)
    (others : ∀ other, other ≠ thread → property other (state.threads other)) (other : Fin n)
    : property other ((state.goto thread operation).threads other) :=
  (Function.forall_update_iff _ property).mpr ⟨here, others⟩ other

-----------------------------------------------------------------------------------------
-- The word, the storage and who may touch it
-----------------------------------------------------------------------------------------

/-- What the thread that changed the word to 1 finds in the storage, and what was published
since the last `clear`.
-/
def Finds (storage : Option T) (published : List T) : Operation T → Prop
  | .writing _ => storage = none ∧ published = []
  | .publishing value => storage = some value ∧ published = []
  | .dropping => storage ≠ none
  | .emptying => storage = none
  | _ => False

/-- The three words. While it is 1, exactly one thread may touch the storage. -/
inductive Stands (state : SharedCell n T) (published : List T) : Prop
  | empty (word : state.cell.init = 0) (storage : state.cell.value = none)
    (free : ∀ thread, (state.threads thread).holdsWord = false) (fresh : published = [])
  | held (thread : Fin n) (word : state.cell.init = 1)
    (only : ∀ other, other ≠ thread → (state.threads other).holdsWord = false)
    (finds : Finds state.cell.value published (state.threads thread))
  | filled (value : T) (word : state.cell.init = 2) (storage : state.cell.value = some value)
    (free : ∀ thread, (state.threads thread).holdsWord = false) (once : published = [value])

theorem Finds.holdsWord {storage : Option T} {published : List T} {operation : Operation T}
    (finds : Finds storage published operation)
    : operation.holdsWord = true := by
  cases operation with
  | idle | claiming | rejected | withdrawing => exact finds.elim
  | writing | publishing | dropping | emptying => rfl

namespace Stands

variable {state : SharedCell n T} {published : List T}

theorem of_empty (stands : Stands state published) (word : state.cell.init = 0)
    : state.cell.value = none
      ∧ (∀ thread, (state.threads thread).holdsWord = false)
      ∧ published = [] := by
  cases stands with
  | empty _ storage free fresh => exact ⟨storage, free, fresh⟩
  | held _ other => exact absurd (word.symm.trans other) (by decide)
  | filled _ other => exact absurd (word.symm.trans other) (by decide)

theorem of_filled (stands : Stands state published) (word : state.cell.init = 2)
    : ∃ value,
        state.cell.value = some value
        ∧ (∀ thread, (state.threads thread).holdsWord = false)
        ∧ published = [value] := by
  cases stands with
  | empty other => exact absurd (word.symm.trans other) (by decide)
  | held _ other => exact absurd (word.symm.trans other) (by decide)
  | filled value _ storage free once => exact ⟨value, storage, free, once⟩

/-- A thread in the middle of a change has the storage to itself. -/
theorem of_holdsWord (stands : Stands state published) {thread : Fin n}
    (holds : (state.threads thread).holdsWord = true)
    : state.cell.init = 1
      ∧ (∀ other, other ≠ thread → (state.threads other).holdsWord = false)
      ∧ Finds state.cell.value published (state.threads thread) := by
  cases stands with
  | empty _ _ free => exact absurd holds (by rw [free]; decide)
  | held owner word only finds =>
      by_cases same : thread = owner
      · subst same
        exact ⟨word, only, finds⟩
      · exact absurd holds (by rw [only thread same]; decide)
  | filled _ _ _ free => exact absurd holds (by rw [free]; decide)

/-- Without a thread in the middle of a change, the cell is filled or empty. -/
theorem of_free (stands : Stands state published)
    (free : ∀ thread, (state.threads thread).holdsWord = false) (word : state.cell.init ≠ 2)
    : state.cell.init = 0 := by
  cases stands with
  | empty found => exact found
  | held owner _ _ finds => exact absurd finds.holdsWord (by rw [free]; decide)
  | filled _ found => exact absurd found word

end Stands

/-- Other threads keep off the storage when one leaves it alone. -/
theorem free_goto {state : SharedCell n T} {thread : Fin n} {operation : Operation T}
    (others : ∀ other, other ≠ thread → (state.threads other).holdsWord = false)
    (off : operation.holdsWord = false) (other : Fin n)
    : ((state.goto thread operation).threads other).holdsWord = false :=
  forall_goto (fun _ found => found.holdsWord = false) off others other

/-- A thread that keeps off the storage changes nothing there. -/
theorem Stands.goto {state : SharedCell n T} {published : List T} {thread : Fin n}
    {operation : Operation T} (stands : Stands state published)
    (before : (state.threads thread).holdsWord = false) (off : operation.holdsWord = false)
    : Stands (state.goto thread operation) published := by
  cases stands with
  | empty word storage free fresh =>
      exact .empty word storage (free_goto (fun other _ => free other) off) fresh
  | held owner word only finds =>
      have different : owner ≠ thread := by
        rintro rfl
        rw [finds.holdsWord] at before
        cases before
      refine .held owner word ?_ (by rwa [goto_other state different])
      exact forall_goto (fun other found => other ≠ owner → found.holdsWord = false)
        (fun _ => off) (fun other _ => only other)
  | filled value word storage free once =>
      exact .filled value word storage (free_goto (fun other _ => free other) off) once

/-- A thread in the middle of a change, with the storage to itself. -/
theorem Stands.of_owner {state : SharedCell n T} {cell : SetOnce T} {published : List T}
    {thread : Fin n} {operation : Operation T} (word : cell.init = 1)
    (others : ∀ other, other ≠ thread → (state.threads other).holdsWord = false)
    (finds : Finds cell.value published operation)
    : Stands ({ state with cell := cell }.goto thread operation) published := by
  refine .held thread word ?_ ?_
  · intro other different
    rw [goto_other _ different]
    exact others other different
  · rwa [goto_self]

/-- The contract of `clear` holds as long as it runs. -/
def Exclusive (state : SharedCell n T) : Prop :=
  ∀ thread,
    (state.threads thread).clears = true
    → state.references = 0 ∧ ∀ other, other ≠ thread → state.threads other = .idle

/-- A thread in `clear` is alone, so the storage is left alone by all others. -/
theorem Exclusive.free {state : SharedCell n T} (exclusive : Exclusive state) {thread : Fin n}
    (clears : (state.threads thread).clears = true) (other : Fin n) (different : other ≠ thread)
    : (state.threads other).holdsWord = false := by
  rw [(exclusive thread clears).2 other different]
  rfl

/-- Every access keeps the word and the storage in step. -/
theorem Transition.stands {state next : SharedCell n T} {thread : Fin n}
    {events older : List (CellEvent n T)} (transition : Transition state thread next events)
    (exclusive : Exclusive state) (stands : Stands state (current older))
    : Stands next (current (events ++ older)) := by
  have off {operation : Operation T} (found : state.threads thread = operation)
      (resting : operation.holdsWord = false)
      : (state.threads thread).holdsWord = false := by
    rw [found, resting]
  have on {operation : Operation T} (found : state.threads thread = operation)
      (holding : operation.holdsWord = true)
      : state.cell.init = 1
        ∧ (∀ other, other ≠ thread → (state.threads other).holdsWord = false)
        ∧ Finds state.cell.value (current older) operation := by
    have touched := stands.of_holdsWord (by rw [found, holding])
    rwa [found] at touched
  cases transition with
  | passes value idle => exact stands.goto (off idle rfl) rfl
  | claims found word =>
      obtain ⟨storage, free, fresh⟩ := stands.of_empty word
      exact .of_owner rfl (fun other _ => free other) ⟨storage, fresh⟩
  | rejects found => exact stands.goto (off found rfl) rfl
  | writes found =>
      obtain ⟨word, others, _, fresh⟩ := on found rfl
      exact .of_owner word others ⟨rfl, fresh⟩
  | publishes found =>
      obtain ⟨_, others, storage, fresh⟩ := on found rfl
      exact .filled _ rfl storage (free_goto others rfl) (congrArg _ fresh)
  | returns found => exact stands.goto (off found rfl) rfl
  | begins idle => exact stands.goto (off idle rfl) rfl
  | withdraws found word =>
      obtain ⟨value, storage, free, _⟩ := stands.of_filled word
      refine .of_owner rfl (fun other _ => free other) ?_
      exact fun vacant => Option.some_ne_none value (storage.symm.trans vacant)
  | leaves found word =>
      -- nothing was set, so there is nothing to clear
      have others := exclusive.free (by rw [found]; rfl)
      have free (other : Fin n) : (state.threads other).holdsWord = false := by
        by_cases same : other = thread
        · rw [same, found]
          rfl
        · exact others other same
      have vacant := stands.of_free free word
      exact .empty vacant (stands.of_empty vacant).1 (free_goto others rfl) rfl
  | drops found =>
      obtain ⟨word, others, _⟩ := on found rfl
      exact .of_owner word others rfl
  | empties found =>
      obtain ⟨_, others, storage⟩ := on found rfl
      exact .empty rfl storage (free_goto others rfl) rfl
  | refers idle word =>
      obtain ⟨value, storage, free, once⟩ := stands.of_filled word
      exact .filled value word storage free once
  | misses idle word => exact stands

/-- Every access keeps the contract of `clear`, as no other thread is in `clear`. -/
theorem Transition.exclusive {state next : SharedCell n T} {thread : Fin n}
    {events : List (CellEvent n T)} (transition : Transition state thread next events)
    (undisturbed : ∀ other, other ≠ thread → (state.threads other).clears = false)
    (exclusive : Exclusive state)
    : Exclusive next := by
  have elsewhere {cell : SetOnce T} {operation : Operation T}
      (alone : operation.clears = true
        → state.references = 0 ∧ ∀ other, other ≠ thread → state.threads other = .idle)
      : Exclusive ({ state with cell := cell }.goto thread operation) := by
    intro busy clears
    by_cases same : busy = thread
    · subst same
      rw [goto_self] at clears
      obtain ⟨unreferred, others⟩ := alone clears
      refine ⟨unreferred, fun other different => ?_⟩
      rw [goto_other _ different]
      exact others other different
    · rw [goto_other _ same] at clears
      exact absurd clears (by rw [undisturbed busy same]; decide)
  have kept {operation : Operation T} (found : state.threads thread = operation)
      (clears : operation.clears = true)
      : state.references = 0 ∧ ∀ other, other ≠ thread → state.threads other = .idle :=
    exclusive thread (by rw [found, clears])
  cases transition with
  | passes value idle => exact elsewhere nofun
  | claims found word => exact elsewhere nofun
  | rejects found => exact elsewhere nofun
  | writes found => exact elsewhere nofun
  | publishes found => exact elsewhere nofun
  | returns found => exact elsewhere nofun
  | begins idle unreferred alone => exact elsewhere fun _ => ⟨unreferred, alone⟩
  | withdraws found word => exact elsewhere fun _ => kept found rfl
  | leaves found word => exact elsewhere nofun
  | drops found => exact elsewhere fun _ => kept found rfl
  | empties found => exact elsewhere nofun
  | refers idle word =>
      intro busy clears
      by_cases same : busy = thread
      · rw [same, show _ = Operation.idle from idle] at clears
        cases clears
      · exact absurd clears (by rw [undisturbed busy same]; decide)
  | misses idle word => exact exclusive

/-- While references are alive, no access changes the word. -/
theorem Transition.referred {state next : SharedCell n T} {thread : Fin n}
    {events : List (CellEvent n T)} (transition : Transition state thread next events)
    {published : List T} (stands : Stands state published) (exclusive : Exclusive state)
    (referred : state.references ≠ 0 → state.cell.init = 2)
    : next.references ≠ 0 → next.cell.init = 2 := by
  have claimed {operation : Operation T} (found : state.threads thread = operation)
      (holding : operation.holdsWord = true) (alive : state.references ≠ 0)
      : False := by
    have word := (stands.of_holdsWord (by rw [found, holding])).1
    exact absurd (word.symm.trans (referred alive)) (by decide)
  cases transition with
  | passes value idle => exact referred
  | claims found word =>
      intro alive
      exact absurd (word.symm.trans (referred alive)) (by decide)
  | rejects found => exact referred
  | writes found => exact referred
  | publishes found => exact fun _ => rfl
  | returns found => exact referred
  | begins idle => exact referred
  | withdraws found word =>
      intro alive
      exact absurd (exclusive thread (by rw [found]; rfl)).1 alive
  | leaves found word => exact referred
  | drops found => exact referred
  | empties found => exact fun alive => (claimed found rfl alive).elim
  | refers idle word => exact fun _ => word
  | misses idle word => exact referred

/-- The arguments that threads work on were passed to `populate`. -/
def Passed (state : SharedCell n T) (events : List (CellEvent n T)) : Prop :=
  ∀ thread value,
    (state.threads thread).argument = some value → CellEvent.passed thread value ∈ events

theorem Transition.passed {state next : SharedCell n T} {thread : Fin n}
    {events older : List (CellEvent n T)} (transition : Transition state thread next events)
    (passed : Passed state older)
    : Passed next (events ++ older) := by
  have elsewhere {cell : SetOnce T} {operation : Operation T}
      (argued : ∀ value,
        operation.argument = some value → CellEvent.passed thread value ∈ events ++ older)
      : Passed ({ state with cell := cell }.goto thread operation) (events ++ older) := by
    refine forall_goto
      (fun busy found => ∀ value,
        found.argument = some value → CellEvent.passed busy value ∈ events ++ older)
      argued fun busy _ value argument => ?_
    exact List.mem_append_right _ (passed busy value argument)
  have kept {operation : Operation T} {value : T} (found : state.threads thread = operation)
      (argument : operation.argument = some value)
      : CellEvent.passed thread value ∈ events ++ older :=
    List.mem_append_right _ (passed thread value (by rw [found, argument]))
  cases transition with
  | passes value idle =>
      refine elsewhere fun other argument => ?_
      cases argument
      exact .head _
  | claims found word => exact elsewhere fun value same => kept found same
  | rejects found => exact elsewhere fun value same => kept found same
  | writes found => exact elsewhere fun value same => kept found same
  | publishes found => exact elsewhere nofun
  | returns found => exact elsewhere nofun
  | begins idle => exact elsewhere nofun
  | withdraws found word => exact elsewhere nofun
  | leaves found word => exact elsewhere nofun
  | drops found => exact elsewhere nofun
  | empties found => exact elsewhere nofun
  | refers idle word => exact fun busy value same => .tail _ (passed busy value same)
  | misses idle word => exact fun busy value same => .tail _ (passed busy value same)

/-- A word other than 2 that a thread outside of `clear` finds means that nothing was published
since the last `clear`.
-/
theorem Stands.fresh {state : SharedCell n T} {published : List T} {thread : Fin n}
    (stands : Stands state published) (idle : state.threads thread = .idle)
    (undisturbed : ∀ other, other ≠ thread → (state.threads other).clears = false)
    (word : state.cell.init ≠ 2)
    : published = [] := by
  cases stands with
  | empty _ _ _ fresh => exact fresh
  | held owner _ _ finds =>
      have different : owner ≠ thread := by
        rintro rfl
        rw [idle] at finds
        exact finds
      have unclear := undisturbed owner different
      cases operation : state.threads owner with
      | idle | claiming | rejected | withdrawing =>
          rw [operation] at finds
          exact finds.elim
      | writing | publishing =>
          rw [operation] at finds
          exact finds.2
      | dropping | emptying =>
          rw [operation] at unclear
          cases unclear
  | filled _ found => exact absurd found word

/-- Every event of an access is justified by what came before it. -/
theorem Transition.justified {state next : SharedCell n T} {thread : Fin n}
    {events older : List (CellEvent n T)} (transition : Transition state thread next events)
    (undisturbed : ∀ other, other ≠ thread → (state.threads other).clears = false)
    (stands : Stands state (current older)) (passed : Passed state older)
    (each : Each CellEvent.Justified older)
    : Each CellEvent.Justified (events ++ older) := by
  cases transition with
  | passes value idle => exact ⟨trivial, each⟩
  | claims found word => exact each
  | rejects found => exact each
  | writes found => exact each
  | publishes found =>
      have finds := (stands.of_holdsWord (by rw [found]; rfl)).2.2
      rw [found] at finds
      exact ⟨⟨passed thread _ (by rw [found]; rfl), fun _ => finds.2⟩, each⟩
  | returns found =>
      have known := passed thread _ (by rw [found]; rfl)
      exact ⟨⟨.tail _ known, nofun⟩, Option.some_ne_none _, each⟩
  | begins idle => exact each
  | withdraws found word => exact each
  | leaves found word => exact ⟨trivial, each⟩
  | drops found =>
      have finds := (stands.of_holdsWord (by rw [found]; rfl)).2.2
      rw [found] at finds
      exact ⟨finds, each⟩
  | empties found => exact ⟨trivial, each⟩
  | refers idle word =>
      obtain ⟨value, storage, _, once⟩ := stands.of_filled word
      exact ⟨⟨value, storage, once⟩, each⟩
  | misses idle word => exact ⟨stands.fresh idle undisturbed word, each⟩

-----------------------------------------------------------------------------------------
-- The ledger of values
-----------------------------------------------------------------------------------------

/-- The values passed to `populate`. -/
def passedValues (events : List (CellEvent n T)) : Multiset T :=
  events.filterMap CellEvent.passedValue

/-- The values that were dropped. -/
def droppedValues (events : List (CellEvent n T)) : Multiset T :=
  events.filterMap CellEvent.droppedValue

/-- The value in the storage. -/
def stored (cell : SetOnce T) : Multiset T :=
  cell.value.elim 0 ({·})

/-- Every value that was passed was dropped, or is owned by a thread or by the cell. -/
def Balanced (state : SharedCell n T) (events : List (CellEvent n T)) : Prop :=
  passedValues events
    = droppedValues events + ∑ thread, (state.threads thread).owned + stored state.cell

/-- The values of the other threads stay theirs. -/
theorem owned_goto (state : SharedCell n T) (thread : Fin n)
    : ∃ rest,
        ∑ other, (state.threads other).owned = (state.threads thread).owned + rest
        ∧ ∀ operation,
            ∑ other, ((state.goto thread operation).threads other).owned
              = operation.owned + rest := by
  refine ⟨∑ other ∈ Finset.univ.erase thread, (state.threads other).owned,
    (Finset.add_sum_erase _ _ (Finset.mem_univ thread)).symm, fun operation => ?_⟩
  rw [← Finset.add_sum_erase _ _ (Finset.mem_univ thread), goto_self]
  refine congrArg _ (Finset.sum_congr rfl fun other member => ?_)
  rw [goto_other state (Finset.ne_of_mem_erase member)]

theorem Transition.balanced {state next : SharedCell n T} {thread : Fin n}
    {events older : List (CellEvent n T)} (transition : Transition state thread next events)
    (stands : Stands state (current older)) (balanced : Balanced state older)
    : Balanced next (events ++ older) := by
  obtain ⟨rest, before, after⟩ := owned_goto state thread
  have books {operation : Operation T} (found : state.threads thread = operation)
      : passedValues older
        = droppedValues older + (operation.owned + rest) + stored state.cell := by
    rw [← found, ← before]
    exact balanced
  have settle {cell : SetOnce T} {operation : Operation T}
      (even : passedValues (events ++ older)
        = droppedValues (events ++ older) + (operation.owned + rest) + stored cell)
      : Balanced ({ state with cell := cell }.goto thread operation) (events ++ older) :=
    even.trans (by rw [← after operation]; rfl)
  have finds {operation : Operation T} (found : state.threads thread = operation)
      (holding : operation.holdsWord = true)
      : Finds state.cell.value (current older) operation := by
    have touched := (stands.of_holdsWord (by rw [found, holding])).2.2
    rwa [found] at touched
  cases transition with
  | passes value idle =>
      refine settle ?_
      have entered : passedValues ([.passed thread value] ++ older) = {value} + passedValues older :=
        rfl
      have same : droppedValues ([.passed thread value] ++ older) = droppedValues older := rfl
      rw [entered, same, books idle]
      simp only [Operation.owned]
      abel
  | claims found word => exact settle ((books found).trans rfl)
  | rejects found => exact settle ((books found).trans rfl)
  | @writes value found =>
      have vacant : stored state.cell = 0 := by rw [stored, (finds found rfl).1, Option.elim_none]
      have written : stored (state.cell.write value) = {value} := rfl
      refine settle ((books found).trans ?_)
      rw [vacant, written, List.nil_append]
      simp only [Operation.owned]
      abel
  | publishes found => exact settle ((books found).trans rfl)
  | @returns value found =>
      refine settle ((books found).trans ?_)
      have paid : droppedValues ([.populated thread value false, .dropped (some value)] ++ older)
          = {value} + droppedValues older := rfl
      rw [paid]
      simp only [Operation.owned]
      abel
  | begins idle => exact settle ((books idle).trans rfl)
  | withdraws found word => exact settle ((books found).trans rfl)
  | leaves found word => exact settle ((books found).trans rfl)
  | drops found =>
      obtain ⟨value, storage⟩ := Option.ne_none_iff_exists'.mp (finds found rfl)
      have filled : stored state.cell = {value} := by rw [stored, storage, Option.elim_some]
      have paid : droppedValues ([.dropped state.cell.value] ++ older)
          = {value} + droppedValues older := by
        rw [storage]
        rfl
      have vacant : stored state.cell.dropInPlace = 0 := rfl
      refine settle ((books found).trans ?_)
      rw [filled, paid, vacant]
      simp only [Operation.owned]
      abel
  | empties found => exact settle ((books found).trans rfl)
  | refers idle word => exact balanced
  | misses idle word => exact balanced

-----------------------------------------------------------------------------------------
-- Whole runs
-----------------------------------------------------------------------------------------

/-- What holds of a cell that is alive. -/
structure Sound (state : SharedCell n T) (events : List (CellEvent n T)) : Prop where
  stands : Stands state (current events)
  exclusive : Exclusive state
  referred : state.references ≠ 0 → state.cell.init = 2
  passed : Passed state events
  balanced : Balanced state events

/-- What holds of a cell and its trace: a cell that was dropped leaves no value behind. -/
structure Good (state : SharedCell n T × List (CellEvent n T)) : Prop where
  each : Each CellEvent.Justified state.2
  sound : state.1.alive = true → Sound state.1 state.2
  settled : state.1.alive = false → passedValues state.2 = droppedValues state.2

theorem new_good : Good ((new : SharedCell n T), []) where
  each := trivial
  sound _ :=
    { stands := .empty rfl rfl (fun _ => rfl) rfl
      exclusive := nofun
      referred := fun alive => absurd rfl alive
      passed := nofun
      balanced := by simp [Balanced, passedValues, droppedValues, stored, new, SetOnce.new,
        Operation.owned] }
  settled := nofun

/-- A thread's access keeps the cell alive. -/
theorem Transition.alive {state next : SharedCell n T} {thread : Fin n}
    {events : List (CellEvent n T)} (transition : Transition state thread next events)
    : next.alive = state.alive := by
  cases transition <;> rfl

theorem Transition.sound {state next : SharedCell n T} {thread : Fin n}
    {events older : List (CellEvent n T)} (transition : Transition state thread next events)
    (undisturbed : ∀ other, other ≠ thread → (state.threads other).clears = false)
    (sound : Sound state older)
    : Sound next (events ++ older) where
  stands := transition.stands sound.exclusive sound.stands
  exclusive := transition.exclusive undisturbed sound.exclusive
  referred := transition.referred sound.stands sound.exclusive sound.referred
  passed := transition.passed sound.passed
  balanced := transition.balanced sound.stands sound.balanced

/-- Dropping a cell that no thread uses settles the ledger. -/
theorem dropCell_good {state : SharedCell n T} {older : List (CellEvent n T)}
    (sound : Sound state older) (each : Each CellEvent.Justified older)
    (quiet : state.quiet = true)
    : Good (state.dropCell.1, state.dropCell.2 ++ older) := by
  have idle (thread : Fin n) : state.threads thread = .idle :=
    (isIdle_iff _).mp (of_decide_eq_true quiet thread)
  have books : passedValues older = droppedValues older + stored state.cell := by
    have nothing : ∑ thread, (state.threads thread).owned = 0 := by
      refine Finset.sum_eq_zero fun thread _ => ?_
      rw [idle]
      rfl
    have balanced : passedValues older = _ + _ + _ := sound.balanced
    rwa [nothing, add_zero] at balanced
  unfold dropCell
  split_ifs with filled
  · obtain ⟨value, storage, _⟩ := sound.stands.of_filled (by simpa using filled)
    rw [stored, storage, Option.elim_some] at books
    have paid : droppedValues ([.dropped (some value)] ++ older)
        = {value} + droppedValues older := rfl
    refine ⟨⟨?_, each⟩, nofun, fun _ => ?_⟩
    · rw [storage]
      exact Option.some_ne_none value
    · rw [storage, paid, add_comm]
      exact books
  · have free (thread : Fin n) : (state.threads thread).holdsWord = false := by
      rw [idle]
      rfl
    have vacant := sound.stands.of_free free (by simpa using filled)
    rw [stored, (sound.stands.of_empty vacant).1, Option.elim_none, add_zero] at books
    exact ⟨each, nofun, fun _ => books⟩

/-- One step keeps all of this. -/
theorem step_good {state next : SharedCell n T × List (CellEvent n T)} {action : CellAction n T}
    (stepped : traced step state action = some next) (good : Good state)
    : Good next := by
  obtain ⟨state, older⟩ := state
  obtain ⟨next, trace⟩ := next
  obtain ⟨events, found, rfl⟩ := traced_some stepped
  dsimp only at found
  cases action with
  | act thread access =>
      simp only [step] at found
      split_ifs at found with admitted
      simp only [Bool.and_eq_true, Bool.not_eq_true', excluded, decide_eq_false_iff_not, not_exists,
        not_and, Bool.not_eq_true] at admitted
      obtain ⟨alive, undisturbed⟩ := admitted
      have transition := access_transition found
      have sound := good.sound alive
      refine ⟨?_, fun _ => transition.sound undisturbed sound, fun gone => ?_⟩
      · exact transition.justified undisturbed sound.stands sound.passed good.each
      · exact absurd ((transition.alive.trans alive).symm.trans gone) (by decide)
  | follow =>
      simp only [step] at found
      split_ifs at found with admitted
      cases found
      simp only [Bool.and_eq_true, bne_iff_ne] at admitted
      have sound := good.sound admitted.1
      obtain ⟨value, storage, _, once⟩ := sound.stands.of_filled (sound.referred admitted.2)
      refine ⟨⟨⟨value, storage, once⟩, good.each⟩, fun _ => ?_, fun gone => ?_⟩
      · exact ⟨sound.stands, sound.exclusive, sound.referred,
          fun thread argument same => .tail _ (sound.passed thread argument same), sound.balanced⟩
      · exact absurd (admitted.1.symm.trans gone) (by decide)
  | release =>
      simp only [step] at found
      split_ifs at found with admitted
      cases found
      simp only [Bool.and_eq_true, bne_iff_ne] at admitted
      have sound := good.sound admitted.1
      refine ⟨good.each, fun _ => ?_, fun gone => ?_⟩
      · refine ⟨?_, ?_, fun _ => sound.referred admitted.2, sound.passed, sound.balanced⟩
        · obtain ⟨value, storage, free, once⟩ :=
            sound.stands.of_filled (sound.referred admitted.2)
          exact .filled value (sound.referred admitted.2) storage free once
        · intro thread clears
          exact absurd (sound.exclusive thread clears).1 admitted.2
      · exact absurd (admitted.1.symm.trans gone) (by decide)
  | dropCell =>
      simp only [step] at found
      split_ifs at found with admitted
      simp only [Bool.and_eq_true] at admitted
      have ended := dropCell_good (good.sound admitted.1.1) good.each admitted.1.2
      rwa [Option.some.inj found] at ended

/-- Every run from a new cell keeps all of this, by induction on its steps. -/
theorem run_good {state : SharedCell n T × List (CellEvent n T)}
    {actions : List (CellAction n T)}
    (reached : Transitions.run (traced step) (new, []) actions = some state)
    : Good state :=
  run_invariant_of_allowed (fun _ => True) Good (fun stepped _ good => step_good stepped good)
    reached (fun _ _ => trivial) new_good

end SharedCell

section Traces

variable {n : Nat} {T : Type}

/-- A stretch of a trace in which no `clear` returned. -/
def Uncleared (events : List (CellEvent n T)) : Prop :=
  ∀ event ∈ events, event.isCleared = false

theorem current_append {middle older : List (CellEvent n T)} (uncleared : Uncleared middle)
    : current (middle ++ older) = middle.filterMap CellEvent.published ++ current older := by
  induction middle with
  | nil => rfl
  | cons event rest ih =>
      have later := ih fun other member => uncleared other (.tail _ member)
      have first := uncleared event (.head _)
      cases event with
      | cleared thread => cases first
      | populated thread value success =>
          cases success with
          | false => exact later
          | true => exact congrArg (value :: ·) later
      | passed | absent | referred | followed | dropped => exact later

/-- At most one `populate` succeeded since the last `clear`, by induction on the trace. -/
theorem current_length_le {events : List (CellEvent n T)}
    (each : Each CellEvent.Justified events)
    : (current events).length ≤ 1 := by
  induction events with
  | nil => exact Nat.zero_le 1
  | cons event older ih =>
      have before := ih each.2
      cases event with
      | cleared thread => exact Nat.zero_le 1
      | populated thread value success =>
          cases success with
          | false => exact before
          | true =>
              rw [current, each.1.2 rfl]
              exact Nat.le_refl 1
      | passed | absent | referred | followed | dropped => exact before

/-- A published value comes from a `populate` that returned since the last `clear`. -/
theorem populated_of_current {events : List (CellEvent n T)} {value : T}
    (member : value ∈ current events)
    : ∃ thread middle older,
        events = middle ++ .populated thread value true :: older ∧ Uncleared middle := by
  induction events with
  | nil => cases member
  | cons event rest ih =>
      have extend (earlier : value ∈ current rest) (quiet : event.isCleared = false)
          : ∃ thread middle older,
              event :: rest = middle ++ .populated thread value true :: older
              ∧ Uncleared middle := by
        obtain ⟨thread, middle, older, rfl, uncleared⟩ := ih earlier
        exact ⟨thread, event :: middle, older, rfl, List.forall_mem_cons.mpr ⟨quiet, uncleared⟩⟩
      cases event with
      | cleared thread => cases member
      | populated thread other success =>
          cases success with
          | false => exact extend member rfl
          | true =>
              rcases List.mem_cons.mp member with rfl | earlier
              · exact ⟨thread, [], rest, rfl, nofun⟩
              · exact extend earlier rfl
      | passed | absent | referred | followed | dropped => exact extend member rfl

/-- What is shown is the value published since the last `clear`. -/
theorem current_of_shown {event : CellEvent n T} {older : List (CellEvent n T)}
    {storage : Option T} (shown : event.shown = some storage)
    (justified : event.Justified older)
    : ∃ value, storage = some value ∧ current older = [value] := by
  cases event with
  | referred | followed =>
      cases shown
      exact justified
  | passed | populated | absent | dropped | cleared => cases shown

theorem current_cons_of_shown {event : CellEvent n T} {older : List (CellEvent n T)}
    {storage : Option T} (shown : event.shown = some storage)
    : current (event :: older) = current older := by
  cases event with
  | referred | followed => rfl
  | passed | populated | absent | dropped | cleared => cases shown

end Traces

/-- `SetOnce` is safe under every interleaving of any number of threads, with `clear` under its
contract and a final `Drop`. Between two clears at most one `populate` returns true. What
`as_ref` returns, and what a reference shows later, is the argument of the `populate` that
returned true since the last clear, the same value until the next one, and nothing but that
value is returned once it is there. The storage is read and dropped only while it is
initialized, and in the end every value passed to `populate` was dropped exactly once.
-/
theorem setOnce_interleavings_safe {n : Nat} {T : Type} {actions : List (CellAction n T)}
    {state : SharedCell n T} {events : List (CellEvent n T)}
    (reached : Transitions.run (traced SharedCell.step) (SharedCell.new, []) actions
      = some (state, events))
    : (∀ newer middle older,
        events = newer ++ (middle ++ older)
        → Uncleared middle
        → (middle.filterMap CellEvent.published).length ≤ 1)
      ∧ (∀ newer older event storage,
        events = newer ++ event :: older
        → event.shown = some storage
        → ∃ value thread middle oldest,
            storage = some value
            ∧ older = middle ++ .populated thread value true :: oldest
            ∧ Uncleared middle
            ∧ .passed thread value ∈ oldest)
      ∧ (∀ newer middle older event other storage different,
        events = newer ++ event :: (middle ++ other :: older)
        → Uncleared middle
        → event.shown = some storage
        → other.shown = some different
        → storage = different)
      ∧ (∀ newer middle older thread other value,
        events = newer ++ .absent thread :: (middle ++ .populated other value true :: older)
        → ¬ Uncleared middle)
      ∧ (∀ storage, .dropped storage ∈ events → storage ≠ none)
      ∧ (state.alive = false
        → (events.filterMap CellEvent.droppedValue).Perm
            (events.filterMap CellEvent.passedValue)) := by
  have good := SharedCell.run_good reached
  have each := good.each
  refine ⟨?_, ?_, ?_, ?_, ?_, ?_⟩
  · rintro newer middle older rfl uncleared
    have bound := current_length_le each.older
    rw [current_append uncleared, List.length_append] at bound
    omega
  · rintro newer older event storage rfl shown
    obtain ⟨value, rfl, once⟩ := current_of_shown shown each.justifies
    obtain ⟨thread, middle, oldest, rfl, uncleared⟩ :=
      populated_of_current (once ▸ List.mem_singleton_self value)
    have populated := (each.older.2.justifies).1
    exact ⟨value, thread, middle, oldest, rfl, rfl, uncleared, populated⟩
  · rintro newer middle older event other storage different rfl uncleared shown shownBefore
    obtain ⟨value, rfl, once⟩ := current_of_shown shown each.justifies
    obtain ⟨earlier, rfl, before⟩ := current_of_shown shownBefore each.older.2.justifies
    rw [current_append uncleared, current_cons_of_shown shownBefore, before] at once
    have lasts := List.append_inj_right' (once.trans (List.nil_append _).symm) rfl
    rw [List.singleton_inj.mp lasts]
  · rintro newer middle older thread other value rfl uncleared
    have fresh : current (middle ++ _) = [] := each.justifies
    rw [current_append uncleared] at fresh
    exact List.cons_ne_nil _ _ (List.append_eq_nil_iff.mp fresh).2
  · intro storage member
    obtain ⟨newer, older, rfl⟩ := List.append_of_mem member
    exact each.justifies
  · intro gone
    exact (Multiset.coe_eq_coe.mp (good.settled gone)).symm

/-- Two threads fill the cell at once while a third looks at it; the first one wins, and its
value is read, cleared and replaced before the cell is dropped.
-/
def sampleInterleaving : List (CellAction 3 Nat) :=
  [.act 0 (.populate 5), .act 1 (.populate 7), .act 0 .proceed, .act 2 .asRef, .act 1 .proceed,
    .act 0 .proceed, .act 1 .proceed, .act 0 .proceed, .act 2 .asRef, .follow, .release,
    .act 1 .clear, .act 1 .proceed, .act 1 .proceed, .act 1 .proceed, .act 2 (.populate 9),
    .act 2 .proceed, .act 2 .proceed, .act 2 .proceed, .dropCell]

theorem setOnce_interleavings_safe_three
    : ∃ state events,
        Transitions.run (traced SharedCell.step) (SharedCell.new, []) sampleInterleaving
          = some (state, events)
        ∧ events.filterMap CellEvent.droppedValue = [9, 5, 7]
        ∧ (events.filterMap CellEvent.droppedValue).Perm
            (events.filterMap CellEvent.passedValue) := by
  refine ⟨_, _, rfl, rfl, ?_⟩
  exact (@setOnce_interleavings_safe 3 Nat sampleInterleaving _ _ rfl).2.2.2.2.2 rfl

end Tarako.Driver
