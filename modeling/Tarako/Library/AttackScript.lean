import Tarako.Library.AppliedPi

/-! Attacks written down by the messages they use. A script names terms where a run names
positions in the attacker's knowledge; terms that are not yet known are built from their parts.
Every script that can be played is a run.
-/

namespace AppliedPi

open Transitions

variable {Term Row Role Event Op : Type}

section Continuations

variable {algebra : Algebra Term Op} {state next last : State Term Row Role Event}

/-- Some actions lead from a state to another. -/
def Continues (algebra : Algebra Term Op) (state next : State Term Row Role Event) : Prop :=
  ∃ actions, Transitions.run (State.step algebra) state actions = some next

theorem Continues.refl (state : State Term Row Role Event) : Continues algebra state state :=
  ⟨[], rfl⟩

theorem Continues.trans (first : Continues algebra state next)
    (second : Continues algebra next last)
    : Continues algebra state last := by
  obtain ⟨actions, reached⟩ := first
  obtain ⟨more, continued⟩ := second
  refine ⟨actions ++ more, ?_⟩
  rw [run_append, reached]
  exact continued

theorem Continues.step {action : Action Op} (stepped : state.step algebra action = some next)
    : Continues algebra state next := by
  refine ⟨[action], ?_⟩
  rw [Transitions.run, stepped]
  rfl

/-- A fold continues if each of its steps does. -/
theorem Continues.foldlM {Item : Type}
    {advance : State Term Row Role Event → Item → Option (State Term Row Role Event)}
    (each : ∀ {state item next}, advance state item = some next → Continues algebra state next)
    {items : List Item} (folded : items.foldlM advance state = some last)
    : Continues algebra state last := by
  induction items generalizing state with
  | nil =>
      cases folded
      exact .refl _
  | cons item rest ih =>
      obtain ⟨middle, advanced, remaining⟩ := Option.bind_eq_some_iff.mp folded
      exact (each advanced).trans (ih remaining)

end Continuations

variable [DecidableEq Term]

/-- A thread takes a step and goes on for some more; a thread receives a message and goes on; or
the attacker applies an operation to terms.
-/
inductive Move (Term Op : Type)
  | proceed (thread more : Nat)
  | deliver (thread : Nat) (message : Term) (more : Nat)
  | take (op : Op) (arguments : List Term)

section Scripts

variable (algebra : Algebra Term Op) (parts : Term → Option (Op × List Term))

/-- A step of a thread and then steps of what it has become, which is the first thread. -/
def State.advance (state : State Term Row Role Event) (thread choice more : Nat)
    : Option (State Term Row Role Event) :=
  Transitions.run (State.step algebra) state
    (.resume thread choice :: List.replicate more (.resume 0 0))

/-- The attacker applies an operation to terms that it knows. -/
def State.apply (state : State Term Row Role Event) (op : Op) (arguments : List Term)
    : Option (State Term Row Role Event) :=
  state.step algebra (.compute op (arguments.map (state.knowledge.idxOf ·)))

/-- The attacker builds a term that it does not know from its parts. -/
def State.learn : Nat → State Term Row Role Event → Term → Option (State Term Row Role Event)
  | 0, state, term => if state.knowledge.contains term then some state else none
  | depth + 1, state, term =>
      if state.knowledge.contains term then
        some state
      else
        match parts term with
        | none => none
        | some (op, arguments) =>
            (arguments.foldlM (State.learn depth) state).bind
              fun learned => learned.apply algebra op arguments

/-- One move, with terms built up to a depth. -/
def State.move (depth : Nat) (state : State Term Row Role Event)
    : Move Term Op → Option (State Term Row Role Event)
  | .proceed thread more => state.advance algebra thread 0 more
  | .deliver thread message more =>
      (State.learn algebra parts depth state message).bind
        fun learned => learned.advance algebra thread (learned.knowledge.idxOf message) more
  | .take op arguments => state.apply algebra op arguments

/-- The state after a script. -/
def play (depth : Nat) (process : Process Term Row Role Event) (script : List (Move Term Op))
    : Option (State Term Row Role Event) :=
  script.foldlM (State.move algebra parts depth) (State.initial process)

end Scripts

-----------------------------------------------------------------------------------------
-- Scripts are runs
-----------------------------------------------------------------------------------------

variable {algebra : Algebra Term Op} {parts : Term → Option (Op × List Term)}
variable {state next : State Term Row Role Event}

/-- Building a term is a run, by induction on the depth. -/
theorem State.learn_continues {depth : Nat} {term : Term}
    (learned : State.learn algebra parts depth state term = some next)
    : Continues algebra state next := by
  induction depth generalizing state term next with
  | zero =>
      unfold State.learn at learned
      split at learned
      · cases learned
        exact .refl state
      · cases learned
  | succ depth ih =>
      unfold State.learn at learned
      split at learned
      · cases learned
        exact .refl state
      · split at learned
        · cases learned
        · obtain ⟨built, folded, applied⟩ := Option.bind_eq_some_iff.mp learned
          exact (Continues.foldlM ih folded).trans (.step applied)

theorem State.move_continues {depth : Nat} {move : Move Term Op}
    (moved : State.move algebra parts depth state move = some next)
    : Continues algebra state next := by
  cases move with
  | proceed thread more => exact ⟨_, moved⟩
  | deliver thread message more =>
      obtain ⟨built, learned, advanced⟩ := Option.bind_eq_some_iff.mp moved
      exact (State.learn_continues learned).trans ⟨_, advanced⟩
  | take op arguments =>
      unfold State.move State.apply at moved
      exact .step moved

/-- What a script reaches, a run reaches. -/
theorem play_reached {depth : Nat} {process : Process Term Row Role Event}
    {script : List (Move Term Op)}
    (played : play algebra parts depth process script = some state)
    : ∃ actions, run algebra process actions = some state :=
  Continues.foldlM State.move_continues played

end AppliedPi
