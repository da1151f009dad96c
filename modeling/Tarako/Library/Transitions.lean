import Mathlib.Data.List.Nodup
import Mathlib.Data.Set.Function

/-! Runs of a partial step function, and traces of the events that steps emit.
A trace is newest first, so what came before an event is the tail after it.
-/

namespace Transitions

section Runs

variable {State Action : Type*} (step : State → Action → Option State)

/-- The state after a sequence of actions, if all of them are enabled. -/
def run (state : State) : List Action → Option State
  | [] => some state
  | action :: rest =>
      match step state action with
      | none => none
      | some next => run next rest

variable {step}

theorem run_cons {state last : State} {action : Action} {rest : List Action}
    (reached : run step state (action :: rest) = some last)
    : ∃ next, step state action = some next ∧ run step next rest = some last := by
  unfold run at reached
  split at reached
  · cases reached
  · next next stepped => exact ⟨next, stepped, reached⟩

/-- A run goes on from where its first part ended. -/
theorem run_append (state : State) (actions more : List Action)
    : run step state (actions ++ more)
      = (run step state actions).bind fun middle => run step middle more := by
  induction actions generalizing state with
  | nil => rfl
  | cons action rest ih =>
      rw [List.cons_append, run, run]
      cases step state action with
      | none => rfl
      | some next => exact ih next

/-- What every earlier state inherits from a later one holds at the start of a run. -/
theorem run_inherits (good : State → Prop)
    (inherit : ∀ {state action next}, step state action = some next → good next → good state)
    {state last : State} {actions : List Action}
    (reached : run step state actions = some last) (holds : good last)
    : good state := by
  induction actions generalizing state with
  | nil =>
      cases reached
      exact holds
  | cons action rest ih =>
      obtain ⟨next, stepped, remaining⟩ := run_cons reached
      exact inherit stepped (ih remaining)

/-- An invariant that steps keep, as long as an inherited assumption holds of their result,
holds at the end of every run whose last state meets the assumption.
-/
theorem run_invariant (good invariant : State → Prop)
    (inherit : ∀ {state action next}, step state action = some next → good next → good state)
    (kept : ∀ {state action next},
      step state action = some next → good next → invariant state → invariant next)
    {state last : State} {actions : List Action}
    (reached : run step state actions = some last) (holds : good last)
    (start : invariant state)
    : invariant last := by
  induction actions generalizing state with
  | nil =>
      cases reached
      exact start
  | cons action rest ih =>
      obtain ⟨next, stepped, remaining⟩ := run_cons reached
      exact ih remaining (kept stepped (run_inherits good inherit remaining holds) start)

/-- An invariant that every allowed action keeps holds at the end of a run of such actions. -/
theorem run_invariant_of_allowed (allowed : Action → Prop) (invariant : State → Prop)
    (kept : ∀ {state action next},
      step state action = some next → allowed action → invariant state → invariant next)
    {state last : State} {actions : List Action}
    (reached : run step state actions = some last) (all : ∀ action ∈ actions, allowed action)
    (start : invariant state)
    : invariant last := by
  induction actions generalizing state with
  | nil =>
      cases reached
      exact start
  | cons action rest ih =>
      obtain ⟨next, stepped, remaining⟩ := run_cons reached
      exact ih remaining (fun other member => all other (List.mem_cons_of_mem _ member))
        (kept stepped (all action (List.mem_cons_self ..)) start)

end Runs

section Traces

variable {State Action Event : Type*}

/-- A step that emits events, on states paired with their trace. -/
def traced (step : State → Action → Option (State × List Event))
    (state : State × List Event) (action : Action)
    : Option (State × List Event) :=
  match step state.1 action with
  | none => none
  | some (next, events) => some (next, events ++ state.2)

theorem traced_some {step : State → Action → Option (State × List Event)}
    {state next : State × List Event} {action : Action}
    (stepped : traced step state action = some next)
    : ∃ events, step state.1 action = some (next.1, events) ∧ next.2 = events ++ state.2 := by
  unfold traced at stepped
  split at stepped
  · cases stepped
  · next after events found =>
      cases stepped
      exact ⟨events, found, rfl⟩

/-- Every event of a trace is justified by what came before it. -/
def Each (justified : Event → List Event → Prop) : List Event → Prop
  | [] => True
  | event :: older => justified event older ∧ Each justified older

variable {justified : Event → List Event → Prop}

/-- What came before an event is itself justified. -/
theorem Each.older {newer older : List Event} (each : Each justified (newer ++ older))
    : Each justified older := by
  induction newer with
  | nil => exact each
  | cons event rest ih => exact ih each.2

/-- An event inside a justified trace. -/
theorem Each.justifies {newer older : List Event} {event : Event}
    (each : Each justified (newer ++ event :: older))
    : justified event older :=
  each.older.1

/-- A trace around an event; what came before it is at later positions. -/
theorem split_at {events : List Event} {position : Nat} {event : Event}
    (found : events[position]? = some event)
    : events = events.take position ++ event :: events.drop (position + 1) := by
  obtain ⟨bound, same⟩ := List.getElem?_eq_some_iff.mp found
  rw [← same, ← List.drop_eq_getElem_cons bound, List.take_append_drop]

theorem Each.justifies_at {events : List Event} (each : Each justified events) {position : Nat}
    {event : Event} (found : events[position]? = some event)
    : justified event (events.drop (position + 1)) := by
  rw [split_at found] at each
  exact each.justifies

theorem exists_position_of_mem_drop {events : List Event} {position : Nat} {event : Event}
    (member : event ∈ events.drop (position + 1))
    : ∃ earlier, position < earlier ∧ events[earlier]? = some event := by
  obtain ⟨offset, found⟩ := List.mem_iff_getElem?.mp member
  rw [List.getElem?_drop] at found
  exact ⟨position + 1 + offset, by omega, found⟩

/-- Where events of one kind map one to one to events of another, there are at least as many of
the other.
-/
theorem countP_le_of_injOn {events : List Event} {origin cause : Event → Bool}
    {source : Nat → Nat}
    (injective : Set.InjOn source
      {position | ∃ event, events[position]? = some event ∧ origin event = true})
    (found : ∀ position event, events[position]? = some event → origin event = true →
      ∃ other, events[source position]? = some other ∧ cause other = true)
    : events.countP origin ≤ events.countP cause := by
  have origins (position : Nat) (member : position ∈ events.findIdxs origin)
      : ∃ event, events[position]? = some event ∧ origin event = true := by
    obtain ⟨bound, holds⟩ := List.mem_findIdxs_iff_exists_getElem_pos.mp member
    exact ⟨_, List.getElem?_eq_getElem bound, holds⟩
  have distinct : ((events.findIdxs origin).map source).Nodup := by
    refine List.Nodup.map_on ?_ List.nodup_findIdxs
    intro first firstMember second secondMember same
    exact injective (origins first firstMember) (origins second secondMember) same
  have within : (events.findIdxs origin).map source ⊆ events.findIdxs cause := by
    intro target member
    obtain ⟨position, inside, rfl⟩ := List.mem_map.mp member
    obtain ⟨event, here, holds⟩ := origins position inside
    obtain ⟨other, there, meets⟩ := found position event here holds
    obtain ⟨bound, same⟩ := List.getElem?_eq_some_iff.mp there
    refine List.mem_findIdxs_iff_exists_getElem_pos.mpr ⟨bound, ?_⟩
    rw [same]
    exact meets
  simpa using List.Nodup.length_le_of_subset distinct within

/-- New events that need no justification. -/
theorem Each.extend {events older : List Event} (each : Each justified older)
    (free : ∀ event ∈ events, ∀ before, justified event before)
    : Each justified (events ++ older) := by
  induction events with
  | nil => exact each
  | cons event rest ih =>
      refine ⟨free event (List.mem_cons_self ..) _, ih fun other member => ?_⟩
      exact free other (List.mem_cons_of_mem _ member)

instance Each.decidable [∀ event older, Decidable (justified event older)]
    : ∀ trace, Decidable (Each justified trace)
  | [] => inferInstanceAs (Decidable True)
  | _ :: older =>
      haveI := Each.decidable older
      inferInstanceAs (Decidable (_ ∧ _))

end Traces

end Transitions
