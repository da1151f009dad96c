import Tarako.Library.Reduction

/-! Lifetimes of allocated objects. An object has parts, some of which may be missing; it is
allocated once, only parts that are present are touched while it lives, and it is freed once.
A program that holds one object at a time has a slot for it, and programs with slots of their own
share a heap without noticing each other.
-/

namespace Lifetimes

open Transitions

variable {Id Part Group : Type*}

/-- What a program does with an object. -/
inductive Access (Id Part : Type*)
  | alloc (id : Id) (present : Part → Bool)
  | touch (id : Id) (part : Part)
  | free (id : Id)

def Access.id : Access Id Part → Id
  | .alloc id _ => id
  | .touch id _ => id
  | .free id => id

/-- The parts of a live object, or none. -/
abbrev Cell (Part : Type*) := Option (Part → Bool)

/-- An access on its own object. Touching a missing part, touching or freeing an object that is not
live, and allocating a live one are not possible.
-/
def Access.apply : Cell Part → Access Id Part → Option (Cell Part)
  | none, .alloc _ present => some (some present)
  | some present, .touch _ part => if present part then some (some present) else none
  | some _, .free _ => some none
  | _, _ => none

/-- The one object that a program holds, with its parts. -/
abbrev Slot (Id Part : Type*) := Option (Id × (Part → Bool))

variable [DecidableEq Id]

/-- An access on a heap. -/
def heapStep (heap : Id → Cell Part) (access : Access Id Part) : Option (Id → Cell Part) :=
  (Access.apply (heap access.id) access).map (Function.update heap access.id)

/-- An access by a program that holds at most one object. -/
def slotStep : Slot Id Part → Access Id Part → Option (Slot Id Part)
  | none, .alloc id present => some (some (id, present))
  | some (held, present), .touch id part =>
      if held = id ∧ present part = true then some (some (held, present)) else none
  | some (held, _), .free id => if held = id then some none else none
  | _, _ => none

/-- A program that begins and ends without an object. -/
def Released (trace : List (Access Id Part)) : Prop :=
  run slotStep none trace = some none

theorem Released.nil : Released ([] : List (Access Id Part)) :=
  rfl

theorem Released.append {first second : List (Access Id Part)} (released : Released first)
    (later : Released second)
    : Released (first ++ second) := by
  rw [Released, run_append, released]
  exact later

/-- The heap of programs with a slot each, for an object of their group. -/
def slotHeap (group : Id → Group) (slots : Group → Slot Id Part) : Id → Cell Part := fun id =>
  match slots (group id) with
  | some (held, present) => if held = id then some present else none
  | none => none

/-- Every slot holds an object of its group. -/
def Fitting (group : Id → Group) (slots : Group → Slot Id Part) : Prop :=
  ∀ each held, slots each = some held → group held.1 = each

theorem slotHeap_unique {group : Id → Group} {slots : Group → Slot Id Part} {id other : Id}
    (live : slotHeap group slots id ≠ none) (liveOther : slotHeap group slots other ≠ none)
    (same : group id = group other)
    : id = other := by
  simp only [slotHeap] at live liveOther
  rw [same] at live
  cases held : slots (group other) with
  | none =>
      rw [held] at live
      exact absurd rfl live
  | some pair =>
      rw [held] at live liveOther
      dsimp only at live liveOther
      split_ifs at live with mine
      · split_ifs at liveOther with theirs
        · exact mine.symm.trans theirs
        · exact absurd rfl liveOther
      · exact absurd rfl live

variable [DecidableEq Group]

/-- An access by one program is one on the heap of all. -/
theorem heapStep_slotHeap {group : Id → Group} {slots : Group → Slot Id Part}
    (fitting : Fitting group slots) {access : Access Id Part} {slot : Slot Id Part}
    (stepped : slotStep (slots (group access.id)) access = some slot)
    : heapStep (slotHeap group slots) access
        = some (slotHeap group (Function.update slots (group access.id) slot))
      ∧ Fitting group (Function.update slots (group access.id) slot) := by
  have elsewhere : ∀ {id : Id}, group id ≠ group access.id
      → slotHeap group (Function.update slots (group access.id) slot) id
        = slotHeap group slots id := by
    intro id different
    simp only [slotHeap, Function.update_of_ne different]
  have fits : (∀ held, slot = some held → group held.1 = group access.id)
      → Fitting group (Function.update slots (group access.id) slot) := by
    intro own each held found
    by_cases same : each = group access.id
    · subst same
      rw [Function.update_self] at found
      exact own held found
    · rw [Function.update_of_ne same] at found
      exact fitting each held found
  -- the heap after the access, compared at each object: the accessed one, others of its group,
  -- and those of other groups
  have agrees : ∀ {cell : Cell Part},
      Access.apply (slotHeap group slots access.id) access = some cell
      → slotHeap group (Function.update slots (group access.id) slot) access.id = cell
      → (∀ id, id ≠ access.id → group id = group access.id →
          slotHeap group (Function.update slots (group access.id) slot) id
          = slotHeap group slots id)
      → heapStep (slotHeap group slots) access
        = some (slotHeap group (Function.update slots (group access.id) slot)) := by
    intro cell applied here others
    rw [heapStep, applied, Option.map_some]
    refine congrArg some (funext fun id => ?_)
    by_cases same : id = access.id
    · subst same
      rw [Function.update_self, here]
    · rw [Function.update_of_ne same]
      by_cases grouped : group id = group access.id
      · exact (others id same grouped).symm
      · exact (elsewhere grouped).symm
  cases access with
  | alloc id present =>
      cases held : slots (group id) with
      | some pair =>
          simp only [Access.id] at stepped
          rw [held] at stepped
          cases stepped
      | none =>
          simp only [Access.id] at stepped agrees fits ⊢
          rw [held] at stepped
          cases stepped
          refine ⟨@agrees (some present) ?_ ?_ ?_, fits fun pair found => ?_⟩
          · simp only [slotHeap, held]
            rfl
          · simp [slotHeap]
          · intro other different same
            simp [slotHeap, same, held, Ne.symm different]
          · cases found
            rfl
  | touch id part =>
      simp only [Access.id] at stepped agrees fits ⊢
      cases held : slots (group id) with
      | none =>
          rw [held] at stepped
          cases stepped
      | some pair =>
          obtain ⟨owned, present⟩ := pair
          rw [held] at stepped
          simp only [slotStep] at stepped
          split_ifs at stepped with allowed
          obtain ⟨rfl, there⟩ := allowed
          cases stepped
          refine ⟨@agrees (some present) ?_ ?_ ?_, fits fun pair found => ?_⟩
          · simp [slotHeap, held, Access.apply, there]
          · simp [slotHeap]
          · intro other _ same
            simp [slotHeap, same, held]
          · cases found
            rfl
  | free id =>
      simp only [Access.id] at stepped agrees fits ⊢
      cases held : slots (group id) with
      | none =>
          rw [held] at stepped
          cases stepped
      | some pair =>
          obtain ⟨owned, present⟩ := pair
          rw [held] at stepped
          simp only [slotStep] at stepped
          split_ifs at stepped with mine
          subst mine
          cases stepped
          refine ⟨@agrees none ?_ ?_ ?_, fits nofun⟩
          · simp [slotHeap, held, Access.apply]
          · simp [slotHeap]
          · intro other different same
            simp [slotHeap, same, held, Ne.symm different]

/-- Programs with slots of their own run on one heap. The induction is on the trace. -/
theorem run_slotHeap {group : Id → Group} {trace : List (Access Id Part)}
    {slots last : Group → Slot Id Part} (fitting : Fitting group slots)
    (each : ∀ one,
      run slotStep (slots one) (ownedBy (fun access => group access.id) one trace)
      = some (last one))
    : run heapStep (slotHeap group slots) trace = some (slotHeap group last) := by
  induction trace generalizing slots with
  | nil =>
      have same : slots = last := funext fun one => Option.some.inj (each one)
      rw [same]
      rfl
  | cons access rest ih =>
      have own : ownedBy (fun other => group other.id) (group access.id) (access :: rest)
          = access :: ownedBy (fun other => group other.id) (group access.id) rest := by
        simp [ownedBy]
      have first := each (group access.id)
      rw [own] at first
      obtain ⟨slot, stepped, remaining⟩ := run_cons first
      obtain ⟨heap, fits⟩ := heapStep_slotHeap fitting stepped
      rw [run, heap]
      refine ih fits fun one => ?_
      by_cases same : one = group access.id
      · subst same
        rw [Function.update_self]
        exact remaining
      · rw [Function.update_of_ne same, ← each one]
        simp [ownedBy, Ne.symm same]

/-- However programs interleave, every object is accessed while it lives, a program has at most one
at any time, and none is left.
-/
theorem run_interleaved {group : Id → Group} {trace : List (Access Id Part)}
    (released : ∀ one, Released (ownedBy (fun access => group access.id) one trace))
    : run heapStep (fun _ => none) trace = some (fun _ => none)
      ∧ ∀ before after,
          trace = before ++ after
          → ∃ heap,
              run heapStep (fun _ => none) before = some heap
              ∧ ∀ id other,
                  heap id ≠ none → heap other ≠ none → group id = group other → id = other := by
  have empty : (fun _ => none : Id → Cell Part) = slotHeap group (fun _ => none) := rfl
  have fitting : Fitting group (fun _ => none : Group → Slot Id Part) := nofun
  refine ⟨?_, fun before after split => ?_⟩
  · rw [empty]
    exact run_slotHeap fitting released
  · have reached : ∀ one, ∃ slot,
        run slotStep none (ownedBy (fun access => group access.id) one before) = some slot := by
      intro one
      have whole := released one
      rw [Released, split, ownedBy, List.filter_append, run_append] at whole
      obtain ⟨slot, found, _⟩ := Option.bind_eq_some_iff.mp whole
      exact ⟨slot, found⟩
    choose last found using reached
    refine ⟨slotHeap group last, ?_, fun id other => slotHeap_unique⟩
    rw [empty]
    exact run_slotHeap fitting found

end Lifetimes
