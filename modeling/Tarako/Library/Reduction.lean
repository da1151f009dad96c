import Tarako.Library.Transitions

/-! Reduction of interleavings. Actions have an owner, and some of them touch what the owners
share. Where actions of different owners commute unless both touch it, and every owner touches it
at most once, a run can be reordered so that each owner acts without interruption, in the order in
which they touched what they share.
-/

namespace Transitions

section Reduction

variable {State Action Owner : Type*} {step : State → Action → Option State}

/-- Two actions have the same effect in either order. -/
def Commutes (step : State → Action → Option State) (first second : Action) : Prop :=
  ∀ state,
    (step state first).bind (fun middle => step middle second)
    = (step state second).bind fun middle => step middle first

theorem Commutes.symm {first second : Action} (commutes : Commutes step first second)
    : Commutes step second first :=
  fun state => (commutes state).symm

theorem run_two (state : State) (first second : Action) (rest : List Action)
    : run step state (first :: second :: rest)
      = ((step state first).bind fun middle => step middle second).bind
          fun next => run step next rest := by
  rw [run]
  cases step state first with
  | none => rfl
  | some middle =>
      change run step middle (second :: rest)
        = (step middle second).bind fun next => run step next rest
      rw [run]
      cases step middle second <;> rfl

theorem run_congr_tail {actions others : List Action}
    (same : ∀ state, run step state actions = run step state others) (state : State)
    (first : Action)
    : run step state (first :: actions) = run step state (first :: others) := by
  rw [run, run]
  cases step state first with
  | none => rfl
  | some next => exact same next

/-- An action moves to the right over actions that it commutes with. -/
theorem run_move_right {moved : Action} {passed : List Action}
    (commutes : ∀ action ∈ passed, Commutes step moved action) (rest : List Action) (state : State)
    : run step state (moved :: (passed ++ rest)) = run step state (passed ++ moved :: rest) := by
  induction passed generalizing state with
  | nil => rfl
  | cons action passed ih =>
      obtain ⟨first, others⟩ := List.forall_mem_cons.mp commutes
      calc run step state (moved :: action :: (passed ++ rest))
          = run step state (action :: moved :: (passed ++ rest)) := by
            rw [run_two, run_two, first state]
        _ = run step state (action :: (passed ++ moved :: rest)) :=
            run_congr_tail (ih others) state action

variable [DecidableEq Owner] (owner : Action → Owner) (shared : Action → Bool)

/-- Actions of different owners commute unless both are shared. -/
def Independent (step : State → Action → Option State) : Prop :=
  ∀ first second,
    owner first ≠ owner second
    → ¬ (shared first = true ∧ shared second = true)
    → Commutes step first second

def ownedBy (who : Owner) (actions : List Action) : List Action :=
  actions.filter fun action => owner action = who

def ownedByOthers (who : Owner) (actions : List Action) : List Action :=
  actions.filter fun action => owner action ≠ who

/-- Before a shared action of this owner nobody else has done one. -/
def First (who : Owner) : List Action → Prop
  | [] => True
  | action :: rest =>
      (owner action ≠ who → shared action = true → ∀ later ∈ ownedBy owner who rest,
        shared later = false)
      ∧ First who rest

variable {owner shared}

/-- The actions of an owner who is first move to the front. -/
theorem run_front (independent : Independent owner shared step) {who : Owner}
    {actions : List Action} (first : First owner shared who actions) (state : State)
    : run step state actions
      = run step state (ownedBy owner who actions ++ ownedByOthers owner who actions) := by
  induction actions generalizing state with
  | nil => rfl
  | cons action rest ih =>
      obtain ⟨early, later⟩ := first
      rw [run_congr_tail (ih later) state action]
      by_cases mine : owner action = who
      · simp [ownedBy, ownedByOthers, mine]
      · have kept : ownedBy owner who (action :: rest) = ownedBy owner who rest := by
          simp [ownedBy, mine]
        have left : ownedByOthers owner who (action :: rest)
            = action :: ownedByOthers owner who rest := by
          simp [ownedByOthers, mine]
        rw [kept, left]
        refine run_move_right (fun other member => ?_) _ state
        have theirs : owner other = who := by
          simpa [ownedBy] using (List.mem_filter.mp member).2
        refine independent action other (by rw [theirs]; exact mine) ?_
        rintro ⟨sharedOne, sharedOther⟩
        rw [early mine sharedOne other member] at sharedOther
        cases sharedOther

/-- The order of shared actions survives the move. -/
theorem shared_front {who : Owner} {actions : List Action} (first : First owner shared who actions)
    : (ownedBy owner who actions ++ ownedByOthers owner who actions).filter shared
      = actions.filter shared := by
  induction actions with
  | nil => rfl
  | cons action rest ih =>
      obtain ⟨early, later⟩ := first
      have tail := ih later
      rw [List.filter_append] at tail ⊢
      by_cases mine : owner action = who
      · have kept : ownedBy owner who (action :: rest) = action :: ownedBy owner who rest := by
          simp [ownedBy, mine]
        have left : ownedByOthers owner who (action :: rest) = ownedByOthers owner who rest := by
          simp [ownedByOthers, mine]
        rw [kept, left, List.filter_cons, List.filter_cons, ← tail]
        split_ifs <;> rfl
      · have kept : ownedBy owner who (action :: rest) = ownedBy owner who rest := by
          simp [ownedBy, mine]
        have left : ownedByOthers owner who (action :: rest)
            = action :: ownedByOthers owner who rest := by
          simp [ownedByOthers, mine]
        rw [kept, left, List.filter_cons, List.filter_cons, ← tail]
        by_cases sharedOne : shared action = true
        · have none : (ownedBy owner who rest).filter shared = [] := by
            rw [List.filter_eq_nil_iff]
            intro other member
            rw [early mine sharedOne other member]
            exact Bool.false_ne_true
          rw [if_pos sharedOne, if_pos sharedOne, none, List.nil_append, List.nil_append]
        · rw [if_neg sharedOne, if_neg sharedOne]

/-- Every owner does at most one shared action. -/
def SharesOnce (owner : Action → Owner) (shared : Action → Bool) (actions : List Action) : Prop :=
  ∀ who, ((ownedBy owner who actions).filter shared).length ≤ 1

theorem first_of_none {who : Owner} {actions : List Action}
    (none : ∀ action ∈ ownedBy owner who actions, shared action = false)
    : First owner shared who actions := by
  induction actions with
  | nil => trivial
  | cons action rest ih =>
      have tail : ∀ other ∈ ownedBy owner who rest, shared other = false := fun other member =>
        none other (by
          rw [ownedBy, List.mem_filter] at member ⊢
          exact ⟨.tail _ member.1, member.2⟩)
      exact ⟨fun _ _ => tail, ih tail⟩

/-- Whoever does the first shared action is first. -/
theorem exists_first {actions : List Action} (once : SharesOnce owner shared actions)
    (present : actions ≠ [])
    : ∃ who, (∃ action ∈ actions, owner action = who) ∧ First owner shared who actions := by
  have found : (∃ action ∈ actions, shared action = true)
      → ∃ who, (∃ action ∈ actions, owner action = who) ∧ First owner shared who actions := by
    clear present
    induction actions with
    | nil =>
        rintro ⟨action, member, _⟩
        cases member
    | cons action rest ih =>
        intro some
        by_cases sharedOne : shared action = true
        · refine ⟨owner action, ⟨action, .head _, rfl⟩, fun other => absurd rfl other, ?_⟩
          refine first_of_none fun later member => ?_
          by_contra sharedLater
          rw [Bool.not_eq_false] at sharedLater
          have twice := once (owner action)
          have shape : ownedBy owner (owner action) (action :: rest)
              = action :: ownedBy owner (owner action) rest := by
            simp [ownedBy]
          rw [shape, List.filter_cons, if_pos sharedOne, List.length_cons] at twice
          have none := List.length_eq_zero_iff.mp (Nat.le_zero.mp (Nat.le_of_succ_le_succ twice))
          rw [List.filter_eq_nil_iff] at none
          exact none later member sharedLater
        · have fewer : SharesOnce owner shared rest := by
            intro who
            refine le_trans ?_ (once who)
            exact ((List.sublist_cons_self action rest).filter _ |>.filter _).length_le
          obtain ⟨who, ⟨other, member, theirs⟩, first⟩ := ih fewer (by
            obtain ⟨later, member, sharedLater⟩ := some
            rcases List.mem_cons.mp member with rfl | inside
            · exact absurd sharedLater sharedOne
            · exact ⟨later, inside, sharedLater⟩)
          exact ⟨who, ⟨other, .tail _ member, theirs⟩, fun _ sharedNow => absurd sharedNow sharedOne,
            first⟩
  by_cases some : ∃ action ∈ actions, shared action = true
  · exact found some
  · obtain ⟨action, rest, rfl⟩ := List.exists_cons_of_ne_nil present
    refine ⟨owner action, ⟨action, .head _, rfl⟩, first_of_none fun other member => ?_⟩
    by_contra sharedOther
    rw [Bool.not_eq_false] at sharedOther
    exact some ⟨other, (List.mem_filter.mp member).1, sharedOther⟩

/-- The actions of a run, owner by owner. -/
def grouped (owner : Action → Owner) (order : List Owner) (actions : List Action) : List Action :=
  order.flatMap fun who => ownedBy owner who actions

theorem ownedBy_others {who other : Owner} (different : other ≠ who) (actions : List Action)
    : ownedBy owner other (ownedByOthers owner who actions) = ownedBy owner other actions := by
  rw [ownedBy, ownedByOthers, List.filter_filter, ownedBy]
  refine List.filter_congr fun action _ => ?_
  by_cases same : owner action = other
  · simp [same, different]
  · simp [same]

/-- A run in which every owner shares once is a run of the owners one after the other, with the
shared actions in the same order. The induction is on the number of actions: those of the first
owner come to the front.
-/
theorem run_grouped (independent : Independent owner shared step) {actions : List Action}
    (once : SharesOnce owner shared actions)
    : ∃ order : List Owner,
        order.Nodup
        ∧ (∀ who, who ∈ order ↔ ∃ action ∈ actions, owner action = who)
        ∧ (grouped owner order actions).filter shared = actions.filter shared
        ∧ ∀ state, run step state (grouped owner order actions) = run step state actions := by
  induction length : actions.length using Nat.strong_induction_on generalizing actions with
  | _ size ih =>
      by_cases present : actions = []
      · subst present
        exact ⟨[], List.nodup_nil, by simp, rfl, fun _ => rfl⟩
      · obtain ⟨who, ⟨action, member, theirs⟩, first⟩ := exists_first once present
        let rest := ownedByOthers owner who actions
        have shorter : rest.length < size := by
          rw [← length]
          refine List.length_filter_lt_length_iff_exists.mpr ⟨action, member, ?_⟩
          simp [theirs]
        have onceRest : SharesOnce owner shared rest := by
          intro other
          exact le_trans ((List.filter_sublist.filter _).filter _).length_le (once other)
        obtain ⟨order, distinct, covers, kept, equal⟩ := ih rest.length shorter onceRest rfl
        have absent : who ∉ order := by
          rw [covers]
          rintro ⟨other, inside, mine⟩
          have notMine := (List.mem_filter.mp inside).2
          simp [mine] at notMine
        have tail : grouped owner order rest = grouped owner order actions := by
          refine List.flatMap_congr fun other inside => ownedBy_others ?_ actions
          rintro rfl
          exact absent inside
        have shape : grouped owner (who :: order) actions
            = ownedBy owner who actions ++ grouped owner order rest := by
          rw [tail]
          rfl
        refine ⟨who :: order, List.nodup_cons.mpr ⟨absent, distinct⟩, ?_, ?_, ?_⟩
        · intro other
          rw [List.mem_cons, covers]
          constructor
          · rintro (rfl | ⟨found, inside, mine⟩)
            · exact ⟨action, member, theirs⟩
            · exact ⟨found, (List.mem_filter.mp inside).1, mine⟩
          · rintro ⟨found, inside, mine⟩
            by_cases same : other = who
            · exact .inl same
            · refine .inr ⟨found, List.mem_filter.mpr ⟨inside, ?_⟩, mine⟩
              simpa [mine] using same
        · rw [shape, List.filter_append, kept, ← List.filter_append]
          exact shared_front first
        · intro state
          rw [shape, run_append, run_front independent first state, run_append]
          exact congrArg _ (funext fun middle => equal middle)

/-- The shared actions name owners in the order of their turns. -/
theorem grouped_shared_sublist {actions : List Action} (once : SharesOnce owner shared actions)
    (order : List Owner)
    : (((grouped owner order actions).filter shared).map owner).Sublist order := by
  induction order with
  | nil => exact List.Sublist.slnil
  | cons who order ih =>
      have shape : grouped owner (who :: order) actions
          = ownedBy owner who actions ++ grouped owner order actions := rfl
      rw [shape, List.filter_append, List.map_append]
      have single : (((ownedBy owner who actions).filter shared).map owner).Sublist [who] := by
        have one := once who
        match turn : (ownedBy owner who actions).filter shared with
        | [] => exact List.nil_sublist _
        | [action] =>
            have member : action ∈ (ownedBy owner who actions).filter shared := by simp [turn]
            have mine : owner action = who := by
              simpa [ownedBy] using (List.mem_filter.mp (List.mem_filter.mp member).1).2
            rw [List.map_singleton, mine]
        | first :: second :: rest =>
            rw [turn] at one
            simp at one
      exact single.append ih

end Reduction

end Transitions
