import Mathlib.Data.List.Basic

/-! Computations that may fail, with a log of the calls they made. The log is kept when a later
step fails.
-/

/-- What a computation called, in order, and how it ended. -/
structure CallLog (Call Error Value : Type) where
  calls : List Call
  result : Except Error Value

namespace CallLog

variable {Call Error Value Result : Type}

/-- A computation without calls. -/
def lift (result : Except Error Value) : CallLog Call Error Value :=
  ⟨[], result⟩

/-- A call, however it ends. -/
def calling (call : Call) (result : Except Error Value) : CallLog Call Error Value :=
  ⟨[call], result⟩

/-- A call that is noted only if it succeeds. -/
def succeeding (call : Call) : Except Error Value → CallLog Call Error Value
  | .error error => ⟨[], .error error⟩
  | .ok value => ⟨[call], .ok value⟩

/-- A computation whose failure is noticed but does not end what follows. -/
def attempt (computation : CallLog Call Error Value) : CallLog Call Error Bool :=
  ⟨computation.calls, .ok computation.result.isOk⟩

instance : Monad (CallLog Call Error) where
  pure value := ⟨[], .ok value⟩
  bind first next :=
    match first.result with
    | .error error => ⟨first.calls, .error error⟩
    | .ok value => ⟨first.calls ++ (next value).calls, (next value).result⟩

@[simp]
theorem lift_calls (result : Except Error Value)
    : (lift result : CallLog Call Error Value).calls = [] :=
  rfl

@[simp]
theorem lift_result (result : Except Error Value)
    : (lift result : CallLog Call Error Value).result = result :=
  rfl

@[simp]
theorem calling_result (call : Call) (result : Except Error Value)
    : (calling call result).result = result :=
  rfl

@[simp]
theorem succeeding_result (call : Call) (result : Except Error Value)
    : (succeeding call result).result = result := by
  cases result <;> rfl

theorem mem_succeeding {call other : Call} {result : Except Error Value}
    : other ∈ (succeeding call result).calls ↔ other = call ∧ ∃ value, result = .ok value := by
  cases result with
  | error error => simp [succeeding]
  | ok value => simp [succeeding]

@[simp]
theorem pure_calls (value : Value) : (pure value : CallLog Call Error Value).calls = [] :=
  rfl

@[simp]
theorem pure_result (value : Value)
    : (pure value : CallLog Call Error Value).result = .ok value :=
  rfl

/-- The results alone are a computation without a log. -/
@[simp]
theorem bind_result (first : CallLog Call Error Value) (next : Value → CallLog Call Error Result)
    : (first >>= next).result = first.result >>= fun value => (next value).result := by
  obtain ⟨calls, result⟩ := first
  cases result <;> rfl

/-- A call was made by the first part, or by the second after the first ended well. -/
theorem mem_bind {first : CallLog Call Error Value} {next : Value → CallLog Call Error Result}
    {call : Call}
    : call ∈ (first >>= next).calls
      ↔ call ∈ first.calls ∨ ∃ value, first.result = .ok value ∧ call ∈ (next value).calls := by
  obtain ⟨calls, result⟩ := first
  cases result with
  | error error => simp [bind]
  | ok value => simp [bind]

/-- The calls of a computation whose first part ended well. -/
theorem bind_calls {first : CallLog Call Error Value} {next : Value → CallLog Call Error Result}
    {value : Value} (ended : first.result = .ok value)
    : (first >>= next).calls = first.calls ++ (next value).calls := by
  obtain ⟨calls, result⟩ := first
  cases ended
  rfl

end CallLog
