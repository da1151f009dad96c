import Mathlib.Data.UInt

/-! `SetOnce`: a cell that is filled at most once between two clears. The operations are given
by their atomic accesses, so that other threads can be interleaved with them.
-/

namespace Tarako.Driver

/-- The cell: its atomic word, and its storage where that is initialized. -/
structure SetOnce (T : Type) where
  init : UInt32
  value : Option T
deriving DecidableEq

namespace SetOnce

variable {T : Type}

/-- `SetOnce::new`. -/
def new : SetOnce T :=
  ⟨0, none⟩

/-- `cmpxchg` on the word: the previous word if it was the old one, the found word otherwise. -/
def cmpxchg (cell : SetOnce T) (old new : UInt32) : SetOnce T × Except UInt32 UInt32 :=
  if cell.init = old then
    ({ cell with init := new }, .ok old)
  else
    (cell, .error cell.init)

/-- A store to the word. -/
def store (cell : SetOnce T) (word : UInt32) : SetOnce T :=
  { cell with init := word }

/-- `ptr::write` to the storage. -/
def write (cell : SetOnce T) (value : T) : SetOnce T :=
  { cell with value := some value }

/-- `ptr::drop_in_place` of the storage. -/
def dropInPlace (cell : SetOnce T) : SetOnce T :=
  { cell with value := none }

/-- `as_ref`: whether the load hands out a reference to the storage. -/
def asRef (cell : SetOnce T) : Bool :=
  cell.init == 2

/-- The first access of `populate`: whether the cell is claimed. -/
def claim (cell : SetOnce T) : SetOnce T × Bool :=
  match cell.cmpxchg 0 1 with
  | (claimed, .ok 0) => (claimed, true)
  | (found, _) => (found, false)

/-- `populate`, without interleaving. -/
def populate (cell : SetOnce T) (value : T) : SetOnce T × Bool :=
  match cell.claim with
  | (claimed, true) => ((claimed.write value).store 2, true)
  | (found, false) => (found, false)

/-- `clear`, whose contract excludes interleaving. -/
def clear (cell : SetOnce T) : SetOnce T :=
  match cell.cmpxchg 2 1 with
  | (claimed, .ok 2) => claimed.dropInPlace.store 0
  | (found, _) => found

/-- A claim takes an empty cell and leaves any other as it is. -/
theorem claim_eq (cell : SetOnce T)
    : cell.claim = if cell.init = 0 then (cell.store 1, true) else (cell, false) := by
  unfold claim cmpxchg
  split_ifs <;> rfl

/-- A populated cell holds the value, and only an empty one is populated. -/
theorem populate_eq (cell : SetOnce T) (value : T)
    : cell.populate value = if cell.init = 0 then (⟨2, some value⟩, true) else (cell, false) := by
  unfold populate
  rw [claim_eq]
  split_ifs <;> rfl

/-- A clear empties a filled cell and leaves any other as it is. -/
theorem clear_eq (cell : SetOnce T)
    : cell.clear = if cell.init = 2 then new else cell := by
  unfold clear cmpxchg
  split_ifs <;> rfl

end SetOnce

end Tarako.Driver
