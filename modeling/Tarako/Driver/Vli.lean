import Mathlib.Data.ZMod.Basic
import Mathlib.Tactic.LinearCombination
import Tarako.Lang.Text
import Tarako.Library.ByteDigits
import Tarako.Library.Sha256

/-! Variable-length integers of the driver and the kernel functions they call.
The kernel's functions are a parameter; `Kernel.Documented` states what their comments
promise.
-/

namespace Tarako.Driver

open Lang ByteDigits

/-- A kernel error, as its negative code. -/
structure Errno where
  code : Int
deriving DecidableEq, Repr

def EPERM : Errno := ⟨-1⟩
def ENOENT : Errno := ⟨-2⟩
def ENXIO : Errno := ⟨-6⟩
def E2BIG : Errno := ⟨-7⟩
def ENOMEM : Errno := ⟨-12⟩
def EFAULT : Errno := ⟨-14⟩
def EINVAL : Errno := ⟨-22⟩
def ENOTTY : Errno := ⟨-25⟩
def EOVERFLOW : Errno := ⟨-75⟩

/-- `Error::from_errno`: codes out of range become `EINVAL`. -/
def Errno.fromErrno (code : Int) : Errno :=
  if code < -4095 ∨ 0 ≤ code then EINVAL else ⟨code⟩

/-- An integer of `N` limbs, lowest first. -/
structure Vli (N : Nat) where
  limbs : List UInt64
  length_eq : limbs.length = N
deriving DecidableEq

/-- `P256_DIGITS`. -/
def P256_DIGITS : Nat := 4

/-- A P-256 scalar or coordinate. -/
abbrev Scalar := Vli P256_DIGITS

def Vli.value {N : Nat} (v : Vli N) : Nat :=
  limbValue v.limbs

/-- The bytes of the limbs as they lie in memory. -/
def Vli.memory {N : Nat} (v : Vli N) : Bytes :=
  v.limbs.flatMap limbBytes

theorem Vli.memory_length {N : Nat} (v : Vli N) : v.memory.length = N * 8 := by
  simp [Vli.memory, limbBytes, List.length_flatMap, v.length_eq]

def Vli.zero (N : Nat) : Vli N :=
  ⟨List.replicate N 0, List.length_replicate⟩

theorem Vli.value_lt {N : Nat} (v : Vli N) : v.value < 2 ^ (64 * N) := by
  simpa [Vli.value, v.length_eq] using limbValue_lt v.limbs

theorem Vli.ext_value {N : Nat} {a b : Vli N} (same : a.value = b.value) : a = b := by
  obtain ⟨limbs, length⟩ := a
  obtain ⟨others, otherLength⟩ := b
  have equal := limbValue_inj (length.trans otherLength.symm) same
  subst equal
  rfl

/-- `u64::overflowing_add`. -/
def overflowingAdd (a b : UInt64) : UInt64 × Bool :=
  (a + b, decide (2 ^ 64 ≤ a.toNat + b.toNat))

/-- `u64::from(bool)`. -/
def ofFlag (flag : Bool) : UInt64 :=
  if flag then 1 else 0

/-- The limb loop of `Vli::carrying_add`. -/
def carryingAddLimbs : List UInt64 → List UInt64 → UInt64 → List UInt64 × UInt64
  | left :: lefts, right :: rights, carry =>
      let (partSum, leftCarry) := overflowingAdd left right
      let (sum, carryCarry) := overflowingAdd partSum carry
      let (sums, last) :=
        carryingAddLimbs lefts rights (ofFlag leftCarry + ofFlag carryCarry)
      (sum :: sums, last)
  | _, _, carry => ([], carry)

theorem carryingAddLimbs_length (lefts rights : List UInt64) (carry : UInt64)
    (length : lefts.length = rights.length)
    : (carryingAddLimbs lefts rights carry).1.length = lefts.length := by
  induction lefts generalizing rights carry with
  | nil => rfl
  | cons left lefts ih =>
      cases rights with
      | nil => cases length
      | cons right rights => simp [carryingAddLimbs, ih rights _ (Nat.succ.inj length)]

/-- `Vli::carrying_add`: the sum and the carry out. -/
def Vli.carryingAdd {N : Nat} (a b : Vli N) (carry : UInt64) : Vli N × UInt64 :=
  (⟨(carryingAddLimbs a.limbs b.limbs carry).1,
      (carryingAddLimbs_length _ _ _ (a.length_eq.trans b.length_eq.symm)).trans a.length_eq⟩,
    (carryingAddLimbs a.limbs b.limbs carry).2)

/-- `Vli::unswap`: limb `i` of the result is limb `N - 1 - i` of the argument, byte-swapped. -/
def Vli.unswap {N : Nat} (v : Vli N) : Vli N :=
  ⟨List.ofFn (fun i : Fin N => swapBytes (v.limbs.getD (N - 1 - i) 0)), List.length_ofFn⟩

/-- The deterministic kernel functions of `ffi.rs`, on operands of `N` limbs. -/
structure Kernel where
  vliIsZero : {N : Nat} → Vli N → Bool
  vliSub : {N : Nat} → Vli N → Vli N → Vli N × UInt64
  vliCmp : {N : Nat} → Vli N → Vli N → Int
  vliModInv : {N : Nat} → Vli N → Vli N → Vli N
  vliModMultSlow : {N : Nat} → Vli N → Vli N → Vli N → Vli N
  eccDigitsFromBytes : (N : Nat) → Bytes → Vli N
  sha256 : Bytes → U8Array 32

def Vli.isZero {N : Nat} (kernel : Kernel) (v : Vli N) : Bool :=
  kernel.vliIsZero v

/-- `Sub`: the borrow is discarded. -/
def Vli.sub {N : Nat} (kernel : Kernel) (a b : Vli N) : Vli N :=
  (kernel.vliSub a b).1

/-- `a >= b` through `PartialOrd` and `vli_cmp_to_ordering`. -/
def Vli.ge {N : Nat} (kernel : Kernel) (a b : Vli N) : Bool :=
  !decide (kernel.vliCmp a b < 0)

/-- `Vli::from_be_bytes`. The limb count never overflows a `usize` multiplication by eight. -/
def Vli.fromBeBytes (kernel : Kernel) (N : Nat) (bytes : Bytes) : Except Errno (Vli N) :=
  if bytes.length ≠ N * 8 then .error EINVAL else .ok (kernel.eccDigitsFromBytes N bytes)

def Vli.modInv {N : Nat} (kernel : Kernel) (v modulus : Vli N) : Vli N :=
  kernel.vliModInv v modulus

def Vli.modMult {N : Nat} (kernel : Kernel) (a b modulus : Vli N) : Vli N :=
  kernel.vliModMultSlow a b modulus

/-- What the kernel documents of its arithmetic. The two modular functions are promised for
moduli as wide as a curve order, that is with the top bit set.
-/
structure Kernel.Documented (kernel : Kernel) : Prop where
  isZero : ∀ {N : Nat} (v : Vli N), kernel.vliIsZero v = true ↔ v.value = 0
  sub
    : ∀ {N : Nat} (a b : Vli N),
        (kernel.vliSub a b).1.value = (a.value + 2 ^ (64 * N) - b.value) % 2 ^ (64 * N)
  cmp : ∀ {N : Nat} (a b : Vli N), kernel.vliCmp a b < 0 ↔ a.value < b.value
  modInv
    : ∀ {N : Nat} (v modulus : Vli N),
        2 ^ (64 * N) ≤ 2 * modulus.value
        → v.value.Coprime modulus.value
        → (kernel.vliModInv v modulus).value < modulus.value
          ∧ (kernel.vliModInv v modulus).value * v.value % modulus.value = 1
  modMult
    : ∀ {N : Nat} (a b modulus : Vli N),
        2 ^ (64 * N) ≤ 2 * modulus.value
        → (kernel.vliModMultSlow a b modulus).value = a.value * b.value % modulus.value
  digits
    : ∀ (N : Nat) (bytes : Bytes),
        bytes.length = N * 8 → (kernel.eccDigitsFromBytes N bytes).value = beValue bytes
  sha256 : ∀ data : Bytes, (kernel.sha256 data).1 = Sha256.digest data

/-- Addition on `u64` as it is written in the loop; `none` is an overflow. -/
def checkedAdd (a b : UInt64) : Option UInt64 :=
  if a.toNat + b.toNat < 2 ^ 64 then some (a + b) else none

/-- The limb loop with its addition of the two flags checked in every pass. -/
def carryingAddChecked : List UInt64 → List UInt64 → UInt64 → Option (List UInt64 × UInt64)
  | left :: lefts, right :: rights, carry =>
      let (partSum, leftCarry) := overflowingAdd left right
      let (sum, carryCarry) := overflowingAdd partSum carry
      match checkedAdd (ofFlag leftCarry) (ofFlag carryCarry) with
      | none => none
      | some flags =>
          match carryingAddChecked lefts rights flags with
          | none => none
          | some (sums, last) => some (sum :: sums, last)
  | _, _, carry => some ([], carry)

theorem overflowingAdd_value (a b : UInt64)
    : (overflowingAdd a b).1.toNat + 2 ^ 64 * (ofFlag (overflowingAdd a b).2).toNat
      = a.toNat + b.toNat := by
  have aBound := a.toNat_lt
  have bBound := b.toNat_lt
  simp only [overflowingAdd, ofFlag, UInt64.toNat_add, decide_eq_true_eq]
  split <;> simp <;> omega

/-- The two flags of one limb never overflow their sum. -/
theorem ofFlag_add_toNat (first second : Bool)
    : (ofFlag first + ofFlag second).toNat = (ofFlag first).toNat + (ofFlag second).toNat := by
  cases first <;> cases second <;> decide

/-- The limb loop adds exactly, with the final carry as the highest digit, by induction on
the limbs.
-/
theorem carryingAddLimbs_value (lefts rights : List UInt64) (carry : UInt64)
    (length : lefts.length = rights.length)
    : limbValue (carryingAddLimbs lefts rights carry).1
        + 2 ^ (64 * lefts.length) * (carryingAddLimbs lefts rights carry).2.toNat
      = limbValue lefts + limbValue rights + carry.toNat := by
  induction lefts generalizing rights carry with
  | nil =>
      have empty := List.length_eq_zero_iff.mp length.symm
      simp [carryingAddLimbs, empty, limbValue]
  | cons left lefts ih =>
      cases rights with
      | nil => cases length
      | cons right rights =>
          have first := overflowingAdd_value left right
          have second := overflowingAdd_value (overflowingAdd left right).1 carry
          have tail := ih rights
            (ofFlag (overflowingAdd left right).2
              + ofFlag (overflowingAdd (overflowingAdd left right).1 carry).2)
            (Nat.succ.inj length)
          rw [ofFlag_add_toNat] at tail
          simp only [carryingAddLimbs, limbValue, List.length_cons]
          rw [Nat.mul_succ, Nat.add_comm (64 * lefts.length) 64, pow_add]
          linear_combination first + second + 2 ^ 64 * tail

theorem Vli.carryingAdd_value {N : Nat} (a b : Vli N) (carry : UInt64)
    : (a.carryingAdd b carry).1.value + 2 ^ (64 * N) * (a.carryingAdd b carry).2.toNat
      = a.value + b.value + carry.toNat := by
  have whole := carryingAddLimbs_value a.limbs b.limbs carry
    (a.length_eq.trans b.length_eq.symm)
  rwa [a.length_eq] at whole

theorem checkedAdd_flags (first second : Bool)
    : checkedAdd (ofFlag first) (ofFlag second) = some (ofFlag first + ofFlag second) := by
  cases first <;> cases second <;> decide

/-- No pass of the loop overflows, by induction on the limbs. -/
theorem carryingAddChecked_eq (lefts rights : List UInt64) (carry : UInt64)
    : carryingAddChecked lefts rights carry = some (carryingAddLimbs lefts rights carry) := by
  induction lefts generalizing rights carry with
  | nil => rfl
  | cons left lefts ih =>
      cases rights with
      | nil => rfl
      | cons right rights =>
          simp only [carryingAddChecked, checkedAdd_flags, ih]
          rfl

/-- A carry in of at most one gives a carry out of at most one: two values below the width and
one more are below twice the width.
-/
theorem Vli.carryingAdd_carry_le {N : Nat} (a b : Vli N) {carry : UInt64} (small : carry ≤ 1)
    : (a.carryingAdd b carry).2 ≤ 1 := by
  have total := a.carryingAdd_value b carry
  have aBound := a.value_lt
  have bBound := b.value_lt
  have carryBound : carry.toNat ≤ 1 := UInt64.le_iff_toNat_le.mp small
  have out : 2 ^ (64 * N) * (a.carryingAdd b carry).2.toNat < 2 ^ (64 * N) * 2 := by omega
  have last := Nat.lt_of_mul_lt_mul_left out
  refine UInt64.le_iff_toNat_le.mpr ?_
  change _ ≤ 1
  omega

/-- For every number of limbs and every carry in, the sum and the carry out are exact, no pass
of the loop overflows the sum of its flags, and a carry in of at most one gives such a carry
out.
-/
theorem Vli.carryingAdd_exact {N : Nat} (a b : Vli N) (carry : UInt64)
    : (a.carryingAdd b carry).1.value + (a.carryingAdd b carry).2.toNat * 2 ^ (64 * N)
        = a.value + b.value + carry.toNat
      ∧ carryingAddChecked a.limbs b.limbs carry
        = some ((a.carryingAdd b carry).1.limbs, (a.carryingAdd b carry).2)
      ∧ (carry ≤ 1 → (a.carryingAdd b carry).2 ≤ 1) := by
  refine ⟨?_, carryingAddChecked_eq _ _ _, a.carryingAdd_carry_le b⟩
  rw [Nat.mul_comm]
  exact a.carryingAdd_value b carry

/-- A carry of two between limbs: all bits set in both operands and in the carry in. -/
theorem Vli.carryingAdd_exact_two_limbs
    : let ones : Vli 2 := ⟨[0xffffffffffffffff, 0xffffffffffffffff], rfl⟩
      (ones.carryingAdd ones 0xffffffffffffffff).1.value
          + (ones.carryingAdd ones 0xffffffffffffffff).2.toNat * 2 ^ (64 * 2)
        = ones.value + ones.value + (0xffffffffffffffff : UInt64).toNat
      ∧ (ones.carryingAdd ones 1).2 ≤ 1 := by
  intro ones
  have wide := ones.carryingAdd_exact ones 0xffffffffffffffff
  have narrow := ones.carryingAdd_exact ones 1
  exact ⟨wide.1, narrow.2.2 (by decide)⟩

/-- The index loop of `unswap` reverses the limbs and swaps each. -/
theorem Vli.unswap_limbs {N : Nat} (v : Vli N) : v.unswap.limbs = v.limbs.reverse.map swapBytes := by
  apply List.ext_getElem
  · simp [Vli.unswap, v.length_eq]
  · intro i left right
    have inside : i < N := by simpa [Vli.unswap] using left
    have source : N - 1 - i < v.limbs.length := by
      rw [v.length_eq]
      omega
    simp [Vli.unswap, List.getElem_reverse, v.length_eq, List.getD_eq_getElem?_getD,
      List.getElem?_eq_getElem source]

/-- `unswap` reads the memory of its argument as a big-endian number. -/
theorem Vli.unswap_value {N : Nat} (v : Vli N) : v.unswap.value = beValue v.memory := by
  rw [Vli.value, Vli.unswap_limbs, ← leValue_memory, memory_swap]
  rfl

/-- `unswap` reverses the memory. -/
theorem Vli.unswap_memory {N : Nat} (v : Vli N) : v.unswap.memory = v.memory.reverse := by
  rw [Vli.memory, Vli.unswap_limbs, memory_swap]
  rfl

/-- A second `unswap` undoes the first. -/
theorem Vli.unswap_unswap {N : Nat} (v : Vli N) : v.unswap.unswap = v := by
  apply Vli.ext_value
  rw [Vli.unswap_value, Vli.unswap_memory, beValue, List.reverse_reverse]
  exact leValue_memory v.limbs

-----------------------------------------------------------------------------------------
-- A kernel that computes the documented functions
-----------------------------------------------------------------------------------------

def Vli.ofValue (N value : Nat) : Vli N :=
  ⟨toLimbs N value, toLimbs_length N value⟩

theorem Vli.ofValue_value (N value : Nat) : (Vli.ofValue N value).value = value % 2 ^ (64 * N) :=
  limbValue_toLimbs N value

theorem Vli.ofValue_of_lt {N value : Nat} (fits : value < 2 ^ (64 * N))
    : (Vli.ofValue N value).value = value := by
  rw [Vli.ofValue_value, Nat.mod_eq_of_lt fits]

/-- The bytes of limbs hold a number of their width. -/
theorem beValue_lt_of_limbs {N : Nat} {bytes : Bytes} (length : bytes.length = N * 8)
    : beValue bytes < 2 ^ (64 * N) := by
  have bound := beValue_lt bytes
  rw [length] at bound
  calc
    beValue bytes < 256 ^ (N * 8) := bound
    _ = 2 ^ (64 * N) := by
      rw [show (256 : Nat) = 2 ^ 8 by norm_num, ← pow_mul]
      congr 1
      omega

theorem modulus_large {N : Nat} {modulus : Vli N} (wide : 2 ^ (64 * N) ≤ 2 * modulus.value)
    : 1 < modulus.value := by
  have fits := modulus.value_lt
  cases N with
  | zero =>
      simp only [Nat.mul_zero, pow_zero] at fits wide
      omega
  | succ N =>
      have power : 2 ^ 64 ≤ 2 ^ (64 * (N + 1)) := Nat.pow_le_pow_right (by omega) (by omega)
      omega

/-- Arithmetic on values, written back as limbs. -/
def Kernel.reference : Kernel where
  vliIsZero v := decide (v.value = 0)
  vliSub {N} a b :=
    (Vli.ofValue N (a.value + 2 ^ (64 * N) - b.value), if a.value < b.value then 1 else 0)
  vliCmp a b := if a.value < b.value then -1 else if a.value = b.value then 0 else 1
  vliModInv {N} v modulus := Vli.ofValue N ((v.value : ZMod modulus.value)⁻¹.val)
  vliModMultSlow {N} a b modulus := Vli.ofValue N (a.value * b.value % modulus.value)
  eccDigitsFromBytes N bytes := Vli.ofValue N (beValue bytes)
  sha256 data := ⟨Sha256.digest data, Sha256.digest_length data⟩

theorem Kernel.reference_documented : Kernel.reference.Documented where
  isZero v := by simp [Kernel.reference]
  sub a b := by simp [Kernel.reference, Vli.ofValue_value]
  cmp a b := by
    simp only [Kernel.reference]
    split
    · simpa
    · split <;> simp <;> omega
  modInv {N} v modulus wide coprime := by
    have fits := modulus.value_lt
    have large : 1 < modulus.value := modulus_large wide
    have nonzero : NeZero modulus.value := ⟨by omega⟩
    have bound : ((v.value : ZMod modulus.value)⁻¹).val < modulus.value := ZMod.val_lt _
    have value : (Kernel.reference.vliModInv v modulus).value
        = ((v.value : ZMod modulus.value)⁻¹).val := Vli.ofValue_of_lt (by omega)
    rw [value]
    refine ⟨bound, ?_⟩
    rw [← Nat.mod_eq_of_lt large, ← ZMod.natCast_eq_natCast_iff']
    push_cast
    rw [ZMod.natCast_zmod_val, mul_comm, ZMod.coe_mul_inv_eq_one _ coprime]
  modMult {N} a b modulus wide := by
    have large : 1 < modulus.value := modulus_large wide
    have bound : a.value * b.value % modulus.value < modulus.value := Nat.mod_lt _ (by omega)
    have fits := modulus.value_lt
    exact Vli.ofValue_of_lt (by omega)
  digits N bytes length := by
    exact Vli.ofValue_of_lt (beValue_lt_of_limbs length)
  sha256 _ := rfl

end Tarako.Driver
