import Mathlib.Data.List.Basic
import Mathlib.Tactic.Ring

/-! Byte strings and 64-bit limbs as positional numbers in both byte orders. -/

namespace ByteDigits

/-- The little-endian value of a byte string. -/
def leValue : List UInt8 → Nat
  | [] => 0
  | byte :: rest => byte.toNat + 256 * leValue rest

/-- The big-endian value of a byte string. -/
def beValue (bytes : List UInt8) : Nat :=
  leValue bytes.reverse

/-- The low bytes of a number, lowest first. -/
def toLe : Nat → Nat → List UInt8
  | 0, _ => []
  | count + 1, value => UInt8.ofNat value :: toLe count (value / 256)

/-- The low bytes of a number, highest first. -/
def toBe (count value : Nat) : List UInt8 :=
  (toLe count value).reverse

@[simp]
theorem toLe_length (count value : Nat) : (toLe count value).length = count := by
  induction count generalizing value with
  | zero => rfl
  | succ count ih => simp [toLe, ih]

@[simp]
theorem toBe_length (count value : Nat) : (toBe count value).length = count := by
  simp [toBe]

theorem leValue_lt (bytes : List UInt8) : leValue bytes < 256 ^ bytes.length := by
  induction bytes with
  | nil => simp [leValue]
  | cons byte rest ih =>
      have bound := byte.toNat_lt
      simp only [leValue, List.length_cons, pow_succ]
      omega

theorem beValue_lt (bytes : List UInt8) : beValue bytes < 256 ^ bytes.length := by
  simpa [beValue] using leValue_lt bytes.reverse

theorem leValue_append (low high : List UInt8)
    : leValue (low ++ high) = leValue low + 256 ^ low.length * leValue high := by
  induction low with
  | nil => simp [leValue]
  | cons byte rest ih =>
      simp only [List.cons_append, leValue, ih, List.length_cons, pow_succ]
      ring

/-- Writing keeps the value modulo the width, by induction on the width. -/
theorem leValue_toLe (count value : Nat) : leValue (toLe count value) = value % 256 ^ count := by
  induction count generalizing value with
  | zero => simp [toLe, leValue, Nat.mod_one]
  | succ count ih =>
      have split : value % 256 ^ (count + 1) = value % 256 + 256 * (value / 256 % 256 ^ count) := by
        rw [pow_succ', Nat.mod_mul]
      rw [toLe, leValue, ih, UInt8.toNat_ofNat', split]

/-- Reading and writing back gives the same bytes. -/
theorem toLe_leValue (bytes : List UInt8) : toLe bytes.length (leValue bytes) = bytes := by
  induction bytes with
  | nil => rfl
  | cons byte rest ih =>
      have bound := byte.toNat_lt
      have low : UInt8.ofNat (byte.toNat + 256 * leValue rest) = byte := by
        apply UInt8.toNat_inj.mp
        rw [UInt8.toNat_ofNat']
        omega
      have high : (byte.toNat + 256 * leValue rest) / 256 = leValue rest := by omega
      simp only [List.length_cons, leValue, toLe, low, high, ih]

theorem beValue_toBe (count value : Nat) : beValue (toBe count value) = value % 256 ^ count := by
  simp [beValue, toBe, leValue_toLe]

theorem toBe_beValue (bytes : List UInt8) : toBe bytes.length (beValue bytes) = bytes := by
  have back := toLe_leValue bytes.reverse
  simp only [List.length_reverse] at back
  simp [toBe, beValue, back]

/-- The value of limbs, lowest first. -/
def limbValue : List UInt64 → Nat
  | [] => 0
  | limb :: rest => limb.toNat + 2 ^ 64 * limbValue rest

/-- The low limbs of a number, lowest first. -/
def toLimbs : Nat → Nat → List UInt64
  | 0, _ => []
  | count + 1, value => UInt64.ofNat value :: toLimbs count (value / 2 ^ 64)

@[simp]
theorem toLimbs_length (count value : Nat) : (toLimbs count value).length = count := by
  induction count generalizing value with
  | zero => rfl
  | succ count ih => simp [toLimbs, ih]

/-- Limbs keep the value modulo the width, by induction on the width. -/
theorem limbValue_toLimbs (count value : Nat)
    : limbValue (toLimbs count value) = value % 2 ^ (64 * count) := by
  induction count generalizing value with
  | zero => simp [toLimbs, limbValue, Nat.mod_one]
  | succ count ih =>
      rw [toLimbs, limbValue, ih, UInt64.toNat_ofNat', Nat.mul_succ, Nat.add_comm (64 * count),
        pow_add, Nat.mod_mul]

/-- The bytes of a limb in little-endian memory. -/
def limbBytes (limb : UInt64) : List UInt8 :=
  toLe 8 limb.toNat

/-- Reversal of a limb's bytes: `u64::from_be` and `cpu_to_be64` on a little-endian target. -/
def swapBytes (limb : UInt64) : UInt64 :=
  UInt64.ofNat (leValue (limbBytes limb).reverse)

theorem limbValue_lt (limbs : List UInt64) : limbValue limbs < 2 ^ (64 * limbs.length) := by
  induction limbs with
  | nil => simp [limbValue]
  | cons limb rest ih =>
      have bound := limb.toNat_lt
      have scaled := Nat.mul_le_mul_left (2 ^ 64) (Nat.succ_le_of_lt ih)
      rw [List.length_cons, Nat.mul_succ, Nat.add_comm, pow_add, limbValue]
      omega

theorem limbBytes_value (limb : UInt64) : leValue (limbBytes limb) = limb.toNat := by
  rw [limbBytes, leValue_toLe]
  exact Nat.mod_eq_of_lt limb.toNat_lt

/-- Limbs are their memory bytes read little-endian. -/
theorem leValue_memory (limbs : List UInt64)
    : leValue (limbs.flatMap limbBytes) = limbValue limbs := by
  induction limbs with
  | nil => rfl
  | cons limb rest ih =>
      rw [List.flatMap_cons, leValue_append, ih, limbBytes_value, limbValue]
      simp [limbBytes]

/-- Eight bytes are the memory of the limb that they are read as. -/
theorem limbBytes_leValue {bytes : List UInt8} (length : bytes.length = 8)
    : limbBytes (UInt64.ofNat (leValue bytes)) = bytes := by
  have bound := leValue_lt bytes
  rw [length] at bound
  have value : (UInt64.ofNat (leValue bytes)).toNat = leValue bytes := by
    rw [UInt64.toNat_ofNat']
    exact Nat.mod_eq_of_lt bound
  have back := toLe_leValue bytes
  rw [length] at back
  rw [limbBytes, value, back]

/-- A swapped limb has its bytes reversed in memory. -/
theorem limbBytes_swapBytes (limb : UInt64)
    : limbBytes (swapBytes limb) = (limbBytes limb).reverse := by
  have length : (limbBytes limb).reverse.length = 8 := by simp [limbBytes]
  exact limbBytes_leValue length

/-- Reversing limbs and their bytes reverses the memory. -/
theorem memory_swap (limbs : List UInt64)
    : (limbs.reverse.map swapBytes).flatMap limbBytes = (limbs.flatMap limbBytes).reverse := by
  induction limbs with
  | nil => rfl
  | cons limb rest ih =>
      simp only [List.reverse_cons, List.map_append, List.map_cons, List.map_nil,
        List.flatMap_append, List.flatMap_cons, List.flatMap_nil, List.append_nil, ih,
        limbBytes_swapBytes, List.reverse_append]

/-- Little-endian memory read as limbs. -/
def readLimbs : Nat → List UInt8 → List UInt64
  | 0, _ => []
  | count + 1, bytes => UInt64.ofNat (leValue (bytes.take 8)) :: readLimbs count (bytes.drop 8)

@[simp]
theorem readLimbs_length (count : Nat) (bytes : List UInt8)
    : (readLimbs count bytes).length = count := by
  induction count generalizing bytes with
  | zero => rfl
  | succ count ih => simp [readLimbs, ih]

/-- Limbs read from memory lie there as it was, by induction on their number. -/
theorem memory_readLimbs {count : Nat} {bytes : List UInt8} (length : bytes.length = count * 8)
    : (readLimbs count bytes).flatMap limbBytes = bytes := by
  induction count generalizing bytes with
  | zero =>
      rw [Nat.zero_mul] at length
      rw [List.length_eq_zero_iff.mp length]
      rfl
  | succ count ih =>
      rw [Nat.succ_mul] at length
      have first : (bytes.take 8).length = 8 := List.length_take_of_le (by omega)
      have rest : (bytes.drop 8).length = count * 8 := by
        rw [List.length_drop]
        omega
      rw [readLimbs, List.flatMap_cons, limbBytes_leValue first, ih rest, List.take_append_drop]

/-- Equal values of equally many limbs are equal limbs. -/
theorem limbValue_inj {first second : List UInt64} (length : first.length = second.length)
    (same : limbValue first = limbValue second)
    : first = second := by
  induction first generalizing second with
  | nil => exact (List.length_eq_zero_iff.mp length.symm).symm
  | cons limb rest ih =>
      cases second with
      | nil => cases length
      | cons other more =>
          have limbBound := limb.toNat_lt
          have otherBound := other.toNat_lt
          simp only [limbValue] at same
          have heads : limb.toNat = other.toNat := by omega
          have tails : limbValue rest = limbValue more := by omega
          rw [UInt64.toNat_inj.mp heads, ih (Nat.succ.inj length) tails]

end ByteDigits
