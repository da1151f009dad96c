import Tarako.Driver.SharedBuffer

/-! The byte orders of the driver: limbs read from swapped memory, numbers read by the kernel
from big-endian bytes, and the bytes that the signature loops write. All of them are the same
number.
-/

namespace Tarako.Driver

open Lang ByteDigits

/-- Limbs read from memory as they lie there, as `x_scalar` does. -/
def Vli.ofMemory (N : Nat) (bytes : U8Array (N * 8)) : Vli N :=
  ⟨readLimbs N bytes.1, readLimbs_length N bytes.1⟩

/-- A slice of bytes, as long as Rust allows. -/
abbrev ByteSlice := { bytes : Bytes // bytes.length < 2 ^ 63 }

/-- `usize::checked_mul`. -/
def checkedMulUsize (a b : Nat) : Option Nat :=
  if a * b < 2 ^ 64 then some (a * b) else none

/-- `ecc_digits_from_bytes`: the digits after the call, from the bytes, their number, the digits
before, and the number of digits.
-/
abbrev EccDigitsFromBytes := (N : Nat) → Bytes → UInt32 → Vli N → UInt32 → Vli N

/-- `Vli::from_be_bytes` with the call as it is made. The two numbers are passed as `c_uint`, so
they are exact below `2 ^ 29` limbs.
-/
def Vli.fromBeBytesCalling (eccDigitsFromBytes : EccDigitsFromBytes) (N : Nat) (bytes : Bytes)
    : Except Errno (Vli N) :=
  match checkedMulUsize N 8 with
  | none => .error EINVAL
  | some expectedLen =>
      if bytes.length ≠ expectedLen then
        .error EINVAL
      else
        .ok (eccDigitsFromBytes N bytes (UInt32.ofNat expectedLen) (Vli.zero N) (UInt32.ofNat N))

/-- The call on exactly the bytes of `N` limbs reads a big-endian number. -/
def ReadsBigEndian (eccDigitsFromBytes : EccDigitsFromBytes) (N : Nat) : Prop :=
  ∀ bytes out,
    bytes.length = N * 8
    → (eccDigitsFromBytes N bytes (UInt32.ofNat (N * 8)) out (UInt32.ofNat N)).value
      = beValue bytes

-----------------------------------------------------------------------------------------
-- Memory and limbs
-----------------------------------------------------------------------------------------

theorem Vli.memory_ofMemory {N : Nat} (bytes : U8Array (N * 8))
    : (Vli.ofMemory N bytes).memory = bytes.1 :=
  memory_readLimbs bytes.2

/-- Limbs read from big-endian bytes are put right by `unswap`. -/
theorem Vli.unswap_ofMemory_value {N : Nat} (bytes : U8Array (N * 8))
    : (Vli.ofMemory N bytes).unswap.value = beValue bytes.1 := by
  rw [Vli.unswap_value, Vli.memory_ofMemory]

-----------------------------------------------------------------------------------------
-- The call
-----------------------------------------------------------------------------------------

section Calls

variable {eccDigitsFromBytes : EccDigitsFromBytes} {N : Nat}

/-- A slice of the right length is handed to the kernel: its length fits a `usize`. -/
theorem Vli.fromBeBytesCalling_eq (bytes : ByteSlice) (length : bytes.1.length = N * 8)
    : Vli.fromBeBytesCalling eccDigitsFromBytes N bytes.1
      = .ok (eccDigitsFromBytes N bytes.1 (UInt32.ofNat (N * 8)) (Vli.zero N)
          (UInt32.ofNat N)) := by
  have bound := bytes.2
  have fits : checkedMulUsize N 8 = some (N * 8) := if_pos (by omega)
  rw [Vli.fromBeBytesCalling, fits]
  exact if_neg (not_not_intro length)

/-- A big-endian number is read into the limbs that have its value. -/
theorem ReadsBigEndian.fromBeBytesCalling (reads : ReadsBigEndian eccDigitsFromBytes N)
    (bytes : ByteSlice) (length : bytes.1.length = N * 8) {v : Vli N}
    (value : v.value = beValue bytes.1)
    : Vli.fromBeBytesCalling eccDigitsFromBytes N bytes.1 = .ok v := by
  rw [Vli.fromBeBytesCalling_eq bytes length]
  exact congrArg Except.ok (Vli.ext_value ((reads _ _ length).trans value.symm))

/-- What the kernel documents of the function: the first byte is the most significant one. The
numbers of bytes and digits are those of the arrays.
-/
def EccDigitsDocumented (eccDigitsFromBytes : EccDigitsFromBytes) : Prop :=
  ∀ N bytes nbytes out ndigits,
    ndigits.toNat = N
    → nbytes.toNat = N * 8
    → bytes.length = N * 8
    → (eccDigitsFromBytes N bytes nbytes out ndigits).value = beValue bytes

/-- The documented function is called as documented if the numbers fit a `c_uint`. -/
theorem EccDigitsDocumented.reads (documented : EccDigitsDocumented eccDigitsFromBytes)
    (fits : N * 8 < 2 ^ 32)
    : ReadsBigEndian eccDigitsFromBytes N := by
  intro bytes out length
  refine documented N bytes _ out _ ?_ ?_ length
  · rw [UInt32.toNat_ofNat']
    exact Nat.mod_eq_of_lt (by omega)
  · rw [UInt32.toNat_ofNat']
    exact Nat.mod_eq_of_lt fits

end Calls

/-- The byte-order conversions of the driver agree. For every number of limbs, limbs read from
bytes as they lie in memory and put right by `unswap` are the big-endian number of the bytes,
and where the kernel reads these bytes as such a number, they are what `from_be_bytes` returns;
`unswap` undoes itself; and the bytes that the signature loops write over any others are read
back by `from_be_bytes` as the scalar they were written for.
-/
theorem byte_orders_agree (eccDigitsFromBytes : EccDigitsFromBytes)
    : (∀ N (bytes : ByteSlice) (length : bytes.1.length = N * 8),
        (Vli.ofMemory N ⟨bytes.1, length⟩).unswap.value = beValue bytes.1
        ∧ (ReadsBigEndian eccDigitsFromBytes N
          → Vli.fromBeBytesCalling eccDigitsFromBytes N bytes.1
            = .ok (Vli.ofMemory N ⟨bytes.1, length⟩).unswap))
      ∧ (∀ N (v : Vli N), v.unswap.unswap = v)
      ∧ (ReadsBigEndian eccDigitsFromBytes P256_DIGITS
        → ∀ (v : Scalar) (before : U8Array P256_BYTES),
            ∃ written,
              writeLimbs v.limbs.reverse 0 before.1 = .ok written
              ∧ Vli.fromBeBytesCalling eccDigitsFromBytes P256_DIGITS written = .ok v) := by
  refine ⟨fun N bytes length => ⟨?_, fun reads => ?_⟩, fun N v => v.unswap_unswap, ?_⟩
  · exact Vli.unswap_ofMemory_value ⟨bytes.1, length⟩
  · exact reads.fromBeBytesCalling bytes length (Vli.unswap_ofMemory_value ⟨bytes.1, length⟩)
  · intro reads v before
    have length : (scalarBytes v).1.length = P256_DIGITS * 8 := (scalarBytes v).2
    have short : (scalarBytes v).1.length < 2 ^ 63 := by
      rw [length]
      decide
    refine ⟨_, writeLimbs_scalar v before, ?_⟩
    exact reads.fromBeBytesCalling ⟨_, short⟩ length (scalarBytes_value v).symm

/-- Digits that hold the number of as many bytes as announced. -/
def eccDigitsReference : EccDigitsFromBytes :=
  fun N bytes nbytes _ _ => Vli.ofValue N (beValue (bytes.take nbytes.toNat))

theorem eccDigitsReference_documented : EccDigitsDocumented eccDigitsReference := by
  intro N bytes nbytes out ndigits _ announced length
  have whole : bytes.take nbytes.toNat = bytes :=
    List.take_of_length_le (by rw [length, announced])
  rw [eccDigitsReference, whole]
  exact Vli.ofValue_of_lt (beValue_lt_of_limbs length)

def sampleBytes : ByteSlice :=
  ⟨[1, 2, 3, 4, 5, 6, 7, 8, 9, 10, 11, 12, 13, 14, 15, 16], by decide⟩

/-- Two limbs whose bytes all differ, and a scalar whose limbs do. -/
theorem byte_orders_agree_limbs
    : Vli.fromBeBytesCalling eccDigitsReference 2 sampleBytes.1
        = .ok ⟨[0x090a0b0c0d0e0f10, 0x0102030405060708], rfl⟩
      ∧ ∃ written,
          writeLimbs [4, 3, 2, 1] 0 (List.replicate 32 0xff) = .ok written
          ∧ Vli.fromBeBytesCalling eccDigitsReference P256_DIGITS written
            = .ok ⟨[1, 2, 3, 4], rfl⟩ := by
  obtain ⟨limbs, _, scalars⟩ := byte_orders_agree eccDigitsReference
  have pair := eccDigitsReference_documented.reads (N := 2) (by decide)
  have four := eccDigitsReference_documented.reads (N := P256_DIGITS) (by decide)
  have swapped : (Vli.ofMemory 2 ⟨sampleBytes.1, rfl⟩).unswap
      = ⟨[0x090a0b0c0d0e0f10, 0x0102030405060708], rfl⟩ := by
    decide +kernel
  constructor
  · rw [← swapped]
    exact (limbs 2 sampleBytes rfl).2 pair
  · exact scalars four ⟨[1, 2, 3, 4], rfl⟩ ⟨List.replicate 32 0xff, rfl⟩

end Tarako.Driver
