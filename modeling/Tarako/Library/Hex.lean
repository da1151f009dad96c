import Mathlib.Data.List.Basic

/-! Lowercase hexadecimal text of byte strings, and the two digits it is read back from. -/

namespace HexText

/-- The ASCII code of a lowercase hexadecimal digit. -/
def digit (value : Nat) : UInt8 :=
  UInt8.ofNat (if value < 10 then 48 + value else 87 + value)

/-- The value of an ASCII hexadecimal digit, in either case. -/
def digitValue? (code : Nat) : Option Nat :=
  if 48 ≤ code ∧ code ≤ 57 then
    some (code - 48)
  else if 97 ≤ code ∧ code ≤ 102 then
    some (code - 87)
  else if 65 ≤ code ∧ code ≤ 70 then
    some (code - 55)
  else
    none

/-- Two lowercase digits for each byte, high half first. -/
def encode (data : List UInt8) : List UInt8 :=
  data.flatMap (fun byte => [digit (byte.toNat / 16), digit (byte.toNat % 16)])

/-- Every digit this module writes reads back as its value, by the sixteen cases. -/
theorem digitValue?_digit {value : Nat} (small : value < 16)
    : digitValue? (digit value).toNat = some value := by
  have all : ∀ n : Fin 16, digitValue? (digit n).toNat = some n.val := by decide
  exact all ⟨value, small⟩

theorem digitValue?_lt {code value : Nat} (read : digitValue? code = some value)
    : value < 16 := by
  unfold digitValue? at read
  split_ifs at read <;> cases read <;> omega

/-- Digits determine their values. -/
theorem digit_inj {first second : Nat} (hf : first < 16) (hs : second < 16)
    (same : digit first = digit second)
    : first = second := by
  have values := digitValue?_digit hf
  rw [same, digitValue?_digit hs] at values
  exact (Option.some.inj values).symm

theorem encode_cons (byte : UInt8) (rest : List UInt8)
    : encode (byte :: rest)
      = digit (byte.toNat / 16) :: digit (byte.toNat % 16) :: encode rest := rfl

/-- The two halves of a byte are digits and give the byte back. -/
theorem halves (byte : UInt8)
    : byte.toNat / 16 < 16
      ∧ byte.toNat % 16 < 16
      ∧ UInt8.ofNat (byte.toNat / 16 * 16 + byte.toNat % 16) = byte := by
  have bound := byte.toNat_lt
  refine ⟨by omega, by omega, ?_⟩
  rw [Nat.div_add_mod']
  exact UInt8.ofNat_toNat

/-- Every code an encoding writes is one of the sixteen digits. -/
theorem encode_digits {data : List UInt8} {code : UInt8} (member : code ∈ encode data)
    : ∃ value < 16, code = digit value := by
  simp only [encode, List.mem_flatMap, List.mem_cons, List.not_mem_nil, or_false] at member
  obtain ⟨byte, _, high | low⟩ := member
  · exact ⟨_, (halves byte).1, high⟩
  · exact ⟨_, (halves byte).2.1, low⟩

end HexText
