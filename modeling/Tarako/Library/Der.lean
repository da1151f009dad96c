import Mathlib.Data.Nat.Digits.Lemmas
import Tarako.Library.ByteDigits

/-! DER encoding of a sequence of two natural numbers, and a reader for it. -/

namespace Der

open ByteDigits

/-- Big-endian digits without leading zeros. -/
def minimal (value : Nat) : List UInt8 :=
  (Nat.digits 256 value).reverse.map UInt8.ofNat

/-- Length octets: one up to 127, otherwise their count and the digits. -/
def lengthOctets (length : Nat) : List UInt8 :=
  if length < 128 then
    [UInt8.ofNat length]
  else
    UInt8.ofNat (128 + (minimal length).length) :: minimal length

def element (tag : UInt8) (content : List UInt8) : List UInt8 :=
  tag :: (lengthOctets content.length ++ content)

/-- Two's complement content of a natural number. -/
def integerContent (value : Nat) : List UInt8 :=
  match minimal value with
  | [] => [0]
  | high :: rest => if 128 ≤ high.toNat then 0 :: high :: rest else high :: rest

def integer (value : Nat) : List UInt8 :=
  element 0x02 (integerContent value)

/-- The sequence of two integers. -/
def pair (first second : Nat) : List UInt8 :=
  element 0x30 (integer first ++ integer second)

/-- A length and what follows it. -/
def readLength : List UInt8 → Option (Nat × List UInt8)
  | [] => none
  | first :: rest =>
      if first.toNat < 128 then
        some (first.toNat, rest)
      else
        let count := first.toNat - 128
        if rest.length < count then none else some (beValue (rest.take count), rest.drop count)

/-- The content of an element with the given tag, and what follows it. -/
def readElement (tag : UInt8) : List UInt8 → Option (List UInt8 × List UInt8)
  | [] => none
  | first :: rest =>
      if first ≠ tag then
        none
      else
        match readLength rest with
        | none => none
        | some (length, body) =>
            if body.length < length then none else some (body.take length, body.drop length)

/-- A natural number and what follows it. -/
def readInteger (bytes : List UInt8) : Option (Nat × List UInt8) :=
  match readElement 0x02 bytes with
  | none => none
  | some (content, rest) => some (beValue content, rest)

/-- Two numbers in a sequence and nothing else, in the encoding of `pair`. -/
def readPair (bytes : List UInt8) : Option (Nat × Nat) :=
  match readElement 0x30 bytes with
  | some (content, []) =>
      match readInteger content with
      | some (first, rest) =>
          match readInteger rest with
          | some (second, []) =>
              if pair first second = bytes then some (first, second) else none
          | _ => none
      | none => none
  | _ => none

theorem leValue_map_digits (digits : List Nat) (small : ∀ digit ∈ digits, digit < 256)
    : leValue (digits.map UInt8.ofNat) = Nat.ofDigits 256 digits := by
  induction digits with
  | nil => rfl
  | cons digit rest ih =>
      have head := small digit (by simp)
      rw [List.map_cons, leValue, Nat.ofDigits_cons, UInt8.toNat_ofNat',
        ih (fun next member => small next (List.mem_cons_of_mem _ member)),
        Nat.mod_eq_of_lt head]

theorem beValue_minimal (value : Nat) : beValue (minimal value) = value := by
  rw [minimal, beValue, ← List.map_reverse, List.reverse_reverse,
    leValue_map_digits _ (fun _ member => Nat.digits_lt_base (by decide) member),
    Nat.ofDigits_digits]

theorem beValue_zero_cons (bytes : List UInt8) : beValue (0 :: bytes) = beValue bytes := by
  simp [beValue, leValue_append, leValue]

theorem beValue_integerContent (value : Nat) : beValue (integerContent value) = value := by
  have digits := beValue_minimal value
  unfold integerContent
  split
  · next empty =>
      rw [empty] at digits
      exact digits
  · next high rest found =>
      rw [found] at digits
      split
      · rw [beValue_zero_cons, digits]
      · exact digits

/-- A number of `count` bytes has at most one content byte more. -/
theorem integerContent_length {value count : Nat} (fits : value < 256 ^ count)
    : (integerContent value).length ≤ count + 1 := by
  have digits : (minimal value).length ≤ count := by
    rw [minimal, List.length_map, List.length_reverse]
    exact (Nat.digits_length_le_iff (by decide) value).mpr fits
  unfold integerContent
  split
  · simp
  · next high rest found =>
      rw [found, List.length_cons] at digits
      split <;> simp only [List.length_cons] <;> omega

theorem readElement_element (tag : UInt8) {content : List UInt8} (short : content.length < 128)
    (rest : List UInt8)
    : readElement tag (element tag content ++ rest) = some (content, rest) := by
  have length : (UInt8.ofNat content.length).toNat = content.length := by
    rw [UInt8.toNat_ofNat']
    omega
  simp [element, readElement, lengthOctets, short, readLength, length]

theorem readInteger_integer (value : Nat) (short : (integerContent value).length < 128)
    (rest : List UInt8)
    : readInteger (integer value ++ rest) = some (value, rest) := by
  simp only [readInteger, integer, readElement_element _ short, beValue_integerContent]

theorem element_length {tag : UInt8} {content : List UInt8} (short : content.length < 128)
    : (element tag content).length = content.length + 2 := by
  simp [element, lengthOctets, short]

/-- Pairs of numbers of up to 32 bytes are read back. -/
theorem readPair_pair {first second : Nat} (firstFits : first < 256 ^ 32)
    (secondFits : second < 256 ^ 32)
    : readPair (pair first second) = some (first, second) := by
  have firstLength := integerContent_length firstFits
  have secondLength := integerContent_length secondFits
  have total : (integer first ++ integer second).length < 128 := by
    rw [List.length_append, integer, integer, element_length (by omega),
      element_length (by omega)]
    omega
  have whole := readElement_element 0x30 total []
  rw [List.append_nil] at whole
  have second' := readInteger_integer second (by omega) []
  rw [List.append_nil] at second'
  have unpacked : readElement 0x30 (pair first second)
      = some (integer first ++ integer second, []) := whole
  simp only [readPair, unpacked, readInteger_integer first (by omega), second',
    if_true]

end Der
