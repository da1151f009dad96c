import Mathlib.Data.List.Basic
import Tarako.Library.Hex
import Tarako.Library.PrefixCode

/-! Tokens of a JSON string body and the bytes they are written as.
A body is a sequence of plain scalars, two-byte escapes and sixteen-bit escapes; the
closing quotation mark starts none of them, so bodies of any two writers compare token by
token.
-/

namespace JsonText

/-- UTF-8 is prefix-free: the first scalar and the rest are determined by the text.
Witness: the core decoder reads the first scalar back from any continuation.
-/
theorem utf8_cancels : PrefixCode.Cancels String.utf8EncodeChar String.utf8EncodeChar Eq := by
  intro a b left right same
  have first := ByteArray.utf8DecodeChar?_utf8EncodeChar_append
    (b := left.toByteArray) (c := a)
  have second := ByteArray.utf8DecodeChar?_utf8EncodeChar_append
    (b := right.toByteArray) (c := b)
  rw [← List.toByteArray_append] at first second
  rw [same, second] at first
  have scalar := Option.some.inj first
  subst scalar
  exact ⟨rfl, List.append_cancel_left same⟩

/-- An ASCII byte at the front of a scalar's encoding is the scalar itself, by the four
encoding lengths.
-/
theorem utf8_ascii_head {c : Char} {head : UInt8} {tail : List UInt8}
    (encoded : String.utf8EncodeChar c = head :: tail) (ascii : head.toNat < 128)
    : c.toNat = head.toNat := by
  have value : c.val.toNat = c.toNat := rfl
  simp only [String.utf8EncodeChar, value] at encoded
  split at encoded
  · next small =>
      rw [← (List.cons.inj encoded).1, UInt8.toNat_ofNat']
      omega
  · split at encoded
    · rw [← (List.cons.inj encoded).1, UInt8.toNat_ofNat'] at ascii
      omega
    · split at encoded
      · rw [← (List.cons.inj encoded).1, UInt8.toNat_ofNat'] at ascii
        omega
      · rw [← (List.cons.inj encoded).1, UInt8.toNat_ofNat'] at ascii
        omega

/-- The two-byte escapes of JSON, other than the sixteen-bit form. -/
inductive ShortEscape
  | quote
  | backslash
  | backspace
  | formFeed
  | newline
  | carriageReturn
  | tab
deriving DecidableEq, Repr

/-- The byte that follows the backslash. -/
def ShortEscape.letter : ShortEscape → UInt8
  | .quote => 0x22
  | .backslash => 0x5c
  | .backspace => 0x62
  | .formFeed => 0x66
  | .newline => 0x6e
  | .carriageReturn => 0x72
  | .tab => 0x74

/-- The code point a two-byte escape stands for. -/
def ShortEscape.value : ShortEscape → Nat
  | .quote => 0x22
  | .backslash => 0x5c
  | .backspace => 0x08
  | .formFeed => 0x0c
  | .newline => 0x0a
  | .carriageReturn => 0x0d
  | .tab => 0x09

/-- One token of a JSON string body. A plain scalar is neither of the two bytes that open
an escape or close the string.
-/
inductive Token
  | plain (scalar : Char) (allowed : scalar ≠ '"' ∧ scalar ≠ '\\')
  | short (escape : ShortEscape)
  | unit (code : Fin 0x10000)
deriving DecidableEq

/-- The four lowercase digits of a sixteen-bit code. -/
def unitDigits (code : Nat) : List UInt8 :=
  [
    HexText.digit (code / 4096),
    HexText.digit (code / 256 % 16),
    HexText.digit (code / 16 % 16),
    HexText.digit (code % 16)
  ]

/-- The bytes a token is written as. -/
def Token.bytes : Token → List UInt8
  | .plain scalar _ => String.utf8EncodeChar scalar
  | .short escape => [0x5c, escape.letter]
  | .unit code => 0x5c :: 0x75 :: unitDigits code

/-- The code point, or UTF-16 code unit, a token stands for. -/
def Token.value : Token → Nat
  | .plain scalar _ => scalar.toNat
  | .short escape => escape.value
  | .unit code => code

theorem ShortEscape.letter_injective : Function.Injective ShortEscape.letter := by
  intro first second same
  cases first <;> cases second <;> first | rfl | exact absurd same (by decide)

theorem ShortEscape.letter_ne_unit (escape : ShortEscape) : escape.letter ≠ 0x75 := by
  cases escape <;> decide

/-- Sixteen-bit codes are determined by their four digits. -/
theorem unitDigits_inj {first second : Fin 0x10000}
    (same : unitDigits first = unitDigits second)
    : first = second := by
  simp only [unitDigits, List.cons.injEq] at same
  have bounds := And.intro first.isLt second.isLt
  have a := HexText.digit_inj (by omega) (by omega) same.1
  have b := HexText.digit_inj (by omega) (by omega) same.2.1
  have c := HexText.digit_inj (by omega) (by omega) same.2.2.1
  have d := HexText.digit_inj (by omega) (by omega) same.2.2.2.1
  apply Fin.ext
  omega

/-- A plain scalar's first byte is neither the escape byte nor the closing mark. -/
theorem plain_head {scalar : Char} (allowed : scalar ≠ '"' ∧ scalar ≠ '\\')
    : ∃ head tail,
        String.utf8EncodeChar scalar = head :: tail ∧ head ≠ 0x22 ∧ head ≠ 0x5c := by
  obtain ⟨head, tail, encoded⟩ := List.exists_cons_of_ne_nil
    (String.utf8EncodeChar_ne_nil (c := scalar))
  refine ⟨head, tail, encoded, ?_, ?_⟩
  · rintro rfl
    exact allowed.1 (Char.toNat_inj.mp (utf8_ascii_head encoded (by decide)))
  · rintro rfl
    exact allowed.2 (Char.toNat_inj.mp (utf8_ascii_head encoded (by decide)))

/-- No token starts with the closing quotation mark. -/
theorem Token.bytes_avoid : PrefixCode.Avoids Token.bytes 0x22 := by
  intro token
  cases token with
  | plain scalar allowed =>
      obtain ⟨head, tail, encoded, other, _⟩ := plain_head allowed
      exact ⟨head, tail, encoded, other⟩
  | short escape => exact ⟨0x5c, [escape.letter], rfl, by decide⟩
  | unit code => exact ⟨0x5c, _, rfl, by decide⟩

/-- Token bytes are prefix-free, by the kinds of the two first tokens. -/
theorem Token.bytes_cancels : PrefixCode.Cancels Token.bytes Token.bytes Eq := by
  intro first second left right same
  cases first with
  | plain scalar allowed =>
      obtain ⟨head, tail, encoded, _, unescaped⟩ := plain_head allowed
      cases second with
      | plain other _ =>
          obtain ⟨rfl, rest⟩ := utf8_cancels scalar other left right same
          exact ⟨rfl, rest⟩
      | short escape =>
          simp only [Token.bytes, encoded, List.cons_append, List.cons.injEq] at same
          exact absurd same.1 unescaped
      | unit code =>
          simp only [Token.bytes, encoded, List.cons_append, List.cons.injEq] at same
          exact absurd same.1 unescaped
  | short escape =>
      cases second with
      | plain other allowed =>
          obtain ⟨head, tail, encoded, _, unescaped⟩ := plain_head allowed
          simp only [Token.bytes, encoded, List.cons_append, List.cons.injEq] at same
          exact absurd same.1.symm unescaped
      | short other =>
          simp only [Token.bytes, List.cons_append, List.nil_append, List.cons.injEq] at same
          exact ⟨by rw [ShortEscape.letter_injective same.2.1], same.2.2⟩
      | unit code =>
          simp only [Token.bytes, List.cons_append, List.cons.injEq] at same
          exact absurd same.2.1 escape.letter_ne_unit
  | unit code =>
      cases second with
      | plain other allowed =>
          obtain ⟨head, tail, encoded, _, unescaped⟩ := plain_head allowed
          simp only [Token.bytes, encoded, List.cons_append, List.cons.injEq] at same
          exact absurd same.1.symm unescaped
      | short escape =>
          simp only [Token.bytes, List.cons_append, List.cons.injEq] at same
          exact absurd same.2.1.symm escape.letter_ne_unit
      | unit other =>
          simp only [Token.bytes, List.cons_append, List.cons.injEq, true_and] at same
          obtain ⟨digits, rest⟩ := List.append_inj same rfl
          exact ⟨by rw [unitDigits_inj digits], rest⟩

/-- The body bytes of a token sequence. -/
def body (tokens : List Token) : List UInt8 :=
  tokens.flatMap Token.bytes

/-- Closed bodies determine their tokens and what follows the closing mark. -/
theorem body_cancel {first second : List Token} {left right : List UInt8}
    (same : body first ++ 0x22 :: left = body second ++ 0x22 :: right)
    : first = second ∧ left = right :=
  Token.bytes_cancels.flatMap_inj Token.bytes_avoid same

end JsonText
