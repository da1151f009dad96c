import Tarako.Library.JsonText

/-! Strings, hexadecimal text and JSON string escaping of the Go and Python runtimes.
Go strings that come out of its JSON decoder are valid UTF-8, so they are lists of scalar
values; Python strings are lists of code points and may hold surrogates.
-/

namespace Tarako.Lang

open JsonText

abbrev Bytes := List UInt8

/-- A byte array of fixed length, such as `[u8; N]` or `[N]byte`. -/
abbrev U8Array (count : Nat) := { bytes : Bytes // bytes.length = count }

def U8Array.zero (count : Nat) : U8Array count :=
  ⟨List.replicate count 0, List.length_replicate⟩

/-- The bytes of an ASCII literal. -/
def ascii (text : String) : Bytes :=
  text.toList.map (fun c => UInt8.ofNat c.toNat)

/-- A sequence of fallible steps succeeds when each of them does. -/
theorem bind_eq_ok {ε α β : Type} {first : Except ε α} {next : α → Except ε β} {result : β}
    : first >>= next = .ok result ↔ ∃ found, first = .ok found ∧ next found = .ok result := by
  cases first with
  | error error => simp [bind, Except.bind]
  | ok found => simp [bind, Except.bind]

/-- It fails when one of them does and all before it succeed. -/
theorem bind_eq_error {ε α β : Type} {first : Except ε α} {next : α → Except ε β} {error : ε}
    : first >>= next = .error error
      ↔ first = .error error ∨ ∃ found, first = .ok found ∧ next found = .error error := by
  cases first with
  | error other => simp [bind, Except.bind]
  | ok found => simp [bind, Except.bind]

abbrev GoString := List Char

abbrev CodePoint := Fin 0x110000

abbrev PyStr := List CodePoint

/-- The code point of a scalar value. -/
def codePoint (c : Char) : CodePoint :=
  ⟨c.toNat, by
    have valid : c.val.toNat < 0xd800 ∨ 0xdfff < c.val.toNat ∧ c.val.toNat < 0x110000 := c.valid
    have same : c.val.toNat = c.toNat := rfl
    omega⟩

/-- A string of scalar values as a Python string. -/
def PyStr.ofChars (text : List Char) : PyStr :=
  text.map codePoint

/-- A Python literal. -/
def py (text : String) : PyStr :=
  PyStr.ofChars text.toList

/-- Surrogate code points are the ones a scalar value never has. -/
def CodePoint.IsScalar (c : CodePoint) : Prop :=
  c.val < 0xd800 ∨ 0xe000 ≤ c.val

instance (c : CodePoint) : Decidable c.IsScalar :=
  inferInstanceAs (Decidable (_ ∨ _))

theorem codePoint_scalar (c : Char) : (codePoint c).IsScalar := by
  have valid : c.val.toNat < 0xd800 ∨ 0xdfff < c.val.toNat ∧ c.val.toNat < 0x110000 := c.valid
  have same : (codePoint c).val = c.val.toNat := rfl
  simp only [CodePoint.IsScalar, same]
  omega

/-- Failures of Go's `hex.DecodeString`. -/
inductive HexError
  | invalidByte (byte : UInt8)
  | oddLength
deriving DecidableEq, Repr

/-- Go's `hex.DecodeString` on the bytes of its argument. An invalid digit is reported before
an odd length, as in the library.
-/
def hexDecodeString : Bytes → Except HexError Bytes
  | [] => .ok []
  | [last] =>
      match HexText.digitValue? last.toNat with
      | none => .error (.invalidByte last)
      | some _ => .error .oddLength
  | p :: q :: rest =>
      match HexText.digitValue? p.toNat, HexText.digitValue? q.toNat with
      | none, _ => .error (.invalidByte p)
      | some _, none => .error (.invalidByte q)
      | some high, some low =>
          match hexDecodeString rest with
          | .error error => .error error
          | .ok tail => .ok (UInt8.ofNat (high * 16 + low) :: tail)

/-- Go's `hex.EncodeToString`. -/
def hexEncodeToString (data : Bytes) : GoString :=
  (HexText.encode data).map Char.ofUInt8

/-- Python's `bytes.hex()`. -/
def pyHex (data : Bytes) : PyStr :=
  PyStr.ofChars (hexEncodeToString data)

/-- The ASCII whitespace that `bytes.fromhex` skips between bytes. -/
def isHexSpace (code : Nat) : Bool :=
  code == 32 || (9 ≤ code && code ≤ 13)

/-- Python's `bytes.fromhex`; `none` is its `ValueError`. -/
def fromhex : PyStr → Option Bytes
  | [] => some []
  | [last] => if isHexSpace last.val then some [] else none
  | high :: low :: rest =>
      if isHexSpace high.val then
        fromhex (low :: rest)
      else
        match HexText.digitValue? high.val, HexText.digitValue? low.val with
        | some top, some bottom =>
            (fromhex rest).map (fun tail => UInt8.ofNat (top * 16 + bottom) :: tail)
        | _, _ => none

/-- UTF-8 bytes of a Go string. -/
def utf8 (text : GoString) : Bytes :=
  text.flatMap String.utf8EncodeChar

/-- Hexadecimal digits are single UTF-8 bytes, plain in every escaping and never skipped. -/
theorem digit_char {value : Nat} (small : value < 16)
    : String.utf8EncodeChar (Char.ofUInt8 (HexText.digit value)) = [HexText.digit value]
      ∧ (codePoint (Char.ofUInt8 (HexText.digit value))).val = (HexText.digit value).toNat
      ∧ isHexSpace (HexText.digit value).toNat = false := by
  have all : ∀ n : Fin 16,
      String.utf8EncodeChar (Char.ofUInt8 (HexText.digit n)) = [HexText.digit n]
      ∧ (codePoint (Char.ofUInt8 (HexText.digit n))).val = (HexText.digit n).toNat
      ∧ isHexSpace (HexText.digit n).toNat = false := by decide
  exact all ⟨value, small⟩

theorem utf8_hexEncodeToString (data : Bytes)
    : utf8 (hexEncodeToString data) = HexText.encode data := by
  have digits : ∀ codes : Bytes, (∀ code ∈ codes, ∃ value < 16, code = HexText.digit value)
      → utf8 (codes.map Char.ofUInt8) = codes := by
    intro codes
    induction codes with
    | nil => intro _; rfl
    | cons code rest ih =>
        intro known
        obtain ⟨value, small, rfl⟩ := known code (by simp)
        have tail := ih (fun next member => known next (List.mem_cons_of_mem _ member))
        simp only [utf8, List.map_cons, List.flatMap_cons, (digit_char small).1] at tail ⊢
        rw [tail]
        rfl
  exact digits _ (fun code member => HexText.encode_digits member)

/-- Go reads back the lowercase text of a byte string, by induction on the bytes. -/
theorem hexDecodeString_encode (data : Bytes)
    : hexDecodeString (HexText.encode data) = .ok data := by
  induction data with
  | nil => rfl
  | cons byte rest ih =>
      obtain ⟨high, low, whole⟩ := HexText.halves byte
      simp only [HexText.encode_cons, hexDecodeString, HexText.digitValue?_digit high,
        HexText.digitValue?_digit low, ih, whole]

/-- Python reads back the text of `bytes.hex()`, by induction on the bytes. -/
theorem fromhex_pyHex (data : Bytes) : fromhex (pyHex data) = some data := by
  induction data with
  | nil => rfl
  | cons byte rest ih =>
      obtain ⟨high, low, whole⟩ := HexText.halves byte
      have tail : fromhex (PyStr.ofChars ((HexText.encode rest).map Char.ofUInt8))
          = some rest := ih
      simp only [PyStr.ofChars] at tail
      simp only [pyHex, hexEncodeToString, PyStr.ofChars, HexText.encode_cons, List.map_cons,
        fromhex, (digit_char high).2.1, (digit_char low).2.1, (digit_char high).2.2,
        HexText.digitValue?_digit high, HexText.digitValue?_digit low, tail,
        Bool.false_eq_true, if_false, Option.map_some, whole]

theorem pyHex_injective : Function.Injective pyHex := by
  intro first second same
  have values := fromhex_pyHex first
  rw [same, fromhex_pyHex second] at values
  exact (Option.some.inj values).symm

end Tarako.Lang
