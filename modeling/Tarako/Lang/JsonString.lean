import Tarako.Lang.Text

/-! How the two runtimes escape JSON strings by default, and when their texts coincide.
Go's `json.Marshal` escapes for HTML and keeps other scalars as UTF-8; Python's
`json.dumps` writes ASCII only.
-/

namespace Tarako.Lang

open JsonText

/-- The code points that both runtimes write as a two-byte escape. -/
def shortEscape? (code : Nat) : Option ShortEscape :=
  if code = 0x22 then some .quote
  else if code = 0x5c then some .backslash
  else if code = 0x08 then some .backspace
  else if code = 0x0c then some .formFeed
  else if code = 0x0a then some .newline
  else if code = 0x0d then some .carriageReturn
  else if code = 0x09 then some .tab
  else none

theorem shortEscape?_value {code : Nat} {escape : ShortEscape}
    (found : shortEscape? code = some escape)
    : escape.value = code := by
  simp only [shortEscape?] at found
  split_ifs at found with h h h h h h h <;> cases found <;> exact h.symm

/-- A scalar without a two-byte escape may stand for itself. -/
theorem plain_allowed {c : Char} (unescaped : shortEscape? c.toNat = none)
    : c ≠ '"' ∧ c ≠ '\\' := by
  constructor <;> (rintro rfl; exact absurd unescaped (by decide))

/-- One scalar in Go's `encoding/json` with its default HTML escaping. -/
def goEscape (c : Char) : Token :=
  match found : shortEscape? c.toNat with
  | some escape => .short escape
  | none =>
      -- U+2028 and U+2029 are escaped for JSONP, the other three for HTML.
      if c.toNat < 0x20 ∨ c = '<' ∨ c = '>' ∨ c = '&' ∨ c.toNat = 0x2028 ∨ c.toNat = 0x2029 then
        .unit (Fin.ofNat 0x10000 c.toNat)
      else
        .plain c (plain_allowed found)

/-- The high half of a surrogate pair. -/
def highSurrogate (code : Nat) : Nat :=
  0xd800 + (code - 0x10000) / 0x400

/-- The low half of a surrogate pair. -/
def lowSurrogate (code : Nat) : Nat :=
  0xdc00 + (code - 0x10000) % 0x400

/-- A printable ASCII scalar is the scalar of its code. -/
theorem ofNat_ascii {code : Nat} (ascii : code < 0x80) : (Char.ofNat code).toNat = code := by
  have all : ∀ n : Fin 0x80, (Char.ofNat n).toNat = n.val := by decide
  exact all ⟨code, ascii⟩

/-- One code point in Python's `json.dumps` with its default `ensure_ascii`. -/
def pyEscape (c : CodePoint) : List Token :=
  match found : shortEscape? c.val with
  | some escape => [.short escape]
  | none =>
      if printable : 0x20 ≤ c.val ∧ c.val ≤ 0x7e then
        [.plain (Char.ofNat c.val) (plain_allowed (by rwa [ofNat_ascii (by omega)]))]
      else if c.val < 0x10000 then
        [.unit (Fin.ofNat 0x10000 c.val)]
      else
        [
          .unit (Fin.ofNat 0x10000 (highSurrogate c.val)),
          .unit (Fin.ofNat 0x10000 (lowSurrogate c.val))
        ]

/-- A Go string as a quoted JSON string. -/
def goQuote (text : GoString) : Bytes :=
  0x22 :: (body (text.map goEscape) ++ [0x22])

/-- A Python string as a quoted JSON string. -/
def pyQuote (text : PyStr) : Bytes :=
  0x22 :: (body (text.flatMap pyEscape) ++ [0x22])

theorem goEscape_value (c : Char) : (goEscape c).value = c.toNat := by
  unfold goEscape
  split
  · next escape found => exact shortEscape?_value found
  · next found =>
      split
      · next special =>
          have small : c.toNat < 0x10000 := by
            rcases special with h | rfl | rfl | rfl | h | h
            · omega
            · decide
            · decide
            · decide
            · omega
            · omega
          simp [Token.value, Fin.ofNat, Nat.mod_eq_of_lt small]
      · rfl

/-- A code point of the basic plane is one token that stands for it. -/
theorem pyEscape_basic {c : CodePoint} (basic : c.val < 0x10000)
    : ∃ token, pyEscape c = [token] ∧ token.value = c.val := by
  unfold pyEscape
  split
  · next escape found => exact ⟨_, rfl, shortEscape?_value found⟩
  · next found =>
      split
      · next printable => exact ⟨_, rfl, ofNat_ascii (by omega)⟩
      · exact ⟨_, rfl, by simp [Token.value, Fin.ofNat, Nat.mod_eq_of_lt basic]⟩

theorem shortEscape?_astral {code : Nat} (astral : 0x10000 ≤ code)
    : shortEscape? code = none := by
  unfold shortEscape?
  repeat rw [if_neg (by omega)]

/-- A code point above the basic plane is two sixteen-bit tokens. -/
theorem pyEscape_astral {c : CodePoint} (astral : 0x10000 ≤ c.val)
    : ∃ high low : Fin 0x10000,
        pyEscape c = [.unit high, .unit low]
        ∧ high.val = highSurrogate c.val
        ∧ low.val = lowSurrogate c.val := by
  have bound := c.isLt
  have highFits : highSurrogate c.val < 0x10000 := by
    simp only [highSurrogate]
    omega
  have lowFits : lowSurrogate c.val < 0x10000 := by
    simp only [lowSurrogate]
    omega
  refine ⟨⟨_, highFits⟩, ⟨_, lowFits⟩, ?_, rfl, rfl⟩
  unfold pyEscape
  split
  · next escape found => simp [shortEscape?_astral astral] at found
  · rw [dif_neg (by omega), if_neg (by omega)]
    simp only [Fin.ofNat, Nat.mod_eq_of_lt highFits, Nat.mod_eq_of_lt lowFits]

/-- The first token of a code point stands for it, or for the high surrogate of one above
the basic plane.
-/
theorem pyEscape_head (c : CodePoint)
    : ∃ token rest,
        pyEscape c = token :: rest
        ∧ (c.val < 0x10000 ∧ rest = [] ∧ token.value = c.val
          ∨ 0x10000 ≤ c.val ∧ token.value = highSurrogate c.val
            ∧ ∃ low : Fin 0x10000, rest = [.unit low] ∧ low.val = lowSurrogate c.val) := by
  rcases Nat.lt_or_ge c.val 0x10000 with basic | astral
  · obtain ⟨token, escaped, value⟩ := pyEscape_basic basic
    exact ⟨token, [], escaped, .inl ⟨basic, rfl, value⟩⟩
  · obtain ⟨high, low, escaped, highValue, lowValue⟩ := pyEscape_astral astral
    exact ⟨_, _, escaped, .inr ⟨astral, highValue, low, rfl, lowValue⟩⟩

/-- High surrogates lie in their own block. -/
theorem highSurrogate_range (c : CodePoint) (astral : 0x10000 ≤ c.val)
    : 0xd800 ≤ highSurrogate c.val ∧ highSurrogate c.val < 0xdc00 := by
  have bound := c.isLt
  simp only [highSurrogate]
  omega

-----------------------------------------------------------------------------------------
-- The two escapings against each other and Python's against itself
-----------------------------------------------------------------------------------------

/-- A Go token and a Python escape at the front of equal texts belong to one scalar.
Witness: Go never writes a surrogate, so Python's text is a single token of equal value.
-/
theorem go_py_cancels
    : PrefixCode.Cancels (fun c => [goEscape c]) pyEscape (fun c d => codePoint c = d) := by
  intro c d left right same
  obtain ⟨token, rest, escaped, kind⟩ := pyEscape_head d
  simp only [escaped, List.cons_append, List.nil_append, List.cons.injEq] at same
  have value := goEscape_value c
  rw [same.1] at value
  rcases kind with ⟨_, rfl, basic⟩ | ⟨astral, high, _⟩
  · exact ⟨Fin.ext (by rw [← basic, value]; rfl), same.2⟩
  · have range := highSurrogate_range d astral
    have scalar := codePoint_scalar c
    have shown : (codePoint c).val = c.toNat := rfl
    simp only [CodePoint.IsScalar, shown] at scalar
    omega

theorem pyEscape_ne_nil (c : CodePoint) : pyEscape c ≠ [] := by
  obtain ⟨token, rest, escaped, _⟩ := pyEscape_head c
  simp [escaped]

/-- A Go string and a Python string with one token sequence are the same string. -/
theorem ofChars_of_escapes_eq {text : GoString} {str : PyStr}
    (same : text.map goEscape = str.flatMap pyEscape)
    : PyStr.ofChars text = str := by
  have words : text.flatMap (fun c => [goEscape c]) = str.flatMap pyEscape := by
    rw [← same, List.map_eq_flatMap]
  have letters := go_py_cancels.flatMap_whole (by simp) pyEscape_ne_nil words
  have mapped := List.forall₂_map_left_iff.mpr letters
  rwa [List.forall₂_eq_eq_eq] at mapped

/-- Go tokens determine their scalars. -/
theorem go_cancels : PrefixCode.Cancels (fun c => [goEscape c]) (fun c => [goEscape c]) Eq := by
  intro c d left right same
  simp only [List.cons_append, List.nil_append, List.cons.injEq] at same
  have value := goEscape_value c
  rw [same.1, goEscape_value d] at value
  exact ⟨Char.toNat_inj.mp value.symm, same.2⟩

/-- Python escapes of two code points at the front of equal texts agree when the second is
in the basic plane and no surrogate, or both are scalar values.
-/
theorem pyEscape_cancel {c d : CodePoint} {left right : List Token} (scalar : d.IsScalar)
    (other : c.IsScalar ∨ d.val < 0x10000)
    (same : pyEscape c ++ left = pyEscape d ++ right)
    : c = d ∧ left = right := by
  obtain ⟨first, firstRest, firstEscaped, firstKind⟩ := pyEscape_head c
  obtain ⟨second, secondRest, secondEscaped, secondKind⟩ := pyEscape_head d
  simp only [firstEscaped, secondEscaped, List.cons_append, List.cons.injEq] at same
  obtain ⟨rfl, rests⟩ := same
  simp only [CodePoint.IsScalar] at scalar other
  rcases firstKind with ⟨_, rfl, value⟩ | ⟨astral, high, low, rfl, lowValue⟩
  · rcases secondKind with ⟨_, rfl, value'⟩ | ⟨astral', high', _⟩
    · exact ⟨Fin.ext (by omega), rests⟩
    · have range := highSurrogate_range d astral'
      omega
  · rcases secondKind with ⟨_, rfl, value'⟩ | ⟨astral', high', low', rfl, lowValue'⟩
    · have range := highSurrogate_range c astral
      omega
    · simp only [List.cons_append, List.nil_append, List.cons.injEq, Token.unit.injEq] at rests
      obtain ⟨rfl, rest⟩ := rests
      refine ⟨Fin.ext ?_, rest⟩
      simp only [highSurrogate, lowSurrogate] at *
      omega

/-- Scalars that both runtimes escape alike. -/
def EscapesAgree (c : Char) : Prop :=
  (c.toNat < 0x7f ∧ c ≠ '<' ∧ c ≠ '>' ∧ c ≠ '&') ∨ c.toNat = 0x2028 ∨ c.toNat = 0x2029

instance (c : Char) : Decidable (EscapesAgree c) :=
  inferInstanceAs (Decidable (_ ∨ _))

/-- Below the two escape classes of Go a scalar stands for itself. -/
theorem goEscape_plain {c : Char} (unescaped : shortEscape? c.toNat = none)
    (ordinary : ¬(c.toNat < 0x20 ∨ c = '<' ∨ c = '>' ∨ c = '&' ∨ c.toNat = 0x2028
      ∨ c.toNat = 0x2029))
    : goEscape c = .plain c (plain_allowed unescaped) := by
  unfold goEscape
  split
  · next found => simp [unescaped] at found
  · rw [if_neg ordinary]

/-- Within them Go writes a sixteen-bit escape. -/
theorem goEscape_unit {c : Char} (unescaped : shortEscape? c.toNat = none)
    (special : c.toNat < 0x20 ∨ c = '<' ∨ c = '>' ∨ c = '&' ∨ c.toNat = 0x2028
      ∨ c.toNat = 0x2029)
    : goEscape c = .unit (Fin.ofNat 0x10000 c.toNat) := by
  unfold goEscape
  split
  · next found => simp [unescaped] at found
  · rw [if_pos special]

/-- Two-byte escapes are shared by both runtimes. -/
theorem goEscape_short {c : Char} {escape : ShortEscape}
    (found : shortEscape? c.toNat = some escape)
    : goEscape c = .short escape := by
  unfold goEscape
  split
  · next other same =>
      rw [found] at same
      rw [Option.some.inj same]
  · next unescaped => simp [found] at unescaped

/-- The two escapings of a scalar coincide exactly on the listed scalars.
Witness: the shared two-byte escapes, then the printable range of Python against the
special scalars of Go.
-/
theorem escapes_eq_iff (c : Char)
    : pyEscape (codePoint c) = [goEscape c] ↔ EscapesAgree c := by
  have shown : (codePoint c).val = c.toNat := rfl
  simp only [EscapesAgree, ne_eq, ← Char.toNat_inj, Char.reduceToNat]
  unfold pyEscape
  split
  · next escape found =>
      have value := shortEscape?_value found
      rw [goEscape_short found]
      cases escape <;> simp only [ShortEscape.value, shown] at value <;>
        exact ⟨fun _ => .inl (by omega), fun _ => rfl⟩
  · next found =>
      by_cases special : c.toNat < 0x20 ∨ c = '<' ∨ c = '>' ∨ c = '&' ∨ c.toNat = 0x2028
          ∨ c.toNat = 0x2029
      · rw [goEscape_unit found special]
        simp only [← Char.toNat_inj, Char.reduceToNat] at special
        split
        · simp only [List.cons.injEq, reduceCtorEq, false_and, false_iff]
          omega
        · rw [if_pos (by omega), shown]
          exact ⟨fun _ => by omega, fun _ => rfl⟩
      · rw [goEscape_plain found special]
        simp only [← Char.toNat_inj, Char.reduceToNat] at special
        split
        · next printable =>
            have same : Char.ofNat (codePoint c).val = c := Char.ofNat_toNat c
            simp only [same, true_iff]
            omega
        · split
          · simp only [List.cons.injEq, reduceCtorEq, false_and, false_iff]
            omega
          · simp only [List.cons.injEq, reduceCtorEq, false_and, false_iff]
            omega

end Tarako.Lang
