import Tarako.Lang.PythonJson

/-! Python's `json.loads`, and what it reads from the texts of the standard encoder. A high and a
low surrogate that were escaped one after the other are read as one code point, so reading does
not undo writing; but what was read is written as the same text again.
-/

namespace Tarako.Lang

open JsonText

/-- ASCII bytes as text. -/
def asText (bytes : Bytes) : PyStr :=
  bytes.map fun byte => ⟨byte.toNat, lt_trans byte.toNat_lt (by decide)⟩

/-- The four digits of a sixteen-bit escape. -/
def unit? (d0 d1 d2 d3 : CodePoint) : Option Nat :=
  match HexText.digitValue? d0.val, HexText.digitValue? d1.val, HexText.digitValue? d2.val,
    HexText.digitValue? d3.val with
  | some v0, some v1, some v2, some v3 => some (v0 * 4096 + v1 * 256 + v2 * 16 + v3)
  | _, _, _, _ => none

/-- The letters of the two-byte escapes; a slash may be escaped as well. -/
def escaped? (letter : CodePoint) : Option Nat :=
  if letter.val = 0x22 then some 0x22
  else if letter.val = 0x5c then some 0x5c
  else if letter.val = 0x2f then some 0x2f
  else if letter.val = 0x62 then some 0x08
  else if letter.val = 0x66 then some 0x0c
  else if letter.val = 0x6e then some 0x0a
  else if letter.val = 0x72 then some 0x0d
  else if letter.val = 0x74 then some 0x09
  else none

def isHigh (code : Nat) : Bool :=
  0xd800 ≤ code && code ≤ 0xdbff

def isLow (code : Nat) : Bool :=
  0xdc00 ≤ code && code ≤ 0xdfff

/-- The code point of a surrogate pair. -/
def joinPair (high low : Nat) : Nat :=
  0x10000 + (high - 0xd800) * 0x400 + (low - 0xdc00)

/-- A code point in front of what else a string holds. -/
def prepend (code : Nat) (scanned : Option (PyStr × PyStr)) : Option (PyStr × PyStr) :=
  scanned.map fun (text, rest) => (Fin.ofNat 0x110000 code :: text, rest)

/-- The sixteen-bit escape at the front of a text, if there is one; it may be malformed. -/
def unitEscape? : PyStr → Option (Option Nat)
  | backslash :: letter :: d0 :: d1 :: d2 :: d3 :: _ =>
      if backslash.val = 0x5c ∧ letter.val = 0x75 then some (unit? d0 d1 d2 d3) else none
  | _ => none

/-- `scanstring`, after the opening quotation mark: the string and what follows it. A high
surrogate looks at the escape that follows it.
-/
def scanString (text : PyStr) : Option (PyStr × PyStr) :=
  match text with
  | [] => none
  | c :: rest =>
      if c.val = 0x22 then
        some ([], rest)
      else if c.val = 0x5c then
        match rest with
        | [] => none
        | letter :: after =>
            if letter.val = 0x75 then
              match unitEscape? (c :: letter :: after) with
              | some (some code) =>
                  if isHigh code then
                    match unitEscape? (after.drop 4) with
                    | some none => none
                    | some (some low) =>
                        if isLow low then
                          prepend (joinPair code low) (scanString (after.drop 10))
                        else
                          prepend code (scanString (after.drop 4))
                    | none => prepend code (scanString (after.drop 4))
                  else
                    prepend code (scanString (after.drop 4))
              | _ => none
            else
              match escaped? letter with
              | none => none
              | some code => prepend code (scanString after)
      else if c.val < 0x20 then
        none
      else
        prepend c.val (scanString rest)
termination_by text.length

/-- The whitespace of JSON. -/
def isBlank (c : CodePoint) : Bool :=
  c.val == 0x20 || c.val == 0x09 || c.val == 0x0a || c.val == 0x0d

def skipBlanks (text : PyStr) : PyStr :=
  text.dropWhile isBlank

/-- What follows a character, which blanks may precede. -/
def expect (code : Nat) (text : PyStr) : Option PyStr :=
  match skipBlanks text with
  | c :: rest => if c.val = code then some rest else none
  | [] => none

/-- Assignment to a key of a `dict`, which keeps the place of a key that is there. -/
def setItem (key : PyStr) (value : Json) : List (PyStr × Json) → List (PyStr × Json)
  | [] => [(key, value)]
  | (other, found) :: rest =>
      if other = key then (other, value) :: rest else (other, found) :: setItem key value rest

/-- The three literals, and what follows them. -/
def literal? (text : PyStr) : Option (Json × PyStr) :=
  if (py "null").isPrefixOf text then some (.null, text.drop 4)
  else if (py "true").isPrefixOf text then some (.bool true, text.drop 4)
  else if (py "false").isPrefixOf text then some (.bool false, text.drop 5)
  else none

/-- How numbers are read, with `NaN` and the infinities. -/
abbrev NumberReader := PyStr → Option (Json × PyStr)

mutual
/-- `scan_once`. Every call reads something, so the length of a text is enough fuel for it. -/
def scanOnce (numbers : NumberReader) : Nat → PyStr → Option (Json × PyStr)
  | 0, _ => none
  | _ + 1, [] => none
  | fuel + 1, c :: rest =>
      if c.val = 0x22 then
        (scanString rest).map fun (text, after) => (.str text, after)
      else if c.val = 0x7b then
        match expect 0x7d rest with
        | some after => some (.obj [], after)
        | none => do scanMembers numbers fuel [] (← expect 0x22 rest)
      else if c.val = 0x5b then
        match expect 0x5d rest with
        | some after => some (.arr [], after)
        | none => scanItems numbers fuel [] (skipBlanks rest)
      else
        match literal? (c :: rest) with
        | some found => some found
        | none => numbers (c :: rest)

/-- The members of an object, from the key after an opening quotation mark on. -/
def scanMembers (numbers : NumberReader)
    : Nat → List (PyStr × Json) → PyStr → Option (Json × PyStr)
  | 0, _, _ => none
  | fuel + 1, fields, text => do
      let (key, rest) ← scanString text
      let rest ← expect 0x3a rest
      let (value, rest) ← scanOnce numbers fuel (skipBlanks rest)
      match expect 0x7d rest with
      | some after => some (.obj (setItem key value fields), after)
      | none => do
          let rest ← expect 0x2c rest
          let rest ← expect 0x22 rest
          scanMembers numbers fuel (setItem key value fields) rest

def scanItems (numbers : NumberReader) : Nat → List Json → PyStr → Option (Json × PyStr)
  | 0, _, _ => none
  | fuel + 1, items, text => do
      let (value, rest) ← scanOnce numbers fuel text
      match expect 0x5d rest with
      | some after => some (.arr (items ++ [value]), after)
      | none => do
          let rest ← expect 0x2c rest
          scanItems numbers fuel (items ++ [value]) (skipBlanks rest)
end

/-- `json.loads`; `none` is its `JSONDecodeError`. A byte order mark is refused. -/
def loads (numbers : NumberReader) (text : PyStr) : Option Json :=
  if text.head? = some 0xfeff then
    none
  else
    match scanOnce numbers text.length (skipBlanks text) with
    | some (value, rest) => if skipBlanks rest = [] then some value else none
    | none => none

-----------------------------------------------------------------------------------------
-- What the standard encoder writes
-----------------------------------------------------------------------------------------

/-- Blanks only. -/
def Blank (gap : PyStr) : Prop :=
  ∀ c ∈ gap, isBlank c = true

mutual
/-- The texts of the standard encoder with its default `ensure_ascii`. The order of members and
the blanks between tokens depend on its other options, and are left open.
-/
inductive Written : Json → PyStr → Prop
  | null : Written .null (asText (ascii "null"))
  | bool (value : Bool) : Written (.bool value) (asText (Json.bool value).dumps)
  | int (value : Int) : Written (.int value) (asText (intText value))
  | float (value : PyFloat) : Written (.float value) (asText value.text)
  | str (text : PyStr) : Written (.str text) (asText (pyQuote text))
  | arr {items : List Json} {text : PyStr} (written : ItemsWritten items text)
    : Written (.arr items) (0x5b :: text)
  | obj {fields order : List (PyStr × Json)} {text : PyStr} (same : order.Perm fields)
    (written : MembersWritten order text)
    : Written (.obj fields) (0x7b :: text)

/-- The members of an object and its closing brace. -/
inductive MembersWritten : List (PyStr × Json) → PyStr → Prop
  | none {gap : PyStr} (blank : Blank gap) : MembersWritten [] (gap ++ [0x7d])
  | last {key : PyStr} {value : Json} {text gap before after close : PyStr} (blank : Blank gap)
    (blankBefore : Blank before) (blankAfter : Blank after) (blankClose : Blank close)
    (written : Written value text)
    : MembersWritten [(key, value)]
        (gap ++ asText (pyQuote key) ++ before ++ 0x3a :: (after ++ text ++ close ++ [0x7d]))
  | more {key : PyStr} {value : Json} {rest : List (PyStr × Json)}
    {text others gap before after close : PyStr} (blank : Blank gap)
    (blankBefore : Blank before) (blankAfter : Blank after) (blankClose : Blank close)
    (written : Written value text) (remaining : MembersWritten rest others)
    (nonempty : rest ≠ [])
    : MembersWritten ((key, value) :: rest)
        (gap ++ asText (pyQuote key) ++ before ++ 0x3a :: (after ++ text ++ close ++ 0x2c :: others))

/-- The items of an array and its closing bracket. -/
inductive ItemsWritten : List Json → PyStr → Prop
  | none {gap : PyStr} (blank : Blank gap) : ItemsWritten [] (gap ++ [0x5d])
  | last {value : Json} {text gap close : PyStr} (blank : Blank gap) (blankClose : Blank close)
    (written : Written value text)
    : ItemsWritten [value] (gap ++ text ++ close ++ [0x5d])
  | more {value : Json} {rest : List Json} {text others gap close : PyStr} (blank : Blank gap)
    (blankClose : Blank close) (written : Written value text)
    (remaining : ItemsWritten rest others) (nonempty : rest ≠ [])
    : ItemsWritten (value :: rest) (gap ++ text ++ close ++ 0x2c :: others)
end

-----------------------------------------------------------------------------------------
-- Strings
-----------------------------------------------------------------------------------------

@[simp]
theorem asText_append (first second : Bytes)
    : asText (first ++ second) = asText first ++ asText second :=
  List.map_append

@[simp]
theorem asText_cons (byte : UInt8) (rest : Bytes)
    : asText (byte :: rest) = ⟨byte.toNat, lt_trans byte.toNat_lt (by decide)⟩ :: asText rest :=
  rfl

@[simp]
theorem asText_nil : asText [] = [] :=
  rfl

/-- A plain token that the encoder writes is printable. -/
def Printable : Token → Prop
  | .plain scalar _ => 0x20 ≤ scalar.toNat ∧ scalar.toNat ≤ 0x7e
  | _ => True

theorem pyEscape_printable {c : CodePoint} {token : Token} (member : token ∈ pyEscape c)
    : Printable token := by
  unfold pyEscape at member
  split at member
  · rw [List.mem_singleton.mp member]
    trivial
  · split at member
    · next printable =>
        rw [List.mem_singleton.mp member]
        simp only [Printable, ofNat_ascii (show c.val < 0x80 by omega)]
        exact printable
    · split at member
      · rw [List.mem_singleton.mp member]
        trivial
      · rcases List.mem_cons.mp member with rfl | last
        · trivial
        · rw [List.mem_singleton.mp last]
          trivial

/-- A printable scalar is one byte. -/
theorem utf8_printable {scalar : Char} (ascii : scalar.toNat ≤ 0x7e)
    : String.utf8EncodeChar scalar = [UInt8.ofNat scalar.toNat] := by
  have value : scalar.val.toNat = scalar.toNat := rfl
  simp only [String.utf8EncodeChar, value]
  rw [if_pos (by omega)]

/-- Four digits are read as the code that they were written for. -/
theorem unitEscape?_unit (code : Fin 0x10000) (rest : PyStr)
    : unitEscape? (asText (Token.unit code).bytes ++ rest) = some (some code.val) := by
  have bound := code.isLt
  have d0 := @HexText.digitValue?_digit (code.val / 4096) (by omega)
  have d1 := @HexText.digitValue?_digit (code.val / 256 % 16) (by omega)
  have d2 := @HexText.digitValue?_digit (code.val / 16 % 16) (by omega)
  have d3 := @HexText.digitValue?_digit (code.val % 16) (by omega)
  simp only [Token.bytes, unitDigits, asText_cons, List.cons_append, unitEscape?, unit?]
  rw [if_pos (by decide), d0, d1, d2, d3]
  simp only [Option.some.injEq]
  omega

/-- Other tokens do not begin with a sixteen-bit escape. -/
theorem unitEscape?_of_head {c : CodePoint} (other : c.val ≠ 0x5c) (rest : PyStr)
    : unitEscape? (c :: rest) = none := by
  unfold unitEscape?
  split
  · next same =>
      cases same
      exact if_neg fun both => other both.1
  · rfl

/-- A short escape is not a sixteen-bit one. -/
theorem unitEscape?_short (escape : ShortEscape) (rest : PyStr)
    : unitEscape? (asText (Token.short escape).bytes ++ rest) = none := by
  have other : escape.letter.toNat ≠ 0x75 := by cases escape <;> decide
  simp only [Token.bytes, asText_cons, List.cons_append]
  unfold unitEscape?
  split
  · next same =>
      cases same
      exact if_neg fun both => other both.2
  · rfl

/-- What a closed body shows to a high surrogate before it: the code of its first token, if that
is a sixteen-bit escape.
-/
theorem unitEscape?_body {token : Token} (printable : Printable token) (rest : PyStr)
    {code : Option Nat} (found : unitEscape? (asText token.bytes ++ rest) = some code)
    : code = some token.value := by
  cases token with
  | plain scalar allowed =>
      rw [Token.bytes, utf8_printable printable.2, asText_cons, List.cons_append,
        unitEscape?_of_head] at found
      · cases found
      · intro same
        have range := printable.2
        have shown : (UInt8.ofNat scalar.toNat).toNat = scalar.toNat := by
          rw [UInt8.toNat_ofNat']
          omega
        exact allowed.2 (Char.toNat_inj.mp (shown.symm.trans same))
  | short escape =>
      rw [unitEscape?_short] at found
      cases found
  | unit value =>
      rw [unitEscape?_unit] at found
      exact (Option.some.inj found).symm

/-- A sixteen-bit escape is read with what is escaped after it. -/
theorem scanString_unit (code : Fin 0x10000) (rest : PyStr)
    : scanString (asText (Token.unit code).bytes ++ rest)
      = if isHigh code.val then
          match unitEscape? rest with
          | some none => none
          | some (some low) =>
              if isLow low then
                prepend (joinPair code.val low) (scanString (rest.drop 6))
              else
                prepend code.val (scanString rest)
          | none => prepend code.val (scanString rest)
        else
          prepend code.val (scanString rest) := by
  have shown := unitEscape?_unit code rest
  simp only [Token.bytes, unitDigits, asText_cons, asText_nil, List.cons_append,
    List.nil_append] at shown ⊢
  rw [scanString.eq_def]
  dsimp only
  rw [if_neg (by decide), if_pos (by decide), if_pos (by decide), shown]
  rfl

/-- Tokens other than a high surrogate are read one by one. -/
theorem scanString_token {token : Token} (printable : Printable token)
    (other : isHigh token.value = false) (rest : PyStr)
    : scanString (asText token.bytes ++ rest) = prepend token.value (scanString rest) := by
  cases token with
  | plain scalar allowed =>
      have range := printable
      simp only [Printable] at range
      have shown : (UInt8.ofNat scalar.toNat).toNat = scalar.toNat := by
        rw [UInt8.toNat_ofNat']
        omega
      have quote : scalar.toNat ≠ 0x22 := fun same => allowed.1 (Char.toNat_inj.mp same)
      have backslash : scalar.toNat ≠ 0x5c := fun same => allowed.2 (Char.toNat_inj.mp same)
      rw [Token.bytes, utf8_printable printable.2, asText_cons, List.cons_append,
        scanString.eq_def]
      simp only [shown, if_neg quote, if_neg backslash, if_neg (show ¬ scalar.toNat < 0x20 by omega)]
      rfl
  | short escape =>
      rw [Token.bytes, asText_cons, List.cons_append, scanString.eq_def]
      cases escape <;> rfl
  | unit code =>
      rw [scanString_unit, if_neg (by rw [show isHigh code.val = false from other]; decide)]
      rfl

/-- A high surrogate joins the low one that is escaped after it. -/
theorem scanString_pair {high low : Fin 0x10000} (isFirst : isHigh high.val = true)
    (isSecond : isLow low.val = true) (rest : PyStr)
    : scanString (asText (Token.unit high).bytes ++ (asText (Token.unit low).bytes ++ rest))
      = prepend (joinPair high.val low.val) (scanString rest) := by
  rw [scanString_unit, if_pos isFirst, unitEscape?_unit]
  dsimp only
  rw [if_pos isSecond]
  rfl

/-- A high surrogate without a low one after it stands for itself. -/
theorem scanString_high {high : Fin 0x10000} (isFirst : isHigh high.val = true) {rest : PyStr}
    (alone : ∀ found, unitEscape? rest = some found → ∃ code, found = some code ∧ isLow code = false)
    : scanString (asText (Token.unit high).bytes ++ rest)
      = prepend high.val (scanString rest) := by
  rw [scanString_unit, if_pos isFirst]
  split
  · next malformed =>
      obtain ⟨code, impossible, _⟩ := alone none malformed
      cases impossible
  · next low found =>
      obtain ⟨code, same, notLow⟩ := alone (some low) found
      cases same
      rw [if_neg (by rw [notLow]; decide)]
  · rfl

/-- What is read from a written string: raw surrogates that form a pair have become one code
point.
-/
def mergePairs : PyStr → PyStr
  | [] => []
  | [c] => [c]
  | c :: d :: rest =>
      if isHigh c.val && isLow d.val then
        Fin.ofNat 0x110000 (joinPair c.val d.val) :: mergePairs rest
      else
        c :: mergePairs (d :: rest)

/-- A low surrogate, or a high one, is a single sixteen-bit token. -/
theorem pyEscape_surrogate {c : CodePoint} (surrogate : ¬ c.IsScalar)
    : ∃ code : Fin 0x10000, pyEscape c = [.unit code] ∧ code.val = c.val := by
  simp only [CodePoint.IsScalar] at surrogate
  refine ⟨⟨c.val, by omega⟩, ?_, rfl⟩
  have unescaped : shortEscape? c.val = none := by
    unfold shortEscape?
    repeat rw [if_neg (by omega)]
  unfold pyEscape
  split
  · next escape found =>
      rw [unescaped] at found
      cases found
  · rw [dif_neg (by omega), if_pos (by omega)]
    simp only [Fin.ofNat, List.cons.injEq, Token.unit.injEq, and_true]
    exact Fin.ext (Nat.mod_eq_of_lt (by omega))

theorem isHigh_iff (code : Nat) : isHigh code = true ↔ 0xd800 ≤ code ∧ code ≤ 0xdbff := by
  simp [isHigh]

theorem isLow_iff (code : Nat) : isLow code = true ↔ 0xdc00 ≤ code ∧ code ≤ 0xdfff := by
  simp [isLow]

/-- The code points that are read fit. -/
theorem ofNat_code {code : Nat} (bound : code < 0x110000)
    : (Fin.ofNat 0x110000 code).val = code :=
  Nat.mod_eq_of_lt bound

theorem joinPair_range {high low : Nat} (isFirst : isHigh high = true) (isSecond : isLow low = true)
    : 0x10000 ≤ joinPair high low ∧ joinPair high low < 0x110000 := by
  rw [isHigh_iff] at isFirst
  rw [isLow_iff] at isSecond
  unfold joinPair
  omega

/-- A code point that joins a pair is written as its two halves. -/
theorem pyEscape_joined {c d joined : CodePoint} (high : isHigh c.val = true)
    (low : isLow d.val = true) (value : joined.val = joinPair c.val d.val)
    : pyEscape joined = pyEscape c ++ pyEscape d := by
  have range := joinPair_range high low
  rw [isHigh_iff] at high
  rw [isLow_iff] at low
  have firstSurrogate : ¬ c.IsScalar := by
    simp only [CodePoint.IsScalar]
    omega
  have secondSurrogate : ¬ d.IsScalar := by
    simp only [CodePoint.IsScalar]
    omega
  obtain ⟨first, firstEscaped, firstValue⟩ := pyEscape_surrogate firstSurrogate
  obtain ⟨second, secondEscaped, secondValue⟩ := pyEscape_surrogate secondSurrogate
  obtain ⟨highUnit, lowUnit, escaped, highValue, lowValue⟩ :=
    @pyEscape_astral joined (by rw [value]; exact range.1)
  have sameHigh : highUnit = first := by
    apply Fin.ext
    rw [highValue, firstValue, value]
    unfold highSurrogate joinPair
    omega
  have sameLow : lowUnit = second := by
    apply Fin.ext
    rw [lowValue, secondValue, value]
    unfold lowSurrogate joinPair
    omega
  rw [escaped, firstEscaped, secondEscaped, sameHigh, sameLow]
  rfl

/-- What was read is written as it was written before, by induction on the string. -/
theorem escapes_mergePairs (text : PyStr)
    : (mergePairs text).flatMap pyEscape = text.flatMap pyEscape := by
  induction text using mergePairs.induct with
  | case1 => rfl
  | case2 c => rfl
  | case3 c d rest pair ih =>
      rw [mergePairs, if_pos pair]
      rw [Bool.and_eq_true] at pair
      have joined := pyEscape_joined pair.1 pair.2
        (ofNat_code (joinPair_range pair.1 pair.2).2)
      simp only [List.flatMap_cons, ih, joined, List.append_assoc]
  | case4 c d rest single ih =>
      rw [mergePairs, if_neg single]
      simp only [List.flatMap_cons] at ih ⊢
      rw [ih]

/-- No escape of a low surrogate is at the front of a text. -/
def NoLow (text : PyStr) : Prop :=
  ∀ found, unitEscape? text = some found → ∃ code, found = some code ∧ isLow code = false

theorem noLow_of_head {c : CodePoint} (other : c.val ≠ 0x5c) (rest : PyStr)
    : NoLow (c :: rest) := by
  intro found same
  rw [unitEscape?_of_head other] at same
  cases same

/-- A written code point other than a low surrogate does not begin with one. -/
theorem noLow_pyEscape {c : CodePoint} (other : isLow c.val = false) (rest : PyStr)
    : NoLow (asText (body (pyEscape c)) ++ rest) := by
  obtain ⟨token, more, escaped, kind⟩ := pyEscape_head c
  have printable : Printable token := pyEscape_printable (by rw [escaped]; exact .head _)
  intro found same
  rw [escaped, body, List.flatMap_cons, asText_append, List.append_assoc] at same
  refine ⟨token.value, unitEscape?_body printable _ same, ?_⟩
  rcases kind with ⟨_, _, value⟩ | ⟨astral, value, _⟩
  · rwa [value]
  · have range := highSurrogate_range c astral
    rw [value, Bool.eq_false_iff, ne_eq, isLow_iff]
    omega

/-- A code point is read back, unless it is a high surrogate that joins what follows it. -/
theorem scanString_pyEscape {c : CodePoint} {rest : PyStr}
    (alone : isHigh c.val = true → NoLow rest)
    : scanString (asText (body (pyEscape c)) ++ rest) = prepend c.val (scanString rest) := by
  rcases Nat.lt_or_ge c.val 0x10000 with basic | astral
  · obtain ⟨token, escaped, value⟩ := pyEscape_basic basic
    have printable : Printable token := pyEscape_printable (by rw [escaped]; exact .head _)
    rw [escaped, body, List.flatMap_singleton]
    cases high : isHigh c.val with
    | false =>
        rw [← value] at high ⊢
        exact scanString_token printable high rest
    | true =>
        have range := (isHigh_iff _).mp high
        have surrogate : ¬ c.IsScalar := by
          simp only [CodePoint.IsScalar]
          omega
        obtain ⟨code, asUnit, codeValue⟩ := pyEscape_surrogate surrogate
        cases escaped.symm.trans asUnit
        rw [← codeValue] at high ⊢
        exact scanString_high high (alone (by rwa [← codeValue]))
  · obtain ⟨high, low, escaped, highValue, lowValue⟩ := pyEscape_astral astral
    have bound := c.isLt
    have isFirst : isHigh high.val = true := by
      have range := highSurrogate_range c astral
      rw [isHigh_iff, highValue]
      omega
    have isSecond : isLow low.val = true := by
      rw [isLow_iff, lowValue]
      unfold lowSurrogate
      omega
    have joined : joinPair high.val low.val = c.val := by
      rw [highValue, lowValue]
      unfold joinPair highSurrogate lowSurrogate
      omega
    rw [escaped, body, List.flatMap_cons, List.flatMap_singleton, asText_append, List.append_assoc,
      scanString_pair isFirst isSecond, joined]

theorem prepend_some {c : CodePoint} {text rest : PyStr}
    : prepend c.val (some (text, rest)) = some (c :: text, rest) := by
  have same : Fin.ofNat 0x110000 c.val = c := Fin.ext (ofNat_code c.isLt)
  rw [prepend, Option.map_some, same]

/-- A written string is read up to its closing quotation mark, with its pairs merged. The
induction follows the merging.
-/
theorem scanString_body (text rest : PyStr)
    : scanString (asText (body (text.flatMap pyEscape)) ++ 0x22 :: rest)
      = some (mergePairs text, rest) := by
  have closed : scanString (0x22 :: rest) = some ([], rest) := by
    rw [scanString.eq_def]
    rfl
  have front (c : CodePoint) (others : PyStr)
      : asText (body ((c :: others).flatMap pyEscape)) ++ 0x22 :: rest
        = asText (body (pyEscape c))
          ++ (asText (body (others.flatMap pyEscape)) ++ 0x22 :: rest) := by
    rw [List.flatMap_cons, body, List.flatMap_append, asText_append, List.append_assoc]
    rfl
  induction text using mergePairs.induct with
  | case1 => exact closed
  | case2 c =>
      rw [front, List.flatMap_nil]
      refine (scanString_pyEscape fun _ => noLow_of_head (by decide) rest).trans ?_
      exact (congrArg _ closed).trans prepend_some
  | case3 c d others pair ih =>
      rw [mergePairs, if_pos pair]
      rw [Bool.and_eq_true] at pair
      have range := joinPair_range pair.1 pair.2
      have value := ofNat_code range.2
      have joined := pyEscape_joined pair.1 pair.2 value
      generalize Fin.ofNat 0x110000 (joinPair c.val d.val) = code at value joined
      have whole : (c :: d :: others).flatMap pyEscape = (code :: others).flatMap pyEscape := by
        simp only [List.flatMap_cons, joined, List.append_assoc]
      rw [whole, front, scanString_pyEscape, ih, prepend_some]
      intro high
      rw [isHigh_iff, value] at high
      omega
  | case4 c d others single ih =>
      rw [mergePairs, if_neg single, front, scanString_pyEscape, ih, prepend_some]
      intro high
      rw [front]
      refine noLow_pyEscape ?_ _
      cases low : isLow d.val with
      | false => rfl
      | true => exact absurd (by rw [high, low]; rfl) single

theorem mergePairs_basic {text : PyStr} (basic : ∀ c ∈ text, c.val < 0xd800)
    : mergePairs text = text := by
  induction text using mergePairs.induct with
  | case1 => rfl
  | case2 c => rfl
  | case3 c d rest pair ih =>
      rw [Bool.and_eq_true, isHigh_iff] at pair
      have low := basic c (.head _)
      omega
  | case4 c d rest single ih =>
      rw [mergePairs, if_neg single, ih fun other member => basic other (.tail _ member)]

/-- The text of a quoted string, read after its opening mark. -/
theorem asText_pyQuote (text : PyStr)
    : asText (pyQuote text) = 0x22 :: (asText (body (text.flatMap pyEscape)) ++ [0x22]) := by
  rw [pyQuote, asText_cons, asText_append]
  rfl

-----------------------------------------------------------------------------------------
-- Objects
-----------------------------------------------------------------------------------------

theorem skipBlanks_gap {gap : PyStr} (blank : Blank gap) (rest : PyStr)
    : skipBlanks (gap ++ rest) = skipBlanks rest :=
  List.dropWhile_append_of_pos blank

theorem skipBlanks_head {c : CodePoint} (visible : isBlank c = false) (rest : PyStr)
    : skipBlanks (c :: rest) = c :: rest :=
  List.dropWhile_cons_of_neg (by rw [visible]; decide)

/-- The first visible character decides. -/
theorem expect_gap {gap : PyStr} (blank : Blank gap) {c : CodePoint} (visible : isBlank c = false)
    (code : Nat) (rest : PyStr)
    : expect code (gap ++ c :: rest) = if c.val = code then some rest else none := by
  rw [expect, skipBlanks_gap blank, skipBlanks_head visible]

/-- A new key comes last. -/
theorem setItem_new {fields : List (PyStr × Json)} {key : PyStr} (fresh : key ∉ fields.map Prod.fst)
    (value : Json)
    : setItem key value fields = fields ++ [(key, value)] := by
  induction fields with
  | nil => rfl
  | cons field rest ih =>
      rw [List.map_cons, List.mem_cons, not_or] at fresh
      rw [setItem, if_neg fun same => fresh.1 same.symm, ih fresh.2, List.cons_append]

/-- Every text of a value, whatever follows it, is read as something good. -/
def Reads (numbers : NumberReader) (value : Json) (good : Json → Prop) : Prop :=
  ∀ text,
    Written value text
    → (∃ head tail, text = head :: tail ∧ isBlank head = false)
      ∧ ∀ rest fuel,
          (text ++ rest).length ≤ fuel
          → ∃ found, good found ∧ scanOnce numbers fuel (text ++ rest) = some (found, rest)

theorem Reads.imp {numbers : NumberReader} {value : Json} {good weaker : Json → Prop}
    (reads : Reads numbers value good) (weaken : ∀ found, good found → weaker found)
    : Reads numbers value weaker := by
  intro text written
  obtain ⟨begins, read⟩ := reads text written
  refine ⟨begins, fun rest fuel enough => ?_⟩
  obtain ⟨found, isGood, scanned⟩ := read rest fuel enough
  exact ⟨found, weaken found isGood, scanned⟩

theorem reads_str (numbers : NumberReader) (text : PyStr)
    : Reads numbers (.str text) (· = .str (mergePairs text)) := by
  intro written writing
  cases writing
  rw [asText_pyQuote]
  refine ⟨⟨_, _, rfl, by decide⟩, ?_⟩
  intro rest fuel enough
  obtain ⟨fuel, rfl⟩ : ∃ less, fuel = less + 1 := by
    simp only [List.cons_append, List.length_cons] at enough
    exact ⟨fuel - 1, by omega⟩
  refine ⟨_, rfl, ?_⟩
  rw [List.cons_append, scanOnce, if_pos (by decide), List.append_assoc, List.singleton_append,
    scanString_body, Option.map_some]

theorem reads_true (numbers : NumberReader) : Reads numbers (.bool true) (· = .bool true) := by
  intro written writing
  cases writing
  have shape : asText (Json.bool true).dumps = py "true" := by decide
  rw [shape]
  refine ⟨⟨_, _, rfl, by decide⟩, ?_⟩
  intro rest fuel enough
  obtain ⟨fuel, rfl⟩ : ∃ less, fuel = less + 1 := by
    rw [List.length_append] at enough
    have long : (py "true").length = 4 := rfl
    exact ⟨fuel - 1, by omega⟩
  refine ⟨_, rfl, ?_⟩
  have begins (literal : PyStr) : (literal.isPrefixOf (literal ++ rest)) = true := by simp
  have found : literal? (py "true" ++ rest) = some (.bool true, rest) := by
    rw [literal?, if_neg, if_pos (begins _)]
    · rfl
    · exact Bool.false_ne_true
  have split : py "true" ++ rest = 0x74 :: (py "rue" ++ rest) := rfl
  rw [split] at found ⊢
  rw [scanOnce, if_neg (by decide), if_neg (by decide), if_neg (by decide), found]

/-- One member is read up to what its value leaves. -/
theorem scanMembers_member {numbers : NumberReader} {value : Json} {good : Json → Prop}
    (reads : Reads numbers value good) {key : PyStr} (basic : ∀ c ∈ key, c.val < 0xd800)
    {before after text : PyStr} (blankBefore : Blank before) (blankAfter : Blank after)
    (written : Written value text) (fields : List (PyStr × Json)) {tail : PyStr} {fuel : Nat}
    (enough : (text ++ tail).length ≤ fuel)
    : ∃ found,
        good found
        ∧ scanMembers numbers (fuel + 1) fields
            (asText (body (key.flatMap pyEscape))
              ++ 0x22 :: (before ++ 0x3a :: (after ++ (text ++ tail))))
          = (match expect 0x7d tail with
            | some rest => some (.obj (setItem key found fields), rest)
            | none => do
                let rest ← expect 0x2c tail
                let rest ← expect 0x22 rest
                scanMembers numbers fuel (setItem key found fields) rest) := by
  obtain ⟨⟨head, more, begins, visible⟩, read⟩ := reads text written
  obtain ⟨found, isGood, scanned⟩ := read tail fuel enough
  refine ⟨found, isGood, ?_⟩
  have colon := expect_gap blankBefore (show isBlank 0x3a = false by decide) 0x3a
    (after ++ (text ++ tail))
  rw [if_pos (by decide)] at colon
  have unblanked : skipBlanks (after ++ (text ++ tail)) = text ++ tail := by
    rw [skipBlanks_gap blankAfter, begins, List.cons_append, skipBlanks_head visible]
  rw [scanMembers, scanString_body, mergePairs_basic basic]
  simp only [bind, Option.bind, colon, unblanked, scanned]

/-- Members are read in the order in which they were written, by induction on them. -/
theorem scanMembers_written {numbers : NumberReader} {good : PyStr × Json → Json → Prop}
    {order : List (PyStr × Json)}
    (reads : ∀ field ∈ order, Reads numbers field.2 (good field))
    (basic : ∀ field ∈ order, ∀ c ∈ field.1, c.val < 0xd800) (nonempty : order ≠ [])
    {text : PyStr} (written : MembersWritten order text) {fields : List (PyStr × Json)}
    (distinct : (fields.map Prod.fst ++ order.map Prod.fst).Nodup) (rest : PyStr) {fuel : Nat}
    (enough : (text ++ rest).length ≤ fuel)
    : expect 0x7d (text ++ rest) = none
      ∧ ∃ start members,
          expect 0x22 (text ++ rest) = some start
          ∧ List.Forall₂ (fun field member => member.1 = field.1 ∧ good field member.2) order members
          ∧ scanMembers numbers fuel fields start = some (.obj (fields ++ members), rest) := by
  induction order generalizing text fields fuel with
  | nil => exact absurd rfl nonempty
  | cons field others ih =>
      obtain ⟨key, value⟩ := field
      obtain ⟨readsValue, readsOthers⟩ := List.forall_mem_cons.mp reads
      obtain ⟨basicKey, basicOthers⟩ := List.forall_mem_cons.mp basic
      -- both kinds of member begin with a gap and the quotation mark of the key
      have opened {gap : PyStr} (blank : Blank gap) (code : Nat) (tail : PyStr)
          : expect code (gap ++ asText (pyQuote key) ++ tail)
            = if 0x22 = code then
                some (asText (body (key.flatMap pyEscape)) ++ 0x22 :: tail)
              else
                none := by
        rw [asText_pyQuote, List.append_assoc, List.cons_append, List.append_assoc,
          expect_gap blank (by decide)]
        rfl
      have spare {gap before after tail : PyStr}
          (room : (gap ++ asText (pyQuote key) ++ (before ++ 0x3a :: (after ++ tail))).length ≤ fuel)
          : ∃ less, fuel = less + 1 ∧ tail.length ≤ less := by
        simp only [List.length_append, List.length_cons] at room
        exact ⟨fuel - 1, by omega, by omega⟩
      have fresh : key ∉ fields.map Prod.fst := by
        intro member
        exact (List.nodup_append.mp distinct).2.2 key member key (.head _) rfl
      cases written with
      | @last _ _ valueText gap before after close blank blankBefore blankAfter blankClose
          writtenValue =>
          have shape : gap ++ asText (pyQuote key) ++ before
                ++ 0x3a :: (after ++ valueText ++ close ++ [0x7d]) ++ rest
              = gap ++ asText (pyQuote key)
                ++ (before ++ 0x3a :: (after ++ (valueText ++ (close ++ 0x7d :: rest)))) := by
            simp only [List.append_assoc, List.cons_append, List.nil_append]
          rw [shape] at enough ⊢
          obtain ⟨less, rfl, fits⟩ := spare enough
          obtain ⟨found, isGood, scanned⟩ := scanMembers_member readsValue basicKey blankBefore
            blankAfter writtenValue fields fits
          rw [expect_gap blankClose (by decide), if_pos (by decide)] at scanned
          refine ⟨by rw [opened blank, if_neg (by decide)], _, [(key, found)],
            by rw [opened blank, if_pos rfl], .cons ⟨rfl, isGood⟩ .nil, ?_⟩
          rw [scanned, setItem_new fresh]
      | @more _ _ _ valueText othersText gap before after close blank blankBefore blankAfter
          blankClose writtenValue remaining present =>
          have shape : gap ++ asText (pyQuote key) ++ before
                ++ 0x3a :: (after ++ valueText ++ close ++ 0x2c :: othersText) ++ rest
              = gap ++ asText (pyQuote key)
                ++ (before
                  ++ 0x3a :: (after ++ (valueText ++ (close ++ 0x2c :: (othersText ++ rest))))) := by
            simp only [List.append_assoc, List.cons_append]
          rw [shape] at enough ⊢
          obtain ⟨less, rfl, fits⟩ := spare enough
          obtain ⟨found, isGood, scanned⟩ := scanMembers_member readsValue basicKey blankBefore
            blankAfter writtenValue fields fits
          have later : (othersText ++ rest).length ≤ less := by
            simp only [List.length_append, List.length_cons] at fits ⊢
            omega
          have apart : ((fields ++ [(key, found)]).map Prod.fst ++ others.map Prod.fst).Nodup := by
            rwa [List.map_append, List.append_assoc]
          obtain ⟨_, start, members, continues, found', read⟩ :=
            ih readsOthers basicOthers present remaining apart later
          rw [expect_gap blankClose (by decide), if_neg (by decide),
            expect_gap blankClose (by decide), if_pos (by decide)] at scanned
          refine ⟨by rw [opened blank, if_neg (by decide)], _, (key, found) :: members,
            by rw [opened blank, if_pos rfl], .cons ⟨rfl, isGood⟩ found', ?_⟩
          rw [scanned, setItem_new fresh]
          simp only [bind, Option.bind, continues, read, List.append_assoc, List.singleton_append]

/-- What an object is read as: the same keys, in some order, with what their values are read as. -/
def ReadObject (good : PyStr × Json → Json → Prop) (fields : List (PyStr × Json)) (found : Json)
    : Prop :=
  ∃ order members,
    found = .obj members
    ∧ order.Perm fields
    ∧ List.Forall₂ (fun field member => member.1 = field.1 ∧ good field member.2) order members

theorem reads_obj {numbers : NumberReader} {good : PyStr × Json → Json → Prop}
    {fields : List (PyStr × Json)} (reads : ∀ field ∈ fields, Reads numbers field.2 (good field))
    (basic : ∀ field ∈ fields, ∀ c ∈ field.1, c.val < 0xd800) (nonempty : fields ≠ [])
    (distinct : (fields.map Prod.fst).Nodup)
    : Reads numbers (.obj fields) (ReadObject good fields) := by
  intro text writing
  cases writing with
  | @obj _ order text same written =>
      refine ⟨⟨_, _, rfl, by decide⟩, ?_⟩
      intro rest fuel enough
      obtain ⟨less, rfl, fits⟩ : ∃ less, fuel = less + 1 ∧ (text ++ rest).length ≤ less := by
        rw [List.cons_append, List.length_cons] at enough
        exact ⟨fuel - 1, by omega, by omega⟩
      have present : order ≠ [] := by
        rintro rfl
        exact nonempty same.symm.eq_nil
      have apart : (([] : List (PyStr × Json)).map Prod.fst ++ order.map Prod.fst).Nodup :=
        (same.map Prod.fst).nodup_iff.mpr distinct
      obtain ⟨unclosed, start, members, opened, found, scanned⟩ :=
        scanMembers_written (fun field member => reads field (same.mem_iff.mp member))
          (fun field member => basic field (same.mem_iff.mp member)) present written apart rest fits
      refine ⟨.obj members, ⟨order, members, rfl, same, found⟩, ?_⟩
      rw [List.cons_append, scanOnce, if_neg (by decide), if_pos (by decide), unclosed]
      simp only [bind, Option.bind, opened, scanned, List.nil_append]

/-- A written value is read from its text, with blanks around it. -/
theorem loads_written {numbers : NumberReader} {value : Json} {good : Json → Prop}
    (reads : Reads numbers value good) {text : PyStr} (written : Written value text)
    (visible : text.head? ≠ some 0xfeff) {gap : PyStr} (blank : Blank gap)
    : ∃ found, good found ∧ loads numbers (text ++ gap) = some found := by
  obtain ⟨⟨head, tail, rfl, unblank⟩, read⟩ := reads text written
  obtain ⟨found, isGood, scanned⟩ := read gap _ (Nat.le_refl _)
  refine ⟨found, isGood, ?_⟩
  have ended : skipBlanks gap = [] := by
    rw [← List.append_nil gap, skipBlanks_gap blank]
    rfl
  have unmarked : (head :: tail ++ gap).head? ≠ some 0xfeff := visible
  rw [loads, if_neg unmarked, List.cons_append, skipBlanks_head unblank, ← List.cons_append, scanned]
  dsimp only
  rw [if_pos ended]

/-- An object whose values were read without a trace is written as before: sorting the keys undoes
the order in which they came.
-/
theorem dumps_readObject {good : PyStr × Json → Json → Prop} {fields : List (PyStr × Json)}
    (distinct : (fields.map Prod.fst).Nodup)
    (kept : ∀ field ∈ fields, ∀ value, good field value → value.dumps = field.2.dumps)
    {found : Json} (read : ReadObject good fields found)
    : found.dumps = (Json.obj fields).dumps := by
  obtain ⟨order, members, rfl, same, values⟩ := read
  have texts : fieldTexts members = fieldTexts order := by
    rw [fieldTexts_eq_map, fieldTexts_eq_map]
    have known : ∀ field ∈ order, ∀ value, good field value → value.dumps = field.2.dumps :=
      fun field member => kept field (same.mem_iff.mp member)
    clear same kept
    induction values with
    | nil => rfl
    | cons first _ ih =>
        obtain ⟨knownFirst, knownRest⟩ := List.forall_mem_cons.mp known
        rw [List.map_cons, List.map_cons, first.1, knownFirst _ first.2, ih knownRest]
  have sorted : sortByKey (fieldTexts order) = sortByKey (fieldTexts fields) := by
    rw [fieldTexts_eq_map, fieldTexts_eq_map]
    refine sortByKey_eq_of_perm (same.map _) ?_
    rw [List.map_map]
    exact (same.map Prod.fst).nodup_iff.mpr distinct
  rw [Json.dumps, Json.dumps, texts, sorted]

/-- A member that was read is found under its key. -/
theorem lookup_members {good : PyStr × Json → Json → Prop} {order members : List (PyStr × Json)}
    (values : List.Forall₂ (fun field member => member.1 = field.1 ∧ good field member.2)
      order members)
    {key : PyStr} {value : Json} (found : order.lookup key = some value)
    : ∃ received, members.lookup key = some received ∧ good (key, value) received := by
  induction values with
  | nil => cases found
  | @cons field member order members first _ ih =>
      obtain ⟨other, stored⟩ := field
      obtain ⟨named, read⟩ := member
      obtain ⟨sameKey, isGood⟩ := first
      dsimp only at sameKey
      subst sameKey
      rw [List.lookup_cons] at found ⊢
      split at found
      · next same =>
          cases found
          rw [beq_iff_eq] at same
          subst same
          exact ⟨read, rfl, isGood⟩
      · exact ih found

/-- A string that was read is written as before. -/
theorem dumps_mergePairs (text : PyStr) : (Json.str (mergePairs text)).dumps = (Json.str text).dumps := by
  rw [Json.dumps, Json.dumps, pyQuote, pyQuote, escapes_mergePairs]

-----------------------------------------------------------------------------------------
-- The compact text is one of the written ones
-----------------------------------------------------------------------------------------

theorem blank_nil : Blank [] :=
  nofun

/-- Members in a given order, without blanks. -/
theorem membersWritten_compact {order : List (PyStr × Json)}
    (written : ∀ field ∈ order, Written field.2 (asText field.2.dumps))
    : MembersWritten order
        (asText (List.intercalate [0x2c]
          (order.map fun field => memberText (field.1, field.2.dumps)) ++ [0x7d])) := by
  induction order with
  | nil => exact .none blank_nil
  | cons field rest ih =>
      obtain ⟨writtenField, writtenRest⟩ := List.forall_mem_cons.mp written
      cases rest with
      | nil =>
          have last := @MembersWritten.last field.1 field.2 _ [] [] [] [] blank_nil blank_nil
            blank_nil blank_nil writtenField
          simpa [memberText, List.intercalate] using last
      | cons next others =>
          have more := @MembersWritten.more field.1 field.2 (next :: others) _ _ [] [] [] []
            blank_nil blank_nil blank_nil blank_nil writtenField (ih writtenRest)
            (List.cons_ne_nil _ _)
          simpa [memberText, List.intercalate] using more

/-- Items without blanks. -/
theorem itemsWritten_compact {items : List Json}
    (written : ∀ item ∈ items, Written item (asText item.dumps))
    : ItemsWritten items
        (asText (List.intercalate [0x2c] (items.map Json.dumps) ++ [0x5d])) := by
  induction items with
  | nil => exact .none blank_nil
  | cons item rest ih =>
      obtain ⟨writtenItem, writtenRest⟩ := List.forall_mem_cons.mp written
      cases rest with
      | nil =>
          have last := @ItemsWritten.last item _ [] [] blank_nil blank_nil writtenItem
          simpa [List.intercalate] using last
      | cons next others =>
          have more := @ItemsWritten.more item (next :: others) _ _ [] [] blank_nil blank_nil
            writtenItem (ih writtenRest) (List.cons_ne_nil _ _)
          simpa [List.intercalate] using more

theorem itemTexts_eq_map (items : List Json) : itemTexts items = items.map Json.dumps := by
  induction items with
  | nil => rfl
  | cons item rest ih => rw [itemTexts, List.map_cons, ih]

mutual
/-- `json.dumps` with sorted keys and compact separators writes one of these texts. -/
theorem written_dumps : ∀ value : Json, Written value (asText value.dumps)
  | .null => .null
  | .bool value => .bool value
  | .int value => .int value
  | .float value => .float value
  | .str text => .str text
  | .arr items => by
      have compact := itemsWritten_compact (written_items items)
      rw [← itemTexts_eq_map] at compact
      exact .arr compact
  | .obj fields => by
      have sorted := membersWritten_compact fun field member =>
        written_fields fields field ((sortByKey_perm fields).mem_iff.mp member)
      rw [Json.dumps, sortByKey_fieldTexts, List.map_map]
      exact .obj (sortByKey_perm fields) sorted

theorem written_items : ∀ items : List Json, ∀ item ∈ items, Written item (asText item.dumps)
  | [], _, member => nomatch member
  | first :: rest, item, member => by
      rcases List.mem_cons.mp member with same | later
      · rw [same]
        exact written_dumps first
      · exact written_items rest item later

theorem written_fields
    : ∀ fields : List (PyStr × Json), ∀ field ∈ fields, Written field.2 (asText field.2.dumps)
  | [], _, member => nomatch member
  | (key, value) :: rest, field, member => by
      rcases List.mem_cons.mp member with same | later
      · rw [same]
        exact written_dumps value
      · exact written_fields rest field later
end

-----------------------------------------------------------------------------------------
-- Values that reading does not change
-----------------------------------------------------------------------------------------

/-- What was read once is read unchanged: it is written as before. -/
theorem mergePairs_mergePairs (text : PyStr) : mergePairs (mergePairs text) = mergePairs text := by
  have again := scanString_body (mergePairs text) []
  rw [escapes_mergePairs, scanString_body] at again
  exact (congrArg Prod.fst (Option.some.inj again)).symm

theorem mergePairs_ne_nil {text : PyStr} (nonempty : text ≠ []) : mergePairs text ≠ [] := by
  match text with
  | [] => exact absurd rfl nonempty
  | [c] => exact List.cons_ne_nil _ _
  | c :: d :: rest =>
      rw [mergePairs]
      split <;> exact List.cons_ne_nil _ _

/-- An object of values that are read unchanged is read with the same members, in some order. -/
theorem reads_perm {numbers : NumberReader} {fields : List (PyStr × Json)}
    (reads : ∀ field ∈ fields, Reads numbers field.2 (· = field.2))
    (basic : ∀ field ∈ fields, ∀ c ∈ field.1, c.val < 0xd800) (nonempty : fields ≠ [])
    (distinct : (fields.map Prod.fst).Nodup)
    : Reads numbers (.obj fields)
        (fun found => ∃ members, found = .obj members ∧ members.Perm fields) := by
  refine (@reads_obj numbers (fun field value => value = field.2) fields reads basic nonempty
    distinct).imp ?_
  rintro found ⟨order, members, rfl, same, values⟩
  refine ⟨members, rfl, ?_⟩
  have kept : order = members := by
    clear same
    induction values with
    | nil => rfl
    | cons first _ ih => rw [ih, Prod.ext first.1 first.2]
  rw [← kept]
  exact same

/-- Other orders of members are read from the same texts. -/
theorem Written.perm {fields members : List (PyStr × Json)} (same : members.Perm fields)
    {text : PyStr} (written : Written (.obj members) text)
    : Written (.obj fields) text := by
  cases written with
  | obj order written => exact .obj (order.trans same) written

theorem get?_of_perm {fields members : List (PyStr × Json)} (same : members.Perm fields)
    (distinct : (fields.map Prod.fst).Nodup) (name : String)
    : Json.get? members name = Json.get? fields name := by
  have apart : (members.map Prod.fst).Nodup := (same.map Prod.fst).nodup_iff.mpr distinct
  have found {one other : List (PyStr × Json)} (perm : one.Perm other)
      (unique : (other.map Prod.fst).Nodup) {value : Json}
      (here : one.lookup (py name) = some value)
      : other.lookup (py name) = some value := by
    obtain ⟨before, after, shape, _⟩ := List.lookup_eq_some_iff.mp here
    refine lookup_of_mem unique (perm.mem_iff.mp ?_)
    rw [shape]
    exact List.mem_append_right _ (.head _)
  unfold Json.get?
  cases here : members.lookup (py name) with
  | some value => exact (found same distinct here).symm
  | none =>
      cases there : fields.lookup (py name) with
      | none => rfl
      | some value =>
          rw [found same.symm apart there] at here
          cases here

end Tarako.Lang
