import Tarako.Lang.PythonDecoder

/-! Go's `encoding/json` decoder for a value at the front of a stream, and what it reads from
the texts of Python's encoder. The bytes of the stream are taken as code points of their value,
so that the tests of single characters are those of the Python reader.
-/

namespace Tarako.Lang

open JsonText

-----------------------------------------------------------------------------------------
-- Strings
-----------------------------------------------------------------------------------------

/-- A code as a rune: a surrogate becomes the replacement character. -/
def runeOf (code : Nat) : Char :=
  if isHigh code || isLow code then Char.ofNat 0xfffd else Char.ofNat code

/-- A byte that continues a UTF-8 sequence, within bounds that its first byte sets. -/
def continues (low high : Nat) (byte : CodePoint) : Bool :=
  low ≤ byte.val && byte.val ≤ high

/-- `utf8.DecodeRune`: the rune at the front and its width; an invalid sequence is one byte wide
and stands for the replacement character.
-/
def decodeRune : PyStr → Char × Nat
  | b0 :: b1 :: b2 :: b3 :: _ =>
      if 0xf0 ≤ b0.val ∧ b0.val ≤ 0xf4
          ∧ continues (if b0.val = 0xf0 then 0x90 else 0x80) (if b0.val = 0xf4 then 0x8f else 0xbf) b1
          ∧ continues 0x80 0xbf b2 ∧ continues 0x80 0xbf b3 then
        (Char.ofNat ((b0.val - 0xf0) * 0x40000 + (b1.val - 0x80) * 0x1000 + (b2.val - 0x80) * 0x40
          + (b3.val - 0x80)), 4)
      else
        shorter b0 [b1, b2]
  | b0 :: rest => shorter b0 rest
  | [] => (Char.ofNat 0xfffd, 1)
where
  shorter (b0 : CodePoint) (rest : PyStr) : Char × Nat :=
    match rest with
    | b1 :: b2 :: _ =>
        if 0xe0 ≤ b0.val ∧ b0.val ≤ 0xef
            ∧ continues (if b0.val = 0xe0 then 0xa0 else 0x80) (if b0.val = 0xed then 0x9f else 0xbf)
              b1
            ∧ continues 0x80 0xbf b2 then
          (Char.ofNat ((b0.val - 0xe0) * 0x1000 + (b1.val - 0x80) * 0x40 + (b2.val - 0x80)), 3)
        else
          two b0 b1
    | [b1] => two b0 b1
    | [] => (Char.ofNat 0xfffd, 1)
  two (b0 b1 : CodePoint) : Char × Nat :=
    if 0xc2 ≤ b0.val ∧ b0.val ≤ 0xdf ∧ continues 0x80 0xbf b1 then
      (Char.ofNat ((b0.val - 0xc0) * 0x40 + (b1.val - 0x80)), 2)
    else
      (Char.ofNat 0xfffd, 1)

/-- The low half of a surrogate pair whose high half was escaped before the text. -/
def lowHalf? (code : Nat) (text : PyStr) : Option Nat :=
  if isHigh code then
    match unitEscape? text with
    | some (some low) => if isLow low then some low else none
    | _ => none
  else
    none

def prependRune (rune : Char) (scanned : Option (GoString × PyStr))
    : Option (GoString × PyStr) :=
  scanned.map fun (text, rest) => (rune :: text, rest)

/-- A string after its opening quotation mark, and what follows it; `none` is a syntax error. -/
def goScanString (text : PyStr) : Option (GoString × PyStr) :=
  match text with
  | [] => none
  | c :: rest =>
      if c.val = 0x22 then
        some ([], rest)
      else if c.val = 0x5c then
        match rest with
        | [] => none
        | letter :: after =>
            if letter.val = 0x75 then
              match unitEscape? (c :: letter :: after) with
              | some (some code) =>
                  match lowHalf? code (after.drop 4) with
                  | some low => prependRune (runeOf (joinPair code low)) (goScanString (after.drop 10))
                  | none => prependRune (runeOf code) (goScanString (after.drop 4))
              | _ => none
            else
              match escaped? letter with
              | none => none
              | some code => prependRune (runeOf code) (goScanString after)
      else if c.val < 0x20 then
        none
      else if c.val < 0x80 then
        prependRune (runeOf c.val) (goScanString rest)
      else
        let (rune, width) := decodeRune (c :: rest)
        prependRune rune (goScanString (rest.drop (width - 1)))
termination_by text.length

-----------------------------------------------------------------------------------------
-- Values
-----------------------------------------------------------------------------------------

inductive GoValue
  | null
  | bool
  | number
  | str (text : GoString)
  | arr
  | obj (members : List (GoString × GoValue))

def isDigit (c : CodePoint) : Bool :=
  0x30 ≤ c.val && c.val ≤ 0x39

/-- One digit at least, and what follows the digits. -/
def digits? : PyStr → Option PyStr
  | c :: rest => if isDigit c then some (rest.dropWhile isDigit) else none
  | [] => none

/-- An exponent, if there is one. -/
def exponent? : PyStr → Option PyStr
  | c :: rest =>
      if c.val = 0x65 ∨ c.val = 0x45 then
        match rest with
        | sign :: after => if sign.val = 0x2b ∨ sign.val = 0x2d then digits? after else digits? rest
        | [] => none
      else
        some (c :: rest)
  | [] => some []

/-- A fraction, if there is one, and an exponent. -/
def fraction? : PyStr → Option PyStr
  | c :: rest => if c.val = 0x2e then (digits? rest).bind exponent? else exponent? (c :: rest)
  | [] => some []

/-- What follows a number; a leading zero stands alone. -/
def goNumber? (text : PyStr) : Option PyStr :=
  let unsigned :=
    match text with
    | c :: rest => if c.val = 0x2d then rest else text
    | [] => []
  match unsigned with
  | c :: rest => if c.val = 0x30 then fraction? rest else (digits? unsigned).bind fraction?
  | [] => none

/-- The three literals, and what follows them. -/
def goLiteral? (text : PyStr) : Option (GoValue × PyStr) :=
  match literal? text with
  | some (.null, rest) => some (.null, rest)
  | some (_, rest) => some (.bool, rest)
  | none => none

/-- The nesting that the scanner allows. -/
def maxNestingDepth : Nat := 10000

mutual
/-- The value at the front of a text. Every call reads something, so the length of a text is
enough fuel for it.
-/
def goScan : Nat → Nat → PyStr → Option (GoValue × PyStr)
  | 0, _, _ => none
  | _ + 1, _, [] => none
  | fuel + 1, depth, c :: rest =>
      if c.val = 0x22 then
        (goScanString rest).map fun (text, after) => (.str text, after)
      else if c.val = 0x7b then
        match depth, expect 0x7d rest with
        | 0, _ => none
        | _ + 1, some after => some (.obj [], after)
        | depth + 1, none => do goScanMembers fuel depth [] (← expect 0x22 rest)
      else if c.val = 0x5b then
        match depth, expect 0x5d rest with
        | 0, _ => none
        | _ + 1, some after => some (.arr, after)
        | depth + 1, none => goScanItems fuel depth (skipBlanks rest)
      else
        match goLiteral? (c :: rest) with
        | some found => some found
        | none => (goNumber? (c :: rest)).map fun after => (.number, after)

/-- The members of an object, from the key after an opening quotation mark on. -/
def goScanMembers : Nat → Nat → List (GoString × GoValue) → PyStr → Option (GoValue × PyStr)
  | 0, _, _, _ => none
  | fuel + 1, depth, members, text => do
      let (key, rest) ← goScanString text
      let rest ← expect 0x3a rest
      let (value, rest) ← goScan fuel depth (skipBlanks rest)
      match expect 0x7d rest with
      | some after => some (.obj (members ++ [(key, value)]), after)
      | none => do
          let rest ← expect 0x2c rest
          let rest ← expect 0x22 rest
          goScanMembers fuel depth (members ++ [(key, value)]) rest

def goScanItems : Nat → Nat → PyStr → Option (GoValue × PyStr)
  | 0, _, _ => none
  | fuel + 1, depth, text => do
      let (_, rest) ← goScan fuel depth text
      match expect 0x5d rest with
      | some after => some (.arr, after)
      | none => do
          let rest ← expect 0x2c rest
          goScanItems fuel depth (skipBlanks rest)
end

/-- Objects and arrays are complete with their last byte; of other values the decoder sees the end
only at what follows.
-/
def GoValue.closed : GoValue → Bool
  | .obj _ => true
  | .arr => true
  | _ => false

/-- The first value of a stream behind `http.MaxBytesReader`; what follows it is not looked at. -/
def goDecodeValue (limit : Nat) (body : Bytes) : Option GoValue :=
  let read := body.take limit
  match goScan read.length maxNestingDepth (skipBlanks (asText read)) with
  | some (value, rest) =>
      if value.closed || !rest.isEmpty || body.length ≤ limit then some value else none
  | none => none

/-- The names that the decoder takes for a field: case does not matter, for the two letters with
a third form neither does that.
-/
def foldRune (c : Char) : Char :=
  if 'a' ≤ c ∧ c ≤ 'z' then Char.ofNat (c.toNat - 0x20)
  else if c.toNat = 0x17f then 'S'
  else if c.toNat = 0x212a then 'K'
  else c

def foldName (name : GoString) : GoString :=
  name.map foldRune

-----------------------------------------------------------------------------------------
-- Reading what Python wrote
-----------------------------------------------------------------------------------------

/-- ASCII only. -/
def Ascii (text : PyStr) : Prop :=
  ∀ c ∈ text, c.val < 0x80

/-- The runes that Go reads where Python reads code points. -/
def runes (text : PyStr) : GoString :=
  text.map fun c => runeOf c.val

theorem prependRune_prepend (code : Nat) (bound : code < 0x110000)
    (scanned : Option (PyStr × PyStr))
    : prependRune (runeOf code) (scanned.map fun (text, rest) => (runes text, rest))
      = (prepend code scanned).map fun (text, rest) => (runes text, rest) := by
  cases scanned with
  | none => rfl
  | some found =>
      simp only [prependRune, prepend, Option.map_some, runes, List.map_cons, ofNat_code bound]

theorem Ascii.drop {text : PyStr} (plain : Ascii text) (count : Nat) : Ascii (text.drop count) :=
  fun c member => plain c (List.mem_of_mem_drop member)

theorem unit?_bound {d0 d1 d2 d3 : CodePoint} {code : Nat} (read : unit? d0 d1 d2 d3 = some code)
    : code < 0x10000 := by
  unfold unit? at read
  split at read
  · next v0 v1 v2 v3 h0 h1 h2 h3 =>
      cases read
      have b0 := HexText.digitValue?_lt h0
      have b1 := HexText.digitValue?_lt h1
      have b2 := HexText.digitValue?_lt h2
      have b3 := HexText.digitValue?_lt h3
      omega
  · cases read

theorem unitEscape?_bound {text : PyStr} {code : Nat}
    (read : unitEscape? text = some (some code))
    : code < 0x10000 := by
  unfold unitEscape? at read
  split at read
  · split at read
    · exact unit?_bound (Option.some.inj read)
    · cases read
  · cases read

theorem escaped?_bound {letter : CodePoint} {code : Nat} (read : escaped? letter = some code)
    : code < 0x80 := by
  unfold escaped? at read
  split_ifs at read <;> cases read <;> decide

/-- A malformed sixteen-bit escape is a syntax error. -/
theorem goScanString_malformed {text : PyStr} (malformed : unitEscape? text = some none)
    : goScanString text = none := by
  unfold unitEscape? at malformed
  split at malformed
  · next backslash letter d0 d1 d2 d3 rest =>
      split at malformed
      · next escape =>
          have read := Option.some.inj malformed
          rw [goScanString.eq_def]
          dsimp only
          rw [if_neg (by omega), if_pos escape.1, if_pos escape.2, unitEscape?, if_pos escape, read]
      · cases malformed
  · cases malformed

/-- A sixteen-bit escape, with what follows it read alike. -/
theorem goScanString_unit {code : Nat} (bound : code < 0x10000) {after : PyStr}
    (alone : goScanString (after.drop 4)
      = (scanString (after.drop 4)).map fun (read, rest) => (runes read, rest))
    (paired : goScanString (after.drop 10)
      = (scanString (after.drop 10)).map fun (read, rest) => (runes read, rest))
    : (match lowHalf? code (after.drop 4) with
        | some low => prependRune (runeOf (joinPair code low)) (goScanString (after.drop 10))
        | none => prependRune (runeOf code) (goScanString (after.drop 4)))
      = (if isHigh code then
          match unitEscape? (after.drop 4) with
          | some none => none
          | some (some low) =>
              if isLow low then
                prepend (joinPair code low) (scanString (after.drop 10))
              else
                prepend code (scanString (after.drop 4))
          | none => prepend code (scanString (after.drop 4))
        else
          prepend code (scanString (after.drop 4))).map
        fun (read, rest) => (runes read, rest) := by
  have single : prependRune (runeOf code) (goScanString (after.drop 4))
      = (prepend code (scanString (after.drop 4))).map fun (read, rest) => (runes read, rest) := by
    rw [alone]
    exact prependRune_prepend code (by omega) _
  unfold lowHalf?
  by_cases high : isHigh code = true
  · rw [if_pos high, if_pos high]
    cases next : unitEscape? (after.drop 4) with
    | none => exact single
    | some found =>
        cases found with
        | none =>
            dsimp only
            rw [goScanString_malformed next]
            rfl
        | some low =>
            dsimp only
            by_cases isSecond : isLow low = true
            · rw [if_pos isSecond, if_pos isSecond, paired]
              exact prependRune_prepend _ (joinPair_range high isSecond).2 _
            · rw [if_neg isSecond, if_neg isSecond]
              exact single
  · rw [if_neg high, if_neg high]
    exact single

/-- Go and Python read an ASCII text alike, but for surrogates that stand alone. The induction
is on the length of the text.
-/
theorem goScanString_ascii {text : PyStr} (plain : Ascii text)
    : goScanString text
      = (scanString text).map fun (read, rest) => (runes read, rest) := by
  induction length : text.length using Nat.strong_induction_on generalizing text with
  | _ size ih =>
      have later {rest : PyStr} (shorter : rest.length < size) (plainRest : Ascii rest)
          : goScanString rest = (scanString rest).map fun (read, rest) => (runes read, rest) :=
        ih rest.length shorter plainRest rfl
      rw [goScanString.eq_def, scanString.eq_def]
      match text with
      | [] => rfl
      | c :: rest =>
          have plainRest : Ascii rest := fun other member => plain other (.tail _ member)
          rw [List.length_cons] at length
          dsimp only
          by_cases closing : c.val = 0x22
          · rw [if_pos closing, if_pos closing]
            rfl
          rw [if_neg closing, if_neg closing]
          by_cases backslash : c.val = 0x5c
          · rw [if_pos backslash, if_pos backslash]
            match rest with
            | [] => rfl
            | letter :: after =>
                rw [List.length_cons] at length
                have plainAfter : Ascii after := fun other member => plainRest other (.tail _ member)
                have shorter (count : Nat) : (after.drop count).length < size := by
                  rw [List.length_drop]
                  omega
                dsimp only
                by_cases isUnit : letter.val = 0x75
                · rw [if_pos isUnit, if_pos isUnit]
                  cases first : unitEscape? (c :: letter :: after) with
                  | none => rfl
                  | some found =>
                      cases found with
                      | none => rfl
                      | some code =>
                          exact goScanString_unit (unitEscape?_bound first)
                            (later (shorter 4) (plainAfter.drop 4))
                            (later (shorter 10) (plainAfter.drop 10))
                · rw [if_neg isUnit, if_neg isUnit]
                  cases read : escaped? letter with
                  | none => rfl
                  | some code =>
                      have small := escaped?_bound read
                      dsimp only
                      rw [later (by omega) plainAfter]
                      exact prependRune_prepend code (by omega) _
          · rw [if_neg backslash, if_neg backslash]
            by_cases control : c.val < 0x20
            · rw [if_pos control, if_pos control]
              rfl
            · rw [if_neg control, if_neg control, if_pos (plain c (.head _)),
                later (by omega) plainRest]
              exact prependRune_prepend c.val c.isLt _

/-- Everything that the encoder writes for a string is ASCII. -/
theorem token_ascii {token : Token} (printable : Printable token) : Ascii (asText token.bytes) := by
  have digit (value : Nat) (small : value < 16) : (HexText.digit value).toNat < 0x80 := by
    have all : ∀ n : Fin 16, (HexText.digit n).toNat < 0x80 := by decide
    exact all ⟨value, small⟩
  intro c member
  obtain ⟨byte, inside, rfl⟩ := List.mem_map.mp member
  cases token with
  | plain scalar allowed =>
      rw [Token.bytes, utf8_printable printable.2] at inside
      rw [List.mem_singleton.mp inside]
      have range := printable.2
      simp only [UInt8.toNat_ofNat']
      omega
  | short escape =>
      simp only [Token.bytes, List.mem_cons, List.not_mem_nil, or_false] at inside
      rcases inside with rfl | rfl
      · decide
      · cases escape <;> decide
  | unit code =>
      have bound := code.isLt
      simp only [Token.bytes, unitDigits, List.mem_cons, List.not_mem_nil, or_false] at inside
      rcases inside with rfl | rfl | rfl | rfl | rfl | rfl
      · decide
      · decide
      · exact digit _ (by omega)
      · exact digit _ (by omega)
      · exact digit _ (by omega)
      · exact digit _ (by omega)

theorem Ascii.nil : Ascii [] :=
  nofun

theorem Ascii.cons {c : CodePoint} {rest : PyStr} (plain : Ascii rest) (first : c.val < 0x80)
    : Ascii (c :: rest) := by
  intro other member
  rcases List.mem_cons.mp member with rfl | inside
  · exact first
  · exact plain other inside

theorem Ascii.append {first second : PyStr} (plainFirst : Ascii first) (plainSecond : Ascii second)
    : Ascii (first ++ second) := by
  intro c member
  rcases List.mem_append.mp member with inside | inside
  · exact plainFirst c inside
  · exact plainSecond c inside

theorem body_ascii (text : PyStr) : Ascii (asText (body (text.flatMap pyEscape))) := by
  intro c member
  obtain ⟨byte, inside, rfl⟩ := List.mem_map.mp member
  obtain ⟨token, found, here⟩ := List.mem_flatMap.mp inside
  obtain ⟨code, _, escaped⟩ := List.mem_flatMap.mp found
  exact token_ascii (pyEscape_printable escaped) _ (List.mem_map.mpr ⟨byte, here, rfl⟩)

theorem pyQuote_ascii (text : PyStr) : Ascii (asText (pyQuote text)) := by
  rw [asText_pyQuote]
  exact ((body_ascii text).append (Ascii.nil.cons (by decide))).cons (by decide)

theorem blank_ascii {gap : PyStr} (blank : Blank gap) : Ascii gap := by
  intro c member
  have shown := blank c member
  simp only [isBlank, Bool.or_eq_true, beq_iff_eq] at shown
  omega

/-- The members of an object whose values are strings. -/
def stringFields (fields : List (PyStr × PyStr)) : List (PyStr × Json) :=
  fields.map fun (key, text) => (key, .str text)

theorem stringFields_keys (fields : List (PyStr × PyStr))
    : (stringFields fields).map Prod.fst = fields.map Prod.fst := by
  rw [stringFields, List.map_map]
  rfl

/-- What Go reads them as. -/
def goMembers (fields : List (PyStr × PyStr)) : List (GoString × GoValue) :=
  fields.map fun (key, text) => (runes (mergePairs key), .str (runes (mergePairs text)))

theorem goScanString_body (text : PyStr) {rest : PyStr} (plain : Ascii rest)
    : goScanString (asText (body (text.flatMap pyEscape)) ++ 0x22 :: rest)
      = some (runes (mergePairs text), rest) := by
  rw [goScanString_ascii ((body_ascii text).append (plain.cons (by decide))), scanString_body]
  rfl

/-- A quoted string at the front of a text. -/
theorem goScan_str (text : PyStr) {rest : PyStr} (plain : Ascii rest) {fuel depth : Nat}
    : goScan (fuel + 1) depth (asText (pyQuote text) ++ rest)
      = some (.str (runes (mergePairs text)), rest) := by
  rw [asText_pyQuote, List.cons_append, goScan.eq_def, List.append_assoc, List.singleton_append]
  dsimp only
  rw [if_pos (by decide), goScanString_body text plain]
  rfl

/-- One member is read up to what its value leaves. -/
theorem goScanMembers_member (key text : PyStr) {before after tail : PyStr}
    (blankBefore : Blank before) (blankAfter : Blank after) (plain : Ascii tail)
    (members : List (GoString × GoValue)) {fuel depth : Nat}
    : goScanMembers (fuel + 2) depth members
        (asText (body (key.flatMap pyEscape))
          ++ 0x22 :: (before ++ 0x3a :: (after ++ (asText (pyQuote text) ++ tail))))
      = (match expect 0x7d tail with
        | some rest =>
            some (.obj (members ++ goMembers [(key, text)]), rest)
        | none => do
            let rest ← expect 0x2c tail
            let rest ← expect 0x22 rest
            goScanMembers (fuel + 1) depth (members ++ goMembers [(key, text)]) rest) := by
  have valuePlain : Ascii (after ++ (asText (pyQuote text) ++ tail)) :=
    (blank_ascii blankAfter).append ((pyQuote_ascii text).append plain)
  have colonPlain : Ascii (before ++ 0x3a :: (after ++ (asText (pyQuote text) ++ tail))) :=
    (blank_ascii blankBefore).append (valuePlain.cons (by decide))
  have colon := expect_gap blankBefore (show isBlank 0x3a = false by decide) 0x3a
    (after ++ (asText (pyQuote text) ++ tail))
  rw [if_pos (by decide)] at colon
  have unblanked : skipBlanks (after ++ (asText (pyQuote text) ++ tail))
      = asText (pyQuote text) ++ tail := by
    rw [skipBlanks_gap blankAfter, asText_pyQuote, List.cons_append, skipBlanks_head (by decide)]
  rw [goScanMembers, goScanString_body key colonPlain]
  simp only [bind, Option.bind, colon, unblanked, goScan_str text plain]
  rfl

theorem MembersWritten.ascii {fields : List (PyStr × PyStr)} {text : PyStr}
    (written : MembersWritten (stringFields fields) text)
    : Ascii text := by
  have member {key value gap before after close : PyStr} {tail : PyStr} (blank : Blank gap)
      (blankBefore : Blank before) (blankAfter : Blank after) (blankClose : Blank close)
      (plain : Ascii tail)
      : Ascii (gap ++ asText (pyQuote key) ++ before
          ++ 0x3a :: (after ++ asText (pyQuote value) ++ close ++ tail)) := by
    have value := ((blank_ascii blankAfter).append (pyQuote_ascii value)).append
      (blank_ascii blankClose)
    exact (((blank_ascii blank).append (pyQuote_ascii key)).append
      (blank_ascii blankBefore)).append ((value.append plain).cons (by decide))
  induction fields generalizing text with
  | nil =>
      cases written with
      | none blank =>
          exact (blank_ascii blank).append (Ascii.nil.cons (by decide))
  | cons field rest ih =>
      cases rest with
      | nil =>
          cases written with
          | last blank blankBefore blankAfter blankClose writtenValue =>
              cases writtenValue
              exact member blank blankBefore blankAfter blankClose (Ascii.nil.cons (by decide))
          | more _ _ _ _ _ _ present => exact absurd rfl present
      | cons next others =>
          cases written with
          | more blank blankBefore blankAfter blankClose writtenValue remaining _ =>
              cases writtenValue
              exact member blank blankBefore blankAfter blankClose
                ((ih remaining).cons (by decide))

/-- Members with strings are read in the order in which they were written, by induction on
them.
-/
theorem goScanMembers_written {fields : List (PyStr × PyStr)} (nonempty : fields ≠ [])
    {text : PyStr} (written : MembersWritten (stringFields fields) text) {rest : PyStr}
    (plain : Ascii rest) (members : List (GoString × GoValue)) {fuel depth : Nat}
    (enough : (text ++ rest).length ≤ fuel)
    : expect 0x7d (text ++ rest) = none
      ∧ ∃ start,
          expect 0x22 (text ++ rest) = some start
          ∧ goScanMembers fuel depth members start
            = some (.obj (members ++ goMembers fields), rest) := by
  induction fields generalizing text members fuel with
  | nil => exact absurd rfl nonempty
  | cons field others ih =>
      obtain ⟨key, value⟩ := field
      have opened {gap : PyStr} (blank : Blank gap) (code : Nat) (tail : PyStr)
          : expect code (gap ++ asText (pyQuote key) ++ tail)
            = if 0x22 = code then
                some (asText (body (key.flatMap pyEscape)) ++ 0x22 :: tail)
              else
                none := by
        rw [asText_pyQuote, List.append_assoc, List.cons_append, List.append_assoc,
          expect_gap blank (by decide)]
        rfl
      have spare {gap before after close tail : PyStr}
          (room : (gap ++ asText (pyQuote key)
            ++ (before ++ 0x3a :: (after ++ (asText (pyQuote value) ++ (close ++ tail))))).length
            ≤ fuel)
          : ∃ less, fuel = less + 2 ∧ tail.length ≤ less + 1 := by
        simp only [asText_pyQuote, List.length_append, List.length_cons] at room
        exact ⟨fuel - 2, by omega, by omega⟩
      cases others with
      | nil =>
          cases written with
          | @last _ _ valueText gap before after close blank blankBefore blankAfter blankClose
              writtenValue =>
              cases writtenValue
              have shape : gap ++ asText (pyQuote key) ++ before
                    ++ 0x3a :: (after ++ asText (pyQuote value) ++ close ++ [0x7d]) ++ rest
                  = gap ++ asText (pyQuote key)
                    ++ (before
                      ++ 0x3a :: (after ++ (asText (pyQuote value) ++ (close ++ 0x7d :: rest)))) := by
                simp only [List.append_assoc, List.cons_append, List.nil_append]
              rw [shape] at enough ⊢
              obtain ⟨less, rfl, _⟩ := spare enough
              have closed : Ascii (close ++ 0x7d :: rest) :=
                (blank_ascii blankClose).append (plain.cons (by decide))
              have scanned := @goScanMembers_member key value before after _ blankBefore blankAfter
                closed members less depth
              rw [expect_gap blankClose (by decide), if_pos (by decide)] at scanned
              exact ⟨by rw [opened blank, if_neg (by decide)], _, by rw [opened blank, if_pos rfl],
                scanned⟩
          | more _ _ _ _ _ _ present => exact absurd rfl present
      | cons next others =>
          cases written with
          | @more _ _ _ valueText othersText gap before after close blank blankBefore blankAfter
              blankClose writtenValue remaining present =>
              cases writtenValue
              have shape : gap ++ asText (pyQuote key) ++ before
                    ++ 0x3a
                      :: (after ++ asText (pyQuote value) ++ close ++ 0x2c :: othersText) ++ rest
                  = gap ++ asText (pyQuote key)
                    ++ (before
                      ++ 0x3a :: (after ++ (asText (pyQuote value)
                        ++ (close ++ 0x2c :: (othersText ++ rest))))) := by
                simp only [List.append_assoc, List.cons_append]
              rw [shape] at enough ⊢
              obtain ⟨less, rfl, fits⟩ := spare enough
              have plainOthers := (MembersWritten.ascii remaining).append plain
              have followed : Ascii (close ++ 0x2c :: (othersText ++ rest)) :=
                (blank_ascii blankClose).append (plainOthers.cons (by decide))
              have scanned := @goScanMembers_member key value before after _ blankBefore blankAfter
                followed members less depth
              have later : (othersText ++ rest).length ≤ less + 1 := by
                rw [List.length_cons] at fits
                omega
              obtain ⟨_, start, continued, read⟩ := ih (List.cons_ne_nil _ _) remaining
                (members ++ goMembers [(key, value)]) later
              rw [expect_gap blankClose (by decide), if_neg (by decide),
                expect_gap blankClose (by decide), if_pos (by decide)] at scanned
              refine ⟨by rw [opened blank, if_neg (by decide)], _,
                by rw [opened blank, if_pos rfl], ?_⟩
              rw [scanned]
              simp only [bind, Option.bind, continued, read, List.append_assoc]
              rfl

/-- The string of a field, if it has one. -/
def fieldString : PyStr × Json → PyStr × PyStr
  | (key, .str text) => (key, text)
  | (key, _) => (key, [])

/-- Another order of members with strings is one of strings. -/
theorem perm_stringFields {order : List (PyStr × Json)} {fields : List (PyStr × PyStr)}
    (same : order.Perm (stringFields fields))
    : ∃ strings : List (PyStr × PyStr), strings.Perm fields ∧ order = stringFields strings := by
  have back : (stringFields fields).map fieldString = fields := by
    rw [stringFields, List.map_map]
    exact List.map_id'' (fun _ => rfl) fields
  refine ⟨order.map fieldString, ?_, ?_⟩
  · have mapped := same.map fieldString
    rwa [back] at mapped
  · rw [stringFields, List.map_map]
    refine (List.map_id order).symm.trans (List.map_congr_left fun field member => ?_)
    obtain ⟨⟨key, text⟩, _, rfl⟩ := List.mem_map.mp (same.mem_iff.mp member)
    rfl

/-- The object with strings that Python wrote, in the order in which its members came, whatever
blanks or further text follow it.
-/
theorem goDecodeValue_written {fields : List (PyStr × PyStr)} (nonempty : fields ≠ [])
    {body : Bytes} {rest text : PyStr} (written : Written (.obj (stringFields fields)) text)
    (plain : Ascii rest) (sent : asText body = text ++ rest) {limit : Nat}
    (fits : text.length ≤ limit)
    : ∃ order : List (PyStr × PyStr),
        order.Perm fields ∧ goDecodeValue limit body = some (.obj (goMembers order)) := by
  cases written with
  | @obj _ order text same members =>
      obtain ⟨strings, reordered, rfl⟩ := perm_stringFields same
      refine ⟨strings, reordered, ?_⟩
      have present : strings ≠ [] := by
        rintro rfl
        exact nonempty reordered.symm.eq_nil
      let seen := rest.take (limit - (0x7b :: text).length)
      have plainSeen : Ascii seen := fun c member => plain c (List.mem_of_mem_take member)
      have read : asText (body.take limit) = 0x7b :: (text ++ seen) := by
        rw [asText, List.map_take, ← asText, sent, List.take_append, List.take_of_length_le fits]
        rfl
      have length : (body.take limit).length = (text ++ seen).length + 1 := by
        have same := congrArg List.length read
        simpa [asText] using same
      obtain ⟨unclosed, start, opened, scanned⟩ :=
        @goScanMembers_written strings present text members seen plainSeen [] (text ++ seen).length
          9999 (Nat.le_refl _)
      have whole : goScan (body.take limit).length maxNestingDepth
          (skipBlanks (asText (body.take limit)))
          = some (.obj (goMembers strings), seen) := by
        rw [read, skipBlanks_head (by decide), length, goScan.eq_def, maxNestingDepth]
        dsimp only
        rw [if_neg (by decide), if_pos (by decide), unclosed]
        simp only [bind, Option.bind, opened, scanned, List.nil_append]
      rw [goDecodeValue, whole]
      rfl

end Tarako.Lang
