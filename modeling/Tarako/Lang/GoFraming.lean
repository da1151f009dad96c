import Tarako.Lang.GoDecoder
import Mathlib.Data.List.TakeWhile

/-! Where a value of a stream ends: at the bracket that closes its first one, strings left out.
So a decoder that reads a stream up to a limit refuses an object that the limit cuts.
-/

namespace Tarako.Lang

open JsonText

/-- Outside of strings, inside of one, or after a backslash there. -/
inductive Mode
  | plain
  | quoted
  | escaped
deriving DecidableEq

def opens (c : CodePoint) : Bool :=
  c.val == 0x7b || c.val == 0x5b

def closes (c : CodePoint) : Bool :=
  c.val == 0x7d || c.val == 0x5d

/-- What follows the bracket that closes the outermost of the open ones, by quotation marks,
backslashes and brackets alone.
-/
def skim : Nat → Mode → PyStr → Option PyStr
  | _, _, [] => none
  | depth, .escaped, _ :: rest => skim depth .quoted rest
  | depth, .quoted, c :: rest =>
      if c.val = 0x22 then skim depth .plain rest
      else if c.val = 0x5c then skim depth .escaped rest
      else skim depth .quoted rest
  | depth, .plain, c :: rest =>
      if c.val = 0x22 then skim depth .quoted rest
      else if opens c then skim (depth + 1) .plain rest
      else if closes c then
        match depth with
        | 0 => some rest
        | depth + 1 => skim depth .plain rest
      else skim depth .plain rest

/-- The same after a closing bracket. -/
def skimClosed : Nat → PyStr → Option PyStr
  | 0, rest => some rest
  | depth + 1, rest => skim depth .plain rest

/-- More text behind the end changes nothing before it. -/
theorem skim_append {depth : Nat} {mode : Mode} {text rest : PyStr}
    (ended : skim depth mode text = some rest) (more : PyStr)
    : skim depth mode (text ++ more) = some (rest ++ more) := by
  induction text generalizing depth mode with
  | nil => cases ended
  | cons c text ih =>
      cases mode with
      | escaped => exact ih ended
      | quoted =>
          simp only [List.cons_append, skim] at ended ⊢
          split_ifs at ended ⊢
          · exact ih ended
          · exact ih ended
          · exact ih ended
      | plain =>
          simp only [List.cons_append, skim] at ended ⊢
          split_ifs at ended ⊢
          · exact ih ended
          · exact ih ended
          · cases depth with
            | zero =>
                cases ended
                rfl
            | succ depth => exact ih ended
          · exact ih ended

-----------------------------------------------------------------------------------------
-- Single characters and strings
-----------------------------------------------------------------------------------------

/-- Neither a quotation mark nor a bracket. -/
def Neutral (c : CodePoint) : Prop :=
  c.val ≠ 0x22 ∧ opens c = false ∧ closes c = false

theorem skim_neutral {c : CodePoint} (neutral : Neutral c) (depth : Nat) (rest : PyStr)
    : skim depth .plain (c :: rest) = skim depth .plain rest := by
  simp [skim, neutral.1, neutral.2.1, neutral.2.2]

theorem skim_neutrals {skipped : PyStr} (neutral : ∀ c ∈ skipped, Neutral c) (depth : Nat)
    (rest : PyStr)
    : skim depth .plain (skipped ++ rest) = skim depth .plain rest := by
  induction skipped with
  | nil => rfl
  | cons c skipped ih =>
      obtain ⟨first, others⟩ := List.forall_mem_cons.mp neutral
      rw [List.cons_append, skim_neutral first, ih others]

theorem skim_close {c : CodePoint} (closing : closes c = true) (depth : Nat) (rest : PyStr)
    : skim depth .plain (c :: rest) = skimClosed depth rest := by
  have unquoted : c.val ≠ 0x22 := by
    intro quote
    simp [closes, quote] at closing
  have unopened : opens c = false := by
    simp only [closes, Bool.or_eq_true, beq_iff_eq] at closing
    simp only [opens, Bool.or_eq_false_iff, beq_eq_false_iff_ne]
    omega
  cases depth <;> simp [skim, skimClosed, unquoted, unopened, closing]

theorem neutral_of_blank {c : CodePoint} (blank : isBlank c = true) : Neutral c := by
  simp only [isBlank, Bool.or_eq_true, beq_iff_eq] at blank
  simp only [Neutral, opens, closes, Bool.or_eq_false_iff, beq_eq_false_iff_ne]
  omega

theorem skim_skipBlanks (depth : Nat) (text : PyStr)
    : skim depth .plain (skipBlanks text) = skim depth .plain text := by
  conv => rhs; rw [← List.takeWhile_append_dropWhile (p := isBlank) (l := text)]
  exact (skim_neutrals (fun c member => neutral_of_blank (List.mem_takeWhile_imp member)) depth _).symm

/-- An expected character is the first one that is not blank. -/
theorem skim_expect {code : Nat} {text rest : PyStr} (found : expect code text = some rest)
    (depth : Nat)
    : ∃ c, c.val = code ∧ skim depth .plain text = skim depth .plain (c :: rest) := by
  rw [← skim_skipBlanks]
  unfold expect at found
  split at found
  · next c after shape =>
      split_ifs at found with same
      cases found
      exact ⟨c, same, by rw [shape]⟩
  · cases found

/-- The bytes that a rune takes after its first one are outside of ASCII. -/
def TailOutside (rest : PyStr) (decoded : Char × Nat) : Prop :=
  ∀ byte ∈ rest.take (decoded.2 - 1), 0x80 ≤ byte.val

theorem tailOutside_ite {rest : PyStr} {condition : Prop} [Decidable condition]
    {found other : Char × Nat} (holds : condition → TailOutside rest found)
    (fails : TailOutside rest other)
    : TailOutside rest (if condition then found else other) := by
  by_cases decided : condition
  · rw [if_pos decided]
    exact holds decided
  · rw [if_neg decided]
    exact fails

theorem decodeRune_tail (c : CodePoint) (rest : PyStr)
    : TailOutside rest (decodeRune (c :: rest)) := by
  have bound {low high : Nat} {byte : CodePoint} (inside : continues low high byte = true)
      (least : 0x80 ≤ low)
      : 0x80 ≤ byte.val := by
    simp only [continues, Bool.and_eq_true, decide_eq_true_eq] at inside
    omega
  have two (b1 : CodePoint) (more : PyStr) : TailOutside (b1 :: more) (decodeRune.two c b1) := by
    refine tailOutside_ite (fun second => ?_) ?_
    · simpa [TailOutside] using bound second.2.2 (by decide)
    · simp [TailOutside]
  have shorter (b1 b2 : CodePoint) (more others : PyStr)
      : TailOutside (b1 :: b2 :: more) (decodeRune.shorter c (b1 :: b2 :: others)) := by
    refine tailOutside_ite (fun third => ?_) (two b1 (b2 :: more))
    have first := bound third.2.2.1 (by split <;> decide)
    have last := bound third.2.2.2 (by decide)
    simpa [TailOutside] using ⟨first, last⟩
  match rest with
  | [] => simp [TailOutside]
  | [b1] => exact two b1 []
  | [b1, b2] => exact shorter b1 b2 [] []
  | b1 :: b2 :: b3 :: more =>
      refine tailOutside_ite (fun fourth => ?_) (shorter b1 b2 (b3 :: more) [])
      have first := bound fourth.2.2.1 (by split <;> decide)
      have second := bound fourth.2.2.2.1 (by decide)
      have third := bound fourth.2.2.2.2 (by decide)
      simpa [TailOutside] using ⟨first, second, third⟩

/-- Inside of strings only quotation marks and backslashes count. -/
theorem skim_quoted {skipped : PyStr}
    (ordinary : ∀ c ∈ skipped, c.val ≠ 0x22 ∧ c.val ≠ 0x5c) (depth : Nat) (rest : PyStr)
    : skim depth .quoted (skipped ++ rest) = skim depth .quoted rest := by
  induction skipped with
  | nil => rfl
  | cons c skipped ih =>
      obtain ⟨first, others⟩ := List.forall_mem_cons.mp ordinary
      rw [List.cons_append, skim, if_neg first.1, if_neg first.2, ih others]

theorem digit_ordinary {c : CodePoint} {value : Nat} (read : HexText.digitValue? c.val = some value)
    : c.val ≠ 0x22 ∧ c.val ≠ 0x5c := by
  constructor <;>
  · intro same
    rw [same] at read
    cases read

/-- A sixteen-bit escape is skipped. -/
theorem skim_unitEscape {text : PyStr} {code : Nat} (read : unitEscape? text = some (some code))
    (depth : Nat)
    : skim depth .quoted text = skim depth .quoted (text.drop 6) := by
  unfold unitEscape? at read
  split at read
  · next backslash letter d0 d1 d2 d3 rest =>
      split at read
      · next escape =>
          have digits := Option.some.inj read
          unfold unit? at digits
          split at digits
          · next h0 h1 h2 h3 =>
              have ordinary : ∀ c ∈ [d0, d1, d2, d3], c.val ≠ 0x22 ∧ c.val ≠ 0x5c := by
                simp only [List.forall_mem_cons]
                exact ⟨digit_ordinary h0, digit_ordinary h1, digit_ordinary h2, digit_ordinary h3,
                  nofun⟩
              rw [skim, if_neg (by omega), if_pos escape.1, skim]
              exact skim_quoted ordinary depth rest
          · cases digits
      · cases read
  · cases read

theorem prependRune_eq_some {rune : Char} {scanned : Option (GoString × PyStr)} {read : GoString}
    {rest : PyStr} (found : prependRune rune scanned = some (read, rest))
    : ∃ tail, scanned = some (tail, rest) := by
  obtain ⟨⟨tail, left⟩, here, shape⟩ := Option.map_eq_some_iff.mp found
  cases shape
  exact ⟨tail, here⟩

/-- A string ends at its closing quotation mark, by induction on the length of the text. -/
theorem skim_goScanString {text rest : PyStr} {read : GoString}
    (scanned : goScanString text = some (read, rest)) (depth : Nat)
    : skim depth .quoted text = skim depth .plain rest := by
  induction length : text.length using Nat.strong_induction_on generalizing text read with
  | _ size ih =>
      have later {left : PyStr} {tail : GoString} (found : goScanString left = some (tail, rest))
          (shorter : left.length < size)
          : skim depth .quoted left = skim depth .plain rest :=
        ih left.length shorter found rfl
      rw [goScanString.eq_def] at scanned
      match text with
      | [] => cases scanned
      | c :: text =>
          rw [List.length_cons] at length
          dsimp only at scanned
          rw [skim]
          by_cases closing : c.val = 0x22
          · rw [if_pos closing] at scanned ⊢
            cases scanned
            rfl
          rw [if_neg closing] at scanned ⊢
          by_cases backslash : c.val = 0x5c
          · rw [if_pos backslash] at scanned ⊢
            match text with
            | [] => cases scanned
            | letter :: after =>
                rw [List.length_cons] at length
                have shorter (count : Nat) : (after.drop count).length < size := by
                  rw [List.length_drop]
                  omega
                dsimp only at scanned
                split_ifs at scanned with isUnit
                · split at scanned
                  · next code escape =>
                      have skipped := skim_unitEscape escape depth
                      rw [skim, if_neg closing, if_pos backslash] at skipped
                      rw [skipped]
                      change skim depth .quoted (after.drop 4) = _
                      split at scanned
                      · next low paired =>
                          obtain ⟨tail, found⟩ := prependRune_eq_some scanned
                          have second : unitEscape? (after.drop 4) = some (some low) := by
                            unfold lowHalf? at paired
                            split_ifs at paired
                            split at paired
                            · split_ifs at paired
                              cases paired
                              assumption
                            · cases paired
                          rw [skim_unitEscape second, List.drop_drop]
                          exact later found (shorter 10)
                      · obtain ⟨tail, found⟩ := prependRune_eq_some scanned
                        exact later found (shorter 4)
                  · cases scanned
                · split at scanned
                  · cases scanned
                  · obtain ⟨tail, found⟩ := prependRune_eq_some scanned
                    exact later found (by omega)
          · rw [if_neg backslash] at scanned ⊢
            split_ifs at scanned with control ascii
            · obtain ⟨tail, found⟩ := prependRune_eq_some scanned
              exact later found (by omega)
            · obtain ⟨tail, found⟩ := prependRune_eq_some scanned
              have outside := decodeRune_tail c text
              rw [← List.take_append_drop ((decodeRune (c :: text)).2 - 1) text,
                skim_quoted (fun byte member => by have high := outside byte member; omega)]
              exact later found (by rw [List.length_drop]; omega)

-----------------------------------------------------------------------------------------
-- Values
-----------------------------------------------------------------------------------------

/-- A reader of neutral characters. -/
def SkipsNeutral (reader : PyStr → Option PyStr) : Prop :=
  ∀ text rest,
    reader text = some rest
    → ∀ depth, skim depth .plain text = skim depth .plain rest

theorem neutral_of_digit {c : CodePoint} (digit : isDigit c = true) : Neutral c := by
  simp only [isDigit, Bool.and_eq_true, decide_eq_true_eq] at digit
  simp only [Neutral, opens, closes, Bool.or_eq_false_iff, beq_eq_false_iff_ne]
  omega

theorem neutral_of_val {c : CodePoint} {code : Nat} (same : c.val = code)
    (other : code ≠ 0x22 ∧ code ≠ 0x7b ∧ code ≠ 0x5b ∧ code ≠ 0x7d ∧ code ≠ 0x5d)
    : Neutral c := by
  simp only [Neutral, opens, closes, Bool.or_eq_false_iff, beq_eq_false_iff_ne]
  omega

theorem digits?_neutral : SkipsNeutral digits? := by
  intro text rest read depth
  match text with
  | [] => cases read
  | c :: text =>
      simp only [digits?] at read
      split_ifs at read with digit
      cases read
      rw [skim_neutral (neutral_of_digit digit)]
      conv => lhs; rw [← List.takeWhile_append_dropWhile (p := isDigit) (l := text)]
      exact skim_neutrals (fun other member => neutral_of_digit (List.mem_takeWhile_imp member))
        depth _

theorem exponent?_neutral : SkipsNeutral exponent? := by
  intro text rest read depth
  match text with
  | [] =>
      cases read
      rfl
  | c :: text =>
      simp only [exponent?] at read
      split_ifs at read with letter
      · rw [skim_neutral (by rcases letter with same | same <;> exact neutral_of_val same (by decide))]
        split at read
        · next sign after =>
            split_ifs at read with signed
            · rw [skim_neutral
                (by rcases signed with same | same <;> exact neutral_of_val same (by decide))]
              exact digits?_neutral _ _ read depth
            · exact digits?_neutral _ _ read depth
        · cases read
      · cases read
        rfl

theorem fraction?_neutral : SkipsNeutral fraction? := by
  intro text rest read depth
  match text with
  | [] =>
      cases read
      rfl
  | c :: text =>
      simp only [fraction?] at read
      split_ifs at read with dot
      · obtain ⟨middle, digits, exponent⟩ := Option.bind_eq_some_iff.mp read
        rw [skim_neutral (neutral_of_val dot (by decide)), digits?_neutral _ _ digits depth]
        exact exponent?_neutral _ _ exponent depth
      · exact exponent?_neutral _ _ read depth

theorem goNumber?_neutral : SkipsNeutral goNumber? := by
  have unsigned (c : CodePoint) (after rest : PyStr)
      (read : (if c.val = 0x30 then fraction? after else (digits? (c :: after)).bind fraction?)
        = some rest)
      (depth : Nat)
      : skim depth .plain (c :: after) = skim depth .plain rest := by
    split_ifs at read with zero
    · rw [skim_neutral (neutral_of_val zero (by decide))]
      exact fraction?_neutral _ _ read depth
    · obtain ⟨middle, digits, fraction⟩ := Option.bind_eq_some_iff.mp read
      rw [digits?_neutral _ _ digits depth]
      exact fraction?_neutral _ _ fraction depth
  intro text rest read depth
  cases text with
  | nil => cases read
  | cons c text =>
      by_cases minus : c.val = 0x2d
      · rw [skim_neutral (neutral_of_val minus (by decide))]
        rw [goNumber?, if_pos minus] at read
        cases text with
        | nil => cases read
        | cons digit text => exact unsigned digit text rest read depth
      · rw [goNumber?, if_neg minus] at read
        exact unsigned c text rest read depth

theorem goLiteral?_neutral {text rest : PyStr} {value : GoValue}
    (read : goLiteral? text = some (value, rest)) (depth : Nat)
    : skim depth .plain text = skim depth .plain rest := by
  have literal {name : PyStr} (neutral : ∀ c ∈ name, Neutral c) (here : name.isPrefixOf text = true)
      : skim depth .plain text = skim depth .plain (text.drop name.length) := by
    obtain ⟨after, rfl⟩ := List.isPrefixOf_iff_prefix.mp here
    rw [List.drop_left, skim_neutrals neutral]
  have found : ∃ json, literal? text = some (json, rest) := by
    unfold goLiteral? at read
    split at read
    · next same =>
        cases read
        exact ⟨_, same⟩
    · next same =>
        cases read
        exact ⟨_, same⟩
    · cases read
  obtain ⟨json, found⟩ := found
  unfold literal? at found
  split_ifs at found with isNull isTrue isFalse <;> cases found
  · exact literal (by simp [py, PyStr.ofChars, codePoint, Neutral, opens, closes]) isNull
  · exact literal (by simp [py, PyStr.ofChars, codePoint, Neutral, opens, closes]) isTrue
  · exact literal (by simp [py, PyStr.ofChars, codePoint, Neutral, opens, closes]) isFalse

theorem skim_open {c : CodePoint} (opening : opens c = true) (depth : Nat) (rest : PyStr)
    : skim depth .plain (c :: rest) = skim (depth + 1) .plain rest := by
  have unquoted : c.val ≠ 0x22 := by
    intro quote
    simp [opens, quote] at opening
  simp [skim, unquoted, opening]

theorem skim_quote {c : CodePoint} (quote : c.val = 0x22) (depth : Nat) (rest : PyStr)
    : skim depth .plain (c :: rest) = skim depth .quoted rest := by
  simp [skim, quote]

/-- The scanners leave what the brackets leave, by induction on the fuel: a bracketed value, the
members and the items of one end with the bracket that closes it, and any value is skipped.
-/
theorem skim_goScan (fuel : Nat)
    : (∀ nesting c text value rest,
        opens c = true
        → goScan fuel nesting (c :: text) = some (value, rest)
        → ∀ depth, skim depth .plain text = skimClosed depth rest)
      ∧ (∀ nesting text value rest,
          goScan fuel nesting text = some (value, rest)
          → ∀ depth, skim depth .plain text = skim depth .plain rest)
      ∧ (∀ nesting members text value rest,
          goScanMembers fuel nesting members text = some (value, rest)
          → ∀ depth, skim depth .quoted text = skimClosed depth rest)
      ∧ ∀ nesting text value rest,
          goScanItems fuel nesting text = some (value, rest)
          → ∀ depth, skim depth .plain text = skimClosed depth rest := by
  induction fuel with
  | zero =>
      refine ⟨?_, ?_, ?_, ?_⟩
      · intro nesting c text value rest _ scanned
        rw [goScan.eq_def] at scanned
        cases scanned
      · intro nesting text value rest scanned
        rw [goScan.eq_def] at scanned
        cases scanned
      · intro nesting members text value rest scanned
        rw [goScanMembers.eq_def] at scanned
        cases scanned
      · intro nesting text value rest scanned
        rw [goScanItems.eq_def] at scanned
        cases scanned
  | succ fuel ih =>
      obtain ⟨_, scans, scansMembers, scansItems⟩ := ih
      have closing {code : Nat} (bracket : code = 0x7d ∨ code = 0x5d) {text after : PyStr}
          (found : expect code text = some after) (depth : Nat)
          : skim depth .plain text = skimClosed depth after := by
        obtain ⟨c, named, skipped⟩ := skim_expect found depth
        rw [skipped, skim_close (by simp only [closes, Bool.or_eq_true, beq_iff_eq]; omega)]
      have bracketed (nesting : Nat) (c : CodePoint) (text : PyStr) (value : GoValue) (rest : PyStr)
          (opening : opens c = true)
          (scanned : goScan (fuel + 1) nesting (c :: text) = some (value, rest)) (depth : Nat)
          : skim depth .plain text = skimClosed depth rest := by
        rw [goScan.eq_def] at scanned
        dsimp only at scanned
        simp only [opens, Bool.or_eq_true, beq_iff_eq] at opening
        split_ifs at scanned with quote brace bracket
        · omega
        · split at scanned
          · cases scanned
          · next found =>
              cases scanned
              exact closing (.inl rfl) found depth
          · obtain ⟨start, found, scanned⟩ := Option.bind_eq_some_iff.mp scanned
            obtain ⟨q, quoted, skipped⟩ := skim_expect found depth
            rw [skipped, skim_quote quoted]
            exact scansMembers _ _ _ _ _ scanned depth
        · split at scanned
          · cases scanned
          · next found =>
              cases scanned
              exact closing (.inr rfl) found depth
          · rw [← skim_skipBlanks]
            exact scansItems _ _ _ _ scanned depth
        · omega
      refine ⟨bracketed, ?_, ?_, ?_⟩
      · intro nesting text value rest scanned depth
        cases text with
        | nil =>
            rw [goScan.eq_def] at scanned
            cases scanned
        | cons c text =>
            by_cases opening : opens c = true
            · rw [skim_open opening]
              exact bracketed nesting c text value rest opening scanned (depth + 1)
            · rw [goScan.eq_def] at scanned
              dsimp only at scanned
              simp only [opens, Bool.or_eq_true, beq_iff_eq, not_or] at opening
              rw [if_neg opening.1, if_neg opening.2] at scanned
              split_ifs at scanned with quote
              · obtain ⟨⟨read, after⟩, found, shape⟩ := Option.map_eq_some_iff.mp scanned
                cases shape
                rw [skim_quote quote]
                exact skim_goScanString found depth
              · split at scanned
                · next found literal =>
                    cases scanned
                    exact goLiteral?_neutral literal depth
                · obtain ⟨after, found, shape⟩ := Option.map_eq_some_iff.mp scanned
                  cases shape
                  exact goNumber?_neutral _ _ found depth
      · intro nesting members text value rest scanned depth
        rw [goScanMembers.eq_def] at scanned
        obtain ⟨⟨key, afterKey⟩, foundKey, scanned⟩ := Option.bind_eq_some_iff.mp scanned
        obtain ⟨afterColon, foundColon, scanned⟩ := Option.bind_eq_some_iff.mp scanned
        obtain ⟨⟨item, afterItem⟩, foundItem, scanned⟩ := Option.bind_eq_some_iff.mp scanned
        obtain ⟨colon, isColon, skippedColon⟩ := skim_expect foundColon depth
        have skipped : skim depth .quoted text = skim depth .plain afterItem := by
          rw [skim_goScanString foundKey, skippedColon,
            skim_neutral (neutral_of_val isColon (by decide)), ← skim_skipBlanks]
          exact scans _ _ _ _ foundItem depth
        rw [skipped]
        dsimp only at scanned
        split at scanned
        · next found =>
            cases scanned
            exact closing (.inl rfl) found depth
        · obtain ⟨afterComma, foundComma, scanned⟩ := Option.bind_eq_some_iff.mp scanned
          obtain ⟨start, foundQuote, scanned⟩ := Option.bind_eq_some_iff.mp scanned
          obtain ⟨comma, isComma, skippedComma⟩ := skim_expect foundComma depth
          obtain ⟨quote, isQuote, skippedQuote⟩ := skim_expect foundQuote depth
          rw [skippedComma, skim_neutral (neutral_of_val isComma (by decide)), skippedQuote,
            skim_quote isQuote]
          exact scansMembers _ _ _ _ _ scanned depth
      · intro nesting text value rest scanned depth
        rw [goScanItems.eq_def] at scanned
        obtain ⟨⟨item, afterItem⟩, foundItem, scanned⟩ := Option.bind_eq_some_iff.mp scanned
        rw [scans _ _ _ _ foundItem depth]
        dsimp only at scanned
        split at scanned
        · next found =>
            cases scanned
            exact closing (.inr rfl) found depth
        · obtain ⟨afterComma, foundComma, scanned⟩ := Option.bind_eq_some_iff.mp scanned
          obtain ⟨comma, isComma, skippedComma⟩ := skim_expect foundComma depth
          rw [skippedComma, skim_neutral (neutral_of_val isComma (by decide)), ← skim_skipBlanks]
          exact scansItems _ _ _ _ scanned depth

/-- A bracketed value that is cut off cannot be read, whatever the fuel. -/
theorem goScan_cut {c : CodePoint} (opening : opens c = true) {seen more rest : PyStr}
    {value : GoValue} {fuel nesting : Nat}
    (scanned : goScan fuel nesting (c :: (seen ++ more)) = some (value, rest))
    (cut : rest.length < more.length) (fuel' nesting' : Nat)
    : goScan fuel' nesting' (c :: seen) = none := by
  cases early : goScan fuel' nesting' (c :: seen) with
  | none => rfl
  | some found =>
      obtain ⟨other, left⟩ := found
      have whole := (skim_goScan fuel).1 _ _ _ _ _ opening scanned 0
      have part := (skim_goScan fuel').1 _ _ _ _ _ opening early 0
      have longer := (skim_append part more).symm.trans whole
      have lengths := congrArg List.length (Option.some.inj longer)
      rw [List.length_append] at lengths
      omega

/-- An object with strings that Python wrote and that the limit cuts is refused. -/
theorem goDecodeValue_cut {fields : List (PyStr × PyStr)} (nonempty : fields ≠ [])
    {body : Bytes} {rest text : PyStr} (written : Written (.obj (stringFields fields)) text)
    (sent : asText body = text ++ rest) {limit : Nat} (cut : limit < text.length)
    : goDecodeValue limit body = none := by
  have read : asText (body.take limit) = text.take limit := by
    rw [asText, List.map_take, ← asText, sent, List.take_append_of_le_length (by omega)]
  cases written with
  | @obj _ order text same members =>
      obtain ⟨strings, reordered, rfl⟩ := perm_stringFields same
      have present : strings ≠ [] := by
        rintro rfl
        exact nonempty reordered.symm.eq_nil
      cases limit with
      | zero => rfl
      | succ limit =>
          rw [List.length_cons] at cut
          obtain ⟨unclosed, start, opened, scanned⟩ :=
            @goScanMembers_written strings present text members [] Ascii.nil [] (text ++ []).length 0
              (Nat.le_refl _)
          rw [List.append_nil] at unclosed opened scanned
          have whole : goScan (text.length + 1) 1 (0x7b :: text)
              = some (.obj (goMembers strings), []) := by
            rw [goScan.eq_def]
            dsimp only
            rw [if_neg (by decide), if_pos (by decide), unclosed]
            simp only [bind, Option.bind, opened, scanned, List.nil_append]
          rw [← List.take_append_drop limit text] at whole
          have refused := goScan_cut (show opens 0x7b = true by decide) whole
            (by simp only [List.length_nil, List.length_drop]; omega)
          rw [goDecodeValue, read, List.take_succ_cons, skipBlanks_head (by decide), refused]

end Tarako.Lang
