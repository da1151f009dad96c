import Mathlib.Data.List.Infix

/-! Texts as lines and as words, over any characters. A line ends at certain characters, where a
return followed by a feed is one end; a word is what stands between blanks.
-/

namespace TextLines

variable {Symbol : Type*}

/-- The characters that end lines. -/
structure LineEnds (Symbol : Type*) where
  ends : Symbol → Bool
  isReturn : Symbol → Bool
  isFeed : Symbol → Bool

/-- The lines of a text, from the begun line and whether a return was the last character. -/
def linesFrom (marks : LineEnds Symbol) (line : List Symbol) (returned : Bool)
    : List Symbol → List (List Symbol)
  | [] => if line.isEmpty then [] else [line]
  | c :: rest =>
      if returned && marks.isFeed c then
        linesFrom marks [] false rest
      else if marks.ends c then
        line :: linesFrom marks [] (marks.isReturn c) rest
      else
        linesFrom marks (line ++ [c]) false rest

/-- The lines of a text; the last one may lack its end. -/
def lines (marks : LineEnds Symbol) (text : List Symbol) : List (List Symbol) :=
  linesFrom marks [] false text

/-- The words of a text. -/
def words (blank : Symbol → Bool) (text : List Symbol) : List (List Symbol) :=
  (text.splitOnP blank).filter fun word => !word.isEmpty

variable {marks : LineEnds Symbol}

theorem linesFrom_append {feed : Symbol} (ending : marks.ends feed = true)
    (single : marks.isReturn feed = false) (text rest line : List Symbol) (returned : Bool)
    : linesFrom marks line returned (text ++ feed :: rest)
      = linesFrom marks line returned (text ++ [feed]) ++ linesFrom marks [] false rest := by
  induction text generalizing line returned with
  | nil =>
      simp only [List.nil_append, linesFrom, ending, single, if_true, List.isEmpty_nil]
      split_ifs <;> rfl
  | cons c text ih =>
      simp only [List.cons_append, linesFrom]
      split_ifs with pair ends
      · exact ih _ _
      · rw [ih, List.cons_append]
      · exact ih _ _

/-- After a feed, lines begin anew. -/
theorem lines_append {feed : Symbol} (ending : marks.ends feed = true)
    (single : marks.isReturn feed = false) (text rest : List Symbol)
    : lines marks (text ++ feed :: rest)
      = lines marks (text ++ [feed]) ++ lines marks rest :=
  linesFrom_append ending single text rest [] false

theorem linesFrom_one {feed : Symbol} (ending : marks.ends feed = true) {text : List Symbol}
    (inside : ∀ c ∈ text, marks.ends c = false) (line : List Symbol)
    : linesFrom marks line false (text ++ [feed]) = [line ++ text] := by
  induction text generalizing line with
  | nil => simp [linesFrom, ending]
  | cons c text ih =>
      obtain ⟨here, later⟩ := List.forall_mem_cons.mp inside
      simp only [List.cons_append, linesFrom, here, Bool.false_and, Bool.false_eq_true, if_false]
      rw [ih later, List.append_assoc, List.singleton_append]

/-- A text without ends is one line. -/
theorem lines_one {feed : Symbol} (ending : marks.ends feed = true) {text : List Symbol}
    (inside : ∀ c ∈ text, marks.ends c = false)
    : lines marks (text ++ [feed]) = [text] :=
  linesFrom_one ending inside []

theorem linesFrom_within {text line found : List Symbol} {returned : Bool}
    (member : found ∈ linesFrom marks line returned text)
    : found <:+: line ++ text := by
  induction text generalizing line returned with
  | nil =>
      rw [linesFrom] at member
      split_ifs at member
      · cases member
      · rw [List.mem_singleton.mp member, List.append_nil]
  | cons c text ih =>
      rw [linesFrom] at member
      split_ifs at member
      · exact (ih member).trans ⟨line ++ [c], [], by simp⟩
      · rcases List.mem_cons.mp member with rfl | later
        · exact List.infix_append' [] _ _
        · exact (ih later).trans ⟨line ++ [c], [], by simp⟩
      · simpa using ih member

/-- Every line stands in its text. -/
theorem lines_within {text found : List Symbol} (member : found ∈ lines marks text)
    : found <:+: text :=
  linesFrom_within member

variable {blank : Symbol → Bool}

theorem mem_intercalate {gap c : Symbol} {texts : List (List Symbol)}
    (member : c ∈ List.intercalate [gap] texts)
    : c = gap ∨ ∃ text ∈ texts, c ∈ text := by
  induction texts with
  | nil => cases member
  | cons text texts ih =>
      cases texts with
      | nil =>
          rw [List.intercalate_singleton] at member
          exact .inr ⟨text, .head _, member⟩
      | cons next texts =>
          rw [List.intercalate_cons_cons, List.mem_append, List.mem_append] at member
          rcases member with (here | between) | later
          · exact .inr ⟨text, .head _, here⟩
          · exact .inl (List.mem_singleton.mp between)
          · rcases ih later with same | ⟨other, found, inside⟩
            · exact .inl same
            · exact .inr ⟨other, .tail _ found, inside⟩

theorem infix_intercalate {gap text : List Symbol} {texts : List (List Symbol)}
    (member : text ∈ texts)
    : text <:+: List.intercalate gap texts := by
  induction texts with
  | nil => cases member
  | cons first texts ih =>
      cases texts with
      | nil => rw [List.mem_singleton.mp member, List.intercalate_singleton]
      | cons next texts =>
          rw [List.intercalate_cons_cons]
          rcases List.mem_cons.mp member with rfl | later
          · exact ((List.prefix_append _ _).trans (List.prefix_append _ _)).isInfix
          · exact (ih later).trans (List.suffix_append _ _).isInfix

end TextLines
