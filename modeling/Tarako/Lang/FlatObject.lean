import Tarako.Lang.PythonJson

/-! Objects whose compact text determines them: every value is `true` or a string.
An arbitrary decoded value with the text of such an object has the same members.
-/

namespace Tarako.Lang

open JsonText

/-- Strings with one token sequence are equal when the second has only basic scalar values, or
both have only scalar values.
-/
theorem text_of_escapes_eq {text other : PyStr} (scalar : ∀ c ∈ other, c.IsScalar)
    (plain : (∀ c ∈ text, c.IsScalar) ∨ ∀ c ∈ other, c.val < 0x10000)
    (same : text.flatMap pyEscape = other.flatMap pyEscape)
    : text = other := by
  induction text generalizing other with
  | nil =>
      cases other with
      | nil => rfl
      | cons d rest => simp [pyEscape_ne_nil d] at same
  | cons c text ih =>
      cases other with
      | nil => simp [pyEscape_ne_nil c] at same
      | cons d rest =>
          simp only [List.flatMap_cons] at same
          simp only [List.forall_mem_cons] at scalar plain
          obtain ⟨rfl, tails⟩ := pyEscape_cancel scalar.1
            (plain.imp And.left And.left) same
          rw [ih scalar.2 (plain.imp And.right And.right) tails]

/-- The code points of a literal. -/
theorem py_basic (text : String)
    (low : text.toList.all (fun c => decide (c.toNat < 0xd800)) = true)
    : ∀ c ∈ py text, c.val < 0xd800 := by
  intro c member
  obtain ⟨char, inText, rfl⟩ := List.mem_map.mp member
  exact of_decide_eq_true (List.all_eq_true.mp low char inText)

/-- The code points of hexadecimal text. -/
theorem pyHex_basic (data : Bytes) : ∀ c ∈ pyHex data, c.val < 0xd800 := by
  intro c member
  obtain ⟨char, inText, rfl⟩ := List.mem_map.mp member
  obtain ⟨code, inCodes, rfl⟩ := List.mem_map.mp inText
  obtain ⟨value, small, rfl⟩ := HexText.encode_digits inCodes
  rw [(digit_char small).2.1]
  exact lt_trans (HexText.digit value).toNat_lt (by decide)

theorem intText_head (value : Int)
    : ∃ head tail, intText value = head :: tail ∧ head ∈ floatHeads := by
  have digits : ∀ d : Fin 10, UInt8.ofNat (48 + d) ∈ floatHeads := by decide
  unfold intText
  dsimp only
  by_cases negative : value < 0
  · rw [if_pos negative]
    exact ⟨_, _, rfl, by decide⟩
  · rw [if_neg negative]
    split
    · exact ⟨_, _, rfl, by decide⟩
    · next nonzero =>
        have nonempty : Nat.digits 10 value.natAbs ≠ [] := Nat.digits_ne_nil_iff_ne_zero.mpr nonzero
        obtain ⟨first, rest, reversed⟩ := List.exists_cons_of_ne_nil
          (List.reverse_ne_nil_iff.mpr nonempty)
        have small : first < 10 := by
          refine Nat.digits_lt_base (by decide) (m := value.natAbs) ?_
          rw [← List.mem_reverse, reversed]
          exact List.mem_cons_self ..
        exact ⟨_, _, by rw [reversed, List.map_cons], digits ⟨first, small⟩⟩

/-- The first bytes of numbers, `null`, `false` and arrays. -/
def otherHeads : Bytes :=
  ascii "0123456789-NInf["

theorem floatHeads_other {head : UInt8} (member : head ∈ floatHeads) : head ∈ otherHeads := by
  have all : floatHeads.all (fun head => decide (head ∈ otherHeads)) = true := by decide
  exact of_decide_eq_true (List.all_eq_true.mp all head member)

/-- The first byte tells strings, objects and `true` from everything else. -/
theorem dumps_head (value : Json)
    : ∃ head tail,
        value.dumps = head :: tail
        ∧ ((∃ text, value = .str text) ∧ head = 0x22
          ∨ (∃ fields, value = .obj fields) ∧ head = 0x7b
          ∨ value = .bool true ∧ head = 0x74
          ∨ head ∈ otherHeads) := by
  cases value with
  | null => exact ⟨_, _, rfl, .inr (.inr (.inr (by decide)))⟩
  | bool flag =>
      cases flag with
      | false => exact ⟨_, _, rfl, .inr (.inr (.inr (by decide)))⟩
      | true => exact ⟨_, _, rfl, .inr (.inr (.inl ⟨rfl, by decide⟩))⟩
  | int number =>
      obtain ⟨head, tail, text, member⟩ := intText_head number
      exact ⟨head, tail, text, .inr (.inr (.inr (floatHeads_other member)))⟩
  | float number =>
      obtain ⟨head, tail, text, member⟩ := number.text_head
      exact ⟨head, tail, text, .inr (.inr (.inr (floatHeads_other member)))⟩
  | str text => exact ⟨_, _, rfl, .inl ⟨⟨text, rfl⟩, rfl⟩⟩
  | arr items => exact ⟨0x5b, _, rfl, .inr (.inr (.inr (by decide)))⟩
  | obj fields => exact ⟨_, _, rfl, .inr (.inl ⟨⟨fields, rfl⟩, rfl⟩)⟩

section Heads

variable {value : Json} {left right : Bytes}

theorem str_of_head (same : value.dumps ++ left = 0x22 :: right)
    : ∃ text, value = .str text := by
  obtain ⟨head, tail, text, kind⟩ := dumps_head value
  rw [text, List.cons_append, List.cons.injEq] at same
  obtain ⟨rfl, _⟩ := same
  rcases kind with ⟨found, _⟩ | ⟨_, other⟩ | ⟨_, other⟩ | other
  · exact found
  all_goals exact absurd other (by decide)

theorem obj_of_head (same : value.dumps ++ left = 0x7b :: right)
    : ∃ fields, value = .obj fields := by
  obtain ⟨head, tail, text, kind⟩ := dumps_head value
  rw [text, List.cons_append, List.cons.injEq] at same
  obtain ⟨rfl, _⟩ := same
  rcases kind with ⟨_, other⟩ | ⟨found, _⟩ | ⟨_, other⟩ | other
  · exact absurd other (by decide)
  · exact found
  all_goals exact absurd other (by decide)

theorem true_of_head (same : value.dumps ++ left = 0x74 :: right)
    : value = .bool true := by
  obtain ⟨head, tail, text, kind⟩ := dumps_head value
  rw [text, List.cons_append, List.cons.injEq] at same
  obtain ⟨rfl, _⟩ := same
  rcases kind with ⟨_, other⟩ | ⟨_, other⟩ | ⟨found, _⟩ | other
  · exact absurd other (by decide)
  · exact absurd other (by decide)
  · exact found
  · exact absurd other (by decide)

end Heads

/-- A member whose text determines it: a key of basic scalar values, and `true` or a string. -/
structure FlatMember where
  key : PyStr
  value : Option PyStr
  basic : ∀ c ∈ key, c.val < 0xd800

def FlatMember.json (member : FlatMember) : Json :=
  match member.value with
  | none => .bool true
  | some text => .str text

/-- A field with the text of a flat member. -/
def Matches (field : PyStr × Json) (member : FlatMember) : Prop :=
  field.1 = member.key
  ∧ match member.value with
    | none => field.2 = .bool true
    | some text =>
        ∃ found, field.2 = .str found ∧ found.flatMap pyEscape = text.flatMap pyEscape

section Members

variable {fields : List (PyStr × Json)} {key : PyStr} {basic : ∀ c ∈ key, c.val < 0xd800}
  {rest : List FlatMember}

/-- A field that matches `true`, before the others. -/
theorem matches_cons_true (matched : List.Forall₂ Matches fields (⟨key, none, basic⟩ :: rest))
    : ∃ others, fields = (key, .bool true) :: others ∧ List.Forall₂ Matches others rest := by
  obtain ⟨⟨name, value⟩, others, ⟨sameKey, sameValue⟩, remaining, rfl⟩ :=
    List.forall₂_cons_right_iff.mp matched
  cases sameKey
  cases sameValue
  exact ⟨others, rfl, remaining⟩

/-- A field that matches a string, before the others. -/
theorem matches_cons_text {text : PyStr}
    (matched : List.Forall₂ Matches fields (⟨key, some text, basic⟩ :: rest))
    : ∃ found others,
        fields = (key, .str found) :: others
        ∧ found.flatMap pyEscape = text.flatMap pyEscape
        ∧ List.Forall₂ Matches others rest := by
  obtain ⟨⟨name, value⟩, others, ⟨sameKey, found, sameValue, tokens⟩, remaining, rfl⟩ :=
    List.forall₂_cons_right_iff.mp matched
  cases sameKey
  cases sameValue
  exact ⟨found, others, rfl, tokens, remaining⟩

/-- A string of basic scalar values is matched by itself only. -/
theorem matches_cons_basic {text : PyStr} (plain : ∀ c ∈ text, c.val < 0xd800)
    (matched : List.Forall₂ Matches fields (⟨key, some text, basic⟩ :: rest))
    : ∃ others, fields = (key, .str text) :: others ∧ List.Forall₂ Matches others rest := by
  obtain ⟨found, others, rfl, tokens, remaining⟩ := matches_cons_text matched
  have same : found = text :=
    text_of_escapes_eq (fun c inside => .inl (plain c inside))
      (.inr fun c inside => lt_trans (plain c inside) (by decide)) tokens
  rw [same]
  exact ⟨others, rfl, remaining⟩

end Members

/-- A member with the separator before it. -/
def fieldWord (field : PyStr × Json) : Bytes :=
  0x2c :: memberText (field.1, field.2.dumps)

def memberWord (member : FlatMember) : Bytes :=
  fieldWord (member.key, member.json)

theorem quote_cancel {text other : PyStr} {left right : Bytes}
    (same : pyQuote text ++ left = pyQuote other ++ right)
    : text.flatMap pyEscape = other.flatMap pyEscape ∧ left = right := by
  simp only [pyQuote, List.cons_append, List.append_assoc, List.cons.injEq, true_and,
    List.nil_append] at same
  exact body_cancel same

/-- A field cancels against a flat member with the same text. -/
theorem member_cancels : PrefixCode.Cancels fieldWord memberWord Matches := by
  intro field member left right same
  obtain ⟨key, value⟩ := field
  obtain ⟨expected, text?, basic⟩ := member
  simp only [memberWord, fieldWord, memberText, List.cons_append, List.append_assoc,
    List.cons.injEq, true_and] at same
  obtain ⟨keys, values⟩ := quote_cancel same
  have sameKey : key = expected :=
    text_of_escapes_eq (fun c inside => .inl (basic c inside))
      (.inr fun c inside => lt_trans (basic c inside) (by decide)) keys
  rw [List.cons.injEq] at values
  cases text? with
  | none =>
      have isTrue : value = .bool true := true_of_head values.2
      subst isTrue
      exact ⟨⟨sameKey, rfl⟩, List.append_cancel_left values.2⟩
  | some text =>
      obtain ⟨found, rfl⟩ := str_of_head values.2
      obtain ⟨tokens, rest⟩ := quote_cancel values.2
      exact ⟨⟨sameKey, found, rfl, tokens⟩, rest⟩

/-- The text of an object after its opening brace, with a separator in front. -/
theorem members_text (fields : List (PyStr × Bytes)) (nonempty : fields ≠ [])
    : 0x2c :: List.intercalate [0x2c] (fields.map memberText)
      = fields.flatMap (fun field => 0x2c :: memberText field) := by
  induction fields with
  | nil => exact absurd rfl nonempty
  | cons field rest ih =>
      cases rest with
      | nil => simp [List.intercalate]
      | cons next rest =>
          have tail := ih (by simp)
          simp only [List.map_cons, List.flatMap_cons] at tail ⊢
          rw [← tail]
          simp [List.intercalate]

/-- The words of an object, in key order. -/
theorem dumps_words (fields : List (PyStr × Json)) (nonempty : fields ≠ [])
    : ∃ text,
        (Json.obj fields).dumps = 0x7b :: (text ++ [0x7d])
        ∧ 0x2c :: text = (sortByKey fields).flatMap fieldWord := by
  refine ⟨_, rfl, ?_⟩
  rw [sortByKey_fieldTexts, members_text, List.flatMap_map]
  · rfl
  · intro empty
    have length := (sortByKey_perm fields).length_eq
    rw [List.map_eq_nil_iff.mp empty] at length
    exact nonempty (List.length_eq_zero_iff.mp length.symm)

theorem fieldWord_avoids : PrefixCode.Avoids fieldWord 0x7d :=
  fun _ => ⟨0x2c, _, rfl, by decide⟩

/-- The fields of a flat object. -/
def flatFields (members : List FlatMember) : List (PyStr × Json) :=
  members.map (fun member => (member.key, member.json))

/-- A value with the text of a flat object, whose keys are in order, is an object with the
same members. Witness: both texts are sequences of cancelling words up to the closing brace.
-/
theorem obj_of_flat_text (members : List FlatMember) (nonempty : members ≠ [])
    (sorted : sortByKey (flatFields members) = flatFields members) {value : Json}
    (same : value.dumps = (Json.obj (flatFields members)).dumps)
    : ∃ fields, value = .obj fields ∧ List.Forall₂ Matches (sortByKey fields) members := by
  obtain ⟨text, expected, words⟩ := dumps_words (flatFields members) (by simpa [flatFields])
  rw [expected] at same
  have headed : value.dumps ++ [] = 0x7b :: (text ++ [0x7d]) := by rw [List.append_nil, same]
  obtain ⟨fields, rfl⟩ := obj_of_head headed
  refine ⟨fields, rfl, ?_⟩
  have wordsNonempty : text ≠ [] := by
    rintro rfl
    obtain ⟨member, rest, rfl⟩ := List.exists_cons_of_ne_nil nonempty
    rw [sorted] at words
    simp [flatFields, fieldWord, memberText, pyQuote] at words
  have present : fields ≠ [] := by
    rintro rfl
    have closed : (0x7d : UInt8) :: [] = text ++ [0x7d] := (List.cons.inj same).2
    exact wordsNonempty (List.append_cancel_right (closed.symm.trans (List.nil_append _).symm))
  obtain ⟨found, written, foundWords⟩ := dumps_words fields present
  rw [written, List.cons.injEq, List.append_left_inj] at same
  have all : (sortByKey fields).flatMap fieldWord ++ 0x7d :: []
      = members.flatMap memberWord ++ 0x7d :: [] := by
    rw [← foundWords, same.2, words, sorted, flatFields, List.flatMap_map]
    rfl
  exact (member_cancels.flatMap fieldWord_avoids (fun member => fieldWord_avoids _) all).1

end Tarako.Lang
