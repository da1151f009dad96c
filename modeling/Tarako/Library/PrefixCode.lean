import Mathlib.Data.List.Forall2

/-! Codes whose words can be cancelled from the front of a text.
Two encoders may be compared: the relation says which of their letters share a word.
-/

namespace PrefixCode

variable {α β γ : Type*}

/-- Words of `f` and `g` at the front of equal texts belong to related letters and end at
the same place. With `f = g` and equality this is the usual prefix-free property.
-/
def Cancels (f : α → List γ) (g : β → List γ) (related : α → β → Prop) : Prop :=
  ∀ a b left right, f a ++ left = g b ++ right → related a b ∧ left = right

/-- Every word is nonempty and does not start with the closing symbol. -/
def Avoids (f : α → List γ) (stop : γ) : Prop :=
  ∀ a, ∃ head tail, f a = head :: tail ∧ head ≠ stop

/-- Two closed texts over cancelling codes spell related letters and leave the same rest.
Witness: induction on both spellings; a closing symbol never starts a word.
-/
theorem Cancels.flatMap {f : α → List γ} {g : β → List γ} {related : α → β → Prop}
    (cancels : Cancels f g related) {stop : γ} (leftWords : Avoids f stop)
    (rightWords : Avoids g stop) {as : List α} {bs : List β} {left right : List γ}
    (same : as.flatMap f ++ stop :: left = bs.flatMap g ++ stop :: right)
    : List.Forall₂ related as bs ∧ left = right := by
  induction as generalizing bs with
  | nil =>
      cases bs with
      | nil => exact ⟨.nil, by simpa using same⟩
      | cons b bs =>
          obtain ⟨head, tail, word, other⟩ := rightWords b
          simp only [List.flatMap_nil, List.nil_append, List.flatMap_cons, word,
            List.cons_append, List.cons.injEq] at same
          exact absurd same.1.symm other
  | cons a as ih =>
      cases bs with
      | nil =>
          obtain ⟨head, tail, word, other⟩ := leftWords a
          simp only [List.flatMap_nil, List.nil_append, List.flatMap_cons, word,
            List.cons_append, List.cons.injEq] at same
          exact absurd same.1 other
      | cons b bs =>
          simp only [List.flatMap_cons, List.append_assoc] at same
          obtain ⟨first, rest⟩ := cancels a b _ _ same
          obtain ⟨others, closed⟩ := ih rest
          exact ⟨.cons first others, closed⟩

/-- Two whole texts over cancelling codes with nonempty words spell related letters, by
induction on both spellings.
-/
theorem Cancels.flatMap_whole {f : α → List γ} {g : β → List γ} {related : α → β → Prop}
    (cancels : Cancels f g related) (leftWords : ∀ a, f a ≠ []) (rightWords : ∀ b, g b ≠ [])
    {as : List α} {bs : List β} (same : as.flatMap f = bs.flatMap g)
    : List.Forall₂ related as bs := by
  induction as generalizing bs with
  | nil =>
      cases bs with
      | nil => exact .nil
      | cons b bs => simp [rightWords b] at same
  | cons a as ih =>
      cases bs with
      | nil => simp [leftWords a] at same
      | cons b bs =>
          simp only [List.flatMap_cons] at same
          obtain ⟨first, rest⟩ := cancels a b _ _ same
          exact .cons first (ih rest)

/-- A single cancelling code is injective on closed texts, letter by letter. -/
theorem Cancels.flatMap_inj {f : α → List γ} (cancels : Cancels f f Eq) {stop : γ}
    (words : Avoids f stop) {as bs : List α} {left right : List γ}
    (same : as.flatMap f ++ stop :: left = bs.flatMap f ++ stop :: right)
    : as = bs ∧ left = right := by
  obtain ⟨letters, closed⟩ := cancels.flatMap words words same
  exact ⟨List.forall₂_eq_eq_eq ▸ letters, closed⟩

end PrefixCode
