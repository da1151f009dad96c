import Mathlib.Data.List.Sort
import Mathlib.Data.Nat.Digits.Defs
import Tarako.Lang.JsonString

/-! JSON values as the Python services see them, and `json.dumps` with sorted keys and
compact separators.
-/

namespace Tarako.Lang

open JsonText

/-- The bytes a Python float's text may start with: a digit, a sign, `NaN` or `Infinity`. -/
def floatHeads : Bytes :=
  ascii "0123456789-NI"

/-- A Python float: its IEEE double and the text `json.dumps` writes for it. -/
structure PyFloat where
  bits : UInt64
  text : Bytes
  text_head : ∃ head tail, text = head :: tail ∧ head ∈ floatHeads

/-- A decoded JSON value. Object fields are in insertion order, as in a Python `dict`. -/
inductive Json
  | null
  | bool (value : Bool)
  | int (value : Int)
  | float (value : PyFloat)
  | str (text : PyStr)
  | arr (items : List Json)
  | obj (fields : List (PyStr × Json))

/-- Numbers as Python compares them: Booleans are integers, floats are exact doubles, and
infinities and NaN have no numerator.
-/
structure PyNumber where
  numerator : Option Int
  exponent : Int
deriving DecidableEq

/-- The exact value of a double as a signed multiple of a power of two. -/
def doubleNumber (bits : UInt64) : PyNumber :=
  let n : Nat := bits.toNat
  let fraction : Nat := n % 2 ^ 52
  let biased : Nat := n / 2 ^ 52 % 2 ^ 11
  let signed (m : Nat) : Int := if n / 2 ^ 63 = 1 then -(m : Int) else m
  if biased = 2047 then
    ⟨none, 0⟩
  else if biased = 0 then
    ⟨some (signed fraction), -1074⟩
  else
    ⟨some (signed (fraction + 2 ^ 52)), (biased : Int) - 1075⟩

/-- Finite numbers are equal when their values over a common power of two are. -/
def PyNumber.eq (a b : PyNumber) : Bool :=
  match a.numerator, b.numerator with
  | some x, some y =>
      x * 2 ^ (a.exponent + 1074).toNat == y * 2 ^ (b.exponent + 1074).toNat
  | _, _ => false

/-- The numeric values of Python's number tower that JSON can produce. -/
def Json.number? : Json → Option PyNumber
  | .bool value => some ⟨some (if value then 1 else 0), 0⟩
  | .int value => some ⟨some value, 0⟩
  | .float value => some (doubleNumber value.bits)
  | _ => none

/-- Equal infinities have equal bits; NaN differs from everything. -/
def PyFloat.sameInfinity (a b : PyFloat) : Bool :=
  a.bits == b.bits && (a.bits.toNat % 2 ^ 63 == 2047 * 2 ^ 52)

mutual
/-- Python's `==` on decoded JSON values. -/
def Json.eq : Json → Json → Bool
  | .null, .null => true
  | .str a, .str b => decide (a = b)
  | .arr a, .arr b => itemsEq a b
  | .obj a, .obj b => a.length == b.length && fieldsEq a b
  | .float a, .float b => a.sameInfinity b || (doubleNumber a.bits).eq (doubleNumber b.bits)
  | a, b =>
      match a.number?, b.number? with
      | some x, some y => x.eq y
      | _, _ => false

def itemsEq : List Json → List Json → Bool
  | [], [] => true
  | a :: as, b :: bs => a.eq b && itemsEq as bs
  | _, _ => false

def fieldsEq : List (PyStr × Json) → List (PyStr × Json) → Bool
  | [], _ => true
  | (key, value) :: rest, other =>
      (match other.lookup key with
        | some found => value.eq found
        | none => false)
      && fieldsEq rest other
end

/-- A string equals only the same string. -/
theorem Json.eq_str {value : Json} {text : PyStr} (same : value.eq (.str text) = true)
    : value = .str text := by
  cases value with
  | str other =>
      simp only [Json.eq, decide_eq_true_eq] at same
      rw [same]
  | null | arr _ | obj _ | float _ | bool _ | int _ => simp [Json.eq, Json.number?] at same

theorem Json.str_eq {value : Json} {text : PyStr} (same : (Json.str text).eq value = true)
    : value = .str text := by
  cases value with
  | str other =>
      simp only [Json.eq, decide_eq_true_eq] at same
      rw [same]
  | null | arr _ | obj _ | float _ | bool _ | int _ => simp [Json.eq, Json.number?] at same

/-- `dict.get`; `none` is Python's `None` default. -/
def Json.get? (fields : List (PyStr × Json)) (key : String) : Option Json :=
  fields.lookup (py key)

/-- Python orders strings by code points. -/
def keyLe : PyStr → PyStr → Bool
  | [], _ => true
  | _ :: _, [] => false
  | a :: as, b :: bs => decide (a < b) || (a == b && keyLe as bs)

/-- Fields in key order. -/
def sortByKey {α : Type} (fields : List (PyStr × α)) : List (PyStr × α) :=
  fields.insertionSort (fun a b => keyLe a.1 b.1 = true)

/-- Decimal text of an integer. -/
def intText (value : Int) : Bytes :=
  let digits : Bytes :=
    if value.natAbs = 0 then
      [0x30]
    else
      (Nat.digits 10 value.natAbs).reverse.map (fun d => UInt8.ofNat (48 + d))
  if value < 0 then 0x2d :: digits else digits

/-- One object member. -/
def memberText (field : PyStr × Bytes) : Bytes :=
  pyQuote field.1 ++ 0x3a :: field.2

mutual
/-- `json.dumps(value, sort_keys=True, separators=(",", ":")).encode()`. -/
def Json.dumps : Json → Bytes
  | .null => ascii "null"
  | .bool true => ascii "true"
  | .bool false => ascii "false"
  | .int value => intText value
  | .float value => value.text
  | .str text => pyQuote text
  | .arr items => 0x5b :: (List.intercalate [0x2c] (itemTexts items) ++ [0x5d])
  | .obj fields =>
      0x7b
        :: (List.intercalate [0x2c] ((sortByKey (fieldTexts fields)).map memberText) ++ [0x7d])

def itemTexts : List Json → List Bytes
  | [] => []
  | item :: rest => item.dumps :: itemTexts rest

def fieldTexts : List (PyStr × Json) → List (PyStr × Bytes)
  | [] => []
  | (key, value) :: rest => (key, value.dumps) :: fieldTexts rest
end

/-- Member texts are taken field by field. -/
theorem fieldTexts_eq_map (fields : List (PyStr × Json))
    : fieldTexts fields = fields.map (fun field => (field.1, field.2.dumps)) := by
  induction fields with
  | nil => rfl
  | cons field rest ih => simp [fieldTexts, ih]

/-- Sorting looks at keys only, so it commutes with writing the values. -/
theorem sortByKey_fieldTexts (fields : List (PyStr × Json))
    : sortByKey (fieldTexts fields)
      = (sortByKey fields).map (fun field => (field.1, field.2.dumps)) := by
  rw [fieldTexts_eq_map]
  exact (List.map_insertionSort (r := fun a b : PyStr × Json => keyLe a.1 b.1 = true)
    (s := fun a b : PyStr × Bytes => keyLe a.1 b.1 = true) _ fields
    (fun _ _ _ _ => Iff.rfl)).symm

theorem sortByKey_perm {α : Type} (fields : List (PyStr × α))
    : (sortByKey fields).Perm fields :=
  List.perm_insertionSort _ fields

/-- A lookup among distinct keys finds the member with that key. -/
theorem lookup_of_mem {fields : List (PyStr × Json)} (distinct : (fields.map Prod.fst).Nodup)
    {key : PyStr} {value : Json} (member : (key, value) ∈ fields)
    : fields.lookup key = some value := by
  induction fields with
  | nil => cases member
  | cons field rest ih =>
      obtain ⟨other, found⟩ := field
      simp only [List.map_cons, List.nodup_cons] at distinct
      rcases List.mem_cons.mp member with same | inside
      · cases same
        exact List.lookup_cons_self
      · have differs : (key == other) = false := by
          rw [beq_eq_false_iff_ne]
          rintro rfl
          exact distinct.1 (List.mem_map.mpr ⟨_, inside, rfl⟩)
        rw [List.lookup_cons, differs]
        exact ih distinct.2 inside

/-- Code points order strings totally, by induction on the first string. -/
theorem keyLe_total (first second : PyStr)
    : keyLe first second = true ∨ keyLe second first = true := by
  induction first generalizing second with
  | nil => exact .inl rfl
  | cons a as ih =>
      cases second with
      | nil => exact .inr rfl
      | cons b bs =>
          simp only [keyLe, Bool.or_eq_true, decide_eq_true_eq, Bool.and_eq_true, beq_iff_eq]
          rcases lt_trichotomy a b with less | same | more
          · exact .inl (.inl less)
          · exact (ih bs).imp (fun le => .inr ⟨same, le⟩) fun le => .inr ⟨same.symm, le⟩
          · exact .inr (.inl more)

theorem keyLe_trans {first second third : PyStr} (low : keyLe first second = true)
    (high : keyLe second third = true)
    : keyLe first third = true := by
  induction first generalizing second third with
  | nil => rfl
  | cons a as ih =>
      cases second with
      | nil => cases low
      | cons b bs =>
          cases third with
          | nil => cases high
          | cons c cs =>
              simp only [keyLe, Bool.or_eq_true, decide_eq_true_eq, Bool.and_eq_true,
                beq_iff_eq] at low high ⊢
              rcases low with less | ⟨rfl, rest⟩
              · rcases high with more | ⟨rfl, _⟩
                · exact .inl (lt_trans less more)
                · exact .inl less
              · exact high.imp id fun later => ⟨later.1, ih rest later.2⟩

theorem keyLe_antisymm {first second : PyStr} (low : keyLe first second = true)
    (high : keyLe second first = true)
    : first = second := by
  induction first generalizing second with
  | nil =>
      cases second with
      | nil => rfl
      | cons => cases high
  | cons a as ih =>
      cases second with
      | nil => cases low
      | cons b bs =>
          simp only [keyLe, Bool.or_eq_true, decide_eq_true_eq, Bool.and_eq_true,
            beq_iff_eq] at low high
          rcases low with less | ⟨rfl, rest⟩
          · rcases high with more | ⟨rfl, _⟩
            · exact absurd more (lt_asymm less)
            · exact absurd less (lt_irrefl _)
          · rcases high with more | ⟨_, later⟩
            · exact absurd more (lt_irrefl _)
            · rw [ih rest later]

/-- Equal members with distinct keys are sorted alike, whatever order they come in. -/
theorem sortByKey_eq_of_perm {α : Type} {first second : List (PyStr × α)}
    (same : first.Perm second) (distinct : (first.map Prod.fst).Nodup)
    : sortByKey first = sortByKey second := by
  have total : Std.Total (fun a b : PyStr × α => keyLe a.1 b.1 = true) :=
    ⟨fun a b => keyLe_total a.1 b.1⟩
  have trans : IsTrans (PyStr × α) (fun a b : PyStr × α => keyLe a.1 b.1 = true) :=
    ⟨fun _ _ _ => keyLe_trans⟩
  refine List.Perm.eq_of_pairwise ?_ (List.pairwise_insertionSort _ first)
    (List.pairwise_insertionSort _ second)
    ((sortByKey_perm first).trans (same.trans (sortByKey_perm second).symm))
  intro a b inFirst inSecond low high
  have left := (sortByKey_perm first).mem_iff.mp inFirst
  have right := same.mem_iff.mpr ((sortByKey_perm second).mem_iff.mp inSecond)
  exact List.inj_on_of_nodup_map distinct left right (keyLe_antisymm low high)

end Tarako.Lang
