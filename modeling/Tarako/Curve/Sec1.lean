import Mathlib.FieldTheory.Finite.Basic
import Tarako.Curve.P256

/-! SEC1 decompression over P-256. The field prime is three modulo four, so a square root is a
power.
-/

namespace Tarako.P256

open WeierstrassCurve ShortWeierstrass LucasCertificate ByteDigits

/-- The right side of the curve equation. -/
def cubic (x : Nat) : Nat :=
  (x ^ 3 + a * x + b) % p

/-- The candidate for a square root. -/
def squareRoot (value : Nat) : Nat :=
  powMod p 256 value ((p + 1) / 4) 1

/-- The `y` coordinate over an `x` coordinate with the given parity. -/
def ordinate (x parity : Nat) : Option Nat :=
  let y := squareRoot (cubic x)
  if y * y % p = cubic x then
    some (if y % 2 = parity then y else (p - y) % p)
  else
    none

theorem cubic_cast (x : Nat) : (cubic x : ZMod p) = x ^ 3 + a * x + b := by
  rw [cubic, ZMod.natCast_mod]
  push_cast
  rfl

theorem squareRoot_lt (value : Nat) : squareRoot value < p := by
  rw [squareRoot, powMod_eq _ _ _ _ _ (by decide)]
  exact Nat.mod_lt _ (by decide)

theorem squareRoot_cast (value : Nat)
    : (squareRoot value : ZMod p) = (value : ZMod p) ^ ((p + 1) / 4) := by
  rw [squareRoot, powMod_eq _ _ _ _ _ (by decide), one_mul, ZMod.natCast_mod, Nat.cast_pow]

/-- The candidate is a root of every square, by Fermat's little theorem. -/
theorem squareRoot_sq {value : Nat} {v : ZMod p} (square : v ^ 2 = value)
    : (squareRoot value : ZMod p) ^ 2 = value := by
  rw [squareRoot_cast, ← square]
  by_cases zero : v = 0
  · rw [zero, zero_pow (by decide), zero_pow (by decide), zero_pow (by decide)]
  · calc
      ((v ^ 2) ^ ((p + 1) / 4)) ^ 2 = v ^ (p - 1 + 2) := by
        rw [← pow_mul, ← pow_mul]
        congr 1
      _ = v ^ 2 := by rw [pow_add, ZMod.pow_card_sub_one_eq_one zero, one_mul]

/-- A square root is found with its own parity: the candidate is that root or its negative. -/
theorem ordinate_eq {x : Nat} {v : ZMod p} (square : v ^ 2 = cubic x)
    : ordinate x (v.val % 2) = some v.val := by
  have root := squareRoot_sq square
  have bound := squareRoot_lt (cubic x)
  have value : (squareRoot (cubic x) : ZMod p).val = squareRoot (cubic x) :=
    ZMod.val_cast_of_lt bound
  have found : squareRoot (cubic x) * squareRoot (cubic x) % p = cubic x := by
    have reduced : cubic x < p := Nat.mod_lt _ (by decide)
    have squares : squareRoot (cubic x) * squareRoot (cubic x) % p = cubic x % p := by
      rw [← ZMod.natCast_eq_natCast_iff', Nat.cast_mul, ← sq, root]
    rw [squares, Nat.mod_eq_of_lt reduced]
  unfold ordinate
  dsimp only
  rw [if_pos found, Option.some.injEq]
  have sign : v = squareRoot (cubic x) ∨ v = -squareRoot (cubic x) :=
    sq_eq_sq_iff_eq_or_eq_neg.mp (square.trans root.symm)
  split
  · next parity =>
      rcases sign with same | opposite
      · rw [same, value]
      · rw [neg_val_parity opposite (by rw [value, parity]), value]
  · next parity =>
      rcases sign with same | opposite
      · rw [same, value] at parity
        exact absurd rfl parity
      · rw [opposite, ZMod.neg_val', value]

theorem discriminant_ne_zero : (curve p a b).Δ ≠ 0 := by
  have indivisible : ¬p ∣ 16 * (4 * a ^ 3 + 27 * b ^ 2) := by decide +kernel
  intro zero
  apply indivisible
  rw [← ZMod.natCast_eq_zero_iff]
  push_cast
  simp only [curve, WeierstrassCurve.Δ, WeierstrassCurve.b₂, WeierstrassCurve.b₄,
    WeierstrassCurve.b₆, WeierstrassCurve.b₈] at zero
  linear_combination -zero

theorem ordinate_sq {x parity y : Nat} (found : ordinate x parity = some y)
    : (y : ZMod p) ^ 2 = cubic x := by
  unfold ordinate at found
  dsimp only at found
  split at found
  · next square =>
      have root : (squareRoot (cubic x) : ZMod p) ^ 2 = cubic x := by
        rw [sq, ← Nat.cast_mul, ← ZMod.natCast_mod, square]
      split at found
      · rw [← Option.some.inj found, root]
      · rw [← Option.some.inj found, ZMod.natCast_mod,
          Nat.cast_sub (squareRoot_lt (cubic x)).le, ZMod.natCast_self, zero_sub, neg_sq, root]
  · cases found

/-- A found coordinate is on the curve, which has no singular points. -/
theorem ordinate_nonsingular {x parity y : Nat} (found : ordinate x parity = some y)
    : (curve p a b).Nonsingular (x : ZMod p) (y : ZMod p) := by
  rw [← Affine.equation_iff_nonsingular_of_Δ_ne_zero discriminant_ne_zero, Affine.equation_iff]
  have square := ordinate_sq found
  rw [cubic_cast] at square
  simp only [curve]
  linear_combination square

/-- The point with a found `y` coordinate. -/
def pointOver (x : Nat) (y : Option Nat)
    (onCurve : ∀ found, y = some found → (curve p a b).Nonsingular (x : ZMod p) (found : ZMod p))
    : Option Point :=
  match y, onCurve with
  | none, _ => none
  | some found, onCurve => some (.some _ _ (onCurve found rfl))

/-- SEC1 octet string to point, for compressed forms. -/
def decompress (bytes : List UInt8) : Option Point :=
  match bytes with
  | [] => none
  | tag :: rest =>
      if (tag = 2 ∨ tag = 3) ∧ rest.length = 32 ∧ beValue rest < p then
        pointOver (beValue rest) (ordinate (beValue rest) (tag.toNat - 2))
          fun _ found => ordinate_nonsingular found
      else
        none

theorem pointOver_eq {x : Nat} {y : Option Nat}
    {onCurve : ∀ found, y = some found →
      (curve p a b).Nonsingular (x : ZMod p) (found : ZMod p)}
    {u v : ZMod p} (nonsingular : (curve p a b).Nonsingular u v) (sameX : x = u.val)
    (found : y = some v.val)
    : pointOver x y onCurve = some (.some u v nonsingular) := by
  subst found sameX
  simp only [pointOver, ZMod.natCast_zmod_val]

/-- Decompression is defined on the compressed form of every point and gives the point back. -/
theorem decompress_compress {point : Point} {x y : Nat} (coordinates : Coordinates point x y)
    : decompress (compress x y) = some point := by
  cases point with
  | zero => exact False.elim coordinates
  | some u v nonsingular =>
      obtain ⟨rfl, rfl⟩ := coordinates
      have bound := ZMod.val_lt u
      have value : beValue (toBe 32 u.val) = u.val := by
        rw [beValue_toBe]
        exact Nat.mod_eq_of_lt (lt_trans bound (by decide))
      have tag : (UInt8.ofNat (2 + v.val % 2)).toNat = 2 + v.val % 2 := by
        rw [UInt8.toNat_ofNat']
        omega
      have tags : UInt8.ofNat (2 + v.val % 2) = 2 ∨ UInt8.ofNat (2 + v.val % 2) = 3 := by
        rcases Nat.mod_two_eq_zero_or_one v.val with even | odd
        · exact .inl (by rw [even]; rfl)
        · exact .inr (by rw [odd]; rfl)
      have square : v ^ 2 = cubic u.val := by
        have equation := (Affine.nonsingular_iff ..).mp nonsingular |>.1
        rw [Affine.equation_iff] at equation
        rw [cubic_cast, ZMod.natCast_zmod_val]
        simp only [curve] at equation
        linear_combination equation
      have found : ordinate (beValue (toBe 32 u.val)) ((UInt8.ofNat (2 + v.val % 2)).toNat - 2)
          = some v.val := by
        rw [value, tag, Nat.add_sub_cancel_left]
        exact ordinate_eq square
      simp only [decompress, compress]
      rw [if_pos ⟨tags, toBe_length 32 u.val, by rwa [value]⟩]
      exact pointOver_eq nonsingular value found

end Tarako.P256
