import Mathlib.AlgebraicGeometry.EllipticCurve.Affine.Point
import Mathlib.Algebra.Field.ZMod
import Mathlib.Tactic.LinearCombination

/-! Executable scalar multiplication on `y² = x³ + a x + b` over a prime field, related to
Mathlib's group of points. Intermediate points are Jacobian triples of natural numbers read
modulo the prime, so no inversion is evaluated.
-/

namespace ShortWeierstrass

open WeierstrassCurve

/-- The curve with the given two coefficients. -/
def curve (p a b : Nat) : WeierstrassCurve.Affine (ZMod p) :=
  ⟨0, 0, 0, a, b⟩

/-- A triple stands for `(X / Z², Y / Z³)`, or for infinity when `Z` vanishes. -/
structure Triple where
  X : Nat
  Y : Nat
  Z : Nat

def sub (p x y : Nat) : Nat :=
  (x + (p - y % p)) % p

def double (p a : Nat) (P : Triple) : Triple :=
  let S := 4 * P.X * (P.Y * P.Y % p) % p
  let M := (3 * P.X * P.X + a * (P.Z * P.Z % p) * (P.Z * P.Z % p)) % p
  let X := sub p (M * M) (2 * S)
  ⟨X, sub p (M * sub p S X) (8 * (P.Y * P.Y % p) * (P.Y * P.Y % p)), 2 * P.Y * P.Z % p⟩

/-- Addition of an affine point. -/
def addAffine (p a : Nat) (P : Triple) (x y : Nat) : Triple :=
  if P.Z % p = 0 then
    ⟨x, y, 1⟩
  else
    let H := sub p (x * (P.Z * P.Z % p)) P.X
    let R := sub p (y * (P.Z * P.Z % p) * P.Z) P.Y
    if H = 0 then
      if R = 0 then double p a ⟨x, y, 1⟩ else ⟨1, 1, 0⟩
    else
      let V := P.X * (H * H % p) % p
      let X := sub p (sub p (R * R) (H * H * H)) (2 * V)
      ⟨X, sub p (R * sub p V X) (P.Y * (H * H % p) * H), P.Z * H % p⟩

/-- Double-and-add from the highest bit, one bit for each unit of fuel. -/
def mul (p a x y : Nat) : Nat → Nat → Triple
  | 0, _ => ⟨1, 1, 0⟩
  | fuel + 1, scalar =>
      let doubled := double p a (mul p a x y fuel (scalar / 2))
      if scalar % 2 = 1 then addAffine p a doubled x y else doubled

/-- A triple of a point of the curve. -/
def Represents {p a b : Nat} (point : (curve p a b).Point) (P : Triple) : Prop :=
  match point with
  | .zero => (P.Z : ZMod p) = 0
  | .some x y _ => (P.Z : ZMod p) ≠ 0 ∧ x * P.Z ^ 2 = P.X ∧ y * P.Z ^ 3 = P.Y

section Field

variable {F : Type*} [Field F]

/-- The doubled triple over the tangent slope `ℓ`. -/
theorem tangent_formula {x y z ℓ a : F} (tangent : ℓ * (2 * y) = 3 * x ^ 2 + a)
    : (ℓ ^ 2 - x - x) * (2 * (y * z ^ 3) * z) ^ 2
        = (3 * (x * z ^ 2) ^ 2 + a * z ^ 4) ^ 2 - 2 * (4 * (x * z ^ 2) * (y * z ^ 3) ^ 2)
      ∧ -(ℓ * (ℓ ^ 2 - x - x - x) + y) * (2 * (y * z ^ 3) * z) ^ 3
        = (3 * (x * z ^ 2) ^ 2 + a * z ^ 4)
            * (4 * (x * z ^ 2) * (y * z ^ 3) ^ 2
              - ((3 * (x * z ^ 2) ^ 2 + a * z ^ 4) ^ 2
                - 2 * (4 * (x * z ^ 2) * (y * z ^ 3) ^ 2)))
          - 8 * (y * z ^ 3) ^ 4 := by
  constructor
  · linear_combination z ^ 8 * (2 * y * ℓ + 3 * x ^ 2 + a) * tangent
  · linear_combination
      z ^ 12
        * (12 * x * y ^ 2
          - ((2 * y * ℓ) ^ 2 + 2 * y * ℓ * (3 * x ^ 2 + a) + (3 * x ^ 2 + a) ^ 2)) * tangent

/-- The added triple over the chord slope `ℓ` to an affine point. -/
theorem chord_formula {x y u v z ℓ : F} (chord : ℓ * (x - u) = y - v)
    : (ℓ ^ 2 - x - u) * (z * (u * z ^ 2 - x * z ^ 2)) ^ 2
        = (v * z ^ 3 - y * z ^ 3) ^ 2 - (u * z ^ 2 - x * z ^ 2) ^ 3
          - 2 * (x * z ^ 2 * (u * z ^ 2 - x * z ^ 2) ^ 2)
      ∧ -(ℓ * (ℓ ^ 2 - x - u - x) + y) * (z * (u * z ^ 2 - x * z ^ 2)) ^ 3
        = (v * z ^ 3 - y * z ^ 3)
            * (x * z ^ 2 * (u * z ^ 2 - x * z ^ 2) ^ 2
              - ((v * z ^ 3 - y * z ^ 3) ^ 2 - (u * z ^ 2 - x * z ^ 2) ^ 3
                - 2 * (x * z ^ 2 * (u * z ^ 2 - x * z ^ 2) ^ 2)))
          - y * z ^ 3 * (u * z ^ 2 - x * z ^ 2) ^ 3 := by
  have first : (ℓ ^ 2 - x - u) * (z * (u * z ^ 2 - x * z ^ 2)) ^ 2
      = (v * z ^ 3 - y * z ^ 3) ^ 2 - (u * z ^ 2 - x * z ^ 2) ^ 3
        - 2 * (x * z ^ 2 * (u * z ^ 2 - x * z ^ 2) ^ 2) := by
    linear_combination z ^ 6 * (ℓ * (x - u) + (y - v)) * chord
  refine ⟨first, ?_⟩
  linear_combination
    z ^ 9 * (u - x) ^ 2 * (ℓ ^ 2 - x - u - x) * chord
      - (v * z ^ 3 - y * z ^ 3) * first

end Field

section Prime

variable {p a b : Nat} [prime : Fact p.Prime]

theorem cast_sub (x y : Nat) : ((sub p x y : Nat) : ZMod p) = x - y := by
  have below : y % p ≤ p := (Nat.mod_lt y prime.out.pos).le
  simp [sub, Nat.cast_sub below, sub_eq_add_neg]

theorem sub_eq_zero_iff (x y : Nat) : sub p x y = 0 ↔ (x : ZMod p) = y := by
  rw [← sub_eq_zero (a := (x : ZMod p)), ← cast_sub, ZMod.natCast_eq_zero_iff,
    Nat.dvd_iff_mod_eq_zero]
  simp [sub]

theorem two_ne_zero_of_odd (odd : p ≠ 2) : (2 : ZMod p) ≠ 0 := by
  rw [← Nat.cast_two, Ne, ZMod.natCast_eq_zero_iff]
  exact fun divides => odd ((Nat.prime_dvd_prime_iff_eq prime.out Nat.prime_two).mp divides)

theorem curve_negY (x y : ZMod p) : (curve p a b).negY x y = -y := by
  simp [Affine.negY, curve]

theorem curve_addX (x u ℓ : ZMod p) : (curve p a b).addX x u ℓ = ℓ ^ 2 - x - u := by
  simp [Affine.addX, curve]

theorem curve_addY (x u y ℓ : ZMod p)
    : (curve p a b).addY x u y ℓ = -(ℓ * (ℓ ^ 2 - x - u - x) + y) := by
  rw [Affine.addY, Affine.negAddY, curve_negY, curve_addX]

/-- Doubling a triple doubles its point. Witness: Mathlib's tangent slope satisfies
`ℓ · 2y = 3x² + a`; points with `y = 0` double to infinity.
-/
theorem double_represents (odd : p ≠ 2) {point : (curve p a b).Point} {P : Triple}
    (represents : Represents point P)
    : Represents (point + point) (double p a P) := by
  have two := two_ne_zero_of_odd odd
  cases point with
  | zero =>
      have zero : (P.Z : ZMod p) = 0 := represents
      rw [← Affine.Point.zero_def, add_zero]
      simp [Represents, double, zero]
  | some x y nonsingular =>
      obtain ⟨finite, hx, hy⟩ := represents
      by_cases flat : y = 0
      · have self : y = (curve p a b).negY x y := by rw [curve_negY, flat, neg_zero]
        rw [Affine.Point.add_self_of_Y_eq self]
        have zero : (P.Y : ZMod p) = 0 := by rw [← hy, flat, zero_mul]
        simp [Represents, double, zero]
      · have other : y ≠ (curve p a b).negY x y := by
          rw [curve_negY]
          intro same
          exact mul_ne_zero two flat (by linear_combination same)
        have tangent : (curve p a b).slope x x y y * (2 * y) = 3 * x ^ 2 + a := by
          have twice : y - -y = 2 * y := by ring
          rw [Affine.slope_of_Y_ne rfl other, curve_negY, twice,
            div_mul_cancel₀ _ (mul_ne_zero two flat)]
          simp [curve]
        rw [Affine.Point.add_self_of_Y_ne other]
        obtain ⟨newX, newY⟩ := tangent_formula (z := (P.Z : ZMod p)) tangent
        simp only [Represents, double, cast_sub, Nat.cast_mul, Nat.cast_add, ZMod.natCast_mod,
          Nat.cast_ofNat, ← hx, ← hy, curve_addX, curve_addY]
        refine ⟨?_, ?_, ?_⟩
        · exact mul_ne_zero (mul_ne_zero two (mul_ne_zero flat (pow_ne_zero 3 finite))) finite
        · linear_combination newX
        · linear_combination newY

/-- Adding an affine point to a triple adds the points, by the branches of the addition. -/
theorem addAffine_represents (odd : p ≠ 2) {point : (curve p a b).Point} {P : Triple}
    {u v : Nat} (nonsingular : (curve p a b).Nonsingular u v)
    (represents : Represents point P)
    : Represents (point + .some (u : ZMod p) v nonsingular) (addAffine p a P u v) := by
  have unit : Represents (.some (u : ZMod p) v nonsingular) ⟨u, v, 1⟩ := by
    simp [Represents]
  have vanish : P.Z % p = 0 ↔ (P.Z : ZMod p) = 0 := by
    rw [ZMod.natCast_eq_zero_iff, Nat.dvd_iff_mod_eq_zero]
  unfold addAffine
  cases point with
  | zero =>
      rw [if_pos (vanish.mpr represents), ← Affine.Point.zero_def, zero_add]
      exact unit
  | some x y other =>
      obtain ⟨finite, hx, hy⟩ := represents
      rw [if_neg (fun zero => finite (vanish.mp zero))]
      have castH : ((u * (P.Z * P.Z % p) : Nat) : ZMod p) = u * P.Z ^ 2 := by
        rw [Nat.cast_mul, ZMod.natCast_mod, Nat.cast_mul, pow_two]
      have castR : ((v * (P.Z * P.Z % p) * P.Z : Nat) : ZMod p) = v * P.Z ^ 3 := by
        rw [Nat.cast_mul, Nat.cast_mul, ZMod.natCast_mod, Nat.cast_mul]
        ring
      have sameX : sub p (u * (P.Z * P.Z % p)) P.X = 0 ↔ x = u := by
        rw [sub_eq_zero_iff, castH, ← hx, mul_left_inj' (pow_ne_zero 2 finite), eq_comm]
      have sameY : sub p (v * (P.Z * P.Z % p) * P.Z) P.Y = 0 ↔ y = v := by
        rw [sub_eq_zero_iff, castR, ← hy, mul_left_inj' (pow_ne_zero 3 finite), eq_comm]
      dsimp only
      split
      · next hX =>
          obtain rfl := sameX.mp hX
          split
          · next hY =>
              obtain rfl := sameY.mp hY
              exact double_represents odd unit
          · next hY =>
              have opposite : y = (curve p a b).negY u v :=
                (Affine.Y_eq_of_X_eq other.1 nonsingular.1 rfl).resolve_left
                  (fun same => hY (sameY.mpr same))
              rw [Affine.Point.add_of_Y_eq rfl opposite]
              simp [Represents]
      · next hX =>
          have distinct : x ≠ u := fun same => hX (sameX.mpr same)
          have chord : (curve p a b).slope x u y v * (x - u) = y - v := by
            rw [Affine.slope_of_X_ne distinct, div_mul_cancel₀ _ (sub_ne_zero.mpr distinct)]
          rw [Affine.Point.add_of_X_ne distinct]
          obtain ⟨newX, newY⟩ := chord_formula (z := (P.Z : ZMod p)) chord
          simp only [Represents, cast_sub, Nat.cast_mul, ZMod.natCast_mod, Nat.cast_ofNat,
            ← hx, ← hy, curve_addX, curve_addY]
          refine ⟨?_, ?_, ?_⟩
          · refine mul_ne_zero finite ?_
            have factor : (u : ZMod p) * (P.Z * P.Z) - x * P.Z ^ 2 = (u - x) * P.Z ^ 2 := by ring
            rw [factor]
            exact mul_ne_zero (sub_ne_zero.mpr distinct.symm) (pow_ne_zero 2 finite)
          · linear_combination newX
          · linear_combination newY

/-- Double-and-add represents the scalar multiple, by induction on the fuel. -/
theorem mul_represents (odd : p ≠ 2) {u v : Nat} (nonsingular : (curve p a b).Nonsingular u v)
    (fuel scalar : Nat) (covered : scalar < 2 ^ fuel)
    : Represents (scalar • Affine.Point.some (u : ZMod p) v nonsingular)
        (mul p a u v fuel scalar) := by
  induction fuel generalizing scalar with
  | zero =>
      have empty : scalar = 0 := by simpa using covered
      rw [empty, zero_nsmul]
      simp [mul, Represents]
  | succ fuel ih =>
      have half : scalar / 2 < 2 ^ fuel := by
        rw [pow_succ] at covered
        omega
      have doubled := double_represents odd (ih (scalar / 2) half)
      rw [← two_nsmul, ← mul_nsmul'] at doubled
      simp only [mul]
      split
      · next bit =>
          have added := addAffine_represents odd nonsingular doubled
          rw [← succ_nsmul] at added
          have whole : 2 * (scalar / 2) + 1 = scalar := by omega
          rwa [whole] at added
      · next bit =>
          have whole : 2 * (scalar / 2) = scalar := by omega
          rwa [whole] at doubled

/-- A multiple whose triple has vanishing `Z` is the point at infinity. -/
theorem nsmul_eq_zero (odd : p ≠ 2) {u v : Nat} (nonsingular : (curve p a b).Nonsingular u v)
    (fuel scalar : Nat) (covered : scalar < 2 ^ fuel)
    (vanishes : (mul p a u v fuel scalar).Z % p = 0)
    : scalar • Affine.Point.some (u : ZMod p) v nonsingular = 0 := by
  have represents := mul_represents odd nonsingular fuel scalar covered
  rw [← Nat.dvd_iff_mod_eq_zero, ← ZMod.natCast_eq_zero_iff] at vanishes
  cases multiple : scalar • Affine.Point.some (u : ZMod p) v nonsingular with
  | zero => rfl
  | some x y h =>
      rw [multiple] at represents
      exact absurd vanishes represents.1

end Prime

end ShortWeierstrass
