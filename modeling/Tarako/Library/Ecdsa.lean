import Mathlib.Algebra.Field.ZMod
import Mathlib.Algebra.Group.Basic
import Mathlib.Tactic.FieldSimp
import Mathlib.Tactic.LinearCombination

/-! ECDSA over a commutative group with an element of prime exponent.
The group supplies a partial coordinate; the library relates the signing equation to the
verification equation.
-/

namespace Ecdsa

variable {A : Type*} [AddCommGroup A]

/-- Multiples of an element of exponent `n` depend on the scalar modulo `n` only. -/
theorem nsmul_eq_of_cast_eq {n : Nat} {g : A} (order : n • g = 0) {j k : Nat}
    (same : (j : ZMod n) = k)
    : j • g = k • g := by
  have reduce (m : Nat) : m • g = (m % n) • g := by
    conv_lhs => rw [← Nat.mod_add_div m n]
    rw [add_nsmul, mul_nsmul, order, nsmul_zero, add_zero]
  rw [reduce j, reduce k, (ZMod.natCast_eq_natCast_iff' j k n).mp same]

/-- The verification equation for a message representative `z`: both parts in range, and
the coordinate of `(z/s) g + (r/s) q` is `r` modulo `n`.
-/
def Verifies (n : Nat) (coordinate : A → Option Nat) (g q : A) (z r s : Nat) : Prop :=
  (0 < r ∧ r < n)
  ∧ (0 < s ∧ s < n)
  ∧ ∃ x,
      coordinate
          (((z : ZMod n) * (s : ZMod n)⁻¹).val • g + ((r : ZMod n) * (s : ZMod n)⁻¹).val • q)
        = some x
      ∧ x % n = r

/-- The pair that the nonce `k` gives for `z` under the private key `d`, zero or not: the
reduced coordinate of `k g` and the solution of the signing equation.
-/
structure Signs (n : Nat) (coordinate : A → Option Nat) (g : A) (z d k r s : Nat) : Prop where
  first : ∃ x, coordinate (k • g) = some x ∧ x % n = r
  reduced : s < n
  equation : (s : ZMod n) * k = z + r * d

/-- A pair without zeros verifies under the signer's public element. Witness: both scalars act
on `g`, and their combination is the nonce modulo `n`.
-/
theorem Signs.verifies {n : Nat} [prime : Fact n.Prime] {coordinate : A → Option Nat}
    {g : A} (order : n • g = 0) {z d k r s : Nat} (signs : Signs n coordinate g z d k r s)
    (firstPositive : 0 < r) (secondPositive : 0 < s)
    : Verifies n coordinate g (d • g) z r s := by
  obtain ⟨⟨x, point, residue⟩, reduced, equation⟩ := signs
  have bound : r < n := residue ▸ Nat.mod_lt x prime.out.pos
  refine ⟨⟨firstPositive, bound⟩, ⟨secondPositive, reduced⟩, x, ?_, residue⟩
  have invertible : (s : ZMod n) ≠ 0 := by
    rw [Ne, ZMod.natCast_eq_zero_iff]
    exact fun divides => absurd (Nat.le_of_dvd secondPositive divides) (by omega)
  have combined : ((((z : ZMod n) * (s : ZMod n)⁻¹).val
        + d * ((r : ZMod n) * (s : ZMod n)⁻¹).val : Nat) : ZMod n) = k := by
    push_cast
    rw [ZMod.natCast_zmod_val, ZMod.natCast_zmod_val]
    field_simp
    linear_combination -equation
  rw [← mul_nsmul, ← add_nsmul, nsmul_eq_of_cast_eq order combined, point]

end Ecdsa
