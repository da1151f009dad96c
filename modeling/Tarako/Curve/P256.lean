import Mathlib.Tactic.NormNum.Prime
import Tarako.Library.ByteDigits
import Tarako.Library.Ecdsa
import Tarako.Library.LucasCertificate
import Tarako.Library.ShortWeierstrass

/-! The NIST curve P-256: its parameters, the primality of its two orders and the order of
its base point.
-/

namespace Tarako.P256

open WeierstrassCurve ShortWeierstrass LucasCertificate

/-- The field prime. -/
def p : Nat := 0xffffffff00000001000000000000000000000000ffffffffffffffffffffffff

/-- The order of the base point. -/
def n : Nat := 0xffffffff00000000ffffffffffffffffbce6faada7179e84f3b9cac2fc632551

def a : Nat := p - 3

def b : Nat := 0x5ac635d8aa3a93e7b3ebbd55769886bc651d06b0cc53b0f63bce3c3e27d2604b

def gx : Nat := 0x6b17d1f2e12c4247f8bce6e563a440f277037d812deb33a0f4a13945d898c296

def gy : Nat := 0x4fe342e2fe1a7f9b8ee7eb4a7c0f9e162bce33576b315ececbb6406837bf51f5

/-- The primes below ten million in the certificate. -/
def smallPrimes : List Nat :=
  [
    2, 3, 5, 7, 11, 17, 23, 29, 41, 43, 53, 71, 107, 127, 131, 173, 197, 257, 311, 373, 641,
    1297, 1531, 2411, 3023, 3407, 3677, 3769, 16879, 17449, 18169, 38189, 65537, 78283,
    126241, 155317, 490463, 704251, 3969899, 6700417, 9350987
  ]

/-- The chain of larger primes that ends in both orders. -/
def chain : List Link :=
  [
    ⟨66417393611, 6, [2, 5, 53, 173, 197, 3677]⟩,
    ⟨11290956913871, 13, [2, 5, 17, 66417393611]⟩,
    ⟨46076956964474543, 5, [2, 23, 18169, 78283, 704251]⟩,
    ⟨204061199, 11, [2, 11, 23, 107, 3769]⟩,
    ⟨34282281433, 17, [2, 2, 2, 3, 7, 204061199]⟩,
    ⟨774023187263532362759620327192479577272145303, 3,
      [2, 3, 3, 2411, 34282281433, 11290956913871, 46076956964474543]⟩,
    ⟨835945042244614951780389953367877943453916927241, 11,
      [2, 2, 2, 3, 3, 3, 5, 774023187263532362759620327192479577272145303]⟩,
    ⟨p, 6,
      [
        2, 3, 5, 5, 17, 257, 641, 1531, 65537, 490463, 6700417,
        835945042244614951780389953367877943453916927241
      ]⟩,
    ⟨1002328039319, 19, [2, 126241, 3969899]⟩,
    ⟨191039911, 3, [2, 3, 5, 41, 155317]⟩,
    ⟨208150935158385979, 2, [2, 3, 11, 43, 127, 3023, 191039911]⟩,
    ⟨2624747550333869278416773953, 7,
      [2, 2, 2, 2, 2, 2, 3, 3, 1297, 16879, 208150935158385979]⟩,
    ⟨311245691, 2, [2, 5, 7, 17, 29, 29, 311]⟩,
    ⟨622491383, 5, [2, 311245691]⟩,
    ⟨187019741, 2, [2, 2, 5, 9350987]⟩,
    ⟨n, 7,
      [
        2, 2, 2, 2, 3, 71, 131, 373, 3407, 17449, 38189, 187019741, 622491383,
        1002328039319, 2624747550333869278416773953
      ]⟩
  ]

theorem smallPrimes_prime : ∀ q ∈ smallPrimes, q.Prime := by
  simp only [smallPrimes, List.forall_mem_cons]
  norm_num

theorem chain_holds : holdsAll smallPrimes chain = true := by decide +kernel

instance prime_p : Fact p.Prime :=
  ⟨holdsAll_prime smallPrimes_prime chain_holds p (by simp [chain])⟩

instance prime_n : Fact n.Prime :=
  ⟨holdsAll_prime smallPrimes_prime chain_holds n (by simp [chain])⟩

theorem p_odd : p ≠ 2 := by decide

abbrev Point := (curve p a b).Point

theorem base_nonsingular : (curve p a b).Nonsingular (gx : ZMod p) (gy : ZMod p) := by
  rw [Affine.nonsingular_iff]
  constructor
  · rw [Affine.equation_iff]
    have onCurve : (gy ^ 2 : Nat) % p = (gx ^ 3 + a * gx + b : Nat) % p := by decide +kernel
    have cast := (ZMod.natCast_eq_natCast_iff' _ _ p).mpr onCurve
    push_cast at cast
    simpa [curve] using cast
  · right
    have notFlat : ¬p ∣ 2 * gy := by decide +kernel
    intro flat
    apply notFlat
    rw [← ZMod.natCast_eq_zero_iff]
    push_cast
    simp only [curve, zero_mul, sub_zero] at flat
    linear_combination flat

/-- The base point. -/
def G : Point := .some (gx : ZMod p) (gy : ZMod p) base_nonsingular

/-- The base point has order `n`, by evaluating double-and-add. -/
theorem order : n • G = 0 :=
  nsmul_eq_zero p_odd base_nonsingular 256 n (by decide) (by decide +kernel)

/-- The affine `x` coordinate as an integer; infinity has none. -/
def xCoordinate : Point → Option Nat
  | .zero => none
  | .some x _ _ => some x.val

theorem xCoordinate_lt {point : Point} {x : Nat} (found : xCoordinate point = some x)
    : x < p := by
  cases point with
  | zero => cases found
  | some u v h =>
      cases found
      exact ZMod.val_lt u

-----------------------------------------------------------------------------------------
-- Coordinates and compressed points
-----------------------------------------------------------------------------------------

/-- Coordinates of a point as integers. -/
def Coordinates (point : Point) (x y : Nat) : Prop :=
  match point with
  | .zero => False
  | .some u v _ => u.val = x ∧ v.val = y

theorem Coordinates.xCoordinate {point : Point} {x y : Nat}
    (coordinates : Coordinates point x y)
    : xCoordinate point = some x := by
  cases point with
  | zero => exact False.elim coordinates
  | some u v h =>
      obtain ⟨rfl, _⟩ := coordinates
      rfl

/-- SEC1 compressed form of a point with these coordinates. -/
def compress (x y : Nat) : List UInt8 :=
  UInt8.ofNat (2 + y % 2) :: ByteDigits.toBe 32 x

/-- A negated nonzero coordinate has the other parity, since the field prime is odd. -/
theorem neg_val_parity {v w : ZMod p} (opposite : v = -w) (parity : v.val % 2 = w.val % 2)
    : v = w := by
  by_cases zero : w = 0
  · rw [opposite, zero, neg_zero]
  · have value : v.val = p - w.val := by
      rw [opposite, ZMod.neg_val, if_neg zero]
    have bound := ZMod.val_lt w
    have odd : p % 2 = 1 := by decide
    omega

/-- Two points with the same `x` and the same parity of `y` are equal: the curve equation
leaves only a sign.
-/
theorem Coordinates.unique {point other : Point} {x y y' : Nat}
    (coordinates : Coordinates point x y) (others : Coordinates other x y')
    (parity : y % 2 = y' % 2)
    : point = other := by
  cases point with
  | zero => exact False.elim coordinates
  | some u v nonsingular =>
      cases other with
      | zero => exact False.elim others
      | some u' v' nonsingular' =>
          obtain ⟨rfl, rfl⟩ := coordinates
          obtain ⟨same, rfl⟩ := others
          have equalX : u' = u := ZMod.val_injective p same
          subst equalX
          have equation := (Affine.nonsingular_iff ..).mp nonsingular |>.1
          have equation' := (Affine.nonsingular_iff ..).mp nonsingular' |>.1
          rw [Affine.equation_iff] at equation equation'
          have squares : (v - v') * (v + v') = 0 := by
            simp only [curve] at equation equation'
            linear_combination equation - equation'
          rcases mul_eq_zero.mp squares with equalY | opposite
          · rw [sub_eq_zero] at equalY
            subst equalY
            rfl
          · have equalY := neg_val_parity (eq_neg_of_add_eq_zero_left opposite) parity
            subst equalY
            rfl

/-- The compressed form determines the point. -/
theorem compress_unique {point other : Point} {x y x' y' : Nat}
    (coordinates : Coordinates point x y) (others : Coordinates other x' y')
    (same : compress x y = compress x' y')
    : point = other := by
  simp only [compress, List.cons.injEq] at same
  obtain ⟨tags, abscissas⟩ := same
  have parity : y % 2 = y' % 2 := by
    have values := congrArg UInt8.toNat tags
    simp only [UInt8.toNat_ofNat'] at values
    omega
  have bound : x < 256 ^ 32 :=
    lt_trans (xCoordinate_lt coordinates.xCoordinate) (by decide)
  have bound' : x' < 256 ^ 32 := lt_trans (xCoordinate_lt others.xCoordinate) (by decide)
  have equal : x = x' := by
    have values := congrArg ByteDigits.beValue abscissas
    rwa [ByteDigits.beValue_toBe, ByteDigits.beValue_toBe, Nat.mod_eq_of_lt bound,
      Nat.mod_eq_of_lt bound'] at values
  subst equal
  exact coordinates.unique others parity

end Tarako.P256
