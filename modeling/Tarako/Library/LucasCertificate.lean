import Mathlib.NumberTheory.LucasPrimality
import Mathlib.Data.List.Prime
import Mathlib.Tactic.NormNum.Prime

/-! Primality from Lucas certificates that the kernel evaluates.
A chain lists numbers with a base and the factors of their predecessor; every factor is
known before it is used.
-/

namespace LucasCertificate

/-- `acc * base ^ exponent % modulus` by repeated squaring, one halving for each unit of
fuel.
-/
def powMod (modulus : Nat) : Nat → Nat → Nat → Nat → Nat
  | 0, _, _, acc => acc % modulus
  | fuel + 1, base, exponent, acc =>
      powMod modulus fuel (base * base % modulus) (exponent / 2)
        (if exponent % 2 = 1 then acc * base % modulus else acc)

/-- Repeated squaring is exact when the fuel covers the exponent's bits, by induction on
the fuel.
-/
theorem powMod_eq (modulus fuel base exponent acc : Nat) (covered : exponent < 2 ^ fuel)
    : powMod modulus fuel base exponent acc = acc * base ^ exponent % modulus := by
  induction fuel generalizing base exponent acc with
  | zero =>
      have empty : exponent = 0 := by simpa using covered
      simp [powMod, empty]
  | succ fuel ih =>
      have half : exponent / 2 < 2 ^ fuel := by
        rw [pow_succ] at covered
        omega
      have square : (base * base % modulus) ^ (exponent / 2) % modulus
          = base ^ (2 * (exponent / 2)) % modulus := by
        rw [← Nat.pow_mod, pow_mul, sq]
      rw [powMod, ih _ _ _ half, Nat.mul_mod, square, ← Nat.mul_mod]
      split
      · next odd =>
          rw [Nat.mod_mul_mod, mul_assoc, ← pow_succ']
          congr 3
          omega
      · next even =>
          congr 3
          omega

/-- One link of a chain: a number, its base and the prime factors of its predecessor. -/
structure Link where
  number : Nat
  base : Nat
  factors : List Nat

/-- Lucas's conditions for a link over exponents of 256 bits. -/
def Link.holds (link : Link) (known : List Nat) : Bool :=
  decide (2 ≤ link.number)
  && decide (link.number ≤ 2 ^ 256)
  && link.factors.all (fun q => decide (q ∈ known))
  && decide (link.factors.prod = link.number - 1)
  && decide (powMod link.number 256 link.base (link.number - 1) 1 = 1)
  && link.factors.all
      (fun q => decide (powMod link.number 256 link.base ((link.number - 1) / q) 1 ≠ 1))

/-- A chain whose links each use numbers known before them. -/
def holdsAll : List Nat → List Link → Bool
  | _, [] => true
  | known, link :: rest => link.holds known && holdsAll (link.number :: known) rest

/-- Powers in `ZMod` are powers modulo the number. -/
theorem cast_pow_eq_one_iff {number base exponent : Nat} (large : 2 ≤ number)
    (covered : exponent < 2 ^ 256)
    : (base : ZMod number) ^ exponent = 1 ↔ powMod number 256 base exponent 1 = 1 := by
  rw [powMod_eq _ _ _ _ _ covered, one_mul, ← Nat.cast_pow, ← Nat.cast_one,
    ZMod.natCast_eq_natCast_iff', Nat.mod_eq_of_lt large]

/-- A link over known primes certifies its number. Witness: Lucas's criterion, with each
prime divisor of the predecessor among the listed factors.
-/
theorem Link.prime {link : Link} {known : List Nat} (primes : ∀ q ∈ known, q.Prime)
    (holds : link.holds known = true)
    : link.number.Prime := by
  simp only [Link.holds, Bool.and_eq_true, decide_eq_true_eq, List.all_eq_true] at holds
  obtain ⟨⟨⟨⟨⟨large, bounded⟩, listed⟩, product⟩, full⟩, parts⟩ := holds
  apply lucas_primality link.number (link.base : ZMod link.number)
  · exact (cast_pow_eq_one_iff large (by omega)).mpr full
  · intro q prime divides
    rw [← product] at divides
    obtain ⟨factor, member, dividesFactor⟩ := (Prime.dvd_prod_iff prime.prime).mp divides
    have same : q = factor :=
      (Nat.prime_dvd_prime_iff_eq prime (primes factor (listed factor member))).mp dividesFactor
    subst same
    have smaller : (link.number - 1) / q < 2 ^ 256 :=
      lt_of_le_of_lt (Nat.div_le_self _ _) (by omega)
    exact fun one => parts q member ((cast_pow_eq_one_iff large smaller).mp one)

/-- Every number of a valid chain is prime, by induction along the chain. -/
theorem holdsAll_prime {links : List Link} {known : List Nat}
    (primes : ∀ q ∈ known, q.Prime) (holds : holdsAll known links = true)
    : ∀ q ∈ links.map Link.number, q.Prime := by
  induction links generalizing known with
  | nil => simp
  | cons link rest ih =>
      simp only [holdsAll, Bool.and_eq_true] at holds
      have first := link.prime primes holds.1
      have extended : ∀ q ∈ link.number :: known, q.Prime := by
        simpa only [List.forall_mem_cons] using ⟨first, primes⟩
      simpa only [List.map_cons, List.forall_mem_cons] using ⟨first, ih extended holds.2⟩

end LucasCertificate
