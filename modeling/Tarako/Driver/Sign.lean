import Tarako.Driver.Ecc
import Tarako.Library.Sha256

/-! The driver's ECDSA signing loop and its correctness over the documented kernel. -/

namespace Tarako.Driver

open Lang ByteDigits

/-- The single conditional subtraction that `ecdsa_sign` applies to `r` and to `z`. -/
def subtractOnce (kernel : Kernel) (v curveN : Scalar) : Scalar :=
  if v.ge kernel curveN then v.sub kernel curveN else v

/-- `z_plus_rs`: the sum with its carry out, reduced by one subtraction. -/
def addOnce (kernel : Kernel) (z s curveN : Scalar) : Scalar :=
  let (sum, carry) := z.carryingAdd s 0
  if carry ≠ 0 || sum.ge kernel curveN then sum.sub kernel curveN else sum

/-- The loop body from the unswapped coordinate on; `none` is its `continue`. -/
def signWith (kernel : Kernel) (k unswapped : Scalar) (dataHash : Bytes)
    (privkey curveN : Scalar)
    : Except Errno (Option (Scalar × Scalar)) :=
  let r := subtractOnce kernel unswapped curveN
  if r.isZero kernel then
    pure none
  else do
    let z ← Vli.fromBeBytes kernel P256_DIGITS dataHash
    let z := subtractOnce kernel z curveN
    let s := r.modMult kernel privkey curveN
    let zPlusRs := addOnce kernel z s curveN
    let kInv := k.modInv kernel curveN
    let s := zPlusRs.modMult kernel kInv curveN
    if s.isZero kernel then pure none else pure (some (r, s))

/-- One pass of the loop body. -/
def signAttempt (kernel : Kernel) (calls : KeyCalls) (dataHash : Bytes)
    (privkey curveN : Scalar)
    : Except Errno (Option (Scalar × Scalar)) := do
  let k ← generatePrivateKey calls
  let pubk ← makePublicKey calls k
  signWith kernel k pubk.xScalar.unswap dataHash privkey curveN

/-- `remaining` passes, of which the next one is number `attempt`. -/
def signLoop (kernel : Kernel) (calls : Nat → KeyCalls) (dataHash : Bytes)
    (privkey curveN : Scalar)
    : Nat → Nat → Except Errno (Scalar × Scalar)
  | 0, _ => .error EINVAL
  | remaining + 1, attempt =>
      match signAttempt kernel (calls attempt) dataHash privkey curveN with
      | .error error => .error error
      | .ok (some signature) => .ok signature
      | .ok none => signLoop kernel calls dataHash privkey curveN remaining (attempt + 1)

def ecdsaSign (kernel : Kernel) (calls : Nat → KeyCalls) (data : Bytes)
    (privkey curveN : Scalar)
    : Except Errno (Scalar × Scalar) :=
  signLoop kernel calls (sha256Hash kernel data).1 privkey curveN 100 0

section Reductions

variable {kernel : Kernel} (documented : kernel.Documented) {curveN : Scalar}
  (orderValue : curveN.value = P256.n)

include orderValue

/-- The order has its top bit set, so the kernel's modular functions apply. -/
theorem curveN_wide : 2 ^ (64 * P256_DIGITS) ≤ 2 * curveN.value := by
  rw [orderValue]
  decide

include documented

omit orderValue in
theorem ge_iff {N : Nat} (a b : Vli N) : a.ge kernel b = true ↔ b.value ≤ a.value := by
  simp [Vli.ge, documented.cmp]

/-- Subtracting the order wraps around only below it. -/
theorem sub_curveN_value (v : Scalar)
    : (v.sub kernel curveN).value
      = (v.value + 2 ^ (64 * P256_DIGITS) - P256.n) % 2 ^ (64 * P256_DIGITS) := by
  rw [Vli.sub, documented.sub, orderValue]

/-- One subtraction reduces every 256-bit value fully. -/
theorem subtractOnce_value (v : Scalar)
    : (subtractOnce kernel v curveN).value = v.value % P256.n := by
  have bound : v.value < 2 ^ (64 * P256_DIGITS) := v.value_lt
  have wide := curveN_wide orderValue
  rw [orderValue] at wide
  unfold subtractOnce
  split
  · next large =>
      rw [ge_iff documented, orderValue] at large
      have once : v.value % P256.n = v.value - P256.n := by
        rw [Nat.mod_eq_sub_mod large]
        exact Nat.mod_eq_of_lt (by omega)
      rw [sub_curveN_value documented orderValue, once,
        show v.value + 2 ^ (64 * P256_DIGITS) - P256.n
          = v.value - P256.n + 2 ^ (64 * P256_DIGITS) by omega, Nat.add_mod_right]
      exact Nat.mod_eq_of_lt (by omega)
  · next small =>
      rw [ge_iff documented, orderValue] at small
      exact (Nat.mod_eq_of_lt (by omega)).symm

/-- One subtraction reduces a sum of two residues, also when the sum carried out of 256
bits: the discarded borrow cancels the carry.
-/
theorem addOnce_value {z s : Scalar} (zReduced : z.value < P256.n)
    (sReduced : s.value < P256.n)
    : (addOnce kernel z s curveN).value = (z.value + s.value) % P256.n := by
  have total := Vli.carryingAdd_value z s 0
  have bound : (z.carryingAdd s 0).1.value < 2 ^ (64 * P256_DIGITS) :=
    (z.carryingAdd s 0).1.value_lt
  have fits : P256.n < 2 ^ (64 * P256_DIGITS) := by decide
  rw [show (0 : UInt64).toNat = 0 from rfl, Nat.add_zero] at total
  have reduced (large : P256.n ≤ z.value + s.value)
      : (z.value + s.value) % P256.n = z.value + s.value - P256.n := by
    rw [Nat.mod_eq_sub_mod large]
    exact Nat.mod_eq_of_lt (by omega)
  unfold addOnce
  dsimp only
  split
  · next taken =>
      rw [sub_curveN_value documented orderValue]
      by_cases carried : (z.carryingAdd s 0).2 = 0
      -- no carry out: the comparison decided, and the difference does not wrap
      · rw [carried, show (0 : UInt64).toNat = 0 from rfl, Nat.mul_zero, Nat.add_zero] at total
        have large : P256.n ≤ (z.carryingAdd s 0).1.value := by
          simpa [carried, ge_iff documented, orderValue] using taken
        rw [reduced (by omega), total,
          show z.value + s.value + 2 ^ (64 * P256_DIGITS) - P256.n
            = z.value + s.value - P256.n + 2 ^ (64 * P256_DIGITS) by omega,
          Nat.add_mod_right]
        exact Nat.mod_eq_of_lt (by omega)
      -- carry out: the low part is below the order, and the difference wraps once
      · have one : 1 ≤ (z.carryingAdd s 0).2.toNat :=
          Nat.pos_of_ne_zero fun none => carried (UInt64.toNat_inj.mp none)
        have exactlyOne : (z.carryingAdd s 0).2.toNat = 1 := by
          by_contra other
          have two : 2 ≤ (z.carryingAdd s 0).2.toNat := by omega
          have scaled := Nat.mul_le_mul_left (2 ^ (64 * P256_DIGITS)) two
          omega
        rw [exactlyOne, Nat.mul_one] at total
        rw [reduced (by omega), ← total]
        exact Nat.mod_eq_of_lt (by omega)
  · next small =>
      have parts : (z.carryingAdd s 0).2 = 0 ∧ (z.carryingAdd s 0).1.value < P256.n := by
        simpa [ge_iff documented, orderValue] using small
      rw [parts.1, show (0 : UInt64).toNat = 0 from rfl, Nat.mul_zero, Nat.add_zero] at total
      rw [total, ← total]
      exact (Nat.mod_eq_of_lt parts.2).symm

/-- The second part of an attempt solves the signing equation. Witness: `addOnce` is `z + r d`
in the integers modulo the order, and the inverse cancels the nonce.
-/
theorem signing_equation (r z privkey : Scalar) {k : Scalar} (keyRange : 0 < k.value ∧ k.value < P256.n)
    : let product := r.modMult kernel privkey curveN
      let zPlusRs := addOnce kernel (subtractOnce kernel z curveN) product curveN
      let s := zPlusRs.modMult kernel (k.modInv kernel curveN) curveN
      s.value < P256.n
      ∧ (s.value : ZMod P256.n) * k.value = z.value + r.value * privkey.value := by
  intro product zPlusRs s
  have positive : 0 < P256.n := by decide
  have wide := curveN_wide orderValue
  have productValue : product.value = r.value * privkey.value % P256.n := by
    rw [← orderValue]
    exact documented.modMult r privkey curveN wide
  have sumValue : zPlusRs.value
      = (z.value % P256.n + r.value * privkey.value % P256.n) % P256.n := by
    have zValue := subtractOnce_value documented orderValue z
    rw [← zValue, ← productValue]
    refine addOnce_value documented orderValue ?_ ?_
    · rw [zValue]
      exact Nat.mod_lt _ positive
    · rw [productValue]
      exact Nat.mod_lt _ positive
  have sValue : s.value = zPlusRs.value * (k.modInv kernel curveN).value % P256.n := by
    rw [← orderValue]
    exact documented.modMult _ _ curveN wide
  have coprime : k.value.Coprime curveN.value := by
    rw [orderValue]
    exact Nat.coprime_of_lt_prime (by omega) keyRange.2 P256.prime_n.out |>.symm
  have inverse : ((k.modInv kernel curveN).value : ZMod P256.n) * k.value = 1 := by
    have product := (documented.modInv k curveN wide coprime).2
    rw [orderValue] at product
    have reduced : (k.modInv kernel curveN).value * k.value % P256.n = 1 % P256.n := product
    have cast := (ZMod.natCast_eq_natCast_iff' _ _ P256.n).mpr reduced
    push_cast at cast
    exact cast
  refine ⟨?_, ?_⟩
  · rw [sValue]
    exact Nat.mod_lt _ positive
  · rw [sValue, sumValue]
    push_cast [ZMod.natCast_mod]
    linear_combination ((z.value : ZMod P256.n) + r.value * privkey.value) * inverse

end Reductions

/-- The pair of one draw over P-256, with the nonce and the point that the two calls of the
attempt returned.
-/
def Drawn (calls : KeyCalls) (z : Nat) (privkey : Scalar) (r s : Nat) : Prop :=
  ∃ k point,
    generatePrivateKey calls = .ok k
    ∧ makePublicKey calls k = .ok point
    ∧ (0 < k.value ∧ k.value < P256.n)
    ∧ Ecdsa.Signs P256.n P256.xCoordinate P256.G z privkey.value k.value r s

/-- An attempt that makes no error evaluates the pair of its draw; it returns that pair if
neither part is zero and asks for another draw otherwise.
-/
theorem signAttempt_ok {kernel : Kernel} (documented : kernel.Documented) {calls : KeyCalls}
    (draws : calls.Documented) {curveN : Scalar} (orderValue : curveN.value = P256.n)
    {dataHash : Bytes} (hashLength : dataHash.length = P256_BYTES) {privkey : Scalar}
    {outcome : Option (Scalar × Scalar)}
    (finished : signAttempt kernel calls dataHash privkey curveN = .ok outcome)
    : ∃ r s : Scalar,
        Drawn calls (beValue dataHash) privkey r.value s.value
        ∧ outcome = if r.value = 0 ∨ s.value = 0 then none else some (r, s) := by
  unfold signAttempt signWith at finished
  cases generated : generatePrivateKey calls with
  | error error => simp [generated, bind, Except.bind] at finished
  | ok k =>
      cases derived : makePublicKey calls k with
      | error error => simp [generated, derived, bind, Except.bind] at finished
      | ok point =>
          have keyRange := generatePrivateKey_ok draws generated
          obtain ⟨x, y, coordinates, rfl⟩ := makePublicKey_ok draws derived
          have parsed : Vli.fromBeBytes kernel P256_DIGITS dataHash
              = .ok (kernel.eccDigitsFromBytes P256_DIGITS dataHash) := by
            simp [Vli.fromBeBytes, hashLength, P256_BYTES, P256_DIGITS]
          have digits := documented.digits P256_DIGITS dataHash hashLength
          simp only [generated, derived, parsed, bind, Except.bind, pure, Except.pure,
            Point.xScalar, unswap_eccSwapDigits, Vli.isZero, documented.isZero] at finished
          have residue := subtractOnce_value documented orderValue x
          have equation := signing_equation documented orderValue (subtractOnce kernel x curveN)
            (kernel.eccDigitsFromBytes P256_DIGITS dataHash) privkey keyRange
          rw [digits] at equation
          dsimp only at equation
          generalize Vli.modMult kernel (addOnce kernel _ _ curveN) _ curveN = s
            at finished equation
          refine ⟨subtractOnce kernel x curveN, s,
            ⟨k, _, generated, derived, keyRange, ?_⟩, ?_⟩
          · exact ⟨⟨x.value, coordinates.xCoordinate, residue.symm⟩, equation.1, equation.2⟩
          · split at finished
            · next zero => simpa [zero] using finished.symm
            · next nonzero =>
                split at finished
                · next zero =>
                    cases finished
                    simp [zero]
                · next present =>
                    cases finished
                    simp [nonzero, present]

/-- A successful loop stops at the first attempt that returns a pair, by induction on the
remaining passes.
-/
theorem signLoop_ok {kernel : Kernel} {calls : Nat → KeyCalls} {dataHash : Bytes}
    {privkey curveN : Scalar} {remaining attempt : Nat} {signature : Scalar × Scalar}
    (signed : signLoop kernel calls dataHash privkey curveN remaining attempt = .ok signature)
    : ∃ i,
        attempt ≤ i
        ∧ i < attempt + remaining
        ∧ signAttempt kernel (calls i) dataHash privkey curveN = .ok (some signature)
        ∧ ∀ j, attempt ≤ j → j < i
            → signAttempt kernel (calls j) dataHash privkey curveN = .ok none := by
  induction remaining generalizing attempt with
  | zero => cases signed
  | succ remaining ih =>
      unfold signLoop at signed
      split at signed
      · cases signed
      · next pair returned =>
          cases signed
          exact ⟨attempt, le_rfl, by omega, returned, fun j low high => absurd low (by omega)⟩
      · next retried =>
          obtain ⟨i, low, high, returned, before⟩ := ih signed
          refine ⟨i, by omega, by omega, returned, fun j from_ below => ?_⟩
          by_cases first : j = attempt
          · exact first ▸ retried
          · exact before j (by omega) below

/-- A returned pair is the pair of the first draw without a zero. -/
theorem ecdsaSign_ok {kernel : Kernel} (documented : kernel.Documented)
    {calls : Nat → KeyCalls} (draws : ∀ i, (calls i).Documented) {curveN : Scalar}
    (orderValue : curveN.value = P256.n) {data : Bytes} {privkey r s : Scalar}
    (signed : ecdsaSign kernel calls data privkey curveN = .ok (r, s))
    : let z := beValue (Sha256.digest data)
      (0 < r.value ∧ 0 < s.value)
      ∧ ∃ i < 100,
          Drawn (calls i) z privkey r.value s.value
          ∧ ∀ j < i,
              ∃ zeroR zeroS,
                Drawn (calls j) z privkey zeroR zeroS ∧ (zeroR = 0 ∨ zeroS = 0) := by
  intro z
  have hashed : beValue (sha256Hash kernel data).1 = z := by
    rw [sha256Hash, documented.sha256]
  have attempts {i : Nat} {outcome : Option (Scalar × Scalar)}
      (finished : signAttempt kernel (calls i) (sha256Hash kernel data).1 privkey curveN
        = .ok outcome) :=
    signAttempt_ok documented (draws i) orderValue (sha256Hash kernel data).2 finished
  rw [hashed] at attempts
  obtain ⟨i, _, within, returned, before⟩ := signLoop_ok signed
  obtain ⟨r', s', drawn, outcome⟩ := attempts returned
  split at outcome
  · cases outcome
  · next nonzero =>
      cases outcome
      refine ⟨by omega, i, by omega, drawn, ?_⟩
      intro j below
      obtain ⟨zeroR, zeroS, drawn, outcome⟩ := attempts (before j (by omega) below)
      refine ⟨zeroR.value, zeroS.value, drawn, ?_⟩
      by_contra nonzero
      rw [if_neg nonzero] at outcome
      cases outcome

/-- A drawn pair without zeros verifies under the public key. -/
theorem Drawn.verifies {calls : KeyCalls} {z : Nat} {privkey : Scalar} {r s : Nat}
    (drawn : Drawn calls z privkey r s) (positive : 0 < r ∧ 0 < s)
    : Ecdsa.Verifies P256.n P256.xCoordinate P256.G (privkey.value • P256.G) z r s := by
  obtain ⟨k, point, _, _, _, signs⟩ := drawn
  exact signs.verifies P256.order positive.1 positive.2

/-- Every returned pair is the pair of the first draw without a zero, within the hundred
attempts and after attempts that made no error, and it verifies under the public key. The
one-step reductions give the full residues for all operands.
-/
theorem ecdsaSign_valid {kernel : Kernel} (documented : kernel.Documented)
    {calls : Nat → KeyCalls} (draws : ∀ i, (calls i).Documented) {curveN : Scalar}
    (orderValue : curveN.value = P256.n) {data : Bytes} {privkey r s : Scalar}
    (signed : ecdsaSign kernel calls data privkey curveN = .ok (r, s))
    : let z := beValue (Sha256.digest data)
      (0 < r.value ∧ r.value < P256.n)
      ∧ (0 < s.value ∧ s.value < P256.n)
      ∧ (∃ i < 100,
          Drawn (calls i) z privkey r.value s.value
          ∧ ∀ j < i,
              ∃ zeroR zeroS,
                Drawn (calls j) z privkey zeroR zeroS ∧ (zeroR = 0 ∨ zeroS = 0))
      ∧ Ecdsa.Verifies P256.n P256.xCoordinate P256.G (privkey.value • P256.G) z
          r.value s.value
      ∧ (∀ v, (subtractOnce kernel v curveN).value = v.value % P256.n)
      ∧ ∀ a b : Scalar,
          a.value < P256.n
          → b.value < P256.n
          → (addOnce kernel a b curveN).value = (a.value + b.value) % P256.n := by
  intro z
  obtain ⟨positive, i, within, drawn, before⟩ := ecdsaSign_ok documented draws orderValue signed
  have verifies := drawn.verifies positive
  exact ⟨verifies.1, verifies.2.1, ⟨i, within, drawn, before⟩, verifies,
    subtractOnce_value documented orderValue, fun a b => addOnce_value documented orderValue⟩

/-- A call that draws the nonce one, for which the multiplication returns the base point. -/
def KeyCalls.one : KeyCalls where
  eccGenPrivkey := (0, Vli.ofValue P256_DIGITS 1)
  eccAllocPoint := some (false, false)
  eccMakePubKey key :=
    if key.value = 1 then
      (0, eccSwapDigits (Vli.ofValue P256_DIGITS P256.gx),
        eccSwapDigits (Vli.ofValue P256_DIGITS P256.gy))
    else
      (EINVAL.code, Vli.zero P256_DIGITS, Vli.zero P256_DIGITS)

theorem KeyCalls.one_documented : KeyCalls.one.Documented where
  range _ := by decide
  multiple key succeeded := by
    unfold KeyCalls.one at succeeded ⊢
    dsimp only at succeeded ⊢
    split
    · next isOne =>
        refine ⟨_, _, ?_, rfl⟩
        rw [isOne, one_nsmul]
        exact ⟨by decide +kernel, by decide +kernel⟩
    · next other =>
        rw [if_neg other] at succeeded
        exact absurd succeeded (by decide)

theorem ecdsaSign_valid_abc
    : ∃ r s : Scalar,
        ecdsaSign Kernel.reference (fun _ => KeyCalls.one) [0x61, 0x62, 0x63]
            (Vli.ofValue P256_DIGITS 3) (Vli.ofValue P256_DIGITS P256.n)
          = .ok (r, s)
        ∧ r.value = P256.gx
        ∧ Ecdsa.Verifies P256.n P256.xCoordinate P256.G
            ((Vli.ofValue P256_DIGITS 3).value • P256.G)
            (beValue (Sha256.digest [0x61, 0x62, 0x63])) r.value s.value := by
  have signed
      : ecdsaSign Kernel.reference (fun _ => KeyCalls.one) [0x61, 0x62, 0x63]
          (Vli.ofValue P256_DIGITS 3) (Vli.ofValue P256_DIGITS P256.n)
        = .ok (Vli.ofValue P256_DIGITS P256.gx, Vli.ofValue P256_DIGITS
          0xfbbf8c99328696c12b77f58e889ae4fb5826df7978c176fa9e3ae0707f67381e) := by
    decide +kernel
  have valid := ecdsaSign_valid Kernel.reference_documented
    (fun _ => KeyCalls.one_documented) (by decide +kernel) signed
  exact ⟨_, _, signed, by decide +kernel, valid.2.2.2.1⟩

end Tarako.Driver
