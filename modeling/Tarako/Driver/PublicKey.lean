import Tarako.Curve.Sec1
import Tarako.Driver.Lifecycle

/-! The public key of a generated key pair identifies its private key: the bytes that userspace
sees, the point they stand for, and the limbs that signing reads are one coordinate.
-/

namespace Tarako.Driver

open Lang ByteDigits

/-- A genuine public key decompresses to the multiple of the base point by the private key. -/
theorem KeyPair.Genuine.decompress {keyPair : KeyPair} (genuine : keyPair.Genuine)
    : P256.decompress keyPair.pubkey.1 = some (keyPair.secret.value • P256.G) := by
  obtain ⟨x, y, coordinates, compressedForm⟩ := genuine.point
  rw [compressedForm]
  exact P256.decompress_compress coordinates

/-- For every private key that `generate_key_pair` succeeds with, the public key decompresses
to exactly its multiple of the base point; its last 32 bytes are the big-endian `x` coordinate,
which is also what signing reads from the limbs of the same point.
-/
theorem pubkey_identifies_key {calls : GenerateCalls} (documented : calls.key.Documented)
    {keyPair : KeyPair} (generated : generateKeyPair calls = .ok keyPair)
    : 1 ≤ keyPair.secret.value
      ∧ keyPair.secret.value ≤ P256.n - 1
      ∧ P256.decompress keyPair.pubkey.1 = some (keyPair.secret.value • P256.G)
      ∧ ∃ publicPoint x,
          makePublicKey calls.key keyPair.secret = .ok publicPoint
          ∧ P256.xCoordinate (keyPair.secret.value • P256.G) = some x
          ∧ keyPair.pubkey.1.drop 1 = toBe 32 x
          ∧ publicPoint.xScalar.unswap.value = x := by
  obtain ⟨publicPoint, drawn, derived, pubkey, _⟩ := generateKeyPair_ok generated
  have range := generatePrivateKey_ok documented drawn
  obtain ⟨x, y, coordinates, rfl⟩ := makePublicKey_ok documented derived
  have form : keyPair.pubkey.1 = P256.compress x.value y.value := by
    rw [pubkey]
    exact compressed_swapped x y
  refine ⟨range.1, Nat.le_sub_one_of_lt range.2, ?_, _, x.value, derived,
    coordinates.xCoordinate, ?_, ?_⟩
  · rw [form]
    exact P256.decompress_compress coordinates
  · rw [form]
    rfl
  · rw [Point.xScalar, unswap_eccSwapDigits]

theorem pubkey_identifies_key_one
    : ∃ keyPair,
        generateKeyPair lifeCalls = .ok keyPair
        ∧ keyPair.secret.value = 1
        ∧ P256.decompress keyPair.pubkey.1 = some (keyPair.secret.value • P256.G) := by
  have evaluated : (generateKeyPair lifeCalls).toOption.any
      (fun keyPair => decide (keyPair.secret.value = 1)) = true := by
    decide +kernel
  cases generated : generateKeyPair lifeCalls with
  | error error =>
      rw [generated] at evaluated
      cases evaluated
  | ok keyPair =>
      rw [generated] at evaluated
      have identified := pubkey_identifies_key KeyCalls.one_documented generated
      exact ⟨keyPair, rfl, of_decide_eq_true evaluated, identified.2.2.1⟩

end Tarako.Driver
