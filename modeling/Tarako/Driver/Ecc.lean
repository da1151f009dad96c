import Tarako.Curve.P256
import Tarako.Driver.Vli
import Tarako.Library.CallLog

/-! Key generation, public-key derivation and hashing wrappers of `ecc.rs`.
Calls whose outcome varies from call to call (random numbers, allocations, the point
multiplication) are given as the outcome of each call.
-/

namespace Tarako.Driver

open Lang ByteDigits

/-- `P256_BYTES`. -/
def P256_BYTES : Nat := 32

/-- `P256_PUBKEY_BYTES`. -/
def P256_PUBKEY_BYTES : Nat := 33

/-- A kernel point: two coordinate buffers in the order `ecc_make_pub_key` wrote them. -/
structure Point where
  x : Scalar
  y : Scalar
deriving DecidableEq

/-- `Point::x_scalar`: the swapped limbs as they are. -/
def Point.xScalar (point : Point) : Scalar :=
  point.x

/-- `Point::x_as_bytes`. -/
def Point.xAsBytes (point : Point) : U8Array P256_BYTES :=
  ⟨point.x.memory, point.x.memory_length⟩

/-- `Point::y_as_bytes`. -/
def Point.yAsBytes (point : Point) : U8Array P256_BYTES :=
  ⟨point.y.memory, point.y.memory_length⟩

/-- The kernel calls behind one generated key: the return code and key of
`ecc_gen_privkey`, the coordinate pointers of `ecc_alloc_point` (whether each is null), and
the return code and output halves of `ecc_make_pub_key`.
-/
structure KeyCalls where
  eccGenPrivkey : Int × Scalar
  eccAllocPoint : Option (Bool × Bool)
  eccMakePubKey : Scalar → Int × (Scalar × Scalar)

def generatePrivateKey (calls : KeyCalls) : Except Errno Scalar :=
  let (ret, key) := calls.eccGenPrivkey
  if ret < 0 then .error (Errno.fromErrno ret) else .ok key

def makePublicKey (calls : KeyCalls) (privkey : Scalar) : Except Errno Point :=
  match calls.eccAllocPoint with
  | none => .error ENOMEM
  | some (xNull, yNull) =>
      if xNull || yNull then
        .error EFAULT
      else
        let (ret, raw) := calls.eccMakePubKey privkey
        if ret < 0 then .error (Errno.fromErrno ret) else .ok ⟨raw.1, raw.2⟩

/-- `get_curve_n`, from the curve pointer and its `n` pointer. -/
def getCurveN (eccGetCurve : Option (Option Scalar)) : Option Scalar :=
  match eccGetCurve with
  | none => none
  | some none => none
  | some (some n) => some n

/-- A call of `ima_measure_critical_data` without an output digest. With `hash`, the log shows the
digest of the buffer in its place.
-/
structure ImaMeasurement where
  eventLabel : String
  eventName : String
  buf : Bytes
  hash : Bool
deriving DecidableEq

/-- `ima_measure_pubkey`, from the return codes of `ima_measure_critical_data`. -/
def imaMeasurePubkey (imaMeasureCriticalData : ImaMeasurement → Int) (bytes : Bytes)
    : CallLog ImaMeasurement Errno Unit :=
  let measurement : ImaMeasurement := ⟨"tarako_pubkey", "public-key-generate", bytes, false⟩
  let result := imaMeasureCriticalData measurement
  .calling measurement (if result < 0 then .error (Errno.fromErrno result) else .ok ())

def sha256Hash (kernel : Kernel) (data : Bytes) : U8Array P256_BYTES :=
  kernel.sha256 data

/-- `ecc_swap_digits`: reversed limb order and big-endian limbs. -/
def eccSwapDigits (v : Scalar) : Scalar :=
  ⟨v.limbs.reverse.map swapBytes, by simp [v.length_eq]⟩

/-- Random keys lie in `[1, n - 1]`, and a successful point multiplication writes the swapped
coordinates of that multiple of the base point.
-/
structure KeyCalls.Documented (calls : KeyCalls) : Prop where
  range
    : 0 ≤ calls.eccGenPrivkey.1
      → 0 < calls.eccGenPrivkey.2.value ∧ calls.eccGenPrivkey.2.value < P256.n
  multiple
    : ∀ key : Scalar,
        0 ≤ (calls.eccMakePubKey key).1
        → ∃ x y : Scalar,
            P256.Coordinates (key.value • P256.G) x.value y.value
            ∧ (calls.eccMakePubKey key).2 = (eccSwapDigits x, eccSwapDigits y)

/-- The kernel swaps as `unswap` does. -/
theorem eccSwapDigits_eq_unswap (v : Scalar) : eccSwapDigits v = v.unswap := by
  obtain ⟨limbs, length⟩ := v
  simp only [eccSwapDigits, ← Vli.unswap_limbs ⟨limbs, length⟩]

theorem eccSwapDigits_memory (v : Scalar) : (eccSwapDigits v).memory = v.memory.reverse := by
  rw [eccSwapDigits_eq_unswap, Vli.unswap_memory]

/-- Undoing the swap gives the coordinate back. -/
theorem unswap_eccSwapDigits (v : Scalar) : (eccSwapDigits v).unswap = v := by
  rw [eccSwapDigits_eq_unswap, Vli.unswap_unswap]

theorem generatePrivateKey_ok {calls : KeyCalls} {key : Scalar}
    (documented : calls.Documented) (generated : generatePrivateKey calls = .ok key)
    : 0 < key.value ∧ key.value < P256.n := by
  unfold generatePrivateKey at generated
  dsimp only at generated
  split at generated
  · cases generated
  · next nonnegative =>
      cases generated
      exact documented.range (Int.not_lt.mp nonnegative)

/-- A derived public key holds the swapped coordinates of the key's multiple. -/
theorem makePublicKey_ok {calls : KeyCalls} {key : Scalar} {point : Point}
    (documented : calls.Documented) (derived : makePublicKey calls key = .ok point)
    : ∃ x y : Scalar,
        P256.Coordinates (key.value • P256.G) x.value y.value
        ∧ point = ⟨eccSwapDigits x, eccSwapDigits y⟩ := by
  unfold makePublicKey at derived
  split at derived
  · cases derived
  · split at derived
    · cases derived
    · dsimp only at derived
      split at derived
      · cases derived
      · next nonnegative =>
          obtain ⟨x, y, coordinates, raw⟩ := documented.multiple key (Int.not_lt.mp nonnegative)
          refine ⟨x, y, coordinates, ?_⟩
          cases derived
          rw [raw]

end Tarako.Driver
