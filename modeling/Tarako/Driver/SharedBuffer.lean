import Tarako.Driver.PublicKey

/-! `handle_sign_data` as it runs: on a buffer that other threads change at any time, and with
every slice and index of the source checked. The model without other threads and with lists in
place of fixed buffers is its abstraction.
-/

namespace Tarako.Driver

open Lang ByteDigits

-----------------------------------------------------------------------------------------
-- Checked slices
-----------------------------------------------------------------------------------------

/-- How a call can fail: with an error code, or by a slice or index out of range. -/
inductive Fault
  | errno (error : Errno)
  | outOfRange
deriving DecidableEq

/-- An error code of the driver among the faults. -/
def raising {α : Type} (result : Except Errno α) : Except Fault α :=
  result.mapError .errno

/-- `bytes[start..stop]`. -/
def sliceRange (bytes : Bytes) (start stop : Nat) : Except Fault Bytes :=
  if start ≤ stop ∧ stop ≤ bytes.length then
    .ok ((bytes.take stop).drop start)
  else
    .error .outOfRange

/-- `bytes[start..stop].copy_from_slice(source)`, which also fails on unequal lengths. -/
def copyFromSlice (bytes : Bytes) (start stop : Nat) (source : Bytes) : Except Fault Bytes :=
  if start ≤ stop ∧ stop ≤ bytes.length ∧ source.length = stop - start then
    .ok (bytes.take start ++ source ++ bytes.drop stop)
  else
    .error .outOfRange

/-- `self.0[i]`. -/
def Vli.limbAt {N : Nat} (v : Vli N) (i : Nat) : Except Fault UInt64 :=
  match v.limbs[i]? with
  | none => .error .outOfRange
  | some limb => .ok limb

/-- `self.0[i] = limb`. -/
def Vli.setLimb {N : Nat} (v : Vli N) (i : Nat) (limb : UInt64) : Except Fault (Vli N) :=
  if i < v.limbs.length then
    .ok ⟨v.limbs.set i limb, List.length_set.trans v.length_eq⟩
  else
    .error .outOfRange

/-- The loop of `Vli::unswap` from index `i` on. The index `N - 1 - i` must not underflow. -/
def Vli.unswapFrom {N : Nat} (v : Vli N) : Nat → Nat → Vli N → Except Fault (Vli N)
  | 0, _, out => .ok out
  | remaining + 1, i, out =>
      if i < N then do
        let limb ← v.limbAt (N - 1 - i)
        let out ← out.setLimb i (swapBytes limb)
        v.unswapFrom remaining (i + 1) out
      else
        .error .outOfRange

/-- `Vli::unswap` with its index operations. -/
def Vli.unswapChecked {N : Nat} (v : Vli N) : Except Fault (Vli N) :=
  v.unswapFrom N 0 (Vli.zero N)

/-- The loops over `sig_r` and `sig_s`: limb `i` of the reversed limbs goes to bytes `8 i` to
`8 (i + 1)`.
-/
def writeLimbs : List UInt64 → Nat → Bytes → Except Fault Bytes
  | [], _, out => .ok out
  | limb :: rest, i, out => do
      let out ← copyFromSlice out (i * 8) ((i + 1) * 8) (toBe 8 limb.toNat)
      writeLimbs rest (i + 1) out

/-- `usize::checked_add`. -/
def checkedAddUsize (a b : Nat) : Option Nat :=
  if a + b < 2 ^ 64 then some (a + b) else none

/-- One pass of the signing loop, with the index operations of `unswap` checked. -/
def signAttemptChecked (kernel : Kernel) (calls : KeyCalls) (dataHash : Bytes)
    (privkey curveN : Scalar)
    : Except Fault (Option (Scalar × Scalar)) := do
  let k ← raising (generatePrivateKey calls)
  let pubk ← raising (makePublicKey calls k)
  let unswapped ← pubk.xScalar.unswapChecked
  raising (signWith kernel k unswapped dataHash privkey curveN)

def signLoopChecked (kernel : Kernel) (calls : Nat → KeyCalls) (dataHash : Bytes)
    (privkey curveN : Scalar)
    : Nat → Nat → Except Fault (Scalar × Scalar)
  | 0, _ => .error (.errno EINVAL)
  | remaining + 1, attempt =>
      match signAttemptChecked kernel (calls attempt) dataHash privkey curveN with
      | .error fault => .error fault
      | .ok (some signature) => .ok signature
      | .ok none => signLoopChecked kernel calls dataHash privkey curveN remaining (attempt + 1)

/-- `KeyPair::sign` with the index operations of `ecdsa_sign`. -/
def KeyPair.signChecked (kernel : Kernel) (calls : Nat → KeyCalls) (keyPair : KeyPair)
    (data : Bytes)
    : Except Fault (Scalar × Scalar) :=
  signLoopChecked kernel calls (sha256Hash kernel data).1 keyPair.secret keyPair.curveN 100 0

/-- Everything `handle_sign_data` does before it writes its answer, from the request it has
read. The answer is given by its representation.
-/
def signDataChecked (kernel : Kernel) (calls : Nat → KeyCalls) (keyPair : Option KeyPair)
    (task : CurrentTask) (read : Except Errno SignDataReq)
    : Except Fault Bytes :=
  match keyPair with
  | none => .error (.errno ENXIO)
  | some keyPair =>
      if !keyPair.imaMeasured then
        .error (.errno EPERM)
      else do
        let digest ← raising (currentExeFsverityDigest task)
        let digest ← sliceRange digest.buffer.1 0 digest.size
        let req ← raising read
        let toSignLen ← raising ((checkedAddUsize digest.length USER_DATA_BYTES).elim
          (.error EINVAL) .ok)
        let toSign := List.replicate (FS_VERITY_MAX_DIGEST_SIZE + USER_DATA_BYTES) 0
        let toSign ← copyFromSlice toSign 0 digest.length digest
        let toSign ← copyFromSlice toSign digest.length toSignLen req.userData.1
        let hashed ← sliceRange toSign 0 toSignLen
        let hash := sha256Hash kernel hashed
        let signed ← sliceRange toSign 0 toSignLen
        let (r, s) ← keyPair.signChecked kernel calls signed
        let sigR ← writeLimbs r.limbs.reverse 0 req.sigR.1
        let sigS ← writeLimbs s.limbs.reverse 0 req.sigS.1
        let pubkey ← copyFromSlice req.pubkey.1 0 req.pubkey.1.length keyPair.pubkey.1
        pure (req.userData.1 ++ hash.1 ++ sigR ++ sigS ++ pubkey)

-----------------------------------------------------------------------------------------
-- The shared buffer
-----------------------------------------------------------------------------------------

/-- The caller's memory at each access of a byte by the driver, as other threads have left it. -/
structure SharedMemory where
  view : Nat → UserMemory

/-- `copy_from_user` from an access on: each byte is read when the copy comes to it. -/
def SharedMemory.copyIn (shared : SharedMemory)
    : Nat → Nat → (count : Nat) → Except Errno (U8Array count)
  | _, _, 0 => .ok ⟨[], rfl⟩
  | access, address, count + 1 =>
      if (shared.view access).readable address then do
        let rest ← shared.copyIn (access + 1) (address + 1) count
        pure ⟨(shared.view access).byte address :: rest.1, by rw [List.length_cons, rest.2]⟩
      else
        .error EFAULT

/-- `copy_to_user` from an access on: the bytes it wrote, and whether it came to the end. -/
def SharedMemory.copyOut (shared : SharedMemory) : Nat → Nat → Bytes → List (Nat × UInt8) × Bool
  | _, _, [] => ([], true)
  | access, address, byte :: rest =>
      if (shared.view access).writable address then
        let (written, completed) := shared.copyOut (access + 1) (address + 1) rest
        ((address, byte) :: written, completed)
      else
        ([], false)

/-- `read_sign_data_req`: the first accesses of the call. -/
def SharedMemory.readSignDataReq (shared : SharedMemory) (arg bufSize : Nat)
    : Except Errno SignDataReq :=
  if SIGN_DATA_REQ_BYTES > bufSize then
    .error EFAULT
  else do
    let bytes ← shared.copyIn 0 arg SIGN_DATA_REQ_BYTES
    pure (SignDataReq.ofBytes bytes)

/-- `write_sign_data_req`: the accesses after those of the read. -/
def SharedMemory.writeSignDataReq (shared : SharedMemory) (arg bufSize : Nat) (answer : Bytes)
    : List (Nat × UInt8) × Except Errno Unit :=
  if answer.length > bufSize then
    ([], .error EFAULT)
  else
    match shared.copyOut SIGN_DATA_REQ_BYTES arg answer with
    | (written, true) => (written, .ok ())
    | (written, false) => (written, .error EFAULT)

/-- `handle_sign_data` on a shared buffer: the bytes it wrote there, and its result. -/
def handleSignDataShared (kernel : Kernel) (calls : Nat → KeyCalls) (keyPair : Option KeyPair)
    (task : CurrentTask) (shared : SharedMemory) (arg : Nat) (cmd : UInt32)
    : List (Nat × UInt8) × Except Fault Int :=
  match signDataChecked kernel calls keyPair task (shared.readSignDataReq arg (iocSize cmd)) with
  | .error fault => ([], .error fault)
  | .ok answer =>
      match shared.writeSignDataReq arg (iocSize cmd) answer with
      | (written, .ok ()) => (written, .ok 0)
      | (written, .error error) => (written, .error (.errno error))

-----------------------------------------------------------------------------------------
-- No slice or index is out of range
-----------------------------------------------------------------------------------------

theorem Vli.limbAt_ok {N : Nat} (v : Vli N) {i : Nat} (inside : i < N)
    : v.limbAt i = .ok (v.limbs.getD i 0) := by
  have bound : i < v.limbs.length := by rwa [v.length_eq]
  simp [Vli.limbAt, List.getElem?_eq_getElem bound]

/-- The loop fills the result from the front; the invariant is that the limbs below the index
are those of the result.
-/
theorem Vli.unswapFrom_ok {N : Nat} (v : Vli N) {remaining i : Nat} {out : Vli N}
    (range : i + remaining = N) (filled : ∀ j < i, out.limbs[j]? = v.unswap.limbs[j]?)
    : v.unswapFrom remaining i out = .ok v.unswap := by
  induction remaining generalizing i out with
  | zero =>
      have same : out = v.unswap := by
        obtain ⟨limbs, length⟩ := out
        have equal : limbs = v.unswap.limbs := by
          apply List.ext_getElem?
          intro j
          by_cases below : j < i
          · exact filled j below
          · rw [List.getElem?_eq_none (by omega),
              List.getElem?_eq_none (by rw [v.unswap.length_eq]; omega)]
        subst equal
        rfl
      simp [Vli.unswapFrom, same]
  | succ remaining ih =>
      have inside : i < N := by omega
      have outBound : i < out.limbs.length := by rwa [out.length_eq]
      simp only [Vli.unswapFrom, if_pos inside, v.limbAt_ok (show N - 1 - i < N by omega),
        Vli.setLimb, if_pos outBound, bind, Except.bind]
      refine ih (by omega) fun j below => ?_
      by_cases last : j = i
      · subst last
        simp [Vli.unswap, List.getElem?_set_self outBound, inside]
      · rw [List.getElem?_set_ne (Ne.symm last)]
        exact filled j (by omega)

theorem Vli.unswapChecked_eq {N : Nat} (v : Vli N) : v.unswapChecked = .ok v.unswap :=
  v.unswapFrom_ok (Nat.zero_add N) fun j below => absurd below (Nat.not_lt_zero j)

theorem signAttemptChecked_eq (kernel : Kernel) (calls : KeyCalls) (dataHash : Bytes)
    (privkey curveN : Scalar)
    : signAttemptChecked kernel calls dataHash privkey curveN
      = raising (signAttempt kernel calls dataHash privkey curveN) := by
  unfold signAttemptChecked signAttempt
  cases generatePrivateKey calls with
  | error error => rfl
  | ok k =>
      simp only [raising, Except.mapError, bind, Except.bind]
      cases makePublicKey calls k with
      | error error => rfl
      | ok pubk => simp only [Vli.unswapChecked_eq]

theorem signLoopChecked_eq (kernel : Kernel) (calls : Nat → KeyCalls) (dataHash : Bytes)
    (privkey curveN : Scalar) (remaining attempt : Nat)
    : signLoopChecked kernel calls dataHash privkey curveN remaining attempt
      = raising (signLoop kernel calls dataHash privkey curveN remaining attempt) := by
  induction remaining generalizing attempt with
  | zero => rfl
  | succ remaining ih =>
      simp only [signLoopChecked, signLoop, signAttemptChecked_eq, ih]
      cases signAttempt kernel (calls attempt) dataHash privkey curveN with
      | error error => rfl
      | ok outcome => cases outcome <;> rfl

theorem KeyPair.signChecked_eq (kernel : Kernel) (calls : Nat → KeyCalls) (keyPair : KeyPair)
    (data : Bytes)
    : keyPair.signChecked kernel calls data = raising (keyPair.sign kernel calls data) :=
  signLoopChecked_eq ..

/-- The limbs fill the rest of the array, by induction on the limbs that are left. -/
theorem writeLimbs_ok {limbs : List UInt64} {i : Nat} {out : Bytes}
    (length : out.length = (i + limbs.length) * 8)
    : writeLimbs limbs i out
      = .ok (out.take (i * 8) ++ limbs.flatMap fun limb => toBe 8 limb.toNat) := by
  induction limbs generalizing i out with
  | nil =>
      have whole : out.take (i * 8) = out := List.take_of_length_le (by simpa using length.le)
      simp [writeLimbs, whole]
  | cons limb rest ih =>
      rw [List.length_cons] at length
      have step : copyFromSlice out (i * 8) ((i + 1) * 8) (toBe 8 limb.toNat)
          = .ok (out.take (i * 8) ++ toBe 8 limb.toNat ++ out.drop ((i + 1) * 8)) := by
        rw [copyFromSlice, if_pos ⟨by omega, by omega, by rw [toBe_length]; omega⟩]
      have left : (out.take (i * 8)).length = i * 8 := List.length_take_of_le (by omega)
      have taken : (out.take (i * 8) ++ toBe 8 limb.toNat ++ out.drop ((i + 1) * 8)).take
            ((i + 1) * 8)
          = out.take (i * 8) ++ toBe 8 limb.toNat :=
        List.take_left' (by rw [List.length_append, left, toBe_length]; omega)
      simp only [writeLimbs, step, bind, Except.bind]
      rw [ih, taken, List.flatMap_cons, List.append_assoc]
      simp only [List.length_append, left, toBe_length, List.length_drop, length]
      omega

theorem writeLimbs_scalar (v : Scalar) (out : U8Array P256_BYTES)
    : writeLimbs v.limbs.reverse 0 out.1 = .ok (scalarBytes v).1 := by
  rw [writeLimbs_ok]
  · rw [Nat.zero_mul, List.take_zero, List.nil_append]
    rfl
  · rw [out.2, List.length_reverse, v.length_eq]
    rfl

/-- The fixed buffer holds the digest and the user data after the two copies. -/
theorem toSign_ok {digest userData : Bytes} (fits : digest.length ≤ FS_VERITY_MAX_DIGEST_SIZE)
    (length : userData.length = USER_DATA_BYTES)
    : ∃ first second,
        copyFromSlice (List.replicate (FS_VERITY_MAX_DIGEST_SIZE + USER_DATA_BYTES) 0) 0
            digest.length digest
          = .ok first
        ∧ copyFromSlice first digest.length (digest.length + USER_DATA_BYTES) userData
          = .ok second
        ∧ sliceRange second 0 (digest.length + USER_DATA_BYTES) = .ok (digest ++ userData) := by
  set blank : Bytes := List.replicate (FS_VERITY_MAX_DIGEST_SIZE + USER_DATA_BYTES) 0
  have blankLength : blank.length = FS_VERITY_MAX_DIGEST_SIZE + USER_DATA_BYTES :=
    List.length_replicate
  refine ⟨digest ++ blank.drop digest.length,
    digest ++ userData ++ (digest ++ blank.drop digest.length).drop
      (digest.length + USER_DATA_BYTES), ?_, ?_, ?_⟩
  · rw [copyFromSlice, if_pos ⟨Nat.zero_le _, by omega, by omega⟩, List.take_zero,
      List.nil_append]
  · rw [copyFromSlice, if_pos, List.take_left' rfl]
    refine ⟨Nat.le_add_right _ _, ?_, by omega⟩
    rw [List.length_append, List.length_drop]
    omega
  · have whole : (digest ++ userData).length = digest.length + USER_DATA_BYTES := by
      rw [List.length_append, length]
    rw [sliceRange, if_pos, List.take_left' whole, List.drop_zero]
    refine ⟨Nat.zero_le _, ?_⟩
    rw [List.length_append, whole]
    omega

theorem FsverityDigest.digest_length (digest : FsverityDigest)
    : digest.digest.length = digest.size := by
  rw [FsverityDigest.digest, List.length_take, digest.buffer.2]
  exact min_eq_left digest.size_le

/-- The buffers of the source compute the representation of the answer, and no slice or index
of the source is out of range, whatever was read.
-/
theorem signDataChecked_eq (kernel : Kernel) (calls : Nat → KeyCalls) (keyPair : Option KeyPair)
    (task : CurrentTask) (read : Except Errno SignDataReq)
    : signDataChecked kernel calls keyPair task read
      = raising ((signDataAnswerOf kernel calls keyPair task read).map SignDataReq.bytes) := by
  unfold signDataChecked
  cases keyPair with
  | none => rfl
  | some keyPair =>
      rw [signDataAnswerOf_some]
      dsimp only
      split
      · rfl
      · cases currentExeFsverityDigest task with
        | error error => rfl
        | ok digest =>
            have sliced : sliceRange digest.buffer.1 0 digest.size = .ok digest.digest := by
              rw [sliceRange, if_pos ⟨Nat.zero_le _, by rw [digest.buffer.2]; exact digest.size_le⟩,
                List.drop_zero]
              rfl
            simp only [raising, Except.mapError, bind, Except.bind, sliced]
            cases read with
            | error error => rfl
            | ok req =>
                have small : digest.digest.length ≤ FS_VERITY_MAX_DIGEST_SIZE := by
                  rw [digest.digest_length]
                  exact digest.size_le
                obtain ⟨first, second, copied, filled, signed⟩ := toSign_ok small req.userData.2
                have length : checkedAddUsize digest.digest.length USER_DATA_BYTES
                    = some (digest.digest.length + USER_DATA_BYTES) := by
                  rw [checkedAddUsize, if_pos]
                  exact lt_of_le_of_lt (Nat.add_le_add_right small _) (by decide)
                simp only [length, Option.elim, copied, filled, signed, KeyPair.signChecked_eq]
                cases keyPair.sign kernel calls (digest.digest ++ req.userData.1) with
                | error error => rfl
                | ok signature =>
                    obtain ⟨r, s⟩ := signature
                    have copiedKey : copyFromSlice req.pubkey.1 0 req.pubkey.1.length
                        keyPair.pubkey.1 = .ok keyPair.pubkey.1 := by
                      rw [copyFromSlice, if_pos ⟨Nat.zero_le _, le_rfl, by
                        rw [keyPair.pubkey.2, req.pubkey.2, Nat.sub_zero]⟩]
                      simp
                    simp only [raising, Except.mapError, writeLimbs_scalar, copiedKey]
                    rfl

-----------------------------------------------------------------------------------------
-- What a call leaves in the shared buffer
-----------------------------------------------------------------------------------------

/-- The writes of bytes at consecutive addresses. -/
def placed (address : Nat) : Bytes → List (Nat × UInt8)
  | [] => []
  | byte :: rest => (address, byte) :: placed (address + 1) rest

/-- A copy that came to the end wrote all bytes. -/
theorem SharedMemory.copyOut_completed {shared : SharedMemory} {access address : Nat}
    {bytes : Bytes} {written : List (Nat × UInt8)}
    (completed : shared.copyOut access address bytes = (written, true))
    : written = placed address bytes := by
  induction bytes generalizing access address written with
  | nil =>
      cases completed
      rfl
  | cons byte rest ih =>
      unfold SharedMemory.copyOut at completed
      split at completed
      · obtain ⟨rfl, last⟩ := Prod.mk.inj completed
        exact congrArg (List.cons (address, byte)) (ih (Prod.ext rfl last))
      · cases completed

theorem SharedMemory.readSignDataReq_ok {shared : SharedMemory} {arg bufSize : Nat}
    {req : SignDataReq} (read : shared.readSignDataReq arg bufSize = .ok req)
    : ∃ input,
        shared.copyIn 0 arg SIGN_DATA_REQ_BYTES = .ok input
        ∧ req.userData.1 = input.1.take USER_DATA_BYTES := by
  unfold SharedMemory.readSignDataReq at read
  split at read
  · cases read
  · obtain ⟨input, copied, filled⟩ := bind_eq_ok.mp read
    cases filled
    exact ⟨input, copied, rfl⟩

section Alone

/-- The memory after writes. -/
def UserMemory.applied (memory : UserMemory) : List (Nat × UInt8) → UserMemory
  | [] => memory
  | (address, byte) :: rest =>
      { memory with byte := Function.update memory.byte address byte }.applied rest

variable {shared : SharedMemory} {memory : UserMemory}

/-- A copy out of the driver is a store, by induction on the bytes: the writes change no
permissions.
-/
theorem SharedMemory.copyOut_store
    (permissions : ∀ access, (shared.view access).writable = memory.writable)
    (access address : Nat) (bytes : Bytes)
    : memory.store address bytes
      = (memory.applied (shared.copyOut access address bytes).1,
          (shared.copyOut access address bytes).2) := by
  induction bytes generalizing memory access address with
  | nil => rfl
  | cons byte rest ih =>
      simp only [UserMemory.store, SharedMemory.copyOut, permissions access]
      split
      · exact @ih { memory with byte := Function.update memory.byte address byte } permissions
          (access + 1) (address + 1)
      · rfl

theorem SharedMemory.copyIn_load (alone : ∀ access, shared.view access = memory)
    (access address count : Nat)
    : shared.copyIn access address count
      = if memory.allReadable address count then
          .ok ⟨memory.load address count, memory.load_length address count⟩
        else
          .error EFAULT := by
  induction count generalizing access address with
  | zero => rfl
  | succ count ih =>
      have whole : memory.allReadable address (count + 1)
          = (memory.readable address && memory.allReadable (address + 1) count) := rfl
      simp only [SharedMemory.copyIn, alone access, ih (access + 1) (address + 1)]
      by_cases first : memory.readable address = true
      · by_cases others : memory.allReadable (address + 1) count = true
        · rw [if_pos first, if_pos others, if_pos (by rw [whole, first, others]; rfl)]
          rfl
        · rw [if_pos first, if_neg others, if_neg (by rwa [whole, first, Bool.true_and])]
          rfl
      · rw [if_neg first, if_neg]
        rw [whole, Bool.and_eq_true]
        exact fun both => first both.1

/-- Without other threads, the call on a shared buffer is the call on the caller's memory: same
result, and the memory after the writes.
-/
theorem handleSignDataShared_alone (alone : ∀ access, shared.view access = memory)
    (kernel : Kernel) (calls : Nat → KeyCalls) (keyPair : Option KeyPair) (task : CurrentTask)
    (arg : Nat) (cmd : UInt32)
    : let outcome := handleSignDataShared kernel calls keyPair task shared arg cmd
      let (after, result) := handleSignData kernel calls keyPair task memory arg cmd
      after = memory.applied outcome.1 ∧ raising result = outcome.2 := by
  have read : shared.readSignDataReq arg (iocSize cmd)
      = Driver.readSignDataReq memory arg (iocSize cmd) := by
    unfold SharedMemory.readSignDataReq Driver.readSignDataReq UserMemory.readSlice
    rw [SharedMemory.copyIn_load alone]
    split_ifs <;> rfl
  unfold handleSignDataShared
  rw [handleSignData_eq, signDataChecked_eq, signDataAnswer, read]
  cases signDataAnswerOf kernel calls keyPair task
      (Driver.readSignDataReq memory arg (iocSize cmd)) with
  | error error => exact ⟨rfl, rfl⟩
  | ok answer =>
      have stored := @SharedMemory.copyOut_store shared memory (fun access => by rw [alone access])
        SIGN_DATA_REQ_BYTES arg answer.bytes
      dsimp only [Except.map, raising, Except.mapError, SharedMemory.writeSignDataReq,
        Driver.writeSignDataReq, UserMemory.writeSlice]
      rw [stored]
      split_ifs
      · exact ⟨rfl, rfl⟩
      · obtain ⟨written, completed⟩ := shared.copyOut SIGN_DATA_REQ_BYTES arg answer.bytes
        cases completed <;> exact ⟨rfl, rfl⟩

end Alone

/-- A key pair that `generate_key_pair` made with documented calls. -/
def KeyPair.Generated (keyPair : KeyPair) : Prop :=
  ∃ calls : GenerateCalls,
    calls.key.Documented
    ∧ (∀ n, calls.eccGetCurve = some (some n) → n.value = P256.n)
    ∧ generateKeyPair calls = .ok keyPair

/-- What a filled answer proves on its own: its hash and signature are those of the digest
followed by its user data, under its own public key.
-/
structure SignDataReq.Consistent (answer : SignDataReq) (digest : Bytes) : Prop where
  hash : answer.hash.1 = Sha256.digest (digest ++ answer.userData.1)
  signature
    : ∃ point,
        P256.decompress answer.pubkey.1 = some point
        ∧ Ecdsa.Verifies P256.n P256.xCoordinate P256.G point
            (beValue (Sha256.digest (digest ++ answer.userData.1)))
            (beValue answer.sigR.1) (beValue answer.sigS.1)

/-- Signing with a generated key pair fills a consistent answer. -/
theorem SignDataReq.consistent_of_signed {kernel : Kernel} (documented : kernel.Documented)
    {calls : Nat → KeyCalls} (draws : ∀ i, (calls i).Documented) {keyPair : KeyPair}
    (generated : keyPair.Generated) {digest : Bytes} {userData : U8Array USER_DATA_BYTES}
    {r s : Scalar}
    (signed : ecdsaSign kernel calls (digest ++ userData.1) keyPair.secret keyPair.curveN
      = .ok (r, s))
    : SignDataReq.Consistent
        ⟨userData, sha256Hash kernel (digest ++ userData.1), scalarBytes r, scalarBytes s,
          keyPair.pubkey⟩
        digest := by
  obtain ⟨generation, keyDocumented, curve, made⟩ := generated
  have genuine := generateKeyPair_genuine keyDocumented curve made
  obtain ⟨positive, _, _, drawn, _⟩ := ecdsaSign_ok documented draws genuine.order signed
  refine ⟨documented.sha256 _, _, genuine.decompress, ?_⟩
  dsimp only
  rw [scalarBytes_value, scalarBytes_value]
  exact drawn.verifies positive

section Outcomes

variable {kernel : Kernel} {calls : Nat → KeyCalls} {keyPair : Option KeyPair}
  {task : CurrentTask} {shared : SharedMemory} {arg : Nat} {cmd : UInt32}

theorem handleSignDataShared_of_error {fault : Fault}
    (failed : signDataChecked kernel calls keyPair task
        (shared.readSignDataReq arg (iocSize cmd))
      = .error fault)
    : handleSignDataShared kernel calls keyPair task shared arg cmd = ([], .error fault) := by
  unfold handleSignDataShared
  rw [failed]

theorem handleSignDataShared_in_range
    : (handleSignDataShared kernel calls keyPair task shared arg cmd).2 ≠ .error .outOfRange := by
  unfold handleSignDataShared
  rw [signDataChecked_eq]
  cases signDataAnswerOf kernel calls keyPair task (shared.readSignDataReq arg (iocSize cmd)) with
  | error error => exact fun same => by cases same
  | ok answer =>
      dsimp only [Except.map, raising, Except.mapError]
      split <;> exact fun same => by cases same

/-- A successful call computed an answer and copied all of it out. -/
theorem handleSignDataShared_ok {result : Int}
    (succeeded : (handleSignDataShared kernel calls keyPair task shared arg cmd).2 = .ok result)
    : ∃ answer,
        signDataAnswerOf kernel calls keyPair task (shared.readSignDataReq arg (iocSize cmd))
          = .ok answer
        ∧ (handleSignDataShared kernel calls keyPair task shared arg cmd).1
          = placed arg answer.bytes := by
  unfold handleSignDataShared at succeeded ⊢
  rw [signDataChecked_eq] at succeeded ⊢
  cases answered : signDataAnswerOf kernel calls keyPair task
      (shared.readSignDataReq arg (iocSize cmd)) with
  | error error =>
      rw [answered] at succeeded
      cases succeeded
  | ok answer =>
      rw [answered] at succeeded
      refine ⟨answer, rfl, ?_⟩
      dsimp only [Except.map, raising, Except.mapError, SharedMemory.writeSignDataReq]
        at succeeded ⊢
      split at succeeded
      · next written wrote =>
          dsimp only
          split at wrote
          · cases wrote
          · split at wrote
            · next copied =>
                cases wrote
                exact SharedMemory.copyOut_completed copied
            · cases wrote
      · cases succeeded

end Outcomes

/-- For every content of the shared buffer at every access, every return of
`fsverity_get_digest` and every generated key pair: no slice or index is out of range; an error
before the answer is copied out leaves the buffer unwritten; and a successful call copies out an
answer with the user data it copied in, consistent for the caller's digest, under the module's
public key.
-/
theorem signData_consistent {kernel : Kernel} (documented : kernel.Documented)
    {calls : Nat → KeyCalls} (draws : ∀ i, (calls i).Documented) {keyPair : Option KeyPair}
    (generated : ∀ found, keyPair = some found → found.Generated) (task : CurrentTask)
    (shared : SharedMemory) (arg : Nat) (cmd : UInt32)
    : let outcome := handleSignDataShared kernel calls keyPair task shared arg cmd
      outcome.2 ≠ .error .outOfRange
      ∧ (∀ fault,
          signDataChecked kernel calls keyPair task (shared.readSignDataReq arg (iocSize cmd))
            = .error fault
          → outcome = ([], .error fault))
      ∧ ∀ result,
          outcome.2 = .ok result
          → ∃ found digest input answer,
              keyPair = some found
              ∧ currentExeFsverityDigest task = .ok digest
              ∧ task.HasDigest digest.digest
              ∧ 1 ≤ digest.digest.length
              ∧ digest.digest.length ≤ 64
              ∧ shared.copyIn 0 arg SIGN_DATA_REQ_BYTES = .ok input
              ∧ outcome.1 = placed arg (SignDataReq.bytes answer)
              ∧ answer.userData.1 = input.1.take USER_DATA_BYTES
              ∧ answer.Consistent digest.digest
              ∧ answer.pubkey = found.pubkey := by
  intro outcome
  refine ⟨handleSignDataShared_in_range, fun fault => handleSignDataShared_of_error, ?_⟩
  intro result succeeded
  obtain ⟨answer, answered, written⟩ := handleSignDataShared_ok succeeded
  obtain ⟨found, digest, req, r, s, same, _, caller, read, signed, rfl⟩ :=
    signDataAnswerOf_ok answered
  obtain ⟨input, copied, userData⟩ := SharedMemory.readSignDataReq_ok read
  have consistent := SignDataReq.consistent_of_signed documented draws (generated found same)
    signed
  refine ⟨found, digest, input, _, same, caller, currentExeFsverityDigest_iff.mp ⟨_, caller, rfl⟩,
    ?_, ?_, copied, written, userData, consistent, rfl⟩
  · rw [digest.digest_length]
    exact digest.size_pos
  · rw [digest.digest_length]
    exact digest.size_le

/-- A buffer of zeros that another thread fills with ones after it was read. -/
def racingMemory : SharedMemory where
  view access := { lifeMemory with byte := fun _ => if access < SIGN_DATA_REQ_BYTES then 0 else 1 }

theorem signData_consistent_race
    : ∃ keyPair answer,
        generateKeyPair lifeCalls = .ok keyPair
        ∧ (handleSignDataShared Kernel.reference (fun _ => KeyCalls.one) (some keyPair) lifeTask
            racingMemory 4096 TARAKO_SIGN_DATA).1
          = placed 4096 (SignDataReq.bytes answer)
        ∧ answer.userData.1 = List.replicate USER_DATA_BYTES 0
        ∧ answer.pubkey = keyPair.pubkey
        ∧ ∃ digest, lifeTask.HasDigest digest ∧ answer.Consistent digest := by
  have evaluated : (generateKeyPair lifeCalls).toOption.any (fun keyPair =>
      decide ((handleSignDataShared Kernel.reference (fun _ => KeyCalls.one) (some keyPair)
        lifeTask racingMemory 4096 TARAKO_SIGN_DATA).2.toOption = some 0)) = true := by
    decide +kernel
  have read : (racingMemory.copyIn 0 4096 SIGN_DATA_REQ_BYTES).toOption.map
      (fun input => input.1.take USER_DATA_BYTES) = some (List.replicate USER_DATA_BYTES 0) := by
    decide +kernel
  cases made : generateKeyPair lifeCalls with
  | error error =>
      rw [made] at evaluated
      cases evaluated
  | ok keyPair =>
      rw [made] at evaluated
      have generated : keyPair.Generated :=
        ⟨lifeCalls, KeyCalls.one_documented, by rintro n ⟨⟩; decide +kernel, made⟩
      have consistent := signData_consistent Kernel.reference_documented
        (fun _ => KeyCalls.one_documented)
        (fun found same => Option.some.inj same ▸ generated) lifeTask racingMemory 4096
        TARAKO_SIGN_DATA
      have succeeded := of_decide_eq_true evaluated
      cases result : (handleSignDataShared Kernel.reference (fun _ => KeyCalls.one)
          (some keyPair) lifeTask racingMemory 4096 TARAKO_SIGN_DATA).2 with
      | error fault =>
          rw [result] at succeeded
          cases succeeded
      | ok value =>
          obtain ⟨found, digest, input, answer, same, _, has, _, _, copied, written, userData, valid,
            pubkey⟩ := consistent.2.2 value result
          cases same
          rw [copied] at read
          exact ⟨keyPair, answer, rfl, written, userData.trans (Option.some.inj read), pubkey, _,
            has, valid⟩

end Tarako.Driver
