import Tarako.Driver.Sign

/-! The ioctls of `/dev/tarako`: command numbers, key pairs, the caller's fs-verity digest,
user memory and the signing request.
-/

namespace Tarako.Driver

open Lang ByteDigits

/-- `_IOC`: direction, size, type and number of a command. -/
def ioc (direction size kind number : Nat) : UInt32 :=
  UInt32.ofNat (direction * 2 ^ 30 + size * 2 ^ 16 + kind * 2 ^ 8 + number)

/-- `_IOC_SIZE`. -/
def iocSize (cmd : UInt32) : Nat :=
  cmd.toNat / 2 ^ 16 % 2 ^ 14

/-- `USER_DATA_BYTES`. -/
def USER_DATA_BYTES : Nat := 1024 / 8

/-- `size_of::<SignDataReq>()`. -/
def SIGN_DATA_REQ_BYTES : Nat := USER_DATA_BYTES + 3 * P256_BYTES + P256_PUBKEY_BYTES

def TARAKO_HELLO : UInt32 := ioc 0 0 0x53 0x00

def TARAKO_GET_PUBKEY : UInt32 := ioc 2 P256_PUBKEY_BYTES 0x53 0x01

def TARAKO_SIGN_DATA : UInt32 := ioc 3 SIGN_DATA_REQ_BYTES 0x53 0x02

/-- The numbers the driver documents, and that the Attester uses. -/
theorem commands_documented
    : TARAKO_HELLO = 0x00005300
      ∧ TARAKO_GET_PUBKEY = 0x80215301
      ∧ TARAKO_SIGN_DATA = 0xC1015302 := by
  decide

theorem iocSize_getPubkey : iocSize TARAKO_GET_PUBKEY = P256_PUBKEY_BYTES := by decide

-----------------------------------------------------------------------------------------
-- User memory
-----------------------------------------------------------------------------------------

/-- The address space of a calling process. -/
structure UserMemory where
  byte : Nat → UInt8
  readable : Nat → Bool
  writable : Nat → Bool

/-- The bytes at an address. -/
def UserMemory.load (memory : UserMemory) (address : Nat) : Nat → Bytes
  | 0 => []
  | count + 1 => memory.byte address :: memory.load (address + 1) count

@[simp]
theorem UserMemory.load_length (memory : UserMemory) (address count : Nat)
    : (memory.load address count).length = count := by
  induction count generalizing address with
  | zero => rfl
  | succ count ih => simp [UserMemory.load, ih]

def UserMemory.allReadable (memory : UserMemory) (address : Nat) : Nat → Bool
  | 0 => true
  | count + 1 => memory.readable address && memory.allReadable (address + 1) count

/-- `copy_to_user`: stops at the first address that faults and keeps what it wrote. -/
def UserMemory.store (memory : UserMemory) (address : Nat) : Bytes → UserMemory × Bool
  | [] => (memory, true)
  | byte :: rest =>
      if memory.writable address then
        { memory with byte := Function.update memory.byte address byte }.store (address + 1) rest
      else
        (memory, false)

/-- `UserSliceReader::read_slice` on a slice of `bufSize` bytes. -/
def UserMemory.readSlice (memory : UserMemory) (address bufSize count : Nat)
    : Except Errno (U8Array count) :=
  if count > bufSize then
    .error EFAULT
  else if memory.allReadable address count then
    .ok ⟨memory.load address count, memory.load_length address count⟩
  else
    .error EFAULT

/-- `UserSliceWriter::write_slice` on a slice of `bufSize` bytes. -/
def UserMemory.writeSlice (memory : UserMemory) (address bufSize : Nat) (data : Bytes)
    : UserMemory × Except Errno Unit :=
  if data.length > bufSize then
    (memory, .error EFAULT)
  else
    match memory.store address data with
    | (written, true) => (written, .ok ())
    | (written, false) => (written, .error EFAULT)

theorem UserMemory.store_below (memory : UserMemory) {address other : Nat} (data : Bytes)
    (below : other < address)
    : (memory.store address data).1.byte other = memory.byte other := by
  induction data generalizing memory address with
  | nil => rfl
  | cons byte rest ih =>
      unfold UserMemory.store
      split
      · rw [ih _ (by omega)]
        exact Function.update_of_ne (by omega) _ _
      · rfl

/-- A completed copy reads back, by induction on the data: later bytes leave earlier ones. -/
theorem UserMemory.load_store (memory : UserMemory) (address : Nat) (data : Bytes)
    (completed : (memory.store address data).2 = true)
    : (memory.store address data).1.load address data.length = data := by
  induction data generalizing memory address with
  | nil => rfl
  | cons byte rest ih =>
      unfold UserMemory.store at completed ⊢
      split at completed
      · next allowed =>
          rw [if_pos allowed]
          have head := UserMemory.store_below
            { memory with byte := Function.update memory.byte address byte } rest
            (Nat.lt_succ_self address)
          simp only [Function.update_self] at head
          simp only [List.length_cons, UserMemory.load, ih _ _ completed, head]
      · cases completed

/-- A copy into a range that can be written completes. -/
theorem UserMemory.store_completes (memory : UserMemory) (address : Nat) (data : Bytes)
    (allowed : ∀ offset < data.length, memory.writable (address + offset) = true)
    : (memory.store address data).2 = true := by
  induction data generalizing memory address with
  | nil => rfl
  | cons byte rest ih =>
      have first := allowed 0 (by simp)
      rw [Nat.add_zero] at first
      unfold UserMemory.store
      rw [if_pos first]
      apply ih
      intro offset below
      have next := allowed (offset + 1) (by simpa using below)
      rwa [Nat.add_comm offset 1, ← Nat.add_assoc] at next

theorem UserMemory.readSlice_ok {memory : UserMemory} {address bufSize count : Nat}
    {bytes : U8Array count} (read : memory.readSlice address bufSize count = .ok bytes)
    : bytes.1 = memory.load address count := by
  unfold UserMemory.readSlice at read
  split_ifs at read
  cases read
  rfl

theorem UserMemory.writeSlice_ok {memory written : UserMemory} {address bufSize : Nat}
    {data : Bytes} (wrote : memory.writeSlice address bufSize data = (written, .ok ()))
    : written.load address data.length = data := by
  unfold UserMemory.writeSlice at wrote
  split at wrote
  · cases wrote
  · have back := memory.load_store address data
    split at wrote
    · next stored =>
        cases wrote
        rw [stored] at back
        exact back rfl
    · cases wrote

theorem UserMemory.writeSlice_completes (memory : UserMemory) (address : Nat)
    {bufSize : Nat} {data : Bytes} (fits : data.length ≤ bufSize)
    (allowed : ∀ offset < data.length, memory.writable (address + offset) = true)
    : ∃ written, memory.writeSlice address bufSize data = (written, .ok ()) := by
  have completes := memory.store_completes address data allowed
  unfold UserMemory.writeSlice
  rw [if_neg (by omega)]
  split
  · exact ⟨_, rfl⟩
  · next stopped =>
      rw [stopped] at completes
      cases completes

/-- `SignDataReq`: byte arrays only, so its representation has no padding. -/
structure SignDataReq where
  userData : U8Array USER_DATA_BYTES
  hash : U8Array P256_BYTES
  sigR : U8Array P256_BYTES
  sigS : U8Array P256_BYTES
  pubkey : U8Array P256_PUBKEY_BYTES
deriving DecidableEq

/-- `sign_data_req_bytes`. -/
def SignDataReq.bytes (req : SignDataReq) : Bytes :=
  req.userData.1 ++ req.hash.1 ++ req.sigR.1 ++ req.sigS.1 ++ req.pubkey.1

/-- The array at an offset of a larger one. -/
def slice {total : Nat} (bytes : U8Array total) (offset count : Nat)
    (inside : offset + count ≤ total)
    : U8Array count :=
  ⟨(bytes.1.drop offset).take count, by
    rw [List.length_take, List.length_drop, bytes.2]
    omega⟩

/-- The request whose representation is given: `sign_data_req_bytes_mut` after a read. -/
def SignDataReq.ofBytes (bytes : U8Array SIGN_DATA_REQ_BYTES) : SignDataReq where
  userData := slice bytes 0 USER_DATA_BYTES (by decide)
  hash := slice bytes USER_DATA_BYTES P256_BYTES (by decide)
  sigR := slice bytes (USER_DATA_BYTES + P256_BYTES) P256_BYTES (by decide)
  sigS := slice bytes (USER_DATA_BYTES + 2 * P256_BYTES) P256_BYTES (by decide)
  pubkey := slice bytes (USER_DATA_BYTES + 3 * P256_BYTES) P256_PUBKEY_BYTES (by decide)

theorem SignDataReq.bytes_length (req : SignDataReq)
    : req.bytes.length = SIGN_DATA_REQ_BYTES := by
  simp only [SignDataReq.bytes, List.length_append, req.userData.2, req.hash.2, req.sigR.2,
    req.sigS.2, req.pubkey.2]
  rfl

/-- The representation determines the request. -/
theorem SignDataReq.ofBytes_bytes (req : SignDataReq)
    : SignDataReq.ofBytes ⟨req.bytes, req.bytes_length⟩ = req := by
  obtain ⟨⟨userData, userLength⟩, ⟨hash, hashLength⟩, ⟨sigR, rLength⟩, ⟨sigS, sLength⟩,
    ⟨pubkey, keyLength⟩⟩ := req
  simp only [SignDataReq.ofBytes, SignDataReq.bytes, slice, SignDataReq.mk.injEq,
    Subtype.mk.injEq, List.append_assoc]
  refine ⟨?_, ?_, ?_, ?_, ?_⟩
  · simp [userLength]
  · simp [← userLength, ← hashLength]
  · rw [← List.append_assoc userData, List.drop_left' (by simp [userLength, hashLength])]
    simp [← rLength]
  · rw [← List.append_assoc hash, ← List.append_assoc userData,
      List.drop_left' (by simp [userLength, hashLength, rLength]; rfl)]
    simp [← sLength]
  · rw [← List.append_assoc sigR, ← List.append_assoc hash, ← List.append_assoc userData,
      List.drop_left' (by simp [userLength, hashLength, rLength, sLength]; rfl)]
    simp [← keyLength]

/-- `read_sign_data_req`. -/
def readSignDataReq (memory : UserMemory) (arg bufSize : Nat) : Except Errno SignDataReq := do
  let bytes ← memory.readSlice arg bufSize SIGN_DATA_REQ_BYTES
  pure (SignDataReq.ofBytes bytes)

/-- `write_sign_data_req`. -/
def writeSignDataReq (memory : UserMemory) (arg bufSize : Nat) (req : SignDataReq)
    : UserMemory × Except Errno Unit :=
  memory.writeSlice arg bufSize req.bytes

-----------------------------------------------------------------------------------------
-- Key pairs
-----------------------------------------------------------------------------------------

structure KeyPair where
  secret : Scalar
  pubkey : U8Array P256_PUBKEY_BYTES
  curveN : Scalar
  imaMeasured : Bool
deriving DecidableEq

/-- `KeyPair::sign`. -/
def KeyPair.sign (kernel : Kernel) (calls : Nat → KeyCalls) (keyPair : KeyPair) (data : Bytes)
    : Except Errno (Scalar × Scalar) :=
  ecdsaSign kernel calls data keyPair.secret keyPair.curveN

/-- `KeyPair::sign` with the data that it signed. -/
def KeyPair.signLog (kernel : Kernel) (calls : Nat → KeyCalls) (keyPair : KeyPair) (data : Bytes)
    : CallLog Bytes Errno (Scalar × Scalar) :=
  .succeeding data (keyPair.sign kernel calls data)

/-- SEC1 compressed form: `0x02` or `0x03` by the parity of `y`, then `x`. -/
def compressed (x y : U8Array P256_BYTES) : U8Array P256_PUBKEY_BYTES :=
  ⟨(0x02 ||| (y.1.getD (P256_BYTES - 1) 0 &&& 1)) :: x.1, by
    rw [List.length_cons, x.2]
    rfl⟩

/-- The kernel calls of one `generate_key_pair`: those behind the key, the curve lookup and
the return codes of the IMA measurement.
-/
structure GenerateCalls where
  key : KeyCalls
  eccGetCurve : Option (Option Scalar)
  imaMeasureCriticalData : ImaMeasurement → Int

/-- `generate_key_pair` with what it had IMA measure: a failed measurement keeps the key,
unmeasured.
-/
def generateKeyPairLog (calls : GenerateCalls) : CallLog ImaMeasurement Errno KeyPair := do
  let secret ← .lift (generatePrivateKey calls.key)
  let publicPoint ← .lift (makePublicKey calls.key secret)
  let pubkey := compressed publicPoint.xAsBytes publicPoint.yAsBytes
  match getCurveN calls.eccGetCurve with
  | none => .lift (.error EINVAL)
  | some curveN =>
      let imaMeasured ← (imaMeasurePubkey calls.imaMeasureCriticalData pubkey.1).attempt
      pure ⟨secret, pubkey, curveN, imaMeasured⟩

/-- `generate_key_pair`. -/
def generateKeyPair (calls : GenerateCalls) : Except Errno KeyPair :=
  (generateKeyPairLog calls).result

/-- `FS_VERITY_MAX_DIGEST_SIZE`. -/
def FS_VERITY_MAX_DIGEST_SIZE : Nat := 64

/-- A digest in its buffer; a constructed one has between one and sixty-four bytes. -/
structure FsverityDigest where
  size : Nat
  buffer : U8Array FS_VERITY_MAX_DIGEST_SIZE
  size_pos : 0 < size
  size_le : size ≤ FS_VERITY_MAX_DIGEST_SIZE

/-- `FsverityDigest::digest`. -/
def FsverityDigest.digest (digest : FsverityDigest) : Bytes :=
  digest.buffer.1.take digest.size

/-- What the lookups of `current_exe_fsverity_digest` find in the calling task, and the
return code and buffer of `fsverity_get_digest` on its executable.
-/
structure CurrentTask where
  hasMm : Bool
  mmNull : Bool
  exeFileNull : Bool
  inodeNull : Bool
  fsverityGetDigest : Int × U8Array FS_VERITY_MAX_DIGEST_SIZE

/-- `current_exe_fsverity_digest`. -/
def currentExeFsverityDigest (task : CurrentTask) : Except Errno FsverityDigest :=
  if !task.hasMm then
    .error EPERM
  else if task.mmNull then
    .error EPERM
  else if task.exeFileNull then
    .error EPERM
  else if task.inodeNull then
    .error EPERM
  else
    let (ret, buffer) := task.fsverityGetDigest
    if ret < 0 then
      .error (Errno.fromErrno ret)
    else if empty : ret.toNat = 0 then
      .error ENOENT
    else if large : ret.toNat > FS_VERITY_MAX_DIGEST_SIZE then
      .error EOVERFLOW
    else
      .ok ⟨ret.toNat, buffer, Nat.pos_of_ne_zero empty, Nat.le_of_not_gt large⟩

/-- The executable of a task has a file with an inode, and that file has this fs-verity digest, of
at most sixty-four bytes.
-/
structure CurrentTask.HasDigest (task : CurrentTask) (digest : Bytes) : Prop where
  mm : task.hasMm = true ∧ task.mmNull = false
  exeFile : task.exeFileNull = false
  inode : task.inodeNull = false
  positive : 1 ≤ task.fsverityGetDigest.1
  bounded : task.fsverityGetDigest.1 ≤ 64
  bytes : digest = task.fsverityGetDigest.2.1.take task.fsverityGetDigest.1.toNat

/-- A digest is found for the tasks that have one, and for no others. -/
theorem currentExeFsverityDigest_iff {task : CurrentTask} {bytes : Bytes}
    : (∃ digest, currentExeFsverityDigest task = .ok digest ∧ digest.digest = bytes)
      ↔ task.HasDigest bytes := by
  obtain ⟨hasMm, mmNull, exeFileNull, inodeNull, ret, buffer⟩ := task
  unfold currentExeFsverityDigest
  dsimp only
  constructor
  · rintro ⟨digest, found, rfl⟩
    split_ifs at found with noMm nullMm nullFile nullInode negative empty large
    cases found
    dsimp only [FS_VERITY_MAX_DIGEST_SIZE] at large
    exact {
      mm := ⟨by simpa using noMm, by simpa using nullMm⟩
      exeFile := by simpa using nullFile
      inode := by simpa using nullInode
      positive := by dsimp only; omega
      bounded := by dsimp only; omega
      bytes := rfl }
  · rintro ⟨⟨rfl, rfl⟩, rfl, rfl, positive, bounded, rfl⟩
    dsimp only at positive bounded
    have nonempty : ¬ ret.toNat = 0 := by omega
    have small : ¬ ret.toNat > FS_VERITY_MAX_DIGEST_SIZE := by
      rw [FS_VERITY_MAX_DIGEST_SIZE]
      omega
    simp only [Bool.not_true, Bool.false_eq_true, if_false, Int.not_lt.mpr (by omega : 0 ≤ ret),
      dif_neg nonempty, dif_neg small]
    exact ⟨_, rfl, rfl⟩

-----------------------------------------------------------------------------------------
-- Handlers
-----------------------------------------------------------------------------------------

/-- `handle_get_pubkey`. -/
def handleGetPubkey (keyPair : Option KeyPair) (memory : UserMemory) (arg : Nat) (cmd : UInt32)
    : UserMemory × Except Errno Int :=
  match keyPair with
  | none => (memory, .error ENXIO)
  | some keyPair =>
      if iocSize cmd < P256_PUBKEY_BYTES then
        (memory, .error E2BIG)
      else
        match memory.writeSlice arg (iocSize cmd) keyPair.pubkey.1 with
        | (written, .ok ()) => (written, .ok P256_PUBKEY_BYTES)
        | (written, .error error) => (written, .error error)

/-- Big-endian bytes of a scalar, limb by limb from the highest. -/
def scalarBytes (v : Scalar) : U8Array P256_BYTES :=
  ⟨v.limbs.reverse.flatMap (fun limb => toBe 8 limb.toNat), by
    simp [List.length_flatMap, v.length_eq]
    rfl⟩

/-- Everything `handle_sign_data` does before it writes its answer, from the request that was read,
with the bytes that the key pair signed: the digest followed by the user data, whose number never
overflows.
-/
def signDataLog (kernel : Kernel) (calls : Nat → KeyCalls) (keyPair : Option KeyPair)
    (task : CurrentTask) (read : Except Errno SignDataReq)
    : CallLog Bytes Errno SignDataReq :=
  match keyPair with
  | none => .lift (.error ENXIO)
  | some keyPair =>
      if !keyPair.imaMeasured then
        .lift (.error EPERM)
      else do
        let digest ← .lift (currentExeFsverityDigest task)
        let req ← .lift read
        let toSign := digest.digest ++ req.userData.1
        let (r, s) ← keyPair.signLog kernel calls toSign
        pure ⟨req.userData, sha256Hash kernel toSign, scalarBytes r, scalarBytes s, keyPair.pubkey⟩

/-- The answer alone. -/
def signDataAnswerOf (kernel : Kernel) (calls : Nat → KeyCalls) (keyPair : Option KeyPair)
    (task : CurrentTask) (read : Except Errno SignDataReq)
    : Except Errno SignDataReq :=
  (signDataLog kernel calls keyPair task read).result

/-- The answer to the request in the caller's memory. -/
def signDataAnswer (kernel : Kernel) (calls : Nat → KeyCalls) (keyPair : Option KeyPair)
    (task : CurrentTask) (memory : UserMemory) (arg bufSize : Nat)
    : Except Errno SignDataReq :=
  signDataAnswerOf kernel calls keyPair task (readSignDataReq memory arg bufSize)

/-- `handle_sign_data` with the bytes that the key pair signed, which a failed copy to the caller
does not undo.
-/
def handleSignDataLog (kernel : Kernel) (calls : Nat → KeyCalls) (keyPair : Option KeyPair)
    (task : CurrentTask) (memory : UserMemory) (arg : Nat) (cmd : UInt32)
    : UserMemory × CallLog Bytes Errno Int :=
  let answer := signDataLog kernel calls keyPair task (readSignDataReq memory arg (iocSize cmd))
  match answer.result with
  | .error error => (memory, ⟨answer.calls, .error error⟩)
  | .ok req =>
      match writeSignDataReq memory arg (iocSize cmd) req with
      | (written, .ok ()) => (written, ⟨answer.calls, .ok 0⟩)
      | (written, .error error) => (written, ⟨answer.calls, .error error⟩)

/-- The memory and the result of a call. -/
def outcome (called : UserMemory × CallLog Bytes Errno Int) : UserMemory × Except Errno Int :=
  (called.1, called.2.result)

/-- `handle_sign_data`. -/
def handleSignData (kernel : Kernel) (calls : Nat → KeyCalls) (keyPair : Option KeyPair)
    (task : CurrentTask) (memory : UserMemory) (arg : Nat) (cmd : UInt32)
    : UserMemory × Except Errno Int :=
  outcome (handleSignDataLog kernel calls keyPair task memory arg cmd)

/-- `TarakoDevice::ioctl` with the bytes that the key pair signed. -/
def ioctlLog (kernel : Kernel) (calls : Nat → KeyCalls) (keyPair : Option KeyPair)
    (task : CurrentTask) (memory : UserMemory) (cmd : UInt32) (arg : Nat)
    : UserMemory × CallLog Bytes Errno Int :=
  if cmd = TARAKO_HELLO then
    (memory, .lift (.ok 0))
  else if cmd = TARAKO_GET_PUBKEY then
    let (written, result) := handleGetPubkey keyPair memory arg cmd
    (written, .lift result)
  else if cmd = TARAKO_SIGN_DATA then
    handleSignDataLog kernel calls keyPair task memory arg cmd
  else
    (memory, .lift (.error ENOTTY))

/-- `TarakoDevice::ioctl`. -/
def ioctl (kernel : Kernel) (calls : Nat → KeyCalls) (keyPair : Option KeyPair)
    (task : CurrentTask) (memory : UserMemory) (cmd : UInt32) (arg : Nat)
    : UserMemory × Except Errno Int :=
  outcome (ioctlLog kernel calls keyPair task memory cmd arg)

-----------------------------------------------------------------------------------------
-- What successful calls did
-----------------------------------------------------------------------------------------

/-- What a successful signing call did: it used a measured key pair, signed the caller's digest
followed by its user data, and left the filled request in the caller's memory.
-/
structure SignedData (kernel : Kernel) (calls : Nat → KeyCalls) (keyPair : KeyPair)
    (task : CurrentTask) (memory written : UserMemory) (arg : Nat)
    (digest : FsverityDigest) (userData : U8Array USER_DATA_BYTES) (r s : Scalar) : Prop where
  measured : keyPair.imaMeasured = true
  caller : currentExeFsverityDigest task = .ok digest
  requested : userData.1 = memory.load arg USER_DATA_BYTES
  signed : ecdsaSign kernel calls (digest.digest ++ userData.1) keyPair.secret keyPair.curveN
    = .ok (r, s)
  answered : written.load arg SIGN_DATA_REQ_BYTES
    = SignDataReq.bytes ⟨userData, sha256Hash kernel (digest.digest ++ userData.1),
        scalarBytes r, scalarBytes s, keyPair.pubkey⟩

theorem UserMemory.load_take (memory : UserMemory) (address : Nat) {count total : Nat}
    (inside : count ≤ total)
    : (memory.load address total).take count = memory.load address count := by
  induction count generalizing address total with
  | zero => rfl
  | succ count ih =>
      cases total with
      | zero => omega
      | succ total => simp [UserMemory.load, ih (address + 1) (Nat.le_of_succ_le_succ inside)]

theorem readSignDataReq_ok {memory : UserMemory} {arg bufSize : Nat} {req : SignDataReq}
    (read : readSignDataReq memory arg bufSize = .ok req)
    : req.userData.1 = memory.load arg USER_DATA_BYTES := by
  obtain ⟨bytes, found, filled⟩ := bind_eq_ok.mp read
  cases filled
  change (bytes.1.drop 0).take USER_DATA_BYTES = _
  rw [UserMemory.readSlice_ok found, List.drop_zero]
  exact memory.load_take arg (by decide)

/-- Without its log, the answer of a key pair. -/
theorem signDataAnswerOf_some (kernel : Kernel) (calls : Nat → KeyCalls) (keyPair : KeyPair)
    (task : CurrentTask) (read : Except Errno SignDataReq)
    : signDataAnswerOf kernel calls (some keyPair) task read
      = (if !keyPair.imaMeasured then
          .error EPERM
        else do
          let digest ← currentExeFsverityDigest task
          let req ← read
          let toSign := digest.digest ++ req.userData.1
          let (r, s) ← keyPair.sign kernel calls toSign
          pure ⟨req.userData, sha256Hash kernel toSign, scalarBytes r, scalarBytes s,
            keyPair.pubkey⟩) := by
  unfold signDataAnswerOf signDataLog
  dsimp only
  split_ifs
  · rfl
  · simp only [CallLog.bind_result, CallLog.lift_result, KeyPair.signLog,
      CallLog.succeeding_result, CallLog.pure_result]
    rfl

/-- A computed answer signs the caller's digest and the user data that was read, with a
measured key pair.
-/
theorem signDataAnswerOf_ok {kernel : Kernel} {calls : Nat → KeyCalls}
    {keyPair : Option KeyPair} {task : CurrentTask} {read : Except Errno SignDataReq}
    {answer : SignDataReq}
    (answered : signDataAnswerOf kernel calls keyPair task read = .ok answer)
    : ∃ found digest req r s,
        keyPair = some found
        ∧ found.imaMeasured = true
        ∧ currentExeFsverityDigest task = .ok digest
        ∧ read = .ok req
        ∧ ecdsaSign kernel calls (digest.digest ++ req.userData.1) found.secret found.curveN
          = .ok (r, s)
        ∧ answer = ⟨req.userData, sha256Hash kernel (digest.digest ++ req.userData.1),
            scalarBytes r, scalarBytes s, found.pubkey⟩ := by
  cases keyPair with
  | none => cases answered
  | some found =>
      rw [signDataAnswerOf_some] at answered
      split at answered
      · cases answered
      · next measured =>
          obtain ⟨digest, caller, answered⟩ := bind_eq_ok.mp answered
          obtain ⟨req, readOk, answered⟩ := bind_eq_ok.mp answered
          obtain ⟨⟨r, s⟩, signed, answered⟩ := bind_eq_ok.mp answered
          exact ⟨found, digest, req, r, s, rfl, by simpa using measured, caller, readOk, signed,
            (Except.ok.inj answered).symm⟩

/-- What was signed for an answer: the caller's digest and the user data that was read, with a
measured key pair.
-/
theorem signDataLog_signed {kernel : Kernel} {calls : Nat → KeyCalls}
    {keyPair : Option KeyPair} {task : CurrentTask} {read : Except Errno SignDataReq}
    {data : Bytes} (signed : data ∈ (signDataLog kernel calls keyPair task read).calls)
    : ∃ found digest req r s,
        keyPair = some found
        ∧ found.imaMeasured = true
        ∧ currentExeFsverityDigest task = .ok digest
        ∧ read = .ok req
        ∧ data = digest.digest ++ req.userData.1
        ∧ found.sign kernel calls data = .ok (r, s)
        ∧ ∃ answer, signDataAnswerOf kernel calls keyPair task read = .ok answer := by
  cases keyPair with
  | none => cases signed
  | some found =>
      simp only [signDataLog] at signed
      split_ifs at signed with unmeasured
      · cases signed
      · simp only [CallLog.mem_bind, CallLog.lift_calls, CallLog.lift_result, List.not_mem_nil,
          false_or, CallLog.pure_calls, and_false, exists_false, or_false] at signed
        obtain ⟨digest, caller, req, readOk, signed⟩ := signed
        obtain ⟨rfl, ⟨r, s⟩, made⟩ := CallLog.mem_succeeding.mp signed
        refine ⟨found, digest, req, r, s, rfl, by simpa using unmeasured, caller, readOk, rfl, made,
          ⟨req.userData, sha256Hash kernel (digest.digest ++ req.userData.1), scalarBytes r,
            scalarBytes s, found.pubkey⟩, ?_⟩
        rw [signDataAnswerOf_some, if_neg unmeasured]
        exact bind_eq_ok.mpr ⟨_, caller, bind_eq_ok.mpr ⟨_, readOk, bind_eq_ok.mpr ⟨_, made, rfl⟩⟩⟩

/-- Without its log, a signing call writes the answer to its request, if there is one. -/
theorem handleSignData_eq (kernel : Kernel) (calls : Nat → KeyCalls) (keyPair : Option KeyPair)
    (task : CurrentTask) (memory : UserMemory) (arg : Nat) (cmd : UInt32)
    : handleSignData kernel calls keyPair task memory arg cmd
      = match signDataAnswer kernel calls keyPair task memory arg (iocSize cmd) with
        | .error error => (memory, .error error)
        | .ok req =>
            match writeSignDataReq memory arg (iocSize cmd) req with
            | (written, .ok ()) => (written, .ok 0)
            | (written, .error error) => (written, .error error) := by
  unfold handleSignData handleSignDataLog signDataAnswer signDataAnswerOf
  dsimp only
  split
  · rfl
  · split <;> rfl

/-- Without its log, an ioctl is one of the handlers. -/
theorem ioctl_eq (kernel : Kernel) (calls : Nat → KeyCalls) (keyPair : Option KeyPair)
    (task : CurrentTask) (memory : UserMemory) (cmd : UInt32) (arg : Nat)
    : ioctl kernel calls keyPair task memory cmd arg
      = if cmd = TARAKO_HELLO then
          (memory, .ok 0)
        else if cmd = TARAKO_GET_PUBKEY then
          handleGetPubkey keyPair memory arg cmd
        else if cmd = TARAKO_SIGN_DATA then
          handleSignData kernel calls keyPair task memory arg cmd
        else
          (memory, .error ENOTTY) := by
  unfold ioctl ioctlLog
  split_ifs <;> rfl

/-- A successful signing call writes its answer where it read the request. -/
theorem handleSignData_ok {kernel : Kernel} {calls : Nat → KeyCalls}
    {keyPair : Option KeyPair} {task : CurrentTask} {memory written : UserMemory} {arg : Nat}
    {cmd : UInt32} {result : Int}
    (succeeded : handleSignData kernel calls keyPair task memory arg cmd
      = (written, .ok result))
    : result = 0
      ∧ ∃ found digest userData r s,
          keyPair = some found
          ∧ SignedData kernel calls found task memory written arg digest userData r s := by
  rw [handleSignData_eq] at succeeded
  split at succeeded
  · cases succeeded
  · next answer answered =>
      split at succeeded
      · next wrote =>
          cases succeeded
          obtain ⟨found, digest, req, r, s, rfl, measured, caller, read, signed, rfl⟩ :=
            signDataAnswerOf_ok answered
          have back := UserMemory.writeSlice_ok wrote
          rw [SignDataReq.bytes_length] at back
          exact ⟨rfl, found, digest, req.userData, r, s, rfl,
            ⟨measured, caller, readSignDataReq_ok read, signed, back⟩⟩
      · cases succeeded

/-- A write of the answer that fails is a fault. -/
theorem writeSignDataReq_error {memory written : UserMemory} {arg bufSize : Nat}
    {req : SignDataReq} {error : Errno}
    (failed : writeSignDataReq memory arg bufSize req = (written, .error error))
    : error = EFAULT := by
  unfold writeSignDataReq UserMemory.writeSlice at failed
  split at failed
  · cases failed
    rfl
  · split at failed
    · cases failed
    · cases failed
      rfl

/-- Whatever an ioctl had signed is the digest of the caller's executable followed by the user data
in its memory, for `TARAKO_SIGN_DATA` and with a measured key pair. The call succeeded then, or its
answer could not be copied out.
-/
theorem ioctlLog_signed {kernel : Kernel} {calls : Nat → KeyCalls} {keyPair : Option KeyPair}
    {task : CurrentTask} {memory : UserMemory} {cmd : UInt32} {arg : Nat} {data : Bytes}
    (signed : data ∈ (ioctlLog kernel calls keyPair task memory cmd arg).2.calls)
    : cmd = TARAKO_SIGN_DATA
      ∧ ∃ found digest r s,
          keyPair = some found
          ∧ found.imaMeasured = true
          ∧ task.HasDigest digest
          ∧ data = digest ++ memory.load arg USER_DATA_BYTES
          ∧ found.sign kernel calls data = .ok (r, s)
          ∧ ((ioctl kernel calls keyPair task memory cmd arg).2 = .ok 0
            ∨ (ioctl kernel calls keyPair task memory cmd arg).2 = .error EFAULT) := by
  rw [ioctl_eq]
  unfold ioctlLog at signed
  split_ifs at signed ⊢ with isHello isGet isSign
  · cases signed
  · cases signed
  · have inAnswer : data ∈ (signDataLog kernel calls keyPair task
        (readSignDataReq memory arg (iocSize cmd))).calls := by
      unfold handleSignDataLog at signed
      dsimp only at signed
      split at signed
      · exact signed
      · split at signed <;> exact signed
    obtain ⟨found, digest, req, r, s, same, measured, caller, read, rfl, made, answer, answered⟩ :=
      signDataLog_signed inAnswer
    refine ⟨isSign, found, digest.digest, r, s, same, measured,
      currentExeFsverityDigest_iff.mp ⟨digest, caller, rfl⟩, ?_, made, ?_⟩
    · rw [readSignDataReq_ok read]
    · rw [handleSignData_eq, signDataAnswer, answered]
      dsimp only
      split
      · exact .inl rfl
      · next failed =>
          rw [writeSignDataReq_error failed]
          exact .inr rfl
  · cases signed

/-- A successful public-key call leaves the key pair's public key in the caller's memory. -/
theorem handleGetPubkey_ok {keyPair : Option KeyPair} {memory written : UserMemory} {arg : Nat}
    {cmd : UInt32} {result : Int}
    (succeeded : handleGetPubkey keyPair memory arg cmd = (written, .ok result))
    : result = P256_PUBKEY_BYTES
      ∧ ∃ found,
          keyPair = some found ∧ written.load arg P256_PUBKEY_BYTES = found.pubkey.1 := by
  unfold handleGetPubkey at succeeded
  split at succeeded
  · cases succeeded
  · next found =>
      split at succeeded
      · cases succeeded
      · split at succeeded
        · next wrote =>
            cases succeeded
            have back := UserMemory.writeSlice_ok wrote
            rw [found.pubkey.2] at back
            exact ⟨rfl, found, rfl, back⟩
        · cases succeeded

/-- A public-key call on a filled cell succeeds where the caller's memory can be written. -/
theorem handleGetPubkey_completes (keyPair : KeyPair) (memory : UserMemory) (arg : Nat)
    (allowed : ∀ offset < P256_PUBKEY_BYTES, memory.writable (arg + offset) = true)
    : ∃ written,
        handleGetPubkey (some keyPair) memory arg TARAKO_GET_PUBKEY
        = (written, .ok P256_PUBKEY_BYTES) := by
  obtain ⟨written, wrote⟩ := memory.writeSlice_completes arg (le_of_eq keyPair.pubkey.2)
    (by rwa [keyPair.pubkey.2])
  refine ⟨written, ?_⟩
  simp only [handleGetPubkey, wrote, iocSize_getPubkey, Nat.lt_irrefl, if_false]

/-- The big-endian bytes of a scalar have its value. -/
theorem scalarBytes_value (v : Scalar) : beValue (scalarBytes v).1 = v.value := by
  have memory : (scalarBytes v).1.reverse = v.limbs.flatMap limbBytes := by
    simp only [scalarBytes, List.reverse_flatMap, List.reverse_reverse]
    refine List.flatMap_congr fun limb _ => ?_
    exact List.reverse_reverse (limbBytes limb)
  rw [beValue, memory, leValue_memory]
  rfl

/-- A key pair whose public key is the compressed multiple of the base point by its secret,
over the order of the curve.
-/
structure KeyPair.Genuine (keyPair : KeyPair) : Prop where
  order : keyPair.curveN.value = P256.n
  point
    : ∃ x y,
        P256.Coordinates (keyPair.secret.value • P256.G) x y
        ∧ keyPair.pubkey.1 = P256.compress x y

theorem Vli.memory_toLe {N : Nat} (v : Vli N) : v.memory = toLe (N * 8) v.value := by
  have back := toLe_leValue v.memory
  rw [v.memory_length] at back
  rw [← back]
  congr 1
  exact leValue_memory v.limbs

/-- The swapped coordinates compress to the SEC1 form. -/
theorem compressed_swapped (x y : Scalar)
    : (compressed ⟨(eccSwapDigits x).memory, (eccSwapDigits x).memory_length⟩
        ⟨(eccSwapDigits y).memory, (eccSwapDigits y).memory_length⟩).1
      = P256.compress x.value y.value := by
  have tail : (eccSwapDigits x).memory = toBe 32 x.value := by
    rw [eccSwapDigits_memory, Vli.memory_toLe]
    rfl
  have last : (eccSwapDigits y).memory.getD (P256_BYTES - 1) 0 = UInt8.ofNat y.value := by
    rw [eccSwapDigits_memory, Vli.memory_toLe]
    rfl
  have tags : ∀ low : Fin 256,
      (0x02 : UInt8) ||| (UInt8.ofNat low &&& 1) = UInt8.ofNat (2 + low % 2) := by
    decide +kernel
  have tag : (0x02 : UInt8) ||| (UInt8.ofNat y.value &&& 1) = UInt8.ofNat (2 + y.value % 2) := by
    have byte : UInt8.ofNat y.value = UInt8.ofNat (y.value % 256) := by
      apply UInt8.toNat_inj.mp
      simp [UInt8.toNat_ofNat']
    have low := tags ⟨y.value % 256, Nat.mod_lt _ (by decide)⟩
    rwa [← byte, Nat.mod_mod_of_dvd _ (by decide)] at low
  simp only [compressed, P256.compress, tail, last, tag]

/-- Without its log, the generation of a key pair. -/
theorem generateKeyPair_eq (calls : GenerateCalls)
    : generateKeyPair calls
      = (do
          let secret ← generatePrivateKey calls.key
          let publicPoint ← makePublicKey calls.key secret
          let pubkey := compressed publicPoint.xAsBytes publicPoint.yAsBytes
          match getCurveN calls.eccGetCurve with
          | none => .error EINVAL
          | some curveN =>
              pure ⟨secret, pubkey, curveN,
                (imaMeasurePubkey calls.imaMeasureCriticalData pubkey.1).result.isOk⟩) := by
  simp only [generateKeyPair, generateKeyPairLog, CallLog.bind_result, CallLog.lift_result]
  cases getCurveN calls.eccGetCurve <;> rfl

/-- What a successful `generate_key_pair` called, and what it kept of the answers. -/
theorem generateKeyPair_ok {calls : GenerateCalls} {keyPair : KeyPair}
    (generated : generateKeyPair calls = .ok keyPair)
    : ∃ publicPoint,
        generatePrivateKey calls.key = .ok keyPair.secret
        ∧ makePublicKey calls.key keyPair.secret = .ok publicPoint
        ∧ keyPair.pubkey = compressed publicPoint.xAsBytes publicPoint.yAsBytes
        ∧ calls.eccGetCurve = some (some keyPair.curveN)
        ∧ ∃ measurement,
            (generateKeyPairLog calls).calls = [measurement]
            ∧ measurement.eventName = "public-key-generate"
            ∧ measurement.buf = keyPair.pubkey.1
            ∧ measurement.hash = false
            ∧ (keyPair.imaMeasured = true → 0 ≤ calls.imaMeasureCriticalData measurement) := by
  rw [generateKeyPair_eq] at generated
  obtain ⟨secret, drawn, generated⟩ := bind_eq_ok.mp generated
  obtain ⟨publicPoint, derived, generated⟩ := bind_eq_ok.mp generated
  split at generated
  · cases generated
  · next curveN found =>
      let pubkey := compressed publicPoint.xAsBytes publicPoint.yAsBytes
      let measurement : ImaMeasurement :=
        ⟨"tarako_pubkey", "public-key-generate", pubkey.1, false⟩
      have logged : (generateKeyPairLog calls).calls = [measurement] := by
        rw [generateKeyPairLog, CallLog.bind_calls drawn, CallLog.bind_calls derived]
        simp only [found]
        rfl
      cases generated
      refine ⟨publicPoint, drawn, derived, rfl, ?_, measurement, logged, rfl, rfl, rfl, ?_⟩
      · unfold getCurveN at found
        split at found
        · cases found
        · cases found
        · cases found
          assumption
      · intro measured
        by_contra negative
        simp only [imaMeasurePubkey, CallLog.calling_result] at measured
        rw [if_pos (Int.not_le.mp negative)] at measured
        cases measured

/-- A failed `generate_key_pair` had nothing measured. -/
theorem generateKeyPair_error {calls : GenerateCalls} {error : Errno}
    (failed : generateKeyPair calls = .error error)
    : (generateKeyPairLog calls).calls = [] := by
  rw [generateKeyPair_eq] at failed
  unfold generateKeyPairLog
  cases drawn : generatePrivateKey calls.key with
  | error _ => rfl
  | ok secret =>
      rw [CallLog.bind_calls rfl]
      cases derived : makePublicKey calls.key secret with
      | error _ => rfl
      | ok publicPoint =>
          rw [CallLog.bind_calls rfl]
          cases found : getCurveN calls.eccGetCurve with
          | none => rfl
          | some curveN =>
              rw [drawn, found] at failed
              simp only [bind, Except.bind, derived] at failed
              cases failed

/-- The kernel's calls make genuine key pairs. -/
theorem generateKeyPair_genuine {calls : GenerateCalls} (documented : calls.key.Documented)
    (curve : ∀ n, calls.eccGetCurve = some (some n) → n.value = P256.n) {keyPair : KeyPair}
    (generated : generateKeyPair calls = .ok keyPair)
    : keyPair.Genuine := by
  obtain ⟨publicPoint, _, derived, pubkey, order, _⟩ := generateKeyPair_ok generated
  obtain ⟨x, y, coordinates, rfl⟩ := makePublicKey_ok documented derived
  refine ⟨curve keyPair.curveN order, x.value, y.value, coordinates, ?_⟩
  rw [pubkey]
  exact compressed_swapped x y

end Tarako.Driver
