import Tarako.Driver.Ioctl
import Tarako.Library.Lifetimes

/-! The kernel points of the driver: every `ecc_alloc_point` is matched by one `ecc_free_point`,
on the failure exits of `make_public_key` by hand and otherwise where the `Point` is dropped.
-/

namespace Tarako.Driver

open Lang Transitions Lifetimes

/-- What `struct ecc_point` consists of: the structure, and the buffers it points to. -/
inductive PointPart
  | fields
  | x
  | y
deriving DecidableEq

/-- A point, by the call that allocated it and the number of the allocation there. -/
abbrev PointId := Nat × Nat

abbrev PointAccess := Lifetimes.Access PointId PointPart

/-- A point whose buffers may be missing. -/
def pointParts (xNull yNull : Bool) : PointPart → Bool
  | .fields => true
  | .x => !xNull
  | .y => !yNull

/-- `make_public_key` with its accesses to the point. -/
def makePublicKeyAt (id : PointId) (calls : KeyCalls) (privkey : Scalar)
    : Except Errno Point × List PointAccess :=
  match calls.eccAllocPoint with
  | none => (.error ENOMEM, [])
  | some (xNull, yNull) =>
      let checked := [Lifetimes.Access.alloc id (pointParts xNull yNull), .touch id .fields]
      if xNull || yNull then
        (.error EFAULT, checked ++ [.free id])
      else
        let (ret, raw) := calls.eccMakePubKey privkey
        if ret < 0 then
          (.error (Errno.fromErrno ret), checked ++ [.free id])
        else
          (.ok ⟨raw.1, raw.2⟩, checked ++ [.touch id .x, .touch id .y])

/-- One pass of the loop body; its point is dropped however the pass ends. -/
def signAttemptAt (id : PointId) (kernel : Kernel) (calls : KeyCalls) (dataHash : Bytes)
    (privkey curveN : Scalar)
    : Except Errno (Option (Scalar × Scalar)) × List PointAccess :=
  match generatePrivateKey calls with
  | .error error => (.error error, [])
  | .ok k =>
      match makePublicKeyAt id calls k with
      | (.error error, accesses) => (.error error, accesses)
      | (.ok pubk, accesses) =>
          (signWith kernel k pubk.xScalar.unswap dataHash privkey curveN,
            accesses ++ [.touch id .fields, .touch id .x] ++ [.free id])

def signLoopAt (call : Nat) (kernel : Kernel) (calls : Nat → KeyCalls) (dataHash : Bytes)
    (privkey curveN : Scalar)
    : Nat → Nat → Except Errno (Scalar × Scalar) × List PointAccess
  | 0, _ => (.error EINVAL, [])
  | remaining + 1, attempt =>
      match signAttemptAt (call, attempt) kernel (calls attempt) dataHash privkey curveN with
      | (.error error, accesses) => (.error error, accesses)
      | (.ok (some signature), accesses) => (.ok signature, accesses)
      | (.ok none, accesses) =>
          let (signature, later) :=
            signLoopAt call kernel calls dataHash privkey curveN remaining (attempt + 1)
          (signature, accesses ++ later)

/-- `ecdsa_sign` with its accesses to points. -/
def ecdsaSignAt (call : Nat) (kernel : Kernel) (calls : Nat → KeyCalls) (data : Bytes)
    (privkey curveN : Scalar)
    : Except Errno (Scalar × Scalar) × List PointAccess :=
  signLoopAt call kernel calls (sha256Hash kernel data).1 privkey curveN 100 0

/-- `generate_key_pair` with its accesses to the point, which is dropped at the end. -/
def generateKeyPairAt (call : Nat) (calls : GenerateCalls)
    : Except Errno KeyPair × List PointAccess :=
  match generatePrivateKey calls.key with
  | .error error => (.error error, [])
  | .ok secret =>
      match makePublicKeyAt (call, 0) calls.key secret with
      | (.error error, accesses) => (.error error, accesses)
      | (.ok publicPoint, accesses) =>
          let pubkey := compressed publicPoint.xAsBytes publicPoint.yAsBytes
          let generated :=
            match getCurveN calls.eccGetCurve with
            | none => .error EINVAL
            | some curveN =>
                pure ⟨secret, pubkey, curveN,
                  (imaMeasurePubkey calls.imaMeasureCriticalData pubkey.1).result.isOk⟩
          (generated,
            accesses
            ++ [.touch (call, 0) .fields, .touch (call, 0) .x, .touch (call, 0) .fields,
              .touch (call, 0) .y]
            ++ [.free (call, 0)])

/-- Everything `handle_sign_data` does before it writes its answer, with its accesses to points. -/
def signDataAnswerAt (call : Nat) (kernel : Kernel) (calls : Nat → KeyCalls)
    (keyPair : Option KeyPair) (task : CurrentTask) (memory : UserMemory) (arg bufSize : Nat)
    : Except Errno SignDataReq × List PointAccess :=
  match keyPair with
  | none => (.error ENXIO, [])
  | some keyPair =>
      if !keyPair.imaMeasured then
        (.error EPERM, [])
      else
        match currentExeFsverityDigest task with
        | .error error => (.error error, [])
        | .ok digest =>
            match readSignDataReq memory arg bufSize with
            | .error error => (.error error, [])
            | .ok req =>
                let toSign := digest.digest ++ req.userData.1
                match ecdsaSignAt call kernel calls toSign keyPair.secret keyPair.curveN with
                | (.error error, accesses) => (.error error, accesses)
                | (.ok (r, s), accesses) =>
                    (.ok ⟨req.userData, sha256Hash kernel toSign, scalarBytes r, scalarBytes s,
                      keyPair.pubkey⟩, accesses)

/-- `handle_sign_data` with its accesses to points. -/
def handleSignDataAt (call : Nat) (kernel : Kernel) (calls : Nat → KeyCalls)
    (keyPair : Option KeyPair) (task : CurrentTask) (memory : UserMemory) (arg : Nat)
    (cmd : UInt32)
    : (UserMemory × Except Errno Int) × List PointAccess :=
  match signDataAnswerAt call kernel calls keyPair task memory arg (iocSize cmd) with
  | (.error error, accesses) => ((memory, .error error), accesses)
  | (.ok req, accesses) =>
      match writeSignDataReq memory arg (iocSize cmd) req with
      | (written, .ok ()) => ((written, .ok 0), accesses)
      | (written, .error error) => ((written, .error error), accesses)

/-- `TarakoDevice::ioctl` with its accesses to points. -/
def ioctlAt (call : Nat) (kernel : Kernel) (calls : Nat → KeyCalls) (keyPair : Option KeyPair)
    (task : CurrentTask) (memory : UserMemory) (cmd : UInt32) (arg : Nat)
    : (UserMemory × Except Errno Int) × List PointAccess :=
  if cmd = TARAKO_HELLO then
    ((memory, .ok 0), [])
  else if cmd = TARAKO_GET_PUBKEY then
    (handleGetPubkey keyPair memory arg cmd, [])
  else if cmd = TARAKO_SIGN_DATA then
    handleSignDataAt call kernel calls keyPair task memory arg cmd
  else
    ((memory, .error ENOTTY), [])

-----------------------------------------------------------------------------------------
-- The accesses change no result
-----------------------------------------------------------------------------------------

theorem makePublicKeyAt_result (id : PointId) (calls : KeyCalls) (privkey : Scalar)
    : (makePublicKeyAt id calls privkey).1 = makePublicKey calls privkey := by
  unfold makePublicKeyAt makePublicKey
  match calls.eccAllocPoint with
  | none => rfl
  | some (xNull, yNull) =>
      dsimp only
      split_ifs <;> rfl

theorem signAttemptAt_result (id : PointId) (kernel : Kernel) (calls : KeyCalls)
    (dataHash : Bytes) (privkey curveN : Scalar)
    : (signAttemptAt id kernel calls dataHash privkey curveN).1
      = signAttempt kernel calls dataHash privkey curveN := by
  unfold signAttemptAt signAttempt
  cases generatePrivateKey calls with
  | error error => rfl
  | ok k =>
      have derived := makePublicKeyAt_result id calls k
      change _ = (makePublicKey calls k).bind fun pubk =>
        signWith kernel k pubk.xScalar.unswap dataHash privkey curveN
      rw [← derived]
      dsimp only
      obtain ⟨result, accesses⟩ := makePublicKeyAt id calls k
      cases result <;> rfl

theorem signLoopAt_result (call : Nat) (kernel : Kernel) (calls : Nat → KeyCalls)
    (dataHash : Bytes) (privkey curveN : Scalar) (remaining attempt : Nat)
    : (signLoopAt call kernel calls dataHash privkey curveN remaining attempt).1
      = signLoop kernel calls dataHash privkey curveN remaining attempt := by
  induction remaining generalizing attempt with
  | zero => rfl
  | succ remaining ih =>
      have tried := signAttemptAt_result (call, attempt) kernel (calls attempt) dataHash privkey
        curveN
      rw [signLoopAt, signLoop, ← tried]
      match signAttemptAt (call, attempt) kernel (calls attempt) dataHash privkey curveN with
      | (.error error, accesses) => rfl
      | (.ok (some signature), accesses) => rfl
      | (.ok none, accesses) => exact ih (attempt + 1)

theorem generateKeyPairAt_result (call : Nat) (calls : GenerateCalls)
    : (generateKeyPairAt call calls).1 = generateKeyPair calls := by
  rw [generateKeyPair_eq]
  unfold generateKeyPairAt
  cases generatePrivateKey calls.key with
  | error error => rfl
  | ok secret =>
      have derived := makePublicKeyAt_result (call, 0) calls.key secret
      simp only [bind, Except.bind]
      rw [← derived]
      obtain ⟨result, accesses⟩ := makePublicKeyAt (call, 0) calls.key secret
      cases result <;> rfl

theorem signDataAnswerAt_result (call : Nat) (kernel : Kernel) (calls : Nat → KeyCalls)
    (keyPair : Option KeyPair) (task : CurrentTask) (memory : UserMemory) (arg bufSize : Nat)
    : (signDataAnswerAt call kernel calls keyPair task memory arg bufSize).1
      = signDataAnswer kernel calls keyPair task memory arg bufSize := by
  unfold signDataAnswerAt signDataAnswer
  cases keyPair with
  | none => rfl
  | some keyPair =>
      rw [signDataAnswerOf_some]
      dsimp only
      split_ifs
      · rfl
      · cases currentExeFsverityDigest task with
        | error error => rfl
        | ok digest =>
            simp only [bind, Except.bind]
            cases readSignDataReq memory arg bufSize with
            | error error => rfl
            | ok req =>
                dsimp only
                have signed := signLoopAt_result call kernel calls
                  (sha256Hash kernel (digest.digest ++ req.userData.1)).1 keyPair.secret
                  keyPair.curveN 100 0
                rw [KeyPair.sign, ecdsaSign, ← signed, ecdsaSignAt]
                obtain ⟨result, accesses⟩ := signLoopAt call kernel calls
                  (sha256Hash kernel (digest.digest ++ req.userData.1)).1 keyPair.secret
                  keyPair.curveN 100 0
                cases result <;> rfl

theorem ioctlAt_result (call : Nat) (kernel : Kernel) (calls : Nat → KeyCalls)
    (keyPair : Option KeyPair) (task : CurrentTask) (memory : UserMemory) (cmd : UInt32)
    (arg : Nat)
    : (ioctlAt call kernel calls keyPair task memory cmd arg).1
      = ioctl kernel calls keyPair task memory cmd arg := by
  rw [ioctl_eq]
  unfold ioctlAt
  split_ifs
  · rfl
  · rfl
  · have answered := signDataAnswerAt_result call kernel calls keyPair task memory arg (iocSize cmd)
    rw [handleSignDataAt, handleSignData_eq, ← answered]
    match signDataAnswerAt call kernel calls keyPair task memory arg (iocSize cmd) with
    | (.error error, accesses) => rfl
    | (.ok req, accesses) =>
        dsimp only
        match writeSignDataReq memory arg (iocSize cmd) req with
        | (written, .ok ()) => rfl
        | (written, .error error) => rfl
  · rfl

-----------------------------------------------------------------------------------------
-- Every point is freed once
-----------------------------------------------------------------------------------------

/-- What `make_public_key` leaves: its point with both buffers for a result, and otherwise
nothing.
-/
def keptPoint (id : PointId) (kept : Bool) : Slot PointId PointPart :=
  if kept then some (id, pointParts false false) else none

theorem makePublicKeyAt_kept (id : PointId) (calls : KeyCalls) (privkey : Scalar)
    : run slotStep none (makePublicKeyAt id calls privkey).2
      = some (keptPoint id (makePublicKeyAt id calls privkey).1.isOk) := by
  unfold makePublicKeyAt
  match calls.eccAllocPoint with
  | none => rfl
  | some (xNull, yNull) =>
      have freed : Released
          [Lifetimes.Access.alloc id (pointParts xNull yNull), .touch id .fields, .free id] := by
        simp [Released, run, slotStep, pointParts]
      dsimp only
      split_ifs with missing failed
      · exact freed
      · exact freed
      · rw [Bool.or_eq_true, not_or, Bool.not_eq_true, Bool.not_eq_true] at missing
        obtain ⟨rfl, rfl⟩ := missing
        simp [run, slotStep, pointParts, keptPoint, Except.isOk, Except.toBool]

/-- A point with both buffers is read from and dropped. -/
theorem released_drop {id : PointId} {accesses : List PointAccess}
    (kept : run slotStep none accesses = some (keptPoint id true)) (parts : List PointPart)
    : Released (accesses ++ parts.map (Lifetimes.Access.touch id) ++ [.free id]) := by
  have touches : run slotStep (keptPoint id true) (parts.map (Lifetimes.Access.touch id))
      = some (keptPoint id true) := by
    induction parts with
    | nil => rfl
    | cons part rest ih =>
        have allowed : slotStep (keptPoint id true) (.touch id part)
            = some (keptPoint id true) := by
          cases part <;> simp [slotStep, keptPoint, pointParts]
        rw [List.map_cons, run, allowed]
        exact ih
  rw [Released, run_append, run_append, kept]
  change (run slotStep (keptPoint id true) (parts.map (Lifetimes.Access.touch id))).bind _ = _
  rw [touches]
  simp [run, slotStep, keptPoint]

theorem signAttemptAt_released (id : PointId) (kernel : Kernel) (calls : KeyCalls)
    (dataHash : Bytes) (privkey curveN : Scalar)
    : Released (signAttemptAt id kernel calls dataHash privkey curveN).2 := by
  unfold signAttemptAt
  cases generatePrivateKey calls with
  | error error => exact .nil
  | ok k =>
      have kept := makePublicKeyAt_kept id calls k
      dsimp only
      match derived : makePublicKeyAt id calls k with
      | (.error error, accesses) =>
          rw [derived] at kept
          exact kept
      | (.ok pubk, accesses) =>
          rw [derived] at kept
          exact released_drop kept [.fields, .x]

theorem signLoopAt_released (call : Nat) (kernel : Kernel) (calls : Nat → KeyCalls)
    (dataHash : Bytes) (privkey curveN : Scalar) (remaining attempt : Nat)
    : Released (signLoopAt call kernel calls dataHash privkey curveN remaining attempt).2 := by
  induction remaining generalizing attempt with
  | zero => exact .nil
  | succ remaining ih =>
      have tried := signAttemptAt_released (call, attempt) kernel (calls attempt) dataHash privkey
        curveN
      rw [signLoopAt]
      match outcome : signAttemptAt (call, attempt) kernel (calls attempt) dataHash privkey
          curveN with
      | (.error error, accesses) =>
          rw [outcome] at tried
          exact tried
      | (.ok (some signature), accesses) =>
          rw [outcome] at tried
          exact tried
      | (.ok none, accesses) =>
          rw [outcome] at tried
          exact tried.append (ih (attempt + 1))

theorem generateKeyPairAt_released (call : Nat) (calls : GenerateCalls)
    : Released (generateKeyPairAt call calls).2 := by
  unfold generateKeyPairAt
  cases generatePrivateKey calls.key with
  | error error => exact .nil
  | ok secret =>
      have kept := makePublicKeyAt_kept (call, 0) calls.key secret
      dsimp only
      match derived : makePublicKeyAt (call, 0) calls.key secret with
      | (.error error, accesses) =>
          rw [derived] at kept
          exact kept
      | (.ok publicPoint, accesses) =>
          rw [derived] at kept
          exact released_drop kept [.fields, .x, .fields, .y]

theorem signDataAnswerAt_released (call : Nat) (kernel : Kernel) (calls : Nat → KeyCalls)
    (keyPair : Option KeyPair) (task : CurrentTask) (memory : UserMemory) (arg bufSize : Nat)
    : Released (signDataAnswerAt call kernel calls keyPair task memory arg bufSize).2 := by
  unfold signDataAnswerAt
  cases keyPair with
  | none => exact .nil
  | some keyPair =>
      dsimp only
      split_ifs
      · exact .nil
      · cases currentExeFsverityDigest task with
        | error error => exact .nil
        | ok digest =>
            dsimp only
            cases readSignDataReq memory arg bufSize with
            | error error => exact .nil
            | ok req =>
                dsimp only
                have signed := signLoopAt_released call kernel calls
                  (sha256Hash kernel (digest.digest ++ req.userData.1)).1 keyPair.secret
                  keyPair.curveN 100 0
                match outcome : ecdsaSignAt call kernel calls (digest.digest ++ req.userData.1)
                    keyPair.secret keyPair.curveN with
                | (.error error, accesses) =>
                    rw [← ecdsaSignAt, outcome] at signed
                    exact signed
                | (.ok (r, s), accesses) =>
                    rw [← ecdsaSignAt, outcome] at signed
                    exact signed

theorem ioctlAt_released (call : Nat) (kernel : Kernel) (calls : Nat → KeyCalls)
    (keyPair : Option KeyPair) (task : CurrentTask) (memory : UserMemory) (cmd : UInt32)
    (arg : Nat)
    : Released (ioctlAt call kernel calls keyPair task memory cmd arg).2 := by
  unfold ioctlAt
  split_ifs
  · exact .nil
  · exact .nil
  · have answered := signDataAnswerAt_released call kernel calls keyPair task memory arg
      (iocSize cmd)
    unfold handleSignDataAt
    match outcome : signDataAnswerAt call kernel calls keyPair task memory arg (iocSize cmd) with
    | (.error error, accesses) =>
        rw [outcome] at answered
        exact answered
    | (.ok req, accesses) =>
        rw [outcome] at answered
        dsimp only
        match writeSignDataReq memory arg (iocSize cmd) req with
        | (written, .ok ()) => exact answered
        | (written, .error error) => exact answered
  · exact .nil

/-- What the kernel runs of the module: a load, or an ioctl of some process. -/
inductive EntryPoint
  | init (calls : GenerateCalls)
  | ioctl (calls : Nat → KeyCalls) (keyPair : Option KeyPair) (task : CurrentTask)
      (memory : UserMemory) (cmd : UInt32) (arg : Nat)

/-- The accesses to points that an entry makes as call number `call`. -/
def EntryPoint.accesses (kernel : Kernel) (call : Nat) : EntryPoint → List PointAccess
  | .init calls => (generateKeyPairAt call calls).2
  | .ioctl calls keyPair task memory cmd arg =>
      (ioctlAt call kernel calls keyPair task memory cmd arg).2

/-- A trace in which the accesses of every entry stand in order, and those of different entries
anyhow.
-/
def Interleaves (kernel : Kernel) (entries : Nat → Option EntryPoint) (trace : List PointAccess)
    : Prop :=
  ∀ call,
    ownedBy (fun access => access.id.1) call trace
    = ((entries call).map (EntryPoint.accesses kernel call)).getD []

/-- However loads and ioctls interleave and whichever kernel calls fail in them, every point is
freed once, touched only while it lives and only in buffers that it has, and none is left; at any
time each of them has at most one. The accounts are of the loads and ioctls themselves: they change
no result.
-/
theorem points_released (kernel : Kernel) (entries : Nat → Option EntryPoint)
    {trace : List PointAccess} (interleaved : Interleaves kernel entries trace)
    : run heapStep (fun _ => none) trace = some (fun _ => none)
      ∧ (∀ before after,
          trace = before ++ after
          → ∃ heap,
              run heapStep (fun _ => none) before = some heap
              ∧ ∀ id other, heap id ≠ none → heap other ≠ none → id.1 = other.1 → id = other)
      ∧ (∀ call calls, (generateKeyPairAt call calls).1 = generateKeyPair calls)
      ∧ ∀ call calls keyPair task memory cmd arg,
          (ioctlAt call kernel calls keyPair task memory cmd arg).1
          = ioctl kernel calls keyPair task memory cmd arg := by
  have released : ∀ call, Released (ownedBy (fun access => access.id.1) call trace) := by
    intro call
    rw [interleaved call]
    match entries call with
    | none => exact .nil
    | some (.init calls) => exact generateKeyPairAt_released call calls
    | some (.ioctl calls keyPair task memory cmd arg) =>
        exact ioctlAt_released call kernel calls keyPair task memory cmd arg
  obtain ⟨ended, alone⟩ := run_interleaved released
  refine ⟨ended, alone, generateKeyPairAt_result, ?_⟩
  intro call calls keyPair task memory cmd arg
  exact ioctlAt_result call kernel calls keyPair task memory cmd arg

/-! Two loads at once: one whose point has no `y` buffer, and one that derives its key. -/

def missingBuffer : GenerateCalls where
  key := { KeyCalls.one with eccAllocPoint := some (false, true) }
  eccGetCurve := none
  imaMeasureCriticalData _ := 0

def derivedKey : GenerateCalls where
  key := KeyCalls.one
  eccGetCurve := none
  imaMeasureCriticalData _ := 0

def twoLoads : Nat → Option EntryPoint
  | 0 => some (.init missingBuffer)
  | 1 => some (.init derivedKey)
  | _ => none

def twoLoadsTrace : List PointAccess :=
  [
    .alloc (0, 0) (pointParts false true),
    .alloc (1, 0) (pointParts false false),
    .touch (1, 0) .fields,
    .touch (0, 0) .fields,
    .touch (1, 0) .x,
    .free (0, 0),
    .touch (1, 0) .y,
    .touch (1, 0) .fields,
    .touch (1, 0) .x,
    .touch (1, 0) .fields,
    .touch (1, 0) .y,
    .free (1, 0)
  ]

theorem points_released_twoLoads
    : Interleaves Kernel.reference twoLoads twoLoadsTrace
      ∧ run heapStep (fun _ => none) twoLoadsTrace = some (fun _ => none) := by
  have interleaved : Interleaves Kernel.reference twoLoads twoLoadsTrace := by
    intro call
    match call with
    | 0 => rfl
    | 1 => rfl
    | _ + 2 => rfl
  exact ⟨interleaved, (points_released Kernel.reference twoLoads interleaved).1⟩

end Tarako.Driver
