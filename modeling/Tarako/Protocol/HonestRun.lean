import Tarako.Attester.Quote
import Tarako.Verifier.Appraisal

/-! An honest quote passes from the kernel through the Attester to the Verifier. -/

namespace Tarako.Protocol

open Lang ByteDigits Driver Attester Verifier

/-- The device of a loaded module: every ioctl sees its key pair and the calling process. -/
def kernelDevice (kernel : Kernel) (calls : Nat → KeyCalls) (keyPair : KeyPair)
    (task : CurrentTask)
    : Device where
  openFile := .ok ()
  ioctl memory cmd arg := Driver.ioctl kernel calls (some keyPair) task memory cmd arg

/-- What the `cryptography` package documents for P-256: a compressed encoding is decoded to
the point it encodes, and exactly the DER pairs that satisfy the ECDSA equation for SHA-256 of
the message verify.
-/
structure Cryptography.Documented (crypto : Cryptography P256.Point) : Prop where
  encoded
    : ∀ bytes point,
        bytes.length = P256_PUBKEY_BYTES
        → crypto.fromEncodedPoint bytes = some point
        → ∃ x y, P256.Coordinates point x y ∧ bytes = P256.compress x y
  verifies
    : ∀ key signature message,
        crypto.verify key signature message = true
        ↔ ∃ r s,
            Der.readPair signature = some (r, s)
            ∧ Ecdsa.Verifies P256.n P256.xCoordinate P256.G key
                (beValue (Sha256.digest message)) r s

/-- The trusted key of a policy that provisions a genuine key pair is its point. -/
theorem trusted_key {crypto : Cryptography P256.Point}
    (documented : Cryptography.Documented crypto) {keyPair : KeyPair}
    (genuine : keyPair.Genuine) {files : PolicyFiles} {policy : AppraisalPolicy P256.Point}
    (loaded : loadAppraisalPolicy crypto files = .ok policy)
    (trusted : policy.publicKeyBytes = keyPair.pubkey.1)
    : policy.publicKey = keyPair.secret.value • P256.G := by
  have decoded := loadAppraisalPolicy_key loaded
  rw [trusted] at decoded
  obtain ⟨x, y, coordinates, encoded⟩ := documented.encoded _ _ keyPair.pubkey.2 decoded
  obtain ⟨x', y', coordinates', encoded'⟩ := genuine.point
  exact P256.compress_unique coordinates coordinates' (encoded.symm.trans encoded')

variable (kernel : Kernel) (calls : Nat → KeyCalls) (keyPair : KeyPair) (task : CurrentTask)

theorem ioctl_hello
    : Attester.ioctl (kernelDevice kernel calls keyPair task) tarakoHello 0 [] = .ok (0, []) := by
  rw [commands_agree.1]
  rfl

/-- `TARAKO_GET_PUBKEY` on a loaded module fills the Attester's variable. -/
theorem ioctl_getPubkey (address : Nat)
    : Attester.ioctl (kernelDevice kernel calls keyPair task) tarakoGetPubkey address
        (List.replicate 33 0)
      = .ok (33, keyPair.pubkey.1) := by
  obtain ⟨written, succeeded⟩ := handleGetPubkey_completes keyPair
    (variableAt address (List.replicate 33 0)) address
    (fun offset below => by simpa [variableAt, P256_PUBKEY_BYTES] using below)
  obtain ⟨_, found, same, filled⟩ := handleGetPubkey_ok succeeded
  cases same
  have dispatched : Driver.ioctl kernel calls (some keyPair) task
      (variableAt address (List.replicate 33 0)) TARAKO_GET_PUBKEY address
      = (written, .ok P256_PUBKEY_BYTES) := by
    rw [← succeeded]
    rfl
  rw [commands_agree.2.1]
  simp only [Attester.ioctl, kernelDevice, dispatched, List.length_replicate]
  rw [show (33 : Nat) = P256_PUBKEY_BYTES from rfl, filled]
  rfl

theorem signingRequestMemory_length (userData : Bytes)
    : (signingRequestMemory userData).length = SIGN_DATA_REQ_BYTES := by
  simp only [signingRequestMemory, List.length_append, List.length_take, List.length_replicate]
  have bound : min Attester.userDataBytes userData.length ≤ 257 :=
    le_trans (Nat.min_le_left _ _) (by decide)
  have total : SIGN_DATA_REQ_BYTES = 257 := by decide
  omega

/-- The kernel reads the data, padded with zeros, as the user data of the request. -/
theorem signingRequest_userData {data : Bytes} (fits : data.length ≤ Attester.userDataBytes)
    : (signingRequestMemory data).take USER_DATA_BYTES = expectedUserData data := by
  have sizes : USER_DATA_BYTES = 128 ∧ Attester.userDataBytes = 128
      ∧ Verifier.userDataBytes = 128 := by decide
  have short : data.take Attester.userDataBytes = data := List.take_of_length_le fits
  rw [signingRequestMemory, expectedUserData, short, List.take_append,
    List.take_of_length_le (by omega), List.take_replicate]
  congr 2
  omega

/-- Everything the Attester returns for a binding that the kernel signed. -/
def kernelQuote (digest : Bytes) (binding : Bytes) (r s : Scalar) : QuoteResponse :=
  ⟨hexEncodeToString (sha256Hash kernel (digest ++ expectedUserData binding)).1,
    hexEncodeToString keyPair.pubkey.1,
    hexEncodeToString (Der.pair r.value s.value),
    hexEncodeToString (expectedUserData binding)⟩

variable {kernel calls keyPair task}

/-- The signing call on the Attester's variable, and the quote made from it. Witness: the
kernel's answer fills the variable, and both programs read its fields at the same offsets.
-/
theorem tarakoQuote_padded {binding : Bytes} (fits : binding.length ≤ Attester.userDataBytes)
    {digest : FsverityDigest} (caller : currentExeFsverityDigest task = .ok digest)
    {keyAddress requestAddress : Nat} {result : Int}
    (signed : (Driver.ioctl kernel calls (some keyPair) task
        (variableAt requestAddress (signingRequestMemory binding)) TARAKO_SIGN_DATA
        requestAddress).2
      = .ok result)
    : ∃ r s,
        ecdsaSign kernel calls (digest.digest ++ expectedUserData binding) keyPair.secret
            keyPair.curveN
          = .ok (r, s)
        ∧ tarakoQuote (kernelDevice kernel calls keyPair task) keyAddress requestAddress binding
          = .ok (kernelQuote kernel keyPair digest.digest binding r s) := by
  let memory := variableAt requestAddress (signingRequestMemory binding)
  obtain ⟨written, dispatched⟩ : ∃ written,
      handleSignData kernel calls (some keyPair) task memory requestAddress TARAKO_SIGN_DATA
      = (written, .ok result) := ⟨_, Prod.ext rfl signed⟩
  obtain ⟨rfl, found, digest', userData, r, s, same, answered⟩ := handleSignData_ok dispatched
  cases same
  have sameDigest : digest' = digest := Except.ok.inj (answered.caller.symm.trans caller)
  subst sameDigest
  have requested : userData.1 = expectedUserData binding := by
    rw [answered.requested, ← signingRequest_userData fits]
    have whole := variableAt_load requestAddress (signingRequestMemory binding)
    rw [signingRequestMemory_length] at whole
    rw [← whole]
    exact (memory.load_take requestAddress (by decide)).symm
  have signature := answered.signed
  have filled := answered.answered
  rw [requested] at signature filled
  refine ⟨r, s, signature, ?_⟩
  have call : Attester.ioctl (kernelDevice kernel calls keyPair task) tarakoSignData
      requestAddress (signingRequestMemory binding)
      = .ok (0, written.load requestAddress SIGN_DATA_REQ_BYTES) := by
    have whole : Driver.ioctl kernel calls (some keyPair) task memory TARAKO_SIGN_DATA
        requestAddress = (written, .ok 0) := by
      rw [← dispatched]
      rfl
    rw [commands_agree.2.2]
    simp only [Attester.ioctl, kernelDevice, signingRequestMemory_length]
    rw [whole]
  have opened : (kernelDevice kernel calls keyPair task).openFile = .ok () := rfl
  simp only [tarakoQuote, opened, ioctl_hello, ioctl_getPubkey, call, filled, ofMemory_bytes,
    scalarBytes_value, requested, kernelQuote, ne_eq, not_true_eq_false, if_false]

theorem hexItem_text {fields : List (PyStr × Json)} {name : String} {data : Bytes}
    (found : Json.get? fields name = some (.str (PyStr.ofChars (hexEncodeToString data))))
    : hexItem fields name = .ok data := by
  have decoded : fromhexOrRaise (PyStr.ofChars (hexEncodeToString data)) = .ok data := by
    unfold fromhexOrRaise
    rw [show fromhex (PyStr.ofChars (hexEncodeToString data)) = some data from fromhex_pyHex data]
  simp only [hexItem, item, found, bind, Except.bind]
  exact decoded

/-- The quote of a signed binding passes every check before the signature. -/
theorem checkedQuote_kernelQuote (documented : kernel.Documented) {digest binding : Bytes}
    {r s : Scalar}
    : checkedQuote (kernelQuote kernel keyPair digest binding r s).json binding digest
        keyPair.pubkey.1
      = .ok (Der.pair r.value s.value, digest ++ expectedUserData binding,
          pyHex (Sha256.digest (digest ++ expectedUserData binding))) := by
  let quote := (kernelQuote kernel keyPair digest binding r s).json
  have userData : hexItem quote "user_data" = .ok (expectedUserData binding) :=
    hexItem_text rfl
  have publicKey : hexItem quote "public_key" = .ok keyPair.pubkey.1 := hexItem_text rfl
  have signature : hexItem quote "signature_der" = .ok (Der.pair r.value s.value) :=
    hexItem_text rfl
  have hash : item quote "hash"
      = .ok (.str (pyHex (Sha256.digest (digest ++ expectedUserData binding)))) := by
    rw [← documented.sha256]
    rfl
  have same (text : PyStr) : (Json.str text).eq (.str text) = true := by simp [Json.eq]
  simp only [checkedQuote, quote, userData, publicKey, signature, hash, same, bind, Except.bind,
    pure, Except.pure, ne_eq, not_true_eq_false, if_false, Bool.not_true, Bool.false_eq_true]

/-- The point of a genuine pair agrees with what the pair signed. -/
theorem signature_verifies (documented : kernel.Documented) (draws : ∀ i, (calls i).Documented)
    (genuine : keyPair.Genuine) {crypto : Cryptography P256.Point}
    (library : Cryptography.Documented crypto) {message : Bytes} {r s : Scalar}
    (signed : ecdsaSign kernel calls message keyPair.secret keyPair.curveN = .ok (r, s))
    : crypto.verify (keyPair.secret.value • P256.G) (Der.pair r.value s.value) message = true := by
  obtain ⟨positive, i, _, drawn, _⟩ := ecdsaSign_ok documented draws genuine.order signed
  have verifies := drawn.verifies positive
  have fits : P256.n < 256 ^ 32 := by decide
  have readable : Der.readPair (Der.pair r.value s.value) = some (r.value, s.value) :=
    Der.readPair_pair (lt_trans verifies.1.2 fits) (lt_trans verifies.2.1.2 fits)
  rw [library.verifies]
  exact ⟨r.value, s.value, readable, verifies⟩

/-- An honest quote is accepted: whenever the two services bind the request alike, the caller's
digest is the approved one, the key pair is the provisioned one and the kernel signed, the
handler answers with a quote that the Verifier accepts, with the hash the kernel computed.
Witness: the signature verifies by the correctness of `ecdsa_sign`, and every other field is
compared with what the kernel put there.
-/
theorem honest_quote_accepted (documented : kernel.Documented)
    (draws : ∀ i, (calls i).Documented) (genuine : keyPair.Genuine)
    {digest : FsverityDigest} (caller : currentExeFsverityDigest task = .ok digest)
    {crypto : Cryptography P256.Point} (library : Cryptography.Documented crypto)
    {files : PolicyFiles} {policy : AppraisalPolicy P256.Point}
    (loaded : loadAppraisalPolicy crypto files = .ok policy)
    (approved : policy.digest = digest.digest)
    (trusted : policy.publicKeyBytes = keyPair.pubkey.1) {request : List Char} {nonce : Bytes}
    (bound : requestBinding ⟨request, hexEncodeToString nonce⟩
      = .ok (makeRequestBinding (PyStr.ofChars request) nonce))
    {keyAddress requestAddress : Nat} {result : Int}
    (signed : (Driver.ioctl kernel calls (some keyPair) task
        (variableAt requestAddress
          (signingRequestMemory (makeRequestBinding (PyStr.ofChars request) nonce)))
        TARAKO_SIGN_DATA requestAddress).2
      = .ok result)
    : let binding := makeRequestBinding (PyStr.ofChars request) nonce
      let kernelHash := (sha256Hash kernel (digest.digest ++ expectedUserData binding)).1
      ∃ response,
        quoteHandler (kernelDevice kernel calls keyPair task) keyAddress requestAddress true
            (.ok ⟨request, hexEncodeToString nonce⟩)
          = .quote 200 response
        ∧ response.hash = hexEncodeToString kernelHash
        ∧ verifyTarakoQuote crypto response.json binding policy = .ok (pyHex kernelHash) := by
  intro binding kernelHash
  have fits : binding.length ≤ Attester.userDataBytes :=
    (Sha256.digest_length _).trans_le (by decide)
  obtain ⟨r, s, signature, quoted⟩ := tarakoQuote_padded fits caller signed
  have agreed := signature_verifies documented draws genuine library signature
  rw [← trusted_key library genuine loaded trusted] at agreed
  refine ⟨kernelQuote kernel keyPair digest.digest binding r s, ?_, rfl, ?_⟩
  · simp only [quoteHandler, bound, Bool.not_true, Bool.false_eq_true, if_false]
    rw [quoted]
  · simp only [verifyTarakoQuote, approved, trusted, checkedQuote_kernelQuote documented, agreed,
      bind, Except.bind, pure, Except.pure, if_true]
    rw [show kernelHash = Sha256.digest (digest.digest ++ expectedUserData binding) from
      documented.sha256 _]

-----------------------------------------------------------------------------------------
-- A concrete honest run
-----------------------------------------------------------------------------------------

/-- The key pair of the secret one: its public point is the base point. -/
def keyPairOne : KeyPair where
  secret := Vli.ofValue P256_DIGITS 1
  pubkey := ⟨P256.compress P256.gx P256.gy, by decide +kernel⟩
  curveN := Vli.ofValue P256_DIGITS P256.n
  imaMeasured := true

theorem keyPairOne_genuine : keyPairOne.Genuine where
  order := by decide +kernel
  point := by
    refine ⟨P256.gx, P256.gy, ?_, rfl⟩
    rw [show keyPairOne.secret.value = 1 by decide +kernel, one_nsmul]
    exact ⟨by decide +kernel, by decide +kernel⟩

/-- A process whose executable has a digest of 32 bytes `0x33`. -/
def taskThrees : CurrentTask where
  hasMm := true
  mmNull := false
  exeFileNull := false
  inodeNull := false
  fsverityGetDigest := (32, ⟨List.replicate 32 0x33 ++ List.replicate 32 0, by decide⟩)

/-- The policy files that approve that digest and trust that key pair. -/
def filesThrees : PolicyFiles where
  approvedDigest := some (pyHex (List.replicate 32 0x33) ++ py "\n")
  trustedTak := some keyPairOne.pubkey.1

open Classical in
/-- A library that decodes and verifies by definition. -/
noncomputable def documentedCryptography : Cryptography P256.Point where
  fromEncodedPoint bytes :=
    if encodes : ∃ point x y, P256.Coordinates point x y ∧ bytes = P256.compress x y then
      some encodes.choose
    else
      none
  verify key signature message :=
    decide (∃ r s,
      Der.readPair signature = some (r, s)
      ∧ Ecdsa.Verifies P256.n P256.xCoordinate P256.G key
          (beValue (Sha256.digest message)) r s)

theorem documentedCryptography_documented : Cryptography.Documented documentedCryptography where
  encoded bytes point _ decoded := by
    simp only [documentedCryptography] at decoded
    split at decoded
    · next encodes =>
        cases decoded
        exact encodes.choose_spec
    · cases decoded
  verifies key signature message := by simp [documentedCryptography]

theorem filesThrees_policy
    : ∃ policy,
        loadAppraisalPolicy documentedCryptography filesThrees = .ok policy
        ∧ policy.digest = List.replicate 32 0x33
        ∧ policy.publicKeyBytes = keyPairOne.pubkey.1 := by
  have encodes : ∃ point x y, P256.Coordinates point x y
      ∧ keyPairOne.pubkey.1 = P256.compress x y := ⟨_, keyPairOne_genuine.point⟩
  have text : fromhexOrRaise (strip (pyHex (List.replicate 32 0x33) ++ py "\n"))
      = .ok (List.replicate 32 0x33) := by decide +kernel
  refine ⟨⟨List.replicate 32 0x33, keyPairOne.pubkey.1, encodes.choose⟩, ?_, rfl, rfl⟩
  simp only [loadAppraisalPolicy, filesThrees, text, bind, Except.bind, documentedCryptography,
    dif_pos encodes, pure, Except.pure]

theorem honest_quote_accepted_threes
    : ∃ policy,
        loadAppraisalPolicy documentedCryptography filesThrees = .ok policy
        ∧ ∃ response,
            quoteHandler (kernelDevice Kernel.reference (fun _ => KeyCalls.one) keyPairOne taskThrees)
                4096 8192 true (.ok ⟨['r'], hexEncodeToString (List.replicate 32 0x11)⟩)
              = .quote 200 response
            ∧ ∃ hash,
                verifyTarakoQuote documentedCryptography response.json
                  (makeRequestBinding (py "r") (List.replicate 32 0x11)) policy
                = .ok hash := by
  obtain ⟨policy, loaded, approved, trusted⟩ := filesThrees_policy
  obtain ⟨response, answered, _, accepted⟩ := honest_quote_accepted
    Kernel.reference_documented (fun _ => KeyCalls.one_documented) keyPairOne_genuine
    (show currentExeFsverityDigest taskThrees
      = .ok ⟨32, taskThrees.fsverityGetDigest.2, by decide, by decide⟩ from rfl)
    documentedCryptography_documented loaded approved trusted
    (show requestBinding ⟨['r'], hexEncodeToString (List.replicate 32 0x11)⟩
      = .ok (makeRequestBinding (PyStr.ofChars ['r']) (List.replicate 32 0x11)) by decide +kernel)
    (show (Driver.ioctl Kernel.reference (fun _ => KeyCalls.one) (some keyPairOne) taskThrees
        (variableAt 8192 (signingRequestMemory
          (makeRequestBinding (PyStr.ofChars ['r']) (List.replicate 32 0x11))))
        TARAKO_SIGN_DATA 8192).2 = .ok 0 by decide +kernel)
  exact ⟨policy, loaded, response, answered, _, accepted⟩

end Tarako.Protocol
