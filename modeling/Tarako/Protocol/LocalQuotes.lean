import Tarako.Attester.CommandLine
import Tarako.Protocol.HttpRun

/-! Quotes made on the Attester's command line are evidence like those of its HTTP service: the
measured program signs any user data, so whoever can start it can have a binding signed that its
HTTP handler never saw.
-/

namespace Tarako.Protocol

open Lang ByteDigits Driver Attester Verifier

variable {VerifierKey : Type} {deployment : Deployment VerifierKey} {certificate : PyStr}
  {digest : FsverityDigest}

/-- Padding to 128 bytes forgets zeros at the end. -/
theorem padding_of_le {shorter longer : Bytes} (order : shorter.length ≤ longer.length)
    (fits : longer.length ≤ Verifier.userDataBytes)
    : expectedUserData shorter = expectedUserData longer
      ↔ longer = shorter ++ List.replicate (longer.length - shorter.length) 0 := by
  have total : Verifier.userDataBytes - shorter.length
      = (longer.length - shorter.length) + (Verifier.userDataBytes - longer.length) := by
    omega
  simp only [expectedUserData]
  rw [total, ← List.replicate_append_replicate, ← List.append_assoc]
  constructor
  · intro same
    refine (List.append_inj_left same ?_).symm
    rw [List.length_append, List.length_replicate]
    omega
  · intro padded
    rw [← padded]

/-- Two user data are the same if one is the other followed by zeros. -/
def SameUpToZeros (data other : Bytes) : Prop :=
  (∃ zeros, data = other ++ List.replicate zeros 0)
  ∨ ∃ zeros, other = data ++ List.replicate zeros 0

theorem expectedUserData_eq_iff {data other : Bytes}
    (fits : data.length ≤ Verifier.userDataBytes) (room : other.length ≤ Verifier.userDataBytes)
    : expectedUserData data = expectedUserData other ↔ SameUpToZeros data other := by
  have exact_zeros : ∀ {shorter longer : Bytes},
      (∃ zeros, longer = shorter ++ List.replicate zeros 0)
      → shorter.length ≤ longer.length
        ∧ longer = shorter ++ List.replicate (longer.length - shorter.length) 0 := by
    rintro shorter longer ⟨zeros, rfl⟩
    simp
  constructor
  · intro same
    rcases Nat.le_total data.length other.length with order | order
    · exact .inr ⟨_, (padding_of_le order room).mp same⟩
    · exact .inl ⟨_, (padding_of_le order fits).mp same.symm⟩
  · rintro (longer | longer)
    · obtain ⟨order, padded⟩ := exact_zeros longer
      exact ((padding_of_le order fits).mpr padded).symm
    · obtain ⟨order, padded⟩ := exact_zeros longer
      exact (padding_of_le order room).mpr padded

/-- A quote on the command line is one of the kernel, over the padded user data. -/
theorem runQuote_signed (honest : deployment.Honest certificate digest)
    {keyAddress requestAddress : Nat} {random : Except GoError (U8Array 32)} {args : List Bytes}
    {quote : QuoteResponse}
    (made : runQuote deployment.device keyAddress requestAddress random args = .ok quote)
    : ∃ data r s,
        quotedData random args = .ok data
        ∧ ecdsaSign deployment.kernel deployment.calls (digest.digest ++ expectedUserData data)
            deployment.keyPair.secret deployment.keyPair.curveN
          = .ok (r, s)
        ∧ quote = kernelQuote deployment.kernel deployment.keyPair digest.digest data r s := by
  unfold runQuote at made
  split at made
  · cases made
  · next data given =>
      cases call : (Driver.ioctl deployment.kernel deployment.calls (some deployment.keyPair)
          deployment.task (variableAt requestAddress (signingRequestMemory data)) TARAKO_SIGN_DATA
          requestAddress).2 with
      | error errno =>
          rw [tarakoQuote_unsigned call] at made
          cases made
      | ok result =>
          obtain ⟨r, s, signed, quoted⟩ := @tarakoQuote_padded deployment.kernel deployment.calls
            deployment.keyPair deployment.task data (quotedData_fits given).2 digest honest.caller
            keyAddress requestAddress result call
          refine ⟨data, r, s, given, signed, ?_⟩
          rw [Deployment.device, quoted] at made
          exact (Except.ok.inj made).symm

/-- The command line of the measured Attester signs for anyone who can start it. It prints for the
text of a binding what the HTTP handler answers for the request of the binding. And every quote
it prints, for an argument or at random, carries the user data padded with zeros, and the Verifier
accepts it for a challenge exactly if that user data is the challenge's binding up to zeros at the
end.
-/
theorem command_line_signs_bindings (honest : deployment.Honest certificate digest)
    (keyAddress requestAddress : Nat) (random : Except GoError (U8Array 32))
    : (∀ input quote,
        quoteHandler deployment.device keyAddress requestAddress true (.ok input)
            = .quote 200 quote
        ↔ ∃ binding,
            requestBinding input = .ok binding
            ∧ runQuote deployment.device keyAddress requestAddress random
                [HexText.encode binding]
              = .ok quote)
      ∧ ∀ args quote,
          runQuote deployment.device keyAddress requestAddress random args = .ok quote
          → ∃ data,
              quotedData random args = .ok data
              ∧ quote.userData = hexEncodeToString (expectedUserData data)
              ∧ ∀ (expected : Challenge) (nonce : Bytes) (body : List (PyStr × Json)),
                  fromhex expected.nonce = some nonce
                  → getOrNone body "request" = .str expected.request
                  → getOrNone body "nonce" = .str expected.nonce
                  → getOrNone body "tq" = .obj quote.json
                  → ((∃ verdict,
                        appraise deployment.crypto deployment.files expected body = .ok verdict)
                      ↔ SameUpToZeros data (makeRequestBinding expected.request nonce)) := by
  refine ⟨fun input quote => quoteHandler_iff_runQuote .., ?_⟩
  intro args quote made
  obtain ⟨data, r, s, given, signed, rfl⟩ := runQuote_signed honest made
  refine ⟨data, given, rfl, ?_⟩
  intro expected nonce body decoded asked echoed posted
  have room : (makeRequestBinding expected.request nonce).length ≤ Verifier.userDataBytes :=
    (Sha256.digest_length _).trans_le (by decide)
  rw [appraise_kernelQuote honest signed decoded asked echoed posted fun _ => rfl,
    ← expectedUserData_eq_iff (quotedData_fits given).2 room]
  split_ifs with agree
  · exact ⟨fun _ => agree, fun _ => ⟨_, rfl⟩⟩
  · refine ⟨?_, fun same => absurd same agree⟩
    rintro ⟨verdict, passed⟩
    cases passed

/-- The body of a post of a quote for the challenge of the sample run. -/
def localBody (quote : QuoteResponse) : List (PyStr × Json) :=
  [
    (py "challenge_id", .str (pyHex (List.replicate 16 0x22))),
    (py "nonce", .str (pyHex (List.replicate 32 0x11))),
    (py "request", .str (py "r")),
    (py "tq", .obj quote.json)
  ]

theorem command_line_signs_bindings_sample
    : let nonce := List.replicate 32 0x11
      let binding := makeRequestBinding (py "r") nonce
      ∃ quote verdict,
        runQuote sampleDeployment.device 4096 8192 (.error (.new "no entropy"))
            [HexText.encode binding]
          = .ok quote
        ∧ appraise sampleDeployment.crypto sampleDeployment.files ⟨pyHex nonce, py "r"⟩
            (localBody quote)
          = .ok verdict := by
  intro nonce binding
  have length : binding.length = 32 := Sha256.digest_length _
  have given := quotedData_encode (.error (.new "no entropy"))
    (show 0 < binding.length by rw [length]; decide)
    (show binding.length ≤ Attester.userDataBytes by rw [length]; decide)
  have call : (Driver.ioctl Kernel.reference (fun _ => KeyCalls.one) (some keyPairOne) taskThrees
      (variableAt 8192 (signingRequestMemory binding)) TARAKO_SIGN_DATA 8192).2 = .ok 0 := by
    decide +kernel
  obtain ⟨r, s, _, quoted⟩ := @tarakoQuote_padded _ _ _ _ binding
    (show binding.length ≤ Attester.userDataBytes by rw [length]; decide)
    _ sampleDeployment_honest.caller 4096 8192 0 call
  obtain ⟨quote, made⟩ : ∃ quote,
      runQuote sampleDeployment.device 4096 8192 (.error (.new "no entropy"))
        [HexText.encode binding]
      = .ok quote := by
    rw [runQuote, given]
    exact ⟨_, quoted⟩
  obtain ⟨data, found, _, accepts⟩ := (command_line_signs_bindings sampleDeployment_honest 4096
    8192 (.error (.new "no entropy"))).2 _ _ made
  cases given.symm.trans found
  obtain ⟨verdict, accepted⟩ := (accepts ⟨pyHex nonce, py "r"⟩ nonce (localBody quote)
    (fromhex_pyHex nonce) rfl rfl rfl).mpr (.inl ⟨0, (List.append_nil _).symm⟩)
  exact ⟨quote, verdict, made, accepted⟩

end Tarako.Protocol
