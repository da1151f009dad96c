import Tarako.Attester.RequestBinding
import Tarako.Verifier.RequestBinding

/-! The Attester's and the Verifier's request bindings against each other.
Both texts have one layout around the escaped nonce and request, so they are compared
token by token.
-/

namespace Tarako.Protocol

open Lang JsonText Attester Verifier

/-- The hashed text around the tokens of the nonce and of the request. -/
def bindingText (nonce request : List Token) : Bytes :=
  ascii "TARAKO-TQ-REQUEST-V1\x00\x7b\"nonce\":\""
    ++ (body nonce
        ++ 0x22 :: (ascii ",\"request\":\"" ++ (body request ++ 0x22 :: ascii "\x7d")))

/-- The layout determines both token sequences, by cancelling the two closed bodies. -/
theorem bindingText_inj {nonce request nonce' request' : List Token}
    (same : bindingText nonce request = bindingText nonce' request')
    : nonce = nonce' ∧ request = request' := by
  obtain ⟨nonces, rest⟩ := body_cancel (List.append_cancel_left same)
  obtain ⟨requests, _⟩ := body_cancel (List.append_cancel_left rest)
  exact ⟨nonces, requests⟩

theorem requestBinding_layout (request : QuoteRequest)
    : bindingDomain ++ marshalStrings (bindingContext request)
      = bindingText (request.nonce.map goEscape) (request.request.map goEscape) := by
  have nonceKey : goQuote "nonce".toList = ascii "\"nonce\"" := by decide
  have requestKey : goQuote "request".toList = ascii "\"request\"" := by decide
  simp only [marshalStrings, bindingContext, List.map_cons, List.map_nil, nonceKey, requestKey]
  simp [bindingDomain, goQuote, bindingText, List.intercalate, ascii]

theorem makeRequestBinding_layout (request : PyStr) (nonce : Bytes)
    : makeRequestBindingInput request nonce
      = bindingText ((pyHex nonce).flatMap pyEscape) (request.flatMap pyEscape) := by
  have nonceKey : pyQuote (py "nonce") = ascii "\"nonce\"" := by decide
  have requestKey : pyQuote (py "request") = ascii "\"request\"" := by decide
  have sorted (a b : Bytes) : sortByKey [(py "nonce", a), (py "request", b)]
      = [(py "nonce", a), (py "request", b)] := rfl
  simp only [makeRequestBindingInput, Json.dumps, fieldTexts, sorted, memberText, List.map_cons,
    List.map_nil, nonceKey, requestKey]
  simp [domain, pyQuote, bindingText, List.intercalate, ascii]

/-- A lowercase nonce is plain in both escapings, by the sixteen digits. -/
theorem hex_escapes_agree (nonce : Bytes)
    : (pyHex nonce).flatMap pyEscape = (hexEncodeToString nonce).map goEscape := by
  have digits : ∀ n : Fin 16,
      pyEscape (codePoint (Char.ofUInt8 (HexText.digit n)))
        = [goEscape (Char.ofUInt8 (HexText.digit n))] := by decide
  have codes : ∀ codes : Bytes, (∀ code ∈ codes, ∃ value < 16, code = HexText.digit value)
      → (PyStr.ofChars (codes.map Char.ofUInt8)).flatMap pyEscape
        = (codes.map Char.ofUInt8).map goEscape := by
    intro codes
    induction codes with
    | nil => intro _; rfl
    | cons code rest ih =>
        intro known
        obtain ⟨value, small, rfl⟩ := known code (by simp)
        have tail := ih (fun next member => known next (List.mem_cons_of_mem _ member))
        have head := digits ⟨value, small⟩
        simp only [PyStr.ofChars, List.map_cons, List.flatMap_cons] at tail ⊢
        rw [head, tail]
        rfl
  exact codes _ (fun code member => HexText.encode_digits member)

theorem goEscape_injective : Function.Injective goEscape := by
  intro c d equal
  exact (go_cancels c d [] [] (by simp [equal])).1

/-- The Verifier's hashed text determines the nonce, whatever the requests hold. -/
theorem makeRequestBindingInput_nonce {request request' : PyStr} {nonce nonce' : Bytes}
    (same : makeRequestBindingInput request nonce = makeRequestBindingInput request' nonce')
    : nonce = nonce' := by
  rw [makeRequestBinding_layout, makeRequestBinding_layout] at same
  have nonces := (bindingText_inj same).1
  rw [hex_escapes_agree, hex_escapes_agree] at nonces
  have texts := List.map_injective_iff.mpr goEscape_injective nonces
  exact pyHex_injective (congrArg PyStr.ofChars texts)

/-- Whole requests are escaped alike exactly when each of their scalars is.
Witness: induction on the request; a Go token cancels against Python's escape.
-/
theorem request_escapes_eq_iff (request : List Char)
    : (PyStr.ofChars request).flatMap pyEscape = request.map goEscape
      ↔ ∀ c ∈ request, EscapesAgree c := by
  induction request with
  | nil => simp [PyStr.ofChars]
  | cons c rest ih =>
      simp only [PyStr.ofChars, List.map_cons, List.flatMap_cons, List.forall_mem_cons] at ih ⊢
      constructor
      · intro same
        obtain ⟨_, tail⟩ := go_py_cancels c (codePoint c) _ _ same.symm
        have head : pyEscape (codePoint c) = [goEscape c] := by
          rw [← tail] at same
          exact List.append_cancel_right (same.trans (List.singleton_append ..).symm)
        exact ⟨(escapes_eq_iff c).mp head, ih.mp tail.symm⟩
      · rintro ⟨head, tail⟩
        rw [(escapes_eq_iff c).mpr head, ih.mpr tail]
        rfl

/-- The two services hash the same bytes exactly for requests whose scalars both runtimes
escape alike, and then the bindings are equal. Witness: the common layout reduces both
sides to the tokens of the request, since the nonce's digits agree.
-/
theorem requestBinding_agrees_iff (request : List Char) (nonce : Bytes)
    (nonempty : request ≠ []) (length : nonce.length = 32)
    : (requestBindingInput ⟨request, hexEncodeToString nonce⟩
          = .ok (makeRequestBindingInput (PyStr.ofChars request) nonce)
        ↔ ∀ c ∈ request, EscapesAgree c)
      ∧ ((∀ c ∈ request, EscapesAgree c)
        → requestBinding ⟨request, hexEncodeToString nonce⟩
          = .ok (makeRequestBinding (PyStr.ofChars request) nonce)) := by
  have inputs : requestBindingInput ⟨request, hexEncodeToString nonce⟩
        = .ok (makeRequestBindingInput (PyStr.ofChars request) nonce)
      ↔ ∀ c ∈ request, EscapesAgree c := by
    rw [requestBindingInput_hex nonempty length, requestBinding_layout,
      makeRequestBinding_layout, hex_escapes_agree, ← request_escapes_eq_iff]
    constructor
    · intro same
      exact (bindingText_inj (Except.ok.inj same)).2.symm
    · intro same
      rw [same]
  refine ⟨inputs, fun agree => ?_⟩
  rw [requestBinding, inputs.mpr agree]
  rfl

/-- The repository's own test vector, with its all-zero nonce, is one of the agreeing inputs. -/
theorem requestBinding_agrees_repeatable
    : requestBinding
          ⟨"repeatable-client-request".toList, hexEncodeToString (List.replicate 32 0)⟩
        = .ok (makeRequestBinding (py "repeatable-client-request") (List.replicate 32 0)) := by
  have plain : "repeatable-client-request".toList.all (fun c => decide (EscapesAgree c)) = true := by
    decide
  refine (requestBinding_agrees_iff "repeatable-client-request".toList (List.replicate 32 0)
    (by decide) (by decide)).2 ?_
  intro c member
  exact of_decide_eq_true (List.all_eq_true.mp plain c member)

/-- A request of one HTML-sensitive scalar is hashed, and bound, differently. -/
theorem requestBinding_differs_on_html
    : requestBindingInput ⟨['<'], hexEncodeToString (List.replicate 32 0)⟩
        ≠ .ok (makeRequestBindingInput (py "<") (List.replicate 32 0))
      ∧ requestBinding ⟨['<'], hexEncodeToString (List.replicate 32 0)⟩
        ≠ .ok (makeRequestBinding (py "<") (List.replicate 32 0)) := by
  constructor <;> decide +kernel

/-- Nothing hashed for one request passes for another, across the services or between two
Attester requests. Witness: the layout gives equal tokens; Go's tokens cancel against both
escapings.
-/
theorem binding_inputs_separate
    : (∀ (quote : QuoteRequest) (request : PyStr) (nonce : Bytes),
        requestBindingInput quote = .ok (makeRequestBindingInput request nonce)
        → PyStr.ofChars quote.request = request
          ∧ PyStr.ofChars quote.nonce = pyHex nonce)
      ∧ ∀ (first second : QuoteRequest) (input : Bytes),
          requestBindingInput first = .ok input
          → requestBindingInput second = .ok input
          → first.request = second.request ∧ first.nonce = second.nonce := by
  constructor
  · intro quote request nonce accepted
    have same := requestBindingInput_ok accepted
    rw [requestBinding_layout, makeRequestBinding_layout] at same
    obtain ⟨nonces, requests⟩ := bindingText_inj same.symm
    exact ⟨ofChars_of_escapes_eq requests, ofChars_of_escapes_eq nonces⟩
  · intro first second input firstAccepted secondAccepted
    have same := (requestBindingInput_ok firstAccepted).symm.trans
      (requestBindingInput_ok secondAccepted)
    rw [requestBinding_layout, requestBinding_layout] at same
    obtain ⟨nonces, requests⟩ := bindingText_inj same
    exact ⟨List.map_injective_iff.mpr goEscape_injective requests,
      List.map_injective_iff.mpr goEscape_injective nonces⟩

/-- An input that both services hash alike names one request and one nonce. -/
theorem binding_inputs_separate_plain
    : requestBindingInput ⟨['r'], hexEncodeToString (List.replicate 32 0)⟩
        = .ok (makeRequestBindingInput (py "r") (List.replicate 32 0))
      ∧ PyStr.ofChars ['r'] = py "r"
      ∧ PyStr.ofChars (hexEncodeToString (List.replicate 32 0)) = pyHex (List.replicate 32 0) := by
  have accepted : requestBindingInput ⟨['r'], hexEncodeToString (List.replicate 32 0)⟩
      = .ok (makeRequestBindingInput (py "r") (List.replicate 32 0)) := by decide +kernel
  exact ⟨accepted, binding_inputs_separate.1 _ _ _ accepted⟩

end Tarako.Protocol
