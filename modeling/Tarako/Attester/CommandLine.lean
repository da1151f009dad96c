import Tarako.Attester.Quote

/-! The Attester on the command line: `tarako-attester quote [hex-user-data]` has the kernel sign
any user data of up to 128 bytes.
-/

namespace Tarako.Attester

open Lang

/-- The bytes of an argument as user data. -/
def parseUserData (value : Bytes) : Except GoError Bytes :=
  match hexDecodeString value with
  | .error cause => .error (.wrap "decode user data" (.hex cause))
  | .ok data =>
      if data.length = 0 ∨ data.length > userDataBytes then
        .error (.new "user data must contain between 1 and 128 bytes")
      else
        .ok data

/-- The user data of `runQuote`: random without an argument. -/
def quotedData (random : Except GoError (U8Array 32)) (args : List Bytes) : Except GoError Bytes :=
  if args.length > 1 then
    .error (.new "usage: tarako-attester quote [hex-user-data]")
  else
    match args with
    | [] =>
        match random with
        | .error error => .error (.wrap "generate nonce" error)
        | .ok data => .ok data.1
    | value :: _ => parseUserData value

/-- `runQuote`, with the quote that it prints; the duration is left out. -/
def runQuote (device : Device) (keyAddress requestAddress : Nat)
    (random : Except GoError (U8Array 32)) (args : List Bytes)
    : Except GoError QuoteResponse :=
  match quotedData random args with
  | .error error => .error error
  | .ok data => tarakoQuote device keyAddress requestAddress data

/-- Accepted user data is nonempty and fits the signing request. -/
theorem quotedData_fits {random : Except GoError (U8Array 32)} {args : List Bytes} {data : Bytes}
    (given : quotedData random args = .ok data)
    : 0 < data.length ∧ data.length ≤ userDataBytes := by
  unfold quotedData at given
  split_ifs at given
  split at given
  · split at given
    · cases given
    · next drawn =>
        cases given
        rw [drawn.2]
        decide
  · unfold parseUserData at given
    split at given
    · cases given
    · split_ifs at given with refused
      cases given
      omega

/-- The hexadecimal text of data is an argument for it. -/
theorem quotedData_encode (random : Except GoError (U8Array 32)) {data : Bytes}
    (some : 0 < data.length) (fits : data.length ≤ userDataBytes)
    : quotedData random [HexText.encode data] = .ok data := by
  simp only [quotedData, List.length_singleton, gt_iff_lt, lt_irrefl, if_false, parseUserData,
    hexDecodeString_encode]
  rw [if_neg (by omega)]

/-- Whatever the HTTP handler answers for a request, the command line prints for the text of the
request's binding.
-/
theorem quoteHandler_iff_runQuote (device : Device) (keyAddress requestAddress : Nat)
    (random : Except GoError (U8Array 32)) (input : QuoteRequest) (quote : QuoteResponse)
    : quoteHandler device keyAddress requestAddress true (.ok input) = .quote 200 quote
      ↔ ∃ binding,
          requestBinding input = .ok binding
          ∧ runQuote device keyAddress requestAddress random [HexText.encode binding]
            = .ok quote := by
  cases bound : requestBinding input with
  | error error => simp [quoteHandler, bound]
  | ok binding =>
      have length : binding.length = 32 := by
        unfold requestBinding at bound
        cases written : requestBindingInput input with
        | error error =>
            rw [written] at bound
            cases bound
        | ok bytes =>
            rw [written] at bound
            cases bound
            exact Sha256.digest_length _
      have given := quotedData_encode random (by rw [length]; decide)
        (show binding.length ≤ userDataBytes by rw [length]; decide)
      simp only [quoteHandler, bound, Bool.not_true, Bool.false_eq_true, if_false, Except.ok.injEq,
        exists_eq_left', runQuote, given]
      cases tarakoQuote device keyAddress requestAddress binding <;> simp

end Tarako.Attester
