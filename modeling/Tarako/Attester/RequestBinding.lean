import Tarako.Library.Sha256
import Tarako.Lang.JsonString

/-! The Go Attester's binding of a client request to the Verifier's nonce. -/

namespace Tarako.Attester

open Lang JsonText

/-- Go error values: `errors.New` and `fmt.Errorf` without a cause, `fmt.Errorf("...: %w")`,
those of `encoding/hex`, and system call error numbers.
-/
inductive GoError
  | new (text : String)
  | wrap (text : String) (cause : GoError)
  | hex (cause : HexError)
  | errno (code : Int)
deriving DecidableEq

def bindingDomain : Bytes :=
  ascii "TARAKO-TQ-REQUEST-V1\x00"

structure QuoteRequest where
  request : GoString
  nonce : GoString
deriving DecidableEq

/-- `json.Marshal` of a struct of strings: members in declaration order. -/
def marshalStrings (fields : List (GoString × GoString)) : Bytes :=
  0x7b
    :: (List.intercalate [0x2c]
          (fields.map (fun field => goQuote field.1 ++ 0x3a :: goQuote field.2))
        ++ [0x7d])

/-- The fields of `bindingContext` in its declaration order. -/
def bindingContext (request : QuoteRequest) : List (GoString × GoString) :=
  [("nonce".toList, request.nonce), ("request".toList, request.request)]

/-- The byte string that `requestBinding` writes to its hasher. -/
def requestBindingInput (request : QuoteRequest) : Except GoError Bytes :=
  match hexDecodeString (utf8 request.nonce) with
  | .error cause => .error (.wrap "decode nonce" (.hex cause))
  | .ok nonce =>
      if nonce.length ≠ 32 then
        .error (.new "nonce must be 32 bytes")
      else if request.request = [] then
        .error (.new "request must not be empty")
      else
        .ok (bindingDomain ++ marshalStrings (bindingContext request))

def requestBinding (request : QuoteRequest) : Except GoError Bytes :=
  (requestBindingInput request).map Sha256.digest

/-- A successful binding hashes the domain and the marshalled context, whatever else was
checked.
-/
theorem requestBindingInput_ok {request : QuoteRequest} {input : Bytes}
    (accepted : requestBindingInput request = .ok input)
    : input = bindingDomain ++ marshalStrings (bindingContext request) := by
  unfold requestBindingInput at accepted
  split at accepted
  · cases accepted
  · split_ifs at accepted
    exact (Except.ok.inj accepted).symm

/-- A nonempty request with the lowercase text of a 32-byte nonce is always accepted. -/
theorem requestBindingInput_hex {request : GoString} {nonce : Bytes}
    (nonempty : request ≠ []) (length : nonce.length = 32)
    : requestBindingInput ⟨request, hexEncodeToString nonce⟩
      = .ok (bindingDomain
          ++ marshalStrings (bindingContext ⟨request, hexEncodeToString nonce⟩)) := by
  simp only [requestBindingInput, utf8_hexEncodeToString, hexDecodeString_encode]
  rw [if_neg (by simp [length]), if_neg nonempty]

end Tarako.Attester
