import Tarako.Attester.Quote
import Tarako.Lang.GoFraming
import Mathlib.Data.List.Permutation

/-! The Attester's HTTP interface: `quoteHandler` on the bytes of a request, and the bytes of its
responses.
-/

namespace Tarako.Attester

open Lang JsonText

/-- How `decoder.Decode(&input)` fails: with the stream, at a key without a field, or at a value
that is no string.
-/
inductive DecodeError
  | unreadable
  | unknownField (key : GoString)
  | wrongType (key : Option GoString)
deriving DecidableEq

/-- The limit of `http.MaxBytesReader`. -/
def maxBody : Nat := 1 <<< 20

/-- The decoded part of a `quoteRequest`, and the first error; the decoder goes on after one. -/
structure Decoding where
  input : QuoteRequest
  failure : Option DecodeError
deriving DecidableEq

/-- The fields of `quoteRequest`. -/
inductive Field
  | request
  | nonce
deriving DecidableEq

/-- Names are compared without regard to case. -/
def field? (key : GoString) : Option Field :=
  if foldName key = foldName "request".toList then some .request
  else if foldName key = foldName "nonce".toList then some .nonce
  else none

def Field.set (field : Field) (text : GoString) (input : QuoteRequest) : QuoteRequest :=
  match field with
  | .request => { input with request := text }
  | .nonce => { input with nonce := text }

/-- One member of the object: the last one of a field counts, and `null` changes nothing. -/
def Decoding.member (state : Decoding) (member : GoString × GoValue) : Decoding :=
  match field? member.1 with
  | none => { state with failure := state.failure <|> some (.unknownField member.1) }
  | some field =>
      match member.2 with
      | .str text => { state with input := field.set text state.input }
      | .null => state
      | _ => { state with failure := state.failure <|> some (.wrongType (some member.1)) }

/-- A decoded value as a `quoteRequest`. -/
def unmarshal : GoValue → Except DecodeError QuoteRequest
  | .null => .ok ⟨[], []⟩
  | .obj members =>
      let decoded := members.foldl Decoding.member ⟨⟨[], []⟩, none⟩
      match decoded.failure with
      | some error => .error error
      | none => .ok decoded.input
  | _ => .error (.wrongType none)

/-- The decoder of `quoteHandler` on the bytes of a request. -/
def decodeBody (body : Bytes) : Except DecodeError QuoteRequest :=
  match goDecodeValue maxBody body with
  | none => .error .unreadable
  | some value => unmarshal value

/-- `quoteHandler` on a method and a body. The texts of the decoder's errors are those of
`encoding/json`.
-/
def quoteService (device : Device) (keyAddress requestAddress : Nat)
    (describe : Bytes → DecodeError → GoError) (isPost : Bool) (body : Bytes)
    : HttpResponse :=
  quoteHandler device keyAddress requestAddress isPost ((decodeBody body).mapError (describe body))

/-- The fields of `quoteResponse` in its declaration order. -/
def QuoteResponse.fields (response : QuoteResponse) : List (GoString × GoString) :=
  [
    ("hash".toList, response.hash), ("public_key".toList, response.publicKey),
    ("signature_der".toList, response.signatureDER), ("user_data".toList, response.userData)
  ]

def HttpResponse.status : HttpResponse → Nat
  | .error status _ => status
  | .quote status _ => status

/-- What `writeJSON` writes; `Encode` ends a value with a line feed. -/
def HttpResponse.body (text : GoError → GoString) (response : HttpResponse) : Bytes :=
  let fields :=
    match response with
    | .error _ cause => [("error".toList, text cause)]
    | .quote _ found => found.fields
  marshalStrings fields ++ [0x0a]

-----------------------------------------------------------------------------------------
-- What the client posts
-----------------------------------------------------------------------------------------

/-- The client's object for `/quote`. -/
def postedFields (nonce request : PyStr) : List (PyStr × PyStr) :=
  [(py "nonce", nonce), (py "request", request)]

/-- A client's object is read as its two strings, in either order, if it ends within the limit,
and otherwise not at all.
-/
theorem decodeBody_posted {nonce request text rest : PyStr} {body : Bytes}
    (written : Written (.obj (stringFields (postedFields nonce request))) text)
    (plain : Ascii rest) (sent : asText body = text ++ rest)
    : decodeBody body
      = if text.length ≤ maxBody then
          .ok ⟨runes (mergePairs request), runes (mergePairs nonce)⟩
        else
          .error .unreadable := by
  have nonceKey : runes (mergePairs (py "nonce")) = "nonce".toList := by decide
  have requestKey : runes (mergePairs (py "request")) = "request".toList := by decide
  have nonceField : field? "nonce".toList = some .nonce := by decide
  have requestField : field? "request".toList = some .request := by decide
  split_ifs with fits
  · obtain ⟨order, same, decoded⟩ := goDecodeValue_written (List.cons_ne_nil _ _) written plain sent fits
    rw [decodeBody, decoded]
    obtain rfl | rfl := List.perm_pair.mp same
    all_goals
      simp only [unmarshal, goMembers, List.map_cons, List.map_nil, List.foldl_cons, List.foldl_nil,
        Decoding.member, nonceKey, requestKey, nonceField, requestField, Field.set]
  · rw [decodeBody, goDecodeValue_cut (List.cons_ne_nil _ _) written sent (by omega)]

end Tarako.Attester
