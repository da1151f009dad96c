import Tarako.Library.Sha256
import Tarako.Lang.PythonJson

/-! The Python Verifier's binding of a request to one of its nonces. -/

namespace Tarako.Verifier

open Lang

/-- `DOMAIN`. -/
def domain : Bytes :=
  ascii "TARAKO-TQ-REQUEST-V1\x00"

/-- `USER_DATA_BYTES`. -/
def userDataBytes : Nat := 128

/-- The byte string that `make_request_binding` hashes. -/
def makeRequestBindingInput (requestValue : PyStr) (nonce : Bytes) : Bytes :=
  domain
    ++ (Json.obj
          [(py "nonce", .str (pyHex nonce)), (py "request", .str requestValue)]).dumps

def makeRequestBinding (requestValue : PyStr) (nonce : Bytes) : Bytes :=
  Sha256.digest (makeRequestBindingInput requestValue nonce)

end Tarako.Verifier
