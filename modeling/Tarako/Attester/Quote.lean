import Tarako.Attester.RequestBinding
import Tarako.Driver.Ioctl
import Tarako.Lang.PythonJson
import Tarako.Library.Der

/-! The Go Attester's quote: its ioctls on `/dev/tarako`, the DER signature and the HTTP
handler. The measured duration of the signing call is left out.
-/

namespace Tarako.Attester

open Lang ByteDigits Driver

def tarakoHello : UInt32 := 0x00005300

def tarakoGetPubkey : UInt32 := 0x80215301

def tarakoSignData : UInt32 := 0xC1015302

def userDataBytes : Nat := 128

/-- The device file: whether it opens, and what its ioctls do to the memory of the process. -/
structure Device where
  openFile : Except GoError Unit
  ioctl : UserMemory → UInt32 → Nat → UserMemory × Except Errno Int

/-- A process memory that holds a variable at an address and nothing else. -/
def variableAt (address : Nat) (content : Bytes) : UserMemory where
  byte at_ := content.getD (at_ - address) 0
  readable at_ := decide (address ≤ at_ ∧ at_ < address + content.length)
  writable at_ := decide (address ≤ at_ ∧ at_ < address + content.length)

/-- `ioctl` on a variable: the result and the content of the variable afterwards. -/
def ioctl (device : Device) (request : UInt32) (address : Nat) (content : Bytes)
    : Except GoError (Int × Bytes) :=
  match device.ioctl (variableAt address content) request address with
  | (_, .error errno) => .error (.errno (-errno.code))
  | (memory, .ok result) => .ok (result, memory.load address content.length)

/-- `signDataRequest`, read from its memory. -/
structure SignDataRequest where
  userData : Bytes
  hash : Bytes
  sigR : Bytes
  sigS : Bytes
  pubkey : Bytes
deriving DecidableEq

/-- The fields at their offsets: byte arrays without padding. -/
def SignDataRequest.ofMemory (bytes : Bytes) : SignDataRequest where
  userData := bytes.take 128
  hash := (bytes.drop 128).take 32
  sigR := (bytes.drop 160).take 32
  sigS := (bytes.drop 192).take 32
  pubkey := (bytes.drop 224).take 33

/-- A zero request after `copy(signingRequest.UserData[:], userData)`. -/
def signingRequestMemory (userData : Bytes) : Bytes :=
  userData.take userDataBytes ++ List.replicate (257 - (userData.take userDataBytes).length) 0

/-- `quoteResponse`, without its duration. -/
structure QuoteResponse where
  hash : GoString
  publicKey : GoString
  signatureDER : GoString
  userData : GoString
deriving DecidableEq

/-- `tarakoQuote`, with the addresses of its two variables. -/
def tarakoQuote (device : Device) (keyAddress requestAddress : Nat) (userData : Bytes)
    : Except GoError QuoteResponse :=
  match device.openFile with
  | .error error => .error (.wrap "open /dev/tarako" error)
  | .ok () =>
      match ioctl device tarakoHello 0 [] with
      | .error error => .error (.wrap "TARAKO_HELLO" error)
      | .ok (hello, _) =>
          if hello ≠ 0 then
            .error (.new s!"TARAKO_HELLO returned {hello}")
          else
            match ioctl device tarakoGetPubkey keyAddress (List.replicate 33 0) with
            | .error error => .error (.wrap "TARAKO_GET_PUBKEY" error)
            | .ok (length, publicKey) =>
                if length ≠ 33 then
                  .error (.new s!"TARAKO_GET_PUBKEY returned {length}")
                else
                  match ioctl device tarakoSignData requestAddress
                    (signingRequestMemory userData) with
                  | .error error => .error (.wrap "TARAKO_SIGN_DATA" error)
                  | .ok (result, memory) =>
                      let signingRequest := SignDataRequest.ofMemory memory
                      if result ≠ 0 then
                        .error (.new s!"TARAKO_SIGN_DATA returned {result}")
                      else if signingRequest.pubkey ≠ publicKey then
                        .error (.new "TAK public key changed between ioctls")
                      else
                        let signatureDER :=
                          Der.pair (beValue signingRequest.sigR) (beValue signingRequest.sigS)
                        .ok
                          ⟨hexEncodeToString signingRequest.hash, hexEncodeToString publicKey,
                            hexEncodeToString signatureDER,
                            hexEncodeToString signingRequest.userData⟩

/-- The response object as a JSON reader sees it. -/
def QuoteResponse.json (response : QuoteResponse) : List (PyStr × Json) :=
  [
    (py "hash", .str (PyStr.ofChars response.hash)),
    (py "public_key", .str (PyStr.ofChars response.publicKey)),
    (py "signature_der", .str (PyStr.ofChars response.signatureDER)),
    (py "user_data", .str (PyStr.ofChars response.userData))
  ]

/-- What `quoteHandler` writes: a status with an error text or with the quote. -/
inductive HttpResponse
  | error (status : Nat) (cause : GoError)
  | quote (status : Nat) (response : QuoteResponse)
deriving DecidableEq

/-- `quoteHandler`, from the method and the outcome of the JSON decoder. -/
def quoteHandler (device : Device) (keyAddress requestAddress : Nat) (isPost : Bool)
    (decoded : Except GoError QuoteRequest)
    : HttpResponse :=
  if !isPost then
    .error 405 (.new "POST required")
  else
    match decoded with
    | .error error => .error 400 error
    | .ok input =>
        match requestBinding input with
        | .error error => .error 400 error
        | .ok binding =>
            match tarakoQuote device keyAddress requestAddress binding with
            | .error error => .error 500 error
            | .ok quote => .quote 200 quote

/-- The command numbers of the two programs agree. -/
theorem commands_agree
    : tarakoHello = TARAKO_HELLO
      ∧ tarakoGetPubkey = TARAKO_GET_PUBKEY
      ∧ tarakoSignData = TARAKO_SIGN_DATA := by
  decide

theorem variableAt_load (address : Nat) (content : Bytes)
    : (variableAt address content).load address content.length = content := by
  have all : ∀ (rest : Bytes) (offset : Nat),
      content.drop offset = rest
      → (variableAt address content).load (address + offset) rest.length = rest := by
    intro rest
    induction rest with
    | nil =>
        intro offset _
        rfl
    | cons byte rest ih =>
        intro offset split
        have head : content.getD offset 0 = byte := by
          rw [List.getD_eq_getElem?_getD, ← List.head?_drop, split]
          rfl
        have tail : content.drop (offset + 1) = rest := by
          rw [← List.drop_drop, split]
          rfl
        simp only [List.length_cons, UserMemory.load, List.cons.injEq]
        refine ⟨?_, ?_⟩
        · simpa [variableAt] using head
        · rw [Nat.add_assoc]
          exact ih (offset + 1) tail
  simpa using all content 0 rfl

/-- The kernel's answer, read through the Go struct. -/
theorem ofMemory_bytes (req : SignDataReq)
    : SignDataRequest.ofMemory req.bytes
      = ⟨req.userData.1, req.hash.1, req.sigR.1, req.sigS.1, req.pubkey.1⟩ := by
  have fields := congrArg
    (fun r : SignDataReq => (r.userData.1, r.hash.1, r.sigR.1, r.sigS.1, r.pubkey.1))
    req.ofBytes_bytes
  simp only [Prod.mk.injEq] at fields
  obtain ⟨userData, hash, sigR, sigS, pubkey⟩ := fields
  simp only [SignDataRequest.ofMemory, SignDataRequest.mk.injEq]
  exact ⟨userData, hash, sigR, sigS, pubkey⟩

end Tarako.Attester
