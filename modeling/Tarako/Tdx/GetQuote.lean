import Tarako.Library.Transitions
import Tarako.Tdx.QgsProtocol

/-! The patched `GetQuote` path of the virtual machine monitor: bytes of the quote generation
service arrive in any pieces, are unwrapped in place, and are published to the guest in three
writes, each of which can fail.
-/

namespace Tarako.Tdx

open Lang Transitions

/-- `TDX_VP_GET_QUOTE_SUCCESS`, `TDX_VP_GET_QUOTE_ERROR` and `TDX_VP_GET_QUOTE_IN_FLIGHT`. -/
structure StatusCodes where
  success : UInt64
  error : UInt64
  inFlight : UInt64
  error_ne : error ≠ success
  inFlight_ne : inFlight ≠ success

/-- `struct tdx_get_quote_header`, field by field as the guest reads it. -/
structure QuoteHeader where
  structureVersion : UInt64
  errorCode : UInt64
  inLen : UInt32
  outLen : UInt32
deriving DecidableEq

/-- `struct tdx_generate_quote_task`, as far as a response concerns it. -/
structure QuoteTask where
  hdr : QuoteHeader
  payloadLen : Nat
  receiveBuf : Bytes
  received : Nat
  statusCode : UInt64

/-- A task as allocated: zero but for the guest's header and the receive buffer. -/
def QuoteTask.new (hdr : QuoteHeader) {payloadLen : Nat} (receiveBuf : U8Array payloadLen)
    : QuoteTask :=
  ⟨hdr, payloadLen, receiveBuf.1, 0, 0⟩

/-- What wakes a waiting task up. -/
inductive ReadEvent
  | data (chunk : Bytes)
  | endOfFile
  | readError
  | timeout

/-- A task that waits for more, or one whose completion runs. -/
inductive Progress
  | receiving (task : QuoteTask)
  | ended (task : QuoteTask)

/-- The receive buffer after a read. -/
def QuoteTask.filled (task : QuoteTask) (chunk : Bytes) : Bytes :=
  task.receiveBuf.take task.received ++ chunk
    ++ task.receiveBuf.drop (task.received + chunk.length)

/-- `tdx_get_quote_read`. A complete frame is unwrapped by moving its quote to the front. -/
def tdxGetQuoteRead (codes : StatusCodes) (task : QuoteTask) : ReadEvent → Progress
  | .data chunk =>
      let buffer := task.filled chunk
      let received := task.received + chunk.length
      match tdxQgsParseResponse buffer received task.payloadLen with
      | .invalid =>
          .ended { task with receiveBuf := buffer, received, statusCode := codes.error }
      | .incomplete => .receiving { task with receiveBuf := buffer, received }
      | .complete quoteSize =>
          .ended
            { task with
              receiveBuf :=
                (buffer.drop TDX_QGS_HEADER_SIZE).take quoteSize ++ buffer.drop quoteSize,
              received := quoteSize,
              statusCode := codes.success }
  | .endOfFile => .ended { task with statusCode := codes.error }
  | .readError => .ended { task with statusCode := codes.error }
  | .timeout => .ended { task with statusCode := codes.error }

/-- Reads are nonempty and fit the rest of the receive buffer. -/
def ReadEvent.admissible (task : QuoteTask) : ReadEvent → Bool
  | .data chunk =>
      decide (0 < chunk.length) && decide (chunk.length ≤ task.payloadLen - task.received)
  | _ => true

/-- One wake-up; an ended task is gone. -/
def Progress.step (codes : StatusCodes) (progress : Progress) (event : ReadEvent)
    : Option Progress :=
  match progress with
  | .receiving task =>
      if event.admissible task then some (tdxGetQuoteRead codes task event) else none
  | .ended _ => none

/-- The bytes that arrived. -/
def ReadEvent.bytes : ReadEvent → Bytes
  | .data chunk => chunk
  | _ => []

def delivered (events : List ReadEvent) : Bytes :=
  events.flatMap ReadEvent.bytes

/-- The guest's shared buffer: its header, and the payload area after it. -/
structure GuestMemory where
  header : QuoteHeader
  payload : Bytes
deriving DecidableEq

/-- How the three writes go: a write is complete, or fails after some bytes of the payload or
some fields of the header; the last write is of one aligned field.
-/
structure WriteOutcomes where
  payload : Option Nat
  header : Option Nat
  status : Bool

/-- No write fails. -/
def WriteOutcomes.ok : WriteOutcomes :=
  ⟨none, none, true⟩

/-- The payload area with data at its beginning. -/
def GuestMemory.withPayload (memory : GuestMemory) (data : Bytes) : GuestMemory :=
  { memory with payload := data ++ memory.payload.drop data.length }

/-- The header with its first fields replaced. -/
def QuoteHeader.replaced (old new : QuoteHeader) (count : Nat) : QuoteHeader where
  structureVersion := if 0 < count then new.structureVersion else old.structureVersion
  errorCode := if 1 < count then new.errorCode else old.errorCode
  inLen := if 2 < count then new.inLen else old.inLen
  outLen := if 3 < count then new.outLen else old.outLen

/-- The memories that the guest sees during a write of `total` parts, oldest first. -/
def visibleDuring (after : Nat → GuestMemory) (total : Nat) (fault : Option Nat)
    : List GuestMemory :=
  (List.range (min (fault.getD total) total + 1)).map after

/-- The memory that a write leaves. -/
def memoryAfter (after : Nat → GuestMemory) (total : Nat) (fault : Option Nat) : GuestMemory :=
  after (min (fault.getD total) total)

/-- The status before the first write: a success needs received bytes that fit. -/
def QuoteTask.checked (codes : StatusCodes) (task : QuoteTask) : QuoteTask :=
  let task := { task with hdr := { task.hdr with outLen := 0 } }
  if task.statusCode = codes.success
      ∧ (task.received = 0 ∨ task.received > task.payloadLen) then
    { task with statusCode := codes.error }
  else
    task

/-- The first write, of the quote; its length is noted only if the write succeeded. -/
def writeQuote (codes : StatusCodes) (fault : Option Nat) (task : QuoteTask)
    (memory : GuestMemory)
    : QuoteTask × GuestMemory × List GuestMemory :=
  if task.statusCode = codes.success then
    let quote := task.receiveBuf.take task.received
    let after count := memory.withPayload (quote.take count)
    let written := memoryAfter after quote.length fault
    let visible := visibleDuring after quote.length fault
    match fault with
    | some _ => ({ task with statusCode := codes.error }, written, visible)
    | none =>
        ({ task with hdr := { task.hdr with outLen := UInt32.ofNat task.received } }, written,
          visible)
  else
    (task, memory, [])

/-- The last two writes: the header while the request stays in flight, and its status if the
header was written.
-/
def publishHeader (codes : StatusCodes) (outcomes : WriteOutcomes) (task : QuoteTask)
    (memory : GuestMemory)
    : GuestMemory × List GuestMemory :=
  let hdr := { task.hdr with errorCode := codes.inFlight }
  let after count := { memory with header := memory.header.replaced hdr count }
  let published := memoryAfter after 4 outcomes.header
  let visible := visibleDuring after 4 outcomes.header
  if outcomes.header.isNone && outcomes.status then
    let done :=
      { published with header := { published.header with errorCode := task.statusCode } }
    (done, visible ++ [done])
  else
    (published, visible)

/-- `tdx_get_quote_completion`: the memory it leaves, and every memory the guest sees. -/
def tdxGetQuoteCompletion (codes : StatusCodes) (outcomes : WriteOutcomes) (task : QuoteTask)
    (memory : GuestMemory)
    : GuestMemory × List GuestMemory :=
  let written := writeQuote codes outcomes.payload (task.checked codes) memory
  let published := publishHeader codes outcomes written.1 written.2.1
  (published.1, written.2.2 ++ published.2)

/-- The memories that the guest sees up to some progress: its own until the completion. -/
def guestStates (codes : StatusCodes) (outcomes : WriteOutcomes) (memory : GuestMemory)
    : Progress → List GuestMemory
  | .receiving _ => [memory]
  | .ended task => memory :: (tdxGetQuoteCompletion codes outcomes task memory).2

/-- A waiting task holds the bytes that arrived so far. -/
structure Receiving (payloadLen : Nat) (past : Bytes) (task : QuoteTask) : Prop where
  capacity : task.payloadLen = payloadLen
  buffer : task.receiveBuf.length = payloadLen
  count : task.received = past.length
  fits : past.length ≤ payloadLen
  bytes : task.receiveBuf.take past.length = past

/-- A task that ends with success holds the quote of the frame that arrived. -/
def Unwrapped (codes : StatusCodes) (payloadLen : Nat) (past : Bytes) (task : QuoteTask) : Prop :=
  task.payloadLen = payloadLen
  ∧ (task.statusCode = codes.success
    → ∃ quote,
        Framable quote
        ∧ responseFrame quote = past
        ∧ task.received = quote.length
        ∧ task.receiveBuf.take quote.length = quote)

/-- What holds of a task after some bytes arrived. -/
def Progress.Holds (codes : StatusCodes) (payloadLen : Nat) (past : Bytes) : Progress → Prop
  | .receiving task => Receiving payloadLen past task
  | .ended task => past.length ≤ payloadLen ∧ Unwrapped codes payloadLen past task

/-- The received bytes of a waiting task lie in its buffer. -/
theorem Receiving.arrived {payloadLen : Nat} {past : Bytes} {task : QuoteTask}
    (receiving : Receiving payloadLen past task)
    : task.received ≤ task.receiveBuf.length ∧ task.receiveBuf.take task.received = past := by
  rw [receiving.count, receiving.buffer]
  exact ⟨receiving.fits, receiving.bytes⟩

/-- A read that fits keeps a task waiting for what comes after it. -/
theorem QuoteTask.filled_receiving {payloadLen : Nat} {past chunk : Bytes} {task : QuoteTask}
    (receiving : Receiving payloadLen past task)
    (room : chunk.length ≤ task.payloadLen - task.received)
    : Receiving payloadLen (past ++ chunk)
        { task with receiveBuf := task.filled chunk, received := task.received + chunk.length } := by
  obtain ⟨capacity, buffer, count, fits, bytes⟩ := receiving
  have filled : task.filled chunk
      = past ++ chunk ++ task.receiveBuf.drop (past.length + chunk.length) := by
    rw [QuoteTask.filled, count, bytes]
  refine ⟨capacity, ?_, ?_, ?_, ?_⟩
  · rw [filled, List.length_append, List.length_append, List.length_drop, buffer]
    omega
  · simp [count]
  · rw [List.length_append]
    omega
  · rw [filled]
    exact List.take_left' rfl

/-- One wake-up keeps track of the bytes that arrived. -/
theorem Progress.step_holds {codes : StatusCodes} {payloadLen : Nat} {past : Bytes}
    {task : QuoteTask} {event : ReadEvent} {next : Progress}
    (receiving : Receiving payloadLen past task)
    (stepped : Progress.step codes (.receiving task) event = some next)
    : next.Holds codes payloadLen (past ++ event.bytes) := by
  have failed : Progress.Holds codes payloadLen past
      (.ended { task with statusCode := codes.error }) :=
    ⟨receiving.fits, receiving.capacity, fun same => absurd same codes.error_ne⟩
  simp only [Progress.step] at stepped
  split at stepped
  · next admissible =>
      cases stepped
      cases event with
      | data chunk =>
          simp only [ReadEvent.admissible, Bool.and_eq_true, decide_eq_true_eq] at admissible
          have filled := QuoteTask.filled_receiving receiving admissible.2
          simp only [tdxGetQuoteRead]
          split
          · exact ⟨filled.fits, receiving.capacity, fun same => absurd same codes.error_ne⟩
          · exact filled
          · next quoteSize parsed =>
              obtain ⟨inside, arrived⟩ := filled.arrived
              obtain ⟨length, framable, frame⟩ := frame_of_complete inside parsed
              refine ⟨filled.fits, receiving.capacity, fun _ => ?_⟩
              refine ⟨_, framable, frame.trans arrived, length.symm, ?_⟩
              rw [length]
              exact List.take_left' length
      | endOfFile => simpa [ReadEvent.bytes, tdxGetQuoteRead] using failed
      | readError => simpa [ReadEvent.bytes, tdxGetQuoteRead] using failed
      | timeout => simpa [ReadEvent.bytes, tdxGetQuoteRead] using failed
  · cases stepped

/-- A run keeps track of the bytes that arrived, by induction on the wake-ups. -/
theorem Progress.run_holds {codes : StatusCodes} {payloadLen : Nat} {past : Bytes}
    {task : QuoteTask} {events : List ReadEvent} {last : Progress}
    (receiving : Receiving payloadLen past task)
    (reached : Transitions.run (Progress.step codes) (.receiving task) events = some last)
    : last.Holds codes payloadLen (past ++ delivered events) := by
  induction events generalizing task past with
  | nil =>
      cases reached
      simp only [delivered, List.flatMap_nil, List.append_nil]
      exact receiving
  | cons event rest ih =>
      obtain ⟨next, stepped, remaining⟩ := run_cons reached
      have held := Progress.step_holds receiving stepped
      have split : past ++ delivered (event :: rest) = past ++ event.bytes ++ delivered rest := by
        simp [delivered]
      rw [split]
      cases next with
      | receiving task => exact ih held remaining
      | ended task =>
          cases rest with
          | nil =>
              cases remaining
              simpa [delivered] using held
          | cons other more => cases remaining

/-- A new task has received nothing. -/
theorem QuoteTask.new_receiving (hdr : QuoteHeader) {payloadLen : Nat}
    (receiveBuf : U8Array payloadLen)
    : Receiving payloadLen [] (QuoteTask.new hdr receiveBuf) where
  capacity := rfl
  buffer := receiveBuf.2
  count := rfl
  fits := Nat.zero_le _
  bytes := rfl

/-- However an exact frame is split into nonempty reads, the task ends with its quote, by
induction on the reads: every read but the last leaves a strict beginning of the frame.
-/
theorem Progress.run_frame {codes : StatusCodes} {payloadLen : Nat} {quote : Bytes}
    (framable : Framable quote) (fits : TDX_QGS_HEADER_SIZE + quote.length ≤ payloadLen)
    {past : Bytes} {task : QuoteTask} (receiving : Receiving payloadLen past task)
    {chunks : List Bytes} (nonempty : ∀ chunk ∈ chunks, chunk ≠ [])
    (whole : past ++ chunks.flatten = responseFrame quote)
    (unfinished : past.length < TDX_QGS_HEADER_SIZE + quote.length)
    : ∃ last,
        Transitions.run (Progress.step codes) (.receiving task) (chunks.map .data)
          = some (.ended last)
        ∧ last.statusCode = codes.success
        ∧ last.received = quote.length := by
  induction chunks generalizing task past with
  | nil =>
      have length := congrArg List.length whole
      simp at length
      omega
  | cons chunk rest ih =>
      have length := congrArg List.length whole
      simp only [List.flatten_cons, List.length_append, responseFrame_length] at length
      have positive := List.length_pos_iff.mpr (nonempty chunk (List.mem_cons_self ..))
      have room : chunk.length ≤ task.payloadLen - task.received := by
        rw [receiving.capacity, receiving.count]
        omega
      have filled := QuoteTask.filled_receiving receiving room
      obtain ⟨inside, arrived⟩ := filled.arrived
      have count : task.received + chunk.length = (past ++ chunk).length := filled.count
      rw [List.length_append] at count
      have admissible : (ReadEvent.data chunk).admissible task = true := by
        simp [ReadEvent.admissible, positive, room]
      have joined : past ++ chunk ++ rest.flatten = responseFrame quote := by
        rw [← whole, List.flatten_cons, List.append_assoc]
      dsimp only at inside arrived
      have fitsTask : TDX_QGS_HEADER_SIZE + quote.length ≤ task.payloadLen := by
        rwa [receiving.capacity]
      simp only [List.map_cons, Transitions.run, Progress.step, if_pos admissible, tdxGetQuoteRead]
      cases rest with
      | nil =>
          -- the last read completes the frame
          rw [List.flatten_nil, List.append_nil] at joined
          have parsed := complete_of_frame framable fitsTask inside (arrived.trans joined) (by
            rw [List.flatten_nil, List.length_nil] at length
            omega)
          rw [parsed]
          exact ⟨_, rfl, rfl, rfl⟩
      | cons other more =>
          have later := nonempty other (.tail _ (.head _))
          have remaining := List.length_pos_iff.mpr later
          rw [List.flatten_cons, List.length_append] at length
          have strict : task.received + chunk.length < TDX_QGS_HEADER_SIZE + quote.length := by
            omega
          have begins : (task.filled chunk).take (task.received + chunk.length)
              = (responseFrame quote).take (task.received + chunk.length) := by
            rw [arrived, ← joined, count, ← List.length_append]
            exact (List.take_left' rfl).symm
          rw [tdxQgsParseResponse_incomplete framable fitsTask inside begins strict]
          refine ih filled (fun piece member => nonempty piece (.tail _ member)) joined ?_
          rw [List.length_append]
          omega

-----------------------------------------------------------------------------------------
-- What the guest sees
-----------------------------------------------------------------------------------------

theorem QuoteTask.checked_success {codes : StatusCodes} {task : QuoteTask}
    (success : (task.checked codes).statusCode = codes.success)
    : task.statusCode = codes.success
      ∧ (task.checked codes).received = task.received
      ∧ (task.checked codes).receiveBuf = task.receiveBuf := by
  unfold QuoteTask.checked at success ⊢
  dsimp only at success ⊢
  split at success
  · exact absurd success codes.error_ne
  · next passed =>
      rw [if_neg passed]
      exact ⟨success, rfl, rfl⟩

/-- The first write leaves the header alone. -/
theorem writeQuote_header (codes : StatusCodes) (fault : Option Nat) (task : QuoteTask)
    (memory : GuestMemory)
    : (writeQuote codes fault task memory).2.1.header = memory.header
      ∧ ∀ visible ∈ (writeQuote codes fault task memory).2.2,
          visible.header = memory.header := by
  unfold writeQuote
  split
  · have during (visible : GuestMemory)
        (member : visible ∈ visibleDuring (fun count => memory.withPayload
          ((task.receiveBuf.take task.received).take count))
          (task.receiveBuf.take task.received).length fault)
        : visible.header = memory.header := by
      obtain ⟨count, _, rfl⟩ := List.mem_map.mp member
      rfl
    cases fault <;> exact ⟨rfl, during⟩
  · exact ⟨rfl, nofun⟩

/-- A success that survives the first write has the whole quote in place, and its length. -/
theorem writeQuote_success {codes : StatusCodes} {fault : Option Nat} {task : QuoteTask}
    {memory : GuestMemory}
    (success : (writeQuote codes fault task memory).1.statusCode = codes.success)
    : task.statusCode = codes.success
      ∧ (writeQuote codes fault task memory).1.hdr.outLen = UInt32.ofNat task.received
      ∧ task.receiveBuf.take task.received
        <+: (writeQuote codes fault task memory).2.1.payload := by
  unfold writeQuote at success ⊢
  split
  · next succeeded =>
      cases fault with
      | some count =>
          rw [if_pos succeeded] at success
          exact absurd success codes.error_ne
      | none =>
          refine ⟨succeeded, rfl, ?_⟩
          simp only [memoryAfter, Option.getD_none, Nat.min_self, List.take_length]
          exact List.prefix_append _ _
  · next other =>
      rw [if_neg other] at success
      exact absurd success other

/-- Only the last write can show a success, and it shows the header and payload before it. -/
theorem publishHeader_success {codes : StatusCodes} {outcomes : WriteOutcomes}
    {task : QuoteTask} {memory : GuestMemory}
    (hidden : memory.header.errorCode ≠ codes.success) {visible : GuestMemory}
    (member : visible ∈ (publishHeader codes outcomes task memory).2)
    (success : visible.header.errorCode = codes.success)
    : task.statusCode = codes.success
      ∧ visible.header.outLen = task.hdr.outLen
      ∧ visible.payload = memory.payload := by
  have during
      : visible ∉ visibleDuring (fun count =>
          { memory with
            header := memory.header.replaced { task.hdr with errorCode := codes.inFlight } count })
          4 outcomes.header := by
    intro inside
    obtain ⟨count, _, rfl⟩ := List.mem_map.mp inside
    simp only [QuoteHeader.replaced] at success
    split at success
    · exact codes.inFlight_ne success
    · exact hidden success
  unfold publishHeader at member
  dsimp only at member
  split at member
  · next written =>
      -- the header was written whole, so the last field follows a consistent header
      rcases List.mem_append.mp member with inside | last
      · exact absurd inside during
      · cases List.mem_singleton.mp last
        have complete : outcomes.header = none := by
          simpa using (Bool.and_eq_true_iff.mp written).1
        rw [complete]
        exact ⟨success, rfl, rfl⟩
  · exact absurd member during

/-- A success that the guest sees during a completion: the task ended with success, its bytes
are at the beginning of the payload area, and their number is in the header.
-/
theorem tdxGetQuoteCompletion_success {codes : StatusCodes} {outcomes : WriteOutcomes}
    {task : QuoteTask} {memory visible : GuestMemory}
    (hidden : memory.header.errorCode ≠ codes.success)
    (member : visible ∈ (tdxGetQuoteCompletion codes outcomes task memory).2)
    (success : visible.header.errorCode = codes.success)
    : task.statusCode = codes.success
      ∧ visible.header.outLen = UInt32.ofNat task.received
      ∧ task.receiveBuf.take task.received <+: visible.payload := by
  obtain ⟨kept, during⟩ :=
    writeQuote_header codes outcomes.payload (task.checked codes) memory
  rcases List.mem_append.mp member with inside | later
  · rw [during visible inside] at success
    exact absurd success hidden
  · obtain ⟨stillSuccess, outLen, payload⟩ :=
      publishHeader_success (by rwa [kept]) later success
    obtain ⟨checkedSuccess, noted, quote⟩ := writeQuote_success stillSuccess
    obtain ⟨ended, received, buffer⟩ := QuoteTask.checked_success checkedSuccess
    rw [received] at noted quote
    rw [buffer] at quote
    exact ⟨ended, outLen.trans noted, payload ▸ quote⟩

/-- Without faults, a task with received bytes that fit publishes its success. -/
theorem tdxGetQuoteCompletion_ok {codes : StatusCodes} {task : QuoteTask}
    (ended : task.statusCode = codes.success) (positive : 0 < task.received)
    (fits : task.received ≤ task.payloadLen) (memory : GuestMemory)
    : (tdxGetQuoteCompletion codes .ok task memory).1.header.errorCode = codes.success
      ∧ (tdxGetQuoteCompletion codes .ok task memory).1
        ∈ (tdxGetQuoteCompletion codes .ok task memory).2 := by
  have kept : task.checked codes = { task with hdr := { task.hdr with outLen := 0 } } := by
    unfold QuoteTask.checked
    exact if_neg (by dsimp only; omega)
  have success : (writeQuote codes WriteOutcomes.ok.payload (task.checked codes)
      memory).1.statusCode = codes.success := by
    rw [writeQuote, if_pos (by rw [kept, ended]), kept]
    exact ended
  exact ⟨success, List.mem_append_right _ (List.mem_append_right _ (.head _))⟩

/-- The guest never sees a false success. Whatever bytes arrive, in whatever pieces and with
whatever end, and whichever writes fail, a success in any memory that the guest sees comes with
a stream that began with a well-formed frame of a nonempty quote, with that quote at the
beginning of the payload area and with its length. And if the stream is exactly such a frame,
every splitting of it into nonempty reads ends with that success, if no write fails.
-/
theorem no_false_success (codes : StatusCodes) (hdr : QuoteHeader) {payloadLen : Nat}
    (receiveBuf : U8Array payloadLen) (memory : GuestMemory)
    (hidden : memory.header.errorCode ≠ codes.success)
    : (∀ stream events progress outcomes visible,
        Transitions.run (Progress.step codes) (.receiving (QuoteTask.new hdr receiveBuf)) events
          = some progress
        → delivered events <+: stream
        → visible ∈ guestStates codes outcomes memory progress
        → visible.header.errorCode = codes.success
        → ∃ quote,
            Framable quote
            ∧ responseFrame quote <+: stream
            ∧ TDX_QGS_HEADER_SIZE + quote.length ≤ payloadLen
            ∧ visible.header.outLen.toNat = quote.length
            ∧ quote <+: visible.payload)
      ∧ ∀ (quote : Bytes) (chunks : List Bytes),
          Framable quote
          → TDX_QGS_HEADER_SIZE + quote.length ≤ payloadLen
          → (∀ chunk ∈ chunks, chunk ≠ [])
          → chunks.flatten = responseFrame quote
          → ∃ task,
              Transitions.run (Progress.step codes) (.receiving (QuoteTask.new hdr receiveBuf))
                  (chunks.map .data)
                = some (.ended task)
              ∧ (let completed := (tdxGetQuoteCompletion codes .ok task memory).1
                completed.header.errorCode = codes.success
                ∧ completed.header.outLen.toNat = quote.length
                ∧ quote <+: completed.payload) := by
  have shown {past : Bytes} {task : QuoteTask} {outcomes : WriteOutcomes} {visible : GuestMemory}
      (held : Progress.Holds codes payloadLen past (.ended task))
      (member : visible ∈ (tdxGetQuoteCompletion codes outcomes task memory).2)
      (success : visible.header.errorCode = codes.success)
      : ∃ quote,
          Framable quote
          ∧ responseFrame quote = past
          ∧ visible.header.outLen.toNat = quote.length
          ∧ quote <+: visible.payload := by
    obtain ⟨ended, outLen, bytes⟩ := tdxGetQuoteCompletion_success hidden member success
    obtain ⟨quote, framable, frame, count, taken⟩ := held.2.2 ended
    rw [count] at outLen bytes
    rw [taken] at bytes
    refine ⟨quote, framable, frame, ?_, bytes⟩
    rw [outLen]
    refine UInt32.toNat_ofNat_of_lt' ?_
    have bound := framable.2
    exact lt_of_le_of_lt (Nat.le_add_left _ _) bound
  refine ⟨?_, ?_⟩
  · intro stream events progress outcomes visible reached begins member success
    have held := Progress.run_holds (QuoteTask.new_receiving hdr receiveBuf) reached
    rw [List.nil_append] at held
    cases progress with
    | receiving task =>
        cases List.mem_singleton.mp member
        exact absurd success hidden
    | ended task =>
        rcases List.mem_cons.mp member with rfl | completed
        · exact absurd success hidden
        · obtain ⟨quote, framable, frame, outLen, bytes⟩ := shown held completed success
          refine ⟨quote, framable, frame ▸ begins, ?_, outLen, bytes⟩
          rw [← responseFrame_length, frame]
          exact held.1
  · intro quote chunks framable fits nonempty whole
    have waiting := QuoteTask.new_receiving hdr receiveBuf
    obtain ⟨task, reached, ended, count⟩ :=
      @Progress.run_frame codes payloadLen quote framable fits [] _ waiting chunks nonempty whole
        (by simp [TDX_QGS_HEADER_SIZE, TDX_QGS_PREFIX_SIZE])
    have held := Progress.run_holds waiting reached
    have arrived : delivered (chunks.map .data) = responseFrame quote := by
      rw [delivered, List.flatMap_map, ← whole, ← List.flatMap_id]
      rfl
    rw [List.nil_append, arrived] at held
    have positive := List.length_pos_iff.mpr framable.1
    obtain ⟨success, visible⟩ := tdxGetQuoteCompletion_ok ended (by omega)
      (by rw [held.2.1]; omega) memory
    obtain ⟨found, _, frame, outLen, bytes⟩ := shown held visible success
    cases responseFrame_injective frame
    exact ⟨task, reached, success, outLen, bytes⟩

/-- The status codes of the guest-host interface. -/
def ghciCodes : StatusCodes where
  success := 0
  error := 0x8000000000000000
  inFlight := 0xffffffffffffffff
  error_ne := by decide
  inFlight_ne := by decide

theorem no_false_success_split
    : ∃ task,
        Transitions.run (Progress.step ghciCodes)
            (.receiving (QuoteTask.new ⟨1, ghciCodes.inFlight, 1024, 0⟩
              ⟨List.replicate 40 0xff, List.length_replicate⟩))
            ([(responseFrame [7, 8]).take 5, (responseFrame [7, 8]).drop 5].map .data)
          = some (.ended task)
        ∧ (tdxGetQuoteCompletion ghciCodes .ok task
            ⟨⟨1, ghciCodes.inFlight, 1024, 0⟩, List.replicate 40 0⟩).1.header.errorCode
          = ghciCodes.success := by
  have hidden : ghciCodes.inFlight ≠ ghciCodes.success := ghciCodes.inFlight_ne
  obtain ⟨task, reached, success, _⟩ :=
    (no_false_success ghciCodes ⟨1, ghciCodes.inFlight, 1024, 0⟩
      ⟨List.replicate 40 0xff, List.length_replicate⟩
      ⟨⟨1, ghciCodes.inFlight, 1024, 0⟩, List.replicate 40 0⟩ hidden).2 [7, 8]
      [(responseFrame [7, 8]).take 5, (responseFrame [7, 8]).drop 5] ⟨by decide, by decide⟩
      (by decide) (by decide) (by simp)
  exact ⟨task, reached, success⟩

end Tarako.Tdx
