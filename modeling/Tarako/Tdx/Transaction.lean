import Tarako.Tdx.GetQuote
import Tarako.Tdx.QgsGrammar

/-! A whole transaction with the quote generation service: connecting, sending the framed
TDREPORT in pieces, and receiving, with a timer that can expire at any time. The diagnostics keep
a clock reading for each stage, zero until the stage is reached; what they report is what
happened.
-/

namespace Tarako.Tdx

open Lang Transitions ByteDigits

/-- `struct tdx_generate_quote_task`, with what it sends and the readings of its stages. -/
structure QgsTransaction where
  sendData : Bytes
  sendDataSent : Nat
  startedUs : Int
  connectedUs : Int
  sentUs : Int
  firstReplyUs : Int
  task : QuoteTask

/-- The request in place: the buffer grows by a header, the report moves up behind it, and the
header is written over what stood there.
-/
def framedRequest (report grown : Bytes) : Bytes :=
  tdxQgsRequestHeader ((report ++ grown).take TDX_QGS_HEADER_SIZE ++ report)
    (UInt32.ofNat report.length)

/-- The timings that the cleanup reports, `-1` for a stage that was not reached. -/
structure TimingReport where
  connect : Int
  send : Int
  waitFirstByte : Int
  receive : Int
  total : Int
  sent : Nat
  size : Nat
  received : Nat
  status : UInt64
deriving DecidableEq

/-- The report of `tdx_generate_quote_cleanup` at some time. -/
def QgsTransaction.timings (transaction : QgsTransaction) (now : Int) : TimingReport where
  connect :=
    if transaction.connectedUs ≠ 0 then transaction.connectedUs - transaction.startedUs else -1
  send := if transaction.sentUs ≠ 0 then transaction.sentUs - transaction.connectedUs else -1
  waitFirstByte :=
    if transaction.firstReplyUs ≠ 0 then transaction.firstReplyUs - transaction.sentUs else -1
  receive := if transaction.firstReplyUs ≠ 0 then now - transaction.firstReplyUs else -1
  total := now - transaction.startedUs
  sent := transaction.sendDataSent
  size := transaction.sendData.length
  received := transaction.task.received
  status := transaction.task.statusCode

/-- The phase that `getquote_expired` names. -/
def QgsTransaction.phase (transaction : QgsTransaction) : String :=
  if transaction.connectedUs = 0 then
    "connecting to QGS"
  else if transaction.sentUs = 0 then
    "sending request"
  else if transaction.firstReplyUs = 0 then
    "waiting for QGS reply"
  else
    "receiving QGS reply"

/-- Which callback a transaction waits for. One that ended has its timing report, and the phase in
which it timed out, if it did.
-/
inductive Transaction
  | connecting (transaction : QgsTransaction)
  | sending (transaction : QgsTransaction)
  | reading (transaction : QgsTransaction)
  | ended (transaction : QgsTransaction) (timings : Option TimingReport)
      (timedOut : Option String)

/-- What wakes a transaction up. A write takes the bytes that the channel accepts of those offered. -/
inductive Wake
  | connected
  | connectionFailed
  | wrote (bytes : Bytes)
  | writeFailed
  | read (event : ReadEvent)
  | expired

/-- A wake-up with the clock as its callback and a cleanup in it read it. -/
structure TimedWake where
  wake : Wake
  now : Int
  cleanup : Int

/-- The start of a transaction. -/
def tdxGenerateQuote (task : QuoteTask) (report grown : Bytes) (now : Int) : Transaction :=
  .connecting ⟨framedRequest report grown, 0, now, 0, 0, 0, task⟩

/-- `tdx_generate_quote_cleanup`: failures always get a timing summary, successes if traced. -/
def tdxGenerateQuoteCleanup (codes : StatusCodes) (traced : Bool) (now : Int)
    (transaction : QgsTransaction) (timedOut : Option String)
    : Transaction :=
  .ended transaction
    (if transaction.task.statusCode ≠ codes.success ∨ traced = true then
      some (transaction.timings now)
    else
      none)
    timedOut

/-- What the generator does outside of the patches: the bytes that `tdx_send_report` offers to the
channel, from the data and the number of bytes already sent, and the status codes of a failed
connection and of a failed write.
-/
structure UnpatchedCode where
  offered : Bytes → Nat → Bytes
  connectionFailed : UInt64
  writeFailed : UInt64

/-- A write offers the data that is left, and failures are no success. -/
structure UnpatchedCode.Documented (unpatched : UnpatchedCode) (codes : StatusCodes) : Prop where
  offered : ∀ data sent, unpatched.offered data sent = data.drop sent
  connectionFailed : unpatched.connectionFailed ≠ codes.success
  writeFailed : unpatched.writeFailed ≠ codes.success

def QgsTransaction.failed (status : UInt64) (transaction : QgsTransaction) : QgsTransaction :=
  { transaction with task := { transaction.task with statusCode := status } }

/-- `tdx_send_report` after a write of some bytes. -/
def tdxSendReport (transaction : QgsTransaction) (ret : Nat) (now : Int) : Transaction :=
  let transaction :=
    { transaction with sendDataSent := transaction.sendDataSent + ret }
  if transaction.sendDataSent = transaction.sendData.length then
    .reading { transaction with sentUs := now }
  else
    .sending transaction

/-- `tdx_get_quote_read` with its first-reply reading. -/
def tdxGetQuoteReadTimed (codes : StatusCodes) (traced : Bool) (transaction : QgsTransaction)
    (event : ReadEvent) (now cleanup : Int)
    : Transaction :=
  let transaction :=
    match event with
    | .data _ =>
        if transaction.task.received = 0 then
          { transaction with firstReplyUs := now }
        else
          transaction
    | _ => transaction
  match tdxGetQuoteRead codes transaction.task event with
  | .receiving task => .reading { transaction with task }
  | .ended task =>
      tdxGenerateQuoteCleanup codes traced cleanup { transaction with task } none

/-- `getquote_expired`. -/
def getquoteExpired (codes : StatusCodes) (traced : Bool) (transaction : QgsTransaction)
    (cleanup : Int)
    : Transaction :=
  tdxGenerateQuoteCleanup codes traced cleanup (transaction.failed codes.error)
    (some transaction.phase)

/-- One wake-up; an ended transaction is gone. -/
def Transaction.step (codes : StatusCodes) (unpatched : UnpatchedCode) (traced : Bool)
    (state : Transaction) (timed : TimedWake)
    : Option Transaction :=
  match state, timed.wake with
  | .connecting transaction, .connected =>
      some (.sending { transaction with connectedUs := timed.now })
  | .connecting transaction, .connectionFailed =>
      some (tdxGenerateQuoteCleanup codes traced timed.cleanup
        (transaction.failed unpatched.connectionFailed) none)
  | .sending transaction, .wrote bytes =>
      if bytes <+: unpatched.offered transaction.sendData transaction.sendDataSent then
        some (tdxSendReport transaction bytes.length timed.now)
      else
        none
  | .sending transaction, .writeFailed =>
      some (tdxGenerateQuoteCleanup codes traced timed.cleanup
        (transaction.failed unpatched.writeFailed) none)
  | .reading _, .read .timeout => none
  | .reading transaction, .read event =>
      if event.admissible transaction.task then
        some (tdxGetQuoteReadTimed codes traced transaction event timed.now timed.cleanup)
      else
        none
  | .connecting transaction, .expired =>
      some (getquoteExpired codes traced transaction timed.cleanup)
  | .sending transaction, .expired =>
      some (getquoteExpired codes traced transaction timed.cleanup)
  | .reading transaction, .expired =>
      some (getquoteExpired codes traced transaction timed.cleanup)
  | _, _ => none

-----------------------------------------------------------------------------------------
-- What happened
-----------------------------------------------------------------------------------------

def Wake.outgoing : Wake → Bytes
  | .wrote bytes => bytes
  | _ => []

/-- Whether the timer expired. -/
def Wake.isExpired : Wake → Bool
  | .expired => true
  | _ => false

def Wake.bytes : Wake → Bytes
  | .read event => event.bytes
  | _ => []

/-- The bytes that went out in a history, newest first. -/
def sentBytes : List TimedWake → Bytes
  | [] => []
  | timed :: older => sentBytes older ++ timed.wake.outgoing

/-- Their number. -/
def written (history : List TimedWake) : Nat :=
  (sentBytes history).length

/-- The bytes that came in. -/
def received : List TimedWake → Bytes
  | [] => []
  | timed :: older => received older ++ timed.wake.bytes

/-- When the connection stood. -/
def connectedAt : List TimedWake → Option Int
  | [] => none
  | ⟨.connected, now, _⟩ :: _ => some now
  | _ :: older => connectedAt older

/-- When the last of `size` bytes went out. -/
def sentAt (size : Nat) : List TimedWake → Option Int
  | [] => none
  | timed :: older =>
      match sentAt size older with
      | some now => some now
      | none => if written (timed :: older) = size then some timed.now else none

/-- When the first byte came in. -/
def repliedAt : List TimedWake → Option Int
  | [] => none
  | timed :: older =>
      match repliedAt older with
      | some now => some now
      | none => if timed.wake.bytes = [] then none else some timed.now

/-- The phase in which a history leaves a transaction that sends `size` bytes. -/
def actualPhase (size : Nat) (history : List TimedWake) : String :=
  if connectedAt history = none then
    "connecting to QGS"
  else if written history < size then
    "sending request"
  else if received history = [] then
    "waiting for QGS reply"
  else
    "receiving QGS reply"

/-- The phase that a timeout of a history names: there is one if it ends with the timer. -/
def actualTimeout (size : Nat) (history : List TimedWake) : Option String :=
  if history.head?.any (fun timed => timed.wake.isExpired) then
    some (actualPhase size history)
  else
    none

/-- From one event to another, or `-1`. -/
def between : Option Int → Option Int → Int
  | some first, some second => second - first
  | _, _ => -1

/-- The durations of the stages of a history that started and ended at given times. -/
def actualTimings (size : Nat) (history : List TimedWake) (started now : Int) (received : Nat)
    (status : UInt64)
    : TimingReport where
  connect := between (some started) (connectedAt history)
  send := between (connectedAt history) (sentAt size history)
  waitFirstByte := between (sentAt size history) (repliedAt history)
  receive := between (repliedAt history) (some now)
  total := now - started
  sent := written history
  size := size
  received := received
  status := status

/-- The clock does not go back. -/
def Ticks : Int → List TimedWake → Prop
  | _, [] => True
  | before, timed :: later =>
      before ≤ timed.now ∧ timed.now ≤ timed.cleanup ∧ Ticks timed.cleanup later

-----------------------------------------------------------------------------------------
-- Histories
-----------------------------------------------------------------------------------------

theorem written_cons (timed : TimedWake) (older : List TimedWake)
    : written (timed :: older) = written older + timed.wake.outgoing.length :=
  List.length_append

theorem sentAt_none {size : Nat} {history : List TimedWake} (less : written history < size)
    : sentAt size history = none := by
  induction history with
  | nil => rfl
  | cons timed older ih =>
      have before : written older < size := by
        rw [written_cons] at less
        omega
      rw [sentAt, ih before]
      exact if_neg (Nat.ne_of_lt less)

theorem sentAt_some {size : Nat} {history : List TimedWake} (positive : 0 < size)
    (all : written history = size)
    : ∃ now, sentAt size history = some now := by
  cases history with
  | nil =>
      rw [← all] at positive
      exact absurd positive (Nat.lt_irrefl 0)
  | cons timed older =>
      rw [sentAt]
      cases sentAt size older with
      | some now => exact ⟨now, rfl⟩
      | none => exact ⟨timed.now, if_pos all⟩

theorem repliedAt_none_iff {history : List TimedWake}
    : repliedAt history = none ↔ received history = [] := by
  induction history with
  | nil => exact ⟨fun _ => rfl, fun _ => rfl⟩
  | cons timed older ih =>
      rw [repliedAt, received, List.append_eq_nil_iff, ← ih]
      cases repliedAt older with
      | some now => exact ⟨nofun, fun both => both.1⟩
      | none =>
          dsimp only
          split_ifs with empty
          · exact ⟨fun _ => ⟨rfl, empty⟩, fun _ => rfl⟩
          · exact ⟨nofun, fun both => absurd both.2 empty⟩

/-- Two histories with the same events of note. -/
structure SameNotes (size : Nat) (history other : List TimedWake) : Prop where
  connected : connectedAt history = connectedAt other
  sent : sentAt size history = sentAt size other
  replied : repliedAt history = repliedAt other
  outgoing : sentBytes history = sentBytes other
  received : received history = received other

theorem SameNotes.written {size : Nat} {history other : List TimedWake}
    (same : SameNotes size history other)
    : written history = written other :=
  congrArg List.length same.outgoing

def Wake.isConnected : Wake → Bool
  | .connected => true
  | _ => false

theorem connectedAt_cons {timed : TimedWake} (other : timed.wake.isConnected = false)
    (older : List TimedWake)
    : connectedAt (timed :: older) = connectedAt older := by
  obtain ⟨wake, now, cleanup⟩ := timed
  cases wake with
  | connected => cases other
  | _ => rfl

/-- A wake-up in which nothing was written or received adds nothing but time. -/
theorem sentAt_cons {size : Nat} (positive : 0 < size) {timed : TimedWake} {older : List TimedWake}
    (nothing : timed.wake.outgoing = [])
    : sentAt size (timed :: older) = sentAt size older := by
  rw [sentAt]
  cases sent : sentAt size older with
  | some now => rfl
  | none =>
      refine if_neg fun all => ?_
      rw [written_cons, nothing, List.length_nil, Nat.add_zero] at all
      obtain ⟨now, found⟩ := sentAt_some positive all
      rw [sent] at found
      cases found

theorem repliedAt_cons {timed : TimedWake} (nothing : timed.wake.bytes = [])
    (older : List TimedWake)
    : repliedAt (timed :: older) = repliedAt older := by
  rw [repliedAt]
  cases repliedAt older with
  | some now => rfl
  | none => exact if_pos nothing

theorem SameNotes.quiet {size : Nat} (positive : 0 < size) {timed : TimedWake}
    (older : List TimedWake) (other : timed.wake.isConnected = false)
    (nothing : timed.wake.outgoing = []) (empty : timed.wake.bytes = [])
    : SameNotes size (timed :: older) older where
  connected := connectedAt_cons other older
  sent := sentAt_cons positive nothing
  replied := repliedAt_cons empty older
  outgoing := by rw [sentBytes, nothing, List.append_nil]
  received := by rw [Tdx.received, empty, List.append_nil]

/-- The events of note happen in order, none of them in the future. -/
structure Timely (size : Nat) (started now : Int) (history : List TimedWake) : Prop where
  begun : started ≤ now
  connected : ∀ {time}, connectedAt history = some time → started ≤ time ∧ time ≤ now
  sent
    : ∀ {time},
        sentAt size history = some time
        → time ≤ now ∧ ∃ before, connectedAt history = some before ∧ before ≤ time
  replied
    : ∀ {time},
        repliedAt history = some time
        → time ≤ now ∧ ∃ before, sentAt size history = some before ∧ before ≤ time

theorem Timely.later {size : Nat} {started now later : Int} {history : List TimedWake}
    (timely : Timely size started now history) (forward : now ≤ later)
    : Timely size started later history where
  begun := timely.begun.trans forward
  connected found :=
    ⟨(timely.connected found).1, (timely.connected found).2.trans forward⟩
  sent found := ⟨(timely.sent found).1.trans forward, (timely.sent found).2⟩
  replied found := ⟨(timely.replied found).1.trans forward, (timely.replied found).2⟩

theorem Timely.same {size : Nat} {started now : Int} {history other : List TimedWake}
    (timely : Timely size started now other) (same : SameNotes size history other)
    : Timely size started now history where
  begun := timely.begun
  connected := by
    rw [same.connected]
    exact timely.connected
  sent := by
    rw [same.connected, same.sent]
    exact timely.sent
  replied := by
    rw [same.sent, same.replied]
    exact timely.replied

-----------------------------------------------------------------------------------------
-- The invariant of a transaction
-----------------------------------------------------------------------------------------

/-- A transaction has noted what happened. -/
structure Noted (frame : Bytes) (started : Int) (history : List TimedWake)
    (transaction : QgsTransaction) : Prop where
  data : transaction.sendData = frame
  begun : transaction.startedUs = started
  connected : transaction.connectedUs = (connectedAt history).getD 0
  sent : transaction.sentUs = (sentAt frame.length history).getD 0
  replied : transaction.firstReplyUs = (repliedAt history).getD 0
  count : transaction.sendDataSent = written history
  wire : sentBytes history = frame.take (written history)

/-- How far a history is: the bytes that went out are a beginning of the frame, they go out after
the connection, and bytes come in after all went out.
-/
def Staged (frame : Bytes) (history : List TimedWake) : Prop :=
  sentBytes history = frame.take (written history)
  ∧ written history ≤ frame.length
  ∧ (connectedAt history = none → written history = 0)
  ∧ (received history ≠ [] → written history = frame.length)

/-- What holds of an ended transaction: its report and its timeout are those of the history. -/
structure Diagnosed (codes : StatusCodes) (traced : Bool) (payloadLen size : Nat)
    (started now : Int) (history : List TimedWake) (transaction : QgsTransaction)
    (timings : Option TimingReport) (timedOut : Option String) : Prop where
  reported
    : timings
      = if transaction.task.statusCode ≠ codes.success ∨ traced = true then
          some (actualTimings size history started now transaction.task.received
            transaction.task.statusCode)
        else
          none
  phase : timedOut = actualTimeout size history
  failed
    : transaction.task.statusCode ≠ codes.success
      → transaction.task.received = (received history).length
  succeeded : Unwrapped codes payloadLen (received history) transaction.task

/-- The invariant: what happened so far, and what the transaction knows of it. -/
def Transaction.Holds (codes : StatusCodes) (traced : Bool) (payloadLen : Nat) (frame : Bytes)
    (started now : Int) (history : List TimedWake) : Transaction → Prop
  | .connecting transaction =>
      Noted frame started history transaction
      ∧ Receiving payloadLen [] transaction.task
      ∧ connectedAt history = none
      ∧ written history = 0
      ∧ received history = []
  | .sending transaction =>
      Noted frame started history transaction
      ∧ Receiving payloadLen [] transaction.task
      ∧ (∃ time, connectedAt history = some time)
      ∧ written history < frame.length
      ∧ received history = []
  | .reading transaction =>
      Noted frame started history transaction
      ∧ Receiving payloadLen (received history) transaction.task
      ∧ (∃ time, connectedAt history = some time)
      ∧ written history = frame.length
  | .ended transaction timings timedOut =>
      Diagnosed codes traced payloadLen frame.length started now history transaction timings
        timedOut
      ∧ Staged frame history

/-- The reading of a stage is zero exactly if the stage was not reached. -/
theorem getD_ne_zero {found : Option Int} (positive : ∀ time, found = some time → 0 < time)
    : found.getD 0 ≠ 0 ↔ found ≠ none := by
  cases found with
  | none => exact ⟨fun different => absurd rfl different, fun different => absurd rfl different⟩
  | some time =>
      have above := positive time rfl
      exact ⟨fun _ => nofun, fun _ => ne_of_gt above⟩

section Report

variable {size : Nat} {started now : Int} {history : List TimedWake}

theorem Timely.connected_pos (timely : Timely size started now history) (positive : 0 < started)
    {time : Int} (found : connectedAt history = some time)
    : 0 < time :=
  positive.trans_le (timely.connected found).1

theorem Timely.sent_pos (timely : Timely size started now history) (positive : 0 < started)
    {time : Int} (found : sentAt size history = some time)
    : 0 < time := by
  obtain ⟨_, before, connected, order⟩ := timely.sent found
  exact (timely.connected_pos positive connected).trans_le order

theorem Timely.replied_pos (timely : Timely size started now history) (positive : 0 < started)
    {time : Int} (found : repliedAt history = some time)
    : 0 < time := by
  obtain ⟨_, before, sent, order⟩ := timely.replied found
  exact (timely.sent_pos positive sent).trans_le order

/-- The report of noted readings is the one of the history. -/
theorem Noted.timings {frame : Bytes} {transaction : QgsTransaction}
    (noted : Noted frame started history transaction)
    (timely : Timely frame.length started now history) (positive : 0 < started) (ended : Int)
    : transaction.timings ended
      = actualTimings frame.length history started ended transaction.task.received
          transaction.task.statusCode := by
  have connected := @getD_ne_zero (connectedAt history) fun _ => timely.connected_pos positive
  have sent := @getD_ne_zero (sentAt frame.length history) fun _ => timely.sent_pos positive
  have replied := @getD_ne_zero (repliedAt history) fun _ => timely.replied_pos positive
  simp only [QgsTransaction.timings, actualTimings, noted.data, noted.begun, noted.connected,
    noted.sent, noted.replied, noted.count, connected, sent, replied, TimingReport.mk.injEq,
    and_true]
  refine ⟨?_, ?_, ?_, ?_⟩
  · cases connectedAt history <;> rfl
  · cases found : sentAt frame.length history with
    | none => cases connectedAt history <;> rfl
    | some time =>
        obtain ⟨_, before, earlier, _⟩ := timely.sent found
        rw [earlier]
        rfl
  · cases found : repliedAt history with
    | none => cases sentAt frame.length history <;> rfl
    | some time =>
        obtain ⟨_, before, earlier, _⟩ := timely.replied found
        rw [earlier]
        rfl
  · cases repliedAt history <;> rfl

/-- The phase of noted readings is the one of the history. -/
theorem Noted.phase {frame : Bytes} {transaction : QgsTransaction}
    (noted : Noted frame started history transaction)
    (timely : Timely frame.length started now history) (positive : 0 < started)
    (nonempty : 0 < frame.length) (staged : Staged frame history)
    : transaction.phase = actualPhase frame.length history := by
  have connected := @getD_ne_zero (connectedAt history) fun _ => timely.connected_pos positive
  have sent := @getD_ne_zero (sentAt frame.length history) fun _ => timely.sent_pos positive
  have replied := @getD_ne_zero (repliedAt history) fun _ => timely.replied_pos positive
  have all : sentAt frame.length history = none ↔ written history < frame.length := by
    refine ⟨fun none => ?_, sentAt_none⟩
    refine lt_of_le_of_ne staged.2.1 fun same => ?_
    obtain ⟨time, found⟩ := sentAt_some nonempty same
    rw [none] at found
    cases found
  simp only [QgsTransaction.phase, actualPhase, noted.connected, noted.sent, noted.replied,
    not_iff_not.mp connected, not_iff_not.mp sent, not_iff_not.mp replied, all,
    repliedAt_none_iff]

end Report

theorem Noted.same {frame : Bytes} {started : Int} {history other : List TimedWake}
    {transaction : QgsTransaction} (noted : Noted frame started other transaction)
    (same : SameNotes frame.length history other)
    : Noted frame started history transaction where
  data := noted.data
  begun := noted.begun
  connected := by rw [same.connected, noted.connected]
  sent := by rw [same.sent, noted.sent]
  replied := by rw [same.replied, noted.replied]
  count := by rw [same.written, noted.count]
  wire := by rw [same.outgoing, same.written, noted.wire]

theorem Staged.same {frame : Bytes} {history other : List TimedWake} (staged : Staged frame other)
    (same : SameNotes frame.length history other)
    : Staged frame history := by
  rw [Staged, same.connected, same.outgoing, same.written, same.received]
  exact staged

section Steps

variable {codes : StatusCodes} {unpatched : UnpatchedCode} {traced : Bool} {payloadLen : Nat}
  {frame : Bytes} {started now : Int} {history : List TimedWake} {transaction : QgsTransaction}

/-- A cleanup reports what happened. -/
theorem cleanup_holds (positive : 0 < started) (noted : Noted frame started history transaction)
    (timely : Timely frame.length started now history) (staged : Staged frame history)
    {timedOut : Option String} (phase : timedOut = actualTimeout frame.length history)
    (failed : transaction.task.statusCode ≠ codes.success
      → transaction.task.received = (received history).length)
    (succeeded : Unwrapped codes payloadLen (received history) transaction.task)
    : (tdxGenerateQuoteCleanup codes traced now transaction timedOut).Holds codes traced payloadLen
        frame started now history := by
  refine ⟨⟨?_, phase, failed, succeeded⟩, staged⟩
  rw [noted.timings timely positive now]

/-- A wake-up with a failure ends the transaction, with a report of what happened before. -/
theorem failure_holds (positive : 0 < started) (nonempty : 0 < frame.length)
    (noted : Noted frame started history transaction)
    (receiving : Receiving payloadLen (received history) transaction.task)
    (timely : Timely frame.length started now history) (staged : Staged frame history)
    {timed : TimedWake} (forward : now ≤ timed.cleanup)
    (same : SameNotes frame.length (timed :: history) history) {status : UInt64}
    (failing : status ≠ codes.success) {timedOut : Option String}
    (phase : timedOut = if timed.wake.isExpired then some transaction.phase else none)
    : (tdxGenerateQuoteCleanup codes traced timed.cleanup (transaction.failed status)
        timedOut).Holds codes traced payloadLen frame started timed.cleanup (timed :: history)
      ∧ Timely frame.length started timed.cleanup (timed :: history) := by
  have later := (timely.later forward).same same
  have stagedAfter := staged.same same
  have notedAfter : Noted frame started (timed :: history) (transaction.failed status) := by
    have kept := noted.same same
    exact ⟨kept.data, kept.begun, kept.connected, kept.sent, kept.replied, kept.count, kept.wire⟩
  refine ⟨cleanup_holds positive notedAfter later stagedAfter ?_ ?_ ?_, later⟩
  · rw [phase, (noted.same same).phase later positive nonempty stagedAfter]
    rfl
  · intro _
    rw [same.received]
    exact receiving.count
  · exact ⟨receiving.capacity, fun success => absurd success failing⟩

/-- The connection stands. -/
theorem connected_holds (nonempty : 0 < frame.length)
    (noted : Noted frame started history transaction)
    (receiving : Receiving payloadLen [] transaction.task)
    (timely : Timely frame.length started now history) (unwritten : written history = 0)
    (silent : received history = []) {time cleanup : Int} (forward : now ≤ time)
    (after : time ≤ cleanup)
    : (Transaction.sending { transaction with connectedUs := time }).Holds codes traced payloadLen
        frame started cleanup (⟨.connected, time, cleanup⟩ :: history)
      ∧ Timely frame.length started cleanup (⟨.connected, time, cleanup⟩ :: history) := by
  have unsent : sentAt frame.length history = none :=
    sentAt_none (by rw [unwritten]; exact nonempty)
  have outgoing : sentBytes (⟨.connected, time, cleanup⟩ :: history) = sentBytes history :=
    List.append_nil _
  have same : written (⟨.connected, time, cleanup⟩ :: history) = written history :=
    congrArg List.length outgoing
  have sent : sentAt frame.length (⟨.connected, time, cleanup⟩ :: history) = none := by
    rw [sentAt_cons nonempty (show Wake.outgoing .connected = [] from rfl), unsent]
  have replied : repliedAt (⟨.connected, time, cleanup⟩ :: history) = repliedAt history :=
    repliedAt_cons rfl history
  refine ⟨⟨⟨noted.data, noted.begun, rfl, ?_, ?_, ?_, ?_⟩, receiving, ⟨time, rfl⟩, ?_, ?_⟩, ?_⟩
  · rw [sent, ← unsent]
    exact noted.sent
  · rw [replied]
    exact noted.replied
  · rw [same]
    exact noted.count
  · rw [outgoing, same]
    exact noted.wire
  · rw [same, unwritten]
    exact nonempty
  · change received history ++ [] = []
    rw [silent]
    rfl
  · refine ⟨?_, ?_, ?_, ?_⟩
    · exact (timely.begun.trans forward).trans after
    · intro found same
      cases same
      exact ⟨timely.begun.trans forward, after⟩
    · intro found same
      rw [sent] at same
      cases same
    · intro found same
      rw [replied, repliedAt_none_iff.mpr silent] at same
      cases same

/-- The next bytes of a frame go out after those that went out before. -/
theorem take_extended {frame before bytes : Bytes} (out : before = frame.take before.length)
    (piece : bytes <+: frame.drop before.length)
    : before ++ bytes = frame.take (before.length + bytes.length)
      ∧ before.length + bytes.length ≤ frame.length := by
  have front : before.length ≤ frame.length := by
    rw [out]
    exact List.length_take_le' ..
  have room := piece.length_le
  rw [List.length_drop] at room
  refine ⟨?_, by omega⟩
  rw [List.take_add, ← out, ← List.prefix_iff_eq_take.mp piece]

/-- A write hands on the next bytes, and the last of them turn the transaction to reading. -/
theorem sendReport_holds (noted : Noted frame started history transaction)
    (receiving : Receiving payloadLen [] transaction.task)
    (timely : Timely frame.length started now history)
    (connected : ∃ time, connectedAt history = some time)
    (unfinished : written history < frame.length) (silent : received history = [])
    {bytes : Bytes} (piece : bytes <+: transaction.sendData.drop transaction.sendDataSent)
    {time cleanup : Int} (forward : now ≤ time) (after : time ≤ cleanup)
    : (tdxSendReport transaction bytes.length time).Holds codes traced payloadLen frame started
        cleanup (⟨.wrote bytes, time, cleanup⟩ :: history)
      ∧ Timely frame.length started cleanup (⟨.wrote bytes, time, cleanup⟩ :: history) := by
  obtain ⟨stood, found⟩ := connected
  have unsent : sentAt frame.length history = none := sentAt_none unfinished
  have total : written (⟨.wrote bytes, time, cleanup⟩ :: history)
      = written history + bytes.length := written_cons ..
  have quiet : received (⟨.wrote bytes, time, cleanup⟩ :: history) = [] := by
    change received history ++ [] = []
    rw [silent]
    rfl
  have replied : repliedAt (⟨.wrote bytes, time, cleanup⟩ :: history) = none :=
    repliedAt_none_iff.mpr quiet
  have unreplied := noted.replied
  rw [repliedAt_none_iff.mpr silent] at unreplied
  rw [noted.count, noted.data] at piece
  obtain ⟨wire, fits⟩ := take_extended noted.wire piece
  have out : sentBytes (⟨.wrote bytes, time, cleanup⟩ :: history)
      = frame.take (written (⟨.wrote bytes, time, cleanup⟩ :: history)) := by
    rw [total]
    exact wire
  have order := timely.connected found
  have ordered : ∀ {moment}, sentAt frame.length (⟨.wrote bytes, time, cleanup⟩ :: history)
      = some moment → moment = time := by
    intro moment same
    rw [sentAt, unsent] at same
    dsimp only at same
    split_ifs at same
    exact (Option.some.inj same).symm
  refine ⟨?_, ?_⟩
  · unfold tdxSendReport
    dsimp only
    rw [noted.count, noted.data]
    split_ifs with finished
    · refine ⟨⟨rfl, noted.begun, noted.connected, ?_, ?_, ?_, out⟩, ?_, ⟨stood, found⟩, ?_⟩
      · rw [sentAt, unsent, total, if_pos finished]
        rfl
      · rw [replied]
        exact unreplied
      · rw [total]
      · rw [quiet]
        exact receiving
      · rw [total, finished]
    · refine ⟨⟨rfl, noted.begun, noted.connected, ?_, ?_, ?_, out⟩, receiving, ⟨stood, found⟩, ?_,
        quiet⟩
      · rw [sentAt, unsent, total, if_neg finished]
        have unset := noted.sent
        rw [unsent] at unset
        exact unset
      · rw [replied]
        exact unreplied
      · rw [total]
      · rw [total]
        exact lt_of_le_of_ne fits finished
  · refine ⟨(timely.begun.trans forward).trans after, ?_, ?_, ?_⟩
    · intro moment same
      have early := timely.connected same
      exact ⟨early.1, (early.2.trans forward).trans after⟩
    · intro moment same
      rw [ordered same]
      exact ⟨after, stood, found, order.2.trans forward⟩
    · intro moment same
      rw [replied] at same
      cases same

/-- A failed read keeps the count of the bytes that arrived. -/
theorem tdxGetQuoteRead_failed {task last : QuoteTask} {chunk : Bytes}
    (read : tdxGetQuoteRead codes task (.data chunk) = .ended last)
    (failed : last.statusCode ≠ codes.success)
    : last.received = task.received + chunk.length := by
  simp only [tdxGetQuoteRead] at read
  split at read
  · cases read
    rfl
  · cases read
  · cases read
    exact absurd rfl failed

/-- A read of data: the first one is noted, and a decision ends the transaction. -/
theorem data_holds (positive : 0 < started) (nonempty : 0 < frame.length)
    (noted : Noted frame started history transaction)
    (receiving : Receiving payloadLen (received history) transaction.task)
    (timely : Timely frame.length started now history)
    (connected : ∃ time, connectedAt history = some time)
    (finished : written history = frame.length) {chunk : Bytes}
    (admissible : (ReadEvent.data chunk).admissible transaction.task = true)
    {time cleanup : Int} (forward : now ≤ time) (after : time ≤ cleanup)
    : (tdxGetQuoteReadTimed codes traced transaction (.data chunk) time cleanup).Holds codes traced
        payloadLen frame started cleanup (⟨.read (.data chunk), time, cleanup⟩ :: history)
      ∧ Timely frame.length started cleanup (⟨.read (.data chunk), time, cleanup⟩ :: history) := by
  obtain ⟨stood, found⟩ := connected
  obtain ⟨ready, sent⟩ := sentAt_some nonempty finished
  have some : 0 < chunk.length := by
    simp only [ReadEvent.admissible, Bool.and_eq_true, decide_eq_true_eq] at admissible
    exact admissible.1
  have arrived : received (⟨.read (.data chunk), time, cleanup⟩ :: history)
      = received history ++ chunk := rfl
  have unchanged : sentAt frame.length (⟨.read (.data chunk), time, cleanup⟩ :: history)
      = sentAt frame.length history :=
    sentAt_cons nonempty (show Wake.outgoing (.read (.data chunk)) = [] from rfl)
  have outgoing : sentBytes (⟨.read (.data chunk), time, cleanup⟩ :: history)
      = sentBytes history :=
    List.append_nil _
  have total : written (⟨.read (.data chunk), time, cleanup⟩ :: history) = written history :=
    congrArg List.length outgoing
  have count := noted.count
  have wire := noted.wire
  rw [← total] at count
  rw [← outgoing, ← total] at wire
  have all : written (⟨.read (.data chunk), time, cleanup⟩ :: history) = frame.length :=
    total.trans finished
  have first : repliedAt (⟨.read (.data chunk), time, cleanup⟩ :: history)
      = Option.some ((repliedAt history).getD time) := by
    rw [repliedAt]
    cases repliedAt history with
    | some moment => rfl
    | none => exact if_neg (List.ne_nil_of_length_pos some)
  have begun : transaction.task.received = 0 ↔ repliedAt history = none := by
    rw [receiving.count, List.length_eq_zero_iff, repliedAt_none_iff]
  have later : Timely frame.length started cleanup
      (⟨.read (.data chunk), time, cleanup⟩ :: history) := by
    have early := timely.later (forward.trans after)
    refine ⟨early.begun, early.connected, ?_, ?_⟩
    · rw [unchanged]
      exact early.sent
    · intro moment same
      rw [first] at same
      rw [unchanged]
      cases same
      cases replied : repliedAt history with
      | some moment => exact early.replied replied
      | none => exact ⟨after, ready, sent, (timely.sent sent).1.trans forward⟩
  refine ⟨?_, later⟩
  -- the transaction with the reading of its first reply
  have marked : ∀ task : QuoteTask,
      Noted frame started (⟨.read (.data chunk), time, cleanup⟩ :: history)
        { (if transaction.task.received = 0 then { transaction with firstReplyUs := time }
            else transaction) with task := task } := by
    intro task
    by_cases fresh : transaction.task.received = 0
    · rw [if_pos fresh]
      refine ⟨noted.data, noted.begun, noted.connected, ?_, ?_, count, wire⟩
      · rw [unchanged]
        exact noted.sent
      · rw [first, begun.mp fresh]
        rfl
    · rw [if_neg fresh]
      refine ⟨noted.data, noted.begun, noted.connected, ?_, ?_, count, wire⟩
      · rw [unchanged]
        exact noted.sent
      · rw [first]
        change transaction.firstReplyUs = (repliedAt history).getD time
        rw [noted.replied]
        cases replied : repliedAt history with
        | some moment => rfl
        | none => exact absurd (begun.mpr replied) fresh
  have held := Progress.step_holds receiving
    (show Progress.step codes (.receiving transaction.task) (.data chunk)
      = Option.some (tdxGetQuoteRead codes transaction.task (.data chunk)) from if_pos admissible)
  have same : (if transaction.task.received = 0 then { transaction with firstReplyUs := time }
      else transaction).task = transaction.task := by
    split_ifs <;> rfl
  unfold tdxGetQuoteReadTimed
  dsimp only
  rw [same]
  cases outcome : tdxGetQuoteRead codes transaction.task (.data chunk) with
  | receiving task =>
      rw [outcome] at held
      exact ⟨marked task, held, ⟨stood, found⟩, all⟩
  | ended task =>
      rw [outcome] at held
      have staged : Staged frame (⟨.read (.data chunk), time, cleanup⟩ :: history) := by
        refine ⟨wire, le_of_eq all, fun none => ?_, fun _ => all⟩
        rw [connectedAt_cons rfl, found] at none
        cases none
      refine cleanup_holds positive (marked task) later staged rfl (fun failed => ?_) held.2
      change task.received = _
      rw [tdxGetQuoteRead_failed outcome failed, arrived, List.length_append, receiving.count]

theorem Transaction.Holds.staged {codes : StatusCodes} {traced : Bool} {payloadLen : Nat}
    {frame : Bytes} {started now : Int} {history : List TimedWake} {state : Transaction}
    (held : state.Holds codes traced payloadLen frame started now history)
    : Staged frame history := by
  cases state with
  | connecting transaction =>
      obtain ⟨noted, _, _, unwritten, silent⟩ := held
      exact ⟨noted.wire, by omega, fun _ => unwritten, fun some => absurd silent some⟩
  | sending transaction =>
      obtain ⟨noted, _, ⟨stood, found⟩, unfinished, silent⟩ := held
      refine ⟨noted.wire, le_of_lt unfinished, fun none => ?_, fun some => absurd silent some⟩
      rw [none] at found
      cases found
  | reading transaction =>
      obtain ⟨noted, _, ⟨stood, found⟩, finished⟩ := held
      refine ⟨noted.wire, le_of_eq finished, fun none => ?_, fun _ => finished⟩
      rw [none] at found
      cases found
  | ended transaction timings timedOut => exact held.2

/-- One wake-up keeps the invariant. -/
theorem Transaction.step_holds (documented : unpatched.Documented codes) (positive : 0 < started)
    (nonempty : 0 < frame.length)
    {state next : Transaction} {timed : TimedWake}
    (held : state.Holds codes traced payloadLen frame started now history)
    (timely : Timely frame.length started now history) (forward : now ≤ timed.now)
    (after : timed.now ≤ timed.cleanup)
    (stepped : state.step codes unpatched traced timed = some next)
    : next.Holds codes traced payloadLen frame started timed.cleanup (timed :: history)
      ∧ Timely frame.length started timed.cleanup (timed :: history) := by
  obtain ⟨wake, time, cleanup⟩ := timed
  have onward : now ≤ cleanup := forward.trans after
  have staged : Staged frame history := held.staged
  cases state with
  | connecting transaction =>
      obtain ⟨noted, receiving, none, unwritten, silent⟩ := held
      have arrived : Receiving payloadLen (received history) transaction.task := by
        rw [silent]
        exact receiving
      cases wake with
      | connected =>
          cases stepped
          exact connected_holds nonempty noted receiving timely unwritten silent forward after
      | connectionFailed =>
          cases stepped
          exact failure_holds positive nonempty noted arrived timely staged onward
            (.quiet nonempty history rfl rfl rfl) documented.connectionFailed rfl
      | expired =>
          cases stepped
          exact failure_holds positive nonempty noted arrived timely staged onward
            (.quiet nonempty history rfl rfl rfl) codes.error_ne rfl
      | wrote bytes => cases stepped
      | writeFailed => cases stepped
      | read event => cases stepped
  | sending transaction =>
      obtain ⟨noted, receiving, connected, unfinished, silent⟩ := held
      have arrived : Receiving payloadLen (received history) transaction.task := by
        rw [silent]
        exact receiving
      cases wake with
      | wrote bytes =>
          simp only [Transaction.step] at stepped
          split_ifs at stepped with piece
          cases stepped
          rw [documented.offered] at piece
          exact sendReport_holds noted receiving timely connected unfinished silent piece forward
            after
      | writeFailed =>
          cases stepped
          exact failure_holds positive nonempty noted arrived timely staged onward
            (.quiet nonempty history rfl rfl rfl) documented.writeFailed rfl
      | expired =>
          cases stepped
          exact failure_holds positive nonempty noted arrived timely staged onward
            (.quiet nonempty history rfl rfl rfl) codes.error_ne rfl
      | connected => cases stepped
      | connectionFailed => cases stepped
      | read event => cases stepped
  | reading transaction =>
      obtain ⟨noted, receiving, connected, finished⟩ := held
      cases wake with
      | read event =>
          cases event with
          | data chunk =>
              simp only [Transaction.step] at stepped
              split_ifs at stepped with admissible
              cases stepped
              exact data_holds positive nonempty noted receiving timely connected finished
                admissible forward after
          | endOfFile =>
              cases stepped
              exact failure_holds positive nonempty noted receiving timely staged onward
                (.quiet nonempty history rfl rfl rfl) codes.error_ne rfl
          | readError =>
              cases stepped
              exact failure_holds positive nonempty noted receiving timely staged onward
                (.quiet nonempty history rfl rfl rfl) codes.error_ne rfl
          | timeout => cases stepped
      | expired =>
          cases stepped
          exact failure_holds positive nonempty noted receiving timely staged onward
            (.quiet nonempty history rfl rfl rfl) codes.error_ne rfl
      | connected => cases stepped
      | connectionFailed => cases stepped
      | wrote bytes => cases stepped
      | writeFailed => cases stepped
  | ended transaction timings timedOut => cases stepped

/-- The latest reading of a history, newest first. -/
def latest (started : Int) : List TimedWake → Int
  | [] => started
  | timed :: _ => timed.cleanup

/-- The invariant holds along every run, by induction on its wake-ups. -/
theorem Transaction.run_holds (documented : unpatched.Documented codes) (positive : 0 < started)
    (nonempty : 0 < frame.length)
    {state last : Transaction} {wakes : List TimedWake}
    (held : state.Holds codes traced payloadLen frame started (latest started history) history)
    (timely : Timely frame.length started (latest started history) history)
    (clock : Ticks (latest started history) wakes)
    (reached : run (Transaction.step codes unpatched traced) state wakes = some last)
    : last.Holds codes traced payloadLen frame started (latest started (wakes.reverse ++ history))
        (wakes.reverse ++ history)
      ∧ Timely frame.length started (latest started (wakes.reverse ++ history))
          (wakes.reverse ++ history) := by
  induction wakes generalizing state history with
  | nil =>
      cases reached
      exact ⟨held, timely⟩
  | cons timed rest ih =>
      obtain ⟨next, stepped, remaining⟩ := run_cons reached
      obtain ⟨forward, after, ticking⟩ := clock
      obtain ⟨heldNext, timelyNext⟩ :=
        Transaction.step_holds documented positive nonempty held timely forward after stepped
      rw [List.reverse_cons, List.append_assoc]
      exact @ih (timed :: history) next heldNext timelyNext ticking remaining

end Steps

-----------------------------------------------------------------------------------------
-- The request
-----------------------------------------------------------------------------------------

/-- The header of a `GET_QUOTE_REQ`: stream length, version 1.1, type, message size, error code,
report size, size of the identifier list.
-/
def requestHeader (reportSize : Nat) : Bytes :=
  toBe 4 (TDX_QGS_MESSAGE_SIZE + reportSize) ++ ([1, 0, 1, 0] ++ (toLe 4 0
    ++ (toLe 4 (TDX_QGS_MESSAGE_SIZE + reportSize) ++ (toLe 4 0 ++ (toLe 4 reportSize
    ++ toLe 4 0)))))

def requestFrame (report : Bytes) : Bytes :=
  requestHeader report.length ++ report

@[simp]
theorem requestFrame_length (report : Bytes)
    : (requestFrame report).length = TDX_QGS_HEADER_SIZE + report.length := by
  simp only [requestFrame, requestHeader, List.length_append, toBe_length, toLe_length,
    List.length_cons, List.length_nil, TDX_QGS_HEADER_SIZE, TDX_QGS_PREFIX_SIZE,
    TDX_QGS_MESSAGE_SIZE]

theorem tdxQgsRequestHeader_eq (p : Bytes) {reportSize : UInt32}
    (bound : TDX_QGS_MESSAGE_SIZE + reportSize.toNat < 2 ^ 32)
    : tdxQgsRequestHeader p reportSize
      = requestHeader reportSize.toNat ++ p.drop TDX_QGS_HEADER_SIZE := by
  have whole : (UInt32.ofNat TDX_QGS_MESSAGE_SIZE + reportSize).toNat
      = TDX_QGS_MESSAGE_SIZE + reportSize.toNat := by
    rw [UInt32.toNat_add]
    exact Nat.mod_eq_of_lt bound
  have zeros : List.replicate TDX_QGS_HEADER_SIZE (0 : UInt8)
      = [0, 0, 0, 0, 0, 0, 0, 0, 0, 0, 0, 0, 0, 0, 0, 0, 0, 0, 0, 0, 0, 0, 0, 0, 0, 0, 0, 0] := rfl
  have zero : toLe 4 0 = [0, 0, 0, 0] := by decide
  rw [requestHeader, toBe, ← whole, ← storedLe_eq, ← storedLe_eq, zero]
  unfold tdxQgsRequestHeader
  rw [zeros]
  generalize UInt32.ofNat TDX_QGS_MESSAGE_SIZE + reportSize = size
  generalize p.drop TDX_QGS_HEADER_SIZE = rest
  simp only [tdxQgsPutLe32, storedLe, List.cons_append, List.nil_append, List.set_cons_zero,
    List.set_cons_succ, List.reverse_cons, List.reverse_nil, Nat.reduceAdd]

/-- The request in place is the framed report, whatever the grown part of the buffer held. -/
theorem framedRequest_eq {report grown : Bytes}
    (bound : TDX_QGS_MESSAGE_SIZE + report.length < 2 ^ 32)
    (room : grown.length = TDX_QGS_HEADER_SIZE)
    : framedRequest report grown = requestFrame report := by
  have size : (UInt32.ofNat report.length).toNat = report.length := by
    refine UInt32.toNat_ofNat_of_lt' ?_
    exact lt_of_le_of_lt (Nat.le_add_left _ _) bound
  have front : ((report ++ grown).take TDX_QGS_HEADER_SIZE).length = TDX_QGS_HEADER_SIZE := by
    rw [List.length_take, List.length_append]
    omega
  rw [framedRequest, tdxQgsRequestHeader_eq _ (by rwa [size]), size, List.drop_left' front]
  rfl

/-- A request is no response: it has another type. -/
theorem requestFrame_ne_responseFrame {report quote : Bytes}
    : requestFrame report ≠ responseFrame quote := by
  intro same
  have bytes := congrArg (fun frame => (frame.drop 8).take 1) same
  simp [requestFrame, requestHeader, responseFrame, responseHeader, toBe, toLe] at bytes

-----------------------------------------------------------------------------------------
-- Whole transactions
-----------------------------------------------------------------------------------------

/-- A report that can be read without the code: stages are reached in order, a stage has a
duration or `-1`, and durations of all stages add up to the total.
-/
structure TimingReport.Consistent (report : TimingReport) : Prop where
  connect : report.connect = -1 ∧ report.send = -1 ∨ 0 ≤ report.connect
  send : report.send = -1 ∧ report.waitFirstByte = -1 ∨ 0 ≤ report.send
  wait : report.waitFirstByte = -1 ∧ report.receive = -1
    ∨ 0 ≤ report.waitFirstByte
      ∧ 0 ≤ report.receive
      ∧ report.connect + report.send + report.waitFirstByte + report.receive = report.total
  total : 0 ≤ report.total

/-- The durations of a history in order are consistent. -/
theorem Timely.consistent {size : Nat} {started now : Int} {history : List TimedWake}
    (timely : Timely size started now history) (received : Nat) (status : UInt64)
    : (actualTimings size history started now received status).Consistent := by
  obtain ⟨begun, connected, sent, replied⟩ := timely
  refine ⟨?_, ?_, ?_, Int.sub_nonneg.mpr begun⟩
  · simp only [actualTimings]
    cases found : connectedAt history with
    | none => exact .inl ⟨rfl, rfl⟩
    | some time => exact .inr (Int.sub_nonneg.mpr (connected found).1)
  · simp only [actualTimings]
    cases found : sentAt size history with
    | none =>
        refine .inl ⟨?_, rfl⟩
        cases connectedAt history <;> rfl
    | some time =>
        obtain ⟨_, before, earlier, order⟩ := sent found
        rw [earlier]
        exact .inr (Int.sub_nonneg.mpr order)
  · simp only [actualTimings]
    cases found : repliedAt history with
    | none =>
        refine .inl ⟨?_, rfl⟩
        cases sentAt size history <;> rfl
    | some time =>
        obtain ⟨past, ready, out, order⟩ := replied found
        obtain ⟨_, stood, earlier, _⟩ := sent out
        rw [out, earlier]
        refine .inr ⟨Int.sub_nonneg.mpr order, Int.sub_nonneg.mpr past, ?_⟩
        simp only [between]
        omega

/-- Every transaction puts a beginning of the framed report on the wire and nothing else, reads
nothing before all of it is out, and is diagnosed as it went: it times out exactly if it ends with
the timer, naming the stage that it was in, and the timing report, which no failure goes without,
has the durations of the stages that were reached, `-1` for the others, and the numbers of bytes.
A success came with a whole response, which the request sent back is not.
-/
theorem transaction_diagnosed (codes : StatusCodes) {unpatched : UnpatchedCode}
    (documented : unpatched.Documented codes) (traced : Bool) (hdr : QuoteHeader)
    {payloadLen : Nat} (receiveBuf : U8Array payloadLen) {report grown : Bytes}
    (bound : TDX_QGS_MESSAGE_SIZE + report.length < 2 ^ 32)
    (room : grown.length = TDX_QGS_HEADER_SIZE) {started : Int} (positive : 0 < started)
    {wakes : List TimedWake} (clock : Ticks started wakes) {last : Transaction}
    (reached : run (Transaction.step codes unpatched traced)
      (tdxGenerateQuote (QuoteTask.new hdr receiveBuf) report grown started) wakes = some last)
    : sentBytes wakes.reverse = (requestFrame report).take (written wakes.reverse)
      ∧ (connectedAt wakes.reverse = none → sentBytes wakes.reverse = [])
      ∧ (received wakes.reverse ≠ [] → sentBytes wakes.reverse = requestFrame report)
      ∧ ∀ transaction timings timedOut,
          last = .ended transaction timings timedOut
          → timedOut
              = (if wakes.getLast?.any (fun timed => timed.wake.isExpired) then
                some (actualPhase (requestFrame report).length wakes.reverse)
              else
                none)
            ∧ Diagnosed codes traced payloadLen (requestFrame report).length started
                (latest started wakes.reverse) wakes.reverse transaction timings timedOut
            ∧ (∀ summary, timings = some summary → summary.Consistent)
            ∧ (transaction.task.statusCode = codes.success
              → received wakes.reverse ≠ requestFrame report) := by
  have framed := framedRequest_eq bound room
  have nonempty : 0 < (requestFrame report).length := by
    rw [requestFrame_length]
    exact Nat.lt_of_lt_of_le (by decide) (Nat.le_add_right _ _)
  have start : (tdxGenerateQuote (QuoteTask.new hdr receiveBuf) report grown started).Holds codes
      traced payloadLen (requestFrame report) started started [] :=
    ⟨⟨framed, rfl, rfl, rfl, rfl, rfl, rfl⟩, QuoteTask.new_receiving hdr receiveBuf, rfl, rfl, rfl⟩
  have begun : Timely (requestFrame report).length started started [] :=
    ⟨le_refl _, nofun, nofun, nofun⟩
  obtain ⟨held, timely⟩ :=
    @Transaction.run_holds codes unpatched traced payloadLen (requestFrame report) started []
      documented positive nonempty _ _ _ start begun clock reached
  rw [List.append_nil] at held timely
  obtain ⟨wire, _, unconnected, answered⟩ := held.staged
  refine ⟨wire, fun none => List.length_eq_zero_iff.mp (unconnected none), fun some => ?_, ?_⟩
  · rw [wire, answered some, List.take_length]
  rintro transaction timings timedOut rfl
  obtain ⟨diagnosed, _⟩ := held
  refine ⟨?_, diagnosed, ?_, ?_⟩
  · rw [diagnosed.phase, actualTimeout, List.head?_reverse]
  · intro summary given
    have reported := diagnosed.reported
    rw [given] at reported
    split_ifs at reported
    rw [Option.some.inj reported]
    exact timely.consistent _ _
  · intro success same
    obtain ⟨quote, _, frame, _⟩ := diagnosed.succeeded.2 success
    exact requestFrame_ne_responseFrame (same.symm.trans frame.symm)

/-! A transaction that times out after five bytes of the reply. -/

def slowReply : List TimedWake :=
  [
    ⟨.connected, 2, 2⟩,
    ⟨.wrote ((requestFrame [9]).take 10), 3, 3⟩,
    ⟨.wrote ((requestFrame [9]).drop 10), 5, 5⟩,
    ⟨.read (.data ((responseFrame [7, 8]).take 5)), 8, 8⟩,
    ⟨.expired, 9, 10⟩
  ]

/-- A generator whose failures have the generic status. -/
def genericFailures : UnpatchedCode where
  offered data sent := data.drop sent
  connectionFailed := ghciCodes.error
  writeFailed := ghciCodes.error

def Transaction.timings? : Transaction → Option TimingReport
  | .ended _ timings _ => timings
  | _ => none

theorem transaction_diagnosed_slowReply
    : ∃ transaction summary,
        run (Transaction.step ghciCodes genericFailures false)
            (tdxGenerateQuote
              (QuoteTask.new ⟨1, ghciCodes.inFlight, 1024, 0⟩
                ⟨List.replicate 40 0xff, List.length_replicate⟩)
              [9] (List.replicate 28 0) 1)
            slowReply
          = some (.ended transaction (some summary) (some "receiving QGS reply"))
        ∧ sentBytes slowReply.reverse = requestFrame [9]
        ∧ summary.Consistent := by
  have ticks : Ticks 1 slowReply := by
    simp [Ticks, slowReply]
  have replied : received slowReply.reverse ≠ [] := by
    decide +kernel
  let result := run (Transaction.step ghciCodes genericFailures false)
    (tdxGenerateQuote
      (QuoteTask.new ⟨1, ghciCodes.inFlight, 1024, 0⟩
        ⟨List.replicate 40 0xff, List.length_replicate⟩)
      [9] (List.replicate 28 0) 1)
    slowReply
  have evaluated : result.any (fun last => last.timings?.isSome) = true := by
    decide +kernel
  obtain ⟨last, reached, timed⟩ := (Option.any_eq_true _ _).mp evaluated
  have diagnosed := transaction_diagnosed ghciCodes
    (⟨fun _ _ => rfl, ghciCodes.error_ne, ghciCodes.error_ne⟩ : genericFailures.Documented ghciCodes)
    false ⟨1, ghciCodes.inFlight, 1024, 0⟩ ⟨List.replicate 40 0xff, List.length_replicate⟩
    (by decide) rfl Int.one_pos ticks reached
  obtain ⟨_, _, whole, ended⟩ := diagnosed
  cases last with
  | ended transaction timings timedOut =>
      obtain ⟨summary, rfl⟩ := Option.isSome_iff_exists.mp timed
      obtain ⟨named, _, consistent, _⟩ := ended _ _ _ rfl
      have phase : actualPhase (requestFrame [9]).length slowReply.reverse
          = "receiving QGS reply" := by
        decide +kernel
      rw [phase] at named
      subst named
      exact ⟨transaction, summary, reached, whole replied, consistent summary rfl⟩
  | _ => cases timed

end Tarako.Tdx
