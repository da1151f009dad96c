import Tarako.Tdx.GetQuote

/-! The receive loop reaches a decision: every read brings at least one byte, and a full buffer
is never incomplete.
-/

namespace Tarako.Tdx

open Lang Transitions

/-- The wake-ups of the first reads of a stream. -/
def firstReads (stream : Nat → Bytes) (count : Nat) : List ReadEvent :=
  (List.range count).map fun index => .data (stream index)

/-- A stream arrives in reads that are nonempty and fit the rest of the buffer, as long as the
task waits for one.
-/
def Delivers (codes : StatusCodes) (start : Progress) (stream : Nat → Bytes) : Prop :=
  ∀ count task,
    Transitions.run (Progress.step codes) start (firstReads stream count)
      = some (.receiving task)
    → (ReadEvent.data (stream count)).admissible task = true

/-- A task that waits after some reads has room for another one, and got a byte from each. -/
structure Waiting (payloadLen reads : Nat) (task : QuoteTask) : Prop where
  capacity : task.payloadLen = payloadLen
  room : task.received < payloadLen
  paid : reads ≤ task.received

/-- What the parser answers after a read. -/
def QuoteTask.answerTo (task : QuoteTask) (chunk : Bytes) : QgsResponse :=
  tdxQgsParseResponse (task.filled chunk) (task.received + chunk.length) task.payloadLen

/-- A full buffer is never incomplete: the announced frame would have to be longer than the
buffer, and that is refused.
-/
theorem tdxQgsParseResponse_full (p : Bytes) (capacity : Nat)
    : tdxQgsParseResponse p capacity capacity ≠ .incomplete := by
  have sizes : TDX_QGS_HEADER_SIZE = TDX_QGS_PREFIX_SIZE + TDX_QGS_MESSAGE_SIZE := rfl
  unfold tdxQgsParseResponse
  dsimp only
  split_ifs with refused short sized unfinished mismatch partly
  · exact nofun
  · omega
  · exact nofun
  · omega
  · exact nofun
  · omega
  · exact nofun

/-- A read is followed by another one exactly if the parser asked for more. -/
theorem tdxGetQuoteRead_data (codes : StatusCodes) (task : QuoteTask) (chunk : Bytes)
    : (task.answerTo chunk = .incomplete
        ∧ tdxGetQuoteRead codes task (.data chunk)
          = .receiving
              { task with
                receiveBuf := task.filled chunk, received := task.received + chunk.length })
      ∨ task.answerTo chunk ≠ .incomplete
        ∧ ∃ last, tdxGetQuoteRead codes task (.data chunk) = .ended last := by
  simp only [tdxGetQuoteRead, QuoteTask.answerTo]
  cases tdxQgsParseResponse (task.filled chunk) (task.received + chunk.length) task.payloadLen with
  | invalid =>
      refine .inr ⟨fun same => ?_, _, rfl⟩
      cases same
  | incomplete => exact .inl ⟨rfl, rfl⟩
  | complete quoteSize =>
      refine .inr ⟨fun same => ?_, _, rfl⟩
      cases same

/-- One read brings a decision, or leaves the task waiting with less room than before. -/
theorem Progress.step_waiting {codes : StatusCodes} {payloadLen reads : Nat} {task : QuoteTask}
    {chunk : Bytes} (waiting : Waiting payloadLen reads task)
    (admissible : (ReadEvent.data chunk).admissible task = true)
    : (∃ next,
        Progress.step codes (.receiving task) (.data chunk) = some (.receiving next)
        ∧ Waiting payloadLen (reads + 1) next)
      ∨ task.answerTo chunk ≠ .incomplete
        ∧ ∃ last, Progress.step codes (.receiving task) (.data chunk) = some (.ended last) := by
  have stepped : Progress.step codes (.receiving task) (.data chunk)
      = some (tdxGetQuoteRead codes task (.data chunk)) := if_pos admissible
  simp only [ReadEvent.admissible, Bool.and_eq_true, decide_eq_true_eq] at admissible
  obtain ⟨capacity, room, paid⟩ := waiting
  rcases tdxGetQuoteRead_data codes task chunk with ⟨incomplete, read⟩ | ⟨decided, last, read⟩
  · refine .inl ⟨_, stepped.trans (congrArg some read), capacity, ?_, ?_⟩
    · have unfilled : task.received + chunk.length ≠ task.payloadLen := by
        intro full
        rw [QuoteTask.answerTo, full] at incomplete
        exact tdxQgsParseResponse_full _ _ incomplete
      dsimp only
      omega
    · dsimp only
      omega
  · exact .inr ⟨decided, last, stepped.trans (congrArg some read)⟩

/-- A task that still waits after some reads got a byte from each and has room left, by
induction on the reads.
-/
theorem Progress.run_waiting {codes : StatusCodes} {payloadLen reads : Nat} {task last : QuoteTask}
    {chunks : List Bytes} (waiting : Waiting payloadLen reads task)
    (reached : Transitions.run (Progress.step codes) (.receiving task) (chunks.map .data)
      = some (.receiving last))
    : Waiting payloadLen (reads + chunks.length) last := by
  induction chunks generalizing task reads with
  | nil =>
      cases reached
      exact waiting
  | cons chunk rest ih =>
      obtain ⟨next, stepped, remaining⟩ := run_cons reached
      have admissible : (ReadEvent.data chunk).admissible task = true := by
        by_contra refused
        rw [Progress.step, if_neg refused] at stepped
        cases stepped
      rcases Progress.step_waiting waiting admissible with ⟨middle, found, kept⟩ | ⟨_, ended, found⟩
      · cases stepped.symm.trans found
        have later := ih kept remaining
        rwa [List.length_cons, Nat.add_comm rest.length, ← Nat.add_assoc]
      · cases stepped.symm.trans found
        cases rest <;> cases remaining

/-- A new task with a nonempty buffer waits for its first read. -/
theorem QuoteTask.new_waiting (hdr : QuoteHeader) {payloadLen : Nat}
    (receiveBuf : U8Array payloadLen) (positive : 1 ≤ payloadLen)
    : Waiting payloadLen 0 (QuoteTask.new hdr receiveBuf) :=
  ⟨rfl, positive, Nat.le_refl 0⟩

/-- One more read of a stream. -/
theorem run_firstReads_succ (codes : StatusCodes) (start : Progress) (stream : Nat → Bytes)
    (count : Nat)
    : Transitions.run (Progress.step codes) start (firstReads stream (count + 1))
      = (Transitions.run (Progress.step codes) start (firstReads stream count)).bind
          fun middle => Progress.step codes middle (.data (stream count)) := by
  rw [firstReads, List.range_succ, List.map_append, run_append]
  refine congrArg _ (funext fun middle => ?_)
  rw [List.map_singleton, Transitions.run]
  cases Progress.step codes middle (.data (stream count)) <;> rfl

/-- The first reads of a stream end with a decision, or leave the task waiting, by induction on
their number.
-/
theorem Delivers.decided_or_waiting {codes : StatusCodes} {payloadLen : Nat} {task : QuoteTask}
    {stream : Nat → Bytes} (delivers : Delivers codes (.receiving task) stream)
    (waiting : Waiting payloadLen 0 task) (count : Nat)
    : (∃ earlier middle last,
        earlier < count
        ∧ Transitions.run (Progress.step codes) (.receiving task) (firstReads stream earlier)
          = some (.receiving middle)
        ∧ middle.answerTo (stream earlier) ≠ .incomplete
        ∧ Transitions.run (Progress.step codes) (.receiving task) (firstReads stream (earlier + 1))
          = some (.ended last))
      ∨ ∃ middle,
        Transitions.run (Progress.step codes) (.receiving task) (firstReads stream count)
          = some (.receiving middle)
        ∧ Waiting payloadLen count middle := by
  induction count with
  | zero => exact .inr ⟨task, rfl, waiting⟩
  | succ count ih =>
      rcases ih with ⟨earlier, middle, last, before, decision⟩ | ⟨middle, reached, kept⟩
      · exact .inl ⟨earlier, middle, last, Nat.lt_succ_of_lt before, decision⟩
      · have next := run_firstReads_succ codes (.receiving task) stream count
        rw [reached, Option.bind_some] at next
        rcases Progress.step_waiting kept (delivers count middle reached)
          with ⟨later, stepped, still⟩ | ⟨decided, last, stepped⟩
        · exact .inr ⟨later, next.trans stepped, still⟩
        · exact .inl ⟨count, middle, last, Nat.lt_succ_self count, reached, decided,
            next.trans stepped⟩

/-- Bytes that arrive one at a time are delivered, whatever they are. -/
theorem delivers_bytes {codes : StatusCodes} {payloadLen : Nat} {task : QuoteTask}
    (waiting : Waiting payloadLen 0 task) (bytes : Nat → UInt8)
    : Delivers codes (.receiving task) fun index => [bytes index] := by
  intro count last reached
  have reads : firstReads (fun index => [bytes index]) count
      = ((List.range count).map fun index => [bytes index]).map .data := by
    rw [firstReads, List.map_map]
    rfl
  rw [reads] at reached
  have kept := Progress.run_waiting waiting reached
  have room := kept.room
  have capacity := kept.capacity
  simp only [ReadEvent.admissible, List.length_singleton, Bool.and_eq_true, decide_eq_true_eq]
  omega

/-- The receive loop always reaches a decision. A full buffer is never incomplete, whatever it
holds, so no waiting task asks for an empty read; and every stream that arrives in nonempty
reads is accepted or refused after at most as many reads as the buffer has bytes.
-/
theorem receive_loop_decides (codes : StatusCodes) (hdr : QuoteHeader) {payloadLen : Nat}
    (receiveBuf : U8Array payloadLen) (positive : 1 ≤ payloadLen)
    : (∀ p capacity, tdxQgsParseResponse p capacity capacity ≠ .incomplete)
      ∧ (∀ (chunks : List Bytes) task,
        Transitions.run (Progress.step codes) (.receiving (QuoteTask.new hdr receiveBuf))
            (chunks.map .data)
          = some (.receiving task)
        → 0 < task.payloadLen - task.received)
      ∧ ∀ stream,
        Delivers codes (.receiving (QuoteTask.new hdr receiveBuf)) stream
        → ∃ count task last,
            count + 1 ≤ payloadLen
            ∧ Transitions.run (Progress.step codes) (.receiving (QuoteTask.new hdr receiveBuf))
                (firstReads stream count)
              = some (.receiving task)
            ∧ tdxQgsParseResponse (task.filled (stream count))
                (task.received + (stream count).length) task.payloadLen
              ≠ .incomplete
            ∧ Transitions.run (Progress.step codes) (.receiving (QuoteTask.new hdr receiveBuf))
                (firstReads stream (count + 1))
              = some (.ended last) := by
  have waiting := QuoteTask.new_waiting hdr receiveBuf positive
  refine ⟨tdxQgsParseResponse_full, ?_, ?_⟩
  · intro chunks task reached
    have kept := Progress.run_waiting waiting reached
    rw [kept.capacity]
    exact Nat.sub_pos_of_lt kept.room
  · intro stream delivers
    rcases delivers.decided_or_waiting waiting payloadLen
      with ⟨count, task, last, early, reached, decided, ended⟩ | ⟨task, _, kept⟩
    · exact ⟨count, task, last, early, reached, decided, ended⟩
    · have room := kept.room
      have paid := kept.paid
      omega

theorem receive_loop_decides_bytes
    : ∃ count task last,
        count + 1 ≤ 40
        ∧ Transitions.run (Progress.step ghciCodes)
            (.receiving (QuoteTask.new ⟨1, ghciCodes.inFlight, 1024, 0⟩
              ⟨List.replicate 40 0xff, List.length_replicate⟩))
            (firstReads (fun index => [byteAt (responseFrame [7, 8]) index]) count)
          = some (.receiving task)
        ∧ task.answerTo [byteAt (responseFrame [7, 8]) count] ≠ .incomplete
        ∧ Transitions.run (Progress.step ghciCodes)
            (.receiving (QuoteTask.new ⟨1, ghciCodes.inFlight, 1024, 0⟩
              ⟨List.replicate 40 0xff, List.length_replicate⟩))
            (firstReads (fun index => [byteAt (responseFrame [7, 8]) index]) (count + 1))
          = some (.ended last) := by
  have positive : 1 ≤ 40 := by decide
  exact (receive_loop_decides ghciCodes ⟨1, ghciCodes.inFlight, 1024, 0⟩
    ⟨List.replicate 40 0xff, List.length_replicate⟩ positive).2.2 _
    (delivers_bytes (QuoteTask.new_waiting _ _ positive) _)

end Tarako.Tdx
