import Tarako.Tdx.QgsProtocol

/-! The response parser as it is called: 64-bit sizes, a returned number, and a quote size that
goes through a pointer. It accepts the framed quotes and nothing else, and its answers on the
beginning of a stream stay right when more of the stream arrives.
-/

namespace Tarako.Tdx

open Lang ByteDigits

/-- `tdx_qgs_parse_response`: the returned number, and what `*quote_size` holds afterwards. -/
def tdxQgsParseResponseInto (p : Bytes) (received capacity quoteSize : UInt64) : Int × UInt64 :=
  if received > capacity ∨ capacity < UInt64.ofNat TDX_QGS_HEADER_SIZE then
    (-1, quoteSize)
  else if received < UInt64.ofNat TDX_QGS_PREFIX_SIZE then
    (0, quoteSize)
  else
    let size := streamSize p
    if size ≤ UInt32.ofNat TDX_QGS_MESSAGE_SIZE
        ∨ size.toUInt64 > capacity - UInt64.ofNat TDX_QGS_PREFIX_SIZE
        ∨ received > UInt64.ofNat TDX_QGS_PREFIX_SIZE + size.toUInt64 then
      (-1, quoteSize)
    else if received < UInt64.ofNat TDX_QGS_HEADER_SIZE then
      (0, quoteSize)
    else if headerMismatch p size then
      (-1, quoteSize)
    else if received ≠ UInt64.ofNat TDX_QGS_PREFIX_SIZE + size.toUInt64 then
      (0, quoteSize)
    else
      (1, (size - UInt32.ofNat TDX_QGS_MESSAGE_SIZE).toUInt64)

/-- `tdx_qgs_put_le32(p + offset, value)`. -/
def tdxQgsPutLe32 (p : Bytes) (offset : Nat) (value : UInt32) : Bytes :=
  (((p.set offset value.toUInt8).set (offset + 1) (value >>> 8).toUInt8).set (offset + 2)
    (value >>> 16).toUInt8).set (offset + 3) (value >>> 24).toUInt8

/-- `tdx_qgs_request_header`. -/
def tdxQgsRequestHeader (p : Bytes) (reportSize : UInt32) : Bytes :=
  let size := UInt32.ofNat TDX_QGS_MESSAGE_SIZE + reportSize
  let p := List.replicate TDX_QGS_HEADER_SIZE 0 ++ p.drop TDX_QGS_HEADER_SIZE
  let p := p.set 0 (size >>> 24).toUInt8
  let p := p.set 1 (size >>> 16).toUInt8
  let p := p.set 2 (size >>> 8).toUInt8
  let p := p.set 3 size.toUInt8
  let p := p.set 4 1
  let p := p.set 6 1
  let p := tdxQgsPutLe32 p 12 size
  tdxQgsPutLe32 p 20 reportSize

/-- The field writes with which the protocol test turns a request header into a response. -/
def respond (p : Bytes) (quoteSize : UInt32) : Bytes :=
  let p := tdxQgsRequestHeader p quoteSize
  let p := tdxQgsPutLe32 p 8 1
  let p := tdxQgsPutLe32 p 20 0
  tdxQgsPutLe32 p 24 quoteSize

/-- The received bytes are there to be read. A call that announces more than the capacity is
refused before anything is read.
-/
def Readable (p : Bytes) (received capacity : UInt64) : Prop :=
  received ≤ capacity → received.toNat ≤ p.length

/-- The received bytes are a frame of some quote of the given size, and they fit. -/
def Framed (p : Bytes) (received capacity : UInt64) (quoteSize : Nat) : Prop :=
  received ≤ capacity
  ∧ 1 ≤ quoteSize
  ∧ TDX_QGS_MESSAGE_SIZE + quoteSize < 2 ^ 32
  ∧ received.toNat = TDX_QGS_HEADER_SIZE + quoteSize
  ∧ ∃ quote, quote.length = quoteSize ∧ p.take received.toNat = responseHeader quoteSize ++ quote

/-- The returned number and the quote size of an answer. -/
def QgsResponse.returned (quoteSize : UInt64) : QgsResponse → Int × UInt64
  | .invalid => (-1, quoteSize)
  | .incomplete => (0, quoteSize)
  | .complete size => (1, UInt64.ofNat size)

/-- No sum or difference of sizes wraps: a stream length is below `2 ^ 32`, and the capacity is
at least a header when the prefix is taken off.
-/
theorem tdxQgsParseResponseInto_eq (p : Bytes) (received capacity quoteSize : UInt64)
    : tdxQgsParseResponseInto p received capacity quoteSize
      = (tdxQgsParseResponse p received.toNat capacity.toNat).returned quoteSize := by
  have limit := (streamSize p).toNat_lt
  have room : ¬ capacity.toNat < TDX_QGS_HEADER_SIZE →
      (capacity - UInt64.ofNat TDX_QGS_PREFIX_SIZE).toNat
        = capacity.toNat - TDX_QGS_PREFIX_SIZE := by
    intro wide
    refine UInt64.toNat_sub_of_le _ _ ?_
    rw [UInt64.le_iff_toNat_le]
    exact Nat.le_trans (by decide) (Nat.le_of_not_lt wide)
  have sum : (UInt64.ofNat TDX_QGS_PREFIX_SIZE + (streamSize p).toUInt64).toNat
      = TDX_QGS_PREFIX_SIZE + (streamSize p).toNat := by
    rw [UInt64.toNat_add, UInt32.toNat_toUInt64]
    refine Nat.mod_eq_of_lt ?_
    have small : (UInt64.ofNat TDX_QGS_PREFIX_SIZE).toNat = 4 := rfl
    omega
  have header : (UInt64.ofNat TDX_QGS_HEADER_SIZE).toNat = TDX_QGS_HEADER_SIZE := rfl
  have lead : (UInt64.ofNat TDX_QGS_PREFIX_SIZE).toNat = TDX_QGS_PREFIX_SIZE := rfl
  have message : (UInt32.ofNat TDX_QGS_MESSAGE_SIZE).toNat = TDX_QGS_MESSAGE_SIZE := rfl
  unfold tdxQgsParseResponseInto tdxQgsParseResponse
  simp only [gt_iff_lt, UInt64.lt_iff_toNat_lt, UInt32.le_iff_toNat_le, ne_eq,
    ← UInt64.toNat_inj, header, lead, message, sum, UInt32.toNat_toUInt64]
  by_cases refused : capacity.toNat < received.toNat ∨ capacity.toNat < TDX_QGS_HEADER_SIZE
  · rw [if_pos refused, if_pos refused]
    rfl
  · rw [if_neg refused, if_neg refused, room (fun small => refused (.inr small))]
    split_ifs with short sized unfinished mismatch whole
    · rfl
    · rfl
    · rfl
    · rfl
    · have size : (streamSize p - UInt32.ofNat TDX_QGS_MESSAGE_SIZE).toNat
          = (streamSize p).toNat - TDX_QGS_MESSAGE_SIZE := by
        refine UInt32.toNat_sub_of_le _ _ ?_
        rw [UInt32.le_iff_toNat_le, message]
        omega
      refine Prod.ext rfl (UInt64.toNat_inj.mp ?_)
      rw [UInt32.toNat_toUInt64, size]
      refine (UInt64.toNat_ofNat_of_lt' ?_).symm
      rw [UInt64.size]
      omega
    · rfl

/-- A byte of a longer stream that was received before. -/
theorem byteAt_take {p longer : Bytes} {received index : Nat} (inside : index < received)
    (begins : longer.take received = p.take received)
    : byteAt longer index = byteAt p index := by
  have read (bytes : Bytes) : byteAt bytes index = byteAt (bytes.take received) index := by
    simp [byteAt, List.getD, inside]
  rw [read longer, begins, ← read p]

theorem streamSize_take {p longer : Bytes} {received : Nat} (prefixed : TDX_QGS_PREFIX_SIZE ≤ received)
    (begins : longer.take received = p.take received)
    : streamSize longer = streamSize p := by
  simp only [TDX_QGS_PREFIX_SIZE] at prefixed
  simp (disch := omega) only [streamSize, byteAt_take _ begins]

/-- The header of a longer stream is read from the bytes received before. -/
theorem headerMismatch_take {p longer : Bytes} {received : Nat}
    (longEnough : TDX_QGS_HEADER_SIZE ≤ received) (begins : longer.take received = p.take received)
    (size : UInt32)
    : headerMismatch longer size = headerMismatch p size := by
  simp only [TDX_QGS_HEADER_SIZE, TDX_QGS_PREFIX_SIZE, TDX_QGS_MESSAGE_SIZE] at longEnough
  simp (disch := omega) only [headerMismatch, tdxQgsLe32, byteAt_take _ begins]

/-- More bytes cannot repair a refused beginning: what was read of it is read again. -/
theorem tdxQgsParseResponse_invalid_extend {p longer : Bytes} {received further capacity : Nat}
    (parsed : tdxQgsParseResponse p received capacity = .invalid) (more : received ≤ further)
    (begins : longer.take received = p.take received)
    : tdxQgsParseResponse longer further capacity = .invalid := by
  unfold tdxQgsParseResponse at parsed ⊢
  dsimp only at parsed ⊢
  split_ifs at parsed with refused short sized unfinished mismatch
  · exact if_pos (by omega)
  · rw [streamSize_take (by omega) begins]
    by_cases late : further > capacity ∨ capacity < TDX_QGS_HEADER_SIZE
    · rw [if_pos late]
    · rw [if_neg late, if_neg (by omega), if_pos (by omega)]
  · rw [streamSize_take (by omega) begins, headerMismatch_take (by omega) begins]
    by_cases late : further > capacity ∨ capacity < TDX_QGS_HEADER_SIZE
    · rw [if_pos late]
    · rw [if_neg late, if_neg (by omega)]
      split_ifs with early
      · rfl
      · omega
      · rfl

/-- The four bytes that a stored number leaves in memory. -/
def storedLe (value : UInt32) : Bytes :=
  [value.toUInt8, (value >>> 8).toUInt8, (value >>> 16).toUInt8, (value >>> 24).toUInt8]

theorem storedLe_eq (value : UInt32) : storedLe value = toLe 4 value.toNat := by
  have byte (shift : Nat) (bound : shift < 32)
      : (value >>> UInt32.ofNat shift).toUInt8 = UInt8.ofNat (value.toNat / 2 ^ shift) := by
    apply UInt8.toNat_inj.mp
    have amount : (UInt32.ofNat shift).toNat = shift := by
      refine UInt32.toNat_ofNat_of_lt' ?_
      rw [UInt32.size]
      omega
    rw [UInt32.toNat_toUInt8, UInt32.toNat_shiftRight, amount, Nat.mod_eq_of_lt bound,
      Nat.shiftRight_eq_div_pow, UInt8.toNat_ofNat']
  have second := byte 8 (by decide)
  have third := byte 16 (by decide)
  have fourth := byte 24 (by decide)
  simp only [storedLe, toLe, Nat.div_div_eq_div_mul]
  exact congrArg₂ _ rfl (congrArg₂ _ second (congrArg₂ _ third (congrArg₂ _ fourth rfl)))

/-- The written response header, whatever the memory held before: the zeros of the request
stay in the error code, and the report size moves to the quote size.
-/
theorem respond_eq (p : Bytes) {quoteSize : UInt32}
    (bound : TDX_QGS_MESSAGE_SIZE + quoteSize.toNat < 2 ^ 32)
    : respond p quoteSize = responseHeader quoteSize.toNat ++ p.drop TDX_QGS_HEADER_SIZE := by
  have whole : (UInt32.ofNat TDX_QGS_MESSAGE_SIZE + quoteSize).toNat
      = TDX_QGS_MESSAGE_SIZE + quoteSize.toNat := by
    rw [UInt32.toNat_add]
    exact Nat.mod_eq_of_lt bound
  have zeros : List.replicate TDX_QGS_HEADER_SIZE (0 : UInt8)
      = [0, 0, 0, 0, 0, 0, 0, 0, 0, 0, 0, 0, 0, 0, 0, 0, 0, 0, 0, 0, 0, 0, 0, 0, 0, 0, 0, 0] := rfl
  have one : toLe 4 1 = storedLe 1 := (storedLe_eq 1).symm
  have zero : toLe 4 0 = storedLe 0 := (storedLe_eq 0).symm
  have unset : storedLe 0 = [0, 0, 0, 0] := by decide
  rw [responseHeader, toBe, ← whole, ← storedLe_eq, ← storedLe_eq, one, zero]
  unfold respond tdxQgsRequestHeader
  rw [zeros]
  generalize UInt32.ofNat TDX_QGS_MESSAGE_SIZE + quoteSize = size
  generalize p.drop TDX_QGS_HEADER_SIZE = rest
  nth_rewrite 1 [unset]
  simp only [tdxQgsPutLe32, storedLe, List.cons_append, List.nil_append, List.set_cons_zero,
    List.set_cons_succ, List.reverse_cons, List.reverse_nil, Nat.reduceAdd]

/-- The number 1 is returned exactly on the frame of a quote. -/
theorem tdxQgsParseResponseInto_one_iff {p : Bytes} {received capacity : UInt64}
    (readable : Readable p received capacity) (before quoteSize : UInt64)
    : tdxQgsParseResponseInto p received capacity before = (1, quoteSize)
      ↔ Framed p received capacity quoteSize.toNat := by
  rw [tdxQgsParseResponseInto_eq]
  constructor
  · intro returned
    have fits : received ≤ capacity := by
      by_contra exceeds
      rw [tdxQgsParseResponse, if_pos (.inl (by simpa [UInt64.le_iff_toNat_le] using exceeds))]
        at returned
      cases returned
    cases parsed : tdxQgsParseResponse p received.toNat capacity.toNat with
    | invalid =>
        rw [parsed] at returned
        cases returned
    | incomplete =>
        rw [parsed] at returned
        cases returned
    | complete size =>
        rw [parsed] at returned
        cases returned
        obtain ⟨_, positive, bound, whole, _⟩ :=
          (tdxQgsParseResponse_complete_iff (readable fits)).mp parsed
        obtain ⟨length, _, frame⟩ := frame_of_complete (readable fits) parsed
        have kept : (UInt64.ofNat size).toNat = size := by
          refine UInt64.toNat_ofNat_of_lt' ?_
          rw [UInt64.size]
          omega
        rw [responseFrame, length] at frame
        rw [Framed, kept]
        exact ⟨fits, positive, bound, whole, _, length, frame.symm⟩
  · rintro ⟨fits, positive, bound, whole, quote, length, holds⟩
    have framable : Framable quote := by
      rw [Framable, ← List.length_pos_iff, length]
      exact ⟨positive, bound⟩
    have fitsNat := UInt64.le_iff_toNat_le.mp fits
    rw [← length] at holds whole
    rw [complete_of_frame framable (by omega) (readable fits) holds whole, QgsResponse.returned,
      length, UInt64.ofNat_toNat]

/-- A strict beginning of a frame that fits returns 0. -/
theorem tdxQgsParseResponseInto_zero {p quote : Bytes} {received capacity : UInt64}
    (framable : Framable quote) (fits : TDX_QGS_HEADER_SIZE + quote.length ≤ capacity.toNat)
    (begins : p.take received.toNat = (responseFrame quote).take received.toNat)
    (strict : received.toNat < TDX_QGS_HEADER_SIZE + quote.length) (before : UInt64)
    : tdxQgsParseResponseInto p received capacity before = (0, before) := by
  have inside : received.toNat ≤ p.length := by
    have length := congrArg List.length begins
    simp only [List.length_take, responseFrame_length] at length
    omega
  rw [tdxQgsParseResponseInto_eq, tdxQgsParseResponse_incomplete framable fits inside begins strict,
    QgsResponse.returned]

/-- The returned number is -1 exactly on refused bytes. -/
theorem QgsResponse.returned_neg_one_iff (response : QgsResponse) (before : UInt64)
    : (response.returned before).1 = -1 ↔ response = .invalid := by
  cases response <;> simp [QgsResponse.returned]

/-- The parser accepts exactly the framed quotes and treats partial reads soundly. It returns 1
with a quote size exactly on a frame of such a quote that fits, 0 on every strict beginning of
such a frame, and -1 on every extension of bytes on which it returned -1. The responses that
the protocol test makes from request headers are such frames, for every quote size. Only 1
comes with a written quote size.
-/
theorem parses_framed_quotes
    : (∀ p received capacity before quoteSize,
        Readable p received capacity
        → (tdxQgsParseResponseInto p received capacity before = (1, quoteSize)
          ↔ Framed p received capacity quoteSize.toNat))
      ∧ (∀ p quote received capacity before,
        Framable quote
        → TDX_QGS_HEADER_SIZE + quote.length ≤ capacity.toNat
        → p.take received.toNat = (responseFrame quote).take received.toNat
        → received.toNat < (responseFrame quote).length
        → tdxQgsParseResponseInto p received capacity before = (0, before))
      ∧ (∀ p longer received further capacity before after,
        (tdxQgsParseResponseInto p received capacity before).1 = -1
        → received ≤ further
        → longer.take received.toNat = p.take received.toNat
        → (tdxQgsParseResponseInto longer further capacity after).1 = -1)
      ∧ (∀ (p : Bytes) (quoteSize : UInt32) (capacity before : UInt64),
        1 ≤ quoteSize.toNat
        → TDX_QGS_MESSAGE_SIZE + quoteSize.toNat < 2 ^ 32
        → p.length = TDX_QGS_HEADER_SIZE + quoteSize.toNat
        → p.length ≤ capacity.toNat
        → tdxQgsParseResponseInto (respond p quoteSize) (UInt64.ofNat p.length) capacity before
            = (1, quoteSize.toUInt64)
          ∧ ∀ received : UInt64,
              received.toNat < p.length
              → tdxQgsParseResponseInto (respond p quoteSize) received capacity before
                = (0, before))
      ∧ ∀ p received capacity before,
        (tdxQgsParseResponseInto p received capacity before).1 ≠ 1
        → (tdxQgsParseResponseInto p received capacity before).2 = before := by
  refine ⟨?_, ?_, ?_, ?_, ?_⟩
  · intro p received capacity before quoteSize readable
    exact tdxQgsParseResponseInto_one_iff readable before quoteSize
  · intro p quote received capacity before framable fits begins strict
    rw [responseFrame_length] at strict
    exact tdxQgsParseResponseInto_zero framable fits begins strict before
  · intro p longer received further capacity before after refused more begins
    rw [tdxQgsParseResponseInto_eq, QgsResponse.returned_neg_one_iff] at refused ⊢
    exact tdxQgsParseResponse_invalid_extend refused (UInt64.le_iff_toNat_le.mp more) begins
  · intro p quoteSize capacity before positive bound length fits
    have quoteLength : (p.drop TDX_QGS_HEADER_SIZE).length = quoteSize.toNat := by
      rw [List.length_drop, length, Nat.add_sub_cancel_left]
    have frame : respond p quoteSize = responseFrame (p.drop TDX_QGS_HEADER_SIZE) := by
      rw [respond_eq p bound, responseFrame, quoteLength]
    have framable : Framable (p.drop TDX_QGS_HEADER_SIZE) := by
      rw [Framable, ← List.length_pos_iff, quoteLength]
      exact ⟨positive, bound⟩
    have frameLength : (respond p quoteSize).length = p.length := by
      rw [frame, responseFrame_length, quoteLength, length]
    refine ⟨?_, ?_⟩
    · have whole : (UInt64.ofNat p.length).toNat = p.length :=
        UInt64.toNat_ofNat_of_lt' (lt_of_le_of_lt fits capacity.toNat_lt)
      refine (tdxQgsParseResponseInto_one_iff (fun _ => ?_) before _).mpr ?_
      · rw [whole, frameLength]
      · rw [Framed, UInt64.le_iff_toNat_le, whole, UInt32.toNat_toUInt64]
        refine ⟨fits, positive, bound, length, _, quoteLength, ?_⟩
        rw [List.take_of_length_le (Nat.le_of_eq frameLength), respond_eq p bound]
    · intro received strict
      refine tdxQgsParseResponseInto_zero framable ?_ (by rw [frame]) ?_ before
      · rwa [quoteLength, ← length]
      · rwa [quoteLength, ← length]
  · intro p received capacity before other
    rw [tdxQgsParseResponseInto_eq] at other ⊢
    cases parsed : tdxQgsParseResponse p received.toNat capacity.toNat with
    | invalid => rfl
    | incomplete => rfl
    | complete size =>
        rw [parsed] at other
        exact absurd rfl other

/-- The response of the protocol test, of 96 bytes. -/
theorem parses_framed_quotes_test
    : tdxQgsParseResponseInto (respond (List.replicate 124 0xa5) 96) 124 124 0 = (1, 96)
      ∧ ∀ received : UInt64,
          received.toNat < 124
          → tdxQgsParseResponseInto (respond (List.replicate 124 0xa5) 96) received 124 0
            = (0, 0) := by
  have parsed := parses_framed_quotes.2.2.2.1 (List.replicate 124 0xa5) 96 124 0 (by decide)
    (by decide) (by simp [TDX_QGS_HEADER_SIZE, TDX_QGS_PREFIX_SIZE, TDX_QGS_MESSAGE_SIZE])
    (by rw [List.length_replicate]; decide)
  rw [List.length_replicate] at parsed
  exact parsed

end Tarako.Tdx
