import Tarako.Lang.Text
import Tarako.Library.ByteDigits

/-! The framing of quote generation service (QGS) messages, and the parser of received bytes:
a big-endian stream length, then a little-endian message.
-/

namespace Tarako.Tdx

open Lang ByteDigits

def TDX_QGS_PREFIX_SIZE : Nat := 4

def TDX_QGS_MESSAGE_SIZE : Nat := 24

def TDX_QGS_HEADER_SIZE : Nat := TDX_QGS_PREFIX_SIZE + TDX_QGS_MESSAGE_SIZE

/-- `p[index]`. -/
def byteAt (p : Bytes) (index : Nat) : UInt8 :=
  p.getD index 0

/-- Four bytes, lowest first, as a number. -/
def joinBytes (b0 b1 b2 b3 : UInt8) : UInt32 :=
  b0.toUInt32 ||| b1.toUInt32 <<< 8 ||| b2.toUInt32 <<< 16 ||| b3.toUInt32 <<< 24

/-- `tdx_qgs_le32(p + offset)`. -/
def tdxQgsLe32 (p : Bytes) (offset : Nat) : UInt32 :=
  joinBytes (byteAt p offset) (byteAt p (offset + 1)) (byteAt p (offset + 2))
    (byteAt p (offset + 3))

/-- The stream length at the beginning of a buffer. -/
def streamSize (p : Bytes) : UInt32 :=
  (byteAt p 0).toUInt32 <<< 24 ||| (byteAt p 1).toUInt32 <<< 16
    ||| (byteAt p 2).toUInt32 <<< 8 ||| (byteAt p 3).toUInt32

/-- The answers -1, 0 and 1 of the parser; only the last one writes the quote size. -/
inductive QgsResponse
  | invalid
  | incomplete
  | complete (quoteSize : Nat)
deriving DecidableEq

/-- The header checks that follow the stream length. -/
def headerMismatch (p : Bytes) (size : UInt32) : Bool :=
  byteAt p 4 != 1 || byteAt p 5 != 0 || byteAt p 6 != 1 || byteAt p 7 != 0
    || tdxQgsLe32 p 8 != 1
    || tdxQgsLe32 p 12 != size
    || tdxQgsLe32 p 16 != 0
    || tdxQgsLe32 p 20 != 0
    || tdxQgsLe32 p 24 != size - 24

/-- `tdx_qgs_parse_response`. -/
def tdxQgsParseResponse (p : Bytes) (received capacity : Nat) : QgsResponse :=
  if received > capacity ∨ capacity < TDX_QGS_HEADER_SIZE then
    .invalid
  else if received < TDX_QGS_PREFIX_SIZE then
    .incomplete
  else
    let size := streamSize p
    if size.toNat ≤ TDX_QGS_MESSAGE_SIZE
        ∨ size.toNat > capacity - TDX_QGS_PREFIX_SIZE
        ∨ received > TDX_QGS_PREFIX_SIZE + size.toNat then
      .invalid
    else if received < TDX_QGS_HEADER_SIZE then
      .incomplete
    else if headerMismatch p size then
      .invalid
    else if received ≠ TDX_QGS_PREFIX_SIZE + size.toNat then
      .incomplete
    else
      .complete (size.toNat - TDX_QGS_MESSAGE_SIZE)

/-- The header of a `GET_QUOTE_RESP` with a quote of the given size: stream length, version
1.1, type, message size, error code, size of the selected identifier, quote size.
-/
def responseHeader (quoteSize : Nat) : Bytes :=
  toBe 4 (TDX_QGS_MESSAGE_SIZE + quoteSize) ++ ([1, 0, 1, 0] ++ (toLe 4 1
    ++ (toLe 4 (TDX_QGS_MESSAGE_SIZE + quoteSize) ++ (toLe 4 0 ++ (toLe 4 0
    ++ toLe 4 quoteSize)))))

/-- A successful response with its quote. -/
def responseFrame (quote : Bytes) : Bytes :=
  responseHeader quote.length ++ quote

/-- The quotes that a frame can carry: nonempty, and counted by 32 bits with the message. -/
def Framable (quote : Bytes) : Prop :=
  quote ≠ [] ∧ TDX_QGS_MESSAGE_SIZE + quote.length < 2 ^ 32

@[simp]
theorem responseHeader_length (quoteSize : Nat)
    : (responseHeader quoteSize).length = TDX_QGS_HEADER_SIZE := by
  simp [responseHeader, TDX_QGS_HEADER_SIZE, TDX_QGS_PREFIX_SIZE, TDX_QGS_MESSAGE_SIZE]

@[simp]
theorem responseFrame_length (quote : Bytes)
    : (responseFrame quote).length = TDX_QGS_HEADER_SIZE + quote.length := by
  simp [responseFrame]

/-- A frame determines its quote. -/
theorem responseFrame_injective : Function.Injective responseFrame := by
  intro quote other same
  have tails := congrArg (List.drop TDX_QGS_HEADER_SIZE) same
  rwa [responseFrame, responseFrame, List.drop_left' (responseHeader_length _),
    List.drop_left' (responseHeader_length _)] at tails

theorem or_shiftLeft {low shift : Nat} (bound : low < 2 ^ shift) (high : Nat)
    : low ||| high <<< shift = low + high * 2 ^ shift := by
  rw [Nat.or_comm, ← Nat.shiftLeft_add_eq_or_of_lt bound, Nat.shiftLeft_eq, Nat.add_comm]

/-- Joined bytes are read little-endian. -/
theorem joinBytes_toNat (b0 b1 b2 b3 : UInt8)
    : (joinBytes b0 b1 b2 b3).toNat = leValue [b0, b1, b2, b3] := by
  have l0 := b0.toNat_lt
  have l1 := b1.toNat_lt
  have l2 := b2.toNat_lt
  have l3 := b3.toNat_lt
  have kept {byte shift : Nat} (bound : byte * 2 ^ shift < 2 ^ 32)
      : byte <<< shift % 2 ^ 32 = byte <<< shift := by
    rw [Nat.shiftLeft_eq]
    exact Nat.mod_eq_of_lt bound
  have joined : (joinBytes b0 b1 b2 b3).toNat
      = b0.toNat ||| b1.toNat <<< 8 % 2 ^ 32 ||| b2.toNat <<< 16 % 2 ^ 32
        ||| b3.toNat <<< 24 % 2 ^ 32 := by
    simp [joinBytes]
  have first : b0.toNat ||| b1.toNat <<< 8 = b0.toNat + b1.toNat * 2 ^ 8 :=
    or_shiftLeft (by omega) _
  have second : (b0.toNat + b1.toNat * 2 ^ 8) ||| b2.toNat <<< 16
      = b0.toNat + b1.toNat * 2 ^ 8 + b2.toNat * 2 ^ 16 :=
    or_shiftLeft (by omega) _
  have third : (b0.toNat + b1.toNat * 2 ^ 8 + b2.toNat * 2 ^ 16) ||| b3.toNat <<< 24
      = b0.toNat + b1.toNat * 2 ^ 8 + b2.toNat * 2 ^ 16 + b3.toNat * 2 ^ 24 :=
    or_shiftLeft (by omega) _
  rw [joined, kept (by omega), kept (by omega), kept (by omega), first, second, third]
  simp only [leValue]
  omega

/-- The stream length is the first four bytes, highest first. -/
theorem streamSize_eq (p : Bytes)
    : streamSize p = joinBytes (byteAt p 3) (byteAt p 2) (byteAt p 1) (byteAt p 0) := by
  unfold streamSize joinBytes
  generalize (byteAt p 0).toUInt32 <<< 24 = b0
  generalize (byteAt p 1).toUInt32 <<< 16 = b1
  generalize (byteAt p 2).toUInt32 <<< 8 = b2
  generalize (byteAt p 3).toUInt32 = b3
  rw [UInt32.or_comm _ b3, UInt32.or_comm _ b2, UInt32.or_comm b0 b1, ← UInt32.or_assoc,
    ← UInt32.or_assoc]

/-- Four bytes inside a buffer. -/
theorem fourBytes {p : Bytes} {offset : Nat} (inside : offset + 4 ≤ p.length)
    : (p.drop offset).take 4
      = [byteAt p offset, byteAt p (offset + 1), byteAt p (offset + 2), byteAt p (offset + 3)] := by
  have split : ∀ tail : Bytes, 4 ≤ tail.length →
      tail.take 4 = [byteAt tail 0, byteAt tail 1, byteAt tail 2, byteAt tail 3] := by
    intro tail long
    match tail, long with
    | b0 :: b1 :: b2 :: b3 :: _, _ => rfl
  have found (index : Nat) : byteAt (p.drop offset) index = byteAt p (offset + index) := by
    simp [byteAt, List.getD]
  rw [split _ (by rw [List.length_drop]; omega)]
  simp only [found, Nat.add_zero]

/-- The number at an offset, from the bytes there. -/
theorem tdxQgsLe32_eq_iff {p : Bytes} {offset : Nat} (inside : offset + 4 ≤ p.length)
    {value : Nat} (bound : value < 2 ^ 32)
    : tdxQgsLe32 p offset = UInt32.ofNat value ↔ (p.drop offset).take 4 = toLe 4 value := by
  have number : (tdxQgsLe32 p offset).toNat = leValue ((p.drop offset).take 4) := by
    rw [tdxQgsLe32, joinBytes_toNat, fourBytes inside]
  have written : (UInt32.ofNat value).toNat = value := UInt32.toNat_ofNat_of_lt' bound
  constructor
  · intro same
    have back := toLe_leValue ((p.drop offset).take 4)
    rw [← number, same, written, fourBytes inside] at back
    rw [fourBytes inside]
    exact back.symm
  · intro same
    apply UInt32.toNat_inj.mp
    rw [number, same, leValue_toLe, written]
    exact Nat.mod_eq_of_lt bound

/-- The stream length, from the first four bytes. -/
theorem streamSize_eq_iff {p : Bytes} (inside : 4 ≤ p.length) {value : Nat}
    (bound : value < 2 ^ 32)
    : (streamSize p).toNat = value ↔ p.take 4 = toBe 4 value := by
  have first := @fourBytes p 0 (by omega)
  rw [List.drop_zero] at first
  have number : (streamSize p).toNat = beValue (p.take 4) := by
    rw [streamSize_eq, joinBytes_toNat, first]
    rfl
  constructor
  · rintro rfl
    have back := toBe_beValue (p.take 4)
    rw [← number, List.length_take_of_le inside] at back
    exact back.symm
  · intro same
    rw [number, same, beValue_toBe]
    exact Nat.mod_eq_of_lt bound

/-- A header is seven groups of four bytes. -/
theorem take_header (p : Bytes)
    : p.take TDX_QGS_HEADER_SIZE
      = p.take 4 ++ ((p.drop 4).take 4 ++ ((p.drop 8).take 4 ++ ((p.drop 12).take 4
        ++ ((p.drop 16).take 4 ++ ((p.drop 20).take 4 ++ (p.drop 24).take 4))))) := by
  have split (offset count : Nat)
      : (p.drop offset).take (4 + count)
        = (p.drop offset).take 4 ++ (p.drop (offset + 4)).take count := by
    rw [List.take_add, List.drop_drop]
  have first := split 0 24
  rw [List.drop_zero] at first
  rw [show TDX_QGS_HEADER_SIZE = 4 + 24 from rfl, first, split 4 20, split 8 16, split 12 12,
    split 16 8, split 20 4]

/-- The header checks pass exactly on the header of the announced size. -/
theorem headerMismatch_eq_false_iff {p : Bytes} (long : TDX_QGS_HEADER_SIZE ≤ p.length)
    {quoteSize : Nat} (bound : TDX_QGS_MESSAGE_SIZE + quoteSize < 2 ^ 32)
    (sized : (streamSize p).toNat = TDX_QGS_MESSAGE_SIZE + quoteSize)
    : headerMismatch p (streamSize p) = false
      ↔ p.take TDX_QGS_HEADER_SIZE = responseHeader quoteSize := by
  simp only [TDX_QGS_HEADER_SIZE, TDX_QGS_PREFIX_SIZE, TDX_QGS_MESSAGE_SIZE] at long bound sized
  have first := (streamSize_eq_iff (by omega) bound).mp sized
  have whole : streamSize p = UInt32.ofNat (24 + quoteSize) := by
    apply UInt32.toNat_inj.mp
    rw [sized]
    exact (UInt32.toNat_ofNat_of_lt' bound).symm
  have rest : streamSize p - 24 = UInt32.ofNat quoteSize := by
    rw [whole, UInt32.ofNat_add, UInt32.add_comm]
    exact UInt32.add_sub_cancel _ _
  have groups {group other tail tail' : Bytes} (length : group.length = 4)
      (length' : other.length = 4)
      : group ++ tail = other ++ tail' ↔ group = other ∧ tail = tail' :=
    List.append_eq_append_iff_of_size_eq_left (length.trans length'.symm)
  have four {offset : Nat} (inside : offset + 4 ≤ p.length)
      : ((p.drop offset).take 4).length = 4 := by
    rw [List.length_take_of_le]
    rw [List.length_drop]
    omega
  have version : (p.drop 4).take 4 = [1, 0, 1, 0]
      ↔ byteAt p 4 = 1 ∧ byteAt p 5 = 0 ∧ byteAt p 6 = 1 ∧ byteAt p 7 = 0 := by
    rw [fourBytes (by omega)]
    simp
  have header : p.take TDX_QGS_HEADER_SIZE = responseHeader quoteSize
      ↔ (byteAt p 4 = 1 ∧ byteAt p 5 = 0 ∧ byteAt p 6 = 1 ∧ byteAt p 7 = 0)
        ∧ tdxQgsLe32 p 8 = UInt32.ofNat 1
        ∧ tdxQgsLe32 p 12 = UInt32.ofNat (24 + quoteSize)
        ∧ tdxQgsLe32 p 16 = UInt32.ofNat 0
        ∧ tdxQgsLe32 p 20 = UInt32.ofNat 0
        ∧ tdxQgsLe32 p 24 = UInt32.ofNat quoteSize := by
    rw [take_header, responseHeader, groups (List.length_take_of_le (by omega)) (by simp),
      groups (four (by omega)) rfl, groups (four (by omega)) (by simp),
      groups (four (by omega)) (by simp), groups (four (by omega)) (by simp),
      groups (four (by omega)) (by simp), version, tdxQgsLe32_eq_iff (by omega) (by decide),
      tdxQgsLe32_eq_iff (by omega) bound, tdxQgsLe32_eq_iff (by omega) (by decide),
      tdxQgsLe32_eq_iff (by omega) (by decide), tdxQgsLe32_eq_iff (by omega) (by omega)]
    exact and_iff_right first
  rw [header, ← whole, ← rest]
  simp only [headerMismatch, Bool.or_eq_false_iff, bne_eq_false_iff_eq, and_assoc]
  exact Iff.rfl

-----------------------------------------------------------------------------------------
-- What the parser accepts
-----------------------------------------------------------------------------------------

/-- The stream length of a buffer that begins with a header. -/
theorem streamSize_of_header {p : Bytes} {quoteSize received : Nat}
    (bound : TDX_QGS_MESSAGE_SIZE + quoteSize < 2 ^ 32) (long : 4 ≤ received)
    (inside : received ≤ p.length) {rest : Bytes}
    (begins : p.take received = (responseHeader quoteSize ++ rest).take received)
    : (streamSize p).toNat = TDX_QGS_MESSAGE_SIZE + quoteSize := by
  refine (streamSize_eq_iff (by omega) bound).mpr ?_
  have first := congrArg (List.take 4) begins
  rw [List.take_take, List.take_take, Nat.min_eq_left long] at first
  rw [first, responseHeader, List.append_assoc]
  exact List.take_left' (toBe_length 4 _)

/-- The parser accepts exactly a header with its quote, and nothing after it. -/
theorem tdxQgsParseResponse_complete_iff {p : Bytes} {received capacity quoteSize : Nat}
    (inside : received ≤ p.length)
    : tdxQgsParseResponse p received capacity = .complete quoteSize
      ↔ received ≤ capacity
        ∧ 0 < quoteSize
        ∧ TDX_QGS_MESSAGE_SIZE + quoteSize < 2 ^ 32
        ∧ received = TDX_QGS_HEADER_SIZE + quoteSize
        ∧ p.take TDX_QGS_HEADER_SIZE = responseHeader quoteSize := by
  have sizes : TDX_QGS_HEADER_SIZE = TDX_QGS_PREFIX_SIZE + TDX_QGS_MESSAGE_SIZE := rfl
  constructor
  · intro parsed
    unfold tdxQgsParseResponse at parsed
    dsimp only at parsed
    split_ifs at parsed with overflows short sized unfinished mismatch partly
    cases parsed
    have limit := (streamSize p).toNat_lt
    have whole : (streamSize p).toNat
        = TDX_QGS_MESSAGE_SIZE + ((streamSize p).toNat - TDX_QGS_MESSAGE_SIZE) := by omega
    have bound : TDX_QGS_MESSAGE_SIZE + ((streamSize p).toNat - TDX_QGS_MESSAGE_SIZE) < 2 ^ 32 :=
      by omega
    have header := (headerMismatch_eq_false_iff (by omega) bound whole).mp
      (Bool.eq_false_iff.mpr mismatch)
    exact ⟨by omega, by omega, bound, by omega, header⟩
  · rintro ⟨fits, positive, bound, exact, header⟩
    have whole : (streamSize p).toNat = TDX_QGS_MESSAGE_SIZE + quoteSize := by
      refine @streamSize_of_header p quoteSize TDX_QGS_HEADER_SIZE bound (by decide) (by omega) []
        ?_
      rw [header, List.append_nil, List.take_of_length_le (by simp)]
    have passes := (headerMismatch_eq_false_iff (by omega) bound whole).mpr header
    unfold tdxQgsParseResponse
    dsimp only
    rw [whole, if_neg (by omega), if_neg (by omega), if_neg (by omega), if_neg (by omega), passes,
      if_neg Bool.false_ne_true, if_neg (by omega), Nat.add_sub_cancel_left]

/-- What an accepted buffer holds: one frame, of the bytes after the header. -/
theorem frame_of_complete {p : Bytes} {received capacity quoteSize : Nat}
    (inside : received ≤ p.length)
    (parsed : tdxQgsParseResponse p received capacity = .complete quoteSize)
    : let quote := (p.drop TDX_QGS_HEADER_SIZE).take quoteSize
      quote.length = quoteSize ∧ Framable quote ∧ responseFrame quote = p.take received := by
  obtain ⟨_, positive, bound, rfl, header⟩ :=
    (tdxQgsParseResponse_complete_iff inside).mp parsed
  have length : ((p.drop TDX_QGS_HEADER_SIZE).take quoteSize).length = quoteSize := by
    rw [List.length_take_of_le]
    rw [List.length_drop]
    omega
  refine ⟨length, ⟨?_, ?_⟩, ?_⟩
  · rw [← List.length_pos_iff, length]
    exact positive
  · rwa [length]
  · rw [responseFrame, length, ← header, List.take_add]

/-- A buffer that holds exactly a frame that fits is accepted. -/
theorem complete_of_frame {p quote : Bytes} {received capacity : Nat} (framable : Framable quote)
    (fits : TDX_QGS_HEADER_SIZE + quote.length ≤ capacity) (inside : received ≤ p.length)
    (holds : p.take received = responseFrame quote)
    (whole : received = TDX_QGS_HEADER_SIZE + quote.length)
    : tdxQgsParseResponse p received capacity = .complete quote.length := by
  refine (tdxQgsParseResponse_complete_iff inside).mpr
    ⟨by omega, List.length_pos_iff.mpr framable.1, framable.2, whole, ?_⟩
  have first := congrArg (List.take TDX_QGS_HEADER_SIZE) holds
  rw [List.take_take, Nat.min_eq_left (by omega)] at first
  rw [first]
  exact List.take_left' (responseHeader_length _)

/-- Every strict beginning of a frame that fits is incomplete, whatever the buffer holds after
the received bytes.
-/
theorem tdxQgsParseResponse_incomplete {p quote : Bytes} {received capacity : Nat}
    (framable : Framable quote) (fits : TDX_QGS_HEADER_SIZE + quote.length ≤ capacity)
    (inside : received ≤ p.length) (begins : p.take received = (responseFrame quote).take received)
    (strict : received < TDX_QGS_HEADER_SIZE + quote.length)
    : tdxQgsParseResponse p received capacity = .incomplete := by
  have sizes : TDX_QGS_HEADER_SIZE = TDX_QGS_PREFIX_SIZE + TDX_QGS_MESSAGE_SIZE := rfl
  have positive := List.length_pos_iff.mpr framable.1
  unfold tdxQgsParseResponse
  rw [if_neg (by omega)]
  by_cases short : received < TDX_QGS_PREFIX_SIZE
  · rw [if_pos short]
  · have whole := streamSize_of_header framable.2 (Nat.le_of_not_lt short) inside begins
    dsimp only
    rw [if_neg short, whole, if_neg (by omega)]
    by_cases unfinished : received < TDX_QGS_HEADER_SIZE
    · rw [if_pos unfinished]
    · have header : p.take TDX_QGS_HEADER_SIZE = responseHeader quote.length := by
        have first := congrArg (List.take TDX_QGS_HEADER_SIZE) begins
        rw [List.take_take, List.take_take, Nat.min_eq_left (Nat.le_of_not_lt unfinished)] at first
        rw [first, responseFrame]
        exact List.take_left' (responseHeader_length _)
      have passes := (headerMismatch_eq_false_iff (by omega) framable.2 whole).mpr header
      rw [if_neg unfinished, passes, if_neg Bool.false_ne_true, if_pos (by omega)]

end Tarako.Tdx
