import Tarako.Driver.Lifecycle
import Tarako.Library.TextLines
import Tarako.Verifier.Appraisal

/-! How the integration test provisions the Verifier: it reads the public key of a boot from the
IMA log of the Attester, and the digest of the Attester's executable from `fsverity measure`.
-/

namespace Tarako.Provisioning

open Lang TextLines Driver Verifier

-----------------------------------------------------------------------------------------
-- The test
-----------------------------------------------------------------------------------------

/-- The line boundaries of `str.splitlines`. -/
def lineBoundaries : LineEnds CodePoint where
  ends c := decide (c.val ∈ [0x0a, 0x0b, 0x0c, 0x0d, 0x1c, 0x1d, 0x1e, 0x85, 0x2028, 0x2029])
  isReturn c := c.val == 0x0d
  isFeed c := c.val == 0x0a

/-- `str.splitlines`. -/
def splitlines (text : PyStr) : List PyStr :=
  lines lineBoundaries text

/-- `PUBKEY_EVENT`. -/
def pubkeyEvent : PyStr := py "public-key-generate"

/-- The first line that names the event. -/
def eventLine (imaLog : PyStr) : Option PyStr :=
  (splitlines imaLog).find? fun line => decide (pubkeyEvent <:+: line)

/-- A digest algorithm of the kernel. Its name has no blanks and no colon. -/
structure HashAlgorithm where
  name : PyStr
  digest : Bytes → Bytes
  word : ∀ c ∈ name, isSpace c = false ∧ c.val ≠ 0x3a

/-- A digest after the name of its algorithm. -/
def HashAlgorithm.tagged (hash : HashAlgorithm) (digest : Bytes) : PyStr :=
  hash.name ++ py ":" ++ pyHex digest

def blank : CodePoint := codePoint ' '

def feed : CodePoint := codePoint (Char.ofNat 0x0a)

/-- What `ascii_runtime_measurements` shows of a measured buffer: the register, the hash of the
entry, the template, the digest of the buffer, the name of the event and the buffer.
-/
def measurementFields (hash : HashAlgorithm) (templateHash : Bytes) (eventName : PyStr)
    (buf : Bytes)
    : List PyStr :=
  [
    py "10",
    pyHex templateHash,
    py "ima-buf",
    hash.tagged (hash.digest buf),
    eventName,
    pyHex buf
  ]

def measurementLine (hash : HashAlgorithm) (templateHash : Bytes) (eventName : PyStr)
    (buf : Bytes)
    : PyStr :=
  List.intercalate [blank] (measurementFields hash templateHash eventName buf)

/-- The line of a call of `ima_measure_critical_data`. -/
def recordLine (hash : HashAlgorithm) (templateHash : Bytes) (measurement : ImaMeasurement)
    : PyStr :=
  measurementLine hash templateHash (py measurement.eventName)
    (if measurement.hash then hash.digest measurement.buf else measurement.buf)

/-- The buffer that an event records. -/
def recordedKey : LifecycleEvent → Option Bytes
  | .recorded measurement => some measurement.buf
  | _ => none

/-- The first buffer that IMA recorded in a life of the module. -/
def firstRecorded (trace : List LifecycleEvent) : Option Bytes :=
  (trace.filterMap recordedKey).getLast?

/-- The logs of a life of the module in one boot. Between the records of the module stand others,
of which those before its first do not name its event.
-/
inductive ImaLog (hash : HashAlgorithm) : List LifecycleEvent → PyStr → Prop
  | boot : ImaLog hash [] []
  | foreign {trace log} (logged : ImaLog hash trace log) (text : PyStr)
      (unnamed : firstRecorded trace = none → ¬ pubkeyEvent <:+: text)
    : ImaLog hash trace (log ++ (text ++ [feed]))
  | silent {trace log} (logged : ImaLog hash trace log) {event : LifecycleEvent}
      (unrecorded : recordedKey event = none)
    : ImaLog hash (event :: trace) log
  | record {trace log} (logged : ImaLog hash trace log) {templateHash : Bytes}
      (nonempty : templateHash ≠ []) (measurement : ImaMeasurement)
    : ImaLog hash (.recorded measurement :: trace)
        (log ++ (recordLine hash templateHash measurement ++ [feed]))

-----------------------------------------------------------------------------------------
-- The test on the kernel's log
-----------------------------------------------------------------------------------------

theorem isSpace_of_boundary {c : CodePoint} (boundary : lineBoundaries.ends c = true)
    : isSpace c = true := by
  simp only [lineBoundaries, decide_eq_true_eq, List.mem_cons, List.not_mem_nil, or_false]
    at boundary
  simp only [isSpace, List.mem_cons, List.not_mem_nil, or_false, Bool.or_eq_true,
    Bool.and_eq_true, decide_eq_true_eq]
  omega

theorem pyHex_code {data : Bytes} {c : CodePoint} (member : c ∈ pyHex data)
    : (48 ≤ c.val ∧ c.val ≤ 57) ∨ (97 ≤ c.val ∧ c.val ≤ 102) := by
  obtain ⟨char, inText, rfl⟩ := List.mem_map.mp member
  obtain ⟨code, inCodes, rfl⟩ := List.mem_map.mp inText
  obtain ⟨value, small, rfl⟩ := HexText.encode_digits inCodes
  rw [(digit_char small).2.1]
  have all : ∀ n : Fin 16,
      (48 ≤ (HexText.digit n).toNat ∧ (HexText.digit n).toNat ≤ 57)
      ∨ (97 ≤ (HexText.digit n).toNat ∧ (HexText.digit n).toNat ≤ 102) := by decide
  exact all ⟨value, small⟩

/-- A text that `str.split` keeps whole. -/
def IsWord (text : PyStr) : Prop :=
  text ≠ [] ∧ ∀ c ∈ text, isSpace c = false

theorem isWord_of_all {text : PyStr}
    (checked : (!text.isEmpty && text.all fun c => !isSpace c) = true)
    : IsWord text := by
  simpa [IsWord] using checked

theorem pyHex_unspaced {data : Bytes} {c : CodePoint} (member : c ∈ pyHex data)
    : isSpace c = false := by
  have code := pyHex_code member
  simp only [isSpace, List.mem_cons, List.not_mem_nil, or_false, Bool.or_eq_false_iff,
    Bool.and_eq_false_iff, decide_eq_false_iff_not]
  omega

theorem pyHex_word {data : Bytes} (nonempty : data ≠ []) : IsWord (pyHex data) := by
  refine ⟨fun empty => ?_, fun c member => pyHex_unspaced member⟩
  have decoded := fromhex_pyHex data
  rw [empty] at decoded
  exact nonempty (Option.some.inj decoded).symm

theorem tagged_word (hash : HashAlgorithm) (digest : Bytes) : IsWord (hash.tagged digest) := by
  constructor
  · simp [HashAlgorithm.tagged, py, PyStr.ofChars]
  · intro c member
    rcases List.mem_append.mp member with front | digits
    · rcases List.mem_append.mp front with named | colon
      · exact (hash.word c named).1
      · rw [List.mem_singleton.mp colon]
        decide +kernel
    · exact pyHex_unspaced digits

section Line

variable {hash : HashAlgorithm} {templateHash pubkey : Bytes}

theorem measurementFields_words (hashed : templateHash ≠ []) (keyed : pubkey ≠ [])
    : ∀ field ∈ measurementFields hash templateHash pubkeyEvent pubkey, IsWord field := by
  simp only [measurementFields, List.forall_mem_cons]
  exact ⟨isWord_of_all (by decide +kernel), pyHex_word hashed, isWord_of_all (by decide +kernel),
    tagged_word hash _, isWord_of_all (by decide +kernel), pyHex_word keyed, List.forall_mem_nil _⟩

theorem splitlines_measurementLine (hashed : templateHash ≠ []) (keyed : pubkey ≠ [])
    : splitlines (measurementLine hash templateHash pubkeyEvent pubkey ++ [feed])
      = [measurementLine hash templateHash pubkeyEvent pubkey] := by
  refine lines_one (by decide +kernel) fun c member => ?_
  rcases mem_intercalate member with rfl | ⟨field, found, inside⟩
  · decide +kernel
  · have unspaced := (measurementFields_words hashed keyed field found).2 c inside
    by_contra boundary
    rw [isSpace_of_boundary (by simpa using boundary)] at unspaced
    cases unspaced

theorem pubkeyEvent_in_measurementLine
    : pubkeyEvent <:+: measurementLine hash templateHash pubkeyEvent pubkey := by
  refine infix_intercalate ?_
  simp [measurementFields]

end Line

/-- A log in which lines end. -/
def Complete (imaLog : PyStr) : Prop :=
  imaLog = [] ∨ ∃ text, imaLog = text ++ [feed]

theorem splitlines_append {imaLog : PyStr} (complete : Complete imaLog) (later : PyStr)
    : splitlines (imaLog ++ later) = splitlines imaLog ++ splitlines later := by
  rcases complete with rfl | ⟨text, rfl⟩
  · rfl
  · rw [List.append_assoc, List.singleton_append]
    exact lines_append (by decide +kernel) (by decide +kernel) text later

theorem eventLine_append {imaLog : PyStr} (complete : Complete imaLog) (later : PyStr)
    : eventLine (imaLog ++ later) = (eventLine imaLog).or (eventLine later) := by
  rw [eventLine, splitlines_append complete, List.find?_append]
  rfl

theorem eventLine_foreign {text : PyStr} (unnamed : ¬ pubkeyEvent <:+: text)
    : eventLine (text ++ [feed]) = none := by
  refine List.find?_eq_none.mpr fun line member => ?_
  have outside : ¬ pubkeyEvent <:+: text ++ [feed] := by
    rw [List.infix_concat_iff, List.suffix_concat_iff]
    rintro ((empty | ⟨front, same, _⟩) | inside)
    · exact absurd empty (by decide +kernel)
    · have last : feed ∈ pubkeyEvent := by
        rw [same]
        exact List.mem_append_right _ (.head _)
      exact absurd last (by decide +kernel)
    · exact unnamed inside
  simp only [decide_eq_true_eq]
  exact fun named => outside (named.trans (lines_within member))

theorem eventLine_record {hash : HashAlgorithm} {templateHash pubkey : Bytes}
    (hashed : templateHash ≠ []) (keyed : pubkey ≠ [])
    : eventLine (measurementLine hash templateHash pubkeyEvent pubkey ++ [feed])
      = some (measurementLine hash templateHash pubkeyEvent pubkey) := by
  rw [eventLine, splitlines_measurementLine hashed keyed]
  exact List.find?_cons_of_pos (decide_eq_true pubkeyEvent_in_measurementLine)

theorem ImaLog.complete {hash : HashAlgorithm} {trace : List LifecycleEvent} {imaLog : PyStr}
    (logged : ImaLog hash trace imaLog)
    : Complete imaLog := by
  induction logged with
  | boot => exact .inl rfl
  | @foreign _ log _ text _ _ => exact .inr ⟨log ++ text, (List.append_assoc ..).symm⟩
  | silent _ _ ih => exact ih
  | @record _ log _ templateHash _ measurement _ =>
      exact .inr ⟨log ++ recordLine hash templateHash measurement, (List.append_assoc ..).symm⟩

/-- A measurement of a key under the module's event, which the log shows whole. -/
structure KeyMeasurement (measurement : ImaMeasurement) : Prop where
  event : measurement.eventName = "public-key-generate"
  key : measurement.buf ≠ []
  whole : measurement.hash = false

/-- Everything recorded is a key. -/
def Keyed (trace : List LifecycleEvent) : Prop :=
  ∀ measurement, LifecycleEvent.recorded measurement ∈ trace → KeyMeasurement measurement

theorem recordLine_key (hash : HashAlgorithm) (templateHash : Bytes)
    {measurement : ImaMeasurement} (keyed : KeyMeasurement measurement)
    : recordLine hash templateHash measurement
      = measurementLine hash templateHash pubkeyEvent measurement.buf := by
  rw [recordLine, keyed.event, keyed.whole]
  rfl

theorem firstRecorded_silent {event : LifecycleEvent} (unrecorded : recordedKey event = none)
    (trace : List LifecycleEvent)
    : firstRecorded (event :: trace) = firstRecorded trace := by
  rw [firstRecorded, List.filterMap_cons_none unrecorded]
  rfl

theorem firstRecorded_recorded (measurement : ImaMeasurement) (trace : List LifecycleEvent)
    : firstRecorded (.recorded measurement :: trace)
      = some ((firstRecorded trace).getD measurement.buf) := by
  rw [firstRecorded, List.filterMap_cons_some (show recordedKey (.recorded measurement)
    = some measurement.buf from rfl), List.getLast?_cons]
  rfl

/-- The line with the first key that was recorded, if any. The induction is on the log: a later
record does not change what comes first.
-/
theorem ImaLog.found {hash : HashAlgorithm} {trace : List LifecycleEvent} {imaLog : PyStr}
    (logged : ImaLog hash trace imaLog) (keyed : Keyed trace)
    : (firstRecorded trace = none → eventLine imaLog = none)
      ∧ ∀ pubkey,
          firstRecorded trace = some pubkey
          → ∃ templateHash,
              templateHash ≠ []
              ∧ eventLine imaLog
                = some (measurementLine hash templateHash pubkeyEvent pubkey) := by
  induction logged with
  | boot => exact ⟨fun _ => rfl, fun _ found => by cases found⟩
  | @foreign trace _ logged text unnamed ih =>
      obtain ⟨absent, present⟩ := ih keyed
      rw [eventLine_append logged.complete]
      refine ⟨fun none => ?_, fun pubkey first => ?_⟩
      · rw [absent none, eventLine_foreign (unnamed none), Option.or_none]
      · obtain ⟨templateHash, hashed, line⟩ := present pubkey first
        exact ⟨templateHash, hashed, by rw [line, Option.some_or]⟩
  | silent _ unrecorded ih =>
      rw [firstRecorded_silent unrecorded]
      exact ih fun pubkey member => keyed pubkey (.tail _ member)
  | @record trace _ logged templateHash hashed measurement ih =>
      obtain ⟨absent, present⟩ := ih fun other member => keyed other (.tail _ member)
      have own := keyed measurement (.head _)
      rw [firstRecorded_recorded, eventLine_append logged.complete, recordLine_key hash _ own,
        eventLine_record hashed own.key]
      refine ⟨fun absent => absurd absent (Option.some_ne_none _), fun found first => ?_⟩
      cases earlier : firstRecorded trace with
      | none =>
          rw [earlier] at first
          cases first
          exact ⟨templateHash, hashed, by rw [absent earlier, Option.none_or]; rfl⟩
      | some older =>
          rw [earlier] at first
          cases first
          obtain ⟨olderHash, olderHashed, line⟩ := present older earlier
          exact ⟨olderHash, olderHashed, by rw [line, Option.some_or]; rfl⟩

end Tarako.Provisioning
