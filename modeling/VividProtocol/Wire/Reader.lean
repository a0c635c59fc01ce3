import Mathlib.Tactic
import VividProtocol.Library.Framing
import VividProtocol.Library.Result
import VividProtocol.Wire.Record

/-!
# The connection reader

`read_record_body_into` on the bytes a connection carries.  A reader whose
bytes are cut from a well-formed stream takes its records one by one; it stops
where the bytes end or at a record above its own limit.
-/

set_option autoImplicit false

namespace VividProtocol.Wire

open Library.Framing Library.Result

structure ConnectionReader where
  unread : List UInt8
  receiveSequence : UInt64
  receiveBodyLimit : UInt32
  deriving Repr, DecidableEq

def unexpectedEof : IoError := ⟨.unexpectedEof, "failed to fill whole buffer"⟩

def recordTooLarge : IoError :=
  ⟨.invalidData, "presenter record exceeds configured maximum"⟩

namespace ConnectionReader

def readExact (reader : ConnectionReader) (length : Nat) :
    Except IoError (List UInt8 × ConnectionReader) :=
  if length ≤ reader.unread.length then
    .ok (reader.unread.take length, { reader with unread := reader.unread.drop length })
  else .error unexpectedEof

def readRecord (reader : ConnectionReader) : Except IoError (Record × ConnectionReader) :=
  reader.readExact HEADER_SIZE >>= fun (bytes, reader) =>
    let header := RecordHeader.decode bytes
    if header.flags &&& ~~~ RECORD_KNOWN_FLAGS ≠ 0 then
      .error ⟨.invalidData, "presenter record has nonzero reserved flags"⟩
    else if reader.receiveBodyLimit < header.bodyLength ∨
        HARD_MAX_RECORD_BODY < header.bodyLength then
      .error recordTooLarge
    else
      match checkedAdd reader.receiveSequence 1 with
      | none => .error ⟨.invalidData, "presenter sequence exhausted"⟩
      | some expected =>
          if header.sequence ≠ expected then
            .error ⟨.invalidData, "presenter sequence is " ++ toString header.sequence ++
              ", expected " ++ toString expected⟩
          else
            { reader with receiveSequence := header.sequence }.readExact
              header.bodyLength.toNat >>= fun (body, reader) =>
                .ok ({ header := header, body := body }, reader)

end ConnectionReader

/-! ## Reading a stream -/

/-- Records numbered from the one after a given sequence number. -/
def recordFormat : Format UInt64 Record UInt8 :=
  { encode := Record.encode
    Follows := fun sequence record => record.Follows sequence
    advance := fun _ record => record.header.sequence }

/-- One read under a receive limit the caller has set before it. -/
def readAfter (limit : UInt32) (sequence : UInt64) (unread : List UInt8) :
    Except IoError (Record × UInt64 × List UInt8) :=
  match ConnectionReader.readRecord ⟨unread, sequence, limit⟩ with
  | .error error => .error error
  | .ok (record, reader) => .ok (record, reader.receiveSequence, reader.unread)

/-- The records a new reader takes and what it stops at, one receive limit for
each read. -/
def readRecords (limits : List UInt32) (bytes : List UInt8) : List Record × Option IoError :=
  readAll readAfter limits 0 bytes

/-- The bytes end, or the reader's own limit is too low for a record. -/
def Excused (error : IoError) : Prop := error = unexpectedEof ∨ error = recordTooLarge

theorem readExact_append {first rest : List UInt8} {sequence : UInt64} {limit : UInt32}
    {length : Nat} (size : first.length = length) :
    ConnectionReader.readExact ⟨first ++ rest, sequence, limit⟩ length =
      .ok (first, ⟨rest, sequence, limit⟩) := by
  subst size
  simp [ConnectionReader.readExact]

theorem readExact_short {reader : ConnectionReader} {length : Nat}
    (short : reader.unread.length < length) :
    reader.readExact length = .error unexpectedEof := by
  rw [ConnectionReader.readExact, if_neg (Nat.not_le.mpr short)]

/-- Behind the header of the record that comes next, only its body is read. -/
theorem readRecord_header {record : Record} {sequence : UInt64}
    (follows : record.Follows sequence) (limit : UInt32) (unread : List UInt8) :
    ConnectionReader.readRecord ⟨record.header.encode ++ unread, sequence, limit⟩ =
      if limit < record.header.bodyLength then .error recordTooLarge
      else
        ConnectionReader.readExact ⟨unread, record.header.sequence, limit⟩
          record.body.length >>= fun (body, reader) =>
            .ok ({ header := record.header, body := body }, reader) := by
  obtain ⟨⟨flags, length, bounded⟩, next⟩ := follows
  have small : ¬ HARD_MAX_RECORD_BODY < record.header.bodyLength := UInt32.not_lt.mpr bounded
  have known : ¬ record.header.flags &&& ~~~ RECORD_KNOWN_FLAGS ≠ 0 := not_not.mpr flags
  have size := record.header.length_encode
  simp only [ConnectionReader.readRecord, readExact_append size, ok_bind,
    RecordHeader.decode_encode, known, small, if_false, or_false, next, ne_eq,
    not_true_eq_false, length]

theorem readAfter_stops {limit : UInt32} {sequence : UInt64} {unread : List UInt8}
    {error : IoError} (excused : Excused error)
    (stops : ConnectionReader.readRecord ⟨unread, sequence, limit⟩ = .error error) :
    ∃ reason, readAfter limit sequence unread = .error reason ∧ Excused reason :=
  ⟨error, by rw [readAfter, stops], excused⟩

theorem reads_records : Library.Framing.Reads recordFormat readAfter Excused := by
  refine ⟨?_, ?_, ?_⟩
  · intro limit sequence record rest follows
    have head := readRecord_header follows limit (record.body ++ rest)
    rw [← List.append_assoc, readExact_append rfl, ok_bind] at head
    by_cases large : limit < record.header.bodyLength
    · rw [if_pos large] at head
      exact Or.inr (readAfter_stops (Or.inr rfl) head)
    · rw [if_neg large] at head
      left
      change readAfter limit sequence (record.header.encode ++ record.body ++ rest) = _
      rw [readAfter, head]
      rfl
  · intro limit sequence record bytes follows cut short
    change bytes <+: record.header.encode ++ record.body at cut
    change bytes.length < record.encode.length at short
    rw [Record.length_encode] at short
    by_cases header : bytes.length < HEADER_SIZE
    · apply readAfter_stops (Or.inl rfl)
      rw [ConnectionReader.readRecord, readExact_short header, error_bind]
    · have size := record.header.length_encode
      obtain ⟨body, rfl⟩ : record.header.encode <+: bytes :=
        List.prefix_of_prefix_length_le (List.prefix_append _ _) cut (by omega)
      rw [List.length_append, size] at short
      have head := readRecord_header follows limit body
      rw [readExact_short (show body.length < record.body.length by omega),
        error_bind] at head
      by_cases large : limit < record.header.bodyLength
      · rw [if_pos large] at head
        exact readAfter_stops (Or.inr rfl) head
      · rw [if_neg large] at head
        exact readAfter_stops (Or.inl rfl) head
  · intro limit sequence
    apply readAfter_stops (Or.inl rfl)
    have none_left : ([] : List UInt8).length < HEADER_SIZE := by simp [HEADER_SIZE]
    rw [ConnectionReader.readRecord, readExact_short none_left, error_bind]

end VividProtocol.Wire
