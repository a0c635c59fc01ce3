import Mathlib.Tactic
import VividProtocol.Control.Envelope
import VividProtocol.Cbor.Append
import VividProtocol.Wire.Effect

/-!
# What is left unflushed

A batching writer peeks at the first bytes of a control record to see whether
somebody waits for an answer to it.  The peek finds the request of every
envelope, however its bytes are cut into parts, so no such record stays in the
transport's buffer behind a call that succeeded.
-/

set_option autoImplicit false

namespace VividProtocol.Wire

open Library Library.Result Library.Transition ConnectionWriter
open VividProtocol.Cbor (headBytes headBytes_eq argumentForm argumentForm_low lead_major
  lead_additional)

/-! ## The peek -/

theorem toNat_shift_or {value : UInt64} {byte : UInt8} (fits : value.toNat * 256 < 2 ^ 64) :
    (value <<< 8 ||| byte.toUInt64).toNat = value.toNat * 256 + byte.toNat := by
  have low : byte.toNat < 2 ^ 8 := byte.toNat_lt
  have joined := Nat.shiftLeft_add_eq_or_of_lt low value.toNat
  have shifted : value.toNat <<< 8 % 2 ^ 64 = value.toNat <<< 8 := by
    rw [Nat.shiftLeft_eq]
    exact Nat.mod_eq_of_lt fits
  simp only [UInt64.toNat_or, UInt64.toNat_shiftLeft, UInt8.toNat_toUInt64]
  rw [show (8 : UInt64).toNat % 64 = 8 from rfl, shifted, ← joined, Nat.shiftLeft_eq]

theorem readControlUint_eq {bytes rest : List UInt8} {value : UInt64}
    (fits : value.toNat * 256 ^ bytes.length + BigEndian.ofBytes bytes < 2 ^ 64) :
    readControlUint bytes.length value (bytes ++ rest) =
      some (UInt64.ofNat (value.toNat * 256 ^ bytes.length + BigEndian.ofBytes bytes)) := by
  induction bytes generalizing value with
  | nil => simp [readControlUint, BigEndian.ofBytes]
  | cons byte bytes ih =>
      have split : value.toNat * 256 ^ (bytes.length + 1) =
          value.toNat * 256 * 256 ^ bytes.length := by
        rw [pow_succ]
        ring
      have whole : value.toNat * 256 ^ (bytes.length + 1) +
          (byte.toNat * 256 ^ bytes.length + BigEndian.ofBytes bytes) =
          (value.toNat * 256 + byte.toNat) * 256 ^ bytes.length + BigEndian.ofBytes bytes := by
        rw [split, Nat.add_mul]
        omega
      simp only [List.length_cons, BigEndian.ofBytes] at fits ⊢
      rw [whole] at fits ⊢
      have scaled : value.toNat * 256 + byte.toNat ≤
          (value.toNat * 256 + byte.toNat) * 256 ^ bytes.length :=
        Nat.le_mul_of_pos_right _ (by positivity)
      have next := @toNat_shift_or value byte (by omega)
      rw [← next] at fits ⊢
      exact ih fits

/-- The argument of a head is read back from its bytes. -/
theorem readControlUint_toBytes {width : Nat} {number : UInt64} (rest : List UInt8)
    (fits : number.toNat < 256 ^ width) :
    readControlUint width 0 (BigEndian.toBytes width number.toNat ++ rest) = some number := by
  have size := BigEndian.length_toBytes width number.toNat
  have same := BigEndian.ofBytes_toBytes width number.toNat fits
  have small : (0 : UInt64).toNat * 256 ^ (BigEndian.toBytes width number.toNat).length +
      BigEndian.ofBytes (BigEndian.toBytes width number.toNat) < 2 ^ 64 := by
    rw [same, UInt64.toNat_zero, Nat.zero_mul, Nat.zero_add]
    exact number.toNat_lt
  have read := @readControlUint_eq _ rest _ small
  rw [size, same, UInt64.toNat_zero, Nat.zero_mul, Nat.zero_add, UInt64.ofNat_toNat] at read
  exact read

/-- The request that the peek reads behind the initial byte of a head. -/
def peekedRequest (additional : UInt8) (rest : List UInt8) : UInt64 :=
  if additional ≤ 23 then additional.toUInt64
  else if additional = 24 then (readControlUint 1 0 rest).getD 0
  else if additional = 25 then (readControlUint 2 0 rest).getD 0
  else if additional = 26 then (readControlUint 4 0 rest).getD 0
  else if additional = 27 then (readControlUint 8 0 rest).getD 0
  else 0

theorem peekedRequest_argumentForm (number : UInt64) (rest : List UInt8) :
    peekedRequest (argumentForm number).1 ((argumentForm number).2 ++ rest) = number := by
  unfold argumentForm
  split_ifs with tiny byte word double
  · have bound : number.toNat ≤ 23 := UInt64.le_iff_toNat_le.mp tiny
    have small : number.toUInt8 ≤ 23 := by
      rw [UInt8.le_iff_toNat_le, UInt64.toNat_toUInt8]
      change number.toNat % 256 ≤ 23
      omega
    have same : number.toUInt8.toUInt64 = number := by
      apply UInt64.toNat_inj.mp
      rw [UInt8.toNat_toUInt64, UInt64.toNat_toUInt8]
      omega
    simp [peekedRequest, small, same]
  · have bound : number.toNat ≤ 255 := UInt64.le_iff_toNat_le.mp byte
    have single : [number.toUInt8] = BigEndian.toBytes 1 number.toNat := by
      simp [BigEndian.toBytes]
    have read := @readControlUint_toBytes 1 number rest (by omega)
    simp [peekedRequest, single, read]
  · have bound : number.toNat ≤ 65535 := UInt64.le_iff_toNat_le.mp word
    have read := @readControlUint_toBytes 2 number rest (by omega)
    simp [peekedRequest, read]
  · have bound : number.toNat ≤ 4294967295 := UInt64.le_iff_toNat_le.mp double
    have read := @readControlUint_toBytes 4 number rest (by omega)
    simp [peekedRequest, read]
  · have read := @readControlUint_toBytes 8 number rest number.toNat_lt
    simp [peekedRequest, read]

/-- The peek on a map that begins with the key zero and an unsigned number. -/
theorem hasCorrelated_of_heads {recordType : UInt16} {parts : List (List UInt8)}
    {entries : Nat} {number : UInt64} {rest : List UInt8} (few : entries ≤ 23)
    (bytes : parts.flatten =
      headBytes 5 (UInt64.ofNat entries) ++ headBytes 0 0 ++ headBytes 0 number ++ rest) :
    hasCorrelatedControlEnvelope recordType parts = true ↔
      recordType < 0x8000 ∧ number ≠ 0 := by
  have size : (UInt64.ofNat entries).toNat = entries := by
    apply UInt64.toNat_ofNat_of_lt'
    change entries < 2 ^ 64
    omega
  have tiny : UInt64.ofNat entries ≤ 23 := by
    rw [UInt64.le_iff_toNat_le, size]
    exact few
  have map : headBytes 5 (UInt64.ofNat entries) = [(5 : UInt8) <<< 5 ||| (UInt64.ofNat entries).toUInt8] := by
    rw [headBytes_eq, argumentForm, if_pos tiny]
  have key : headBytes 0 0 = [0] := by decide
  have mapMajor : ((5 : UInt8) <<< 5 ||| (UInt64.ofNat entries).toUInt8) >>> 5 = 5 := by
    apply lead_major 5 _ (by decide)
    rw [UInt64.toNat_toUInt8, size]
    omega
  have low := argumentForm_low number
  have major := lead_major 0 (argumentForm number).1 (by decide) low
  have additional := lead_additional 0 (argumentForm number).1 (by decide) low
  have peeked := peekedRequest_argumentForm number rest
  unfold peekedRequest at peeked
  unfold hasCorrelatedControlEnvelope
  rw [bytes, map, key, headBytes_eq]
  simp only [List.cons_append, List.nil_append, mapMajor, major, additional, peeked]
  by_cases high : 0x8000 ≤ recordType
  · simp [high]
  · simp [high, UInt16.not_le.mp high]

theorem body_of_encode {envelope : Envelope} {body : List UInt8}
    (written : envelope.encode = .ok body) :
    ∃ entries rest, entries ≤ 23 ∧
      body = headBytes 5 (UInt64.ofNat entries) ++ headBytes 0 0 ++
        headBytes 0 envelope.requestId ++ rest := by
  obtain ⟨-, -, encoded⟩ := Envelope.encode_eq_ok.mp written
  obtain ⟨-, -, after, entered, same⟩ := Cbor.encode_map_eq_ok.mp encoded
  have few : envelope.fields.length ≤ 23 := by
    have keys := (Envelope.fields_keys envelope).length_le
    rw [List.length_map] at keys
    exact keys.trans (by decide)
  obtain ⟨others, shape⟩ : ∃ others,
      envelope.fields = (0, .unsigned envelope.requestId) :: others := ⟨_, rfl⟩
  refine ⟨envelope.fields.length, ?_⟩
  generalize envelope.fields.length = entries at *
  rw [shape] at entered
  obtain ⟨first, number, later⟩ := bind_eq_ok_iff.mp entered
  obtain ⟨rest, writes⟩ := (Cbor.appends_within Cbor.maxDepth).entries later
  rw [writes first, Except.ok.injEq] at later
  refine ⟨rest, few, ?_⟩
  rw [← same, ← later]
  have numbered : ((Cbor.Encoder.new.map entries).u64 0).u64 envelope.requestId = first :=
    Except.ok.inj number
  rw [← numbered]
  simp [Cbor.Encoder.extend, Cbor.Encoder.u64, Cbor.Encoder.map, Cbor.bytes_majorLength,
    Cbor.Encoder.new]

/-- The peek sees the request of an envelope in every cut of its bytes. -/
theorem peek_of_encode {envelope : Envelope} {body : List UInt8}
    (written : envelope.encode = .ok body) {parts : List (List UInt8)}
    (cut : parts.flatten = body) (recordType : UInt16) :
    hasCorrelatedControlEnvelope recordType parts = true ↔
      recordType < 0x8000 ∧ envelope.requestId ≠ 0 := by
  obtain ⟨entries, rest, few, shape⟩ := body_of_encode written
  exact hasCorrelated_of_heads few (cut.trans shape)

/-! ## What an operation leaves unflushed -/

/-- Somebody waits for the answer to the record. -/
def Correlated (record : Record) : Prop :=
  record.header.recordType < 0x8000 ∧
    ∃ envelope : Envelope, envelope.encode = .ok record.body ∧ envelope.requestId ≠ 0

def Reply.succeeded : Reply → Bool
  | .sequence _ | .done => true
  | .failed _ | .blocked | .panicked => false

def Reply.isBlocked : Reply → Bool
  | .blocked => true
  | .sequence _ | .done | .failed _ | .panicked => false

/-- The operation on a transport that never answers a flush. -/
def WriterOperation.unanswered : WriterOperation → WriterOperation
  | .writeRecordParts call => .writeRecordParts { call with flushed := none }
  | .setFlushMode mode _ => .setFlushMode mode none
  | .flush _ => .flush none
  | .setSendBodyLimit maximum => .setSendBodyLimit maximum
  | .requestShutdown => .requestShutdown
  | .shutdownState native => .shutdownState native

/-- A call that succeeded has flushed the transport when it would have waited
for the answer to a flush. -/
def flushed (event : WriterEvent) : Bool :=
  event.output.succeeded && (event.before.apply event.input.unanswered).1.isBlocked

/-- The record a call has put on the transport. -/
def wrote (event : WriterEvent) : List Record :=
  if event.output.succeeded then (event.before.starts event.input).toList else []

/-- The records on the transport that no flush has followed. -/
def unflushed (history : List WriterEvent) : List Record :=
  history.foldl (fun held event => if flushed event then [] else held ++ wrote event) []

/-- Every write call has succeeded. -/
def WritesSucceed (history : List WriterEvent) : Prop :=
  ∀ event ∈ history, ∀ call, event.input = .writeRecordParts call →
    event.output.succeeded = true

theorem unflushed_snoc (history : List WriterEvent) (event : WriterEvent) :
    unflushed (history ++ [event]) =
      if flushed event then [] else unflushed history ++ wrote event := by
  simp only [unflushed, List.foldl_append, List.foldl_cons, List.foldl_nil]

/-! ## One operation -/

/-- The writer's count covers the records that are held. -/
structure Covers (held : List Record) (writer : ConnectionWriter) : Prop where
  bounded : held.length ≤ 31
  quiet : ∀ record ∈ held, ¬ Correlated record
  live : writer.state.closed = true ∨
    writer.state.io.carries = true ∧ held.length ≤ writer.state.unflushedRecords.toNat ∧
      writer.state.unflushedRecords.toNat ≤ 31

theorem mustFlush_of_correlated {state : WriterState} {call : WriteCall} {header : RecordHeader}
    (type : header.recordType = call.recordType)
    (correlated : Correlated ⟨header, call.parts.flatten⟩) : state.mustFlush call = true := by
  obtain ⟨control, envelope, written, requested⟩ := correlated
  rw [type] at control
  have seen := (peek_of_encode written rfl call.recordType).mpr ⟨control, requested⟩
  simp [WriterState.mustFlush, seen]

theorem mustFlush_of_full {state : WriterState} {call : WriteCall}
    (full : 32 ≤ state.unflushedRecords.toNat) : state.mustFlush call = true := by
  have limit : BATCH_RECORD_LIMIT ≤ state.unflushedRecords := UInt64.le_iff_toNat_le.mpr full
  simp [WriterState.mustFlush, limit]

/-- A flush that succeeds is one the call waits for. -/
theorem flushing_waits {writer : ConnectionWriter} (carries : writer.state.io.carries = true)
    (finish : ConnectionWriter → Except IoError Unit → Reply × ConnectionWriter) :
    (writer.flushing none finish).1.isBlocked = true := by
  cases io : writer.state.io with
  | tcp => simp [ConnectionWriter.flushing, flushWriter, io, Reply.isBlocked]
  | unix => simp [ConnectionWriter.flushing, flushWriter, io, Reply.isBlocked]
  | live => simp [ConnectionWriter.flushing, flushWriter, io, Reply.isBlocked]
  | trace => simp [io, WriterIo.carries] at carries
  | sink => simp [io, WriterIo.carries] at carries

theorem flushing_succeeds {writer : ConnectionWriter}
    {answer : Option (Except IoError Unit)}
    {finish : ConnectionWriter → Except IoError Unit → Reply × ConnectionWriter}
    (fails : ∀ writer error, (finish writer (.error error)).1.succeeded = false)
    (succeeded : (writer.flushing answer finish).1.succeeded = true) :
    ∃ transport, writer.flushing answer finish =
      finish { writer with transport := transport } (.ok ()) := by
  unfold ConnectionWriter.flushing at succeeded ⊢
  dsimp only at succeeded ⊢
  generalize flushWriter writer.state.io writer.transport answer = result at *
  obtain ⟨transport, outcome⟩ := result
  cases outcome with
  | pending => cases succeeded
  | panicked => cases succeeded
  | finished result =>
      cases result with
      | error error =>
          dsimp only at succeeded
          rw [fails] at succeeded
          cases succeeded
      | ok done => exact ⟨transport, rfl⟩

theorem endRecord_fails_reply (number : UInt64) (stopped : Bool) (writer : ConnectionWriter)
    (error : IoError) : (endRecord number stopped writer (.error error)).1.succeeded = false := by
  cases stopped <;> rfl

/-- A write call that succeeds: it has counted its record, and it has flushed
the transport or found no reason to. -/
theorem sendRecord_succeeds {writer : ConnectionWriter} {call : WriteCall}
    {header : RecordHeader} (carries : writer.state.io.carries = true)
    (succeeded : (writer.sendRecord call header).1.succeeded = true) :
    (writer.sendRecord { call with flushed := none } header).1.isBlocked = true ∧
        (writer.sendRecord call header).2.state.io = writer.state.io ∧
        (writer.sendRecord call header).2.state.unflushedRecords = 0 ∨
      ∃ counted : WriterState, counted.mustFlush call = false ∧
        counted.unflushedRecords =
          (checkedAdd writer.state.unflushedRecords 1).getD writer.state.unflushedRecords ∧
        (writer.sendRecord call header).2.state.io = writer.state.io ∧
        (writer.sendRecord call header).2.state.unflushedRecords = counted.unflushedRecords := by
  unfold ConnectionWriter.sendRecord at succeeded ⊢
  dsimp only at succeeded ⊢
  generalize writeWriterParts writer.state.io header.encode call.parts writer.transport
    call.answers = answer at *
  obtain ⟨transport, outcome⟩ := answer
  cases outcome with
  | pending => cases succeeded
  | panicked => cases succeeded
  | finished written =>
      have loads : ∀ load, writer.loads { call with flushed := none } load =
          writer.loads call load := fun load => rfl
      simp only [loads] at succeeded ⊢
      by_cases stopped : writer.loads call 3 = true
      · simp only [stopped, if_true] at succeeded
        cases succeeded
      · simp only [stopped, if_false, Bool.false_eq_true] at succeeded ⊢
        cases written with
        | error error => cases succeeded
        | ok done =>
            dsimp only at succeeded ⊢
            have same : ∀ state : WriterState,
                state.mustFlush { call with flushed := none } = state.mustFlush call :=
              fun state => rfl
            simp only [same]
            split_ifs at succeeded ⊢ with must
            · left
              obtain ⟨after, finished⟩ := flushing_succeeds
                (endRecord_fails_reply header.sequence (writer.loads call 4)) succeeded
              refine ⟨by apply flushing_waits; exact carries, ?_⟩
              rw [finished] at succeeded ⊢
              unfold ConnectionWriter.endRecord at succeeded ⊢
              split_ifs at succeeded ⊢ with closed
              · cases succeeded
              · exact ⟨rfl, rfl⟩
            · right
              exact ⟨_, Bool.not_eq_true _ ▸ must, rfl, rfl, rfl⟩

theorem startRecord_error {writer : ConnectionWriter} {call : WriteCall} {reply : Reply}
    (refused : writer.startRecord call = .error reply) : reply.succeeded = false := by
  unfold ConnectionWriter.startRecord at refused
  repeat' split at refused
  all_goals first
    | (injection refused with same; subst same; rfl)
    | cases refused

/-- What an operation that is no write call does to the count. -/
inductive Settles (event : WriterEvent) : Prop where
  | same
      (io : event.after.state.io = event.before.state.io)
      (closed : event.after.state.closed = event.before.state.closed)
      (count : event.after.state.unflushedRecords = event.before.state.unflushedRecords)
  | emptied
      (io : event.after.state.io = event.before.state.io)
      (closed : event.after.state.closed = event.before.state.closed)
      (count : event.after.state.unflushedRecords = 0)
      (waits : event.before.state.io.carries = true → flushed event = true)
  | ended (closed : event.after.state.closed = true)

section Settling

variable (writer : ConnectionWriter)

/-- A flush outside a record: the count is cleared when it succeeds. -/
theorem flushing_settles {update : WriterState → WriterState}
    (kept : ∀ state, (update state).io = state.io ∧ (update state).closed = state.closed ∧
      (update state).unflushedRecords = state.unflushedRecords)
    (answer : Option (Except IoError Unit)) :
    let result := writer.flushing answer (endFlush update)
    result.2.state.io = writer.state.io ∧ result.2.state.closed = writer.state.closed ∧
      (result.2.state.unflushedRecords = writer.state.unflushedRecords ∨
        result.2.state.unflushedRecords = 0 ∧ result.1.succeeded = true) := by
  intro result
  unfold result ConnectionWriter.flushing
  dsimp only
  generalize flushWriter writer.state.io writer.transport answer = flush
  obtain ⟨transport, outcome⟩ := flush
  cases outcome with
  | pending => exact ⟨rfl, rfl, Or.inl rfl⟩
  | panicked => exact ⟨rfl, rfl, Or.inl rfl⟩
  | finished finished =>
      cases finished with
      | error error => exact ⟨rfl, rfl, Or.inl rfl⟩
      | ok done =>
          obtain ⟨io, closed, count⟩ := kept { writer.state with unflushedRecords := 0 }
          exact ⟨io, closed, Or.inr ⟨count, rfl⟩⟩

theorem whenOpen_settles {event : WriterEvent} {action waiting : Reply × ConnectionWriter}
    (acts : (event.output, event.after) = event.before.whenOpen action)
    (waits : event.before.apply event.input.unanswered = event.before.whenOpen waiting)
    (io : action.2.state.io = event.before.state.io)
    (closed : action.2.state.closed = event.before.state.closed)
    (count : action.2.state.unflushedRecords = event.before.state.unflushedRecords ∨
      action.2.state.unflushedRecords = 0 ∧ action.1.succeeded = true ∧
        (event.before.state.io.carries = true → waiting.1.isBlocked = true)) :
    Settles event := by
  have output : event.output = (event.before.whenOpen action).1 := congrArg Prod.fst acts
  have after : event.after = (event.before.whenOpen action).2 := congrArg Prod.snd acts
  unfold ConnectionWriter.whenOpen at output after waits
  have kept (unchanged : event.after = event.before) : Settles event :=
    .same (by rw [unchanged]) (by rw [unchanged]) (by rw [unchanged])
  cases lock : event.before.lock with
  | held => exact kept (by simpa only [lock] using after)
  | poisoned => exact kept (by simpa only [lock] using after)
  | free =>
      cases shut : event.before.state.closed || event.before.shutdownRequested with
      | true => exact kept (by simpa only [lock, shut, if_true] using after)
      | false =>
          simp only [lock, shut, Bool.false_eq_true, if_false] at output after waits
          rw [← after] at io closed count
          rcases count with count | ⟨count, succeeded, blocked⟩
          · exact .same io closed count
          · refine .emptied io closed count ?_
            intro carries
            rw [flushed, output, succeeded, waits, blocked carries]
            rfl

theorem flush_settles (answer : Option (Except IoError Unit)) :
    Settles (writerMachine.event writer (.flush answer)) := by
  obtain ⟨io, closed, count⟩ := @flushing_settles writer id
    (fun state => ⟨rfl, rfl, rfl⟩) answer
  refine whenOpen_settles rfl rfl io closed (count.imp_right ?_)
  intro cleared
  exact ⟨cleared.1, cleared.2, fun carries => flushing_waits carries _⟩

theorem setFlushMode_settles (mode : FlushMode) (answer : Option (Except IoError Unit)) :
    Settles (writerMachine.event writer (.setFlushMode mode answer)) := by
  by_cases leaves : mode = .immediate ∧ writer.state.unflushedRecords ≠ 0
  · obtain ⟨io, closed, count⟩ := @flushing_settles writer
      (fun state => { state with flushMode := mode }) (fun state => ⟨rfl, rfl, rfl⟩)
      answer
    refine whenOpen_settles (congrArg writer.whenOpen (if_pos leaves))
      (congrArg writer.whenOpen (if_pos leaves)) io closed (count.imp_right ?_)
    intro cleared
    exact ⟨cleared.1, cleared.2, fun carries => flushing_waits carries _⟩
  · exact whenOpen_settles (congrArg writer.whenOpen (if_neg leaves))
      (congrArg writer.whenOpen (if_neg leaves)) rfl rfl (Or.inl rfl)

theorem setSendBodyLimit_settles (maximum : UInt32) :
    Settles (writerMachine.event writer (.setSendBodyLimit maximum)) := by
  by_cases invalid : maximum = 0 ∨ HARD_MAX_RECORD_BODY < maximum
  · have after : (writerMachine.event writer (.setSendBodyLimit maximum)).after = writer := by
      simp [writerMachine, ConnectionWriter.apply, ConnectionWriter.setSendBodyLimit, invalid]
    exact .same (by rw [after]; rfl) (by rw [after]; rfl) (by rw [after]; rfl)
  · exact whenOpen_settles (if_neg invalid) (if_neg invalid) rfl rfl (Or.inl rfl)

theorem shutdownState_settles (native : Except IoError Unit) :
    Settles (writerMachine.event writer (.shutdownState native)) := by
  have step : (writerMachine.event writer (.shutdownState native)).after =
      (writer.shutdownState native).2 := rfl
  unfold ConnectionWriter.shutdownState at step
  cases lock : writer.lock with
  | held =>
      have after : (writerMachine.event writer (.shutdownState native)).after = writer := by
        rw [step, lock]
        dsimp only
        split_ifs <;> rfl
      exact .same (by rw [after]; rfl) (by rw [after]; rfl) (by rw [after]; rfl)
  | poisoned =>
      rw [lock] at step
      exact .same (by rw [step]; rfl) (by rw [step]; rfl) (by rw [step]; rfl)
  | free =>
      rw [lock] at step
      exact .ended (by rw [step]; rfl)

end Settling

/-! ## Runs -/

theorem Settles.covers {event : WriterEvent} {held : List Record} (settles : Settles event)
    (covers : Covers held event.before) (silent : wrote event = []) :
    Covers (if flushed event then [] else held ++ wrote event) event.after := by
  rw [silent, List.append_nil]
  have kept : ∀ records : List Record, records = [] ∨ records = held →
      records.length ≤ 31 ∧ ∀ record ∈ records, ¬ Correlated record := by
    intro records which
    rcases which with none | all
    · simp [none]
    · rw [all]
      exact ⟨covers.bounded, covers.quiet⟩
  have either : (if flushed event then [] else held) = [] ∨
      (if flushed event then [] else held) = held := by
    split_ifs
    · exact Or.inl rfl
    · exact Or.inr rfl
  obtain ⟨bounded, quiet⟩ := kept _ either
  refine ⟨bounded, quiet, ?_⟩
  have fewer : (if flushed event then [] else held).length ≤ held.length := by
    split_ifs <;> simp
  cases settles with
  | same io closed count =>
      rw [io, closed, count]
      refine covers.live.imp_right ?_
      intro live
      exact ⟨live.1, fewer.trans live.2.1, live.2.2⟩
  | emptied io closed count waits =>
      rw [io, closed, count]
      refine covers.live.imp_right ?_
      intro live
      rw [waits live.1]
      exact ⟨live.1, by simp, by simp⟩
  | ended closed => exact Or.inl closed

theorem writeRecordParts_covers {writer : ConnectionWriter} {call : WriteCall}
    {held : List Record} (covers : Covers held writer)
    (succeeded : (writerMachine.event writer (.writeRecordParts call)).output.succeeded = true) :
    Covers
      (if flushed (writerMachine.event writer (.writeRecordParts call)) then []
        else held ++ wrote (writerMachine.event writer (.writeRecordParts call)))
      (writerMachine.event writer (.writeRecordParts call)).after := by
  generalize made : writerMachine.event writer (.writeRecordParts call) = event at *
  have input : event.input = .writeRecordParts call := by rw [← made]; rfl
  have before : event.before = writer := by rw [← made]; rfl
  have step : (event.output, event.after) = writer.writeRecordPartsInner call := by
    rw [← made]
    rfl
  cases begun : writer.startRecord call with
  | error reply =>
      simp only [ConnectionWriter.writeRecordPartsInner, begun, Prod.mk.injEq] at step
      rw [step.1, startRecord_error begun] at succeeded
      cases succeeded
  | ok header =>
      simp only [ConnectionWriter.writeRecordPartsInner, begun] at step
      have output : event.output = (writer.sendRecord call header).1 := congrArg Prod.fst step
      have after : event.after = (writer.sendRecord call header).2 := congrArg Prod.snd step
      obtain ⟨-, opened, type, -⟩ := startRecord_eq_ok begun
      have live := covers.live.resolve_left (by simp [opened])
      have record : wrote event = [⟨header, call.parts.flatten⟩] := by
        simp [wrote, succeeded, before, input, ConnectionWriter.starts, begun]
      have waits : flushed event =
          (writer.sendRecord { call with flushed := none } header).1.isBlocked := by
        have again : writer.startRecord { call with flushed := none } = .ok header := begun
        simp only [flushed, succeeded, Bool.true_and, before, input,
          WriterOperation.unanswered, ConnectionWriter.apply,
          ConnectionWriter.writeRecordPartsInner, again]
      rw [output] at succeeded
      rw [record, waits, after]
      rcases sendRecord_succeeds live.1 succeeded with ⟨blocked, io, count⟩ |
        ⟨counted, calm, next, io, count⟩
      · rw [blocked, if_pos rfl]
        refine ⟨by simp, by simp, Or.inr ⟨by rw [io]; exact live.1, ?_, ?_⟩⟩
        · simp
        · rw [count]
          simp
      · have one : (1 : UInt64).toNat = 1 := rfl
        have exact : counted.unflushedRecords.toNat =
            writer.state.unflushedRecords.toNat + 1 := by
          have room : writer.state.unflushedRecords.toNat + (1 : UInt64).toNat < 2 ^ 64 := by
            rw [one]
            omega
          rw [next, checkedAdd, if_pos room, Option.getD_some, UInt64.toNat_add,
            Nat.mod_eq_of_lt room, one]
        have few : counted.unflushedRecords.toNat ≤ 31 := by
          by_contra many
          rw [mustFlush_of_full (by omega)] at calm
          cases calm
        have alone : ¬ Correlated ⟨header, call.parts.flatten⟩ := by
          intro correlated
          rw [mustFlush_of_correlated type correlated] at calm
          cases calm
        have grown : (held ++ [(⟨header, call.parts.flatten⟩ : Record)]).length ≤
            counted.unflushedRecords.toNat := by
          rw [List.length_append, List.length_singleton, exact]
          omega
        have held_or : ∀ blocked : Bool,
            (if blocked then [] else held ++ [(⟨header, call.parts.flatten⟩ : Record)]).length ≤
              counted.unflushedRecords.toNat := by
          intro blocked
          cases blocked with
          | true => simp
          | false => simpa using grown
        refine ⟨(held_or _).trans few, ?_, Or.inr ⟨by rw [io]; exact live.1, ?_, ?_⟩⟩
        · intro record among
          split_ifs at among
          · cases among
          · rcases List.mem_append.mp among with earlier | last
            · exact covers.quiet record earlier
            · rw [List.mem_singleton.mp last]
              exact alone
        · rw [count]
          exact held_or _
        · rw [count]
          exact few

theorem covers_step {writer : ConnectionWriter} {held : List Record}
    (covers : Covers held writer) (operation : WriterOperation)
    (succeeds : ∀ call, operation = .writeRecordParts call →
      (writerMachine.event writer operation).output.succeeded = true) :
    Covers
      (if flushed (writerMachine.event writer operation) then []
        else held ++ wrote (writerMachine.event writer operation))
      (writerMachine.event writer operation).after := by
  have nothing (event : WriterEvent) (none : event.before.starts event.input = none) :
      wrote event = [] := by
    rw [wrote, none]
    split_ifs <;> rfl
  cases operation with
  | writeRecordParts call => exact writeRecordParts_covers covers (succeeds call rfl)
  | setFlushMode mode answer =>
      exact (setFlushMode_settles writer mode answer).covers covers (nothing _ rfl)
  | flush answer => exact (flush_settles writer answer).covers covers (nothing _ rfl)
  | setSendBodyLimit maximum =>
      exact (setSendBodyLimit_settles writer maximum).covers covers (nothing _ rfl)
  | requestShutdown =>
      exact Settles.covers (.same rfl rfl rfl) covers (nothing _ rfl)
  | shutdownState native =>
      exact (shutdownState_settles writer native).covers covers (nothing _ rfl)

theorem covers_run {start : ConnectionWriter} (covers : Covers [] start)
    (inputs : List WriterOperation) (succeed : WritesSucceed (writerMachine.history start inputs)) :
    Covers (unflushed (writerMachine.history start inputs)) (writerMachine.final start inputs) := by
  induction inputs using List.reverseRecOn with
  | nil => exact covers
  | append_singleton inputs operation ih =>
      rw [Machine.history_snoc] at succeed ⊢
      rw [Machine.final_snoc, unflushed_snoc]
      have past : WritesSucceed (writerMachine.history start inputs) := fun event among =>
        succeed event (List.mem_append_left _ among)
      apply covers_step (ih past) operation
      intro call same
      exact succeed _ (List.mem_append_right _ (List.mem_singleton.mpr rfl)) call same

theorem covers_connected {io : WriterIo} (carries : io.carries = true) (sendBodyLimit : UInt32)
    (mode : FlushMode) : Covers [] (.connected io sendBodyLimit mode) :=
  ⟨by simp, by simp, Or.inr ⟨carries, by simp, by simp [ConnectionWriter.connected]⟩⟩

/-- The peek finds the request of every envelope, however it is cut, so a run
whose write calls succeed leaves no record that waits for an answer unflushed,
and never more than 31 records. -/
theorem correlated_records_flushed :
    (∀ (envelope : Envelope) (body : List UInt8), envelope.encode = .ok body →
      ∀ (recordType : UInt16) (parts : List (List UInt8)), parts.flatten = body →
        (hasCorrelatedControlEnvelope recordType parts = true ↔
          recordType < 0x8000 ∧ envelope.requestId ≠ 0)) ∧
    ∀ (io : WriterIo), io.carries = true →
      ∀ (sendBodyLimit : UInt32) (mode : FlushMode) (inputs : List WriterOperation),
        let history := writerMachine.history (.connected io sendBodyLimit mode) inputs
        WritesSucceed history →
          (unflushed history).length ≤ 31 ∧ ∀ record ∈ unflushed history, ¬ Correlated record := by
  constructor
  · intro envelope body written recordType parts cut
    exact peek_of_encode written cut recordType
  · intro io carries sendBodyLimit mode inputs history succeed
    have covers := covers_run (covers_connected carries sendBodyLimit mode) inputs succeed
    exact ⟨covers.bounded, covers.quiet⟩

/-- A write of a record on a transport that takes all of it. -/
def wholeWrite (recordType : UInt16) (parts : List (List UInt8)) : WriterOperation :=
  .writeRecordParts
    { recordType := recordType
      flags := 0
      objectId := 0
      parts := parts
      checkpoint := false
      answers := [.accepted (HEADER_SIZE + parts.flatten.length)]
      flushed := some (.ok ())
      quietLoads := 5 }

/-- A request with a number of two bytes, cut inside that number, behind a
media record that is left in the buffer. -/
theorem correlated_records_flushed_request :
    (hasCorrelatedControlEnvelope 0x10 [[0xa2, 0, 0x19, 1], [], [44, 3, 0xa0]] = true ↔
      (0x10 : UInt16) < 0x8000 ∧ (300 : UInt64) ≠ 0) ∧
    (unflushed (writerMachine.history (.connected .tcp 1024 .batched)
      [wholeWrite 0x8001 [[1, 2]], wholeWrite 0x10 [[0xa2, 0, 0x19, 1], [], [44, 3, 0xa0]],
        wholeWrite 0x8001 [[3]]])).length ≤ 31 := by
  have written : (Envelope.new 300 []).encode = .ok [0xa2, 0, 0x19, 1, 44, 3, 0xa0] := rfl
  refine ⟨correlated_records_flushed.1 _ _ written 0x10 _ rfl,
    (correlated_records_flushed.2 .tcp rfl 1024 .batched _ ?_).1⟩
  intro event among call same
  have all : ((writerMachine.history (.connected .tcp 1024 .batched)
      [wholeWrite 0x8001 [[1, 2]], wholeWrite 0x10 [[0xa2, 0, 0x19, 1], [], [44, 3, 0xa0]],
        wholeWrite 0x8001 [[3]]]).all fun event => event.output.succeeded) = true := by
    decide +kernel
  exact List.all_eq_true.mp all event among

end VividProtocol.Wire
