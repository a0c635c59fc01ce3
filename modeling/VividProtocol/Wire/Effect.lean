import Mathlib.Tactic
import VividProtocol.Wire.Writer

/-!
# What an operation does to the stream

An operation of the writer either starts a record, and then at most the bytes
of that record go to the transport, or puts nothing on it.
-/

set_option autoImplicit false

namespace VividProtocol.Wire

open Library.Result Library.Transition ConnectionWriter

/-! ## Starting a record -/

theorem addPartLength_eq_ok {length total : Nat} {part : List UInt8} :
    addPartLength length part = .ok total → total = length + part.length := by
  unfold addPartLength
  intro added
  split_ifs at added
  exact (Except.ok.inj added).symm

theorem foldlM_addPartLength {parts : List (List UInt8)} {start total : Nat}
    (folded : parts.foldlM addPartLength start = .ok total) :
    total = start + parts.flatten.length := by
  induction parts generalizing start with
  | nil => exact (Except.ok.inj folded).symm
  | cons part rest ih =>
      rw [List.foldlM_cons] at folded
      obtain ⟨length, added, folded⟩ := bind_eq_ok_iff.mp folded
      have first := addPartLength_eq_ok added
      rw [ih folded, first, List.flatten_cons, List.length_append, Nat.add_assoc]

theorem bodyLength_eq_ok {parts : List (List UInt8)} {length : UInt32}
    (counted : bodyLength parts = .ok length) :
    length.toNat = parts.flatten.length := by
  obtain ⟨total, folded, bounded⟩ := bind_eq_ok_iff.mp counted
  split_ifs at bounded with fits
  rw [← Except.ok.inj bounded, UInt32.toNat_ofNat_of_lt' fits,
    foldlM_addPartLength folded, Nat.zero_add]

/-- What is known of a record once it is started. -/
structure Started (writer : ConnectionWriter) (call : WriteCall) (header : RecordHeader) :
    Prop where
  free : writer.lock = .free
  opened : writer.state.closed = false
  recordType : header.recordType = call.recordType
  follows : Record.Follows writer.state.sendSequence ⟨header, call.parts.flatten⟩

theorem startRecord_eq_ok {writer : ConnectionWriter} {call : WriteCall}
    {header : RecordHeader} (started : writer.startRecord call = .ok header) :
    Started writer call header := by
  unfold ConnectionWriter.startRecord at started
  obtain ⟨-, started⟩ := ite_error_eq_ok_iff.mp started
  obtain ⟨flags, started⟩ := ite_error_eq_ok_iff.mp started
  cases counted : bodyLength call.parts with
  | error error =>
      rw [counted] at started
      cases started
  | ok length =>
      simp only [counted] at started
      obtain ⟨-, started⟩ := ite_error_eq_ok_iff.mp started
      cases lock : writer.lock with
      | held =>
          rw [lock] at started
          cases started
      | poisoned =>
          rw [lock] at started
          cases started
      | free =>
          simp only [lock] at started
          obtain ⟨opened, started⟩ := ite_error_eq_ok_iff.mp started
          rw [Bool.or_eq_true, not_or, Bool.not_eq_true] at opened
          obtain ⟨small, started⟩ := ite_error_eq_ok_iff.mp started
          cases next : checkedAdd writer.state.sendSequence 1 with
          | none =>
              rw [next] at started
              cases started
          | some sequence =>
              simp only [next, Except.ok.injEq] at started
              subst started
              refine ⟨lock, opened.1, rfl, ⟨?_, bodyLength_eq_ok counted, ?_⟩, next⟩
              · exact not_not.mp flags
              · exact UInt32.not_lt.mp (not_or.mp small).2

/-! ## Effects -/

/-- Everything given to the writer so far has gone through. -/
def Intact (writer : ConnectionWriter) : Prop :=
  writer.state.io.carries = true ∧ writer.lock = .free ∧ writer.transport.failures = 0

/-- The transport takes bytes in the operation, if the operation gets there. -/
def WriterOperation.offersBytes : WriterOperation → Bool
  | .writeRecordParts call => takesBytes call.answers
  | _ => false

/-- A failure the transport reports is one that the operation reports. -/
def Reported (writer : ConnectionWriter) (reply : Reply) (after : ConnectionWriter) : Prop :=
  writer.transport.failures ≤ after.transport.failures ∧
    (writer.transport.failures < after.transport.failures →
      ∃ error, reply = .failed error)

/-- Nothing is put on the transport and no sequence number is taken. -/
structure Keeps (writer : ConnectionWriter) (reply : Reply) (after : ConnectionWriter) :
    Prop where
  sequence : after.state.sendSequence = writer.state.sendSequence
  accepted : after.transport.accepted = writer.transport.accepted
  intact : Intact after → Intact writer
  reported : Reported writer reply after

inductive Effect (writer : ConnectionWriter) (operation : WriterOperation) (reply : Reply)
    (after : ConnectionWriter) : Prop where
  | kept
      (starts : writer.starts operation = none)
      (keeps : Keeps writer reply after)
  | record (record : Record) (taken : List UInt8)
      (starts : writer.starts operation = some record)
      (free : writer.lock = .free)
      (follows : record.Follows writer.state.sendSequence)
      (sequence : after.state.sendSequence = record.header.sequence)
      (accepted : after.transport.accepted = writer.transport.accepted ++ taken)
      (leading : taken <+: record.encode)
      (offered : taken = [] ↔
        (writer.state.io.carries && operation.offersBytes) = false)
      (intact : Intact after → Intact writer ∧ taken = record.encode)
      (reported : Reported writer reply after)

/-! ## The write call -/

theorem Outcome.Accounts.le {left taken : List UInt8} {before after : Nat}
    {outcome : Outcome} (accounts : outcome.Accounts left taken before after) :
    before ≤ after := by
  rcases outcome with (error | done) | _ | _
  · exact Nat.le_of_succ_le (Eq.ge accounts)
  · exact accounts.2.ge
  · exact Eq.ge accounts
  · exact accounts.elim

theorem writeWriterParts_spec (io : WriterIo) (header : RecordHeader)
    (parts : List (List UInt8)) (transport : Transport) (answers : List Answer) :
    let record : Record := ⟨header, parts.flatten⟩
    let answer := writeWriterParts io header.encode parts transport answers
    ∃ taken, taken <+: record.encode ∧
      answer.1.accepted = transport.accepted ++ taken ∧
      (taken = [] ↔ (io.carries && takesBytes answers) = false) ∧
      answer.2.Accounts (if io.carries then record.encode else []) taken
        transport.failures answer.1.failures := by
  intro record answer
  have whole : unwritten (header.encode :: parts) { partIndex := 0, partOffset := 0 } =
      record.encode := by
    simp [unwritten, Record.encode, record]
  have placed : Placed (header.encode :: parts) { partIndex := 0, partOffset := 0 } := by
    simp [Placed]
  have nonempty : record.encode ≠ [] := by
    apply List.ne_nil_of_length_pos
    rw [Record.length_encode]
    simp [HEADER_SIZE]
  cases carried : io.carries with
  | true =>
      have loop : answer = writeLoop (header.encode :: parts) answers
          { partIndex := 0, partOffset := 0 } transport := by
        cases io <;> first | rfl | cases carried
      obtain ⟨taken, leading, accepted, accounts⟩ :=
        writeLoop_spec (header.encode :: parts) answers transport placed
      have silent := writeLoop_silent_iff (header.encode :: parts) answers transport placed
        (by rw [whole]; exact nonempty)
      rw [whole] at leading accounts
      rw [accepted, List.append_right_eq_self] at silent
      refine ⟨taken, leading, ?_, ?_, ?_⟩
      · rw [loop, accepted]
      · rw [silent, Bool.true_and]
      · rw [loop]
        exact accounts
  | false =>
      have skipped : answer = (transport, .finished (.ok ())) := by
        cases io <;> first | rfl | cases carried
      refine ⟨[], List.nil_prefix, ?_, ?_, ?_⟩
      · rw [skipped, List.append_nil]
      · rw [Bool.false_and]
        simp
      · rw [skipped]
        exact ⟨rfl, rfl⟩

/-- A flush puts no bytes on the transport; a failed one is a failure. -/
theorem flushWriter_spec (io : WriterIo) (transport : Transport)
    (flushed : Option (Except IoError Unit)) :
    (flushWriter io transport flushed).1.accepted = transport.accepted ∧
      (flushWriter io transport flushed).2.Accounts [] [] transport.failures
        (flushWriter io transport flushed).1.failures := by
  cases io <;> rcases flushed with _ | (error | done) <;>
    simp [flushWriter, Outcome.Accounts]

/-! ## What leaves the stream alone -/

section Keeping

variable (writer : ConnectionWriter)

theorem Keeps.same_transport {reply : Reply} {after : ConnectionWriter}
    (sequence : after.state.sendSequence = writer.state.sendSequence)
    (transport : after.transport = writer.transport)
    (intact : Intact after → Intact writer) : Keeps writer reply after := by
  refine ⟨sequence, by rw [transport], intact, by rw [transport], ?_⟩
  intro failed
  rw [transport] at failed
  exact absurd failed (Nat.lt_irrefl _)

/-- A finish that leaves the stream alone and passes a failure on does so after
the flush as well. -/
theorem flushing_keeps (flushed : Option (Except IoError Unit))
    {finish : ConnectionWriter → Except IoError Unit → Reply × ConnectionWriter}
    (keeps : ∀ writer result, Keeps writer (finish writer result).1 (finish writer result).2)
    (fails : ∀ writer error, ∃ reason,
      (finish writer (.error error)).1 = .failed reason) :
    Keeps writer (writer.flushing flushed finish).1 (writer.flushing flushed finish).2 := by
  obtain ⟨accepted, accounts⟩ := flushWriter_spec writer.state.io writer.transport flushed
  unfold ConnectionWriter.flushing
  generalize flushWriter writer.state.io writer.transport flushed = answer at *
  obtain ⟨transport, outcome⟩ := answer
  cases outcome with
  | pending =>
      have same : transport.failures = writer.transport.failures := accounts
      refine ⟨rfl, accepted, ?_, same.ge, ?_⟩
      · intro intact
        cases intact.2.1
      · intro failed
        exact absurd same failed.ne'
  | panicked => exact accounts.elim
  | finished result =>
      have finished := keeps { writer with transport := transport } result
      cases result with
      | error error =>
          have failures : transport.failures = writer.transport.failures + 1 := accounts
          have bound : transport.failures ≤ _ := finished.reported.1
          refine ⟨finished.sequence, finished.accepted.trans accepted, ?_, ?_, ?_⟩
          · intro intact
            have none_failed : transport.failures = 0 := (finished.intact intact).2.2
            omega
          · dsimp only
            omega
          · intro _
            exact fails _ error
      | ok done =>
          have failures : transport.failures = writer.transport.failures := accounts.2
          refine ⟨finished.sequence, finished.accepted.trans accepted, ?_, ?_, ?_⟩
          · intro intact
            obtain ⟨carries, free, none_failed⟩ := finished.intact intact
            exact ⟨carries, free, failures.symm.trans none_failed⟩
          · exact failures.ge.trans finished.reported.1
          · intro failed
            exact finished.reported.2 (failures.le.trans_lt failed)

theorem endRecord_keeps (number : UInt64) (stopped : Bool) (result : Except IoError Unit) :
    Keeps writer (endRecord number stopped writer result).1
      (endRecord number stopped writer result).2 := by
  unfold ConnectionWriter.endRecord
  split_ifs
  · refine Keeps.same_transport writer rfl rfl ?_
    intro intact
    cases intact.1
  · cases result with
    | error error => exact Keeps.same_transport writer rfl rfl id
    | ok done => exact Keeps.same_transport writer rfl rfl id

theorem endRecord_fails (number : UInt64) (stopped : Bool) (error : IoError) :
    ∃ reason, (endRecord number stopped writer (.error error)).1 = .failed reason := by
  cases stopped
  · exact ⟨error, rfl⟩
  · exact ⟨writerClosedError, rfl⟩

theorem endFlush_keeps {update : WriterState → WriterState}
    (kept : ∀ state, (update state).io = state.io ∧
      (update state).sendSequence = state.sendSequence)
    (result : Except IoError Unit) :
    Keeps writer (endFlush update writer result).1 (endFlush update writer result).2 := by
  cases result with
  | error error => exact Keeps.same_transport writer rfl rfl id
  | ok done =>
      obtain ⟨io, sequence⟩ := kept { writer.state with unflushedRecords := 0 }
      refine Keeps.same_transport writer sequence rfl ?_
      intro intact
      have carries := intact.1
      dsimp only [endFlush] at carries
      rw [io] at carries
      exact ⟨carries, intact.2⟩

theorem whenOpen_keeps {action : Reply × ConnectionWriter}
    (keeps : Keeps writer action.1 action.2) :
    Keeps writer (writer.whenOpen action).1 (writer.whenOpen action).2 := by
  unfold ConnectionWriter.whenOpen
  cases lock : writer.lock with
  | held => exact Keeps.same_transport writer rfl rfl id
  | poisoned => exact Keeps.same_transport writer rfl rfl id
  | free =>
      dsimp only
      split_ifs
      · exact Keeps.same_transport writer rfl rfl id
      · exact keeps

theorem setFlushMode_keeps (mode : FlushMode) (flushed : Option (Except IoError Unit)) :
    Keeps writer (writer.setFlushMode mode flushed).1
      (writer.setFlushMode mode flushed).2 := by
  apply whenOpen_keeps
  split_ifs
  · apply flushing_keeps
    · intro writer result
      refine endFlush_keeps writer ?_ result
      intro state
      exact ⟨rfl, rfl⟩
    · intro writer error
      exact ⟨error, rfl⟩
  · exact Keeps.same_transport writer rfl rfl id

theorem flush_keeps (flushed : Option (Except IoError Unit)) :
    Keeps writer (writer.flush flushed).1 (writer.flush flushed).2 := by
  apply whenOpen_keeps
  apply flushing_keeps
  · intro writer result
    exact endFlush_keeps writer (fun state => ⟨rfl, rfl⟩) result
  · intro writer error
    exact ⟨error, rfl⟩

theorem setSendBodyLimit_keeps (maximum : UInt32) :
    Keeps writer (writer.setSendBodyLimit maximum).1
      (writer.setSendBodyLimit maximum).2 := by
  unfold ConnectionWriter.setSendBodyLimit
  split_ifs
  · exact Keeps.same_transport writer rfl rfl id
  · apply whenOpen_keeps
    exact Keeps.same_transport writer rfl rfl id

theorem shutdownState_keeps (native : Except IoError Unit) :
    Keeps writer (writer.shutdownState native).1 (writer.shutdownState native).2 := by
  unfold ConnectionWriter.shutdownState
  cases lock : writer.lock with
  | held =>
      dsimp only
      split_ifs
      · exact Keeps.same_transport writer rfl rfl id
      · exact Keeps.same_transport writer rfl rfl id
  | poisoned => exact Keeps.same_transport writer rfl rfl id
  | free =>
      refine Keeps.same_transport writer rfl rfl ?_
      intro intact
      cases intact.1

end Keeping

/-! ## The effect of every operation -/

/-- A record handed over without a failure, and what the rest of the call does
after it. -/
theorem Keeps.after_record {writer sent after : ConnectionWriter} {reply : Reply}
    {operation : WriterOperation} {record : Record} {taken : List UInt8}
    (keeps : Keeps sent reply after)
    (starts : writer.starts operation = some record)
    (follows : record.Follows writer.state.sendSequence)
    (sequence : sent.state.sendSequence = record.header.sequence)
    (accepted : sent.transport.accepted = writer.transport.accepted ++ taken)
    (leading : taken <+: record.encode)
    (offered : taken = [] ↔ (writer.state.io.carries && operation.offersBytes) = false)
    (free : writer.lock = .free)
    (io : sent.state.io = writer.state.io)
    (failures : sent.transport.failures = writer.transport.failures)
    (whole : taken = if writer.state.io.carries then record.encode else []) :
    Effect writer operation reply after := by
  refine .record record taken starts free follows (keeps.sequence.trans sequence)
    (keeps.accepted.trans accepted) leading offered ?_ ⟨?_, ?_⟩
  · intro intact
    obtain ⟨carries, -, none_failed⟩ := keeps.intact intact
    rw [io] at carries
    rw [whole, carries]
    exact ⟨⟨carries, free, failures.symm.trans none_failed⟩, rfl⟩
  · exact failures.ge.trans keeps.reported.1
  · intro failed
    exact keeps.reported.2 (failures.le.trans_lt failed)

theorem sendRecord_effect {writer : ConnectionWriter} {call : WriteCall}
    {header : RecordHeader} (begun : writer.startRecord call = .ok header) :
    Effect writer (.writeRecordParts call) (writer.sendRecord call header).1
      (writer.sendRecord call header).2 := by
  obtain ⟨free, -, -, follows⟩ := startRecord_eq_ok begun
  have starts : writer.starts (.writeRecordParts call) =
      some ⟨header, call.parts.flatten⟩ := by
    simp only [ConnectionWriter.starts, begun]
  obtain ⟨taken, leading, accepted, offered, accounts⟩ := writeWriterParts_spec
    writer.state.io header call.parts writer.transport call.answers
  unfold ConnectionWriter.sendRecord
  generalize writeWriterParts writer.state.io header.encode call.parts writer.transport
    call.answers = answer at *
  obtain ⟨transport, outcome⟩ := answer
  cases outcome with
  | pending =>
      have same : transport.failures = writer.transport.failures := accounts
      refine .record _ taken starts free follows rfl accepted leading offered ?_ ⟨same.ge, ?_⟩
      · intro intact
        cases intact.2.1
      · intro failed
        exact absurd same failed.ne'
  | panicked => exact accounts.elim
  | finished written =>
      by_cases stopped : writer.loads call 3 = true
      · simp only [stopped, if_true]
        refine .record _ taken starts free follows rfl accepted leading offered ?_
          ⟨accounts.le, ?_⟩
        · intro intact
          cases intact.1
        · intro _
          exact ⟨writerClosedError, rfl⟩
      · simp only [stopped, if_false, Bool.false_eq_true]
        cases written with
        | error error =>
            have failures : transport.failures = writer.transport.failures + 1 := accounts
            refine .record _ taken starts free follows rfl accepted leading offered ?_
              ⟨accounts.le, ?_⟩
            · intro intact
              have none_failed : transport.failures = 0 := intact.2.2
              omega
            · intro _
              exact ⟨error, rfl⟩
        | ok done =>
            dsimp only
            split_ifs
            · refine (flushing_keeps _ _ ?_ ?_).after_record starts follows rfl accepted
                leading offered free rfl accounts.2 accounts.1
              · intro writer result
                exact endRecord_keeps writer header.sequence _ result
              · intro writer error
                exact endRecord_fails writer header.sequence _ error
            · exact (Keeps.same_transport _ rfl rfl id).after_record starts follows rfl
                accepted leading offered free rfl accounts.2 accounts.1

theorem writerStep_effect (writer : ConnectionWriter) (operation : WriterOperation) :
    Effect writer operation (writer.apply operation).1 (writer.apply operation).2 := by
  cases operation with
  | writeRecordParts call =>
      cases begun : writer.startRecord call with
      | error reply =>
          have starts : writer.starts (.writeRecordParts call) = none := by
            simp only [ConnectionWriter.starts, begun]
          simp only [ConnectionWriter.apply, writeRecordPartsInner, begun]
          exact .kept starts (Keeps.same_transport writer rfl rfl id)
      | ok header =>
          simp only [ConnectionWriter.apply, writeRecordPartsInner, begun]
          exact sendRecord_effect begun
  | setFlushMode mode flushed => exact .kept rfl (setFlushMode_keeps writer mode flushed)
  | flush flushed => exact .kept rfl (flush_keeps writer flushed)
  | setSendBodyLimit maximum => exact .kept rfl (setSendBodyLimit_keeps writer maximum)
  | requestShutdown => exact .kept rfl (Keeps.same_transport writer rfl rfl id)
  | shutdownState native => exact .kept rfl (shutdownState_keeps writer native)

end VividProtocol.Wire
