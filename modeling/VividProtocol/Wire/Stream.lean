import Mathlib.Tactic
import VividProtocol.Wire.Effect
import VividProtocol.Wire.Reader

/-!
# The byte stream of a writer

The bytes a transport has accepted are cut from the stream of the records the
writer started, numbered from one, as long as the transport takes nothing more
once it has reported a failure.  The writer itself stays open after a failed
write: its next record starts where the cut one ended.
-/

set_option autoImplicit false

namespace VividProtocol.Wire

open Library.Framing Library.Transition

/-! ## The law -/

/-- Bytes cut from a stream of numbered records, which a reader of any limits
therefore takes in order, none of them out of the middle of another. -/
structure CutFrom (records : List Record) (bytes : List UInt8) : Prop where
  sequenced : recordFormat.Sequenced 0 records
  leading : bytes <+: recordFormat.stream records
  read : ∀ limits, (readRecords limits bytes).1 <+: records ∧
    ∀ error, (readRecords limits bytes).2 = some error → Excused error

/-- Once the transport has failed a call, no later one puts bytes on it. -/
def SilentAfterFailure (history : List WriterEvent) : Prop :=
  ∀ past event future, history = past ++ event :: future → TransportFailed event →
    ∀ later ∈ future, later.after.transport.accepted = later.before.transport.accepted

/-- At every point of the run the transport's bytes are cut from the records
started so far, and a failure is the end of them. -/
def StreamLaw (start : ConnectionWriter) (operations : List WriterOperation) : Prop :=
  (∀ past, past <+: operations →
    CutFrom (started (writerMachine.history start past))
      (writerMachine.final start past).transport.accepted) ∧
    SilentAfterFailure (writerMachine.history start operations)

/-- A call that the writer's own checks let through, on a transport that has
failed before and now takes bytes again. -/
def Resumes (writer : ConnectionWriter) (operation : WriterOperation) : Prop :=
  0 < writer.transport.failures ∧ writer.state.io.carries = true ∧
    (writer.starts operation).isSome = true ∧ operation.offersBytes = true

/-! ## Failures -/

theorem Effect.failures_le {writer after : ConnectionWriter} {operation : WriterOperation}
    {reply : Reply} (effect : Effect writer operation reply after) :
    writer.transport.failures ≤ after.transport.failures := by
  cases effect with
  | kept starts keeps => exact keeps.reported.1
  | record _ _ _ _ _ _ _ _ _ _ reported => exact reported.1

theorem failures_le_before {writer : ConnectionWriter} {operations : List WriterOperation}
    {event : WriterEvent} (member : event ∈ writerMachine.history writer operations) :
    writer.transport.failures ≤ event.before.transport.failures := by
  induction operations generalizing writer with
  | nil => cases member
  | cons operation rest ih =>
      rcases List.mem_cons.mp member with rfl | later
      · exact le_rfl
      · exact (writerStep_effect writer operation).failures_le.trans (ih later)

theorem failed_reachable (start : ConnectionWriter)
    (clean : start.transport.failures = 0) (operations : List WriterOperation)
    (failed : 0 < (writerMachine.final start operations).transport.failures) :
    ∃ event ∈ writerMachine.history start operations, TransportFailed event := by
  induction operations using List.reverseRecOn with
  | nil => exact absurd clean failed.ne'
  | append_singleton operations operation ih =>
      rw [Machine.history_snoc]
      rw [Machine.final_snoc] at failed
      by_cases before : 0 < (writerMachine.final start operations).transport.failures
      · obtain ⟨event, member, broke⟩ := ih before
        exact ⟨event, List.mem_append_left _ member, broke⟩
      · refine ⟨_, List.mem_append_right _ (List.mem_singleton_self _), ?_⟩
        exact lt_of_le_of_lt (Nat.le_of_not_lt before) failed

/-! ## The ledger of started records -/

structure StreamLedger (history : List WriterEvent) (writer : ConnectionWriter) : Prop where
  sequenced : recordFormat.Sequenced 0 (started history)
  last : recordFormat.last 0 (started history) = writer.state.sendSequence
  leading : writer.transport.accepted <+: recordFormat.stream (started history)
  whole : Intact writer →
    writer.transport.accepted = recordFormat.stream (started history)

theorem streamLedger_connected (io : WriterIo) (sendBodyLimit : UInt32)
    (flushMode : FlushMode) :
    StreamLedger [] (.connected io sendBodyLimit flushMode) :=
  ⟨trivial, rfl, List.nil_prefix, fun _ => rfl⟩

theorem started_snoc (history : List WriterEvent) (event : WriterEvent) :
    started (history ++ [event]) =
      started history ++ (event.before.starts event.input).toList := by
  rw [started, List.filterMap_append, started]
  cases starts : event.before.starts event.input <;> simp [starts]

theorem StreamLedger.snoc {past : List WriterEvent} {writer : ConnectionWriter}
    (ledger : StreamLedger past writer) (operation : WriterOperation)
    (stays : ¬ Resumes writer operation) :
    StreamLedger (past ++ [writerMachine.event writer operation])
      (writerMachine.step writer operation).2 := by
  cases writerStep_effect writer operation with
  | kept starts keeps =>
      have same : started (past ++ [writerMachine.event writer operation]) =
          started past := by
        rw [started_snoc, Machine.event_before, Machine.event_input, starts,
          Option.toList_none, List.append_nil]
      refine ⟨?_, ?_, ?_, ?_⟩
      · rw [same]
        exact ledger.sequenced
      · rw [same, ledger.last]
        exact keeps.sequence.symm
      · rw [same]
        exact keeps.accepted ▸ ledger.leading
      · intro intact
        rw [same, ← ledger.whole (keeps.intact intact)]
        exact keeps.accepted
  | record record taken starts free follows sequence accepted leading offered intact _ =>
      have grown : started (past ++ [writerMachine.event writer operation]) =
          started past ++ [record] := by
        rw [started_snoc, Machine.event_before, Machine.event_input, starts,
          Option.toList_some]
      have stream := recordFormat.stream_snoc (started past) record
      refine ⟨?_, ?_, ?_, ?_⟩
      · rw [grown]
        apply recordFormat.sequenced_snoc ledger.sequenced
        rw [ledger.last]
        exact follows
      · rw [grown, recordFormat.last_snoc]
        exact sequence.symm
      · rw [grown, stream]
        refine accepted ▸ ?_
        by_cases silent : taken = []
        · rw [silent, List.append_nil]
          exact ledger.leading.trans (List.prefix_append _ _)
        · have offers := mt offered.mpr silent
          rw [Bool.not_eq_false, Bool.and_eq_true] at offers
          have clean : writer.transport.failures = 0 := by
            by_contra failed
            exact stays ⟨Nat.pos_of_ne_zero failed, offers.1, by rw [starts]; rfl, offers.2⟩
          rw [ledger.whole ⟨offers.1, free, clean⟩]
          exact (List.prefix_append_right_inj _).mpr leading
      · intro after
        obtain ⟨before, complete⟩ := intact after
        rw [grown, stream, ← ledger.whole before]
        rw [complete] at accepted
        exact accepted

theorem streamLedger_reachable {start : ConnectionWriter} (initial : StreamLedger [] start)
    (operations : List WriterOperation)
    (stays : ∀ event ∈ writerMachine.history start operations,
      ¬ Resumes event.before event.input) :
    StreamLedger (writerMachine.history start operations)
      (writerMachine.final start operations) := by
  induction operations using List.reverseRecOn with
  | nil => exact initial
  | append_singleton operations operation ih =>
      rw [Machine.history_snoc] at stays
      rw [Machine.history_snoc, Machine.final_snoc]
      apply StreamLedger.snoc
      · apply ih
        intro event member
        exact stays event (List.mem_append_left _ member)
      · exact stays (writerMachine.event (writerMachine.final start operations) operation)
          (List.mem_append_right _ (List.mem_singleton_self _))

theorem StreamLedger.cutFrom {history : List WriterEvent} {writer : ConnectionWriter}
    (ledger : StreamLedger history writer) :
    CutFrom (started history) writer.transport.accepted :=
  ⟨ledger.sequenced, ledger.leading, fun limits =>
    reads_records.readAll_cut limits ledger.sequenced ledger.leading⟩

/-! ## When the law holds -/

/-- On a failed transport a call puts bytes exactly when it resumes. -/
theorem silent_iff_of_failed {writer : ConnectionWriter} {operation : WriterOperation}
    (failed : 0 < writer.transport.failures) :
    (writerMachine.step writer operation).2.transport.accepted =
        writer.transport.accepted ↔ ¬ Resumes writer operation := by
  cases writerStep_effect writer operation with
  | kept starts keeps =>
      constructor
      · intro _ resumes
        have started := resumes.2.2.1
        rw [starts] at started
        cases started
      · intro _
        exact keeps.accepted
  | record record taken starts free follows sequence accepted leading offered intact _ =>
      have nothing : (writerMachine.step writer operation).2.transport.accepted =
          writer.transport.accepted ↔ taken = [] := by
        change (writer.apply operation).2.transport.accepted = _ ↔ _
        rw [accepted, List.append_right_eq_self]
      rw [nothing, offered]
      constructor
      · intro silent resumes
        rw [resumes.2.1, resumes.2.2.2] at silent
        cases silent
      · intro stays
        by_contra offers
        rw [Bool.not_eq_false, Bool.and_eq_true] at offers
        exact stays ⟨failed, offers.1, by rw [starts]; rfl, offers.2⟩

theorem stream_law_iff (io : WriterIo) (sendBodyLimit : UInt32) (flushMode : FlushMode)
    (operations : List WriterOperation) :
    StreamLaw (.connected io sendBodyLimit flushMode) operations ↔
      ∀ event ∈ writerMachine.history (.connected io sendBodyLimit flushMode) operations,
        ¬ Resumes event.before event.input := by
  constructor
  · intro law event member resumes
    obtain ⟨past, future, cut⟩ := List.append_of_mem member
    obtain ⟨first, operation, -, -, rfl, rfl, -⟩ := writerMachine.history_event cut
    obtain ⟨broken, earlier, failed⟩ :=
      failed_reachable (.connected io sendBodyLimit flushMode) rfl first resumes.1
    obtain ⟨before, between, split⟩ := List.append_of_mem earlier
    rw [split, List.append_assoc, List.cons_append] at cut
    have silent := law.2 before broken _ cut failed _
      (List.mem_append_right between List.mem_cons_self)
    exact (silent_iff_of_failed resumes.1).mp silent resumes
  · intro stays
    refine ⟨?_, ?_⟩
    · intro past leading
      obtain ⟨rest, rfl⟩ := leading
      apply StreamLedger.cutFrom
      apply streamLedger_reachable (streamLedger_connected io sendBodyLimit flushMode)
      intro event member
      apply stays
      rw [Machine.history_append]
      exact List.mem_append_left _ member
    · intro past event future cut failed later member
      obtain ⟨first, operation, second, -, rfl, rfl, rfl⟩ := writerMachine.history_event cut
      have inside := stays later (cut ▸
        List.mem_append_right _ (List.mem_cons_of_mem _ member))
      have bound := failures_le_before member
      have broken : 0 < later.before.transport.failures :=
        lt_of_lt_of_le (Nat.zero_lt_of_lt failed) bound
      obtain ⟨past, future, cut⟩ := List.append_of_mem member
      obtain ⟨earlier, next, rest, -, -, rfl, -⟩ := writerMachine.history_event cut
      exact (silent_iff_of_failed broken).mpr inside

/-- A write fails after ten bytes of the first header; the next call's record
is then read as the rest of that header. -/
theorem resumed_record_misread :
    let call (recordType : UInt16) (objectId : UInt64) (body : List UInt8)
        (answers : List Answer) : WriterOperation :=
      .writeRecordParts
        { recordType := recordType
          flags := 0
          objectId := objectId
          parts := [body]
          checkpoint := false
          answers := answers
          flushed := some (.ok ())
          quietLoads := 5 }
    let start := ConnectionWriter.connected .live 1024 .immediate
    let operations :=
      [call 0x10 1 [0xaa] [.accepted 10, .failed ⟨.other, "transport error"⟩],
        call 0x20 2 [0xbb] [.accepted 25]]
    readRecords [1024] (writerMachine.final start operations).transport.accepted =
        ([], some ⟨.invalidData, "presenter sequence is 0, expected 1"⟩) ∧
      ¬ StreamLaw start operations := by
  intro call start operations
  have misread : readRecords [1024]
      (writerMachine.final start operations).transport.accepted =
        ([], some ⟨.invalidData, "presenter sequence is 0, expected 1"⟩) := by
    decide +kernel
  refine ⟨misread, ?_⟩
  intro law
  have excused := ((law.1 operations List.prefix_rfl).read [1024]).2
  rw [misread] at excused
  rcases excused _ rfl with eof | large
  · cases eof
  · exact absurd large (by decide)

end VividProtocol.Wire
