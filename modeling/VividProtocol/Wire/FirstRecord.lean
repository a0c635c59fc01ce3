import Mathlib.Tactic
import VividProtocol.Wire.Preface
import VividProtocol.Wire.Stream

/-!
# The first record of a connection

Records are numbered from one whatever becomes of the calls, so exactly the
first record a writer starts can open a connection, and for one kind only.
-/

set_option autoImplicit false

namespace VividProtocol.Wire

open Library.Result Library.Transition

/-- The records of any run are numbered from one, and the writer stands at the
last of them. -/
theorem started_sequenced (io : WriterIo) (sendBodyLimit : UInt32) (flushMode : FlushMode)
    (operations : List WriterOperation) :
    let start := ConnectionWriter.connected io sendBodyLimit flushMode
    let records := started (writerMachine.history start operations)
    recordFormat.Sequenced 0 records ∧
      recordFormat.last 0 records =
        (writerMachine.final start operations).state.sendSequence := by
  intro start records
  induction operations using List.reverseRecOn with
  | nil => exact ⟨trivial, rfl⟩
  | append_singleton operations operation ih =>
      obtain ⟨sequenced, last⟩ := ih
      unfold records
      rw [Machine.history_snoc, Machine.final_snoc, started_snoc, Machine.event_before,
        Machine.event_input]
      cases writerStep_effect (writerMachine.final start operations) operation with
      | kept starts keeps =>
          rw [starts, Option.toList_none, List.append_nil]
          exact ⟨sequenced, last.trans keeps.sequence.symm⟩
      | record record _ starts _ follows sequence _ _ _ _ _ =>
          rw [starts, Option.toList_some]
          refine ⟨recordFormat.sequenced_snoc sequenced ?_, ?_⟩
          · rw [last]
            exact follows
          · rw [recordFormat.last_snoc]
            exact sequence.symm

theorem sequence_of_follows {sequence : UInt64} {record : Record}
    (follows : record.Follows sequence) :
    record.header.sequence.toNat = sequence.toNat + 1 :=
  checkedAdd_eq_some.mp follows.2

theorem sequence_later {sequence : UInt64} {records : List Record}
    (sequenced : recordFormat.Sequenced sequence records) {record : Record}
    (among : record ∈ records) : sequence.toNat < record.header.sequence.toNat := by
  induction records generalizing sequence with
  | nil => cases among
  | cons first rest ih =>
      have next := sequence_of_follows sequenced.1
      rcases List.mem_cons.mp among with rfl | later
      · omega
      · have after : first.header.sequence.toNat < record.header.sequence.toNat :=
          ih sequenced.2 later
        omega

theorem validateFirstRecord_eq_ok {kind : ConnectionKind} {header : RecordHeader} {done : Unit} :
    kind.validateFirstRecord header = .ok done ↔
      header.sequence = 1 ∧ header.recordType = kind.requiredFirstRecord ∧
        (kind = .control → header.objectId = 0) := by
  unfold ConnectionKind.validateFirstRecord
  simp only [ite_error_eq_ok_iff, not_or, not_not, not_and]
  constructor
  · rintro ⟨⟨first, typed⟩, object, -⟩
    exact ⟨first, typed, object⟩
  · rintro ⟨first, typed, object⟩
    exact ⟨⟨first, typed⟩, object, trivial⟩

theorem requiredFirstRecord_injective {kind other : ConnectionKind}
    (same : kind.requiredFirstRecord = other.requiredFirstRecord) : kind = other := by
  revert same
  cases kind <;> cases other <;> decide

/-- Of the records a writer starts, in whatever run, only the first can open a
connection; it does if it has the type of the kind, and for no other kind. -/
theorem first_record_decides (io : WriterIo) (sendBodyLimit : UInt32) (flushMode : FlushMode)
    (operations : List WriterOperation) :
    let records := started (writerMachine.history
      (.connected io sendBodyLimit flushMode) operations)
    ∀ record ∈ records, ∀ kind : ConnectionKind,
      (kind.validateFirstRecord record.header = .ok () ↔
        records.head? = some record ∧ record.header.recordType = kind.requiredFirstRecord ∧
          (kind = .control → record.header.objectId = 0)) ∧
      (kind.validateFirstRecord record.header = .ok () →
        ∀ other : ConnectionKind, other.validateFirstRecord record.header = .ok () →
          other = kind) := by
  intro records record among kind
  obtain ⟨sequenced, -⟩ := started_sequenced io sendBodyLimit flushMode operations
  have first : record.header.sequence = 1 ↔ records.head? = some record := by
    change recordFormat.Sequenced 0 records at sequenced
    cases known : records with
    | nil =>
        rw [known] at among
        cases among
    | cons head rest =>
        rw [known] at sequenced among
        have one : head.header.sequence.toNat = 0 + 1 := sequence_of_follows sequenced.1
        rw [List.head?_cons, Option.some.injEq]
        constructor
        · intro same
          rcases List.mem_cons.mp among with rfl | later
          · rfl
          · -- A record after the first is numbered above it.
            have above : head.header.sequence.toNat < record.header.sequence.toNat :=
              sequence_later sequenced.2 later
            rw [same, one] at above
            exact absurd above (by decide)
        · rintro rfl
          exact UInt64.toNat_inj.mp one
  refine ⟨?_, ?_⟩
  · rw [validateFirstRecord_eq_ok, first]
  · intro opens other opensOther
    have typed := (validateFirstRecord_eq_ok.mp opens).2.1
    have typedOther := (validateFirstRecord_eq_ok.mp opensOther).2.1
    exact requiredFirstRecord_injective (typedOther.symm.trans typed)

theorem first_record_decides_hello :
    ConnectionKind.validateFirstRecord .control
      { bodyLength := 1, recordType := HELLO, flags := 0, objectId := 0, sequence := 1 } =
        .ok () :=
  (first_record_decides .live 1024 .immediate
    [.writeRecordParts
      { recordType := HELLO
        flags := 0
        objectId := 0
        parts := [[0xa0]]
        checkpoint := false
        answers := [.accepted 25]
        flushed := some (.ok ())
        quietLoads := 5 }]
    ⟨{ bodyLength := 1, recordType := HELLO, flags := 0, objectId := 0, sequence := 1 }, [0xa0]⟩
    (by decide +kernel) .control).1.mpr ⟨by decide +kernel, rfl, fun _ => rfl⟩

end VividProtocol.Wire
