import Mathlib.Tactic
import VividProtocol.FileDrop.Flow
import VividProtocol.Library.Credit
import VividProtocol.Resource

/-!
# Credit of channels and file transfers

Both flows are meters with a place, which is what was sent, and a limit, which
is the two maxima.  So their two ends agree however the updates between them are
delayed, repeated, lost or reordered.
-/

set_option autoImplicit false

namespace VividProtocol.FileDrop

open VividProtocol.Library.Credit

/-- The maxima of an update. -/
abbrev Maxima := UInt64 × UInt64

def amount (maxima : Maxima) : Nat × Nat := (maxima.1.toNat, maxima.2.toNat)

/-! ## Channels -/

def channelMeter : Meter ChannelFlow UInt32 Maxima ResourceError where
  admitRecord := ChannelFlow.admitRecord
  raise flow maxima := flow.raiseMaxima maxima.1 maxima.2

def channelSent (flow : ChannelFlow) : Nat × Nat :=
  (flow.sentBodyBytes.toNat, flow.sentMediaRecords.toNat)

def channelLimit (flow : ChannelFlow) : Nat × Nat :=
  (flow.maximumBodyBytes.toNat, flow.maximumMediaRecords.toNat)

def channelCost (bodyLength : UInt32) : Nat × Nat := (bodyLength.toNat, 1)

section Channels

variable {flow after : ChannelFlow} {bodyLength : UInt32}

theorem channel_admits (admits : channelMeter.Admits flow bodyLength after) :
    flow.Allows bodyLength ∧ flow.Charged bodyLength after := by
  change flow.admitRecord bodyLength = _ at admits
  rcases flow.admitRecord_cases bodyLength with ⟨other, allows, ends, charged⟩ | ⟨error, -, ends⟩
  · rw [ends] at admits
    cases admits
    exact ⟨allows, charged⟩
  · rw [ends] at admits
    cases admits

theorem channel_raised (flow : ChannelFlow) (maxima : Maxima) :
    channelSent (channelMeter.raise flow maxima) = channelSent flow ∧
      channelLimit (channelMeter.raise flow maxima) = channelLimit flow ⊔ amount maxima :=
  ⟨rfl, Prod.ext (toNat_max _ _) (toNat_max _ _)⟩

theorem channel_accounts : Accounts channelMeter channelSent channelLimit amount
    (fun sent bodyLength limit => sent + channelCost bodyLength ≤ limit)
    (fun sent bodyLength => sent + channelCost bodyLength) where
  determined := by
    intro flow other sent limit
    cases flow
    cases other
    simp only [channelSent, channelLimit, Prod.mk.injEq, UInt64.toNat_inj] at sent limit
    simp only [ChannelFlow.mk.injEq]
    exact ⟨sent.1, sent.2, limit.1, limit.2⟩
  admits := by
    intro flow bodyLength after admits
    obtain ⟨allows, charged⟩ := channel_admits admits
    refine ⟨⟨allows.bodyBytes, allows.records⟩, ?_, ?_⟩
    · exact Prod.ext charged.bodyBytes charged.records
    · unfold channelLimit
      rw [charged.maximumBodyBytes, charged.maximumMediaRecords]
  enabled := by
    intro flow bodyLength allowed
    rcases flow.admitRecord_cases bodyLength with ⟨after, -, ends, -⟩ | ⟨error, refused, -⟩
    · exact ⟨after, ends⟩
    · exact absurd ⟨allowed.1, allowed.2⟩ refused
  more := fun allowed wider => le_trans allowed wider
  raised := channel_raised

theorem channel_atomic : channelMeter.Atomic := by
  intro flow bodyLength error after refused
  change flow.admitRecord bodyLength = _ at refused
  rcases flow.admitRecord_cases bodyLength with ⟨other, -, ends, -⟩ | ⟨reason, -, ends⟩
  · rw [ends] at refused
    cases refused
  · rw [ends] at refused
    cases refused
    rfl

theorem channel_metering : Metering channelMeter channelSent channelLimit channelCost where
  charged := by
    intro flow bodyLength after admits
    obtain ⟨allowed, reached, kept⟩ := channel_accounts.admits admits
    rw [reached]
    exact ⟨rfl, kept, allowed⟩
  raised := by
    intro flow maxima
    obtain ⟨stays, grows⟩ := channel_raised flow maxima
    rw [grows]
    exact ⟨stays, le_sup_left⟩

/-- The flows that a channel's calls can make. -/
inductive ChannelMade : ChannelFlow → Prop where
  | created (maximumBodyBytes maximumMediaRecords : UInt64) :
      ChannelMade (.new maximumBodyBytes maximumMediaRecords)
  | admitted {flow : ChannelFlow} (made : ChannelMade flow) (bodyLength : UInt32) :
      ChannelMade (flow.admitRecord bodyLength).2
  | raised {flow : ChannelFlow} (made : ChannelMade flow) (bodyBytes records : UInt64) :
      ChannelMade (flow.raiseMaxima bodyBytes records)

theorem channel_within (made : ChannelMade flow) : channelSent flow ≤ channelLimit flow := by
  induction made with
  | created maximumBodyBytes maximumMediaRecords => exact ⟨Nat.zero_le _, Nat.zero_le _⟩
  | admitted made bodyLength ih =>
      exact channel_metering.within_admit channel_atomic _ bodyLength ih
  | raised made bodyBytes records ih =>
      exact channel_metering.within_raise _ (bodyBytes, records) ih

end Channels

/-! ## File transfers -/

/-- The offset and payload length of a data record. -/
abbrev DataRecord := UInt64 × UInt32

def fileMeter : Meter FileTransferFlow DataRecord Maxima MessageError where
  admitRecord flow record := flow.admitData record.1 record.2
  raise flow maxima := flow.raiseMaxima maxima.1 maxima.2

def fileSent (flow : FileTransferFlow) : Nat × Nat :=
  (flow.sentBodyBytes.toNat, flow.sentRecords.toNat)

def fileLimit (flow : FileTransferFlow) : Nat × Nat :=
  (flow.maximumBodyBytes.toNat, flow.maximumRecords.toNat)

def fileCost (record : DataRecord) : Nat × Nat :=
  (record.2.toNat + FILE_DATA_PREFIX_SIZE, 1)

/-- A place in the file, and what was sent to get there. -/
structure FilePlace where
  generation : FileTransferGeneration
  offset : Nat
  sent : Nat × Nat

def filePlace (flow : FileTransferFlow) : FilePlace :=
  { generation := flow.generation
    offset := flow.nextOffset.toNat
    sent := fileSent flow }

def FilePlace.moved (place : FilePlace) (record : DataRecord) : FilePlace :=
  { place with
    offset := place.offset + record.2.toNat
    sent := place.sent + fileCost record }

structure FileAllows (place : FilePlace) (record : DataRecord) (limit : Nat × Nat) : Prop where
  next : record.1.toNat = place.offset
  payload : record.2 ≠ 0
  reach : place.offset + record.2.toNat < 2 ^ 64
  credit : place.sent + fileCost record ≤ limit

section Files

variable {flow after : FileTransferFlow} {record : DataRecord}

theorem file_admits (admits : fileMeter.Admits flow record after) :
    flow.Allows record.1 record.2 ∧ flow.Charged record.2 after := by
  change flow.admitData record.1 record.2 = _ at admits
  rcases flow.admit_cases record.1 record.2 with
    ⟨other, allows, ends, charged⟩ | ⟨error, -, ends⟩
  · rw [ends] at admits
    cases admits
    exact ⟨allows, charged⟩
  · rw [ends] at admits
    cases admits

theorem file_raised (flow : FileTransferFlow) (maxima : Maxima) :
    filePlace (fileMeter.raise flow maxima) = filePlace flow ∧
      fileLimit (fileMeter.raise flow maxima) = fileLimit flow ⊔ amount maxima :=
  ⟨rfl, Prod.ext (toNat_max _ _) (toNat_max _ _)⟩

theorem file_accounts :
    Accounts fileMeter filePlace fileLimit amount FileAllows FilePlace.moved where
  determined := by
    intro flow other place limit
    cases flow
    cases other
    simp only [filePlace, fileSent, fileLimit, FilePlace.mk.injEq, Prod.mk.injEq,
      UInt64.toNat_inj] at place limit
    simp only [FileTransferFlow.mk.injEq]
    exact ⟨place.1, place.2.1, place.2.2.1, place.2.2.2, limit.1, limit.2⟩
  admits := by
    intro flow record after admits
    obtain ⟨allows, charged⟩ := file_admits admits
    refine ⟨⟨congrArg UInt64.toNat allows.next, allows.payload, allows.reach,
      allows.bodyBytes, allows.records⟩, ?_, ?_⟩
    · unfold filePlace FilePlace.moved fileSent fileCost
      rw [charged.generation, charged.nextOffset, charged.bodyBytes, charged.records]
      rfl
    · unfold fileLimit
      rw [charged.maximumBodyBytes, charged.maximumRecords]
  enabled := by
    intro flow record allowed
    rcases flow.admit_cases record.1 record.2 with ⟨after, -, ends, -⟩ | ⟨error, refused, -⟩
    · exact ⟨after, ends⟩
    · exact absurd ⟨UInt64.toNat_inj.mp allowed.next, allowed.payload, allowed.credit.1,
        allowed.credit.2, allowed.reach⟩ refused
  more := fun allowed wider =>
    ⟨allowed.next, allowed.payload, allowed.reach, le_trans allowed.credit wider⟩
  raised := file_raised

theorem file_atomic : fileMeter.Atomic := by
  intro flow record error after refused
  change flow.admitData record.1 record.2 = _ at refused
  rcases flow.admit_cases record.1 record.2 with ⟨other, -, ends, -⟩ | ⟨reason, -, ends⟩
  · rw [ends] at refused
    cases refused
  · rw [ends] at refused
    cases refused
    rfl

theorem file_metering : Metering fileMeter fileSent fileLimit fileCost where
  charged := by
    intro flow record after admits
    obtain ⟨allowed, reached, kept⟩ := file_accounts.admits admits
    have sent : fileSent after = fileSent flow + fileCost record :=
      congrArg FilePlace.sent reached
    rw [sent]
    exact ⟨rfl, kept, allowed.credit⟩
  raised := by
    intro flow maxima
    obtain ⟨stays, grows⟩ := file_raised flow maxima
    rw [grows]
    exact ⟨congrArg FilePlace.sent stays, le_sup_left⟩

/-- The flows that a transfer's calls can make. -/
inductive FileMade : FileTransferFlow → Prop where
  | created {generation : FileTransferGeneration}
      {resumeOffset maximumBodyBytes maximumRecords : UInt64} {flow : FileTransferFlow}
      (fresh : FileTransferFlow.new generation resumeOffset maximumBodyBytes maximumRecords =
        .ok flow) : FileMade flow
  | admitted {flow : FileTransferFlow} (made : FileMade flow) (offset : UInt64)
      (payloadLength : UInt32) : FileMade (flow.admitData offset payloadLength).2
  | raised {flow : FileTransferFlow} (made : FileMade flow) (bodyBytes records : UInt64) :
      FileMade (flow.raiseMaxima bodyBytes records)
  | advanced {flow : FileTransferFlow} (made : FileMade flow)
      (generation : FileTransferGeneration)
      (committedOffset maximumBodyBytes maximumRecords : UInt64) :
      FileMade (flow.advance generation committedOffset maximumBodyBytes maximumRecords).2

theorem file_within (made : FileMade flow) : fileSent flow ≤ fileLimit flow := by
  induction made with
  | created fresh =>
      obtain ⟨-, -, fresh⟩ := FileTransferFlow.new_eq_ok.mp fresh
      rw [fresh]
      exact ⟨Nat.zero_le _, Nat.zero_le _⟩
  | admitted made offset payloadLength ih =>
      exact file_metering.within_admit file_atomic _ (offset, payloadLength) ih
  | raised made bodyBytes records ih =>
      exact file_metering.within_raise _ (bodyBytes, records) ih
  | @advanced flow made generation committedOffset maximumBodyBytes maximumRecords ih =>
      rcases flow.advance_cases generation committedOffset maximumBodyBytes maximumRecords with
        ⟨after, ends, -, -, same⟩ | ⟨error, ends⟩
      · rw [ends, same]
        exact ⟨Nat.zero_le _, Nat.zero_le _⟩
      · rw [ends]
        exact ih

end Files

/-! ## Both flows -/

/-- The two ends of a file transfer, and those of a channel, agree in every
interleaving, and what the calls make never exceeds its maxima. -/
theorem flow_credit_agrees :
    (∀ (flow : FileTransferFlow) (moves : List (Move DataRecord Maxima)),
        Agreed fileMeter fileSent fileLimit fileCost flow moves) ∧
      (∀ (flow : ChannelFlow) (moves : List (Move UInt32 Maxima)),
        Agreed channelMeter channelSent channelLimit channelCost flow moves) ∧
      (∀ flow, FileMade flow → fileSent flow ≤ fileLimit flow) ∧
      (∀ flow, ChannelMade flow → channelSent flow ≤ channelLimit flow) ∧
      (∀ (flow after : FileTransferFlow) (offset : UInt64) (payloadLength : UInt32)
        (error : MessageError),
        flow.admitData offset payloadLength = (.error error, after) → after = flow) ∧
      ∀ (flow after : ChannelFlow) (bodyLength : UInt32) (error : ResourceError),
        flow.admitRecord bodyLength = (.error error, after) → after = flow :=
  ⟨agreed file_accounts.lawful file_atomic file_metering,
    agreed channel_accounts.lawful channel_atomic channel_metering,
    fun _ => file_within, fun _ => channel_within,
    fun flow after offset payloadLength error =>
      file_atomic flow (offset, payloadLength) error after,
    fun flow after bodyLength error => channel_atomic flow bodyLength error after⟩

/-- Two raises told in the wrong order, and a record admitted on the second. -/
def reorderedMoves {Record : Type} (record : Record) : List (Move Record Maxima) :=
  [.raise (100, 1), .raise (200, 2), .tell 1, .tell 0, .offer record]

/-- The record that was offered arrives, on a channel and in a file transfer. -/
theorem flow_credit_agrees_reordered :
    (∃ result, ((linkMachine channelMeter).event ((linkMachine channelMeter).final
        (Link.level (.new 0 0)) (reorderedMoves 150)) .arrive).output = .arrived result ∧
      result = .ok ()) ∧
    ∃ flow, FileTransferFlow.new .one 4096 0 0 = .ok flow ∧
      ∃ result, ((linkMachine fileMeter).event ((linkMachine fileMeter).final
          (Link.level flow) (reorderedMoves (4096, 100))) .arrive).output = .arrived result ∧
        result = .ok () ∧
        fileSent ((linkMachine fileMeter).final (Link.level flow)
            (reorderedMoves (4096, 100) ++ [.arrive])).receiver ≤
          fileLimit ((linkMachine fileMeter).final (Link.level flow)
            (reorderedMoves (4096, 100) ++ [.arrive])).receiver := by
  obtain ⟨files, channels, -⟩ := flow_credit_agrees
  constructor
  · have agreed := channels (.new 0 0) (reorderedMoves 150 ++ [.arrive])
    have last : (linkMachine channelMeter).event ((linkMachine channelMeter).final
        (Link.level (.new 0 0)) (reorderedMoves 150)) .arrive ∈
          (linkMachine channelMeter).history (Link.level (.new 0 0))
            (reorderedMoves 150 ++ [.arrive]) := by
      rw [(linkMachine _).history_snoc]
      exact List.mem_append_right _ (List.mem_singleton.mpr rfl)
    exact ⟨_, rfl, agreed.arrived _ last _ rfl⟩
  · refine ⟨_, rfl, ?_⟩
    have agreed := files ⟨.one, 4096, 0, 0, 0, 0⟩ (reorderedMoves (4096, 100) ++ [.arrive])
    have last : (linkMachine fileMeter).event ((linkMachine fileMeter).final
        (Link.level ⟨.one, 4096, 0, 0, 0, 0⟩) (reorderedMoves (4096, 100))) .arrive ∈
          (linkMachine fileMeter).history (Link.level ⟨.one, 4096, 0, 0, 0, 0⟩)
            (reorderedMoves (4096, 100) ++ [.arrive]) := by
      rw [(linkMachine _).history_snoc]
      exact List.mem_append_right _ (List.mem_singleton.mpr rfl)
    exact ⟨_, rfl, agreed.arrived _ last _ rfl, (agreed.bounded ⟨Nat.le_refl _, Nat.le_refl _⟩).2⟩

end VividProtocol.FileDrop
