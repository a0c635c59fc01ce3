import Mathlib.Tactic
import VividProtocol.Messages
import VividProtocol.Wire.Record

/-!
# File transfer flow

`FileTransferFlow` of `file_drop.rs`, and the prefix its records carry.  A record
is admitted at the next offset only, against cumulative credit; an advance starts
the next generation at an offset that was already reached.
-/

set_option autoImplicit false

namespace VividProtocol.FileDrop

open VividProtocol.Wire
open VividProtocol.Library.BigEndian VividProtocol.Library.Result

def FILE_DATA_PREFIX_SIZE : Nat := 16

/-! ## Records -/

def invalidIo (message : String) : IoError := ⟨.invalidData, message⟩

structure ParsedFileData where
  offset : UInt64
  data : List UInt8
  deriving Repr, DecidableEq

def fileDataPrefix (offset : UInt64) (dataLength : Nat) : Except IoError (List UInt8) :=
  if ¬ (dataLength < 2 ^ 32 ∧ dataLength ≠ 0) then
    .error (invalidIo "file data length is zero or exceeds u32")
  else if ¬ (dataLength + FILE_DATA_PREFIX_SIZE < 2 ^ 32 ∧
      dataLength + FILE_DATA_PREFIX_SIZE ≤ HARD_MAX_RECORD_BODY.toNat) then
    .error (invalidIo "file data body exceeds the hard record limit")
  else .ok (toBytes 8 offset.toNat ++ toBytes 4 dataLength ++ List.replicate 4 0)

def parseFileData (body : List UInt8) : Except IoError ParsedFileData :=
  if body.length < FILE_DATA_PREFIX_SIZE then
    .error (invalidIo "file data is shorter than its prefix")
  else
    let offset := UInt64.ofNat (ofBytes (body.take 8))
    let dataLength := ofBytes ((body.drop 8).take 4)
    if (body.drop 12).take 4 ≠ List.replicate 4 0 ∨ dataLength = 0 ∨
        dataLength ≠ body.length - FILE_DATA_PREFIX_SIZE then
      .error (invalidIo "file data has invalid length or reserved fields")
    else .ok { offset := offset, data := body.drop FILE_DATA_PREFIX_SIZE }

theorem fileDataPrefix_eq_ok {offset : UInt64} {dataLength : Nat} {bytes : List UInt8} :
    fileDataPrefix offset dataLength = .ok bytes ↔
      0 < dataLength ∧ dataLength + FILE_DATA_PREFIX_SIZE ≤ HARD_MAX_RECORD_BODY.toNat ∧
        bytes = toBytes 8 offset.toNat ++ toBytes 4 dataLength ++ List.replicate 4 0 := by
  have hard : HARD_MAX_RECORD_BODY.toNat < 2 ^ 32 := by decide
  unfold fileDataPrefix
  rw [ite_error_eq_ok_iff, ite_error_eq_ok_iff, Except.ok.injEq]
  constructor
  · rintro ⟨sized, fits, same⟩
    exact ⟨by omega, by omega, same.symm⟩
  · rintro ⟨some, fits, same⟩
    exact ⟨by omega, by omega, same.symm⟩

/-- A record is parsed as what it was built from. -/
theorem parseFileData_built {offset : UInt64} {data bytes : List UInt8}
    (built : fileDataPrefix offset data.length = .ok bytes) :
    parseFileData (bytes ++ data) = .ok { offset := offset, data := data } := by
  obtain ⟨some, fits, same⟩ := fileDataPrefix_eq_ok.mp built
  have hard : HARD_MAX_RECORD_BODY.toNat < 2 ^ 32 := by decide
  have word := offset.toNat_lt
  have size : (256 : Nat) ^ 4 = 2 ^ 32 := by norm_num
  have front : (toBytes 8 offset.toNat ++ (toBytes 4 data.length ++
      (List.replicate 4 0 ++ data))).take 8 = toBytes 8 offset.toNat :=
    List.take_left' (length_toBytes 8 _)
  have second : (toBytes 8 offset.toNat ++ (toBytes 4 data.length ++
      (List.replicate 4 0 ++ data))).drop 8 =
        toBytes 4 data.length ++ (List.replicate 4 0 ++ data) :=
    List.drop_left' (length_toBytes 8 _)
  have third : (toBytes 8 offset.toNat ++ (toBytes 4 data.length ++
      (List.replicate 4 0 ++ data))).drop 12 = List.replicate 4 0 ++ data := by
    rw [show 12 = 8 + 4 by rfl, ← List.drop_drop, second]
    exact List.drop_left' (length_toBytes 4 _)
  have rest : (toBytes 8 offset.toNat ++ (toBytes 4 data.length ++
      (List.replicate 4 0 ++ data))).drop FILE_DATA_PREFIX_SIZE = data := by
    rw [show FILE_DATA_PREFIX_SIZE = 12 + 4 by rfl, ← List.drop_drop, third]
    exact List.drop_left' List.length_replicate
  have whole : bytes ++ data = toBytes 8 offset.toNat ++ (toBytes 4 data.length ++
      (List.replicate 4 0 ++ data)) := by
    rw [same, List.append_assoc, List.append_assoc]
  have length : (bytes ++ data).length = FILE_DATA_PREFIX_SIZE + data.length := by
    rw [whole]
    simp [FILE_DATA_PREFIX_SIZE]
    omega
  have number : ofBytes (toBytes 4 data.length) = data.length :=
    ofBytes_toBytes 4 _ (by omega)
  have taken : (toBytes 4 data.length ++ (List.replicate 4 (0 : UInt8) ++ data)).take 4 =
      toBytes 4 data.length := List.take_left' (length_toBytes 4 _)
  have zeros : (List.replicate 4 (0 : UInt8) ++ data).take 4 = List.replicate 4 0 :=
    List.take_left' List.length_replicate
  have long : ¬ (bytes ++ data).length < FILE_DATA_PREFIX_SIZE := by omega
  have exact : ¬ (List.replicate 4 (0 : UInt8) ≠ List.replicate 4 0 ∨ data.length = 0 ∨
      data.length ≠ FILE_DATA_PREFIX_SIZE + data.length - FILE_DATA_PREFIX_SIZE) := by
    rw [not_or, not_or]
    exact ⟨by simp, by omega, by omega⟩
  unfold parseFileData
  rw [if_neg long, length, whole]
  dsimp only
  rw [front, second, third, rest, taken, zeros, number,
    ofBytes_toBytes 8 _ (lt_of_lt_of_le word (by norm_num)), UInt64.ofNat_toNat, if_neg exact]

/-! ## The flow -/

structure FileTransferFlow where
  generation : FileTransferGeneration
  nextOffset : UInt64
  sentBodyBytes : UInt64
  sentRecords : UInt64
  maximumBodyBytes : UInt64
  maximumRecords : UInt64
  deriving Repr, DecidableEq

namespace FileTransferFlow

def new (generation : FileTransferGeneration)
    (resumeOffset maximumBodyBytes maximumRecords : UInt64) :
    Except MessageError FileTransferFlow := do
  let _ ← orInvalid "file-transfer flow" 0 "has a zero generation" generation.requireNonzero
  if (decide (maximumBodyBytes = 0)) ≠ (decide (maximumRecords = 0)) then
    .error (invalidValue "file-transfer flow" 1 "has inconsistent zero credit")
  else
    .ok
      { generation := generation
        nextOffset := resumeOffset
        sentBodyBytes := 0
        sentRecords := 0
        maximumBodyBytes := maximumBodyBytes
        maximumRecords := maximumRecords }

/-- `checked_add` or an error of the data schema. -/
def addOr (left right : UInt64) (key : UInt64) (reason : String) :
    Except MessageError UInt64 :=
  match checkedAdd left right with
  | some total => .ok total
  | none => .error (invalidValue "FILE_DATA" key reason)

/-- The checks of `FileTransferFlow::admit`, with the flow they lead to. -/
def charge (flow : FileTransferFlow) (offset : UInt64) (payloadLength : UInt32) :
    Except MessageError (Unit × FileTransferFlow) :=
  if offset ≠ flow.nextOffset ∨ payloadLength = 0 then
    .error (invalidValue "FILE_DATA" 0 "has a nonsequential offset or empty payload")
  else do
    let bodyLength ← addOr payloadLength.toUInt64 (UInt64.ofNat FILE_DATA_PREFIX_SIZE) 1
      "body length overflows"
    let bodyBytes ← addOr flow.sentBodyBytes bodyLength 1 "byte counter overflows"
    let records ← addOr flow.sentRecords 1 1 "record counter overflows"
    if flow.maximumBodyBytes < bodyBytes ∨ flow.maximumRecords < records then
      .error (invalidValue "FILE_DATA" 1 "exceeds cumulative credit")
    else do
      let nextOffset ← addOr flow.nextOffset payloadLength.toUInt64 0 "file offset overflows"
      .ok ((),
        { flow with
          nextOffset := nextOffset
          sentBodyBytes := bodyBytes
          sentRecords := records })

/-- The last check comes before the first write. -/
def admitData (flow : FileTransferFlow) (offset : UInt64) (payloadLength : UInt32) :
    Except MessageError Unit × FileTransferFlow :=
  commit flow (flow.charge offset payloadLength)

def raiseMaxima (flow : FileTransferFlow) (bodyBytes records : UInt64) : FileTransferFlow :=
  { flow with
    maximumBodyBytes := max flow.maximumBodyBytes bodyBytes
    maximumRecords := max flow.maximumRecords records }

def advance (flow : FileTransferFlow) (generation : FileTransferGeneration)
    (committedOffset maximumBodyBytes maximumRecords : UInt64) :
    Except MessageError Unit × FileTransferFlow :=
  commit flow
    (do
      let expected ← orInvalid "ADVANCE_FILE_TRANSFER" 0 "generation exhausted"
        flow.generation.advance
      if generation ≠ expected ∨ flow.nextOffset < committedOffset then
        .error (invalidValue "ADVANCE_FILE_TRANSFER" 0
          "has a nonconsecutive generation or impossible offset")
      else do
        let next ← new generation committedOffset maximumBodyBytes maximumRecords
        .ok ((), next))

/-! ## What the flow admits -/

theorem new_eq_ok {generation : FileTransferGeneration}
    {resumeOffset maximumBodyBytes maximumRecords : UInt64} {flow : FileTransferFlow} :
    new generation resumeOffset maximumBodyBytes maximumRecords = .ok flow ↔
      generation.value ≠ 0 ∧ (maximumBodyBytes = 0 ↔ maximumRecords = 0) ∧
        flow = ⟨generation, resumeOffset, 0, 0, maximumBodyBytes, maximumRecords⟩ := by
  simp only [new, Counter.requireNonzero, bind_eq_ok_iff, orInvalid_eq_ok, ite_error_eq_ok_iff,
    Except.ok.injEq, ne_eq, not_not, decide_eq_decide]
  constructor
  · rintro ⟨checked, ⟨nonzero, -⟩, credit, built⟩
    exact ⟨nonzero, credit, built.symm⟩
  · rintro ⟨nonzero, credit, built⟩
    exact ⟨generation, ⟨nonzero, rfl⟩, credit, built.symm⟩

variable {flow : FileTransferFlow}

/-- The record is the next one, and within the credit. -/
structure Allows (flow : FileTransferFlow) (offset : UInt64) (payloadLength : UInt32) :
    Prop where
  next : offset = flow.nextOffset
  payload : payloadLength ≠ 0
  bodyBytes : flow.sentBodyBytes.toNat + (payloadLength.toNat + FILE_DATA_PREFIX_SIZE) ≤
    flow.maximumBodyBytes.toNat
  records : flow.sentRecords.toNat + 1 ≤ flow.maximumRecords.toNat
  reach : flow.nextOffset.toNat + payloadLength.toNat < 2 ^ 64

/-- The flow after one more record was charged to it. -/
structure Charged (flow : FileTransferFlow) (payloadLength : UInt32)
    (after : FileTransferFlow) : Prop where
  generation : after.generation = flow.generation
  nextOffset : after.nextOffset.toNat = flow.nextOffset.toNat + payloadLength.toNat
  bodyBytes : after.sentBodyBytes.toNat =
    flow.sentBodyBytes.toNat + (payloadLength.toNat + FILE_DATA_PREFIX_SIZE)
  records : after.sentRecords.toNat = flow.sentRecords.toNat + 1
  maximumBodyBytes : after.maximumBodyBytes = flow.maximumBodyBytes
  maximumRecords : after.maximumRecords = flow.maximumRecords

theorem addOr_eq_ok {left right key total : UInt64} {reason : String} :
    addOr left right key reason = .ok total ↔ total.toNat = left.toNat + right.toNat := by
  rw [← checkedAdd_eq_some]
  unfold addOr
  cases checkedAdd left right <;> simp

/-- The checks pass exactly for a record that is allowed. -/
theorem charge_eq_ok {offset : UInt64} {payloadLength : UInt32} :
    (∃ after, flow.charge offset payloadLength = .ok ((), after)) ↔
      flow.Allows offset payloadLength := by
  have width : payloadLength.toUInt64.toNat = payloadLength.toNat :=
    UInt32.toNat_toUInt64 payloadLength
  have header : (UInt64.ofNat FILE_DATA_PREFIX_SIZE).toNat = FILE_DATA_PREFIX_SIZE := rfl
  have sixteen : FILE_DATA_PREFIX_SIZE = 16 := rfl
  have one : (1 : UInt64).toNat = 1 := rfl
  have small := payloadLength.toNat_lt
  have bytesBound := flow.maximumBodyBytes.toNat_lt
  have recordsBound := flow.maximumRecords.toNat_lt
  unfold charge
  simp only [ite_error_eq_ok_iff, bind_eq_ok_iff, addOr_eq_ok, not_or, not_not, UInt64.not_lt,
    UInt64.le_iff_toNat_le, width, header, one]
  constructor
  · rintro ⟨after, ⟨next, payload⟩, bodyLength, body, bodyBytes, bytes, records, count,
      ⟨bytesFit, recordsFit⟩, nextOffset, reach, -⟩
    have bound := nextOffset.toNat_lt
    exact ⟨next, payload, by omega, by omega, by omega⟩
  · intro allows
    have bytes := allows.bodyBytes
    have records := allows.records
    have reach := allows.reach
    have body : (payloadLength.toUInt64 + UInt64.ofNat FILE_DATA_PREFIX_SIZE).toNat =
        payloadLength.toNat + FILE_DATA_PREFIX_SIZE := by
      rw [UInt64.toNat_add, width, header, Nat.mod_eq_of_lt (by omega)]
    have total : (flow.sentBodyBytes +
        (payloadLength.toUInt64 + UInt64.ofNat FILE_DATA_PREFIX_SIZE)).toNat =
        flow.sentBodyBytes.toNat + (payloadLength.toNat + FILE_DATA_PREFIX_SIZE) := by
      rw [UInt64.toNat_add, body, Nat.mod_eq_of_lt (by omega)]
    have count : (flow.sentRecords + 1).toNat = flow.sentRecords.toNat + 1 := by
      rw [UInt64.toNat_add, one, Nat.mod_eq_of_lt (by omega)]
    have next : (flow.nextOffset + payloadLength.toUInt64).toNat =
        flow.nextOffset.toNat + payloadLength.toNat := by
      rw [UInt64.toNat_add, width, Nat.mod_eq_of_lt (by omega)]
    refine ⟨_, ⟨allows.next, allows.payload⟩, _, body, _, total.trans ?_, _, count, ⟨?_, ?_⟩, _,
      next, rfl⟩
    · rw [body]
    · rw [total]
      exact bytes
    · rw [count]
      exact records

theorem charge_charged {offset : UInt64} {payloadLength : UInt32} {after : FileTransferFlow}
    (done : flow.charge offset payloadLength = .ok ((), after)) :
    flow.Charged payloadLength after := by
  have width : payloadLength.toUInt64.toNat = payloadLength.toNat :=
    UInt32.toNat_toUInt64 payloadLength
  have header : (UInt64.ofNat FILE_DATA_PREFIX_SIZE).toNat = FILE_DATA_PREFIX_SIZE := rfl
  have one : (1 : UInt64).toNat = 1 := rfl
  unfold charge at done
  simp only [ite_error_eq_ok_iff, bind_eq_ok_iff, addOr_eq_ok, width, header, one] at done
  obtain ⟨-, bodyLength, body, bodyBytes, bytes, records, count, -, nextOffset, reach,
    built⟩ := done
  cases built
  rw [body] at bytes
  exact ⟨rfl, reach, bytes, count, rfl, rfl⟩

/-- A record is charged when it is allowed, and otherwise refused without effect. -/
theorem admit_cases (flow : FileTransferFlow) (offset : UInt64) (payloadLength : UInt32) :
    (∃ after, flow.Allows offset payloadLength ∧
        flow.admitData offset payloadLength = (.ok (), after) ∧
        flow.Charged payloadLength after) ∨
      ∃ error, ¬ flow.Allows offset payloadLength ∧
        flow.admitData offset payloadLength = (.error error, flow) := by
  unfold admitData
  rcases commit_cases flow (flow.charge offset payloadLength) with
    ⟨error, failed, ends⟩ | ⟨done, after, charged, ends⟩
  · refine Or.inr ⟨error, ?_, ends⟩
    rw [← charge_eq_ok, failed]
    rintro ⟨after, impossible⟩
    cases impossible
  · exact Or.inl ⟨after, charge_eq_ok.mp ⟨after, charged⟩, ends, charge_charged charged⟩

/-- An advance starts the next generation afresh, or is refused without effect. -/
theorem advance_cases (flow : FileTransferFlow) (generation : FileTransferGeneration)
    (committedOffset maximumBodyBytes maximumRecords : UInt64) :
    (∃ after, flow.advance generation committedOffset maximumBodyBytes maximumRecords =
          (.ok (), after) ∧
        generation.toNat = flow.generation.toNat + 1 ∧
        committedOffset.toNat ≤ flow.nextOffset.toNat ∧
        after = ⟨generation, committedOffset, 0, 0, maximumBodyBytes, maximumRecords⟩) ∨
      ∃ error, flow.advance generation committedOffset maximumBodyBytes maximumRecords =
        (.error error, flow) := by
  unfold advance
  rcases commit_cases flow _ with ⟨error, -, ends⟩ | ⟨done, after, moved, ends⟩
  · exact Or.inr ⟨error, ends⟩
  · refine Or.inl ⟨after, ends, ?_⟩
    simp only [bind_eq_ok_iff, ite_error_eq_ok_iff, orInvalid_eq_ok, new_eq_ok, not_or, not_not,
      UInt64.not_lt] at moved
    obtain ⟨expected, advanced, ⟨same, committed⟩, next, ⟨-, -, built⟩, fresh⟩ := moved
    cases fresh
    rw [built, same]
    exact ⟨Counter.advance_eq_ok.mp advanced, UInt64.le_iff_toNat_le.mp committed, rfl⟩

end FileTransferFlow

end VividProtocol.FileDrop
