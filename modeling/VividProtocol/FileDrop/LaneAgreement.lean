import Mathlib.Tactic
import VividProtocol.FileDrop.LaneRecords

/-!
# The lane records are read exactly

A body is read as a record exactly if the record is written as that body.
-/

set_option autoImplicit false

namespace VividProtocol.FileDrop

open VividProtocol.Cbor
open VividProtocol.Library.Result
open VividProtocol.Library.Association

/-! ## Bodies and their fields -/

section Bodies

variable {fields : PayloadMap} {body : List UInt8}

/-- A map that holds sorted fields is these fields. -/
theorem Holds.eq {entries : PayloadMap} (held : Holds (.map entries) fields)
    (sorted : (entries.map Prod.fst).Pairwise (· < ·))
    (ordered : (fields.map Prod.fst).Pairwise (· < ·)) : entries = fields := by
  obtain ⟨_, same, known, each⟩ := held
  cases same
  rw [← StrictMap.assemble_sorted sorted ordered fun entry among => known entry among]
  have own : assemble (fields.map Prod.fst) (fun key => fields.lookup key) = fields :=
    StrictMap.assemble_sorted ordered ordered fun entry among => List.mem_map_of_mem among
  refine Eq.trans (assemble_congr ?_) own
  intro key among
  obtain ⟨field, inside, same⟩ := List.mem_map.mp among
  rw [← same, each field inside, lookup_of_mem (ordered.imp UInt64.ne_of_lt) inside]

theorem encodeRaw_eq_ok : encodeRaw fields = .ok body ↔ encode (.map fields) = .ok body :=
  orEncodeError_eq_ok

/-- A body holds the fields of a record exactly if they are written as it. -/
theorem holds_iff (ordered : (fields.map Prod.fst).Pairwise (· < ·))
    (normal : Value.normEntries fields = fields) :
    (∃ value, decode body = .ok value ∧ Holds value fields) ↔ encodeRaw fields = .ok body := by
  rw [encodeRaw_eq_ok]
  constructor
  · intro read
    obtain ⟨value, decoded, held⟩ := read
    obtain ⟨entries, same, known, each⟩ := held
    rw [same] at decoded
    have sorted : (entries.map Prod.fst).Pairwise (· < ·) := by
      rw [← unsorted_eq_false, ← unsortedKeys_eq]
      exact (Value.fits_of_decode decoded).2.1
    have held : Holds (.map entries) fields := ⟨entries, rfl, known, each⟩
    rw [held.eq sorted ordered] at decoded
    exact encode_of_decode decoded
  · intro written
    have decoded := decode_of_encode written
    rw [Value.norm, normal] at decoded
    exact ⟨_, decoded, holds_self (ordered.imp UInt64.ne_of_lt)⟩

theorem decodeRaw_eq_ok {schema : String} {keys : List UInt64} {map : StrictMap} :
    decodeRaw schema keys body = .ok map ↔
      map.schema = schema ∧ decode body = .ok (.map map.entries) ∧
        ∀ entry ∈ map.entries, entry.1 ∈ keys := by
  simp only [decodeRaw, bind_eq_ok_iff, orDecodeError_eq_ok, StrictMap.new_eq_ok]
  constructor
  · intro read
    obtain ⟨value, decoded, named, same, known⟩ := read
    rw [same] at decoded
    exact ⟨named, decoded, known⟩
  · intro read
    obtain ⟨named, decoded, known⟩ := read
    exact ⟨_, decoded, named, rfl, known⟩

end Bodies

section Records

variable {body : List UInt8}

/-! ## Opening -/

namespace FileTransferOpen

variable {opening : FileTransferOpen}

theorem holds_iff :
    (∃ value, Cbor.decode body = .ok value ∧ Holds value opening.fields) ↔
      encodeRaw opening.fields = .ok body := by
  refine FileDrop.holds_iff ?_ rfl
  simp only [fields, List.map_cons, List.map_nil]
  decide

theorem exact : decode body = .ok opening ↔ opening.encode = .ok body := by
  unfold encode
  rw [check_bind_eq_ok_iff, ← holds_iff]
  unfold decode Holds
  simp only [bind_eq_ok_iff, decodeRaw_eq_ok, StrictMap.requiredU64_iff,
    StrictMap.requiredU32_eq_ok, StrictMap.requiredFixedBytes_eq_ok]
  constructor
  · intro read
    obtain ⟨map, ⟨_, decoded, known⟩, _, zero, _, one, _, two, _, twelve, _, thirteen, _, fourteen,
      _, three, _, four, _, five, _, six, _, seven, _, eight, _, nine, _, ten, _, eleven, _, valid,
      built⟩ := read
    cases built
    refine ⟨valid, _, decoded, _, rfl, known, ?_⟩
    simp only [fields, List.forall_mem_cons]
    exact ⟨zero, one, two, three, four, five, six, seven, eight, nine, ten, eleven, twelve,
      thirteen, fourteen, nofun⟩
  · intro written
    obtain ⟨valid, _, decoded, entries, same, known, held⟩ := written
    rw [same] at decoded
    simp only [fields, List.forall_mem_cons] at held
    obtain ⟨zero, one, two, three, four, five, six, seven, eight, nine, ten, eleven, twelve,
      thirteen, fourteen, _⟩ := held
    exact ⟨⟨"FILE_TRANSFER_OPEN", entries⟩, ⟨rfl, decoded, known⟩, _, zero, _, one, _, two, _,
      twelve, _, thirteen, _, fourteen, _, three, _, four, _, five, _, six, _, seven, _, eight, _,
      nine, _, ten, _, eleven, (), valid, rfl⟩

end FileTransferOpen

namespace FileTransferAccepted

variable {accepted : FileTransferAccepted}

theorem holds_iff :
    (∃ value, Cbor.decode body = .ok value ∧ Holds value accepted.fields) ↔
      encodeRaw accepted.fields = .ok body := by
  refine FileDrop.holds_iff ?_ rfl
  simp only [fields, List.map_cons, List.map_nil]
  decide

theorem encode_eq_ok :
    accepted.encode = .ok body ↔ (accepted.transferId ≠ 0 ∧ accepted.transferGeneration ≠ .zero) ∧
      encodeRaw accepted.fields = .ok body := by
  simp only [FileTransferAccepted.encode, bind_eq_ok_iff, requireNonzero_eq_ok,
    requireCounter_eq_ok]
  constructor
  · intro written
    obtain ⟨_, ⟨transfer, _⟩, _, generation, written⟩ := written
    exact ⟨⟨transfer, generation⟩, written⟩
  · intro written
    exact ⟨_, ⟨written.1.1, rfl⟩, (), written.1.2, written.2⟩

theorem exact : decode body = .ok accepted ↔ accepted.encode = .ok body := by
  rw [encode_eq_ok, ← holds_iff]
  unfold decode Holds
  simp only [bind_eq_ok_iff, decodeRaw_eq_ok, StrictMap.requiredU64_iff, requireNonzero_eq_ok,
    requireCounter_eq_ok]
  constructor
  · intro read
    obtain ⟨map, ⟨_, decoded, known⟩, _, zero, _, ⟨transfer, same⟩, _, one, _, two, _, generation,
      built⟩ := read
    cases same
    cases built
    refine ⟨⟨transfer, generation⟩, _, decoded, _, rfl, known, ?_⟩
    simp only [fields, List.forall_mem_cons]
    exact ⟨zero, one, two, nofun⟩
  · intro written
    obtain ⟨⟨transfer, generation⟩, _, decoded, entries, same, known, held⟩ := written
    rw [same] at decoded
    simp only [fields, List.forall_mem_cons] at held
    obtain ⟨zero, one, two, _⟩ := held
    exact ⟨⟨"FILE_TRANSFER_ACCEPTED", entries⟩, ⟨rfl, decoded, known⟩, _, zero, _,
      ⟨transfer, rfl⟩, _, one, _, two, (), generation, rfl⟩

end FileTransferAccepted

/-! ## Credit and finish -/

namespace MaximumFileData

variable {maximum : MaximumFileData}

theorem holds_iff :
    (∃ value, Cbor.decode body = .ok value ∧ Holds value maximum.fields) ↔
      encodeRaw maximum.fields = .ok body := by
  refine FileDrop.holds_iff ?_ rfl
  simp only [fields, List.map_cons, List.map_nil]
  decide

/-- What the encoder checks. -/
structure Valid (maximum : MaximumFileData) : Prop where
  transferId : maximum.transferId ≠ 0
  transferGeneration : maximum.transferGeneration ≠ .zero
  credit : ¬ (maximum.maximumBodyBytes = 0 ∨ maximum.maximumRecords = 0)

theorem encode_eq_ok :
    maximum.encode = .ok body ↔ maximum.Valid ∧ encodeRaw maximum.fields = .ok body := by
  simp only [MaximumFileData.encode, bind_eq_ok_iff, requireNonzero_eq_ok, requireCounter_eq_ok,
    ite_error_eq_ok_iff]
  constructor
  · intro written
    obtain ⟨_, ⟨transfer, _⟩, _, generation, credit, written⟩ := written
    exact ⟨⟨transfer, generation, credit⟩, written⟩
  · intro written
    obtain ⟨valid, written⟩ := written
    exact ⟨_, ⟨valid.transferId, rfl⟩, (), valid.transferGeneration, valid.credit, written⟩

theorem exact : decode body = .ok maximum ↔ maximum.encode = .ok body := by
  unfold decode
  simp only [bind_eq_ok_iff, decodeRaw_eq_ok, StrictMap.requiredU64_iff, requireNonzero_eq_ok]
  constructor
  · intro read
    obtain ⟨map, ⟨_, decoded, known⟩, _, zero, _, ⟨_, same⟩, _, one, _, two, _, three, _, written,
      built⟩ := read
    cases same
    cases built
    refine encode_eq_ok.mpr ⟨(encode_eq_ok.mp written).1, ?_⟩
    refine holds_iff.mp ⟨_, decoded, _, rfl, known, ?_⟩
    simp only [fields, List.forall_mem_cons]
    exact ⟨zero, one, two, three, nofun⟩
  · intro written
    obtain ⟨valid, sent⟩ := encode_eq_ok.mp written
    obtain ⟨_, decoded, entries, same, known, held⟩ := holds_iff.mpr sent
    rw [same] at decoded
    simp only [fields, List.forall_mem_cons] at held
    obtain ⟨zero, one, two, three, _⟩ := held
    exact ⟨⟨"MAX_FILE_DATA", entries⟩, ⟨rfl, decoded, known⟩, _, zero, _,
      ⟨valid.transferId, rfl⟩, _, one, _, two, _, three, body, written, rfl⟩

end MaximumFileData

namespace FileFinish

variable {finish : FileFinish}

theorem holds_iff :
    (∃ value, Cbor.decode body = .ok value ∧ Holds value finish.fields) ↔
      encodeRaw finish.fields = .ok body := by
  refine FileDrop.holds_iff ?_ rfl
  simp only [fields, List.map_cons, List.map_nil]
  decide

theorem encode_eq_ok :
    finish.encode = .ok body ↔ (finish.transferId ≠ 0 ∧ finish.transferGeneration ≠ .zero) ∧
      encodeRaw finish.fields = .ok body := by
  simp only [FileFinish.encode, bind_eq_ok_iff, requireNonzero_eq_ok, requireCounter_eq_ok]
  constructor
  · intro written
    obtain ⟨_, ⟨transfer, _⟩, _, generation, written⟩ := written
    exact ⟨⟨transfer, generation⟩, written⟩
  · intro written
    exact ⟨_, ⟨written.1.1, rfl⟩, (), written.1.2, written.2⟩

theorem exact : decode body = .ok finish ↔ finish.encode = .ok body := by
  rw [encode_eq_ok, ← holds_iff]
  unfold decode Holds
  simp only [bind_eq_ok_iff, decodeRaw_eq_ok, StrictMap.requiredU64_iff, requireNonzero_eq_ok,
    StrictMap.requiredFixedBytes_eq_ok, requireCounter_eq_ok]
  constructor
  · intro read
    obtain ⟨map, ⟨_, decoded, known⟩, _, zero, _, ⟨transfer, same⟩, _, one, _, two, _, three, _,
      generation, built⟩ := read
    cases same
    cases built
    refine ⟨⟨transfer, generation⟩, _, decoded, _, rfl, known, ?_⟩
    simp only [fields, List.forall_mem_cons]
    exact ⟨zero, one, two, three, nofun⟩
  · intro written
    obtain ⟨⟨transfer, generation⟩, _, decoded, entries, same, known, held⟩ := written
    rw [same] at decoded
    simp only [fields, List.forall_mem_cons] at held
    obtain ⟨zero, one, two, three, _⟩ := held
    exact ⟨⟨"FILE_FINISH", entries⟩, ⟨rfl, decoded, known⟩, _, zero, _, ⟨transfer, rfl⟩, _, one, _,
      two, _, three, (), generation, rfl⟩

end FileFinish

/-! ## Result and abort -/

namespace FileResult

variable {result : FileResult}

/-- What is written of a result, with its path. -/
def fields (result : FileResult) : PayloadMap :=
  result.entries ++ (result.committedPath.map fun path => (5, .text path)).toList

theorem holds_iff :
    (∃ value, Cbor.decode body = .ok value ∧ Holds value result.fields) ↔
      encodeRaw result.fields = .ok body := by
  unfold fields entries
  cases result.committedPath with
  | none =>
      refine FileDrop.holds_iff ?_ rfl
      simp only [Option.map_none, Option.toList_none, List.append_nil, List.map_cons, List.map_nil]
      decide
  | some path =>
      refine FileDrop.holds_iff ?_ rfl
      simp only [Option.map_some, Option.toList_some, List.cons_append, List.nil_append,
        List.map_cons, List.map_nil]
      decide

/-- What the encoder checks. -/
structure Valid (result : FileResult) : Prop where
  transferId : result.transferId ≠ 0
  transferGeneration : result.transferGeneration ≠ .zero
  finalName : result.validateFinalName = .ok ()
  committedPath : ∀ path ∈ result.committedPath,
    result.committed = true ∧ validateCommittedPath path result.finalName = .ok ()

theorem pathEntries_eq_ok {path : PayloadMap} :
    result.pathEntries = .ok path ↔
      (∀ path ∈ result.committedPath,
        result.committed = true ∧ validateCommittedPath path result.finalName = .ok ()) ∧
      (result.committedPath.map fun path => (5, Value.text path)).toList = path := by
  unfold pathEntries
  cases result.committedPath with
  | none => simp
  | some held => simp [ite_error_eq_ok_iff, check_bind_eq_ok_iff, and_assoc]

theorem encode_eq_ok :
    result.encode = .ok body ↔ result.Valid ∧ encodeRaw result.fields = .ok body := by
  simp only [FileResult.encode, bind_eq_ok_iff, requireNonzero_eq_ok, requireCounter_eq_ok,
    pathEntries_eq_ok]
  constructor
  · intro written
    obtain ⟨_, ⟨transfer, _⟩, _, generation, _, name, _, ⟨path, same⟩, written⟩ := written
    rw [← same] at written
    exact ⟨⟨transfer, generation, name, path⟩, written⟩
  · intro written
    obtain ⟨valid, written⟩ := written
    exact ⟨_, ⟨valid.transferId, rfl⟩, (), valid.transferGeneration, (), valid.finalName, _,
      ⟨valid.committedPath, rfl⟩, written⟩

/-- The path stands under its key, or the key is not there. -/
theorem held_iff {entries : PayloadMap} :
    ((∀ entry ∈ entries, entry.1 ∈ result.fields.map Prod.fst) ∧
        ∀ field ∈ result.fields, entries.lookup field.1 = some field.2) ↔
      (∀ entry ∈ entries, entry.1 ∈ [0, 1, 2, 3, 4, 5]) ∧
        (∀ field ∈ result.entries, entries.lookup field.1 = some field.2) ∧
        entries.lookup 5 = result.committedPath.map .text := by
  unfold fields
  cases result.committedPath with
  | none =>
      simp only [Option.map_none, Option.toList_none, List.append_nil]
      constructor
      · intro held
        obtain ⟨known, each⟩ := held
        have keys : result.entries.map Prod.fst = [0, 1, 2, 3, 4] := rfl
        rw [keys] at known
        refine ⟨fun entry among => ?_, each, ?_⟩
        · have four := known entry among
          simp only [List.mem_cons, List.not_mem_nil, or_false] at four ⊢
          tauto
        · refine List.lookup_eq_none_iff.mpr fun entry among => ?_
          have four := known entry among
          refine bne_iff_ne.mpr ?_
          rintro same
          rw [← same] at four
          exact absurd four (by decide)
      · intro held
        obtain ⟨known, each, absent⟩ := held
        refine ⟨fun entry among => ?_, each⟩
        have five := known entry among
        have other := bne_iff_ne.mp (List.lookup_eq_none_iff.mp absent entry among)
        have keys : result.entries.map Prod.fst = [0, 1, 2, 3, 4] := rfl
        rw [keys]
        simp only [List.mem_cons, List.not_mem_nil, or_false] at five ⊢
        have differs := Ne.symm other
        tauto
  | some path =>
      simp only [Option.map_some, Option.toList_some, List.forall_mem_append, List.forall_mem_cons]
      constructor
      · intro held
        obtain ⟨known, each, five, _⟩ := held
        exact ⟨known, each, five⟩
      · intro held
        obtain ⟨known, each, five⟩ := held
        exact ⟨known, each, five, nofun⟩

theorem exact : decode body = .ok result ↔ result.encode = .ok body := by
  unfold decode
  simp only [bind_eq_ok_iff, decodeRaw_eq_ok, StrictMap.requiredU64_iff,
    StrictMap.requiredText_eq_ok, StrictMap.optionalText_eq_ok, FileResultCode.tryFrom_eq_ok]
  constructor
  · intro read
    obtain ⟨map, ⟨_, decoded, known⟩, _, zero, _, one, _, two, _, code, _, three, _, four, _, five,
      _, written, built⟩ := read
    cases code
    cases built
    refine encode_eq_ok.mpr ⟨(encode_eq_ok.mp written).1, ?_⟩
    refine holds_iff.mp ⟨_, decoded, _, rfl, held_iff.mpr ⟨known, ?_, five⟩⟩
    simp only [entries, List.forall_mem_cons]
    exact ⟨zero, one, two, three, four, nofun⟩
  · intro written
    obtain ⟨valid, sent⟩ := encode_eq_ok.mp written
    obtain ⟨_, decoded, held, same, all⟩ := holds_iff.mpr sent
    rw [same] at decoded
    obtain ⟨known, each, five⟩ := held_iff.mp all
    simp only [entries, List.forall_mem_cons] at each
    obtain ⟨zero, one, two, three, four, _⟩ := each
    exact ⟨⟨"FILE_RESULT", held⟩, ⟨rfl, decoded, known⟩, _, zero, _, one, _, two, _, rfl, _, three,
      _, four, _, five, body, written, rfl⟩

end FileResult

namespace FileTransferAbort

variable {abort : FileTransferAbort}

theorem holds_iff :
    (∃ value, Cbor.decode body = .ok value ∧ Holds value abort.fields) ↔
      encodeRaw abort.fields = .ok body := by
  refine FileDrop.holds_iff ?_ rfl
  simp only [fields, List.map_cons, List.map_nil]
  decide

/-- What the encoder checks. -/
structure Valid (abort : FileTransferAbort) : Prop where
  transferId : abort.transferId ≠ 0
  transferGeneration : abort.transferGeneration ≠ .zero
  reason : ¬ 7 < abort.reason

theorem encode_eq_ok :
    abort.encode = .ok body ↔ abort.Valid ∧ encodeRaw abort.fields = .ok body := by
  simp only [FileTransferAbort.encode, bind_eq_ok_iff, requireNonzero_eq_ok, requireCounter_eq_ok,
    ite_error_eq_ok_iff]
  constructor
  · intro written
    obtain ⟨_, ⟨transfer, _⟩, _, generation, reason, written⟩ := written
    exact ⟨⟨transfer, generation, reason⟩, written⟩
  · intro written
    obtain ⟨valid, written⟩ := written
    exact ⟨_, ⟨valid.transferId, rfl⟩, (), valid.transferGeneration, valid.reason, written⟩

theorem exact : decode body = .ok abort ↔ abort.encode = .ok body := by
  unfold decode
  simp only [bind_eq_ok_iff, decodeRaw_eq_ok, StrictMap.requiredU64_iff]
  constructor
  · intro read
    obtain ⟨map, ⟨_, decoded, known⟩, _, zero, _, one, _, two, _, three, _, written, built⟩ := read
    cases built
    refine encode_eq_ok.mpr ⟨(encode_eq_ok.mp written).1, ?_⟩
    refine holds_iff.mp ⟨_, decoded, _, rfl, known, ?_⟩
    simp only [fields, List.forall_mem_cons]
    exact ⟨zero, one, two, three, nofun⟩
  · intro written
    obtain ⟨_, decoded, entries, same, known, held⟩ :=
      holds_iff.mpr (encode_eq_ok.mp written).2
    rw [same] at decoded
    simp only [fields, List.forall_mem_cons] at held
    obtain ⟨zero, one, two, three, _⟩ := held
    exact ⟨⟨"FILE_TRANSFER_ABORT", entries⟩, ⟨rfl, decoded, known⟩, _, zero, _, one, _, two, _,
      three, body, written, rfl⟩

end FileTransferAbort

end Records

/-! ## All lane records -/

inductive LaneRecord where
  | opening
  | accepted
  | maximum
  | finish
  | result
  | abort
  deriving Repr, DecidableEq

namespace LaneRecord

abbrev Record : LaneRecord → Type
  | opening => FileTransferOpen
  | accepted => FileTransferAccepted
  | maximum => MaximumFileData
  | finish => FileFinish
  | result => FileResult
  | abort => FileTransferAbort

def encode : (kind : LaneRecord) → kind.Record → Except MessageError (List UInt8)
  | opening => FileTransferOpen.encode
  | accepted => FileTransferAccepted.encode
  | maximum => MaximumFileData.encode
  | finish => FileFinish.encode
  | result => FileResult.encode
  | abort => FileTransferAbort.encode

def decode : (kind : LaneRecord) → List UInt8 → Except MessageError kind.Record
  | opening => FileTransferOpen.decode
  | accepted => FileTransferAccepted.decode
  | maximum => MaximumFileData.decode
  | finish => FileFinish.decode
  | result => FileResult.decode
  | abort => FileTransferAbort.decode

end LaneRecord

/-- A body is read as a record exactly if the record is written as that body: no
other bytes stand for it, and nothing is written that is not read. -/
theorem lane_records_exact_iff (kind : LaneRecord) (record : kind.Record) (body : List UInt8) :
    kind.decode body = .ok record ↔ kind.encode record = .ok body := by
  cases kind with
  | opening => exact FileTransferOpen.exact
  | accepted => exact FileTransferAccepted.exact
  | maximum => exact MaximumFileData.exact
  | finish => exact FileFinish.exact
  | result => exact FileResult.exact
  | abort => exact FileTransferAbort.exact

end VividProtocol.FileDrop
