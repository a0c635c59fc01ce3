import Mathlib.Tactic
import VividProtocol.Overlay.Wire.Styled

/-!
# Measurement batches

Batches of paragraphs, the geometry that answers them and the release of
retained layouts, from `overlay/styled.rs` and `overlay/text.rs`.  The limits of
a whole batch are those of its encoder, which every decoder runs once more.
-/

set_option autoImplicit false

namespace VividProtocol.Overlay.Wire

open VividProtocol.Cbor
open VividProtocol.Library.Result
open VividProtocol.Library.Codec

/-! ## Batches of paragraphs -/

structure MeasureBatch where
  address : WindowAddress
  texts : List StyledText
  retain : Bool
  deriving Repr, DecidableEq

/-- The bytes of a paragraph's runs. -/
def textBytesOf (text : StyledText) : Nat := (text.runs.map fun run => run.text.utf8ByteSize).sum

namespace MeasureBatch

/-- The loop of `payload`: every text is checked, its bytes and runs counted. -/
def tally : Nat × Nat → List StyledText → Except MessageError (Nat × Nat)
  | counts, [] => .ok counts
  | (bytes, runs), text :: rest => do
      text.validate
      tally (bytes + textBytesOf text, runs + text.runs.length) rest

def payload (batch : MeasureBatch) : Except MessageError PayloadMap := do
  batch.address.validate batch.address.surfaceId
  if batch.texts = [] ∨ MAX_TEXT_BATCH < batch.texts.length then
    .error (badOverlay 3 "text batch count limit")
  else do
    let (bytes, runs) ← tally (0, 0) batch.texts
    if MAX_MEASURE_TEXT_BYTES < bytes ∨ MAX_TEXT_RUNS < runs then
      .error (badOverlay 3 "aggregate batch limit")
    else do
      let texts ← collect StyledText.encode batch.texts
      .ok (batch.address.payload ++ [(3, .array texts), (4, .bool batch.retain)])

def decode (object : UInt64) (value : Value) : Except MessageError MeasureBatch := do
  let map ← strict value [0, 1, 2, 3, 4]
  let values ← arrayOr (← map.required 3) 3 "expected batch"
  if values = [] ∨ MAX_TEXT_BATCH < values.length then
    .error (badOverlay 3 "text batch count limit")
  else do
    let address ← WindowAddress.decode object map
    let texts ← collect StyledText.decode values
    let retain ← boolean (← map.required 4) 4
    let batch : MeasureBatch := { address := address, texts := texts, retain := retain }
    let _ ← batch.payload
    .ok batch

def fields (batch : MeasureBatch) : PayloadMap :=
  batch.address.payload ++
    [(3, .array (batch.texts.map StyledText.toValue)), (4, .bool batch.retain)]

variable {batch : MeasureBatch}

theorem tally_ok {texts : List StyledText} {counts totals : Nat × Nat}
    (counted : tally counts texts = .ok totals) :
    (∀ text ∈ texts, text.validate = .ok ()) ∧
      totals.1 = counts.1 + (texts.map textBytesOf).sum ∧
      totals.2 = counts.2 + (texts.map fun text => text.runs.length).sum := by
  induction texts generalizing counts with
  | nil =>
      cases counted
      simp
  | cons text rest ih =>
      obtain ⟨bytes, runs⟩ := counts
      obtain ⟨_, valid, later⟩ := bind_eq_ok_iff.mp counted
      obtain ⟨each, bytes, runs⟩ := ih later
      refine ⟨List.forall_mem_cons.mpr ⟨valid, each⟩, ?_, ?_⟩
      · rw [bytes, List.map_cons, List.sum_cons, Nat.add_assoc]
      · rw [runs, List.map_cons, List.sum_cons, Nat.add_assoc]

theorem collect_encode {texts : List StyledText}
    (valid : ∀ text ∈ texts, text.validate = .ok ()) :
    collect StyledText.encode texts = .ok (texts.map StyledText.toValue) := by
  induction texts with
  | nil => rfl
  | cons text rest ih =>
      have first := StyledText.encode_eq_ok.mpr ⟨valid text List.mem_cons_self, rfl⟩
      rw [collect, first, ok_bind, ih fun other among => valid other (List.mem_cons_of_mem _ among),
        ok_bind, List.map_cons]

/-- The limits of a batch that has a payload. -/
structure Limited (batch : MeasureBatch) : Prop where
  address : batch.address.Named
  some : batch.texts ≠ []
  few : batch.texts.length ≤ MAX_TEXT_BATCH
  each : ∀ text ∈ batch.texts, text.validate = .ok ()
  bytes : (batch.texts.map textBytesOf).sum ≤ MAX_MEASURE_TEXT_BYTES
  runs : (batch.texts.map fun text => text.runs.length).sum ≤ MAX_TEXT_RUNS

theorem payload_limited {entries : PayloadMap} (written : batch.payload = .ok entries) :
    batch.Limited ∧ entries = batch.fields := by
  unfold payload at written
  simp only [bind_eq_ok_iff, WindowAddress.validate_eq_ok, ite_error_eq_ok_iff, not_or,
    Nat.not_lt, Except.ok.injEq] at written
  obtain ⟨_, ⟨_, named⟩, ⟨some, few⟩, totals, counted, ⟨bytes, runs⟩, values, encoded, same⟩ :=
    written
  obtain ⟨each, bytesSum, runsSum⟩ := tally_ok counted
  rw [collect_encode each, Except.ok.injEq] at encoded
  rw [bytesSum, Nat.zero_add] at bytes
  rw [runsSum, Nat.zero_add] at runs
  refine ⟨⟨named, some, few, each, bytes, runs⟩, ?_⟩
  rw [← same, ← encoded]
  rfl

theorem decode_of_payload {entries : PayloadMap} (written : batch.payload = .ok entries) :
    decode batch.address.surfaceId (.map entries) = .ok batch := by
  obtain ⟨limited, same⟩ := payload_limited written
  have opened : strict (.map batch.fields) [0, 1, 2, 3, 4] = .ok _ :=
    strict_ok (List.Sublist.refl _) (by decide)
  have sized : ¬ (batch.texts.map StyledText.toValue = [] ∨
      MAX_TEXT_BATCH < (batch.texts.map StyledText.toValue).length) := by
    rw [List.map_eq_nil_iff, List.length_map]
    exact not_or.mpr ⟨limited.some, Nat.not_lt.mpr limited.few⟩
  rw [same]
  unfold decode
  rw [opened, ok_bind, @required_eq_ok 3 _ _ |>.mpr rfl, ok_bind, arrayOr_written, ok_bind,
    if_neg sized, fields, limited.address.decode_payload, ok_bind,
    collect_map fun text among => StyledText.decode_toValue (limited.each text among), ok_bind,
    @required_eq_ok 4 _ _ |>.mpr rfl, ok_bind, boolean_written, ok_bind]
  dsimp only
  rw [written, ok_bind]

theorem decode_payload {object : UInt64} {value : Value}
    (accepted : decode object value = .ok batch) :
    object = batch.address.surfaceId ∧ ∃ entries, batch.payload = .ok entries := by
  unfold decode at accepted
  simp only [bind_eq_ok_iff, ite_error_eq_ok_iff] at accepted
  obtain ⟨_, _, _, _, _, _, _, _, addressed, _, _, _, _, _, _, entries, written, same⟩ := accepted
  cases same
  exact ⟨(WindowAddress.decode_named addressed).1, entries, written⟩

theorem agrees :
    Agrees (fun batch : MeasureBatch => batch.address.surfaceId) Value.map payload decode :=
  ⟨decode_of_payload, decode_payload⟩

theorem Limited.fits (limited : batch.Limited) :
    (Value.map batch.fields).Fits (maxDepth + 1) := by
  have texts : (Value.array (batch.texts.map StyledText.toValue)).Fits 16 := by
    refine Value.fits_array.mpr ⟨?_, ?_⟩
    · have few := limited.few
      rw [List.length_map]
      unfold MAX_TEXT_BATCH at few
      unfold maxContainerLength
      omega
    · intro item among
      obtain ⟨text, inside, same⟩ := List.mem_map.mp among
      rw [← same]
      exact StyledText.toValue_fits 11 (limited.each text inside)
  refine @fits_payload 15 _ _ [0, 1, 2, 3, 4] (List.Sublist.refl _) (by decide) (by decide) ?_
  intro entry among
  simp only [List.mem_cons, List.not_mem_nil, or_false] at among
  rcases among with same | same
  · rw [same]
    exact texts
  · rw [same]
    exact Value.fits_bool _

theorem survives :
    Survives (fun batch : MeasureBatch => batch.address.surfaceId) Value.map payload decode :=
  .of_agrees agrees fun written => by
    obtain ⟨limited, same⟩ := payload_limited written
    rw [same]
    exact limited.fits

end MeasureBatch

end VividProtocol.Overlay.Wire
