import Mathlib.Tactic
import VividProtocol.Control.Maps
import VividProtocol.Input.Payload

/-!
# Desktop targets

The output and target descriptors of `target.rs` with their maps.  An output is
read if its extent and scale are positive; the check of a whole target looks at
neither.
-/

set_option autoImplicit false

namespace VividProtocol.Desktop

open VividProtocol.Input
open VividProtocol.Library.Result
open VividProtocol.Library.Codec

/-- `Rotation` of `geometry.rs`. -/
inductive Rotation where
  | none
  | ninety
  | oneEighty
  | twoSeventy
  deriving Repr, DecidableEq

namespace Rotation

def toWord : Rotation → UInt64
  | .none => 0
  | .ninety => 90
  | .oneEighty => 180
  | .twoSeventy => 270

def tryFrom (value : UInt64) : Except MessageError Rotation :=
  if value = 0 then .ok .none
  else if value = 90 then .ok .ninety
  else if value = 180 then .ok .oneEighty
  else if value = 270 then .ok .twoSeventy
  else .error (invalidValue "rotation" 0 "must be 0, 90, 180, or 270 degrees")

end Rotation

/-! ## Signed words -/

/-- `i32::try_from`. -/
def narrow (value : Int64) : Option Int32 :=
  if -2 ^ 31 ≤ value.toInt ∧ value.toInt < 2 ^ 31 then some value.toInt32 else none

/-- `required_i32`, which both files have with the name of their own schema. -/
def requiredI32 (schema : String) (map : StrictMap) (key : UInt64) :
    Except MessageError Int32 := do
  let value ← map.required key
  match value.asI64.bind narrow with
  | some value => .ok value
  | none => .error (invalidValue schema key "must fit in a signed 32-bit integer")

/-- `i64::checked_add`. -/
def checkedAddI64 (left right : Int) : Option Int :=
  if -2 ^ 63 ≤ left + right ∧ left + right < 2 ^ 63 then some (left + right) else none

/-! ## Outputs -/

structure OutputDescriptor where
  outputId : UInt64
  originX : Int32
  originY : Int32
  width : UInt32
  height : UInt32
  scaleNumerator : UInt32
  scaleDenominator : UInt32
  rotation : Rotation
  primary : Bool
  deriving Repr, DecidableEq

namespace OutputDescriptor

def fields (output : OutputDescriptor) : PayloadMap :=
  [(0, .unsigned output.outputId),
    (1, signed output.originX.toInt64),
    (2, signed output.originY.toInt64),
    (3, .unsigned output.width.toUInt64),
    (4, .unsigned output.height.toUInt64),
    (5, .unsigned output.scaleNumerator.toUInt64),
    (6, .unsigned output.scaleDenominator.toUInt64),
    (7, .unsigned output.rotation.toWord),
    (8, .bool output.primary)]

def encode (output : OutputDescriptor) : Cbor.Value := .map output.fields

def decode (value : Cbor.Value) : Except MessageError OutputDescriptor := do
  let map ← StrictMap.new "output descriptor" value [0, 1, 2, 3, 4, 5, 6, 7, 8]
  let outputId ← map.requiredU64 0
  let originX ← requiredI32 "desktop target" map 1
  let originY ← requiredI32 "desktop target" map 2
  let width ← map.requiredU32 3
  let height ← map.requiredU32 4
  let scaleNumerator ← map.requiredU32 5
  let scaleDenominator ← map.requiredU32 6
  let degrees ← map.requiredU64 7
  let rotation ← Rotation.tryFrom degrees
  let primary ← map.requiredBool 8
  if width = 0 ∨ height = 0 then
    .error (invalidValue "output descriptor" 3 "output extent must be nonzero")
  else if scaleNumerator = 0 ∨ scaleDenominator = 0 then
    .error (invalidValue "output descriptor" 5 "output scale must be a positive ratio")
  else
    .ok
      { outputId := outputId
        originX := originX
        originY := originY
        width := width
        height := height
        scaleNumerator := scaleNumerator
        scaleDenominator := scaleDenominator
        rotation := rotation
        primary := primary }

/-- The right and bottom edges. -/
def extent (output : OutputDescriptor) : Except MessageError (Int × Int) :=
  match checkedAddI64 output.originX.toInt output.width.toNat with
  | none => .error (invalidValue "output descriptor" 1 "origin plus width overflows")
  | some right =>
      match checkedAddI64 output.originY.toInt output.height.toNat with
      | none => .error (invalidValue "output descriptor" 2 "origin plus height overflows")
      | some bottom => .ok (right, bottom)

end OutputDescriptor

/-! ## Targets -/

structure DesktopTarget where
  originX : Int32
  originY : Int32
  width : UInt32
  height : UInt32
  outputs : List OutputDescriptor
  settled : Bool
  topologyRevision : UInt64
  deriving Repr, DecidableEq

namespace DesktopTarget

def encode (target : DesktopTarget) : PayloadMap :=
  [(0, signed target.originX.toInt64),
    (1, signed target.originY.toInt64),
    (2, .unsigned target.width.toUInt64),
    (3, .unsigned target.height.toUInt64),
    (4, .array (target.outputs.map OutputDescriptor.encode)),
    (5, .bool target.settled),
    (6, .unsigned target.topologyRevision)]

/-- The loop over the outputs, with those before the current one. -/
def checkOutputs (target : DesktopTarget) (virtualRight virtualBottom : Int) :
    List OutputDescriptor → List OutputDescriptor → Except MessageError Unit
  | _, [] => .ok ()
  | earlier, output :: rest =>
      if (earlier.any fun other => decide (other.outputId = output.outputId)) = true then
        .error (invalidValue "desktop target" 4 "output IDs must be unique within a topology")
      else do
        let (right, bottom) ← output.extent
        if output.originX.toInt < target.originX.toInt ∨
            output.originY.toInt < target.originY.toInt ∨
            virtualRight < right ∨ virtualBottom < bottom then
          .error (invalidValue "desktop target" 4
            "output lies outside the virtual desktop rectangle")
        else checkOutputs target virtualRight virtualBottom (earlier ++ [output]) rest

def validate (target : DesktopTarget) : Except MessageError Unit :=
  if target.width = 0 ∨ target.height = 0 then
    .error (invalidValue "desktop target" 2 "virtual desktop extent must be nonzero")
  else if target.outputs = [] then .ok ()
  else if (target.outputs.filter fun output => output.primary).length ≠ 1 then
    .error (invalidValue "desktop target" 4
      "exactly one output is primary when the list is nonempty")
  else
    match checkedAddI64 target.originX.toInt target.width.toNat with
    | none =>
        .error (invalidValue "desktop target" 0 "virtual origin plus width overflows")
    | some virtualRight =>
        match checkedAddI64 target.originY.toInt target.height.toNat with
        | none =>
            .error (invalidValue "desktop target" 1 "virtual origin plus height overflows")
        | some virtualBottom => target.checkOutputs virtualRight virtualBottom [] target.outputs

/-- The elements of an array of outputs. -/
def decodeOutputs (schema : String) (key : UInt64) (reason : String) :
    Cbor.Value → Except MessageError (List OutputDescriptor)
  | .array entries => collect OutputDescriptor.decode entries
  | _ => .error (invalidValue schema key reason)

def decode (map : PayloadMap) : Except MessageError DesktopTarget := do
  let strict ← StrictMap.new "desktop target" (.map map) [0, 1, 2, 3, 4, 5, 6]
  let listed ← strict.required 4
  let outputs ← decodeOutputs "desktop target" 4 "outputs must be an array" listed
  let originX ← requiredI32 "desktop target" strict 0
  let originY ← requiredI32 "desktop target" strict 1
  let width ← strict.requiredU32 2
  let height ← strict.requiredU32 3
  let settled ← strict.requiredBool 5
  let topologyRevision ← strict.requiredU64 6
  let target : DesktopTarget :=
    { originX := originX
      originY := originY
      width := width
      height := height
      outputs := outputs
      settled := settled
      topologyRevision := topologyRevision }
  target.validate
  .ok target

end DesktopTarget

/-! ## Reading back -/

theorem narrow_widened (value : Int32) : narrow value.toInt64 = some value := by
  have low := value.le_toInt
  have high := value.toInt_lt
  unfold narrow
  rw [Int32.toInt_toInt64, if_pos ⟨low, high⟩, Int32.toInt32_toInt64]

section Readers

variable {schema : String} {map : StrictMap} {key : UInt64}

theorem requiredI32_of_lookup {value : Int32}
    (held : map.entries.lookup key = some (signed value.toInt64)) :
    requiredI32 schema map key = .ok value := by
  unfold requiredI32
  rw [StrictMap.required_iff.mpr held, ok_bind, signed_asI64, Option.bind_some, narrow_widened]

theorem requiredU32_of_lookup {value : UInt32}
    (held : map.entries.lookup key = some (.unsigned value.toUInt64)) :
    map.requiredU32 key = .ok value :=
  StrictMap.requiredU32_eq_ok.mpr held

theorem tryFrom_toWord (rotation : Rotation) : Rotation.tryFrom rotation.toWord = .ok rotation := by
  cases rotation <;> rfl

end Readers

namespace OutputDescriptor

/-- The output is one that `decode` lets pass. -/
def Positive (output : OutputDescriptor) : Prop :=
  output.width ≠ 0 ∧ output.height ≠ 0 ∧ output.scaleNumerator ≠ 0 ∧ output.scaleDenominator ≠ 0

/-- An output is read back exactly if it is positive. -/
theorem decode_encode (output : OutputDescriptor) (other : OutputDescriptor) :
    decode output.encode = .ok other ↔ output.Positive ∧ output = other := by
  have opened : StrictMap.new "output descriptor" output.encode [0, 1, 2, 3, 4, 5, 6, 7, 8] =
      .ok ⟨"output descriptor", output.fields⟩ := rfl
  unfold decode
  rw [opened, ok_bind, @StrictMap.requiredU64_of_lookup _ 0 output.outputId rfl, ok_bind,
    @requiredI32_of_lookup _ _ 1 output.originX rfl, ok_bind,
    @requiredI32_of_lookup _ _ 2 output.originY rfl, ok_bind,
    @requiredU32_of_lookup _ 3 output.width rfl, ok_bind,
    @requiredU32_of_lookup _ 4 output.height rfl, ok_bind,
    @requiredU32_of_lookup _ 5 output.scaleNumerator rfl, ok_bind,
    @requiredU32_of_lookup _ 6 output.scaleDenominator rfl, ok_bind,
    @StrictMap.requiredU64_of_lookup _ 7 output.rotation.toWord rfl, ok_bind, tryFrom_toWord,
    ok_bind, @StrictMap.requiredBool_of_lookup _ 8 output.primary rfl, ok_bind,
    ite_error_eq_ok_iff, ite_error_eq_ok_iff, Except.ok.injEq]
  unfold Positive
  tauto

end OutputDescriptor

/-- Outputs are read back exactly if all of them are positive. -/
theorem collect_outputs (outputs others : List OutputDescriptor) :
    collect OutputDescriptor.decode (outputs.map OutputDescriptor.encode) = .ok others ↔
      (∀ output ∈ outputs, output.Positive) ∧ outputs = others := by
  induction outputs generalizing others with
  | nil => simp [collect]
  | cons output rest ih =>
      simp only [List.map_cons, collect, bind_eq_ok_iff, OutputDescriptor.decode_encode, ih,
        Except.ok.injEq, List.forall_mem_cons]
      constructor
      · intro read
        obtain ⟨first, ⟨positive, same⟩, remaining, ⟨others, same'⟩, built⟩ := read
        rw [← built, same, same']
        exact ⟨⟨same ▸ positive, same' ▸ others⟩, rfl⟩
      · intro read
        obtain ⟨⟨positive, others⟩, same⟩ := read
        exact ⟨output, ⟨positive, rfl⟩, rest, ⟨others, rfl⟩, same⟩

/-- A target that passes its check is read back exactly if its outputs are positive. -/
theorem DesktopTarget.decode_encode {target : DesktopTarget} (valid : target.validate = .ok ()) :
    decode target.encode = .ok target ↔ ∀ output ∈ target.outputs, output.Positive := by
  have opened : StrictMap.new "desktop target" (.map target.encode) [0, 1, 2, 3, 4, 5, 6] =
      .ok ⟨"desktop target", target.encode⟩ := rfl
  have listed : (⟨"desktop target", target.encode⟩ : StrictMap).required 4 =
      .ok (.array (target.outputs.map OutputDescriptor.encode)) := rfl
  unfold decode
  rw [opened, ok_bind, listed, ok_bind, decodeOutputs]
  simp only [bind_eq_ok_iff, collect_outputs]
  constructor
  · intro read
    obtain ⟨_, ⟨positive, _⟩, _⟩ := read
    exact positive
  · intro positive
    refine ⟨target.outputs, ⟨positive, rfl⟩, target.originX, requiredI32_of_lookup rfl,
      target.originY, requiredI32_of_lookup rfl, target.width, requiredU32_of_lookup rfl,
      target.height, requiredU32_of_lookup rfl, target.settled,
      StrictMap.requiredBool_of_lookup rfl, target.topologyRevision,
      StrictMap.requiredU64_of_lookup rfl, (), valid, rfl⟩

end VividProtocol.Desktop
