import Mathlib.Tactic
import VividProtocol.Desktop.Target

/-!
# Desktop surface parameters

`DesktopSurfaceParameters` of `surface.rs`, which carries a topology of the
same outputs.  Neither check of a topology covers what the decoder of an output
demands, so a presenter can hold, and send, what its peer refuses.
-/

set_option autoImplicit false

namespace VividProtocol.Desktop

open VividProtocol.Input
open VividProtocol.Library.Result

/-- `input_capability::KNOWN_MASK`. -/
def INPUT_CAPABILITY_MASK : UInt64 := ((1 : UInt64) <<< (4 : UInt64)) - 1

structure DesktopSurfaceParameters where
  capturedOriginX : Int32
  capturedOriginY : Int32
  topology : List OutputDescriptor
  semanticGeneration : UInt64
  inputCapabilities : UInt64
  deriving Repr, DecidableEq

namespace DesktopSurfaceParameters

def encode (parameters : DesktopSurfaceParameters) : PayloadMap :=
  [(0, signed parameters.capturedOriginX.toInt64),
    (1, signed parameters.capturedOriginY.toInt64),
    (2, .array (parameters.topology.map OutputDescriptor.encode)),
    (3, .unsigned parameters.semanticGeneration),
    (4, .unsigned parameters.inputCapabilities)]

/-- The loop over the outputs, with those before the current one. -/
def checkTopology : List OutputDescriptor → List OutputDescriptor → Except MessageError Unit
  | _, [] => .ok ()
  | earlier, output :: rest =>
      if (earlier.any fun other => decide (other.outputId = output.outputId)) = true then
        .error (invalidValue "desktop surface parameters" 2
          "output IDs must be unique within a topology")
      else checkTopology (earlier ++ [output]) rest

def validate (parameters : DesktopSurfaceParameters) : Except MessageError Unit :=
  if parameters.semanticGeneration = 0 then
    .error (invalidValue "desktop surface parameters" 3 "semantic generation must be nonzero")
  else if parameters.inputCapabilities &&& ~~~ INPUT_CAPABILITY_MASK ≠ 0 then
    .error (invalidValue "desktop surface parameters" 4
      "input capability mask has unassigned bits")
  else checkTopology [] parameters.topology

def decode (map : PayloadMap) : Except MessageError DesktopSurfaceParameters := do
  let strict ← StrictMap.new "desktop surface parameters" (.map map) [0, 1, 2, 3, 4]
  let listed ← strict.required 2
  let topology ← DesktopTarget.decodeOutputs "desktop surface parameters" 2
    "topology must be an array" listed
  let capturedOriginX ← requiredI32 "desktop surface parameters" strict 0
  let capturedOriginY ← requiredI32 "desktop surface parameters" strict 1
  let semanticGeneration ← strict.requiredU64 3
  let inputCapabilities ← strict.requiredU64 4
  let parameters : DesktopSurfaceParameters :=
    { capturedOriginX := capturedOriginX
      capturedOriginY := capturedOriginY
      topology := topology
      semanticGeneration := semanticGeneration
      inputCapabilities := inputCapabilities }
  parameters.validate
  .ok parameters

/-- Parameters that pass their check are read back exactly if their outputs are positive. -/
theorem decode_encode {parameters : DesktopSurfaceParameters}
    (valid : parameters.validate = .ok ()) :
    decode parameters.encode = .ok parameters ↔
      ∀ output ∈ parameters.topology, output.Positive := by
  have opened : StrictMap.new "desktop surface parameters" (.map parameters.encode)
      [0, 1, 2, 3, 4] = .ok ⟨"desktop surface parameters", parameters.encode⟩ := rfl
  have listed : (⟨"desktop surface parameters", parameters.encode⟩ : StrictMap).required 2 =
      .ok (.array (parameters.topology.map OutputDescriptor.encode)) := rfl
  unfold decode
  rw [opened, ok_bind, listed, ok_bind, DesktopTarget.decodeOutputs]
  simp only [bind_eq_ok_iff, collect_outputs]
  constructor
  · intro read
    obtain ⟨_, ⟨positive, _⟩, _⟩ := read
    exact positive
  · intro positive
    exact ⟨parameters.topology, ⟨positive, rfl⟩, parameters.capturedOriginX,
      requiredI32_of_lookup rfl, parameters.capturedOriginY, requiredI32_of_lookup rfl,
      parameters.semanticGeneration, StrictMap.requiredU64_of_lookup rfl,
      parameters.inputCapabilities, StrictMap.requiredU64_of_lookup rfl, (), valid, rfl⟩

end DesktopSurfaceParameters

/-- A target or a surface that passes its check can be read by the peer exactly if
no output has a zero extent or scale. -/
theorem desktop_descriptors_readable_iff (target : DesktopTarget)
    (parameters : DesktopSurfaceParameters) :
    (target.validate = .ok () →
      (DesktopTarget.decode target.encode = .ok target ↔
        ∀ output ∈ target.outputs, output.Positive)) ∧
      (parameters.validate = .ok () →
        (DesktopSurfaceParameters.decode parameters.encode = .ok parameters ↔
          ∀ output ∈ parameters.topology, output.Positive)) := by
  constructor
  · intro valid
    exact DesktopTarget.decode_encode valid
  · intro valid
    exact DesktopSurfaceParameters.decode_encode valid

def wholeOutput : OutputDescriptor :=
  { outputId := 1
    originX := 0
    originY := 0
    width := 1920
    height := 1080
    scaleNumerator := 1
    scaleDenominator := 1
    rotation := .none
    primary := true }

def singleTarget (output : OutputDescriptor) : DesktopTarget :=
  { originX := 0
    originY := 0
    width := 1920
    height := 1080
    outputs := [output]
    settled := true
    topologyRevision := 1 }

/-- A second output beside it, turned and at a scale of three halves. -/
def turnedOutput : OutputDescriptor :=
  { wholeOutput with
    outputId := 2
    originX := 1920
    width := 1080
    scaleNumerator := 3
    scaleDenominator := 2
    rotation := .ninety
    primary := false }

def pairTarget : DesktopTarget :=
  { singleTarget wholeOutput with width := 3000, outputs := [wholeOutput, turnedOutput] }

def pairParameters : DesktopSurfaceParameters := ⟨0, -1080, [wholeOutput, turnedOutput], 4, 1⟩

theorem desktop_descriptors_readable_iff_pair :
    DesktopTarget.decode pairTarget.encode = .ok pairTarget ∧
      DesktopSurfaceParameters.decode pairParameters.encode = .ok pairParameters := by
  have positive : ∀ output ∈ [wholeOutput, turnedOutput], output.Positive := by
    simp [OutputDescriptor.Positive, wholeOutput, turnedOutput]
  have readable := desktop_descriptors_readable_iff pairTarget pairParameters
  exact ⟨(readable.1 (by decide +kernel)).mpr positive,
    (readable.2 (by decide +kernel)).mpr positive⟩

/-- An output without a width is published and not read. -/
theorem desktop_descriptors_not_readable :
    let flat := singleTarget { wholeOutput with width := 0 }
    flat.validate = .ok () ∧
      DesktopTarget.decode flat.encode =
        .error (.invalidValue "output descriptor" 3 "output extent must be nonzero") := by
  decide +kernel

end VividProtocol.Desktop
