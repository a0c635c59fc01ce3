import Mathlib.Tactic
import VividProtocol.Drawing.Forwarding

/-!
# Scenes and frames

A scene that is encoded is read back as it was, and a scene that is read can be
encoded again, in no more bytes.  A frame carries a scene behind its epoch and
revision.
-/

set_option autoImplicit false

namespace VividProtocol.Drawing

open VividProtocol.Cbor
open VividProtocol.Overlay
open VividProtocol.Library.BigEndian
open VividProtocol.Library.Result
open VividProtocol.Library.Codec

/-- A complete scene replacement. -/
structure Frame where
  epoch : UInt32
  revision : UInt64
  canvas : Canvas
  deriving Repr, DecidableEq

namespace Frame

def encode (validRect : Rect → Except InvalidScene Unit) (frame : Frame) :
    Except InvalidScene (List UInt8) :=
  if frame.epoch = 0 ∨ frame.revision = 0 then
    .error ⟨"scene epoch and revision must be nonzero"⟩
  else do
    let commands ← frame.canvas.encode validRect
    .ok (toBytes 4 frame.epoch.toNat ++ toBytes 8 frame.revision.toNat ++ commands)

def decode (validRect : Rect → Except InvalidScene Unit) (body : List UInt8) :
    Except InvalidScene Frame :=
  if body.length < 12 ∨ MAX_SCENE_BYTES + 12 < body.length then
    .error ⟨"invalid vector frame length"⟩
  else
    let epoch := UInt32.ofNat (ofBytes (body.take 4))
    let revision := UInt64.ofNat (ofBytes ((body.drop 4).take 8))
    if epoch = 0 ∨ revision = 0 then .error ⟨"scene epoch and revision must be nonzero"⟩
    else do
      let canvas ← Canvas.decode validRect (body.drop 12)
      .ok { epoch := epoch, revision := revision, canvas := canvas }

end Frame

section Scenes

variable {validRect : Rect → Except InvalidScene Unit} {canvas : Canvas} {bytes : List UInt8}

/-! ## The list -/

theorem Canvas.encode_eq_ok :
    canvas.encode validRect = .ok bytes ↔
      canvas.validate validRect = .ok () ∧
        Cbor.encode (.array (canvas.commands.map commandValue)) = .ok bytes ∧
        bytes.length ≤ MAX_SCENE_BYTES := by
  unfold Canvas.encode
  rw [check_bind_eq_ok_iff]
  refine and_congr_right fun _ => ?_
  cases written : Cbor.encode (.array (canvas.commands.map commandValue)) with
  | error error => simp
  | ok whole =>
      dsimp only
      rw [ite_error_eq_ok_iff, Except.ok.injEq, Except.ok.injEq, Nat.not_lt]
      constructor
      · intro sized
        exact ⟨sized.2, sized.2 ▸ sized.1⟩
      · intro sized
        exact ⟨sized.1 ▸ sized.2, sized.1⟩

theorem Canvas.decode_eq_ok :
    Canvas.decode validRect bytes = .ok canvas ↔
      bytes.length ≤ MAX_SCENE_BYTES ∧ ∃ values, Cbor.decode bytes = .ok (.array values) ∧
        values.length ≤ MAX_COMMANDS ∧ collect parseCommand values = .ok canvas.commands ∧
        canvas.validate validRect = .ok () := by
  unfold Canvas.decode
  rw [ite_error_eq_ok_iff, Nat.not_lt]
  refine and_congr_right fun _ => ?_
  cases read : Cbor.decode bytes with
  | error error => simp
  | ok value =>
      dsimp only
      unfold Canvas.ofValue
      simp only [bind_eq_ok_iff, parseArray_eq_ok, ite_error_eq_ok_iff, Nat.not_lt,
        Except.ok.injEq]
      constructor
      · intro accepted
        obtain ⟨values, held, few, commands, collected, _, valid, same⟩ := accepted
        cases same
        exact ⟨values, held, few, collected, valid⟩
      · intro accepted
        obtain ⟨values, held, few, collected, valid⟩ := accepted
        exact ⟨values, held, few, canvas.commands, collected, (), valid, rfl⟩

/-- The value of a list that passes is within the limits. -/
theorem fits_commands (valid : canvas.validate validRect = .ok ()) :
    (Value.array (canvas.commands.map commandValue)).Fits (maxDepth + 1) := by
  obtain ⟨few, legal⟩ := Canvas.legal_of_validate valid
  exact fits_map few fun command among => fits_command (legal command among)

theorem Canvas.decode_of_encode (written : canvas.encode validRect = .ok bytes) :
    Canvas.decode validRect bytes = .ok canvas := by
  obtain ⟨valid, encoded, short⟩ := Canvas.encode_eq_ok.mp written
  obtain ⟨few, legal⟩ := Canvas.legal_of_validate valid
  have read := Cbor.decode_of_encode encoded
  rw [(fits_commands valid).norm] at read
  refine Canvas.decode_eq_ok.mpr ⟨short, _, read, ?_, collect_written legal, valid⟩
  rw [List.length_map]
  exact few

theorem Canvas.encode_of_decode (read : Canvas.decode validRect bytes = .ok canvas) :
    ∃ shorter, canvas.encode validRect = .ok shorter ∧ shorter.length ≤ bytes.length ∧
      Canvas.decode validRect shorter = .ok canvas := by
  obtain ⟨short, values, decoded, _, collected, valid⟩ := Canvas.decode_eq_ok.mp read
  obtain ⟨shorter, encoded⟩ := (fits_commands valid).encode
  have sized : shorter.length ≤ bytes.length := by
    rw [length_of_encode encoded, length_of_encode (Cbor.encode_of_decode decoded)]
    exact shrinks_array shrinks_command collected
  have written : canvas.encode validRect = .ok shorter :=
    Canvas.encode_eq_ok.mpr ⟨valid, encoded, le_trans sized short⟩
  exact ⟨shorter, written, sized, Canvas.decode_of_encode written⟩

/-! ## Frames -/

theorem Frame.decode_of_encode {frame : Frame} {body : List UInt8}
    (written : frame.encode validRect = .ok body) : Frame.decode validRect body = .ok frame := by
  obtain ⟨nonzero, encoded⟩ := ite_error_eq_ok_iff.mp written
  obtain ⟨commands, scene, same⟩ := bind_eq_ok_iff.mp encoded
  have whole : body = toBytes 4 frame.epoch.toNat ++ (toBytes 8 frame.revision.toNat ++ commands) := by
    rw [← Except.ok.inj same, List.append_assoc]
  have front : body.take 4 = toBytes 4 frame.epoch.toNat := by
    rw [whole]
    exact List.take_left' (length_toBytes 4 _)
  have rest : body.drop 4 = toBytes 8 frame.revision.toNat ++ commands := by
    rw [whole]
    exact List.drop_left' (length_toBytes 4 _)
  have middle : (body.drop 4).take 8 = toBytes 8 frame.revision.toNat := by
    rw [rest]
    exact List.take_left' (length_toBytes 8 _)
  have last : body.drop 12 = commands := by
    rw [show 12 = 4 + 8 by rfl, ← List.drop_drop, rest]
    exact List.drop_left' (length_toBytes 8 _)
  have epoch : UInt32.ofNat (ofBytes (body.take 4)) = frame.epoch := by
    have word : frame.epoch.toNat < 256 ^ 4 := lt_of_lt_of_le frame.epoch.toNat_lt (by norm_num)
    rw [front, ofBytes_toBytes 4 _ word, UInt32.ofNat_toNat]
  have revision : UInt64.ofNat (ofBytes ((body.drop 4).take 8)) = frame.revision := by
    have word : frame.revision.toNat < 256 ^ 8 :=
      lt_of_lt_of_le frame.revision.toNat_lt (by norm_num)
    rw [middle, ofBytes_toBytes 8 _ word, UInt64.ofNat_toNat]
  have sized : ¬ (body.length < 12 ∨ MAX_SCENE_BYTES + 12 < body.length) := by
    have short := (Canvas.encode_eq_ok.mp scene).2.2
    rw [whole, List.length_append, List.length_append, length_toBytes, length_toBytes]
    omega
  unfold Frame.decode
  rw [if_neg sized, epoch, revision]
  dsimp only
  rw [if_neg nonzero, last, Canvas.decode_of_encode scene, ok_bind]

theorem Frame.encode_eq_ok {frame : Frame} (epoch : frame.epoch ≠ 0) (revision : frame.revision ≠ 0)
    (scene : frame.canvas.encode validRect = .ok bytes) :
    ∃ body, frame.encode validRect = .ok body := by
  unfold Frame.encode
  rw [if_neg (not_or.mpr ⟨epoch, revision⟩), scene, ok_bind]
  exact ⟨_, rfl⟩

end Scenes

/-- Scenes and frames are read back as they were written; a scene that is read can be
written, in no more bytes, and is the only scene of its bytes. -/
theorem vector_scenes_survive (validRect : Rect → Except InvalidScene Unit) :
    (∀ canvas bytes, canvas.encode validRect = .ok bytes →
      Canvas.decode validRect bytes = .ok canvas ∧
        ∀ epoch revision, epoch ≠ 0 → revision ≠ 0 →
          ∃ body, Frame.encode validRect ⟨epoch, revision, canvas⟩ = .ok body ∧
            Frame.decode validRect body = .ok ⟨epoch, revision, canvas⟩) ∧
      (∀ frame body, Frame.encode validRect frame = .ok body →
        Frame.decode validRect body = .ok frame) ∧
      (∀ bytes canvas, Canvas.decode validRect bytes = .ok canvas →
        ∃ shorter, canvas.encode validRect = .ok shorter ∧ shorter.length ≤ bytes.length ∧
          Canvas.decode validRect shorter = .ok canvas) ∧
      ∀ first second bytes, Canvas.encode validRect first = .ok bytes →
        Canvas.encode validRect second = .ok bytes → first = second := by
  refine ⟨?_, ?_, ?_, ?_⟩
  · intro canvas bytes written
    refine ⟨Canvas.decode_of_encode written, ?_⟩
    intro epoch revision firstNonzero secondNonzero
    let sent : Frame := ⟨epoch, revision, canvas⟩
    have written' : sent.canvas.encode validRect = .ok bytes := written
    obtain ⟨body, framed⟩ := Frame.encode_eq_ok firstNonzero secondNonzero written'
    exact ⟨body, framed, Frame.decode_of_encode framed⟩
  · intro frame body written
    exact Frame.decode_of_encode written
  · intro bytes canvas read
    exact Canvas.encode_of_decode read
  · intro first second bytes one other
    have same := Canvas.decode_of_encode one
    rw [Canvas.decode_of_encode other] at same
    exact (Except.ok.inj same).symm

/-- A gradient whose default color space is sent. -/
def verboseScene : List UInt8 :=
  [0x81, 0x83, 0x00, 0x82, 0xf4, 0x81, 0x82, 0x00, 0x82, 0x00, 0x00, 0x85, 0x01, 0x82, 0x00, 0x00,
    0x82, 0x01, 0x00, 0x82, 0x82, 0x00, 0x00, 0x82, 0x19, 0xff, 0xff, 0x18, 0xff, 0x00]

def gradientScene : Canvas :=
  let start : Point := ⟨.ZERO, .ZERO⟩
  let finish : Point := ⟨⟨1, by decide⟩, .ZERO⟩
  { commands :=
      [.fill ⟨[.move start], false⟩
        (.linear start finish [⟨0, ⟨0⟩⟩, ⟨65535, ⟨255⟩⟩] .srgb)] }

/-- The received scene is forwarded, and its frame reads back. -/
theorem vector_scenes_survive_gradient :
    (∃ shorter, gradientScene.encode Rect.validate = .ok shorter ∧ shorter.length ≤ 30) ∧
      ∃ body, Frame.encode Rect.validate ⟨1, 1, gradientScene⟩ = .ok body ∧
        Frame.decode Rect.validate body = .ok ⟨1, 1, gradientScene⟩ := by
  obtain ⟨forward, _, backward, _⟩ := vector_scenes_survive Rect.validate
  have read : Canvas.decode Rect.validate verboseScene = .ok gradientScene := by decide +kernel
  obtain ⟨shorter, written, sized, _⟩ := backward verboseScene gradientScene read
  exact ⟨⟨shorter, written, sized⟩,
    (forward gradientScene shorter written).2 1 1 (by decide) (by decide)⟩

end VividProtocol.Drawing
