import Mathlib.Tactic
import VividProtocol.Drawing.Codec
import VividProtocol.Overlay.Wire.Measured

/-!
# Measurement of one text

A text goes through a display list of its own and the bytes of that list, from
`overlay/text.rs`.  What every record of text layout has in common stands at
the end.
-/

set_option autoImplicit false

namespace VividProtocol.Overlay.Wire

open VividProtocol.Cbor
open VividProtocol.Drawing
open VividProtocol.Library.Result
open VividProtocol.Library.Codec

structure MeasureText where
  address : WindowAddress
  text : Text
  deriving Repr, DecidableEq

namespace MeasureText

section Codec

variable (validRect : Rect → Except InvalidScene Unit)

def payload (request : MeasureText) : Except MessageError PayloadMap := do
  request.address.validate request.address.surfaceId
  if MAX_MEASURE_TEXT_BYTES < request.text.text.utf8ByteSize then
    .error (badOverlay 3 "measurement text exceeds limit")
  else do
    let canvas ← orBad 3 (Canvas.new.push (.text request.text))
    let bytes ← orBad 3 (canvas.encode validRect)
    match Cbor.decode bytes with
    | .error _ => .error (badOverlay 3 "invalid text")
    | .ok value => .ok (request.address.payload ++ [(3, value)])

/-- The text inside the first command, as far as there is one. -/
def sentText (value : Value) : Option String := do
  let commands ← value.asArray
  let command ← commands[0]?
  let fields ← command.asArray
  let text ← fields[1]?
  text.asText

def decode (object : UInt64) (value : Value) : Except MessageError MeasureText := do
  let map ← strict value [0, 1, 2, 3]
  let address ← WindowAddress.decode object map
  let value ← map.required 3
  if value.asArray.all fun commands => decide (commands.length ≠ 1) then
    .error (badOverlay 3 "expected one text specification")
  else if (sentText value).all fun text => decide (MAX_MEASURE_TEXT_BYTES < text.utf8ByteSize) then
    .error (badOverlay 3 "measurement text exceeds limit or is absent")
  else do
    let canvas ← orBad 3 (Canvas.ofValue validRect value)
    match canvas.commands with
    | [.text text] => do
        let request : MeasureText := { address := address, text := text }
        let _ ← request.payload validRect
        .ok request
    | _ => .error (badOverlay 3 "expected text specification")

end Codec

/-- The display list that holds only the text. -/
def canvas (request : MeasureText) : Canvas := { commands := [.text request.text] }

def fields (request : MeasureText) : PayloadMap :=
  request.address.payload ++ [(3, .array [commandValue (.text request.text)])]

/-- What the encoder checks of a text. -/
structure Valid (validRect : Rect → Except InvalidScene Unit) (request : MeasureText) : Prop where
  address : request.address.Named
  short : request.text.text.utf8ByteSize ≤ MAX_MEASURE_TEXT_BYTES
  canvas : request.canvas.validate validRect = .ok ()
  family : request.text.family.utf8ByteSize ≤ 256

variable {validRect : Rect → Except InvalidScene Unit} {request : MeasureText}

theorem validate_family (valid : request.canvas.validate validRect = .ok ()) :
    request.text.family.utf8ByteSize ≤ 256 := by
  simp only [Canvas.validate, canvas, validateCommands, visit, validateText, bind_eq_ok_iff,
    ite_error_eq_ok_iff, not_or, Nat.not_lt, Except.ok.injEq] at valid
  obtain ⟨_, _, ⟨_, ⟨_, ⟨_, _, ⟨_, family, _⟩, _⟩, _⟩, _⟩, _⟩ := valid
  exact family

theorem command_fits (levels : Nat) (short : request.text.text.utf8ByteSize ≤ MAX_MEASURE_TEXT_BYTES)
    (family : request.text.family.utf8ByteSize ≤ 256) :
    (Value.array [commandValue (.text request.text)]).Fits (levels + 4) := by
  have text : request.text.text.utf8ByteSize ≤ maxValueLength := by
    unfold MAX_MEASURE_TEXT_BYTES at short
    unfold maxValueLength
    omega
  have face : request.text.family.utf8ByteSize ≤ maxValueLength := by
    unfold maxValueLength
    omega
  have width : (orNull integer request.text.maxWidth).Fits (levels + 2) := by
    cases request.text.maxWidth with
    | none => exact Value.fits_null
    | some width => exact fits_scalar _ width
  simp [commandValue, pointValue, integer, fits_scalar, Value.fits_text, text, face, width,
    maxContainerLength]

/-- The bytes of the display list give back its value. -/
theorem payload_valid {entries : PayloadMap} (written : request.payload validRect = .ok entries) :
    request.Valid validRect ∧ entries = request.fields := by
  simp only [payload, bind_eq_ok_iff, WindowAddress.validate_eq_ok, ite_error_eq_ok_iff,
    Nat.not_lt, orBad_eq_ok] at written
  obtain ⟨_, ⟨_, named⟩, short, canvas, pushed, bytes, encoded, received⟩ := written
  have single : canvas = request.canvas := by
    simp only [Canvas.push, ite_error_eq_ok_iff, Except.ok.injEq] at pushed
    exact pushed.2.symm
  rw [single] at encoded
  obtain ⟨_, valid, encoded⟩ := bind_eq_ok_iff.mp encoded
  have family := validate_family valid
  have fits := command_fits 13 short family
  obtain ⟨sent, sentBytes, back⟩ := fits.throughBytes
  have list : request.canvas.commands.map commandValue = [commandValue (.text request.text)] := rfl
  rw [list, sentBytes] at encoded
  obtain ⟨_, same⟩ := ite_error_eq_ok_iff.mp encoded
  rw [← Except.ok.inj same, back] at received
  exact ⟨⟨named, short, valid, family⟩, (Except.ok.inj received).symm⟩

theorem Valid.ofValue (valid : request.Valid validRect) :
    Canvas.ofValue validRect (.array [commandValue (.text request.text)]) = .ok request.canvas := by
  have few : ¬ MAX_COMMANDS < [commandValue (.text request.text)].length := by
    rw [List.length_singleton]
    decide
  have parsed : collect parseCommand [commandValue (.text request.text)] =
      .ok [.text request.text] := by
    rw [collect, parseCommand_text, ok_bind, collect, ok_bind]
  unfold Canvas.ofValue
  rw [parseArray_written, ok_bind, if_neg few, parsed, ok_bind]
  dsimp only
  rw [show Canvas.validate validRect { commands := [.text request.text] } = .ok () from
    valid.canvas, ok_bind]
  rfl

theorem decode_of_payload {entries : PayloadMap}
    (written : request.payload validRect = .ok entries) :
    decode validRect request.address.surfaceId (.map entries) = .ok request := by
  obtain ⟨valid, same⟩ := payload_valid written
  have opened : strict (.map request.fields) [0, 1, 2, 3] = .ok _ :=
    strict_ok (List.Sublist.refl _) (by decide)
  have sent : sentText (.array [commandValue (.text request.text)]) = some request.text.text := rfl
  have short : ¬ MAX_MEASURE_TEXT_BYTES < request.text.text.utf8ByteSize :=
    Nat.not_lt.mpr valid.short
  rw [same]
  unfold decode
  rw [opened, ok_bind, fields, valid.address.decode_payload, ok_bind,
    @required_eq_ok 3 _ _ |>.mpr rfl, ok_bind, sent]
  simp only [Value.asArray, Option.all_some, List.length_singleton, ne_eq, not_true_eq_false,
    decide_false, Bool.false_eq_true, if_false, short, valid.ofValue, orBad, ok_bind, canvas]
  rw [written, ok_bind]

theorem decode_payload {object : UInt64} {value : Value}
    (accepted : decode validRect object value = .ok request) :
    object = request.address.surfaceId ∧ ∃ entries, request.payload validRect = .ok entries := by
  unfold decode at accepted
  simp only [bind_eq_ok_iff, ite_error_eq_ok_iff] at accepted
  obtain ⟨_, _, _, addressed, _, _, _, _, canvas, _, matched⟩ := accepted
  split at matched
  · obtain ⟨entries, written, same⟩ := bind_eq_ok_iff.mp matched
    cases same
    exact ⟨(WindowAddress.decode_named addressed).1, entries, written⟩
  · cases matched

theorem survives : Survives (fun request : MeasureText => request.address.surfaceId) Value.map
    (payload validRect) (decode validRect) :=
  .of_agrees ⟨decode_of_payload, decode_payload⟩ fun written => by
    obtain ⟨valid, same⟩ := payload_valid written
    rw [same]
    refine @fits_payload 15 _ _ [0, 1, 2, 3] (List.Sublist.refl _) (by decide) (by decide) ?_
    intro entry among
    rw [List.mem_singleton.mp among]
    exact command_fits 12 valid.short valid.family

end MeasureText

/-! ## Limits of the accepted batches -/

theorem MeasureBatch.accepted_limits {object : UInt64} {value : Value} {batch : MeasureBatch}
    (accepted : MeasureBatch.decode object value = .ok batch) :
    (1 ≤ batch.texts.length ∧ batch.texts.length ≤ 32) ∧
      (batch.texts.map fun text => text.runs.length).sum ≤ 64 ∧
      (batch.texts.map textBytesOf).sum ≤ 4096 := by
  obtain ⟨_, _, written⟩ := MeasureBatch.decode_payload accepted
  obtain ⟨limited, _⟩ := MeasureBatch.payload_limited written
  exact ⟨⟨List.length_pos_iff.mpr limited.some, limited.few⟩, limited.runs, limited.bytes⟩

theorem BatchMeasured.accepted_limits {address : WindowAddress} {value : Value}
    {batch : BatchMeasured} (accepted : BatchMeasured.decode address value = .ok batch) :
    (1 ≤ batch.layouts.length ∧ batch.layouts.length ≤ 32) ∧ batch.geometry ≤ 1024 ∧
      ∀ layout ∈ batch.layouts, ∀ part ∈ layout.2.lines ++ layout.2.clusters,
        part.start ≤ part.finish ∧ part.finish.toNat ≤ 4096 := by
  obtain ⟨_, _, written⟩ := BatchMeasured.decode_payload accepted
  obtain ⟨limited, _⟩ := BatchMeasured.payload_limited written
  refine ⟨⟨List.length_pos_iff.mpr limited.some, limited.few⟩, limited.geometry, ?_⟩
  intro layout among part within
  have measured := limited.each layout among
  have valid : part.Valid := by
    rcases List.mem_append.mp within with line | cluster
    · exact measured.lines part line
    · exact measured.clusters part cluster
  exact ⟨valid.ordered, valid.within⟩

/-- Every record of text layout survives the wire, and a batch that is accepted
keeps the limits of the whole batch. -/
theorem text_layouts_survive (validRect : Rect → Except InvalidScene Unit) :
    (Survives (fun request : MeasureText => request.address.surfaceId) Value.map
        (MeasureText.payload validRect) (MeasureText.decode validRect) ∧
      Survives (fun _ : StyledText => ()) id StyledText.encode (fun _ => StyledText.decode) ∧
      Survives (fun batch : MeasureBatch => batch.address.surfaceId) Value.map
        MeasureBatch.payload MeasureBatch.decode ∧
      (∀ address : WindowAddress,
        Survives (fun _ : TextMeasurement => ()) Value.map
          (fun measurement => measurement.payload address)
          (fun _ => TextMeasurement.decode address)) ∧
      Survives (fun batch : BatchMeasured => batch.address) Value.map
        BatchMeasured.payload BatchMeasured.decode ∧
      Survives (fun request : ReleaseLayouts => request.address.surfaceId) Value.map
        ReleaseLayouts.payload ReleaseLayouts.decode) ∧
    (∀ (object : UInt64) (value : Value) (batch : MeasureBatch),
      MeasureBatch.decode object value = .ok batch →
        (1 ≤ batch.texts.length ∧ batch.texts.length ≤ 32) ∧
          (batch.texts.map fun text => text.runs.length).sum ≤ 64 ∧
          (batch.texts.map textBytesOf).sum ≤ 4096) ∧
    (∀ (address : WindowAddress) (value : Value) (batch : BatchMeasured),
      BatchMeasured.decode address value = .ok batch →
        (1 ≤ batch.layouts.length ∧ batch.layouts.length ≤ 32) ∧ batch.geometry ≤ 1024 ∧
          ∀ layout ∈ batch.layouts, ∀ part ∈ layout.2.lines ++ layout.2.clusters,
            part.start ≤ part.finish ∧ part.finish.toNat ≤ 4096) := by
  refine ⟨⟨MeasureText.survives, StyledText.survives, MeasureBatch.survives,
    TextMeasurement.survives, BatchMeasured.survives, ReleaseLayouts.survives⟩, ?_, ?_⟩
  · intro object value batch accepted
    exact MeasureBatch.accepted_limits accepted
  · intro address value batch accepted
    exact BatchMeasured.accepted_limits accepted

def sampleAddress : WindowAddress := { contextId := 1, surfaceId := 2, generation := 3 }

/-- A run of text in a plain style, or underlined. -/
def sampleRun (text : String) (underline : Bool) : TextRun :=
  { text := text
    style :=
      { size := Scalar.ONE
        family := "serif"
        weight := 400
        italic := false
        color := ⟨255⟩
        underline := underline
        strikethrough := false } }

def sampleText (runs : List TextRun) : StyledText :=
  { typography := .default
    runs := runs
    maxWidth := some Scalar.ONE
    alignment := .justify
    wrap := true
    maxLines := some 2 }

/-- Two paragraphs, one of them of two runs. -/
def twoTexts : MeasureBatch :=
  { address := sampleAddress
    texts := [sampleText [sampleRun "one " false, sampleRun "two" true],
      sampleText [sampleRun "three" false]]
    retain := true }

def samplePart (start finish : UInt32) (rtl : Bool) : TextGeometry :=
  { start := start
    finish := finish
    x := Scalar.ZERO
    y := Scalar.ZERO
    width := Scalar.ONE
    height := Scalar.ONE
    baseline := Scalar.ONE
    rtl := rtl }

def sampleMeasurement (finish : UInt32) : TextMeasurement :=
  { truncatedAt := none
    width := Scalar.ONE
    height := Scalar.ONE
    lines := [samplePart 0 finish false]
    clusters := [samplePart 0 1 false, samplePart 1 finish true] }

/-- The layouts of the two. -/
def twoMeasured : BatchMeasured :=
  { address := sampleAddress
    layouts := [(7, sampleMeasurement 7), (8, sampleMeasurement 5)] }

/-- A word that is measured by itself. -/
def oneText : MeasureText :=
  { address := sampleAddress
    text :=
      { text := "word"
        origin := ⟨Scalar.ZERO, Scalar.ZERO⟩
        size := Scalar.ONE
        family := "serif"
        weight := 400
        italic := false
        color := ⟨255⟩
        maxWidth := none } }

theorem Survives.received {α κ γ : Type} {header : α → κ} {wrap : γ → Value}
    {write : α → Except MessageError γ} {read : κ → Value → Except MessageError α}
    (survives : Survives header wrap write read) {record : α}
    (written : (write record).isOk = true) :
    ∃ fields bytes value, write record = .ok fields ∧ Cbor.encode (wrap fields) = .ok bytes ∧
      Cbor.decode bytes = .ok value ∧ read (header record) value = .ok record := by
  cases sent : write record with
  | error error =>
      rw [sent] at written
      cases written
  | ok fields =>
      obtain ⟨bytes, value, encoded, decoded, same⟩ := survives.throughBytes sent
      exact ⟨fields, bytes, value, rfl, encoded, decoded, same⟩

theorem text_layouts_survive_two :
    (∃ fields bytes value, twoTexts.payload = .ok fields ∧
      Cbor.encode (.map fields) = .ok bytes ∧ Cbor.decode bytes = .ok value ∧
      MeasureBatch.decode 2 value = .ok twoTexts ∧
      (twoTexts.texts.map fun text => text.runs.length).sum ≤ 64) ∧
    (∃ fields bytes value, twoMeasured.payload = .ok fields ∧
      Cbor.encode (.map fields) = .ok bytes ∧ Cbor.decode bytes = .ok value ∧
      BatchMeasured.decode sampleAddress value = .ok twoMeasured ∧ twoMeasured.geometry ≤ 1024) ∧
    ∃ fields bytes value, oneText.payload Rect.validate = .ok fields ∧
      Cbor.encode (.map fields) = .ok bytes ∧ Cbor.decode bytes = .ok value ∧
      MeasureText.decode Rect.validate 2 value = .ok oneText := by
  obtain ⟨⟨text, -, batch, -, measured, -⟩, texts, layouts⟩ := text_layouts_survive Rect.validate
  have written : twoTexts.payload.isOk = true := by decide +kernel
  have told : twoMeasured.payload.isOk = true := by decide +kernel
  have asked : (oneText.payload Rect.validate).isOk = true := by decide +kernel
  refine ⟨?_, ?_, text.received asked⟩
  · obtain ⟨fields, bytes, value, sent, encoded, decoded, read⟩ := batch.received written
    exact ⟨fields, bytes, value, sent, encoded, decoded, read, (texts 2 value twoTexts read).2.1⟩
  · obtain ⟨fields, bytes, value, sent, encoded, decoded, read⟩ := measured.received told
    exact ⟨fields, bytes, value, sent, encoded, decoded, read,
      (layouts sampleAddress value twoMeasured read).2.1⟩

end VividProtocol.Overlay.Wire
