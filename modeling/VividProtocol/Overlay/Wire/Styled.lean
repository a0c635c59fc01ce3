import Mathlib.Tactic
import VividProtocol.Drawing.Commands
import VividProtocol.Overlay.Wire.InputEvent

/-!
# Styled paragraphs

Paragraphs and measurement batches of `overlay/styled.rs`.  A decoder checks the
sizes of all strings before it copies any, and the whole value once more after.
-/

set_option autoImplicit false

namespace VividProtocol.Overlay.Wire

open VividProtocol.Cbor
open VividProtocol.Drawing
open VividProtocol.Library.Result
open VividProtocol.Library.Codec

def MAX_MEASURE_TEXT_BYTES : Nat := 4096
def MAX_TEXT_GEOMETRY : Nat := 1024
def MAX_TEXT_BATCH : Nat := 32
def MAX_TEXT_RUNS : Nat := 64

/-! ## Records that survive the wire -/

/-- What is written is read back, as it is and through its bytes, and what is
read can be written and read again. -/
structure Survives {α κ γ : Type} (header : α → κ) (wrap : γ → Value)
    (encode : α → Except MessageError γ) (decode : κ → Value → Except MessageError α) : Prop where
  direct : ∀ {record : α} {fields : γ}, encode record = .ok fields →
    decode (header record) (wrap fields) = .ok record
  throughBytes : ∀ {record : α} {fields : γ}, encode record = .ok fields →
    ∃ bytes received, Cbor.encode (wrap fields) = .ok bytes ∧ Cbor.decode bytes = .ok received ∧
      decode (header record) received = .ok record
  settles : ∀ {above : κ} {value : Value} {record : α}, decode above value = .ok record →
    ∃ fields, encode record = .ok fields ∧ decode above (wrap fields) = .ok record

/-- A codec whose two sides agree on canonical values survives. -/
theorem Survives.of_agrees {α κ γ : Type} {header : α → κ} {wrap : γ → Value}
    {encode : α → Except MessageError γ} {decode : κ → Value → Except MessageError α}
    (agrees : Agrees header wrap encode decode)
    (fits : ∀ {record : α} {fields : γ}, encode record = .ok fields →
      (wrap fields).Fits (maxDepth + 1)) : Survives header wrap encode decode where
  direct := agrees.readsBack
  throughBytes := by
    intro record fields written
    obtain ⟨bytes, sent, received⟩ := (fits written).throughBytes
    exact ⟨bytes, wrap fields, sent, received, agrees.readsBack written⟩
  settles := agrees.settles

/-! ## Typography -/

inductive TextOverflow where
  | clip
  | ellipsis
  deriving Repr, DecidableEq

structure Typography where
  overflow : TextOverflow
  letterSpacing : Scalar
  wordSpacing : Scalar
  lineHeight : Option Scalar
  ligatures : Bool
  kerning : Bool
  deriving Repr, DecidableEq

namespace Typography

def default : Typography :=
  { overflow := .clip
    letterSpacing := .ZERO
    wordSpacing := .ZERO
    lineHeight := none
    ligatures := true
    kerning := true }

/-- A spacing is between zero and 1024 pixels. -/
def validSpacing (spacing : Scalar) : Bool :=
  decide (0 ≤ spacing.raw) && decide (spacing.raw ≤ 1024 * 4294967296)

/-- A line height is positive and at most 4096 pixels. -/
def validHeight (height : Scalar) : Bool :=
  decide (0 < height.raw) && decide (height.raw ≤ 4096 * 4294967296)

def validate (typography : Typography) : Except MessageError Unit :=
  if ! validSpacing typography.letterSpacing || ! validSpacing typography.wordSpacing ||
      typography.lineHeight.any fun height => ! validHeight height then
    .error (badOverlay 3 "invalid typographic spacing or line height")
  else .ok ()

def overflowValue (overflow : TextOverflow) : Value :=
  .unsigned (if overflow = .clip then 0 else 1)

def toValue (typography : Typography) : Value :=
  .array
    [overflowValue typography.overflow, scalar typography.letterSpacing,
      scalar typography.wordSpacing, orNull scalar typography.lineHeight,
      .bool typography.ligatures, .bool typography.kerning]

def decodeOverflow (value : Value) : Except MessageError TextOverflow :=
  match value.asU64 with
  | some 0 => .ok .clip
  | some 1 => .ok .ellipsis
  | _ => .error (badOverlay 3 "invalid text overflow")

/-- The elements of a typography. -/
abbrev PARTS : Nat := 6

def decode (value : Value) : Except MessageError Typography := do
  let fields ← array PARTS value 3
  let overflow ← decodeOverflow fields[0]
  let letterSpacing ← decodeScalar fields[1] 3
  let wordSpacing ← decodeScalar fields[2] 3
  let lineHeight ← nullable (decodeScalar · 3) fields[3]
  let ligatures ← boolean fields[4] 3
  let kerning ← boolean fields[5] 3
  let typography : Typography :=
    { overflow := overflow
      letterSpacing := letterSpacing
      wordSpacing := wordSpacing
      lineHeight := lineHeight
      ligatures := ligatures
      kerning := kerning }
  typography.validate
  .ok typography

theorem decode_toValue {typography : Typography} (valid : typography.validate = .ok ()) :
    decode typography.toValue = .ok typography := by
  have overflow : decodeOverflow (overflowValue typography.overflow) = .ok typography.overflow := by
    cases typography.overflow <;> rfl
  have height : nullable (decodeScalar · 3) (orNull scalar typography.lineHeight) =
      .ok typography.lineHeight :=
    nullable_written scalar_present fun _ _ => decodeScalar_written _
  simp [decode, toValue, overflow, height, valid]

theorem toValue_fits (levels : Nat) (typography : Typography) :
    typography.toValue.Fits (levels + 2) := by
  have height : (orNull scalar typography.lineHeight).Fits (levels + 1) :=
    fits_orNull (fits_scalar _)
  simp [toValue, overflowValue, fits_scalar, height, maxContainerLength]

end Typography

/-! ## Paragraphs -/

inductive TextAlignment where
  | start
  | center
  | finish
  | justify
  deriving Repr, DecidableEq

structure TextStyle where
  size : Scalar
  family : String
  weight : UInt16
  italic : Bool
  color : Color
  underline : Bool
  strikethrough : Bool
  deriving Repr, DecidableEq

structure TextRun where
  text : String
  style : TextStyle
  deriving Repr, DecidableEq

structure StyledText where
  typography : Typography
  runs : List TextRun
  maxWidth : Option Scalar
  alignment : TextAlignment
  wrap : Bool
  maxLines : Option UInt16
  deriving Repr, DecidableEq

/-- `usize::checked_add` of two text sizes. -/
def addBytes (bytes more : Nat) : Except MessageError Nat :=
  if bytes + more < 2 ^ 64 then .ok (bytes + more)
  else .error (badOverlay 3 "text size overflow")

namespace StyledText

/-- The loop of `validate` over the runs. -/
def validateRuns : Nat → List TextRun → Except MessageError Unit
  | _, [] => .ok ()
  | bytes, run :: rest => do
      let bytes ← addBytes bytes run.text.utf8ByteSize
      if MAX_MEASURE_TEXT_BYTES < bytes ∨ run.style.size ≤ Scalar.ZERO ∨
          256 < run.style.family.utf8ByteSize ∨
          ¬ (1 ≤ run.style.weight ∧ run.style.weight ≤ 1000) then
        .error (badOverlay 3 "invalid or oversized styled text")
      else validateRuns bytes rest

def validate (text : StyledText) : Except MessageError Unit := do
  text.typography.validate
  if text.typography.overflow = .ellipsis ∧ text.maxWidth.isNone then
    .error (badOverlay 3 "ellipsis requires a maximum width")
  else if text.runs = [] ∨ MAX_TEXT_RUNS < text.runs.length ∨
      (text.maxWidth.any fun width => decide (width ≤ Scalar.ZERO)) ∨
      text.maxLines.any fun lines =>
        decide (lines = 0) || decide (MAX_TEXT_GEOMETRY < lines.toNat) then
    .error (badOverlay 3 "invalid styled paragraph limits")
  else validateRuns 0 text.runs

def runValue (run : TextRun) : Value :=
  .array
    [.text run.text, scalar run.style.size, .text run.style.family,
      .unsigned run.style.weight.toUInt64, .bool run.style.italic,
      .unsigned run.style.color.rgba.toUInt64, .bool run.style.underline,
      .bool run.style.strikethrough]

def alignmentIndex : TextAlignment → UInt64
  | .start => 0
  | .center => 1
  | .finish => 2
  | .justify => 3

/-- The typography, where it is not the default. -/
def typographyExtra (typography : Typography) : List Value :=
  if typography = .default then [] else [typography.toValue]

def toValue (text : StyledText) : Value :=
  .array
    ([.array (text.runs.map runValue), orNull scalar text.maxWidth,
      .unsigned (alignmentIndex text.alignment), .bool text.wrap,
      orNull (fun lines : UInt16 => .unsigned lines.toUInt64) text.maxLines] ++
      typographyExtra text.typography)

/-- `value`. -/
def encode (text : StyledText) : Except MessageError Value := do
  text.validate
  .ok text.toValue

def textOr (value : Value) (reason : String) : Except MessageError String :=
  match value.asText with
  | some text => .ok text
  | none => .error (badOverlay 3 reason)

/-- The loop that checks the strings before any is copied. -/
def checkRuns : Nat → List Value → Except MessageError Unit
  | _, [] => .ok ()
  | bytes, value :: rest => do
      let run ← array 8 value 3
      let text ← textOr run[0] "expected run text"
      let family ← textOr run[2] "expected font family"
      let bytes ← addBytes bytes text.utf8ByteSize
      if MAX_MEASURE_TEXT_BYTES < bytes ∨ 256 < family.utf8ByteSize then
        .error (badOverlay 3 "text size limit")
      else checkRuns bytes rest

/-- `u16::try_from(small(value, 3)?)`. -/
def small16 (value : Value) (reason : String) : Except MessageError UInt16 := do
  let value ← small value 3
  toU16 value.toUInt64 3 reason

def decodeRun (value : Value) : Except MessageError TextRun := do
  let run ← array 8 value 3
  let text ← textOr run[0] "expected run text"
  let size ← decodeScalar run[1] 3
  let family ← textOr run[2] "expected font family"
  let weight ← small16 run[3] "invalid font weight"
  let italic ← boolean run[4] 3
  let color ← small run[5] 3
  let underline ← boolean run[6] 3
  let strikethrough ← boolean run[7] 3
  .ok
    { text := text
      style :=
        { size := size
          family := family
          weight := weight
          italic := italic
          color := { rgba := color }
          underline := underline
          strikethrough := strikethrough } }

def decodeAlignment (value : Value) : Except MessageError TextAlignment :=
  match value.asU64 with
  | some 0 => .ok .start
  | some 1 => .ok .center
  | some 2 => .ok .finish
  | some 3 => .ok .justify
  | _ => .error (badOverlay 3 "invalid alignment")

def decodeTypography : List Value → Except MessageError Typography
  | [] => .ok .default
  | value :: _ => Typography.decode value

/-- Five elements, or six with the typography. -/
def decode (value : Value) : Except MessageError StyledText :=
  match value with
  | .array (runs :: maxWidth :: alignment :: wrap :: maxLines :: extra) =>
      if 1 < extra.length then .error (badOverlay 3 "invalid paragraph shape")
      else do
        let runs ← arrayOr runs 3 "expected text runs"
        if runs = [] ∨ MAX_TEXT_RUNS < runs.length then .error (badOverlay 3 "text run limit")
        else do
          checkRuns 0 runs
          let runs ← collect decodeRun runs
          let typography ← decodeTypography extra
          let maxWidth ← nullable (decodeScalar · 3) maxWidth
          let alignment ← decodeAlignment alignment
          let wrap ← boolean wrap 3
          let maxLines ← nullable (small16 · "invalid line limit") maxLines
          let text : StyledText :=
            { typography := typography
              runs := runs
              maxWidth := maxWidth
              alignment := alignment
              wrap := wrap
              maxLines := maxLines }
          text.validate
          .ok text
  | _ => .error (badOverlay 3 "invalid paragraph shape")

/-! ### Paragraphs read back -/

variable {text : StyledText}

theorem encode_eq_ok {value : Value} :
    text.encode = .ok value ↔ text.validate = .ok () ∧ text.toValue = value := by
  unfold encode
  simp only [bind_eq_ok_iff, Except.ok.injEq]
  constructor
  · intro accepted
    obtain ⟨_, valid, same⟩ := accepted
    exact ⟨valid, same⟩
  · intro accepted
    exact ⟨(), accepted⟩

/-- What the checks of a valid paragraph say. -/
theorem validate_ok (valid : text.validate = .ok ()) :
    text.typography.validate = .ok () ∧ text.runs ≠ [] ∧ text.runs.length ≤ MAX_TEXT_RUNS ∧
      validateRuns 0 text.runs = .ok () := by
  unfold validate at valid
  simp only [bind_eq_ok_iff, ite_error_eq_ok_iff, not_or, Nat.not_lt] at valid
  obtain ⟨_, typography, _, ⟨some, few, _⟩, runs⟩ := valid
  exact ⟨typography, some, few, runs⟩

theorem addBytes_eq_ok {bytes more total : Nat} :
    addBytes bytes more = .ok total ↔ bytes + more < 2 ^ 64 ∧ bytes + more = total := by
  unfold addBytes
  by_cases fits : bytes + more < 2 ^ 64
  · rw [if_pos fits, Except.ok.injEq]
    exact ⟨fun same => ⟨fits, same⟩, fun both => both.2⟩
  · rw [if_neg fits]
    exact ⟨nofun, fun both => absurd both.1 fits⟩

/-- The strings of valid runs are within the limits of a measurement. -/
theorem validateRuns_ok {bytes : Nat} {runs : List TextRun}
    (start : bytes ≤ MAX_MEASURE_TEXT_BYTES) (valid : validateRuns bytes runs = .ok ()) :
    bytes + (runs.map fun run => run.text.utf8ByteSize).sum ≤ MAX_MEASURE_TEXT_BYTES ∧
      ∀ run ∈ runs, run.style.family.utf8ByteSize ≤ 256 := by
  induction runs generalizing bytes with
  | nil => exact ⟨by simpa using start, nofun⟩
  | cons run rest ih =>
      unfold validateRuns at valid
      simp only [bind_eq_ok_iff, addBytes_eq_ok, ite_error_eq_ok_iff, not_or, Nat.not_lt] at valid
      obtain ⟨total, ⟨_, same⟩, ⟨within, _, family, _⟩, later⟩ := valid
      obtain ⟨sum, families⟩ := ih within later
      constructor
      · rw [List.map_cons, List.sum_cons]
        omega
      · intro other among
        rcases List.mem_cons.mp among with here | there
        · rw [here]
          exact family
        · exact families other there

/-- The strings of valid runs pass the check before copying. -/
theorem checkRuns_written {bytes : Nat} {runs : List TextRun}
    (valid : validateRuns bytes runs = .ok ()) : checkRuns bytes (runs.map runValue) = .ok () := by
  induction runs generalizing bytes with
  | nil => rfl
  | cons run rest ih =>
      unfold validateRuns at valid
      simp only [bind_eq_ok_iff, addBytes_eq_ok, ite_error_eq_ok_iff, not_or, Nat.not_lt] at valid
      obtain ⟨total, ⟨fits, same⟩, ⟨within, _, family, _⟩, later⟩ := valid
      have short : ¬ (MAX_MEASURE_TEXT_BYTES < total ∨ 256 < run.style.family.utf8ByteSize) := by
        omega
      have added : addBytes bytes run.text.utf8ByteSize = .ok total :=
        addBytes_eq_ok.mpr ⟨fits, same⟩
      rw [List.map_cons, checkRuns, runValue]
      simp [textOr, Value.asText, added, short, ih later]

theorem small16_written (value : UInt16) (reason : String) :
    small16 (.unsigned value.toUInt64) reason = .ok value := by
  have widened : value.toUInt64 = value.toUInt32.toUInt64 := by simp
  unfold small16
  rw [widened, small_written, ok_bind, ← widened, toU16_written]

theorem decodeRun_written (run : TextRun) : decodeRun (runValue run) = .ok run := by
  simp [decodeRun, runValue, textOr, Value.asText, small16_written]

theorem decodeTypography_written {typography : Typography}
    (valid : typography.validate = .ok ()) :
    decodeTypography (typographyExtra typography) = .ok typography := by
  unfold typographyExtra
  by_cases plain : typography = .default
  · rw [if_pos plain, plain]
    rfl
  · rw [if_neg plain]
    exact Typography.decode_toValue valid

theorem decode_toValue (valid : text.validate = .ok ()) : decode text.toValue = .ok text := by
  obtain ⟨typography, some, few, runs⟩ := validate_ok valid
  have extra : ¬ 1 < (typographyExtra text.typography).length := by
    unfold typographyExtra
    split_ifs <;> simp
  have sized : ¬ (text.runs.map runValue = [] ∨
      MAX_TEXT_RUNS < (text.runs.map runValue).length) := by
    rw [List.map_eq_nil_iff, List.length_map]
    exact not_or.mpr ⟨some, Nat.not_lt.mpr few⟩
  have alignment : decodeAlignment (.unsigned (alignmentIndex text.alignment)) =
      .ok text.alignment := by
    cases text.alignment <;> rfl
  have width : nullable (decodeScalar · 3) (orNull scalar text.maxWidth) = .ok text.maxWidth :=
    nullable_written scalar_present fun _ _ => decodeScalar_written _
  have lines : nullable (small16 · "invalid line limit")
      (orNull (fun lines : UInt16 => .unsigned lines.toUInt64) text.maxLines) =
        .ok text.maxLines :=
    nullable_written (fun _ => by simp) fun lines _ => small16_written lines _
  unfold toValue
  simp only [List.cons_append, List.nil_append, decode, if_neg extra, arrayOr_written, ok_bind,
    if_neg sized, checkRuns_written runs, collect_map fun run _ => decodeRun_written run,
    decodeTypography_written typography, width, alignment, boolean_written, lines, valid]

theorem decode_valid {value : Value} (accepted : decode value = .ok text) :
    text.validate = .ok () := by
  unfold decode at accepted
  split at accepted
  · simp only [bind_eq_ok_iff, ite_error_eq_ok_iff] at accepted
    obtain ⟨_, _, _, _, _, _, _, _, _, _, _, _, _, _, _, _, _, _, _, valid, same⟩ := accepted
    cases same
    exact valid
  · cases accepted

theorem runs_short (valid : text.validate = .ok ()) {run : TextRun} (among : run ∈ text.runs) :
    run.text.utf8ByteSize ≤ maxValueLength ∧ run.style.family.utf8ByteSize ≤ maxValueLength := by
  obtain ⟨_, _, _, runs⟩ := validate_ok valid
  obtain ⟨sum, families⟩ := validateRuns_ok (Nat.zero_le _) runs
  have one : run.text.utf8ByteSize ≤ (text.runs.map fun run => run.text.utf8ByteSize).sum :=
    List.single_le_sum (fun _ _ => Nat.zero_le _) _ (List.mem_map_of_mem among)
  have family := families run among
  unfold MAX_MEASURE_TEXT_BYTES at sum
  unfold maxValueLength
  omega

theorem toValue_fits (levels : Nat) (valid : text.validate = .ok ()) :
    text.toValue.Fits (levels + 4) := by
  obtain ⟨_, _, few, _⟩ := validate_ok valid
  have runs : ∀ run ∈ text.runs, (runValue run).Fits (levels + 2) := by
    intro run among
    obtain ⟨short, family⟩ := runs_short valid among
    simp [runValue, Value.fits_text, short, family, fits_scalar, maxContainerLength]
  have items : (Value.array (text.runs.map runValue)).Fits (levels + 3) := by
    refine Value.fits_array.mpr ⟨?_, ?_⟩
    · rw [List.length_map]
      unfold MAX_TEXT_RUNS at few
      unfold maxContainerLength
      omega
    · intro item among
      obtain ⟨run, inside, same⟩ := List.mem_map.mp among
      rw [← same]
      exact runs run inside
  have width : (orNull scalar text.maxWidth).Fits (levels + 3) := fits_orNull (fits_scalar _)
  have lines : (orNull (fun lines : UInt16 => Value.unsigned lines.toUInt64) text.maxLines).Fits
      (levels + 3) := fits_orNull fun _ => Value.fits_unsigned _
  have extra : ∀ item ∈ typographyExtra text.typography, item.Fits (levels + 3) := by
    unfold typographyExtra
    split_ifs
    · simp
    · simp [Typography.toValue_fits]
  refine Value.fits_array.mpr ⟨?_, ?_⟩
  · unfold typographyExtra
    split_ifs <;> simp [maxContainerLength]
  · intro item among
    rcases List.mem_append.mp among with front | back
    · simp only [List.mem_cons, List.not_mem_nil, or_false] at front
      rcases front with same | same | same | same | same
      · rw [same]
        exact items
      · rw [same]
        exact width
      · rw [same]
        exact Value.fits_unsigned _
      · rw [same]
        exact Value.fits_bool _
      · rw [same]
        exact lines
    · exact extra item back

theorem agrees : Agrees (fun _ : StyledText => ()) id encode (fun _ => decode) :=
  .of_valid encode_eq_ok (fun valid => decode_toValue valid)
    fun accepted => ⟨rfl, decode_valid accepted⟩

theorem survives : Survives (fun _ : StyledText => ()) id encode fun _ => decode :=
  .of_agrees agrees fun written => by
    obtain ⟨valid, same⟩ := encode_eq_ok.mp written
    rw [← same]
    exact toValue_fits 13 valid

end StyledText

end VividProtocol.Overlay.Wire
