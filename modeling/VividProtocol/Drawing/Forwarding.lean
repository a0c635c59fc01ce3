import Mathlib.Tactic
import VividProtocol.Cbor.Size
import VividProtocol.Drawing.Reading

/-!
# Forwarding a received list

What a parser accepted is written in no more bytes than it was read from, and
the value of a legal command is within the limits of the encoder.
-/

set_option autoImplicit false

namespace VividProtocol.Drawing

open VividProtocol.Cbor
open VividProtocol.Overlay
open VividProtocol.Overlay.Wire
open VividProtocol.Library.Result
open VividProtocol.Library.Codec

/-! ## Within the limits -/

section Limits

variable {levels : Nat}

@[simp] theorem fits_integer (value : Scalar) : (integer value).Fits (levels + 1) := by
  unfold integer scalar
  by_cases below : value.raw < 0
  · have bounds := raw_bounds value
    have size : ((Int64.size : Nat) : Int) = 2 ^ 64 := rfl
    rw [if_pos below, Value.fits_negative, Int64.lt_iff_toInt_lt, Int64.toInt_ofInt,
      Int.bmod_eq_of_le (by omega) (by omega)]
    exact below
  · rw [if_neg below]
    trivial

theorem fits_map {α : Type} {write : α → Value} {values : List α}
    (few : values.length ≤ maxContainerLength) (fits : ∀ value ∈ values, (write value).Fits levels) :
    (Value.array (values.map write)).Fits (levels + 1) := by
  refine Value.fits_array.mpr ⟨by rw [List.length_map]; exact few, ?_⟩
  intro item among
  obtain ⟨value, inside, same⟩ := List.mem_map.mp among
  rw [← same]
  exact fits value inside

@[simp] theorem fits_point (point : Point) : (pointValue point).Fits (levels + 2) := by
  simp [pointValue, maxContainerLength]

@[simp] theorem fits_rect (rect : Rect) : (rectValue rect).Fits (levels + 3) := by
  simp [rectValue, maxContainerLength]

@[simp] theorem fits_segment (segment : Segment) : (segmentValue segment).Fits (levels + 3) := by
  cases segment <;> simp [segmentValue, maxContainerLength]

theorem fits_path {path : Path} (legal : path.Legal) : (pathValue path).Fits (levels + 5) := by
  have segments : (Value.array (path.segments.map segmentValue)).Fits (levels + 4) :=
    fits_map legal fun segment _ => fits_segment segment
  refine Value.fits_array.mpr ⟨by simp [maxContainerLength], ?_⟩
  intro item among
  simp only [List.mem_cons, List.not_mem_nil, or_false] at among
  rcases among with same | same
  · rw [same]
    exact Value.fits_bool _
  · rw [same]
    exact segments

theorem fits_scalars {values : List Scalar} (few : values.length ≤ maxContainerLength) :
    (Value.array (values.map integer)).Fits (levels + 2) :=
  fits_map few fun value _ => fits_integer value

@[simp] theorem fits_transform (transform : Transform) :
    (transformValue transform).Fits (levels + 2) :=
  fits_scalars (by simp [maxContainerLength])

theorem fits_stops {stops : List GradientStop} (few : stops.length ≤ MAX_GRADIENT_STOPS) :
    (stopsValue stops).Fits (levels + 3) := by
  have short : stops.length ≤ maxContainerLength := le_trans few (by decide)
  exact fits_map short fun stop _ => by simp [stopValue, maxContainerLength]

theorem fits_brush {brush : Brush} (legal : brush.Legal) :
    (brushValue brush).Fits (levels + 5) := by
  cases brush with
  | solid color => simp [brushValue, maxContainerLength]
  | linear start finish stops colorSpace =>
      have fits : (stopsValue stops).Fits (levels + 4) := fits_stops legal
      cases colorSpace <;>
        simp [brushValue, maxContainerLength, fits, colorSpaceExtra, colorSpaceValue]
  | radial center radius stops colorSpace =>
      have fits : (stopsValue stops).Fits (levels + 4) := fits_stops legal
      cases colorSpace <;>
        simp [brushValue, maxContainerLength, fits, colorSpaceExtra, colorSpaceValue]
  | image asset transform extend =>
      cases transform <;> cases extend <;>
        simp [brushValue, maxContainerLength, orNull, extendValue]

theorem fits_command {command : Command} (legal : command.Legal) :
    (commandValue command).Fits (levels + 6) := by
  cases command with
  | fill path brush =>
      simp [commandValue, maxContainerLength, fits_path legal.1, fits_brush legal.2]
  | stroke path brush width =>
      simp [commandValue, maxContainerLength, fits_path legal.1, fits_brush legal.2]
  | clip path =>
      have fits : (pathValue path).Fits (levels + 5) := fits_path legal
      simp [commandValue, maxContainerLength, fits]
  | text text =>
      have content : text.text.utf8ByteSize ≤ maxValueLength := le_trans legal.1 (by decide)
      have family : text.family.utf8ByteSize ≤ maxValueLength := le_trans legal.2 (by decide)
      cases width : text.maxWidth <;>
        simp [commandValue, maxContainerLength, Value.fits_text, content, family, orNull, width]
  | hit id path role cursor =>
      have fits : (pathValue path).Fits (levels + 5) := fits_path legal.1
      cases role <;> cases cursor <;>
        simp [commandValue, maxContainerLength, fits, roleValue]
  | shadow shadow =>
      have radii : (Value.array (shadow.radii.radii.toList.map integer)).Fits (levels + 5) :=
        fits_scalars (by simp [maxContainerLength])
      simp only [commandValue, Value.fits_array, List.forall_mem_cons]
      refine ⟨by simp [maxContainerLength], by simp, by simp, radii, by simp, by simp, by simp,
        by simp, by simp, fun _ among => absurd among List.not_mem_nil⟩
  | styledStroke path brush style =>
      have fits : (pathValue path).Fits (levels + 5) := fits_path legal.1
      have painted : (brushValue brush).Fits (levels + 5) := fits_brush legal.2.1
      have few : style.dashes.length ≤ maxContainerLength := le_trans legal.2.2 (by decide)
      have dashes : (Value.array (style.dashes.map integer)).Fits (levels + 5) := fits_scalars few
      simp only [commandValue, Value.fits_array, List.forall_mem_cons]
      refine ⟨by simp [maxContainerLength], by simp, fits, painted, by simp, ?_, ?_, by simp, ?_,
        by simp, fun _ among => absurd among List.not_mem_nil⟩
      · cases style.cap <;> exact Value.fits_unsigned _
      · cases style.join <;> exact Value.fits_unsigned _
      · by_cases none : style.dashes = []
        · rw [if_pos none]
          exact Value.fits_null
        · rw [if_neg none]
          exact dashes
  | _ => simp [commandValue, maxContainerLength]

end Limits

/-! ## No more bytes -/

/-- What is read is written in no more bytes. -/
def Shrinks {α : Type} (read : Value → Except InvalidScene α) (write : α → Value) : Prop :=
  ∀ value part, read value = .ok part → (write part).size ≤ value.size

theorem parseArray_eq_ok {value : Value} {values : List Value} :
    parseArray value = .ok values ↔ value = .array values := by
  cases value <;> simp [parseArray]

theorem parseUint_eq_ok {value : Value} {number : UInt64} :
    parseUint value = .ok number ↔ value = .unsigned number := by
  cases value <;> simp [parseUint, Value.asU64]

theorem shrinks_items {α : Type} {read : Value → Except InvalidScene α} {write : α → Value}
    (shrinks : Shrinks read write) {values : List Value} {parts : List α}
    (accepted : collect read values = .ok parts) :
    Value.sizeItems (parts.map write) ≤ Value.sizeItems values := by
  induction values generalizing parts with
  | nil =>
      cases accepted
      exact le_rfl
  | cons value rest ih =>
      obtain ⟨first, done, accepted⟩ := bind_eq_ok_iff.mp accepted
      obtain ⟨others, collected, same⟩ := bind_eq_ok_iff.mp accepted
      cases same
      rw [List.map_cons, Value.sizeItems_cons, Value.sizeItems_cons]
      exact Nat.add_le_add (shrinks value first done) (ih collected)

theorem shrinks_array {α : Type} {read : Value → Except InvalidScene α} {write : α → Value}
    (shrinks : Shrinks read write) {values : List Value} {parts : List α}
    (accepted : collect read values = .ok parts) :
    (Value.array (parts.map write)).size ≤ (Value.array values).size := by
  rw [Value.size_array, Value.size_array, List.length_map, collect_length accepted]
  exact Nat.add_le_add_left (shrinks_items shrinks accepted) _

theorem size_of_asI64 {value : Value} {word : Int64} (read : value.asI64 = some word) :
    value.size = if 0 ≤ word then headSize word.toUInt64
      else headSize (UInt64.ofInt (-1 - word.toInt)) := by
  unfold Value.asI64 at read
  cases value with
  | unsigned number =>
      dsimp only at read
      split_ifs at read with small
      cases read
      have sign : 0 ≤ number.toInt64 := by
        have whole : number.toInt64.toInt = number.toNat :=
          BitVec.toInt_eq_toNat_of_lt (by
            have word : number.toInt64.toBitVec.toNat = number.toNat := rfl
            omega)
        rw [Int64.le_iff_toInt_le, whole]
        exact Int.natCast_nonneg _
      rw [if_pos sign, Value.size_unsigned, UInt64.toUInt64_toInt64]
  | negative number =>
      cases read
      rw [Value.size]
  | _ => cases read

theorem shrinks_scalar : Shrinks parseScalar integer := by
  intro value part read
  unfold parseScalar at read
  cases word : value.asI64 with
  | none =>
      rw [word] at read
      cases read
  | some word' =>
      rw [word] at read
      have raw : part.raw = word'.toInt := by
        simp only [fromRaw] at read
        split_ifs at read
        cases read
        rfl
      have written : (integer part).asI64 = some word' := by
        rw [integer, asI64_scalar, raw, Int64.ofInt_toInt]
      rw [size_of_asI64 word, size_of_asI64 written]

theorem shrinks_small : Shrinks parseSmall fun value => .unsigned value.toUInt64 := by
  intro value part read
  obtain ⟨number, held, narrowed⟩ := bind_eq_ok_iff.mp read
  split_ifs at narrowed with fits
  cases narrowed
  have same : number.toUInt16.toUInt64 = number := by
    rw [← UInt64.toNat_inj, UInt16.toNat_toUInt64, UInt64.toNat_toUInt16, Nat.mod_eq_of_lt fits]
  rw [parseUint_eq_ok.mp held]
  dsimp only
  rw [same]

theorem shrinks_color : Shrinks parseColor fun color => .unsigned color.rgba.toUInt64 := by
  intro value part read
  obtain ⟨number, held, narrowed⟩ := bind_eq_ok_iff.mp read
  split_ifs at narrowed with fits
  cases narrowed
  have same : number.toUInt32.toUInt64 = number := by
    rw [← UInt64.toNat_inj, UInt32.toNat_toUInt64, UInt64.toNat_toUInt32, Nat.mod_eq_of_lt fits]
  rw [parseUint_eq_ok.mp held]
  dsimp only
  rw [same]

theorem shrinks_boolean : Shrinks parseBoolean .bool := by
  intro value part read
  cases value with
  | bool flag => rw [Value.size_bool, Value.size_bool]
  | _ => cases read

theorem shrinks_text : Shrinks parseText .text := by
  intro value part read
  cases value with
  | text content =>
      cases read
      exact le_rfl
  | _ => cases read

/-- Arrays of as many elements compare by these. -/
theorem size_array_le {first second : List Value} (level : first.length = second.length)
    (items : Value.sizeItems first ≤ Value.sizeItems second) :
    (Value.array first).size ≤ (Value.array second).size := by
  rw [Value.size_array, Value.size_array, level]
  exact Nat.add_le_add_left items _

theorem shrinks_point : Shrinks parsePoint pointValue := by
  intro value part read
  obtain ⟨values, held, read⟩ := bind_eq_ok_iff.mp read
  rw [parseArray_eq_ok.mp held]
  split at read
  · obtain ⟨x, first, read⟩ := bind_eq_ok_iff.mp read
    obtain ⟨y, second, same⟩ := bind_eq_ok_iff.mp read
    cases same
    have left := shrinks_scalar _ _ first
    have right := shrinks_scalar _ _ second
    refine size_array_le rfl ?_
    simp only [Value.sizeItems_cons]
    omega
  · cases read

theorem shrinks_rect : Shrinks parseRect rectValue := by
  intro value part read
  obtain ⟨values, held, read⟩ := bind_eq_ok_iff.mp read
  rw [parseArray_eq_ok.mp held]
  split at read
  · obtain ⟨origin, first, read⟩ := bind_eq_ok_iff.mp read
    obtain ⟨width, second, read⟩ := bind_eq_ok_iff.mp read
    obtain ⟨height, third, same⟩ := bind_eq_ok_iff.mp read
    cases same
    have place := shrinks_point _ _ first
    have wide := shrinks_scalar _ _ second
    have high := shrinks_scalar _ _ third
    refine size_array_le rfl ?_
    simp only [Value.sizeItems_cons]
    omega
  · cases read

theorem shrinks_segment : Shrinks parseSegment segmentValue := by
  intro value part read
  obtain ⟨values, held, read⟩ := bind_eq_ok_iff.mp read
  rw [parseArray_eq_ok.mp held]
  split at read
  · obtain ⟨place, first, same⟩ := bind_eq_ok_iff.mp read
    cases same
    have sizes := shrinks_point _ _ first
    refine size_array_le rfl ?_
    simp only [Value.sizeItems_cons]
    omega
  · obtain ⟨place, first, same⟩ := bind_eq_ok_iff.mp read
    cases same
    have sizes := shrinks_point _ _ first
    refine size_array_le rfl ?_
    simp only [Value.sizeItems_cons]
    omega
  · obtain ⟨control, first, read⟩ := bind_eq_ok_iff.mp read
    obtain ⟨place, second, same⟩ := bind_eq_ok_iff.mp read
    cases same
    have before := shrinks_point _ _ first
    have after := shrinks_point _ _ second
    refine size_array_le rfl ?_
    simp only [Value.sizeItems_cons]
    omega
  · obtain ⟨start, first, read⟩ := bind_eq_ok_iff.mp read
    obtain ⟨control, second, read⟩ := bind_eq_ok_iff.mp read
    obtain ⟨place, third, same⟩ := bind_eq_ok_iff.mp read
    cases same
    have before := shrinks_point _ _ first
    have between := shrinks_point _ _ second
    have after := shrinks_point _ _ third
    refine size_array_le rfl ?_
    simp only [Value.sizeItems_cons]
    omega
  · cases read
    exact le_rfl
  · cases read

theorem shrinks_path : Shrinks parsePath pathValue := by
  intro value part read
  obtain ⟨values, held, read⟩ := bind_eq_ok_iff.mp read
  rw [parseArray_eq_ok.mp held]
  split at read
  · obtain ⟨list, inner, read⟩ := bind_eq_ok_iff.mp read
    obtain ⟨_, read⟩ := ite_error_eq_ok_iff.mp read
    obtain ⟨segments, collected, read⟩ := bind_eq_ok_iff.mp read
    obtain ⟨evenOdd, flag, same⟩ := bind_eq_ok_iff.mp read
    cases same
    rw [parseArray_eq_ok.mp inner]
    have rule := shrinks_boolean _ _ flag
    have sizes := shrinks_array shrinks_segment collected
    refine size_array_le rfl ?_
    simp only [Value.sizeItems_cons]
    omega
  · cases read

/-! ## Brushes -/

theorem shrinks_stop : Shrinks parseStop stopValue := by
  intro value part read
  obtain ⟨values, held, read⟩ := bind_eq_ok_iff.mp read
  rw [parseArray_eq_ok.mp held]
  split at read
  · obtain ⟨offset, first, read⟩ := bind_eq_ok_iff.mp read
    obtain ⟨color, second, same⟩ := bind_eq_ok_iff.mp read
    cases same
    have place : (Value.unsigned offset.toUInt64).size ≤ _ := shrinks_small _ _ first
    have paint : (Value.unsigned color.rgba.toUInt64).size ≤ _ := shrinks_color _ _ second
    refine size_array_le rfl ?_
    simp only [Value.sizeItems_cons]
    omega
  · cases read

theorem shrinks_stops : Shrinks parseStops stopsValue := by
  intro value part read
  obtain ⟨values, held, read⟩ := bind_eq_ok_iff.mp read
  obtain ⟨_, collected⟩ := ite_error_eq_ok_iff.mp read
  rw [parseArray_eq_ok.mp held]
  exact shrinks_array shrinks_stop collected

theorem colorSpace_of_parse {value : Value} {colorSpace : ColorSpace}
    (read : parseColorSpace value = .ok colorSpace) : value = colorSpaceValue colorSpace := by
  obtain ⟨code, held, named⟩ := bind_eq_ok_iff.mp read
  rw [parseUint_eq_ok.mp held]
  split at named <;> cases named <;> rfl

theorem size_short {values : List Value} (few : values.length ≤ 23) :
    (Value.array values).size = 1 + Value.sizeItems values := by
  have word : (UInt64.ofNat values.length).toNat = values.length := by
    rw [UInt64.toNat_ofNat', Nat.mod_eq_of_lt (by omega)]
  have tiny : UInt64.ofNat values.length ≤ 23 := by
    rw [UInt64.le_iff_toNat_le, word]
    exact few
  rw [Value.size_array, headSize, argumentForm, if_pos tiny]
  rfl

theorem sizeItems_append (first second : List Value) :
    Value.sizeItems (first ++ second) = Value.sizeItems first + Value.sizeItems second := by
  induction first with
  | nil => simp
  | cons value rest ih =>
      rw [List.cons_append, Value.sizeItems_cons, Value.sizeItems_cons, ih, Nat.add_assoc]

/-- The default color space may have been sent, and is not written. -/
theorem shrinks_extra {extra : List Value} {colorSpace : ColorSpace}
    (read : parseSpaceExtra extra = .ok colorSpace) :
    (colorSpaceExtra colorSpace).length ≤ 1 ∧
      Value.sizeItems (colorSpaceExtra colorSpace) ≤ Value.sizeItems extra := by
  unfold parseSpaceExtra at read
  unfold colorSpaceExtra
  cases extra with
  | nil =>
      cases read
      exact ⟨by simp, le_rfl⟩
  | cons value rest =>
      rw [colorSpace_of_parse read]
      split_ifs
      · exact ⟨by simp, by simp⟩
      · exact ⟨by simp, by simp⟩

theorem shrinks_linear {start finish stops : Value} {extra : List Value} {brush : Brush}
    (few : extra.length ≤ 1) (read : parseLinear start finish stops extra = .ok brush) :
    (brushValue brush).size ≤ (Value.array ([.unsigned 1, start, finish, stops] ++ extra)).size := by
  obtain ⟨first, begins, read⟩ := bind_eq_ok_iff.mp read
  obtain ⟨last, ends, read⟩ := bind_eq_ok_iff.mp read
  obtain ⟨colors, listed, read⟩ := bind_eq_ok_iff.mp read
  obtain ⟨colorSpace, spaced, same⟩ := bind_eq_ok_iff.mp read
  cases same
  have left := shrinks_point _ _ begins
  have right := shrinks_point _ _ ends
  have paint := shrinks_stops _ _ listed
  obtain ⟨one, extras⟩ := shrinks_extra spaced
  unfold brushValue
  rw [size_short (by simp; omega), size_short (by simp; omega), sizeItems_append,
    sizeItems_append]
  simp only [Value.sizeItems_cons]
  omega

theorem shrinks_radial {center radius stops : Value} {extra : List Value} {brush : Brush}
    (few : extra.length ≤ 1) (read : parseRadial center radius stops extra = .ok brush) :
    (brushValue brush).size ≤ (Value.array ([.unsigned 2, center, radius, stops] ++ extra)).size := by
  obtain ⟨middle, placed, read⟩ := bind_eq_ok_iff.mp read
  obtain ⟨extent, sized, read⟩ := bind_eq_ok_iff.mp read
  obtain ⟨colors, listed, read⟩ := bind_eq_ok_iff.mp read
  obtain ⟨colorSpace, spaced, same⟩ := bind_eq_ok_iff.mp read
  cases same
  have left := shrinks_point _ _ placed
  have right := shrinks_scalar _ _ sized
  have paint := shrinks_stops _ _ listed
  obtain ⟨one, extras⟩ := shrinks_extra spaced
  unfold brushValue
  rw [size_short (by simp; omega), size_short (by simp; omega), sizeItems_append,
    sizeItems_append]
  simp only [Value.sizeItems_cons]
  omega

theorem exactly_eq_ok {α : Type} {size : Nat} {message : String} {values : List α}
    {vector : Vector α size} (read : exactly size message values = .ok vector) :
    vector.toList = values := by
  unfold exactly at read
  split_ifs at read
  cases read
  rfl

theorem shrinks_brushTransform :
    Shrinks parseBrushTransform (orNull transformValue) := by
  intro value part read
  unfold parseBrushTransform at read
  split at read
  · cases read
    exact le_rfl
  · obtain ⟨values, held, read⟩ := bind_eq_ok_iff.mp read
    obtain ⟨scalars, collected, read⟩ := bind_eq_ok_iff.mp read
    obtain ⟨terms, six, same⟩ := bind_eq_ok_iff.mp read
    cases same
    rw [parseArray_eq_ok.mp held, orNull, Option.elim_some, transformValue, exactly_eq_ok six]
    exact shrinks_array shrinks_scalar collected

theorem shrinks_extend : Shrinks parseExtend extendValue := by
  intro value part read
  obtain ⟨code, held, named⟩ := bind_eq_ok_iff.mp read
  rw [parseUint_eq_ok.mp held]
  split at named <;> cases named <;> exact le_rfl

theorem shrinks_brush : Shrinks parseBrush brushValue := by
  intro value part read
  obtain ⟨values, held, read⟩ := bind_eq_ok_iff.mp read
  rw [parseArray_eq_ok.mp held]
  split at read
  · obtain ⟨color, first, same⟩ := bind_eq_ok_iff.mp read
    cases same
    have paint : (Value.unsigned color.rgba.toUInt64).size ≤ _ := shrinks_color _ _ first
    refine size_array_le rfl ?_
    simp only [Value.sizeItems_cons]
    omega
  · exact shrinks_linear (by simp) read
  · exact shrinks_linear (by simp) read
  · exact shrinks_radial (by simp) read
  · exact shrinks_radial (by simp) read
  · obtain ⟨asset, first, read⟩ := bind_eq_ok_iff.mp read
    obtain ⟨transform, second, read⟩ := bind_eq_ok_iff.mp read
    obtain ⟨extend, third, same⟩ := bind_eq_ok_iff.mp read
    cases same
    rw [parseUint_eq_ok.mp first]
    have moved := shrinks_brushTransform _ _ second
    have filled := shrinks_extend _ _ third
    refine size_array_le rfl ?_
    simp only [Value.sizeItems_cons]
    omega
  · cases read

/-! ## Roles, cursors and styles -/

theorem role_of_parse {value : Value} {role : HitRole} (read : parseRole value = .ok role) :
    value = roleValue role := by
  obtain ⟨code, held, named⟩ := bind_eq_ok_iff.mp read
  rw [parseUint_eq_ok.mp held]
  split_ifs at named with input drag transparent resize
  · cases named
    rw [input]
    rfl
  · cases named
    rw [drag]
    rfl
  · cases named
    rw [transparent]
    rfl
  · cases named
    obtain ⟨least, most⟩ := resize
    have above := UInt64.le_iff_toNat_le.mp least
    have below := UInt64.le_iff_toNat_le.mp most
    have first : (17 : UInt64).toNat = 17 := rfl
    have last : (31 : UInt64).toNat = 31 := rfl
    have base : (16 : UInt64).toNat = 16 := rfl
    have offset : (code - 16).toNat = code.toNat - 16 := by
      rw [UInt64.toNat_sub_of_le _ _ (UInt64.le_iff_toNat_le.mpr (by omega)), base]
    have same : 16 + (code - 16).toUInt8.toUInt64 = code := by
      rw [← UInt64.toNat_inj, UInt64.toNat_add, UInt8.toNat_toUInt64, UInt64.toNat_toUInt8,
        offset, base]
      omega
    rw [roleValue, same]

theorem cursor_of_parse {value : Value} {shape : CursorShape}
    (read : parseCursor value = .ok shape) : value = .unsigned (cursorIndex shape) := by
  obtain ⟨code, held, named⟩ := bind_eq_ok_iff.mp read
  rw [parseUint_eq_ok.mp held]
  have indexed : ∀ index : Nat, ∀ found : CursorShape,
      [CursorShape.default, .pointer, .text, .move, .crosshair, .notAllowed, .grab, .grabbing,
        .wait, .progress, .resizeLeft, .resizeRight, .resizeUp, .resizeDown, .resizeUpLeft,
        .resizeUpRight, .resizeDownLeft, .resizeDownRight, .resizeLeftRight,
        .resizeUpDown][index]? = some found → found.ctorIdx = index := by
    intro index found same
    have within : index < 20 := (List.getElem?_eq_some_iff.mp same).1
    interval_cases index <;> cases same <;> rfl
  cases found : cursorFromIndex code with
  | none =>
      rw [found] at named
      cases named
  | some other =>
      rw [found] at named
      cases named
      rw [cursorIndex, indexed code.toNat shape found, UInt64.ofNat_toNat]

theorem cap_of_parse {value : Value} {cap : Cap} (read : parseCap value = .ok cap) :
    value = capValue cap := by
  obtain ⟨code, held, named⟩ := bind_eq_ok_iff.mp read
  rw [parseUint_eq_ok.mp held]
  split at named <;> cases named <;> rfl

theorem join_of_parse {value : Value} {join : Join} (read : parseJoin value = .ok join) :
    value = joinValue join := by
  obtain ⟨code, held, named⟩ := bind_eq_ok_iff.mp read
  rw [parseUint_eq_ok.mp held]
  split at named <;> cases named <;> rfl

theorem shrinks_transform : Shrinks parseTransform transformValue := by
  intro value part read
  obtain ⟨values, held, read⟩ := bind_eq_ok_iff.mp read
  obtain ⟨_, read⟩ := ite_error_eq_ok_iff.mp read
  obtain ⟨scalars, collected, read⟩ := bind_eq_ok_iff.mp read
  obtain ⟨terms, six, same⟩ := bind_eq_ok_iff.mp read
  cases same
  rw [parseArray_eq_ok.mp held, transformValue, exactly_eq_ok six]
  exact shrinks_array shrinks_scalar collected

theorem shrinks_corners :
    Shrinks parseCorners fun corners => .array (corners.radii.toList.map integer) := by
  intro value part read
  obtain ⟨values, held, read⟩ := bind_eq_ok_iff.mp read
  obtain ⟨scalars, collected, read⟩ := bind_eq_ok_iff.mp read
  obtain ⟨radii, four, same⟩ := bind_eq_ok_iff.mp read
  cases same
  rw [parseArray_eq_ok.mp held]
  dsimp only
  rw [exactly_eq_ok four]
  exact shrinks_array shrinks_scalar collected

theorem shrinks_maxWidth : Shrinks parseMaxWidth (orNull integer) := by
  intro value part read
  unfold parseMaxWidth at read
  split at read
  · cases read
    exact le_rfl
  · obtain ⟨width, held, same⟩ := bind_eq_ok_iff.mp read
    cases same
    exact shrinks_scalar _ _ held

/-- No dashes are written as null, also where they came as an empty array. -/
theorem shrinks_dashes :
    Shrinks parseDashes fun dashes => if dashes = [] then .null else .array (dashes.map integer) := by
  intro value part read
  unfold parseDashes at read
  dsimp only
  split at read
  · cases read
    exact le_rfl
  · obtain ⟨values, held, collected⟩ := bind_eq_ok_iff.mp read
    rw [parseArray_eq_ok.mp held]
    have sizes := shrinks_array shrinks_scalar collected
    split_ifs with none
    · rw [none] at sizes
      exact sizes
    · exact sizes

/-! ## Commands -/

theorem shrinks_textCommand {text origin size family weight italic color maxWidth : Value}
    {run : Text}
    (read : parseTextCommand text origin size family weight italic color maxWidth = .ok run) :
    (commandValue (.text run)).size ≤ (Value.array
      [.unsigned 7, text, origin, size, family, weight, italic, color, maxWidth]).size := by
  obtain ⟨content, first, read⟩ := bind_eq_ok_iff.mp read
  obtain ⟨place, second, read⟩ := bind_eq_ok_iff.mp read
  obtain ⟨extent, third, read⟩ := bind_eq_ok_iff.mp read
  obtain ⟨font, fourth, read⟩ := bind_eq_ok_iff.mp read
  obtain ⟨bold, fifth, read⟩ := bind_eq_ok_iff.mp read
  obtain ⟨slanted, sixth, read⟩ := bind_eq_ok_iff.mp read
  obtain ⟨paint, seventh, read⟩ := bind_eq_ok_iff.mp read
  obtain ⟨width, eighth, same⟩ := bind_eq_ok_iff.mp read
  cases same
  have contentSize := shrinks_text _ _ first
  have placeSize := shrinks_point _ _ second
  have extentSize := shrinks_scalar _ _ third
  have fontSize := shrinks_text _ _ fourth
  have boldSize : (Value.unsigned bold.toUInt64).size ≤ _ := shrinks_small _ _ fifth
  have slantedSize := shrinks_boolean _ _ sixth
  have paintSize : (Value.unsigned paint.rgba.toUInt64).size ≤ _ := shrinks_color _ _ seventh
  have widthSize := shrinks_maxWidth _ _ eighth
  refine size_array_le rfl ?_
  simp only [Value.sizeItems_cons]
  omega

theorem shrinks_shadow {rect radii color offset blur spread inset : Value} {shadow : Shadow}
    (read : parseShadow rect radii color offset blur spread inset = .ok shadow) :
    (commandValue (.shadow shadow)).size ≤
      (Value.array [.unsigned 11, rect, radii, color, offset, blur, spread, inset]).size := by
  obtain ⟨area, first, read⟩ := bind_eq_ok_iff.mp read
  obtain ⟨corners, second, read⟩ := bind_eq_ok_iff.mp read
  obtain ⟨paint, third, read⟩ := bind_eq_ok_iff.mp read
  obtain ⟨place, fourth, read⟩ := bind_eq_ok_iff.mp read
  obtain ⟨soft, fifth, read⟩ := bind_eq_ok_iff.mp read
  obtain ⟨wide, sixth, read⟩ := bind_eq_ok_iff.mp read
  obtain ⟨inner, seventh, same⟩ := bind_eq_ok_iff.mp read
  cases same
  have areaSize := shrinks_rect _ _ first
  have cornersSize : (Value.array (corners.radii.toList.map integer)).size ≤ _ :=
    shrinks_corners _ _ second
  have paintSize : (Value.unsigned paint.rgba.toUInt64).size ≤ _ := shrinks_color _ _ third
  have placeSize := shrinks_point _ _ fourth
  have softSize := shrinks_scalar _ _ fifth
  have wideSize := shrinks_scalar _ _ sixth
  have innerSize := shrinks_boolean _ _ seventh
  refine size_array_le rfl ?_
  simp only [Value.sizeItems_cons]
  omega

/-- The elements that a style adds to a stroke. -/
def styleItems (style : StrokeStyle) : List Value :=
  [integer style.width, capValue style.cap, joinValue style.join, integer style.miterLimit,
    if style.dashes = [] then .null else .array (style.dashes.map integer),
    integer style.dashOffset]

theorem shrinks_style {width cap join miter dashes dashOffset : Value} {style : StrokeStyle}
    (read : parseStyle width cap join miter dashes dashOffset = .ok style) :
    Value.sizeItems (styleItems style) ≤
      Value.sizeItems [width, cap, join, miter, dashes, dashOffset] := by
  obtain ⟨wide, first, read⟩ := bind_eq_ok_iff.mp read
  obtain ⟨ends, second, read⟩ := bind_eq_ok_iff.mp read
  obtain ⟨corners, third, read⟩ := bind_eq_ok_iff.mp read
  obtain ⟨limit, fourth, read⟩ := bind_eq_ok_iff.mp read
  obtain ⟨pattern, fifth, read⟩ := bind_eq_ok_iff.mp read
  obtain ⟨phase, sixth, same⟩ := bind_eq_ok_iff.mp read
  cases same
  have wideSize := shrinks_scalar _ _ first
  have limitSize := shrinks_scalar _ _ fourth
  have patternSize : (if pattern = [] then Value.null else .array (pattern.map integer)).size ≤ _ :=
    shrinks_dashes _ _ fifth
  have phaseSize := shrinks_scalar _ _ sixth
  rw [cap_of_parse second, join_of_parse third]
  unfold styleItems
  simp only [Value.sizeItems_cons]
  omega

theorem shrinks_command : Shrinks parseCommand commandValue := by
  intro value part read
  obtain ⟨values, held, read⟩ := bind_eq_ok_iff.mp read
  rw [parseArray_eq_ok.mp held]
  split at read
  · obtain ⟨path, first, read⟩ := bind_eq_ok_iff.mp read
    obtain ⟨brush, second, same⟩ := bind_eq_ok_iff.mp read
    cases same
    have drawn := shrinks_path _ _ first
    have painted := shrinks_brush _ _ second
    refine size_array_le rfl ?_
    simp only [Value.sizeItems_cons]
    omega
  · obtain ⟨path, first, read⟩ := bind_eq_ok_iff.mp read
    obtain ⟨brush, second, read⟩ := bind_eq_ok_iff.mp read
    obtain ⟨width, third, same⟩ := bind_eq_ok_iff.mp read
    cases same
    have drawn := shrinks_path _ _ first
    have painted := shrinks_brush _ _ second
    have wide := shrinks_scalar _ _ third
    refine size_array_le rfl ?_
    simp only [Value.sizeItems_cons]
    omega
  · cases read
    exact le_rfl
  · cases read
    exact le_rfl
  · obtain ⟨transform, first, same⟩ := bind_eq_ok_iff.mp read
    cases same
    have moved := shrinks_transform _ _ first
    refine size_array_le rfl ?_
    simp only [Value.sizeItems_cons]
    omega
  · obtain ⟨path, first, same⟩ := bind_eq_ok_iff.mp read
    cases same
    have drawn := shrinks_path _ _ first
    refine size_array_le rfl ?_
    simp only [Value.sizeItems_cons]
    omega
  · obtain ⟨opacity, first, same⟩ := bind_eq_ok_iff.mp read
    cases same
    have seen : (Value.unsigned opacity.toUInt64).size ≤ _ := shrinks_small _ _ first
    refine size_array_le rfl ?_
    simp only [Value.sizeItems_cons]
    omega
  · obtain ⟨text, first, same⟩ := bind_eq_ok_iff.mp read
    cases same
    exact shrinks_textCommand first
  · obtain ⟨layout, first, read⟩ := bind_eq_ok_iff.mp read
    obtain ⟨origin, second, same⟩ := bind_eq_ok_iff.mp read
    cases same
    rw [parseUint_eq_ok.mp first]
    have placed := shrinks_point _ _ second
    refine size_array_le rfl ?_
    simp only [Value.sizeItems_cons]
    omega
  · obtain ⟨asset, first, read⟩ := bind_eq_ok_iff.mp read
    obtain ⟨rect, second, read⟩ := bind_eq_ok_iff.mp read
    obtain ⟨opacity, third, same⟩ := bind_eq_ok_iff.mp read
    cases same
    rw [parseUint_eq_ok.mp first]
    have placed := shrinks_rect _ _ second
    have seen : (Value.unsigned opacity.toUInt64).size ≤ _ := shrinks_small _ _ third
    refine size_array_le rfl ?_
    simp only [Value.sizeItems_cons]
    omega
  · obtain ⟨id, first, read⟩ := bind_eq_ok_iff.mp read
    obtain ⟨path, second, read⟩ := bind_eq_ok_iff.mp read
    obtain ⟨role, third, same⟩ := bind_eq_ok_iff.mp read
    cases same
    rw [parseUint_eq_ok.mp first, role_of_parse third]
    have drawn := shrinks_path _ _ second
    refine size_array_le rfl ?_
    simp only [Option.map_none, Option.toList_none, List.append_nil, Value.sizeItems_cons]
    omega
  · obtain ⟨id, first, read⟩ := bind_eq_ok_iff.mp read
    obtain ⟨path, second, read⟩ := bind_eq_ok_iff.mp read
    obtain ⟨role, third, read⟩ := bind_eq_ok_iff.mp read
    obtain ⟨shape, fourth, same⟩ := bind_eq_ok_iff.mp read
    cases same
    rw [parseUint_eq_ok.mp first, role_of_parse third, cursor_of_parse fourth]
    have drawn := shrinks_path _ _ second
    refine size_array_le rfl ?_
    simp only [Option.map_some, Option.toList_some, List.cons_append, List.nil_append,
      Value.sizeItems_cons]
    omega
  · obtain ⟨shadow, first, same⟩ := bind_eq_ok_iff.mp read
    cases same
    exact shrinks_shadow first
  · obtain ⟨path, first, read⟩ := bind_eq_ok_iff.mp read
    obtain ⟨brush, second, read⟩ := bind_eq_ok_iff.mp read
    obtain ⟨style, third, same⟩ := bind_eq_ok_iff.mp read
    cases same
    have drawn := shrinks_path _ _ first
    have painted := shrinks_brush _ _ second
    have styled := shrinks_style third
    unfold styleItems at styled
    refine size_array_le rfl ?_
    simp only [Value.sizeItems_cons] at styled ⊢
    omega
  · cases read

end VividProtocol.Drawing
