import Mathlib.Tactic
import Mathlib.Data.List.DropRight
import VividProtocol.Library.Delimited
import VividProtocol.Media.AnnexB
import VividProtocol.Media.Initialization

/-!
# The NAL units of an access unit

`annexb_nals` and `access_unit_is_key` of `media.rs`, two scanners for start
codes.  The first cuts a buffer into units, the second looks at every position
for a header.  They find the same units, because start codes do not overlap
and no header that matters is zero.
-/

set_option autoImplicit false

namespace VividProtocol.Media

open VividProtocol.Library.Delimited
open VividProtocol.Library.Fields
open VividProtocol.Library.Result

/-! ## Cutting -/

def findStartCode (data : List UInt8) : Option (Nat × Nat) :=
  (List.range (data.length - 2)).findSome? fun index =>
    if [0, 0, 0, 1].isPrefixOf (data.drop index) then some (index, 4)
    else if [0, 0, 1].isPrefixOf (data.drop index) then some (index, 3)
    else none

/-- `while nal.last() == Some(&0)`. -/
def dropPadding (nal : List UInt8) : List UInt8 := nal.rdropWhile fun byte => byte == 0

theorem findStartCode_moves {data : List UInt8} {start width : Nat}
    (found : findStartCode data = some (start, width)) : 0 < data.length ∧ 3 ≤ width := by
  obtain ⟨earlier, index, later, listed, here, -⟩ := List.findSome?_eq_some_iff.mp found
  have among : index ∈ List.range (data.length - 2) := by
    rw [listed]
    simp
  have inside := List.mem_range.mp among
  split_ifs at here
  · have same := Option.some.inj here
    rw [Prod.mk.injEq] at same
    omega
  · have same := Option.some.inj here
    rw [Prod.mk.injEq] at same
    omega

def annexbNals (data : List UInt8) : List (List UInt8) :=
  match _found : findStartCode data with
  | none => []
  | some (start, width) =>
      let data := data.drop (start + width)
      let stop :=
        match findStartCode data with
        | none => data.length
        | some (index, _) => index
      let nal := dropPadding (data.take stop)
      if nal = [] then annexbNals (data.drop stop) else nal :: annexbNals (data.drop stop)
termination_by data.length
decreasing_by
  all_goals
    have moves := findStartCode_moves _found
    simp only [List.length_drop]
    omega

/-! ## Key units -/

/-- The header that a start code at an index stands before. -/
def nalHeaderAt (data : List UInt8) (index : Nat) : Option UInt8 :=
  if slice index 3 data = some [0, 0, 1] then data[index + 3]?
  else if slice index 4 data = some [0, 0, 0, 1] then data[index + 4]?
  else none

def annexBNalHeaders (data : List UInt8) : Except IoError (List UInt8) :=
  if startsWithStartCode data then .ok ((List.range data.length).filterMap (nalHeaderAt data))
  else .error (invalid "access unit is not Annex B")

structure BitReader where
  data : List UInt8
  bit : Nat
  deriving Repr, DecidableEq

namespace BitReader

def new (data : List UInt8) : BitReader := { data := data, bit := 0 }

/-- The turns of `read` that are left, with the value so far. -/
def readOnto (value : UInt8) : Nat → StateT BitReader (Except IoError) UInt8
  | 0 => pure value
  | count + 1 => fun reader =>
      match reader.data[reader.bit / 8]? with
      | none => .error (invalid "truncated codec header")
      | some byte =>
          readOnto ((value <<< 1) ||| ((byte >>> UInt8.ofNat (7 - reader.bit % 8)) &&& 1)) count
            { reader with bit := reader.bit + 1 }

def read (count : Nat) : StateT BitReader (Except IoError) UInt8 := readOnto 0 count

end BitReader

def vp9FrameIsKey : StateT BitReader (Except IoError) Bool := do
  let marker ← BitReader.read 2
  if marker ≠ 2 then throw (invalid "VP9 frame marker is invalid")
  let low ← BitReader.read 1
  let high ← BitReader.read 1
  if (low ||| (high <<< 1)) = 3 then
    let reserved ← BitReader.read 1
    if reserved ≠ 0 then throw (invalid "VP9 reserved profile bit is set")
  let existing ← BitReader.read 1
  if existing ≠ 0 then pure false
  else
    let interFrame ← BitReader.read 1
    pure (decide (interFrame = 0))

/-- The bytes of `read_leb128` from a place in the number on. -/
def readLeb128At : Nat → UInt64 → List UInt8 → Except IoError (Nat × Nat)
  | 8, _, _ => .error (invalid "invalid AV1 OBU length")
  | _, _, [] => .error (invalid "invalid AV1 OBU length")
  | index, value, byte :: rest =>
      let value := value ||| ((byte &&& 0x7f).toUInt64 <<< UInt64.ofNat (index * 7))
      if byte &&& 0x80 = 0 then .ok (value.toNat, index + 1)
      else readLeb128At (index + 1) value rest

def readLeb128 (data : List UInt8) : Except IoError (Nat × Nat) := readLeb128At 0 0 data

/-- Where the answer of an OBU is, or where the next one begins. -/
inductive ObuTurn where
  | frame (body : List UInt8)
  | next (offset : Nat)

/-- One round of the loop over the OBUs. -/
def takeObu (data : List UInt8) (offset : Nat) : Except IoError ObuTurn := do
  let header ← okOr "truncated AV1 OBU" data[offset]?
  if header &&& 0x81 ≠ 0 ∨ header &&& 0x02 = 0 then
    .error (invalid "invalid AV1 low-overhead OBU header")
  else do
    let extended := if header &&& 0x04 ≠ 0 then offset + 2 else offset + 1
    if data.length < extended then .error (invalid "truncated AV1 OBU extension")
    else do
      let (size, lengthBytes) ← readLeb128 (data.drop extended)
      let body := extended + lengthBytes
      if data.length < body + size then .error (invalid "AV1 OBU exceeds access unit")
      else if (header >>> 3) &&& 0x0f = 3 ∨ (header >>> 3) &&& 0x0f = 6 then
        .ok (.frame ((data.drop body).take size))
      else .ok (.next (body + size))

def av1ShownKey : StateT BitReader (Except IoError) Bool := do
  let existing ← BitReader.read 1
  if existing ≠ 0 then pure false
  else
    let type ← BitReader.read 2
    pure (decide (type = 0))

theorem takeObu_moves {data : List UInt8} {offset next : Nat}
    (taken : takeObu data offset = .ok (.next next)) : offset < next := by
  unfold takeObu at taken
  obtain ⟨header, -, taken⟩ := bind_eq_ok_iff.mp taken
  obtain ⟨-, taken⟩ := ite_error_eq_ok_iff.mp taken
  have further : offset < if header &&& 0x04 ≠ 0 then offset + 2 else offset + 1 := by
    split_ifs <;> omega
  dsimp only at taken
  generalize (if header &&& 0x04 ≠ 0 then offset + 2 else offset + 1) = extended at taken further
  obtain ⟨-, taken⟩ := ite_error_eq_ok_iff.mp taken
  obtain ⟨number, -, taken⟩ := bind_eq_ok_iff.mp taken
  obtain ⟨-, taken⟩ := ite_error_eq_ok_iff.mp taken
  split_ifs at taken
  · cases taken
  · have same := ObuTurn.next.inj (Except.ok.inj taken)
    omega

def av1FrameIsKeyAt (data : List UInt8) (offset : Nat) : Except IoError Bool :=
  if offset < data.length then
    match _taken : takeObu data offset with
    | .error error => .error error
    | .ok (.frame body) => (av1ShownKey.run (BitReader.new body)).map Prod.fst
    | .ok (.next next) => av1FrameIsKeyAt data next
  else .error (invalid "AV1 access unit has no frame header")
termination_by data.length - offset
decreasing_by
  have moves := takeObu_moves _taken
  omega

def av1FrameIsKey (data : List UInt8) : Except IoError Bool := av1FrameIsKeyAt data 0

/-- `header & 0x1f == 5`. -/
def h264Key (header : UInt8) : Bool := decide (header &&& 0x1f = 5)

/-- `matches!((header >> 1) & 0x3f, 16..=21)`. -/
def hevcKey (header : UInt8) : Bool :=
  let type := (header >>> 1) &&& 0x3f
  decide (16 ≤ type) && decide (type ≤ 21)

def accessUnitIsKey (codec : String) (data : List UInt8) : Except IoError Bool :=
  if data = [] then .error (invalid "portable access unit is empty")
  else if codec = "h264" then (annexBNalHeaders data).map fun headers => headers.any h264Key
  else if codec = "hevc" then (annexBNalHeaders data).map fun headers => headers.any hevcKey
  else if codec = "vp9" then (vp9FrameIsKey.run (BitReader.new data)).map Prod.fst
  else if codec = "av1" then av1FrameIsKey data
  else .error (invalid "unsupported portable codec")

/-! ## Where the cuts are -/

/-- The three bytes both forms of a start code end with. -/
def codeMark : List UInt8 := [0, 0, 1]

theorem codeMark_unbordered : Unbordered codeMark := by
  intro front back whole some_front begins
  rcases List.cons_eq_append_iff.mp whole with ⟨none, -⟩ | ⟨second, -, rest⟩
  · exact absurd none some_front
  · rcases List.cons_eq_append_iff.mp rest with ⟨-, same⟩ | ⟨third, -, rest⟩
    · exact absurd (same ▸ begins) (by decide)
    · rcases List.cons_eq_append_iff.mp rest with ⟨-, same⟩ | ⟨fourth, -, rest⟩
      · exact absurd (same ▸ begins) (by decide)
      · exact (List.append_eq_nil_iff.mp rest.symm).2

@[simp] theorem dropPadding_nil : dropPadding [] = [] := List.rdropWhile_nil _

theorem dropPadding_zero (nal : List UInt8) : dropPadding (nal ++ [0]) = dropPadding nal :=
  List.rdropWhile_concat_pos _ _ _ rfl

theorem dropPadding_zeros (nal : List UInt8) (count : Nat) :
    dropPadding (nal ++ List.replicate count 0) = dropPadding nal := by
  induction count with
  | zero => simp
  | succ count ih =>
      rw [List.replicate_succ', ← List.append_assoc, dropPadding_zero, ih]

theorem dropPadding_of_last {nal : List UInt8} (last : nal.getLast? ≠ some 0) :
    dropPadding nal = nal := by
  apply List.rdropWhile_eq_self_iff.mpr
  intro some_bytes
  rw [List.getLast?_eq_some_getLast some_bytes] at last
  simpa using last

theorem dropPadding_prefix (nal : List UInt8) : dropPadding nal <+: nal :=
  List.rdropWhile_prefix _ _

/-- A unit that does not begin with zero keeps its first byte. -/
theorem dropPadding_cons {header : UInt8} (nonzero : header ≠ 0) (rest : List UInt8) :
    ∃ kept, dropPadding (header :: rest) = header :: kept := by
  cases shape : dropPadding (header :: rest) with
  | nil =>
      have all := List.rdropWhile_eq_nil_iff.mp shape header List.mem_cons_self
      exact absurd (by simpa using all) nonzero
  | cons first kept =>
      have front := dropPadding_prefix (header :: rest)
      rw [shape, List.cons_prefix_cons] at front
      exact ⟨kept, by rw [front.1]⟩

theorem findSome?_range {β : Type} {first : Nat → Option β} {bound : Nat} (index : Nat) {value : β}
    (inside : index < bound) (here : first index = some value)
    (before : ∀ earlier < index, first earlier = none) :
    (List.range bound).findSome? first = some value := by
  apply List.findSome?_eq_some_iff.mpr
  refine ⟨List.range index, index, List.range' (index + 1) (bound - index - 1), ?_, here, ?_⟩
  · rw [List.range_eq_range', List.range_eq_range', ← List.range'_succ]
    rw [show bound - index - 1 + 1 = bound - index by omega]
    have joined : List.range' 0 index ++ List.range' (0 + index) (bound - index) =
        List.range' 0 (index + (bound - index)) := List.range'_append_1
    rw [Nat.zero_add, show index + (bound - index) = bound by omega] at joined
    exact joined.symm
  · intro earlier among
    exact before earlier (List.mem_range.mp among)

theorem drop_of_code {data : List UInt8} {index : Nat} (here : codeMark <+: data.drop index) :
    ∃ rest, data = data.take index ++ (codeMark ++ rest) := by
  obtain ⟨rest, same⟩ := here
  exact ⟨rest, by rw [same, List.take_append_drop]⟩

theorem code_of_long {data : List UInt8} {index : Nat}
    (here : [0, 0, 0, 1] <+: data.drop index) : codeMark <+: data.drop (index + 1) := by
  obtain ⟨rest, same⟩ := here
  refine ⟨rest, ?_⟩
  rw [← List.drop_drop, ← same]
  rfl

/-- The first start code of a buffer, up to the zero it may begin with. -/
theorem findStartCode_joined {before : List UInt8} (free : Free codeMark before)
    (rest : List UInt8) :
    ∃ start width, findStartCode (before ++ (codeMark ++ rest)) = some (start, width) ∧
      start + width = before.length + 3 ∧ start ≤ before.length ∧
      dropPadding (before.take start) = dropPadding before := by
  generalize whole : before ++ (codeMark ++ rest) = data
  have size : data.length = before.length + 3 + rest.length := by
    rw [← whole]
    simp only [List.length_append, codeMark, List.length_cons, List.length_nil]
    omega
  have short : ∀ index, codeMark <+: data.drop index → before.length ≤ index := by
    intro index here
    obtain ⟨more, same⟩ := drop_of_code here
    have front := le_of_occurrence codeMark_unbordered free (whole.trans same)
    rw [List.length_take] at front
    omega
  have short_code : ∀ index < before.length, ¬ codeMark <+: data.drop index := by
    intro index early here
    have late := short index here
    omega
  have long_code : ∀ index, index + 1 < before.length → ¬ [0, 0, 0, 1] <+: data.drop index := by
    intro index early here
    have late := short (index + 1) (code_of_long here)
    omega
  have none_before : ∀ index, index + 1 < before.length →
      (if [0, 0, 0, 1].isPrefixOf (data.drop index) then some (index, 4)
        else if [0, 0, 1].isPrefixOf (data.drop index) then some (index, 3) else none) = none := by
    intro index early
    rw [if_neg, if_neg]
    · intro here
      exact short_code index (by omega) (List.isPrefixOf_iff_prefix.mp here)
    · intro here
      exact long_code index early (List.isPrefixOf_iff_prefix.mp here)
  have short_here : ∀ index, codeMark ++ rest = data.drop index →
      (if [0, 0, 0, 1].isPrefixOf (data.drop index) then some (index, 4)
        else if [0, 0, 1].isPrefixOf (data.drop index) then some (index, 3) else none) =
        some (index, 3) := by
    intro index same
    rw [← same]
    simp [codeMark, List.isPrefixOf]
  have here : codeMark ++ rest = data.drop before.length := by rw [← whole, List.drop_left]
  rcases List.eq_nil_or_concat before with none | ⟨init, last, shape⟩
  · refine ⟨before.length, 3, ?_, rfl, Nat.le_refl _, by rw [List.take_length]⟩
    refine findSome?_range before.length (by omega) (short_here _ here) ?_
    intro earlier early
    rw [none, List.length_nil] at early
    omega
  · have length : before.length = init.length + 1 := by rw [shape, List.length_concat]
    rw [List.concat_eq_append] at shape
    have at_last : data.drop init.length = last :: (codeMark ++ rest) := by
      rw [← whole, shape, List.append_assoc, List.drop_left]
      rfl
    by_cases zero : last = 0
    · refine ⟨init.length, 4, ?_, by omega, by omega, ?_⟩
      · refine findSome?_range init.length (by omega) ?_ fun earlier early =>
          none_before earlier (by omega)
        rw [at_last, zero]
        simp [codeMark, List.isPrefixOf]
      · rw [shape, zero, List.take_left, dropPadding_zero]
    · refine ⟨before.length, 3, ?_, rfl, Nat.le_refl _, by rw [List.take_length]⟩
      refine findSome?_range before.length (by omega) (short_here _ here) ?_
      intro earlier early
      by_cases far : earlier + 1 < before.length
      · exact none_before earlier far
      · have last_index : earlier = init.length := by omega
        rw [last_index, at_last]
        have different : ((0 : UInt8) == last) = false := by
          simpa using Ne.symm zero
        simp [List.isPrefixOf, different]

theorem findStartCode_free {data : List UInt8} (free : Free codeMark data) :
    findStartCode data = none := by
  apply List.findSome?_eq_none_iff.mpr
  intro index _
  have short : ∀ position, ¬ codeMark <+: data.drop position := fun position here =>
    free (here.isInfix.trans (List.drop_suffix position data).isInfix)
  rw [if_neg, if_neg]
  · intro here
    exact short index (List.isPrefixOf_iff_prefix.mp here)
  · intro here
    exact short (index + 1) (code_of_long (List.isPrefixOf_iff_prefix.mp here))

/-- The splitter finds the pieces between the start codes, without the padding
behind them. -/
theorem annexbNals_joined {before : List UInt8} {pieces : List (List UInt8)}
    (free : Free codeMark before) (all : ∀ piece ∈ pieces, Free codeMark piece) :
    annexbNals (joined codeMark before pieces) =
      (pieces.map dropPadding).filter fun nal => decide (nal ≠ []) := by
  induction pieces generalizing before with
  | nil =>
      rw [joined, annexbNals]
      split
      · rfl
      · next start width found =>
          rw [findStartCode_free free] at found
          cases found
  | cons piece pieces ih =>
      have own := all piece List.mem_cons_self
      have others := fun other among => all other (List.mem_cons_of_mem piece among)
      obtain ⟨start, width, found, ends, -, -⟩ :=
        findStartCode_joined free (joined codeMark piece pieces)
      have past : (before ++ (codeMark ++ joined codeMark piece pieces)).drop (start + width) =
          joined codeMark piece pieces := by
        have size : (before ++ codeMark).length = start + width := by
          rw [List.length_append, ends]
          rfl
        rw [← List.append_assoc, ← size, List.drop_left]
      have cut : ∃ stop, (match findStartCode (joined codeMark piece pieces) with
            | none => (joined codeMark piece pieces).length
            | some (index, _) => index) = stop ∧
          dropPadding ((joined codeMark piece pieces).take stop) = dropPadding piece ∧
          annexbNals ((joined codeMark piece pieces).drop stop) =
            (pieces.map dropPadding).filter fun nal => decide (nal ≠ []) := by
        cases pieces with
        | nil =>
            refine ⟨piece.length, ?_, ?_, ?_⟩
            · rw [joined, findStartCode_free own]
            · rw [joined, List.take_length]
            · rw [joined, List.drop_length]
              exact ih (free_nil (by decide)) (by simp)
        | cons next more =>
            obtain ⟨stop, width, found, -, inside, padded⟩ :=
              findStartCode_joined own (joined codeMark next more)
            have rest : joined codeMark piece (next :: more) =
                piece ++ (codeMark ++ joined codeMark next more) := by
              rw [joined, List.append_assoc]
            refine ⟨stop, by rw [rest, found], ?_, ?_⟩
            · rw [rest, List.take_append_of_le_length inside, padded]
            · have back : (joined codeMark piece (next :: more)).drop stop =
                  joined codeMark (piece.drop stop) (next :: more) := by
                rw [rest, List.drop_append_of_le_length inside, joined, List.append_assoc]
              rw [back]
              exact ih (own.of_infix (List.drop_suffix stop piece).isInfix) others
      obtain ⟨stop, stops, padded, later⟩ := cut
      rw [joined, List.append_assoc, annexbNals]
      split
      · next missing =>
          rw [found] at missing
          cases missing
      · next begins wide again =>
          rw [found] at again
          obtain ⟨sameStart, sameWidth⟩ := Prod.mk.inj (Option.some.inj again)
          rw [← sameStart, ← sameWidth, past]
          dsimp only
          rw [stops, padded, later, List.map_cons, List.filter_cons]
          by_cases empty : dropPadding piece = []
          · simp [empty]
          · simp [empty]

/-! ## Joined units -/

/-- A unit behind a start code, with padding behind it. -/
structure CodedUnit where
  long : Bool
  nal : List UInt8
  padding : Nat
  deriving Repr, DecidableEq

def CodedUnit.bytes (unit : CodedUnit) : List UInt8 :=
  (if unit.long then [0, 0, 0, 1] else [0, 0, 1]) ++ unit.nal ++ List.replicate unit.padding 0

def annexBForm (units : List CodedUnit) : List UInt8 := (units.map CodedUnit.bytes).flatten

/-- A NAL unit as the codec allows it: no start code inside, no zero at its end. -/
structure ProperNal (nal : List UInt8) : Prop where
  some_bytes : nal ≠ []
  last : nal.getLast? ≠ some 0
  free : Free codeMark nal

theorem free_padded {nal : List UInt8} (free : Free codeMark nal) (count : Nat) :
    Free codeMark (nal ++ List.replicate count 0) := by
  induction count with
  | zero => simpa using free
  | succ count ih =>
      rw [List.replicate_succ', ← List.append_assoc]
      intro inside
      rcases List.infix_concat_iff.mp inside with ends | within
      · rcases List.suffix_concat_iff.mp ends with none | ⟨front, same, -⟩
        · exact absurd none (by decide)
        · have last := congrArg List.getLast? same
          rw [List.getLast?_concat] at last
          exact absurd last (by decide)
      · exact ih within

theorem free_zeros (count : Nat) : Free codeMark (List.replicate count 0) := by
  simpa using free_padded (free_nil (by decide)) count

/-- Joined units behind zeros are cut where they were joined. -/
theorem annexBForm_joined {units : List CodedUnit} (proper : ∀ unit ∈ units, ProperNal unit.nal)
    (leading : Nat) :
    ∃ count pieces,
      List.replicate leading 0 ++ annexBForm units =
        joined codeMark (List.replicate count 0) pieces ∧
      pieces.map dropPadding = units.map CodedUnit.nal ∧
      ∀ piece ∈ pieces, Free codeMark piece := by
  induction units generalizing leading with
  | nil => exact ⟨leading, [], by simp [annexBForm, joined], rfl, by simp⟩
  | cons unit units ih =>
      have own := proper unit List.mem_cons_self
      have others := fun other among => proper other (List.mem_cons_of_mem unit among)
      obtain ⟨count, pieces, cut, found, all⟩ := ih others unit.padding
      have padded : dropPadding (unit.nal ++ List.replicate count 0) = unit.nal := by
        rw [dropPadding_zeros, dropPadding_of_last own.last]
      have body : unit.nal ++ (List.replicate unit.padding 0 ++ annexBForm units) =
          joined codeMark (unit.nal ++ List.replicate count 0) pieces := by
        rw [cut, joined_before]
      have code : ∃ zeros, List.replicate leading 0 ++
          (if unit.long then [0, 0, 0, 1] else [0, 0, 1]) =
            List.replicate zeros 0 ++ codeMark := by
        cases unit.long with
        | true => exact ⟨leading + 1, by rw [List.replicate_succ', List.append_assoc]; rfl⟩
        | false => exact ⟨leading, rfl⟩
      obtain ⟨zeros, code⟩ := code
      refine ⟨zeros, (unit.nal ++ List.replicate count 0) :: pieces, ?_, ?_, ?_⟩
      · rw [joined, ← body, ← code]
        simp only [annexBForm, List.map_cons, List.flatten_cons, CodedUnit.bytes,
          List.append_assoc]
      · rw [List.map_cons, List.map_cons, padded, found]
      · intro piece among
        rcases List.mem_cons.mp among with same | among
        · rw [same]
          exact free_padded own.free count
        · exact all piece among

theorem annexbNals_form {units : List CodedUnit} (proper : ∀ unit ∈ units, ProperNal unit.nal)
    (leading : Nat) :
    annexbNals (List.replicate leading 0 ++ annexBForm units) = units.map CodedUnit.nal := by
  obtain ⟨count, pieces, cut, found, all⟩ := annexBForm_joined proper leading
  rw [cut, annexbNals_joined (free_zeros count) all, found]
  apply List.filter_eq_self.mpr
  intro nal among
  obtain ⟨unit, member, same⟩ := List.mem_map.mp among
  rw [← same]
  exact decide_eq_true (proper unit member).some_bytes

/-- What stands before a start code and what it begins are cut apart. -/
theorem annexbNals_append (front rest : List UInt8) :
    annexbNals (front ++ (codeMark ++ rest)) =
      annexbNals front ++ annexbNals (codeMark ++ rest) := by
  obtain ⟨before, pieces, cut, free, all⟩ := @exists_joined _ codeMark (by decide) front
  obtain ⟨first, others, later, firstFree, othersFree⟩ :=
    @exists_joined _ codeMark (by decide) rest
  have after : ∀ piece ∈ first :: others, Free codeMark piece := by
    intro piece among
    rcases List.mem_cons.mp among with same | among
    · rw [same]
      exact firstFree
    · exact othersFree piece among
  have whole : front ++ (codeMark ++ rest) =
      joined codeMark before (pieces ++ first :: others) := by
    rw [joined_split, ← cut, ← later]
  have tail : codeMark ++ rest = joined codeMark [] (first :: others) := by
    rw [joined, ← later, List.nil_append]
  have every : ∀ piece ∈ pieces ++ first :: others, Free codeMark piece := by
    intro piece among
    rcases List.mem_append.mp among with early | late
    · exact all piece early
    · exact after piece late
  rw [whole, annexbNals_joined free every, tail, annexbNals_joined (free_nil (by decide)) after,
    cut, annexbNals_joined free all, List.map_append, List.filter_append]

theorem annexbNals_of_free {data : List UInt8} (free : Free codeMark data) :
    annexbNals data = [] := @annexbNals_joined data [] free (by simp)

/-- Padding at the end changes nothing. -/
theorem annexbNals_zero (data : List UInt8) : annexbNals (data ++ [0]) = annexbNals data := by
  obtain ⟨before, pieces, cut, free, all⟩ := @exists_joined _ codeMark (by decide) data
  rcases List.eq_nil_or_concat pieces with none | ⟨init, last, shape⟩
  · have alone : data = before := by rw [cut, none, joined]
    rw [alone, annexbNals_of_free free]
    exact annexbNals_of_free (free_padded free 1)
  · rw [List.concat_eq_append] at shape
    have own : Free codeMark last := all last (by rw [shape]; simp)
    have others : ∀ piece ∈ init, Free codeMark piece := fun piece among =>
      all piece (by rw [shape]; exact List.mem_append_left _ among)
    have padded : ∀ piece ∈ init ++ [last ++ [0]], Free codeMark piece := by
      intro piece among
      rcases List.mem_append.mp among with early | late
      · exact others piece early
      · rw [List.mem_singleton.mp late]
        exact free_padded own 1
    have longer : data ++ [0] = joined codeMark before (init ++ [last ++ [0]]) := by
      rw [cut, shape, joined_split, joined_split, joined, joined]
      simp only [List.append_assoc]
    rw [longer, annexbNals_joined free padded, cut, annexbNals_joined free all, shape]
    simp only [List.map_append, List.map_cons, List.map_nil, dropPadding_zero]

/-- Each unit behind its own start code is cut as if it stood alone. -/
theorem annexbNals_startCoded (nals : List (List UInt8)) :
    annexbNals (startCoded nals) =
      (nals.map fun nal => annexbNals ([0, 0, 0, 1] ++ nal)).flatten := by
  induction nals with
  | nil => exact annexbNals_of_free (free_nil (by decide))
  | cons nal nals ih =>
      cases nals with
      | nil => simp [startCoded]
      | cons next nals =>
          have split : startCoded (nal :: next :: nals) =
              ([0, 0, 0, 1] ++ nal ++ [0]) ++ (codeMark ++ (next ++ startCoded nals)) := by
            simp [startCoded_cons, codeMark]
          have later : startCoded (next :: nals) =
              [0] ++ (codeMark ++ (next ++ startCoded nals)) := by
            simp [startCoded_cons, codeMark]
          have alone : annexbNals [0] = [] := annexbNals_of_free (free_zeros 1)
          rw [List.map_cons, List.flatten_cons, ← ih, split, annexbNals_append, annexbNals_zero,
            later, annexbNals_append [0], alone, List.nil_append]

/-! ## Headers -/

theorem nalHeaderAt_code {data : List UInt8} {index : Nat} {header : UInt8}
    (read : nalHeaderAt data index = some header) :
    ∃ front rest, data = front ++ (codeMark ++ rest) ∧ rest.head? = some header := by
  unfold nalHeaderAt at read
  split_ifs at read with short long
  · obtain ⟨-, split⟩ := slice_eq_some.mp short
    refine ⟨data.take index, data.drop (index + 3), ?_, ?_⟩
    · exact (List.take_append_drop index data).symm.trans (by rw [split]; rfl)
    · rw [List.head?_drop]
      exact read
  · obtain ⟨-, split⟩ := slice_eq_some.mp long
    refine ⟨data.take index ++ [0], data.drop (index + 4), ?_, ?_⟩
    · exact (List.take_append_drop index data).symm.trans (by
        rw [split, List.append_assoc]
        rfl)
    · rw [List.head?_drop]
      exact read

theorem nalHeaderAt_of_code {front rest : List UInt8} {header : UInt8}
    (head : rest.head? = some header) :
    nalHeaderAt (front ++ (codeMark ++ rest)) front.length = some header := by
  have code : slice front.length 3 (front ++ (codeMark ++ rest)) = some [0, 0, 1] := by
    refine slice_eq_some.mpr ⟨by simp [codeMark], ?_⟩
    rw [List.drop_left, ← List.drop_drop, List.drop_left]
    rfl
  rw [nalHeaderAt, if_pos code, ← List.head?_drop, ← List.drop_drop, List.drop_left]
  exact head

theorem mem_annexBNalHeaders {data headers : List UInt8}
    (read : annexBNalHeaders data = .ok headers) {header : UInt8} :
    header ∈ headers ↔
      ∃ front rest, data = front ++ (codeMark ++ rest) ∧ rest.head? = some header := by
  unfold annexBNalHeaders at read
  split_ifs at read
  rw [← Except.ok.inj read, List.mem_filterMap]
  constructor
  · intro found
    obtain ⟨index, -, here⟩ := found
    exact nalHeaderAt_code here
  · intro occurs
    obtain ⟨front, rest, same, head⟩ := occurs
    refine ⟨front.length, ?_, by rw [same]; exact nalHeaderAt_of_code head⟩
    rw [List.mem_range, same]
    simp [codeMark]

/-- A header that is not zero belongs to a unit of the splitter, and the other
way round. -/
theorem header_of_nal {wanted : UInt8 → Bool} (nonzero : wanted 0 = false)
    {data headers : List UInt8} (read : annexBNalHeaders data = .ok headers) :
    headers.any wanted = true ↔
      ∃ nal ∈ annexbNals data, ∃ header, nal.head? = some header ∧ wanted header = true := by
  obtain ⟨before, pieces, cut, free, all⟩ := @exists_joined _ codeMark (by decide) data
  have found : annexbNals data = (pieces.map dropPadding).filter fun nal => decide (nal ≠ []) := by
    rw [cut]
    exact annexbNals_joined free all
  rw [List.any_eq_true, found]
  constructor
  · intro some_header
    obtain ⟨header, among, good⟩ := some_header
    obtain ⟨front, rest, same, head⟩ := (mem_annexBNalHeaders read).mp among
    obtain ⟨earlier, piece, later, listed, follows⟩ :=
      occurrence_split codeMark_unbordered free all (cut.symm.trans same)
    have other : header ≠ 0 := by
      intro zero
      rw [zero, nonzero] at good
      cases good
    cases piece with
    | nil =>
        rw [follows] at head
        cases later with
        | nil => cases head
        | cons next later => exact absurd (Option.some.inj head).symm other
    | cons first bytes =>
        have first_byte : first = header := by
          rw [follows] at head
          cases later with
          | nil => exact Option.some.inj head
          | cons next later => exact Option.some.inj head
        obtain ⟨kept, shape⟩ := dropPadding_cons (first_byte ▸ other) bytes
        refine ⟨first :: kept, ?_, header, by rw [first_byte]; rfl, good⟩
        refine List.mem_filter.mpr ⟨List.mem_map.mpr ⟨first :: bytes, ?_, shape⟩, by simp⟩
        rw [listed]
        simp
  · intro some_nal
    obtain ⟨nal, among, header, head, good⟩ := some_nal
    obtain ⟨member, -⟩ := List.mem_filter.mp among
    obtain ⟨piece, inside, same⟩ := List.mem_map.mp member
    obtain ⟨earlier, later, listed⟩ := List.append_of_mem inside
    refine ⟨header, (mem_annexBNalHeaders read).mpr ?_, good⟩
    refine ⟨joined codeMark before earlier, joined codeMark piece later, ?_, ?_⟩
    · rw [cut, listed, joined_split]
    · obtain ⟨dropped, whole⟩ := dropPadding_prefix piece
      have front : piece.head? = some header := by
        rw [← whole, same]
        cases nal with
        | nil => cases head
        | cons first bytes => exact head
      cases piece with
      | nil => cases front
      | cons first bytes =>
          cases later with
          | nil => exact front
          | cons next later => exact front

theorem accessUnitIsKey_iff {data : List UInt8} (coded : startsWithStartCode data = true)
    {wanted : UInt8 → Bool} (nonzero : wanted 0 = false) :
    ((annexBNalHeaders data).map fun headers => headers.any wanted) = .ok true ↔
      ∃ nal ∈ annexbNals data, ∃ header, nal.head? = some header ∧ wanted header = true := by
  have read : annexBNalHeaders data =
      .ok ((List.range data.length).filterMap (nalHeaderAt data)) := by
    rw [annexBNalHeaders, if_pos coded]
  rw [← header_of_nal nonzero read, read, Except.map, Except.ok.injEq]

/-- Units joined with any start codes and any padding are found again, and an
access unit is a key one exactly when one of its units is. -/
theorem nal_units_found :
    (∀ units : List CodedUnit, (∀ unit ∈ units, ProperNal unit.nal) →
      annexbNals (annexBForm units) = units.map CodedUnit.nal) ∧
    ∀ data : List UInt8, startsWithStartCode data = true →
      (accessUnitIsKey "h264" data = .ok true ↔
        ∃ nal ∈ annexbNals data, ∃ header, nal.head? = some header ∧ header &&& 0x1f = 5) ∧
      (accessUnitIsKey "hevc" data = .ok true ↔
        ∃ nal ∈ annexbNals data, ∃ header, nal.head? = some header ∧
          (16 : UInt8) ≤ (header >>> 1) &&& 0x3f ∧ (header >>> 1) &&& 0x3f ≤ (21 : UInt8)) := by
  constructor
  · intro units proper
    exact annexbNals_form proper 0
  · intro data coded
    have some_bytes : data ≠ [] := by
      intro none
      rw [none] at coded
      exact absurd coded (by decide)
    constructor
    · rw [accessUnitIsKey, if_neg some_bytes, if_pos rfl, accessUnitIsKey_iff coded (by decide)]
      simp only [h264Key, decide_eq_true_eq]
    · rw [accessUnitIsKey, if_neg some_bytes, if_neg (by decide), if_pos rfl,
        accessUnitIsKey_iff coded (by decide)]
      simp only [hevcKey, Bool.and_eq_true, decide_eq_true_eq]

theorem nal_units_found_mixed :
    annexbNals [0, 0, 0, 1, 0x67, 0x64, 0, 0, 0, 0, 1, 0x65, 0x88] = [[0x67, 0x64], [0x65, 0x88]] ∧
    (accessUnitIsKey "h264" [0, 0, 1, 0x65] = .ok true ↔
      ∃ nal ∈ annexbNals [0, 0, 1, 0x65], ∃ header, nal.head? = some header ∧
        header &&& 0x1f = 5) := by
  have first : ProperNal [0x67, 0x64] := ⟨by decide, by decide, by unfold Free codeMark; decide⟩
  have second : ProperNal [0x65, 0x88] := ⟨by decide, by decide, by unfold Free codeMark; decide⟩
  refine ⟨nal_units_found.1 [⟨true, [0x67, 0x64], 2⟩, ⟨false, [0x65, 0x88], 0⟩] ?_,
    (nal_units_found.2 [0, 0, 1, 0x65] (by decide)).1⟩
  simp [first, second]

end VividProtocol.Media
