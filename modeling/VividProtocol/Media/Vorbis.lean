import Mathlib.Tactic
import VividProtocol.Library.Bounds
import VividProtocol.Media.Initialization

/-!
# Vorbis initialization data

`validate_vorbis_headers` accepts three packets in Xiph lacing whose second is a
whole comment header.  The grammar is written out, and each reader has one
lemma that says what stood at its cursor.  A second form of the function keeps
its indices and sums, to show that none leaves its range.
-/

set_option autoImplicit false

namespace VividProtocol.Media

open VividProtocol.Cbor (textBytes)
open VividProtocol.Library.BigEndian
open VividProtocol.Library.Bounds
open VividProtocol.Library.Fields
open VividProtocol.Library.Result

/-! ## The grammar -/

/-- Full bytes, then what is left. -/
def laced (length : Nat) : List UInt8 :=
  List.replicate (length / 255) 255 ++ [UInt8.ofNat (length % 255)]

def le32 (number : Nat) : List UInt8 := (toBytes 4 number).reverse

def lengthPrefixedLe (text : List UInt8) : List UInt8 := le32 text.length ++ text

/-- The small block and the large one, as powers of two. -/
def BlockSizes (byte : UInt8) : Prop :=
  let smallBlock : UInt8 := byte &&& 0x0f
  let largeBlock : UInt8 := byte >>> 4
  6 ≤ smallBlock ∧ smallBlock ≤ largeBlock ∧ largeBlock ≤ 13

/-- An identification header, of 30 bytes, for a rate and a channel count. -/
def Identification (sampleRate : UInt32) (channels : UInt16) (packet : List UInt8) : Prop :=
  ∃ (channelByte : UInt8) (bitrates : List UInt8) (blockSizes : UInt8),
    packet = vorbisSignature 1 ++ ([0, 0, 0, 0] ++ (channelByte ::
      (le32 sampleRate.toNat ++ (bitrates ++ [blockSizes, 1])))) ∧
    bitrates.length = 12 ∧ channelByte.toUInt16 = channels ∧
    BlockSizes blockSizes

/-- A comment header with nothing behind its framing byte. -/
def CommentHeader (packet : List UInt8) : Prop :=
  ∃ (vendor : List UInt8) (comments : List (List UInt8)),
    vendor.length < 2 ^ 32 ∧ comments.length < 2 ^ 32 ∧
    (∀ comment ∈ comments, comment.length < 2 ^ 32) ∧
    packet = vorbisSignature 3 ++ (lengthPrefixedLe vendor ++ (le32 comments.length ++
      ((comments.map lengthPrefixedLe).flatten ++ [1])))

/-- Three headers in lacing. -/
def VorbisHeaders (sampleRate : UInt32) (channels : UInt16) (headers : List UInt8) : Prop :=
  ∃ identification comments setup : List UInt8,
    headers = 2 :: (laced identification.length ++ (laced comments.length ++
      (identification ++ (comments ++ setup)))) ∧
    Identification sampleRate channels identification ∧ CommentHeader comments ∧
    setup ≠ [] ∧ vorbisSignature 5 <+: setup

/-! ## Lengths -/

theorem laced_small {length : Nat} (small : length < 255) : laced length = [UInt8.ofNat length] := by
  rw [laced, Nat.div_eq_of_lt small, Nat.mod_eq_of_lt small]
  rfl

theorem laced_more (length : Nat) : laced (length + 255) = 255 :: laced length := by
  rw [laced, laced, Nat.add_div_right _ (by omega), Nat.add_mod_right, List.replicate_succ,
    List.cons_append]

theorem xiphLacedLength_laced (length : Nat) (rest : List UInt8) (cursor start : Nat) :
    xiphLacedLength (laced length ++ rest) cursor start =
      .ok (start + length, cursor + (laced length).length) := by
  induction length using Nat.strong_induction_on generalizing cursor start with
  | h length ih =>
      by_cases small : length < 255
      · have different : UInt8.ofNat length ≠ 255 := by
          intro same
          have numbers := congrArg UInt8.toNat same
          rw [UInt8.toNat_ofNat', Nat.mod_eq_of_lt (by omega)] at numbers
          exact absurd numbers (Nat.ne_of_lt small)
        have number : (UInt8.ofNat length).toNat = length := by
          rw [UInt8.toNat_ofNat', Nat.mod_eq_of_lt (by omega)]
        rw [laced_small small]
        simp only [List.singleton_append, xiphLacedLength, different, ne_eq, not_false_eq_true,
          if_true, number, List.length_singleton]
      · obtain ⟨less, shape⟩ : ∃ less, length = less + 255 := ⟨length - 255, by omega⟩
        have full : (255 : UInt8).toNat = 255 := rfl
        rw [shape, laced_more]
        simp only [List.cons_append, xiphLacedLength, ne_eq, not_true_eq_false, if_false]
        rw [ih less (by omega), full, List.length_cons]
        have sums : start + 255 + less = start + (less + 255) := by omega
        have cursors : cursor + 1 + (laced less).length = cursor + ((laced less).length + 1) := by
          omega
        rw [sums, cursors]

theorem xiphLacedLength_eq_ok {unread : List UInt8} {cursor start total stop : Nat}
    (read : xiphLacedLength unread cursor start = .ok (total, stop)) :
    ∃ length rest, unread = laced length ++ rest ∧ total = start + length ∧
      stop = cursor + (laced length).length := by
  induction unread generalizing cursor start with
  | nil => cases read
  | cons value unread ih =>
      rw [xiphLacedLength] at read
      split_ifs at read with last
      · obtain ⟨sum, moved⟩ := Prod.mk.inj (Except.ok.inj read)
        have bound := value.toNat_lt
        have small : value.toNat < 255 := by
          have different : value.toNat ≠ 255 := fun same => last (UInt8.toNat_inj.mp same)
          omega
        refine ⟨value.toNat, unread, ?_, sum.symm, ?_⟩
        · rw [laced_small small, UInt8.ofNat_toNat]
          rfl
        · rw [laced_small small, ← moved]
          rfl
      · obtain ⟨length, rest, shape, sum, moved⟩ := ih read
        have full : value = 255 := not_not.mp last
        have number : value.toNat = 255 := by rw [full]; rfl
        refine ⟨length + 255, rest, ?_, by omega, ?_⟩
        · rw [laced_more, shape, full]
          rfl
        · rw [laced_more, moved, List.length_cons]
          omega

@[simp] theorem length_le32 (number : Nat) : (le32 number).length = 4 := by
  rw [le32, List.length_reverse, length_toBytes]

theorem littleEndian_le32 {number : Nat} (small : number < 2 ^ 32) :
    littleEndian (le32 number) = number := by
  rw [littleEndian, le32, List.reverse_reverse]
  exact ofBytes_toBytes 4 number (small.trans_eq (by norm_num))

theorem littleEndian_lt {field : List UInt8} (four : field.length = 4) :
    littleEndian field < 2 ^ 32 := by
  have bound := ofBytes_lt field.reverse
  rw [List.length_reverse, four] at bound
  exact bound.trans_eq (by norm_num)

theorem le32_littleEndian {field : List UInt8} (four : field.length = 4) :
    le32 (littleEndian field) = field := by
  have back := toBytes_ofBytes field.reverse
  rw [List.length_reverse, four] at back
  rw [le32, littleEndian, back, List.reverse_reverse]

/-- The number at a cursor, and what stands behind it. -/
theorem takeVorbisLength_eq_some {bytes : List UInt8} {cursor number next : Nat} :
    takeVorbisLength bytes cursor = some (number, next) ↔
      number < 2 ^ 32 ∧ next = cursor + 4 ∧ next ≤ bytes.length ∧
        bytes.drop cursor = le32 number ++ bytes.drop next := by
  unfold takeVorbisLength
  cases read : slice cursor 4 bytes with
  | none =>
      constructor
      · intro impossible
        cases impossible
      · intro held
        obtain ⟨-, same, inside, split⟩ := held
        rw [same] at inside split
        have found := slice_eq_some.mpr ⟨inside, split⟩
        rw [read] at found
        cases found
  | some field =>
      have four := slice_length read
      obtain ⟨inside, split⟩ := slice_eq_some.mp read
      simp only [Option.some.injEq, Prod.mk.injEq]
      constructor
      · intro same
        obtain ⟨value, moved⟩ := same
        rw [← value, ← moved, le32_littleEndian four]
        exact ⟨littleEndian_lt four, rfl, inside, split⟩
      · intro held
        obtain ⟨small, same, -, again⟩ := held
        rw [same] at again ⊢
        have front : field = le32 number := by
          rw [split] at again
          exact (List.append_inj again (by rw [four, length_le32])).1
        rw [front, littleEndian_le32 small]
        exact ⟨rfl, rfl⟩

/-! ## The comment header -/

/-- What stands behind a part that is read at a cursor. -/
theorem drop_part {bytes part rest : List UInt8} {cursor : Nat}
    (split : bytes.drop cursor = part ++ rest) :
    bytes.drop (cursor + part.length) = rest := by
  rw [← List.drop_drop, split, List.drop_left]

theorem part_inside {bytes part rest : List UInt8} {cursor : Nat} (here : cursor ≤ bytes.length)
    (split : bytes.drop cursor = part ++ rest) : cursor + part.length ≤ bytes.length := by
  have sizes := congrArg List.length split
  rw [List.length_drop, List.length_append] at sizes
  omega

@[simp] theorem length_lengthPrefixedLe (text : List UInt8) :
    (lengthPrefixedLe text).length = 4 + text.length := by
  rw [lengthPrefixedLe, List.length_append, length_le32]

/-- A length and the text that it counts. -/
theorem takeVorbisLength_text {header : List UInt8} {cursor stop : Nat}
    (here : cursor ≤ header.length) :
    (∃ length next, takeVorbisLength header cursor = some (length, next) ∧
        stop = next + length ∧ stop ≤ header.length) ↔
      stop ≤ header.length ∧ ∃ text : List UInt8, text.length < 2 ^ 32 ∧
        header.drop cursor = lengthPrefixedLe text ++ header.drop stop := by
  constructor
  · intro found
    obtain ⟨length, next, taken, ends, inside⟩ := found
    obtain ⟨small, -, -, split⟩ := takeVorbisLength_eq_some.mp taken
    have size : ((header.drop next).take length).length = length := by
      rw [List.length_take, List.length_drop]
      omega
    refine ⟨inside, (header.drop next).take length, by omega, ?_⟩
    rw [lengthPrefixedLe, size, List.append_assoc, split, ends, ← List.drop_drop,
      List.take_append_drop]
  · intro held
    obtain ⟨inside, text, small, split⟩ := held
    have ends : stop = cursor + 4 + text.length := by
      have sizes := congrArg List.length split
      rw [List.length_append, length_lengthPrefixedLe, List.length_drop, List.length_drop] at sizes
      omega
    rw [lengthPrefixedLe, List.append_assoc] at split
    have past := drop_part split
    rw [length_le32] at past
    refine ⟨text.length, cursor + 4, ?_, ends, inside⟩
    exact takeVorbisLength_eq_some.mpr ⟨small, rfl, by omega, by rw [past, split]⟩

theorem skipComments_eq_some {header : List UInt8} {count cursor stop : Nat}
    (here : cursor ≤ header.length) :
    skipComments header count cursor = some stop ↔
      stop ≤ header.length ∧ ∃ comments : List (List UInt8), comments.length = count ∧
        (∀ comment ∈ comments, comment.length < 2 ^ 32) ∧
        header.drop cursor =
          (comments.map lengthPrefixedLe).flatten ++ header.drop stop := by
  induction count generalizing cursor with
  | zero =>
      constructor
      · intro same
        cases same
        exact ⟨here, [], rfl, by simp, rfl⟩
      · intro held
        obtain ⟨inside, comments, none_left, -, split⟩ := held
        cases List.length_eq_zero_iff.mp none_left
        have sizes := congrArg List.length split
        simp only [List.map_nil, List.flatten_nil, List.nil_append, List.length_drop] at sizes
        have same : cursor = stop := by omega
        rw [skipComments, same]
  | succ count ih =>
      have step : skipComments header (count + 1) cursor = some stop ↔
          ∃ after, (∃ length next, takeVorbisLength header cursor = some (length, next) ∧
            after = next + length ∧ after ≤ header.length) ∧
            skipComments header count after = some stop := by
        rw [skipComments]
        cases taken : takeVorbisLength header cursor with
        | none => simp
        | some pair =>
            obtain ⟨length, next⟩ := pair
            dsimp only
            split_ifs with beyond
            · constructor
              · intro impossible
                cases impossible
              · intro found
                obtain ⟨after, ⟨length', next', same, ends, inside⟩, -⟩ := found
                cases same
                omega
            · constructor
              · intro rest
                exact ⟨next + length, ⟨length, next, rfl, rfl, by omega⟩, rest⟩
              · intro found
                obtain ⟨after, ⟨length', next', same, ends, inside⟩, rest⟩ := found
                cases same
                rw [← ends]
                exact rest
      rw [step]
      constructor
      · intro found
        obtain ⟨after, first, rest⟩ := found
        obtain ⟨inside, text, small, split⟩ := (takeVorbisLength_text here).mp first
        obtain ⟨ends, comments, sized, all_small, others⟩ := (ih inside).mp rest
        refine ⟨ends, text :: comments, by rw [List.length_cons, sized],
          List.forall_mem_cons.mpr ⟨small, all_small⟩, ?_⟩
        rw [split, others, List.map_cons, List.flatten_cons, List.append_assoc]
      · intro held
        obtain ⟨ends, comments, sized, all_small, split⟩ := held
        cases comments with
        | nil => cases sized
        | cons text comments =>
            obtain ⟨small, others_small⟩ := List.forall_mem_cons.mp all_small
            rw [List.map_cons, List.flatten_cons, List.append_assoc] at split
            have inside := part_inside here split
            have past := drop_part split
            refine ⟨cursor + (lengthPrefixedLe text).length, ?_, ?_⟩
            · exact (takeVorbisLength_text here).mpr ⟨inside, text, small, by rw [past, split]⟩
            · exact (ih inside).mpr ⟨ends, comments, Nat.succ.inj sized, others_small, past⟩

/-- No text is counted without the four bytes of its length. -/
theorem four_le_flatten (comments : List (List UInt8)) :
    4 * comments.length ≤ (comments.map lengthPrefixedLe).flatten.length := by
  induction comments with
  | nil => simp
  | cons comment comments ih =>
      rw [List.map_cons, List.flatten_cons, List.length_append, length_lengthPrefixedLe,
        List.length_cons]
      omega

/-- The framing byte is the last one. -/
theorem framed_iff {header : List UInt8} {cursor : Nat} :
    (header[cursor]? == some 1 && cursor + 1 == header.length) = true ↔
      cursor ≤ header.length ∧ header.drop cursor = [1] := by
  rw [Bool.and_eq_true, beq_iff_eq, beq_iff_eq]
  constructor
  · intro held
    obtain ⟨last, size⟩ := held
    obtain ⟨inside, value⟩ := List.getElem?_eq_some_iff.mp last
    refine ⟨by omega, ?_⟩
    rw [List.drop_eq_getElem_cons inside, value, size, List.drop_length]
  · intro held
    obtain ⟨inside, rest⟩ := held
    have sizes := congrArg List.length rest
    rw [List.length_drop, List.length_singleton] at sizes
    have first := congrArg List.head? rest
    rw [List.head?_drop] at first
    exact ⟨first, by omega⟩

theorem validVorbisCommentHeader_iff {header : List UInt8} :
    validVorbisCommentHeader header = true ↔
      ∃ afterVendor count cursor stop,
        (∃ length next, takeVorbisLength header 7 = some (length, next) ∧
          afterVendor = next + length ∧ afterVendor ≤ header.length) ∧
        takeVorbisLength header afterVendor = some (count, cursor) ∧
        count ≤ (header.length - cursor - 1) / 4 ∧
        skipComments header count cursor = some stop ∧
        stop ≤ header.length ∧ header.drop stop = [1] := by
  constructor
  · intro valid
    unfold validVorbisCommentHeader at valid
    cases vendor : takeVorbisLength header 7 with
    | none => rw [vendor] at valid; cases valid
    | some pair =>
        obtain ⟨length, next⟩ := pair
        rw [vendor] at valid
        dsimp only at valid
        split_ifs at valid with beyond
        cases counted : takeVorbisLength header (next + length) with
        | none => rw [counted] at valid; cases valid
        | some pair =>
            obtain ⟨count, cursor⟩ := pair
            rw [counted] at valid
            dsimp only at valid
            split_ifs at valid with crowded
            cases skipped : skipComments header count cursor with
            | none => rw [skipped] at valid; cases valid
            | some stop =>
                rw [skipped] at valid
                exact ⟨next + length, count, cursor, stop, ⟨length, next, rfl, rfl, by omega⟩,
                  counted, by omega, skipped, framed_iff.mp valid⟩
  · intro found
    obtain ⟨afterVendor, count, cursor, stop, ⟨length, next, vendor, ends, inside⟩, counted,
      few, skipped, framed⟩ := found
    rw [ends] at counted inside
    unfold validVorbisCommentHeader
    rw [vendor]
    dsimp only
    rw [if_neg (by omega), counted]
    dsimp only
    rw [if_neg (by omega), skipped]
    exact framed_iff.mpr framed

@[simp] theorem length_vorbisSignature (packet : UInt8) : (vorbisSignature packet).length = 7 := rfl

theorem commentHeader_iff {packet : List UInt8} :
    vorbisSignature 3 <+: packet ∧ validVorbisCommentHeader packet = true ↔
      CommentHeader packet := by
  rw [validVorbisCommentHeader_iff]
  constructor
  · intro held
    obtain ⟨⟨rest, signed⟩, afterVendor, count, cursor, stop, vendor, counted, -, skipped, -,
      framed⟩ := held
    have behind : packet.drop 7 = rest := by rw [← signed]; rfl
    have here : 7 ≤ packet.length := by
      rw [← signed, List.length_append, length_vorbisSignature]
      omega
    obtain ⟨inside, text, small, first⟩ := (takeVorbisLength_text here).mp vendor
    obtain ⟨few, -, within, second⟩ := takeVorbisLength_eq_some.mp counted
    obtain ⟨-, comments, sized, all_small, third⟩ := (skipComments_eq_some within).mp skipped
    refine ⟨text, comments, small, by omega, all_small, ?_⟩
    rw [← signed, ← behind, first, second, third, framed, sized]
  · intro held
    obtain ⟨text, comments, small, few, all_small, shape⟩ := held
    have here : 7 ≤ packet.length := by
      rw [shape, List.length_append, length_vorbisSignature]
      omega
    have first : packet.drop 7 = lengthPrefixedLe text ++ (le32 comments.length ++
        ((comments.map lengthPrefixedLe).flatten ++ [1])) := by rw [shape]; rfl
    have afterText := part_inside here first
    have second := drop_part first
    have afterCount := part_inside afterText second
    have third := drop_part second
    rw [length_le32] at afterCount third
    have afterComments := part_inside afterCount third
    have fourth := drop_part third
    refine ⟨⟨_, shape.symm⟩, 7 + (lengthPrefixedLe text).length, comments.length,
      7 + (lengthPrefixedLe text).length + 4, _, ?_, ?_, ?_, ?_, afterComments, fourth⟩
    · exact (takeVorbisLength_text here).mpr ⟨afterText, text, small, by rw [second, first]⟩
    · exact takeVorbisLength_eq_some.mpr ⟨few, rfl, afterCount, by rw [second, third]⟩
    · have sizes := congrArg List.length third
      have each := four_le_flatten comments
      rw [List.length_drop, List.length_append, List.length_singleton] at sizes
      rw [Nat.le_div_iff_mul_le (by norm_num)]
      omega
    · exact (skipComments_eq_some afterCount).mpr
        ⟨afterComments, comments, rfl, all_small, by rw [fourth, third]⟩

/-! ## The identification header -/

theorem drop_byte {bytes : List UInt8} {index : Nat} (inside : index < bytes.length) :
    bytes.drop index = bytes.getD index 0 :: bytes.drop (index + 1) := by
  rw [List.drop_eq_getElem_cons inside, List.getD_eq_getElem?_getD,
    List.getElem?_eq_getElem inside]
  rfl

theorem take_then_drop (bytes : List UInt8) (index size : Nat) :
    (bytes.drop index).take size ++ bytes.drop (index + size) = bytes.drop index := by
  rw [← List.drop_drop, List.take_append_drop]

theorem byte_of_drop {bytes rest : List UInt8} {index : Nat} {value : UInt8}
    (split : bytes.drop index = value :: rest) : bytes.getD index 0 = value := by
  have first := congrArg List.head? split
  rw [List.head?_drop, List.head?_cons] at first
  rw [List.getD_eq_getElem?_getD, first]
  rfl

theorem drop_next {bytes rest : List UInt8} {index : Nat} {value : UInt8}
    (split : bytes.drop index = value :: rest) : bytes.drop (index + 1) = rest := by
  rw [← List.drop_drop, split]
  rfl

theorem field_of_drop {bytes field rest : List UInt8} {index : Nat}
    (split : bytes.drop index = field ++ rest) : (bytes.drop index).take field.length = field := by
  rw [split, List.take_left]

theorem identification_iff {packet : List UInt8} {sampleRate : UInt32} {channels : UInt16} :
    (packet.length = 30 ∧ vorbisSignature 1 <+: packet ∧
        (packet.drop 7).take 4 = [0, 0, 0, 0] ∧ (packet.getD 11 0).toUInt16 = channels ∧
        littleEndian ((packet.drop 12).take 4) = sampleRate.toNat ∧
        BlockSizes (packet.getD 28 0) ∧ packet.getD 29 0 = 1) ↔
      Identification sampleRate channels packet := by
  constructor
  · intro held
    obtain ⟨size, ⟨rest, signed⟩, version, channel, rate, blocks, framed⟩ := held
    have behind : packet.drop 7 = rest := by rw [← signed]; rfl
    have four : ((packet.drop 12).take 4).length = 4 := by
      rw [List.length_take, List.length_drop]
      omega
    have atVersion : packet.drop 7 = [0, 0, 0, 0] ++ packet.drop 11 := by
      rw [← version]
      exact (take_then_drop packet 7 4).symm
    have atRate : packet.drop 12 = le32 sampleRate.toNat ++ packet.drop 16 := by
      rw [← rate, le32_littleEndian four]
      exact (take_then_drop packet 12 4).symm
    have atBitrates : (packet.drop 16).take 12 ++ packet.drop 28 = packet.drop 16 :=
      take_then_drop packet 16 12
    have ends : packet.drop 30 = [] := by rw [← size, List.drop_length]
    refine ⟨packet.getD 11 0, (packet.drop 16).take 12, packet.getD 28 0, ?_, ?_, channel, blocks⟩
    · have atBlocks : packet.drop 28 = [packet.getD 28 0, 1] := by
        rw [drop_byte (by omega : 28 < packet.length), drop_byte (by omega : 29 < packet.length),
          framed, ends]
      rw [← atBlocks, atBitrates, ← atRate, ← drop_byte (by omega : 11 < packet.length),
        ← atVersion, behind, signed]
    · rw [List.length_take, List.length_drop]
      omega
  · intro held
    obtain ⟨channelByte, bitrates, blockSizes, shape, twelve, channel, blocks⟩ := held
    have atVersion : packet.drop 7 = [0, 0, 0, 0] ++ (channelByte ::
        (le32 sampleRate.toNat ++ (bitrates ++ [blockSizes, 1]))) := by rw [shape]; rfl
    have atChannel : packet.drop 11 = channelByte ::
        (le32 sampleRate.toNat ++ (bitrates ++ [blockSizes, 1])) := drop_part atVersion
    have atRate : packet.drop 12 = le32 sampleRate.toNat ++ (bitrates ++ [blockSizes, 1]) :=
      drop_next atChannel
    have atBitrates : packet.drop 16 = bitrates ++ [blockSizes, 1] := by
      have past := drop_part atRate
      rw [length_le32] at past
      exact past
    have atBlocks : packet.drop 28 = [blockSizes, 1] := by
      have past := drop_part atBitrates
      rw [twelve] at past
      exact past
    have atFraming : packet.drop 29 = [1] := drop_next atBlocks
    have rate := field_of_drop atRate
    rw [length_le32] at rate
    refine ⟨?_, ⟨_, shape.symm⟩, field_of_drop atVersion, ?_, ?_, ?_, byte_of_drop atFraming⟩
    · rw [shape]
      simp [twelve]
    · rw [byte_of_drop atChannel, channel]
    · rw [rate, littleEndian_le32 sampleRate.toNat_lt]
    · rw [byte_of_drop atBlocks]
      exact blocks

/-! ## The three headers -/

theorem blockSizes_iff {small large : UInt8} :
    ((6 ≤ small ∧ small ≤ 13) ∧ small ≤ large ∧ large ≤ 13) ↔
      6 ≤ small ∧ small ≤ large ∧ large ≤ 13 := by
  constructor
  · intro held
    exact ⟨held.1.1, held.2⟩
  · intro held
    obtain ⟨least, ordered, most⟩ := held
    exact ⟨⟨least, UInt8.le_trans ordered most⟩, ordered, most⟩

/-- The three packets at their places. -/
def PacketsAt (headers : List UInt8) (sampleRate : UInt32) (channels : UInt16)
    (first second stop : Nat) : Prop :=
  first + second + stop < headers.length ∧
    Identification sampleRate channels ((headers.drop stop).take first) ∧
    CommentHeader ((headers.drop (stop + first)).take second) ∧
    vorbisSignature 5 <+: headers.drop (stop + first + second)

theorem validateVorbisHeaders_eq_ok {headers : List UInt8} {sampleRate : UInt32}
    {channels : UInt16} :
    validateVorbisHeaders headers sampleRate channels = .ok () ↔
      headers.head? = some 2 ∧ ∃ first cursor second stop,
        xiphLacedLength (headers.drop 1) 1 0 = .ok (first, cursor) ∧
        xiphLacedLength (headers.drop cursor) cursor 0 = .ok (second, stop) ∧
        PacketsAt headers sampleRate channels first second stop := by
  unfold validateVorbisHeaders
  by_cases opens : headers.head? = some 2
  · rw [if_neg (not_not.mpr opens), bind_eq_ok_iff]
    simp only [opens, true_and]
    constructor
    · intro accepted
      obtain ⟨⟨first, cursor⟩, firstRead, accepted⟩ := accepted
      obtain ⟨⟨second, stop⟩, secondRead, accepted⟩ := bind_eq_ok_iff.mp accepted
      dsimp only at accepted
      split_ifs at accepted with truncated bad
      simp only [not_or, not_not, ne_eq, Bool.not_eq_false] at bad
      obtain ⟨size, signed, commented, setup, version, channel, rate, least, most, framing,
        valid⟩ := bad
      exact ⟨first, cursor, second, stop, firstRead, secondRead, by omega,
        identification_iff.mp ⟨size, signed, version, channel, rate,
          blockSizes_iff.mp ⟨least, most⟩, framing⟩,
        commentHeader_iff.mp ⟨commented, valid⟩, setup⟩
    · intro found
      obtain ⟨first, cursor, second, stop, firstRead, secondRead, inside, identified, commented,
        setup⟩ := found
      obtain ⟨size, signed, version, channel, rate, blocks, framing⟩ :=
        identification_iff.mpr identified
      obtain ⟨least, most⟩ := blockSizes_iff.mpr blocks
      obtain ⟨signed', valid⟩ := commentHeader_iff.mpr commented
      refine ⟨(first, cursor), firstRead, bind_eq_ok_iff.mpr ⟨(second, stop), secondRead, ?_⟩⟩
      dsimp only
      rw [if_neg (by omega), if_neg]
      simp only [not_or, not_not, ne_eq, Bool.not_eq_false]
      exact ⟨size, signed, signed', setup, version, channel, rate, least, most, framing, valid⟩
  · rw [if_pos opens]
    simp [opens]

/-- The length at a cursor, and what stands behind it. -/
theorem laced_at {headers : List UInt8} {cursor length stop : Nat} :
    xiphLacedLength (headers.drop cursor) cursor 0 = .ok (length, stop) ↔
      stop = cursor + (laced length).length ∧
        headers.drop cursor = laced length ++ headers.drop stop := by
  constructor
  · intro read
    obtain ⟨number, rest, shape, sum, moved⟩ := xiphLacedLength_eq_ok read
    rw [Nat.zero_add] at sum
    rw [← sum] at shape moved
    have past := drop_part shape
    rw [← moved] at past
    exact ⟨moved, by rw [shape, past]⟩
  · intro held
    obtain ⟨moved, split⟩ := held
    rw [split, xiphLacedLength_laced, Nat.zero_add, moved]

theorem validateVorbisHeaders_iff {headers : List UInt8} {sampleRate : UInt32}
    {channels : UInt16} :
    validateVorbisHeaders headers sampleRate channels = .ok () ↔
      VorbisHeaders sampleRate channels headers := by
  rw [validateVorbisHeaders_eq_ok]
  constructor
  · intro found
    obtain ⟨opens, first, cursor, second, stop, firstRead, secondRead, inside, identified,
      commented, setup⟩ := found
    obtain ⟨-, firstSplit⟩ := laced_at.mp firstRead
    obtain ⟨-, secondSplit⟩ := laced_at.mp secondRead
    have shape : headers = 2 :: headers.drop 1 := by
      cases headers with
      | nil => cases opens
      | cons byte rest => rw [Option.some.inj opens]; rfl
    refine ⟨_, _, _, ?_, identified, commented, ?_, setup⟩
    · have firstSize : ((headers.drop stop).take first).length = first := by
        rw [List.length_take, List.length_drop]
        omega
      have secondSize : ((headers.drop (stop + first)).take second).length = second := by
        rw [List.length_take, List.length_drop]
        omega
      rw [firstSize, secondSize, take_then_drop, take_then_drop, ← secondSplit, ← firstSplit]
      exact shape
    · intro none_left
      have sizes := congrArg List.length none_left
      rw [List.length_drop, List.length_nil] at sizes
      omega
  · intro grammar
    obtain ⟨identification, comments, setup, shape, identified, commented, some_setup, signed⟩ :=
      grammar
    have atFirst : headers.drop 1 = laced identification.length ++ (laced comments.length ++
        (identification ++ (comments ++ setup))) := by rw [shape]; rfl
    have atSecond := drop_part atFirst
    have atIdentification := drop_part atSecond
    have atComments := drop_part atIdentification
    have atSetup := drop_part atComments
    have some_left : 0 < setup.length := List.length_pos_iff.mpr some_setup
    have sizes := congrArg List.length atSetup
    rw [List.length_drop] at sizes
    refine ⟨by rw [shape]; rfl, identification.length, _, comments.length, _,
      laced_at.mpr ⟨rfl, by rw [atSecond, atFirst]⟩,
      laced_at.mpr ⟨rfl, by rw [atIdentification, atSecond]⟩, by omega, ?_, ?_, ?_⟩
    · rw [field_of_drop atIdentification]
      exact identified
    · rw [field_of_drop atComments]
      exact commented
    · rw [atSetup]
      exact signed

/-! ## With its indices -/

/-- The values of a `usize`. -/
abbrev USIZE_VALUES : Nat := 2 ^ 64

def xiphLacedLengthAt : List UInt8 → Nat → Nat → Except (Fault IoError) (Nat × Nat)
  | [], _, _ => refuse (invalid "truncated Xiph-laced length")
  | value :: unread, cursor, length => do
      let cursor ← sum USIZE_VALUES cursor 1
      let length ← checkedSum USIZE_VALUES length value.toNat (invalid "Xiph-laced length overflow")
      if value ≠ 255 then .ok (length, cursor) else xiphLacedLengthAt unread cursor length

def validVorbisCommentHeaderAt (header : List UInt8) : Except (Fault IoError) Bool :=
  match takeVorbisLength header 7 with
  | none => .ok false
  | some (vendorLength, cursor) =>
      let afterVendor := cursor + vendorLength
      if header.length < afterVendor then .ok false
      else
        match takeVorbisLength header afterVendor with
        | none => .ok false
        | some (commentCount, cursor) =>
            if (header.length - cursor - 1) / 4 < commentCount then .ok false
            else
              match skipComments header commentCount cursor with
              | none => .ok false
              | some cursor =>
                  if header[cursor]? == some 1 then do
                    let stop ← sum USIZE_VALUES cursor 1
                    .ok (stop == header.length)
                  else .ok false

/-- The checks of the three packets, which stop at the first that fails. -/
def checkVorbisPackets (identification comments setup : List UInt8) (sampleRate : UInt32)
    (channels : UInt16) : Except (Fault IoError) Unit :=
  let signatures := invalid "Vorbis identification or header signatures are invalid"
  let blockSizes := identification.getD 28 0
  let smallBlock := blockSizes &&& 0x0f
  let largeBlock := blockSizes >>> 4
  if identification.length ≠ 30 ∨ ¬ vorbisSignature 1 <+: identification ∨
      ¬ vorbisSignature 3 <+: comments ∨ ¬ vorbisSignature 5 <+: setup then refuse signatures
  else do
    let version ← range identification 7 11
    if version ≠ [0, 0, 0, 0] then refuse signatures
    else do
      let channelByte ← item identification 11
      if channelByte.toUInt16 ≠ channels then refuse signatures
      else do
        let rate ← range identification 12 16
        if littleEndian rate ≠ sampleRate.toNat ∨ ¬ (6 ≤ smallBlock ∧ smallBlock ≤ 13) ∨
            ¬ (smallBlock ≤ largeBlock ∧ largeBlock ≤ 13) then refuse signatures
        else do
          let framing ← item identification 29
          if framing ≠ 1 then refuse signatures
          else do
            let valid ← validVorbisCommentHeaderAt comments
            if valid = false then refuse signatures else .ok ()

def validateVorbisHeadersAt (headers : List UInt8) (sampleRate : UInt32) (channels : UInt16) :
    Except (Fault IoError) Unit :=
  if headers.head? ≠ some 2 then
    refuse (invalid "Vorbis initialization is not three-header Xiph lacing")
  else do
    let (first, cursor) ← xiphLacedLengthAt (headers.drop 1) 1 0
    let (second, cursor) ← xiphLacedLengthAt (headers.drop cursor) cursor 0
    let bodies ← checkedSum USIZE_VALUES first second (invalid "Vorbis header lengths overflow")
    let headerBytes ←
      checkedSum USIZE_VALUES bodies cursor (invalid "Vorbis header lengths overflow")
    if headers.length ≤ headerBytes then refuse (invalid "Vorbis headers are truncated")
    else do
      let firstEnd ← sum USIZE_VALUES cursor first
      let secondEnd ← sum USIZE_VALUES firstEnd second
      let identification ← range headers cursor firstEnd
      let comments ← range headers firstEnd secondEnd
      let setup ← range headers secondEnd headers.length
      checkVorbisPackets identification comments setup sampleRate channels

theorem xiphLacedLength_bounds {unread : List UInt8} {cursor start total stop : Nat}
    (read : xiphLacedLength unread cursor start = .ok (total, stop)) :
    start ≤ total ∧ stop ≤ cursor + unread.length := by
  obtain ⟨length, rest, shape, sum, moved⟩ := xiphLacedLength_eq_ok read
  rw [shape, List.length_append]
  omega

/-- The checked length is the plain one, or it is refused and the plain one leaves a word. -/
theorem xiphLacedLengthAt_cases {unread : List UInt8} {cursor start : Nat}
    (inside : cursor + unread.length < USIZE_VALUES) :
    (∃ total stop, xiphLacedLength unread cursor start = .ok (total, stop) ∧
        xiphLacedLengthAt unread cursor start = .ok (total, stop)) ∨
      ((∃ error, xiphLacedLengthAt unread cursor start = refuse error) ∧
        ∀ total stop, xiphLacedLength unread cursor start = .ok (total, stop) →
          USIZE_VALUES ≤ total) := by
  induction unread generalizing cursor start with
  | nil =>
      refine Or.inr ⟨⟨_, rfl⟩, ?_⟩
      intro total stop impossible
      cases impossible
  | cons value unread ih =>
      rw [List.length_cons] at inside
      have plain : xiphLacedLength (value :: unread) cursor start =
          if value ≠ 255 then .ok (start + value.toNat, cursor + 1)
          else xiphLacedLength unread (cursor + 1) (start + value.toNat) := rfl
      rw [xiphLacedLengthAt, sum_of_lt (by omega), ok_bind]
      rcases Nat.lt_or_ge (start + value.toNat) USIZE_VALUES with small | large
      · rw [checkedSum_of_lt small, ok_bind, plain]
        by_cases last : value ≠ 255
        · rw [if_pos last, if_pos last]
          exact Or.inl ⟨_, _, rfl, rfl⟩
        · rw [if_neg last, if_neg last]
          exact ih (by omega)
      · rw [checkedSum_of_le large]
        refine Or.inr ⟨⟨_, rfl⟩, ?_⟩
        intro total stop read
        rw [plain] at read
        split_ifs at read with last
        · have sum := (Prod.mk.inj (Except.ok.inj read)).1
          omega
        · have bounds := xiphLacedLength_bounds read
          omega

theorem validVorbisCommentHeaderAt_eq {header : List UInt8}
    (small : header.length < USIZE_VALUES) :
    validVorbisCommentHeaderAt header = .ok (validVorbisCommentHeader header) := by
  unfold validVorbisCommentHeaderAt validVorbisCommentHeader
  cases takeVorbisLength header 7 with
  | none => rfl
  | some pair =>
      obtain ⟨vendorLength, cursor⟩ := pair
      dsimp only
      split_ifs with beyond
      · rfl
      · cases takeVorbisLength header (cursor + vendorLength) with
        | none => rfl
        | some pair =>
            obtain ⟨commentCount, cursor⟩ := pair
            dsimp only
            split_ifs with crowded
            · rfl
            · cases skipComments header commentCount cursor with
              | none => rfl
              | some stop =>
                  dsimp only
                  by_cases framed : header[stop]? = some 1
                  · obtain ⟨inside, -⟩ := List.getElem?_eq_some_iff.mp framed
                    rw [framed, sum_of_lt (by omega)]
                    rfl
                  · have other : (header[stop]? == some 1) = false := beq_eq_false_iff_ne.mpr framed
                    rw [other]
                    rfl

theorem part_in_range {bytes : List UInt8} {start size : Nat}
    (inside : start + size ≤ bytes.length) :
    (range bytes start (start + size) : Except (Fault IoError) (List UInt8)) =
      .ok ((bytes.drop start).take size) := by
  rw [range_of_le (Nat.le_add_right start size) inside, Nat.add_sub_cancel_left]

theorem byte_in_range {bytes : List UInt8} {index : Nat} (inside : index < bytes.length) :
    (item bytes index : Except (Fault IoError) UInt8) = .ok (bytes.getD index 0) := by
  refine item_eq_ok.mpr ?_
  rw [List.getD_eq_getElem?_getD, List.getElem?_eq_getElem inside]
  rfl

theorem rest_in_range {bytes : List UInt8} {start : Nat} (inside : start ≤ bytes.length) :
    (range bytes start bytes.length : Except (Fault IoError) (List UInt8)) =
      .ok (bytes.drop start) := by
  rw [range_of_le inside (Nat.le_refl _), ← List.length_drop, List.take_length]

theorem checkVorbisPackets_ok {identification comments setup : List UInt8} {sampleRate : UInt32}
    {channels : UInt16} (small : comments.length < USIZE_VALUES) :
    InRange (checkVorbisPackets identification comments setup sampleRate channels) ∧
      (checkVorbisPackets identification comments setup sampleRate channels = .ok () ↔
        Identification sampleRate channels identification ∧ CommentHeader comments ∧
          vorbisSignature 5 <+: setup) := by
  rw [← identification_iff, ← commentHeader_iff]
  unfold checkVorbisPackets
  dsimp only
  by_cases sized : identification.length = 30
  · have version : (range identification 7 11 : Except (Fault IoError) (List UInt8)) =
        .ok ((identification.drop 7).take 4) := part_in_range (by omega : 7 + 4 ≤ _)
    have rate : (range identification 12 16 : Except (Fault IoError) (List UInt8)) =
        .ok ((identification.drop 12).take 4) := part_in_range (by omega : 12 + 4 ≤ _)
    rw [version, ok_bind, byte_in_range (by omega : 11 < _), ok_bind, rate, ok_bind,
      byte_in_range (by omega : 29 < _), ok_bind, validVorbisCommentHeaderAt_eq small, ok_bind]
    constructor
    · exact InRange.ite (fun _ => trivial) fun _ => InRange.ite (fun _ => trivial) fun _ =>
        InRange.ite (fun _ => trivial) fun _ => InRange.ite (fun _ => trivial) fun _ =>
          InRange.ite (fun _ => trivial) fun _ => InRange.ite (fun _ => trivial) fun _ => trivial
    · simp only [ite_refuse_eq_ok, not_or, not_not, ne_eq, Bool.not_eq_false, sized, true_and,
        and_true, ← blockSizes_iff, BlockSizes]
      constructor
      · intro held
        obtain ⟨⟨signed, commented, setup⟩, version, channel, ⟨rate, least, most⟩, framing,
          valid⟩ := held
        exact ⟨⟨signed, version, channel, rate, ⟨least, most⟩, framing⟩, ⟨commented, valid⟩, setup⟩
      · intro held
        obtain ⟨⟨signed, version, channel, rate, ⟨least, most⟩, framing⟩, ⟨commented, valid⟩,
          setup⟩ := held
        exact ⟨⟨signed, commented, setup⟩, version, channel, ⟨rate, least, most⟩, framing, valid⟩
  · rw [if_pos (Or.inl sized)]
    refine ⟨trivial, ?_⟩
    simp [sized]

theorem validateVorbisHeadersAt_ok {headers : List UInt8} (sampleRate : UInt32)
    (channels : UInt16) (small : headers.length < USIZE_VALUES) :
    InRange (validateVorbisHeadersAt headers sampleRate channels) ∧
      (validateVorbisHeadersAt headers sampleRate channels = .ok () ↔
        validateVorbisHeaders headers sampleRate channels = .ok ()) := by
  rw [validateVorbisHeaders_eq_ok]
  unfold validateVorbisHeadersAt
  by_cases opens : headers.head? = some 2
  · have some_bytes : 1 ≤ headers.length := by
      cases headers with
      | nil => cases opens
      | cons byte rest => exact Nat.succ_pos _
    rw [if_neg (not_not.mpr opens)]
    have firstInside : 1 + (headers.drop 1).length < USIZE_VALUES := by
      rw [List.length_drop]
      omega
    rcases @xiphLacedLengthAt_cases _ _ 0 firstInside with
      ⟨first, cursor, firstRead, checked⟩ | ⟨⟨error, refused⟩, large⟩
    · have cursorInside := (xiphLacedLength_bounds firstRead).2
      rw [List.length_drop] at cursorInside
      have secondInside : cursor + (headers.drop cursor).length < USIZE_VALUES := by
        rw [List.length_drop]
        omega
      rw [checked, ok_bind]
      dsimp only
      rcases @xiphLacedLengthAt_cases _ _ 0 secondInside with
        ⟨second, stop, secondRead, checked⟩ | ⟨⟨error, refused⟩, large⟩
      · have stopInside := (xiphLacedLength_bounds secondRead).2
        rw [List.length_drop] at stopInside
        rw [checked, ok_bind]
        dsimp only
        have known : (headers.head? = some 2 ∧ ∃ first cursor second stop,
              xiphLacedLength (headers.drop 1) 1 0 = .ok (first, cursor) ∧
              xiphLacedLength (headers.drop cursor) cursor 0 = .ok (second, stop) ∧
              PacketsAt headers sampleRate channels first second stop) ↔
            PacketsAt headers sampleRate channels first second stop := by
          constructor
          · intro found
            obtain ⟨-, first', cursor', second', stop', one, two, held⟩ := found
            rw [firstRead] at one
            cases one
            rw [secondRead] at two
            cases two
            exact held
          · intro held
            exact ⟨opens, first, cursor, second, stop, firstRead, secondRead, held⟩
        rw [known]
        by_cases inside : first + second + stop < headers.length
        · rw [checkedSum_of_lt (by omega), ok_bind, checkedSum_of_lt (by omega), ok_bind,
            if_neg (by omega), sum_of_lt (by omega), ok_bind, sum_of_lt (by omega), ok_bind,
            part_in_range (by omega), ok_bind, part_in_range (by omega), ok_bind,
            rest_in_range (by omega), ok_bind]
          have commentsSmall : ((headers.drop (stop + first)).take second).length <
              USIZE_VALUES := by
            rw [List.length_take, List.length_drop]
            omega
          rw [PacketsAt, and_iff_right inside]
          exact checkVorbisPackets_ok commentsSmall
        · have never : ¬ PacketsAt headers sampleRate channels first second stop :=
            fun held => inside held.1
          rcases Nat.lt_or_ge (first + second) USIZE_VALUES with word | beyond
          · rw [checkedSum_of_lt word, ok_bind]
            rcases Nat.lt_or_ge (first + second + stop) USIZE_VALUES with word | beyond
            · rw [checkedSum_of_lt word, ok_bind, if_pos (by omega)]
              exact refuse_decides never
            · rw [checkedSum_of_le beyond]
              exact refuse_decides never
          · rw [checkedSum_of_le beyond]
            exact refuse_decides never
      · rw [refused]
        refine refuse_decides fun accepted => ?_
        obtain ⟨-, first', cursor', second', stop', firstRead', secondRead', inside, -⟩ := accepted
        rw [firstRead] at firstRead'
        cases firstRead'
        have beyond := large second' stop' secondRead'
        omega
    · rw [refused]
      refine refuse_decides fun accepted => ?_
      obtain ⟨-, first, cursor, second, stop, firstRead, -, inside, -⟩ := accepted
      have beyond := large first cursor firstRead
      omega
  · rw [if_pos opens]
    exact refuse_decides fun accepted => opens accepted.1

/-! ## The result -/

/-- For every byte string, sample rate and channel count the validator accepts the
grammar and nothing else.  In a `usize` no index or sum leaves its range. -/
theorem vorbis_headers_accepted (headers : List UInt8) (sampleRate : UInt32)
    (channels : UInt16) :
    (validateVorbisHeaders headers sampleRate channels = .ok () ↔
        VorbisHeaders sampleRate channels headers) ∧
      (headers.length < USIZE_VALUES →
        InRange (validateVorbisHeadersAt headers sampleRate channels) ∧
          (validateVorbisHeadersAt headers sampleRate channels = .ok () ↔
            VorbisHeaders sampleRate channels headers)) := by
  refine ⟨validateVorbisHeaders_iff, fun small => ?_⟩
  rw [← validateVorbisHeaders_iff]
  exact validateVorbisHeadersAt_ok sampleRate channels small

/-- Three headers for 48 kHz and two channels, with a vendor and two comments. -/
def taggedVorbisHeaders : List UInt8 :=
  2 :: (laced 30 ++ (laced 33 ++
    (vorbisSignature 1 ++ ([0, 0, 0, 0] ++ (2 :: (le32 48000 ++ (List.replicate 12 0 ++
      [0xb8, 1])))) ++
    (vorbisSignature 3 ++ (le32 1 ++ textBytes "v" ++ (le32 2 ++ (le32 3 ++ textBytes "a=b") ++
      (le32 5 ++ textBytes "t=one") ++ [1])) ++ vorbisSignature 5))))

theorem vorbis_headers_accepted_tagged :
    VorbisHeaders 48000 2 taggedVorbisHeaders ∧
      validateVorbisHeadersAt taggedVorbisHeaders 48000 2 = .ok () ∧
      InRange (validateVorbisHeadersAt taggedVorbisHeaders 48000 2) := by
  have small : taggedVorbisHeaders.length < USIZE_VALUES := by decide
  obtain ⟨grammar, checked⟩ := vorbis_headers_accepted taggedVorbisHeaders 48000 2
  have accepted := grammar.mp (by decide +kernel)
  exact ⟨accepted, (checked small).2.mpr accepted, (checked small).1⟩

end VividProtocol.Media
