import Mathlib.Tactic
import VividProtocol.Media.NalUnits

/-!
# Decoder configurations

`h264_decoder_description` of `media.rs` and the two conversions it rests on.
An avcC configuration and the Annex B forms of its parameter sets give the same
description.  The sets that come out of an avcC configuration have the right
types; a start code inside one of them is not looked for.
-/

set_option autoImplicit false

namespace VividProtocol.Media

open VividProtocol.Library.BigEndian
open VividProtocol.Library.Bounds
open VividProtocol.Library.Delimited
open VividProtocol.Library.Result

def MAX_H264_EXTRADATA : Nat := 4096

/-- `header & 0x1f` of the first byte. -/
def hasType (type : UInt8) (nal : List UInt8) : Bool :=
  nal.head?.any fun header => decide (header &&& 0x1f = type)

/-! ## From avcC -/

def takeAvccNal (avcc : List UInt8) (cursor : Nat) :
    Except (Fault IoError) (List UInt8 × Nat) := do
  let lengthEnd ← endWithin cursor 2 avcc.length "avcC parameter-set length is truncated"
  let field ← range avcc cursor lengthEnd
  let stop ← endWithin lengthEnd (ofBytes field) avcc.length "avcC parameter set is truncated"
  let nal ← range avcc lengthEnd stop
  if nal = [] then refuse (annexbInvalid "avcC parameter set is empty") else .ok (nal, stop)

/-- The two loops over parameter sets: the sets and the cursor after them. -/
def takeParameterSets (avcc : List UInt8) (type : UInt8) (message : String) :
    Nat → Nat → Except (Fault IoError) (List (List UInt8) × Nat)
  | 0, cursor => .ok ([], cursor)
  | count + 1, cursor => do
      let (nal, cursor) ← takeAvccNal avcc cursor
      if hasType type nal = false then refuse (annexbInvalid message)
      else do
        let (rest, cursor) ← takeParameterSets avcc type message count cursor
        .ok (nal :: rest, cursor)

def takeCount (avcc : List UInt8) (cursor : Nat) : Except (Fault IoError) Nat :=
  match avcc[cursor]? with
  | some count => .ok count.toNat
  | none => refuse (annexbInvalid "avcC decoder configuration has no PPS count")

/-- `parameter_sets` when both loops are done. -/
def parameterSets (avcc : List UInt8) : Except (Fault IoError) (List (List UInt8)) :=
  if avcc.length < 7 then refuse (annexbInvalid "avcC decoder configuration is invalid")
  else do
    let version ← item avcc 0
    if version ≠ 1 then refuse (annexbInvalid "avcC decoder configuration is invalid")
    else do
      let flags ← item avcc 5
      let spsCount := (flags &&& 0x1f).toNat
      if spsCount = 0 then refuse (annexbInvalid "avcC decoder configuration has no SPS")
      else do
        let (sps, cursor) ← takeParameterSets avcc 7
          "avcC decoder configuration has an invalid SPS" spsCount 6
        let ppsCount ← takeCount avcc cursor
        if ppsCount = 0 then refuse (annexbInvalid "avcC decoder configuration has no PPS")
        else do
          let (pps, _) ← takeParameterSets avcc 8
            "avcC decoder configuration has an invalid PPS" ppsCount (cursor + 1)
          .ok (sps ++ pps)

def annexbFromAvcc (avcc : List UInt8) : Except (Fault IoError) (List UInt8) := do
  let sets ← parameterSets avcc
  if 2 ^ 64 ≤ (sets.map fun set => 4 + set.length).sum then
    refuse (annexbInvalid "Annex-B decoder initialization is oversized")
  else .ok (startCoded sets)

/-! ## To avcC -/

/-- `find(..)` among the units, with the error for none. -/
def findUnit (nals : List (List UInt8)) (type : UInt8) (least : Nat) (message : String) :
    Except (Fault IoError) (List UInt8) :=
  match (nals.find? (hasType type)).filter fun nal => decide (least ≤ nal.length) with
  | some nal => .ok nal
  | none => refuse (annexbInvalid message)

def u16Length (nal : List UInt8) (message : String) : Except (Fault IoError) Nat :=
  if nal.length < 2 ^ 16 then .ok nal.length else refuse (annexbInvalid message)

def avccFromAnnexb (extradata : List UInt8) : Except (Fault IoError) (List UInt8) := do
  let nals := annexbNals extradata
  let sps ← findUnit nals 7 4 "extradata has no SPS"
  let pps ← findUnit nals 8 0 "extradata has no PPS"
  let spsLength ← u16Length sps "SPS is oversized"
  let ppsLength ← u16Length pps "PPS is oversized"
  if MAX_H264_EXTRADATA < 11 + sps.length + pps.length then
    refuse (annexbInvalid "decoder configuration is oversized")
  else do
    let profile ← item sps 1
    let compatibility ← item sps 2
    let level ← item sps 3
    .ok ([1, profile, compatibility, level, 0xff, 0xe1] ++ toBytes 2 spsLength ++ sps ++ [1] ++
      toBytes 2 ppsLength ++ pps)

/-! ## The description -/

structure H264DecoderDescription where
  profile : Int32
  level : Int32
  codecString : String
  extradata : List UInt8
  decoderConfig : List UInt8
  deriving Repr, DecidableEq

/-- `{:02X}`. -/
def hexByte (byte : UInt8) : String :=
  let digits := (Nat.toDigits 16 byte.toNat).map Char.toUpper
  String.ofList (List.replicate (2 - digits.length) '0' ++ digits)

def extradataAvcc (extradata : List UInt8) : Except (Fault IoError) (List UInt8) :=
  if extradata.head? = some 1 then
    if extradata.length < 7 ∨ MAX_H264_EXTRADATA < extradata.length then
      refuse (annexbInvalid "avcC decoder configuration is invalid")
    else .ok extradata
  else avccFromAnnexb extradata

def h264DecoderDescription (extradata : List UInt8) :
    Except (Fault IoError) H264DecoderDescription := do
  let avcc ← extradataAvcc extradata
  let profile ← item avcc 1
  let compatibility ← item avcc 2
  let level ← item avcc 3
  let portableExtradata ← annexbFromAvcc avcc
  .ok
    { profile := Int32.ofNat profile.toNat
      level := Int32.ofNat level.toNat
      codecString := "avc1." ++ hexByte profile ++ hexByte compatibility ++ hexByte level
      extradata := portableExtradata
      decoderConfig := avcc }

/-! ## Parameter sets in avcC form -/

theorem takeAvccNal_at {front nal rest : List UInt8} (some_bytes : nal ≠ [])
    (small : nal.length < 2 ^ 16) :
    takeAvccNal (front ++ (toBytes 2 nal.length ++ nal ++ rest)) front.length =
      .ok (nal, front.length + 2 + nal.length) := by
  obtain ⟨first, field, number, second, part⟩ := prefixedField_at 2 front nal rest
    "avcC parameter-set length is truncated" "avcC parameter set is truncated"
    (small.trans_eq (by norm_num))
  unfold takeAvccNal
  rw [first, ok_bind, field, ok_bind, number, second, ok_bind, part, ok_bind, if_neg some_bytes]

theorem takeParameterSets_one {front nal rest : List UInt8} {type : UInt8} (message : String)
    (typed : hasType type nal = true) (small : nal.length < 2 ^ 16) :
    takeParameterSets (front ++ (toBytes 2 nal.length ++ nal ++ rest)) type message 1
        front.length = .ok ([nal], front.length + 2 + nal.length) := by
  have some_bytes : nal ≠ [] := by
    intro none
    rw [none] at typed
    cases typed
  rw [takeParameterSets, takeAvccNal_at some_bytes small, ok_bind]
  dsimp only
  rw [typed, if_neg (by simp), takeParameterSets, ok_bind]

/-- A sequence parameter set with its first four bytes. -/
structure SpsBytes (sps : List UInt8) where
  header : UInt8
  profile : UInt8
  compatibility : UInt8
  level : UInt8
  more : List UInt8
  shape : sps = header :: profile :: compatibility :: level :: more

theorem spsBytes_of_length {sps : List UInt8} (long : 4 ≤ sps.length) : Nonempty (SpsBytes sps) := by
  cases sps with
  | nil => simp at long
  | cons header sps =>
      cases sps with
      | nil => simp at long
      | cons profile sps =>
          cases sps with
          | nil => simp at long
          | cons compatibility sps =>
              cases sps with
              | nil => simp at long
              | cons level more => exact ⟨⟨header, profile, compatibility, level, more, rfl⟩⟩

/-- The configuration of two parameter sets. -/
def avccOf {sps : List UInt8} (bytes : SpsBytes sps) (pps : List UInt8) : List UInt8 :=
  [1, bytes.profile, bytes.compatibility, bytes.level, 0xff, 0xe1] ++
    (toBytes 2 sps.length ++ sps ++ ([1] ++ (toBytes 2 pps.length ++ pps ++ [])))

section TwoSets

variable {sps pps : List UInt8} (bytes : SpsBytes sps)

theorem length_avccOf : (avccOf bytes pps).length = 11 + sps.length + pps.length := by
  simp only [avccOf, List.length_append, List.length_cons, List.length_nil, length_toBytes]
  omega

/-- The two sets come out of their configuration. -/
theorem annexbFromAvcc_avccOf (spsTyped : hasType 7 sps = true) (ppsTyped : hasType 8 pps = true)
    (spsSmall : sps.length < 2 ^ 16) (ppsSmall : pps.length < 2 ^ 16) :
    annexbFromAvcc (avccOf bytes pps) = .ok (startCoded [sps, pps]) := by
  have size := @length_avccOf sps pps bytes
  have long : ¬ (avccOf bytes pps).length < 7 := by omega
  have version : (item (avccOf bytes pps) 0 : Except (Fault IoError) UInt8) = .ok 1 := rfl
  have flags : (item (avccOf bytes pps) 5 : Except (Fault IoError) UInt8) = .ok 0xe1 := rfl
  have one : ((0xe1 : UInt8) &&& 0x1f).toNat = 1 := rfl
  have first := @takeParameterSets_one
    [1, bytes.profile, bytes.compatibility, bytes.level, 0xff, 0xe1] _
    ([1] ++ (toBytes 2 pps.length ++ pps ++ [])) _
    "avcC decoder configuration has an invalid SPS" spsTyped spsSmall
  have head : (([1, bytes.profile, bytes.compatibility, bytes.level, 0xff, 0xe1] : List UInt8) ++
      (toBytes 2 sps.length ++ sps)).length = 6 + 2 + sps.length := by
    simp only [List.length_append, List.length_cons, List.length_nil, length_toBytes]
    omega
  have split : avccOf bytes pps =
      ([1, bytes.profile, bytes.compatibility, bytes.level, 0xff, 0xe1] ++
        (toBytes 2 sps.length ++ sps)) ++ ([1] ++ (toBytes 2 pps.length ++ pps ++ [])) := by
    simp only [avccOf, List.append_assoc]
  have count : takeCount (avccOf bytes pps) (6 + 2 + sps.length) = .ok 1 := by
    rw [takeCount, split, ← List.head?_drop, ← head, List.drop_left]
    rfl
  have second := @takeParameterSets_one
    ([1, bytes.profile, bytes.compatibility, bytes.level, 0xff, 0xe1] ++
      (toBytes 2 sps.length ++ sps) ++ [1]) _ [] _
    "avcC decoder configuration has an invalid PPS" ppsTyped ppsSmall
  have whole : [1, bytes.profile, bytes.compatibility, bytes.level, 0xff, 0xe1] ++
      (toBytes 2 sps.length ++ sps) ++ [1] ++ (toBytes 2 pps.length ++ pps ++ []) =
      avccOf bytes pps := by
    rw [split, List.append_assoc]
  rw [List.length_append, head, List.length_singleton, whole] at second
  have small : ¬ 2 ^ 64 ≤ ([sps, pps].map fun set : List UInt8 => 4 + set.length).sum := by
    simp only [List.map_cons, List.map_nil, List.sum_cons, List.sum_nil]
    omega
  have sets : parameterSets (avccOf bytes pps) = .ok [sps, pps] := by
    unfold parameterSets
    rw [if_neg long, version, ok_bind, if_neg (by simp), flags, ok_bind]
    dsimp only
    rw [one, if_neg (by simp)]
    rw [show takeParameterSets (avccOf bytes pps) 7
      "avcC decoder configuration has an invalid SPS" 1 6 = .ok ([sps], 6 + 2 + sps.length)
      from first, ok_bind]
    dsimp only
    rw [count, ok_bind, if_neg (by simp), second, ok_bind]
    rfl
  rw [annexbFromAvcc, sets, ok_bind, if_neg small]

theorem hasType_seven_of_eight (typed : hasType 8 pps = true) : hasType 7 pps = false := by
  cases pps with
  | nil => rfl
  | cons header rest =>
      have eight : header &&& 0x1f = 8 := by simpa [hasType] using typed
      simp [hasType, eight]

theorem hasType_eight_of_seven (typed : hasType 7 sps = true) : hasType 8 sps = false := by
  cases sps with
  | nil => rfl
  | cons header rest =>
      have seven : header &&& 0x1f = 7 := by simpa [hasType] using typed
      simp [hasType, seven]

/-- The configuration of a buffer in which the two sets are found, in either order. -/
theorem avccFromAnnexb_eq (spsTyped : hasType 7 sps = true) (ppsTyped : hasType 8 pps = true)
    (fits : 11 + sps.length + pps.length ≤ MAX_H264_EXTRADATA) {data : List UInt8}
    (found : annexbNals data = [sps, pps] ∨ annexbNals data = [pps, sps]) :
    avccFromAnnexb data = .ok (avccOf bytes pps) := by
  have bound : 11 + sps.length + pps.length ≤ 4096 := fits
  have long : 4 ≤ sps.length := by
    rw [bytes.shape]
    simp
  have first : findUnit (annexbNals data) 7 4 "extradata has no SPS" = .ok sps := by
    rcases found with same | same <;>
      simp [findUnit, same, spsTyped, hasType_seven_of_eight ppsTyped, Option.filter, long]
  have second : findUnit (annexbNals data) 8 0 "extradata has no PPS" = .ok pps := by
    rcases found with same | same <;>
      simp [findUnit, same, ppsTyped, hasType_eight_of_seven spsTyped, Option.filter]
  have spsLength : u16Length sps "SPS is oversized" = .ok sps.length := by
    rw [u16Length, if_pos (by omega)]
  have ppsLength : u16Length pps "PPS is oversized" = .ok pps.length := by
    rw [u16Length, if_pos (by omega)]
  have profile : (item sps 1 : Except (Fault IoError) UInt8) = .ok bytes.profile :=
    item_eq_ok.mpr (congrArg (fun unit : List UInt8 => unit[1]?) bytes.shape)
  have compatibility : (item sps 2 : Except (Fault IoError) UInt8) = .ok bytes.compatibility :=
    item_eq_ok.mpr (congrArg (fun unit : List UInt8 => unit[2]?) bytes.shape)
  have level : (item sps 3 : Except (Fault IoError) UInt8) = .ok bytes.level :=
    item_eq_ok.mpr (congrArg (fun unit : List UInt8 => unit[3]?) bytes.shape)
  unfold avccFromAnnexb
  dsimp only
  rw [first, ok_bind, second, ok_bind, spsLength, ok_bind, ppsLength, ok_bind,
    if_neg (Nat.not_lt.mpr fits), profile, ok_bind, compatibility, ok_bind, level, ok_bind]
  simp [avccOf]

end TwoSets

/-! ## What comes out of any configuration -/

theorem endWithin_inRange {cursor length size : Nat} {message : String} :
    InRange (endWithin cursor length size message) :=
  InRange.ite (fun _ => trivial) fun _ => trivial

theorem takeAvccNal_inRange (avcc : List UInt8) (cursor : Nat) :
    InRange (takeAvccNal avcc cursor) := by
  refine endWithin_inRange.bind fun lengthEnd first => ?_
  obtain ⟨ends, inside⟩ := endWithin_eq_ok.mp first
  refine (range_inRange (by omega) (by omega)).bind fun field _ => ?_
  refine endWithin_inRange.bind fun stop second => ?_
  obtain ⟨stops, within⟩ := endWithin_eq_ok.mp second
  refine (range_inRange (by omega) (by omega)).bind fun nal _ => ?_
  exact InRange.ite (fun _ => trivial) fun _ => trivial

theorem takeParameterSets_inRange (avcc : List UInt8) (type : UInt8) (message : String)
    (count cursor : Nat) : InRange (takeParameterSets avcc type message count cursor) := by
  induction count generalizing cursor with
  | zero => trivial
  | succ count ih =>
      refine (takeAvccNal_inRange avcc cursor).bind fun taken _ => ?_
      refine InRange.ite (fun _ => trivial) fun _ => ?_
      exact (ih taken.2).bind fun rest _ => trivial

theorem takeCount_inRange (avcc : List UInt8) (cursor : Nat) : InRange (takeCount avcc cursor) := by
  unfold takeCount
  cases avcc[cursor]? with
  | none => trivial
  | some count => trivial

theorem parameterSets_inRange (avcc : List UInt8) : InRange (parameterSets avcc) := by
  refine InRange.ite (fun _ => trivial) fun long => ?_
  refine (item_inRange (by omega)).bind fun version _ => ?_
  refine InRange.ite (fun _ => trivial) fun _ => ?_
  refine (item_inRange (by omega)).bind fun flags _ => ?_
  refine InRange.ite (fun _ => trivial) fun _ => ?_
  refine (takeParameterSets_inRange avcc _ _ _ _).bind fun sps _ => ?_
  refine (takeCount_inRange avcc _).bind fun ppsCount _ => ?_
  refine InRange.ite (fun _ => trivial) fun _ => ?_
  exact (takeParameterSets_inRange avcc _ _ _ _).bind fun pps _ => trivial

theorem annexbFromAvcc_inRange (avcc : List UInt8) : InRange (annexbFromAvcc avcc) :=
  (parameterSets_inRange avcc).bind fun _ _ => InRange.ite (fun _ => trivial) fun _ => trivial

/-- A sequence or a picture parameter set, by its header. -/
def IsParameterSet (nal : List UInt8) : Prop := hasType 7 nal = true ∨ hasType 8 nal = true

theorem takeParameterSets_typed {avcc : List UInt8} {type : UInt8} {message : String}
    {count cursor stop : Nat} {sets : List (List UInt8)}
    (taken : takeParameterSets avcc type message count cursor = .ok (sets, stop)) :
    ∀ set ∈ sets, hasType type set = true := by
  induction count generalizing cursor sets stop with
  | zero =>
      rw [← (Prod.mk.inj (Except.ok.inj taken)).1]
      simp
  | succ count ih =>
      obtain ⟨nal, -, taken⟩ := bind_eq_ok_iff.mp taken
      dsimp only at taken
      split_ifs at taken with untyped
      · exact absurd taken (refuse_ne_ok _ _)
      · obtain ⟨rest, later, taken⟩ := bind_eq_ok_iff.mp taken
        rw [← (Prod.mk.inj (Except.ok.inj taken)).1]
        intro set among
        rcases List.mem_cons.mp among with same | among
        · rw [same]
          exact Bool.not_eq_false _ ▸ untyped
        · exact ih later set among

theorem parameterSets_typed {avcc : List UInt8} {sets : List (List UInt8)}
    (read : parameterSets avcc = .ok sets) : ∀ set ∈ sets, IsParameterSet set := by
  unfold parameterSets at read
  split_ifs at read
  · exact absurd read (refuse_ne_ok _ _)
  · obtain ⟨version, -, read⟩ := bind_eq_ok_iff.mp read
    split_ifs at read
    · exact absurd read (refuse_ne_ok _ _)
    · obtain ⟨flags, -, read⟩ := bind_eq_ok_iff.mp read
      dsimp only at read
      split_ifs at read
      · exact absurd read (refuse_ne_ok _ _)
      · obtain ⟨sps, spsTaken, read⟩ := bind_eq_ok_iff.mp read
        obtain ⟨count, -, read⟩ := bind_eq_ok_iff.mp read
        split_ifs at read
        · exact absurd read (refuse_ne_ok _ _)
        · obtain ⟨pps, ppsTaken, read⟩ := bind_eq_ok_iff.mp read
          rw [← Except.ok.inj read]
          intro set among
          rcases List.mem_append.mp among with first | second
          · exact Or.inl (takeParameterSets_typed spsTaken set first)
          · exact Or.inr (takeParameterSets_typed ppsTaken set second)

theorem annexbFromAvcc_eq_ok {avcc annexb : List UInt8} (written : annexbFromAvcc avcc = .ok annexb) :
    ∃ sets, parameterSets avcc = .ok sets ∧ annexb = startCoded sets := by
  obtain ⟨sets, read, written⟩ := bind_eq_ok_iff.mp written
  split_ifs at written
  · exact absurd written (refuse_ne_ok _ _)
  · exact ⟨sets, read, (Except.ok.inj written).symm⟩

/-- A parameter set without a start code inside is found as it is, up to padding. -/
theorem annexbNals_parameterSet {set : List UInt8} (typed : IsParameterSet set)
    (free : Free codeMark set) :
    ∀ nal ∈ annexbNals ([0, 0, 0, 1] ++ set), IsParameterSet nal := by
  have cut : annexbNals ([0, 0, 0, 1] ++ set) =
      ([set].map dropPadding).filter fun nal => decide (nal ≠ []) :=
    @annexbNals_joined [0] [set] (free_zeros 1) (by simpa using free)
  rw [cut]
  intro nal among
  have same := (List.mem_filter.mp among).1
  rw [List.map_singleton, List.mem_singleton] at same
  cases set with
  | nil => rcases typed with none | none <;> cases none
  | cons header rest =>
      have nonzero : header ≠ 0 := by
        intro zero
        rw [zero] at typed
        rcases typed with seven | eight
        · exact absurd seven (by simp [hasType])
        · exact absurd eight (by simp [hasType])
      obtain ⟨kept, shape⟩ := dropPadding_cons nonzero rest
      rw [same, shape]
      exact typed

/-! ## The two forms -/

theorem extradataAvcc_avccOf {sps pps : List UInt8} (bytes : SpsBytes sps)
    (fits : 11 + sps.length + pps.length ≤ MAX_H264_EXTRADATA) :
    extradataAvcc (avccOf bytes pps) = .ok (avccOf bytes pps) := by
  have size := @length_avccOf sps pps bytes
  have version : (avccOf bytes pps).head? = some 1 := rfl
  rw [extradataAvcc, if_pos version, if_neg]
  rw [not_or]
  omega

theorem extradataAvcc_coded {data : List UInt8} (coded : data.head? = some 0) :
    extradataAvcc data = avccFromAnnexb data := by
  rw [extradataAvcc, coded, if_neg (by simp)]

theorem head_annexBForm {units : List CodedUnit} (some_unit : units ≠ []) (leading : Nat) :
    (List.replicate leading 0 ++ annexBForm units).head? = some 0 := by
  cases leading with
  | succ leading => rfl
  | zero =>
      cases units with
      | nil => exact absurd rfl some_unit
      | cons unit units =>
          cases long : unit.long with
          | true => simp [annexBForm, CodedUnit.bytes, long]
          | false => simp [annexBForm, CodedUnit.bytes, long]

theorem startCoded_eq_form (nals : List (List UInt8)) :
    startCoded nals = annexBForm (nals.map fun nal => ⟨true, nal, 0⟩) := by
  induction nals with
  | nil => rfl
  | cons nal nals ih =>
      rw [startCoded_cons, ih]
      simp [annexBForm, CodedUnit.bytes]

theorem annexbNals_two {sps pps : List UInt8} (spsProper : ProperNal sps)
    (ppsProper : ProperNal pps) {units : List CodedUnit}
    (order : units.map CodedUnit.nal = [sps, pps] ∨ units.map CodedUnit.nal = [pps, sps])
    (leading : Nat) :
    annexbNals (List.replicate leading 0 ++ annexBForm units) = [sps, pps] ∨
      annexbNals (List.replicate leading 0 ++ annexBForm units) = [pps, sps] := by
  have proper : ∀ unit ∈ units, ProperNal unit.nal := by
    intro unit among
    have listed := List.mem_map_of_mem (f := CodedUnit.nal) among
    rcases order with same | same
    · rw [same] at listed
      rcases List.mem_pair.mp listed with here | here
      · exact here ▸ spsProper
      · exact here ▸ ppsProper
    · rw [same] at listed
      rcases List.mem_pair.mp listed with here | here
      · exact here ▸ ppsProper
      · exact here ▸ spsProper
  rw [annexbNals_form proper leading]
  exact order

/-- Two parameter sets have one configuration, whatever their Annex B form; it
is converted to start codes and back without loss and described as every form
is.  Any byte string that is converted gives parameter sets behind start codes,
and the units found in them are those of each set. -/
theorem decoder_descriptions_agree :
    (∀ sps pps : List UInt8, ProperNal sps → ProperNal pps → hasType 7 sps = true →
      hasType 8 pps = true → 4 ≤ sps.length →
      11 + sps.length + pps.length ≤ MAX_H264_EXTRADATA →
      ∃ avcc description, annexbFromAvcc avcc = .ok (startCoded [sps, pps]) ∧
        avccFromAnnexb (startCoded [sps, pps]) = .ok avcc ∧
        h264DecoderDescription avcc = .ok description ∧
        ∀ (units : List CodedUnit) (leading : Nat),
          (units.map CodedUnit.nal = [sps, pps] ∨ units.map CodedUnit.nal = [pps, sps]) →
          avccFromAnnexb (List.replicate leading 0 ++ annexBForm units) = .ok avcc ∧
            h264DecoderDescription (List.replicate leading 0 ++ annexBForm units) =
              .ok description) ∧
    ∀ avcc : List UInt8, InRange (annexbFromAvcc avcc) ∧
      ∀ annexb, annexbFromAvcc avcc = .ok annexb →
        ∃ sets, parameterSets avcc = .ok sets ∧ (∀ set ∈ sets, IsParameterSet set) ∧
          annexb = startCoded sets ∧
          annexbNals annexb = (sets.map fun set => annexbNals ([0, 0, 0, 1] ++ set)).flatten ∧
          ((∀ set ∈ sets, Free codeMark set) → ∀ nal ∈ annexbNals annexb, IsParameterSet nal) := by
  constructor
  · intro sps pps spsProper ppsProper spsTyped ppsTyped long fits
    obtain ⟨bytes⟩ := spsBytes_of_length long
    have bound : 11 + sps.length + pps.length ≤ 4096 := fits
    have portable := annexbFromAvcc_avccOf bytes spsTyped ppsTyped (by omega) (by omega)
    have described : ∃ description, h264DecoderDescription (avccOf bytes pps) =
        .ok description := by
      have profile : (item (avccOf bytes pps) 1 : Except (Fault IoError) UInt8) =
          .ok bytes.profile := rfl
      have compatibility : (item (avccOf bytes pps) 2 : Except (Fault IoError) UInt8) =
          .ok bytes.compatibility := rfl
      have level : (item (avccOf bytes pps) 3 : Except (Fault IoError) UInt8) =
          .ok bytes.level := rfl
      unfold h264DecoderDescription
      rw [extradataAvcc_avccOf bytes fits, ok_bind, profile, ok_bind, compatibility, ok_bind,
        level, ok_bind, portable, ok_bind]
      exact ⟨_, rfl⟩
    obtain ⟨description, described⟩ := described
    have forms : ∀ (units : List CodedUnit) (leading : Nat),
        (units.map CodedUnit.nal = [sps, pps] ∨ units.map CodedUnit.nal = [pps, sps]) →
        avccFromAnnexb (List.replicate leading 0 ++ annexBForm units) = .ok (avccOf bytes pps) :=
      fun units leading order => avccFromAnnexb_eq bytes spsTyped ppsTyped fits
        (annexbNals_two spsProper ppsProper order leading)
    refine ⟨avccOf bytes pps, description, portable, ?_, described, ?_⟩
    · have form := forms ([sps, pps].map fun nal => ⟨true, nal, 0⟩) 0 (Or.inl rfl)
      rw [← startCoded_eq_form] at form
      exact form
    · intro units leading order
      have some_unit : units ≠ [] := by
        intro none
        rw [none] at order
        rcases order with same | same <;> cases same
      have form := forms units leading order
      refine ⟨form, ?_⟩
      have same : extradataAvcc (List.replicate leading 0 ++ annexBForm units) =
          extradataAvcc (avccOf bytes pps) := by
        rw [extradataAvcc_coded (head_annexBForm some_unit leading), form,
          extradataAvcc_avccOf bytes fits]
      rw [h264DecoderDescription, same]
      exact described
  · intro avcc
    refine ⟨annexbFromAvcc_inRange avcc, ?_⟩
    intro annexb written
    obtain ⟨sets, read, shape⟩ := annexbFromAvcc_eq_ok written
    have typed := parameterSets_typed read
    have cut := annexbNals_startCoded sets
    rw [← shape] at cut
    refine ⟨sets, read, typed, shape, cut, ?_⟩
    intro free nal among
    rw [cut, List.mem_flatten] at among
    obtain ⟨units, listed, inside⟩ := among
    obtain ⟨set, member, same⟩ := List.mem_map.mp listed
    rw [← same] at inside
    exact annexbNals_parameterSet (typed set member) (free set member) nal inside

theorem decoder_descriptions_agree_small :
    (∃ avcc description, annexbFromAvcc avcc =
        .ok [0, 0, 0, 1, 0x67, 0x64, 0, 0x29, 0, 0, 0, 1, 0x68, 0xee] ∧
      h264DecoderDescription avcc = .ok description ∧
      h264DecoderDescription [0, 0, 1, 0x68, 0xee, 0, 0, 0, 0, 1, 0x67, 0x64, 0, 0x29] =
        .ok description) ∧
    InRange (annexbFromAvcc [1, 0x64, 0, 0x29, 0xff, 0xe1, 0xff, 0xff]) := by
  have spsProper : ProperNal [0x67, 0x64, 0, 0x29] :=
    ⟨by decide, by decide, by unfold Free codeMark; decide⟩
  have ppsProper : ProperNal [0x68, 0xee] :=
    ⟨by decide, by decide, by unfold Free codeMark; decide⟩
  obtain ⟨avcc, description, portable, -, described, forms⟩ := decoder_descriptions_agree.1
    [0x67, 0x64, 0, 0x29] [0x68, 0xee] spsProper ppsProper (by decide) (by decide) (by decide)
    (by decide)
  exact ⟨⟨avcc, description, portable, described,
    (forms [⟨false, [0x68, 0xee], 1⟩, ⟨true, [0x67, 0x64, 0, 0x29], 0⟩] 0 (Or.inr rfl)).2⟩,
    (decoder_descriptions_agree.2 _).1⟩

/-- A start code inside a sequence parameter set opens a unit of another type. -/
theorem parameter_set_with_code_inside :
    annexbFromAvcc [1, 0x64, 0, 0x29, 0xff, 0xe1, 0, 5, 0x67, 0, 0, 1, 0x65, 1, 0, 1, 0x68] =
        .ok [0, 0, 0, 1, 0x67, 0, 0, 1, 0x65, 0, 0, 0, 1, 0x68] ∧
      ∃ nal ∈ annexbNals [0, 0, 0, 1, 0x67, 0, 0, 1, 0x65, 0, 0, 0, 1, 0x68],
        ¬ IsParameterSet nal := by
  have proper : ∀ header : UInt8, header ≠ 0 → ProperNal [header] := by
    intro header nonzero
    refine ⟨by simp, by simpa using nonzero, ?_⟩
    intro inside
    have short := inside.length_le
    simp [codeMark] at short
  have cut := @annexbNals_form [⟨true, [0x67], 0⟩, ⟨false, [0x65], 0⟩, ⟨true, [0x68], 0⟩]
    (by simp [proper]) 0
  refine ⟨by decide +kernel, [0x65], ?_, by unfold IsParameterSet; decide⟩
  rw [show [0, 0, 0, 1, 0x67, 0, 0, 1, 0x65, 0, 0, 0, 1, 0x68] = List.replicate 0 0 ++ annexBForm
    [⟨true, [0x67], 0⟩, ⟨false, [0x65], 0⟩, ⟨true, [0x68], 0⟩] from rfl, cut]
  simp

end VividProtocol.Media
