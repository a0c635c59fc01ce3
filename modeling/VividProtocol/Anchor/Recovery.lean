import Mathlib.Tactic
import VividProtocol.Anchor.Conpty

/-!
# Recovery of markers

The scanner answers exactly what the decorated envelopes say, it keeps its answer
when more bytes arrive, and it never panics.
-/

set_option autoImplicit false

namespace VividProtocol.Anchor

open VividProtocol.Cbor
open VividProtocol.Auth

/-! ## One position -/

/-- The byte behind a wrap is not mistaken for a part of it. -/
structure Stops (canonical wrap : List UInt8) (byte : UInt8) : Prop where
  apart : wrap = [] → canonical ≠ [] → byte ≠ 13
  uncursored : wrap = [13, 10] → byte ≠ 0x1b

section Positions

variable {bytes before rest canonical : List UInt8}

theorem getElem?_behind (before rest : List UInt8) (index : Nat) :
    (before ++ rest)[before.length + index]? = rest[index]? := by
  rw [List.getElem?_append_right (Nat.le_add_right _ _), Nat.add_sub_cancel_left]

theorem drop_behind (before rest : List UInt8) (index : Nat) :
    (before ++ rest).drop (before.length + index) = rest.drop index := by
  rw [List.drop_append, List.drop_eq_nil_of_le (Nat.le_add_right _ _), Nat.add_sub_cancel_left,
    List.nil_append]

/-- A repaint is the last byte once more. -/
theorem skipRepaint_eq (canonical : List UInt8) :
    skipRepaint bytes (before ++ rest) canonical before.length =
      match rest with
      | [] => some (.error (incomplete bytes))
      | repaint :: _ =>
          canonical.getLast?.map fun last =>
            if repaint ≠ last then .error .invalid else .ok (before.length + 1) := by
  unfold skipRepaint
  have found := getElem?_behind before rest 0
  rw [Nat.add_zero] at found
  rw [found, List.getLast?_eq_getElem?]
  cases rest with
  | nil => rfl
  | cons repaint tail => rfl

/-- A wrap begins with a line break. -/
theorem skipWrap_eq (canonical tail : List UInt8) :
    skipWrap bytes (before ++ 13 :: tail) canonical before.length =
      match tail with
      | [] => some (.error (incomplete bytes))
      | next :: others =>
          if next ≠ 10 then some (.error .invalid)
          else if others.head? = some 0x1b then
            match wrapCursor others with
            | .complete consumed =>
                skipRepaint bytes (before ++ 13 :: next :: others) canonical
                  (before.length + 2 + consumed)
            | .incomplete => some (.error (incomplete bytes))
            | .invalid => some (.error .invalid)
          else some (.ok (before.length + 2)) := by
  unfold skipWrap
  rw [getElem?_behind, getElem?_behind, drop_behind]
  cases tail with
  | nil => rfl
  | cons next others =>
      have inside : ¬ (before ++ 13 :: next :: others).length < before.length + 2 := by simp
      rw [if_neg inside]
      cases others with
      | nil => rfl
      | cons first others => rfl

theorem nextByte_plain {byte : UInt8} (tail : List UInt8) (plain : canonical ≠ [] → byte ≠ 13) :
    nextByte bytes (before ++ byte :: tail) canonical before.length =
      some (.ok before.length) := by
  have found := getElem?_behind before (byte :: tail) 0
  rw [Nat.add_zero] at found
  unfold nextByte
  rw [found]
  refine if_neg fun wraps => plain ?_ wraps.2
  exact fun empty => wraps.1 (List.length_eq_zero_iff.mpr empty)

theorem nextByte_wrap (tail : List UInt8) (later : canonical ≠ []) :
    nextByte bytes (before ++ 13 :: tail) canonical before.length =
      (skipWrap bytes (before ++ 13 :: tail) canonical before.length).map
        (settled bytes (before ++ 13 :: tail)) := by
  have found := getElem?_behind before (13 :: tail) 0
  rw [Nat.add_zero] at found
  unfold nextByte
  rw [found]
  exact if_pos ⟨fun empty => later (List.length_eq_zero_iff.mp empty), rfl⟩

/-- The repaint behind a cursor position. -/
theorem skipRepaint_cursor (row column behind : List UInt8) :
    skipRepaint bytes
        (before ++ 13 :: 10 :: ([0x1b, 91] ++ (row ++ 59 :: (column ++ 72 :: behind)))) canonical
        (before.length + 2 + (row.length + column.length + 4)) =
      match behind with
      | [] => some (.error (incomplete bytes))
      | repaint :: _ =>
          canonical.getLast?.map fun last =>
            if repaint ≠ last then .error .invalid
            else .ok (before.length + (row.length + column.length + 7)) := by
  have split : before ++ 13 :: 10 :: ([0x1b, 91] ++ (row ++ 59 :: (column ++ 72 :: behind))) =
      (before ++ ([13, 10, 0x1b, 91] ++ row ++ [59] ++ column ++ [72])) ++ behind := by simp
  have size : before.length + 2 + (row.length + column.length + 4) =
      (before ++ ([13, 10, 0x1b, 91] ++ row ++ [59] ++ column ++ [72])).length := by
    simp only [List.length_append, List.length_cons, List.length_nil]
    omega
  have later : (before ++ ([13, 10, 0x1b, 91] ++ row ++ [59] ++ column ++ [72])).length + 1 =
      before.length + (row.length + column.length + 7) := by
    rw [← size]
    omega
  rw [split, size, skipRepaint_eq, later]

/-- A wrap that is skipped is an insertion. -/
theorem skipWrap_eq_ok {tail : List UInt8} {next : Nat} (later : canonical ≠ []) :
    skipWrap bytes (before ++ 13 :: tail) canonical before.length = some (.ok next) ↔
      ∃ wrap others, 13 :: tail = wrap ++ others ∧ wrap ≠ [] ∧ Insertion canonical wrap ∧
        (wrap = [13, 10] → others.head? ≠ some 0x1b) ∧ next = before.length + wrap.length := by
  rw [skipWrap_eq]
  constructor
  · intro found
    cases tail with
    | nil => cases found
    | cons first others =>
        dsimp only at found
        by_cases feeds : first ≠ 10
        · rw [if_pos feeds] at found
          cases found
        rw [if_neg feeds] at found
        rw [not_not] at feeds
        subst feeds
        by_cases escapes : others.head? = some 0x1b
        · rw [if_pos escapes] at found
          cases position : wrapCursor others with
          | incomplete =>
              rw [position] at found
              cases found
          | invalid =>
              rw [position] at found
              cases found
          | complete consumed =>
              rw [position] at found
              obtain ⟨row, column, behind, rfl, rows, columns, rfl⟩ :=
                wrapCursor_eq_complete.mp position
              dsimp only at found
              rw [skipRepaint_cursor] at found
              cases behind with
              | nil => cases found
              | cons repaint behind =>
                  rw [Option.map_eq_some_iff] at found
                  obtain ⟨last, repeated, painted⟩ := found
                  by_cases other : repaint ≠ last
                  · rw [if_pos other] at painted
                    cases painted
                  rw [if_neg other] at painted
                  cases painted
                  rw [not_not] at other
                  subst other
                  refine ⟨[13, 10, 0x1b, 91] ++ row ++ [59] ++ column ++ [72, repaint], behind,
                    by simp, by simp, .cursor rows columns repeated, fun short => ?_, ?_⟩
                  · have sizes := congrArg List.length short
                    simp at sizes
                  · simp only [List.length_append, List.length_cons, List.length_nil]
                    omega
        · rw [if_neg escapes] at found
          cases found
          exact ⟨[13, 10], others, rfl, List.cons_ne_nil _ _, .wrap later, fun _ => escapes, rfl⟩
  · rintro ⟨wrap, others, split, nonempty, inserted, stops, rfl⟩
    cases inserted with
    | none => exact absurd rfl nonempty
    | wrap _ =>
        have whole : tail = 10 :: others := (List.cons.inj split).2
        rw [whole]
        dsimp only
        rw [if_neg (not_not.mpr rfl), if_neg (stops rfl)]
        rfl
    | @cursor row column last rows columns repeated =>
        have whole : tail = 10 :: ([0x1b, 91] ++ (row ++ 59 :: (column ++ 72 :: last :: others))) := by
          have found := (List.cons.inj split).2
          rw [found]
          simp
        have position : wrapCursor ([0x1b, 91] ++ (row ++ 59 :: (column ++ 72 :: last :: others))) =
            .complete (row.length + column.length + 4) :=
          wrapCursor_eq_complete.mpr ⟨row, column, last :: others, rfl, rows, columns, rfl⟩
        have escapes : ([0x1b, 91] ++ (row ++ 59 :: (column ++ 72 :: last :: others))).head? =
            some 0x1b := rfl
        rw [whole]
        dsimp only
        rw [if_neg (not_not.mpr rfl), if_pos escapes, position]
        dsimp only
        rw [skipRepaint_cursor]
        dsimp only
        rw [repeated, Option.map_some, if_neg (not_not.mpr rfl)]
        simp only [List.length_append, List.length_cons, List.length_nil]
        congr 2
        omega

/-- The position of the next byte is behind an insertion. -/
theorem nextByte_eq_ok {next : Nat} :
    nextByte bytes (before ++ rest) canonical before.length = some (.ok next) ↔
      ∃ wrap byte tail, rest = wrap ++ byte :: tail ∧ Insertion canonical wrap ∧
        Stops canonical wrap byte ∧ next = before.length + wrap.length := by
  cases rest with
  | nil =>
      have absent : nextByte bytes (before ++ []) canonical before.length = none := by
        unfold nextByte
        rw [List.append_nil, List.getElem?_eq_none (le_refl _)]
      rw [absent]
      refine ⟨nofun, ?_⟩
      rintro ⟨wrap, byte, tail, empty, -⟩
      simp at empty
  | cons first others =>
      by_cases plain : canonical ≠ [] → first ≠ 13
      · rw [nextByte_plain others plain]
        constructor
        · intro found
          cases found
          exact ⟨[], first, others, rfl, .none, ⟨fun _ => plain, nofun⟩, rfl⟩
        · rintro ⟨wrap, byte, tail, split, inserted, stops, rfl⟩
          cases inserted with
          | none => rfl
          | wrap later =>
              cases split
              exact absurd rfl (plain later)
          | cursor rows columns repeated =>
              have start := (List.cons.inj split).1
              refine absurd start (plain fun empty => ?_)
              rw [empty] at repeated
              cases repeated
      · push Not at plain
        obtain ⟨later, rfl⟩ := plain
        rw [nextByte_wrap others later, Option.map_eq_some_iff]
        constructor
        · rintro ⟨skipped, wraps, settles⟩
          cases skipped with
          | error answer => cases settles
          | ok cursor =>
              unfold settled at settles
              dsimp only at settles
              obtain ⟨wrap, tail, split, nonempty, inserted, stops, rfl⟩ :=
                (skipWrap_eq_ok later).mp wraps
              rw [split, List.length_append, List.length_append] at settles
              cases tail with
              | nil =>
                  rw [List.length_nil, if_pos (by omega)] at settles
                  cases settles
              | cons byte tail =>
                  rw [List.length_cons, if_neg (by omega)] at settles
                  cases settles
                  refine ⟨wrap, byte, tail, split, inserted,
                    ⟨fun empty => absurd empty nonempty, fun short => ?_⟩, rfl⟩
                  exact fun escape => stops short (congrArg some escape)
        · rintro ⟨wrap, byte, tail, split, inserted, stops, rfl⟩
          have nonempty : wrap ≠ [] := by
            rintro rfl
            exact stops.apart rfl later (List.cons.inj split).1.symm
          refine ⟨.ok (before.length + wrap.length), (skipWrap_eq_ok later).mpr
            ⟨wrap, byte :: tail, split, nonempty, inserted, fun short escape => ?_, rfl⟩, ?_⟩
          · exact stops.uncursored short (Option.some.inj escape)
          · unfold settled
            dsimp only
            rw [if_neg]
            rw [split, List.length_append, List.length_append, List.length_cons]
            omega

/-- A position is never out of range. -/
theorem nextByte_total (byte : UInt8) (tail canonical : List UInt8) :
    ∃ answer, nextByte bytes (before ++ byte :: tail) canonical before.length = some answer := by
  by_cases plain : canonical ≠ [] → byte ≠ 13
  · exact ⟨_, nextByte_plain tail plain⟩
  push Not at plain
  obtain ⟨later, rfl⟩ := plain
  rw [nextByte_wrap tail later, skipWrap_eq]
  obtain ⟨last, repeated⟩ := Option.ne_none_iff_exists'.mp
    (mt List.getLast?_eq_none_iff.mp later)
  cases tail with
  | nil => exact ⟨_, rfl⟩
  | cons first others =>
      dsimp only
      by_cases feeds : first ≠ 10
      · rw [if_pos feeds]
        exact ⟨_, rfl⟩
      rw [if_neg feeds]
      by_cases escapes : others.head? = some 0x1b
      · rw [if_pos escapes]
        cases position : wrapCursor others with
        | incomplete => exact ⟨_, rfl⟩
        | invalid => exact ⟨_, rfl⟩
        | complete consumed =>
            obtain ⟨row, column, behind, rfl, -, -, rfl⟩ := wrapCursor_eq_complete.mp position
            rw [not_not] at feeds
            subst feeds
            dsimp only
            rw [skipRepaint_cursor]
            cases behind with
            | nil => exact ⟨_, rfl⟩
            | cons repaint behind =>
                dsimp only
                rw [repeated]
                exact ⟨_, rfl⟩
      · rw [if_neg escapes]
        exact ⟨_, rfl⟩

/-- A wrap that is refused stays so when more bytes arrive. -/
theorem skipWrap_invalid {bytes' tail : List UInt8} (short : incomplete bytes = .incomplete)
    (more : List UInt8)
    (refused : skipWrap bytes (before ++ 13 :: tail) canonical before.length =
      some (.error .invalid)) :
    skipWrap bytes' (before ++ 13 :: (tail ++ more)) canonical before.length =
      some (.error .invalid) := by
  rw [skipWrap_eq, short] at refused
  rw [skipWrap_eq]
  cases tail with
  | nil => cases refused
  | cons first others =>
      rw [List.cons_append]
      dsimp only at refused ⊢
      by_cases feeds : first ≠ 10
      · rw [if_pos feeds]
      rw [if_neg feeds] at refused ⊢
      rw [not_not] at feeds
      subst feeds
      by_cases escapes : others.head? = some 0x1b
      · have escapes' : (others ++ more).head? = some 0x1b := by
          rw [List.head?_append, escapes]
          rfl
        rw [if_pos escapes] at refused
        rw [if_pos escapes']
        cases position : wrapCursor others with
        | incomplete =>
            rw [position] at refused
            cases refused
        | invalid => rw [wrapCursor_append position nofun more]
        | complete consumed =>
            rw [position] at refused
            rw [wrapCursor_append position nofun more]
            obtain ⟨row, column, behind, rfl, -, -, rfl⟩ := wrapCursor_eq_complete.mp position
            have split : [0x1b, 91] ++ (row ++ 59 :: (column ++ 72 :: behind)) ++ more =
                [0x1b, 91] ++ (row ++ 59 :: (column ++ 72 :: (behind ++ more))) := by simp
            dsimp only at refused ⊢
            rw [skipRepaint_cursor, short] at refused
            rw [split, skipRepaint_cursor]
            cases behind with
            | nil => cases refused
            | cons repaint behind => exact refused
      · rw [if_neg escapes] at refused
        cases refused

/-- A position that is refused stays so when more bytes arrive. -/
theorem nextByte_invalid {bytes' : List UInt8} (short : incomplete bytes = .incomplete)
    (more : List UInt8)
    (refused : nextByte bytes (before ++ rest) canonical before.length = some (.error .invalid)) :
    nextByte bytes' (before ++ (rest ++ more)) canonical before.length =
      some (.error .invalid) := by
  cases rest with
  | nil =>
      unfold nextByte at refused
      rw [List.append_nil, List.getElem?_eq_none (le_refl _)] at refused
      cases refused
  | cons first others =>
      by_cases plain : canonical ≠ [] → first ≠ 13
      · rw [nextByte_plain others plain] at refused
        cases refused
      push Not at plain
      obtain ⟨later, rfl⟩ := plain
      rw [nextByte_wrap others later, Option.map_eq_some_iff] at refused
      obtain ⟨skipped, wraps, settles⟩ := refused
      cases skipped with
      | ok cursor =>
          unfold settled at settles
          dsimp only at settles
          rw [short] at settles
          split at settles
          · cases settles
          · cases settles
      | error answer =>
          cases settles
          rw [List.cons_append, nextByte_wrap _ later, skipWrap_invalid short more wraps]
          rfl

end Positions

/-! ## The grammar -/

/-- Inside an envelope a byte is expected or not, and no wrap byte is. -/
theorem expectedByte_total {index : Nat} (inside : index < ENVELOPE_BYTES) (byte : UInt8) :
    ∃ expected, expectedByte index byte = some expected := by
  have head := length_head
  have tail : SUFFIX.length = 10 := length_suffix
  unfold ENVELOPE_BYTES BODY_BYTES at inside
  unfold expectedByte
  split
  · next low =>
    rw [List.getElem?_eq_getElem (by omega)]
    exact ⟨_, rfl⟩
  split
  · exact ⟨_, rfl⟩
  split
  · exact ⟨_, rfl⟩
  split
  · exact ⟨_, rfl⟩
  · rw [List.getElem?_eq_getElem (by unfold BODY_BYTES; omega)]
    exact ⟨_, rfl⟩

theorem expectedByte_ascii {index : Nat} {byte : UInt8}
    (expected : expectedByte index byte = some true) : byte < 128 ∧ byte ≠ 13 ∧ byte ≠ 0x1b := by
  have printable : ∀ text : List UInt8, (∀ byte ∈ text, byte < 128 ∧ byte ≠ 13 ∧ byte ≠ 0x1b) →
      ∀ place : Nat, (text[place]?.map fun expected => decide (byte = expected)) = some true →
      byte < 128 ∧ byte ≠ 13 ∧ byte ≠ 0x1b := by
    intro text all place found
    rw [Option.map_eq_some_iff] at found
    obtain ⟨letter, inside, same⟩ := found
    rw [of_decide_eq_true same]
    exact all letter (List.mem_of_getElem? inside)
  unfold expectedByte at expected
  split at expected
  · refine printable _ ?_ _ expected
    rw [textBytes_head]
    decide +kernel
  split at expected
  · have safe := Option.some.inj expected
    refine ⟨(ascii_of_urlSafe safe).1, ?_, ?_⟩
    · rintro rfl
      exact absurd safe (by decide)
    · rintro rfl
      exact absurd safe (by decide)
  split at expected
  · rw [of_decide_eq_true (Option.some.inj expected)]
    decide
  split at expected
  · have digit := Option.some.inj expected
    refine ⟨(ascii_of_hexDigit digit).1, ?_, ?_⟩
    · rintro rfl
      exact absurd digit (by decide)
    · rintro rfl
      exact absurd digit (by decide)
  · refine printable _ ?_ _ expected
    unfold SUFFIX
    rw [textBytes_suffix]
    decide +kernel

/-- A segment has the bytes that are expected from a position on. -/
def Matches (start : Nat) (segment : List UInt8) : Prop :=
  ∀ index byte, segment[index]? = some byte → expectedByte (start + index) byte = some true

theorem Matches.append {start : Nat} {first second : List UInt8} (left : Matches start first)
    (right : Matches (start + first.length) second) : Matches start (first ++ second) := by
  intro index byte found
  rw [List.getElem?_append] at found
  split at found
  · exact left index byte found
  · next beyond =>
    have shifted := right _ byte found
    rw [Nat.add_assoc, Nat.add_sub_cancel' (by omega)] at shifted
    exact shifted

theorem matches_urlSafe {start : Nat} {segment : List UInt8} (size : segment.length = 22)
    (place : start = 10 ∨ start = 67) (safe : ∀ byte ∈ segment, isUrlSafe byte = true) :
    Matches start segment := by
  intro index byte found
  have short := (List.getElem?_eq_some_iff.mp found).1
  unfold expectedByte
  rw [if_neg (by omega), if_pos (by omega)]
  exact congrArg some (safe byte (List.mem_of_getElem? found))

theorem matches_hex {start : Nat} {segment : List UInt8} (size : segment.length = 16)
    (place : start = 33 ∨ start = 50) (hex : ∀ byte ∈ segment, isHexDigit byte = true) :
    Matches start segment := by
  intro index byte found
  have short := (List.getElem?_eq_some_iff.mp found).1
  unfold expectedByte
  rw [if_neg (by omega), if_neg (by omega), if_neg (by omega), if_pos (by omega)]
  exact congrArg some (hex byte (List.mem_of_getElem? found))

theorem matches_separator {start : Nat} (place : start = 32 ∨ start = 49 ∨ start = 66) :
    Matches start [59] := by
  intro index byte found
  rw [List.getElem?_singleton] at found
  split at found
  · next zero =>
    cases found
    unfold expectedByte
    rw [if_neg (by omega), if_neg (by omega), if_pos (by omega)]
    rfl
  · cases found

theorem matches_head : Matches 0 (textBytes "VIVID;3;A;") := by
  intro index byte found
  have head := length_head
  have short := (List.getElem?_eq_some_iff.mp found).1
  unfold expectedByte
  rw [if_pos (by omega), Nat.zero_add, found, Option.map_some, decide_eq_true rfl]

theorem matches_suffix : Matches 89 SUFFIX := by
  intro index byte found
  have short := (List.getElem?_eq_some_iff.mp found).1
  have size : SUFFIX.length = 10 := length_suffix
  rw [size] at short
  unfold expectedByte
  rw [if_neg (by omega), if_neg (by omega), if_neg (by omega), if_neg (by omega),
    show 89 + index - BODY_BYTES = index by unfold BODY_BYTES; omega, found, Option.map_some,
    decide_eq_true rfl]

/-- An accepted envelope has the bytes that are expected. -/
theorem Fields.matches {tag contextId anchorId auth : List UInt8}
    (fields : Fields tag contextId anchorId auth) :
    Matches 0 (markerOf tag contextId anchorId auth ++ SUFFIX) := by
  have head := length_head
  refine Matches.append ?_ ?_
  · rw [markerOf_eq]
    refine Matches.append (Matches.append (Matches.append (Matches.append (Matches.append
      (Matches.append (Matches.append matches_head ?_) ?_) ?_) ?_) ?_) ?_) ?_
    · exact matches_urlSafe fields.tagSize (by simp [head]) fields.tagSafe
    · exact matches_separator (by simp [head, fields.tagSize])
    · exact matches_hex fields.contextSize (by simp [head, fields.tagSize]) fields.contextHex
    · exact matches_separator (by simp [head, fields.tagSize, fields.contextSize])
    · exact matches_hex fields.anchorSize
        (by simp [head, fields.tagSize, fields.contextSize]) fields.anchorHex
    · exact matches_separator
        (by simp [head, fields.tagSize, fields.contextSize, fields.anchorSize])
    · exact matches_urlSafe fields.authSize
        (by simp [head, fields.tagSize, fields.contextSize, fields.anchorSize]) fields.authSafe
  · rw [fields.length]
    exact matches_suffix

/-! ## Rounds -/

section Rounds

variable {base64 : UrlSafeNoPad} {bytes before rest canonical : List UInt8}

/-- A round at the end of the input. -/
theorem scanFrom_end (rounds : Nat) :
    scanFrom base64 bytes (before ++ []) rounds before.length canonical =
      some (incomplete bytes) := by
  cases rounds with
  | zero => rfl
  | succ rounds =>
      unfold scanFrom
      rw [if_pos (by simp)]

/-- A round that ends at a wrap. -/
theorem scanFrom_error {first : UInt8} {others : List UInt8} {answer : Scan} (rounds : Nat)
    (found : nextByte bytes (before ++ first :: others) canonical before.length =
      some (.error answer)) :
    scanFrom base64 bytes (before ++ first :: others) (rounds + 1) before.length canonical =
      some answer := by
  unfold scanFrom
  rw [if_neg (by simp), found]

/-- A round that reads the byte behind an insertion. -/
theorem scanFrom_byte {wrap tail : List UInt8} {byte : UInt8} (rounds : Nat)
    (inserted : Insertion canonical wrap) (stops : Stops canonical wrap byte) :
    scanFrom base64 bytes (before ++ (wrap ++ byte :: tail)) (rounds + 1) before.length canonical =
      match expectedByte canonical.length byte with
      | none => none
      | some false => some .invalid
      | some true =>
          if ENVELOPE_BYTES ≤ canonical.length then none
          else if canonical.length + 1 = ENVELOPE_BYTES then
            finish base64 (canonical ++ [byte]) (before ++ wrap ++ [byte]).length
          else
            scanFrom base64 bytes (before ++ wrap ++ [byte] ++ tail) rounds
              (before ++ wrap ++ [byte]).length (canonical ++ [byte]) := by
  have found : nextByte bytes (before ++ (wrap ++ byte :: tail)) canonical before.length =
      some (.ok (before.length + wrap.length)) :=
    nextByte_eq_ok.mpr ⟨wrap, byte, tail, rfl, inserted, stops, rfl⟩
  have letter : (before ++ (wrap ++ byte :: tail))[before.length + wrap.length]? = some byte := by
    rw [getElem?_behind]
    exact (getElem?_behind wrap (byte :: tail) 0).trans rfl
  have size : (before ++ wrap ++ [byte]).length = before.length + wrap.length + 1 := by
    rw [List.length_append, List.length_append]
    rfl
  have split : before ++ wrap ++ [byte] ++ tail = before ++ (wrap ++ byte :: tail) := by simp
  rw [size, split]
  conv_lhs => unfold scanFrom
  rw [if_neg (by simp), found]
  dsimp only
  rewrite [letter]
  rfl

/-- How a round begins: at the end, at a wrap that is answered, or at a byte. -/
theorem round_cases (bytes before canonical : List UInt8) (first : UInt8) (others : List UInt8) :
    (∃ answer, nextByte bytes (before ++ first :: others) canonical before.length =
        some (.error answer)) ∨
      ∃ wrap byte tail, first :: others = wrap ++ byte :: tail ∧ Insertion canonical wrap ∧
        Stops canonical wrap byte := by
  obtain ⟨answer, found⟩ := @nextByte_total bytes before first others canonical
  cases answer with
  | error answer => exact .inl ⟨answer, found⟩
  | ok next =>
      obtain ⟨wrap, byte, tail, split, inserted, stops, -⟩ := nextByte_eq_ok.mp found
      exact .inr ⟨wrap, byte, tail, split, inserted, stops⟩

theorem skipRepaint_error {input : List UInt8} {cursor : Nat} {answer : Scan}
    (found : skipRepaint bytes input canonical cursor = some (.error answer)) :
    answer = .invalid ∨ answer = incomplete bytes := by
  unfold skipRepaint at found
  split at found
  · cases found
    exact .inr rfl
  · rw [Option.map_eq_some_iff] at found
    obtain ⟨last, -, painted⟩ := found
    split at painted
    · cases painted
      exact .inl rfl
    · cases painted

theorem skipWrap_error {input : List UInt8} {cursor : Nat} {answer : Scan}
    (found : skipWrap bytes input canonical cursor = some (.error answer)) :
    answer = .invalid ∨ answer = incomplete bytes := by
  unfold skipWrap at found
  split at found
  · cases found
    exact .inr rfl
  split at found
  · cases found
    exact .inl rfl
  split at found
  · split at found
    · cases found
    split at found
    · exact skipRepaint_error found
    · cases found
      exact .inr rfl
    · cases found
      exact .inl rfl
  · cases found

/-- What is answered at a wrap is never an envelope. -/
theorem nextByte_error {input : List UInt8} {cursor : Nat} {answer : Scan}
    (found : nextByte bytes input canonical cursor = some (.error answer)) :
    answer = .invalid ∨ answer = incomplete bytes := by
  unfold nextByte at found
  split at found
  · cases found
  split at found
  · rw [Option.map_eq_some_iff] at found
    obtain ⟨skipped, wraps, settles⟩ := found
    cases skipped with
    | error other =>
        cases settles
        exact skipWrap_error wraps
    | ok next =>
        unfold settled at settles
        dsimp only at settles
        split at settles
        · cases settles
          exact .inr rfl
        · cases settles
  · cases found

theorem incomplete_ne_complete (bytes : List UInt8) (consumed : Nat) (body : List UInt8) :
    incomplete bytes ≠ .complete consumed body := by
  unfold incomplete
  split
  · exact nofun
  · exact nofun

theorem finish_eq_complete {canonical body : List UInt8} {size consumed : Nat}
    (finished : finish base64 canonical size = some (.complete consumed body)) :
    ∃ result, parseConptyMarker base64 canonical = .ok result ∧ consumed = size ∧
      body = canonical.take BODY_BYTES := by
  unfold finish at finished
  split at finished
  · cases finished
  cases parsed : parseConptyMarker base64 canonical with
  | error message =>
      rw [parsed] at finished
      cases finished
  | ok result =>
      rw [parsed] at finished
      cases finished
      exact ⟨result, rfl, rfl, rfl⟩

/-- Of the bytes beyond the input only their number matters. -/
theorem scanFrom_congr {bytes' : List UInt8} (same : incomplete bytes = incomplete bytes')
    (input : List UInt8) (rounds cursor : Nat) (canonical : List UInt8) :
    scanFrom base64 bytes input rounds cursor canonical =
      scanFrom base64 bytes' input rounds cursor canonical := by
  have position : ∀ canonical cursor, nextByte bytes input canonical cursor =
      nextByte bytes' input canonical cursor := by
    have ends : settled bytes input = settled bytes' input := by
      funext skipped
      cases skipped with
      | error answer => rfl
      | ok cursor => simp only [settled, same]
    intro canonical cursor
    simp only [nextByte, skipWrap, skipRepaint, same, ends]
  induction rounds generalizing cursor canonical with
  | zero => exact congrArg some same
  | succ rounds ih =>
      unfold scanFrom
      simp only [same, position, ih]

/-! ## Soundness -/

/-- An envelope that is recovered was there, with insertions, and is accepted. -/
theorem scanFrom_complete {rounds consumed : Nat} {body : List UInt8}
    (decorated : Decorated canonical before)
    (recovered : scanFrom base64 bytes (before ++ rest) rounds before.length canonical =
      some (.complete consumed body)) :
    ∃ envelope raw tail result, before ++ rest = raw ++ tail ∧ consumed = raw.length ∧
      Decorated envelope raw ∧ parseConptyMarker base64 envelope = .ok result ∧
      body = envelope.take BODY_BYTES := by
  induction rounds generalizing before rest canonical with
  | zero => exact absurd (Option.some.inj recovered) (incomplete_ne_complete bytes _ _)
  | succ rounds ih =>
      cases rest with
      | nil =>
          rw [scanFrom_end] at recovered
          exact absurd (Option.some.inj recovered) (incomplete_ne_complete bytes _ _)
      | cons first others =>
          rcases round_cases bytes before canonical first others with
            ⟨answer, found⟩ | ⟨wrap, byte, tail, split, inserted, stops⟩
          · rw [scanFrom_error rounds found, Option.some.injEq] at recovered
            subst recovered
            rcases nextByte_error found with wrong | wrong
            · cases wrong
            · exact absurd wrong.symm (incomplete_ne_complete bytes _ _)
          · rw [split, scanFrom_byte rounds inserted stops] at recovered
            have decorated' := decorated.byte inserted byte
            have whole : before ++ first :: others = before ++ wrap ++ [byte] ++ tail := by
              rw [split]
              simp
            cases expected : expectedByte canonical.length byte with
            | none =>
                rw [expected] at recovered
                cases recovered
            | some matched =>
                rw [expected] at recovered
                cases matched with
                | false => cases recovered
                | true =>
                    dsimp only at recovered
                    split at recovered
                    · cases recovered
                    split at recovered
                    · obtain ⟨result, accepted, size, text⟩ := finish_eq_complete recovered
                      exact ⟨_, _, tail, result, whole, size, decorated', accepted, text⟩
                    · rw [whole]
                      exact ih decorated' recovered

/-! ## No panic -/

theorem scanFrom_total (rounds : Nat) (short : canonical.length < ENVELOPE_BYTES)
    (ascii : isAscii canonical = true) :
    ∃ answer, scanFrom base64 bytes (before ++ rest) rounds before.length canonical =
      some answer := by
  induction rounds generalizing before rest canonical with
  | zero => exact ⟨_, rfl⟩
  | succ rounds ih =>
      cases rest with
      | nil => exact ⟨_, scanFrom_end _⟩
      | cons first others =>
          rcases round_cases bytes before canonical first others with
            ⟨answer, found⟩ | ⟨wrap, byte, tail, split, inserted, stops⟩
          · exact ⟨answer, scanFrom_error rounds found⟩
          · obtain ⟨matched, expected⟩ := expectedByte_total short byte
            rw [split, scanFrom_byte rounds inserted stops, expected]
            cases matched with
            | false => exact ⟨_, rfl⟩
            | true =>
                have ascii' : isAscii (canonical ++ [byte]) = true := by
                  unfold isAscii at ascii ⊢
                  rw [List.all_append, ascii]
                  simpa using (expectedByte_ascii expected).1
                dsimp only
                rw [if_neg (not_le.mpr short)]
                by_cases last : canonical.length + 1 = ENVELOPE_BYTES
                · rw [if_pos last]
                  unfold finish
                  rw [if_neg (not_not.mpr ascii')]
                  split
                  · exact ⟨_, rfl⟩
                  · exact ⟨_, rfl⟩
                · rw [if_neg last]
                  exact ih (by rw [List.length_append, List.length_singleton]; omega) ascii'

/-! ## Stability -/

/-- What is decided about the bytes so far stays so when more arrive. -/
theorem scanFrom_append {bytes' more : List UInt8} {rounds : Nat} {answer : Scan}
    (short : incomplete bytes = .incomplete)
    (decided : scanFrom base64 bytes (before ++ rest) rounds before.length canonical = some answer)
    (known : answer ≠ .incomplete) (extra : Nat) :
    scanFrom base64 bytes' (before ++ (rest ++ more)) (rounds + extra) before.length canonical =
      some answer := by
  induction rounds generalizing before rest canonical with
  | zero =>
      have same := Option.some.inj decided
      rw [short] at same
      exact absurd same.symm known
  | succ rounds ih =>
      cases rest with
      | nil =>
          rw [scanFrom_end, short, Option.some.injEq] at decided
          exact absurd decided.symm known
      | cons first others =>
          rw [Nat.add_right_comm]
          rcases round_cases bytes before canonical first others with
            ⟨refused, found⟩ | ⟨wrap, byte, tail, split, inserted, stops⟩
          · rw [scanFrom_error rounds found, Option.some.injEq] at decided
            subst decided
            rcases nextByte_error found with rfl | same
            · exact scanFrom_error _ (nextByte_invalid short more found)
            · rw [short] at same
              exact absurd same known
          · rw [split, scanFrom_byte rounds inserted stops] at decided
            rw [split, List.append_assoc, List.cons_append, scanFrom_byte _ inserted stops]
            cases expected : expectedByte canonical.length byte with
            | none =>
                rw [expected] at decided
                cases decided
            | some matched =>
                rw [expected] at decided
                cases matched with
                | false => exact decided
                | true =>
                    dsimp only at decided ⊢
                    by_cases full : ENVELOPE_BYTES ≤ canonical.length
                    · rw [if_pos full] at decided
                      cases decided
                    rw [if_neg full] at decided ⊢
                    by_cases last : canonical.length + 1 = ENVELOPE_BYTES
                    · rw [if_pos last] at decided ⊢
                      exact decided
                    · rw [if_neg last] at decided ⊢
                      exact ih decided

/-! ## Completeness -/

/-- A decorated part of an accepted envelope is read to its end. -/
theorem scanFrom_decorated {envelope raw tail : List UInt8} (decorated : Decorated envelope raw)
    (short : envelope.length < ENVELOPE_BYTES)
    (expected : ∀ index byte, envelope[index]? = some byte →
      expectedByte index byte = some true) (rounds : Nat) :
    scanFrom base64 bytes (raw ++ tail) (envelope.length + rounds) 0 [] =
      scanFrom base64 bytes (raw ++ tail) rounds raw.length envelope := by
  induction decorated generalizing tail rounds with
  | nil => simp
  | @byte envelope raw wrap rest inserted byte ih =>
      have fits : envelope.length + 1 < ENVELOPE_BYTES := by
        rw [List.length_append] at short
        exact short
      have matched := expected envelope.length byte (by simp)
      have stops : Stops envelope wrap byte :=
        ⟨fun _ _ => (expectedByte_ascii matched).2.1, fun _ => (expectedByte_ascii matched).2.2⟩
      have start := @ih (wrap ++ byte :: tail) (by omega)
        (fun index other found => expected index other (by
          rw [List.getElem?_append_left (List.getElem?_eq_some_iff.mp found).1]
          exact found)) (rounds + 1)
      rw [scanFrom_byte rounds inserted stops, matched] at start
      dsimp only at start
      rw [if_neg (by omega), if_neg (by omega)] at start
      rw [← start, List.length_append, List.length_singleton]
      have split : raw ++ wrap ++ [byte] ++ tail = raw ++ (wrap ++ byte :: tail) := by simp
      rw [split]
      congr 1
      omega

theorem Decorated.length_le {envelope raw : List UInt8} (decorated : Decorated envelope raw) :
    envelope.length ≤ raw.length := by
  induction decorated with
  | nil => exact le_refl _
  | byte _ _ _ ih =>
      simp only [List.length_append, List.length_singleton]
      omega

/-- A decorated envelope that is accepted is recovered. -/
theorem scanFrom_recovers {envelope raw : List UInt8} {result : AnchorMarker}
    (decorated : Decorated envelope raw)
    (accepted : parseConptyMarker base64 envelope = .ok result) (tail : List UInt8) :
    scanFrom base64 bytes (raw ++ tail) (raw ++ tail).length 0 [] =
      some (.complete raw.length (envelope.take BODY_BYTES)) := by
  obtain ⟨tag, contextId, anchorId, auth, same, fields⟩ := parseConptyMarker_fields accepted
  have size : envelope.length = ENVELOPE_BYTES := by
    rw [same, List.length_append, fields.length]
    exact congrArg (89 + ·) length_suffix
  have expected : ∀ index byte, envelope[index]? = some byte →
      expectedByte index byte = some true := by
    intro index byte found
    have matched := fields.matches index byte (same ▸ found)
    rw [Nat.zero_add] at matched
    exact matched
  cases decorated with
  | nil => cases size
  | @byte front raw wrap rest inserted byte =>
      have fits : front.length + 1 = ENVELOPE_BYTES := by
        rw [← size, List.length_append]
        rfl
      have matched := expected front.length byte (by simp)
      have stops : Stops front wrap byte :=
        ⟨fun _ _ => (expectedByte_ascii matched).2.1, fun _ => (expectedByte_ascii matched).2.2⟩
      have ascii : isAscii (front ++ [byte]) = true := by
        unfold isAscii
        rw [List.all_eq_true]
        intro letter inside
        obtain ⟨index, found⟩ := List.getElem?_of_mem inside
        exact decide_eq_true (expectedByte_ascii (expected index letter found)).1
      have long := rest.length_le
      have split : raw ++ wrap ++ [byte] ++ tail = raw ++ (wrap ++ byte :: tail) := by simp
      obtain ⟨rounds, enough⟩ : ∃ rounds, (raw ++ (wrap ++ byte :: tail)).length =
          front.length + (rounds + 1) := by
        refine ⟨(raw ++ (wrap ++ byte :: tail)).length - front.length - 1, ?_⟩
        simp only [List.length_append, List.length_cons]
        omega
      rw [split, enough, scanFrom_decorated rest (by omega) (fun index letter found =>
        expected index letter (by
          rw [List.getElem?_append_left (List.getElem?_eq_some_iff.mp found).1]
          exact found)), scanFrom_byte rounds inserted stops, matched]
      dsimp only
      rw [if_neg (by omega), if_pos fits]
      unfold finish
      rw [if_neg (not_not.mpr ascii), accepted]
      rfl

end Rounds

/-! ## Scanning -/

section Scanning

variable {base64 : UrlSafeNoPad}

theorem scan_total (base64 : UrlSafeNoPad) (bytes : List UInt8) :
    ∃ answer, scan base64 bytes = some answer :=
  @scanFrom_total base64 bytes [] _ [] _ (by decide) rfl

theorem length_of_accepted {envelope : List UInt8} {result : AnchorMarker}
    (accepted : parseConptyMarker base64 envelope = .ok result) :
    envelope.length = ENVELOPE_BYTES := by
  obtain ⟨tag, contextId, anchorId, auth, same, fields⟩ := parseConptyMarker_fields accepted
  rw [same, List.length_append, fields.length]
  exact congrArg (89 + ·) length_suffix

theorem scan_eq_complete {bytes body : List UInt8} {consumed : Nat} :
    scan base64 bytes = some (.complete consumed body) ↔
      ∃ envelope result, consumed ≤ bytes.length ∧ consumed ≤ MAX_TRANSPORT_BYTES ∧
        Decorated envelope (bytes.take consumed) ∧ envelope.length = ENVELOPE_BYTES ∧
        parseConptyMarker base64 envelope = .ok result ∧ body = envelope.take BODY_BYTES := by
  constructor
  · intro recovered
    obtain ⟨envelope, raw, tail, result, split, size, decorated, accepted, text⟩ :=
      @scanFrom_complete base64 bytes [] _ [] _ consumed body .nil recovered
    rw [List.nil_append] at split
    have lengths := congrArg List.length split
    rw [List.length_take, List.length_append] at lengths
    have front : bytes.take consumed = raw := by
      have taken := congrArg (List.take raw.length) split
      rw [List.take_left, List.take_take, Nat.min_eq_left (by omega)] at taken
      rw [size, taken]
    exact ⟨envelope, result, by omega, by omega, front ▸ decorated, length_of_accepted accepted,
      accepted, text⟩
  · rintro ⟨envelope, result, inside, short, decorated, -, accepted, rfl⟩
    have split : bytes.take consumed ++ (bytes.take MAX_TRANSPORT_BYTES).drop consumed =
        bytes.take MAX_TRANSPORT_BYTES := by
      have whole := List.take_append_drop consumed (bytes.take MAX_TRANSPORT_BYTES)
      rw [List.take_take, Nat.min_eq_left short] at whole
      exact whole
    have size : (bytes.take consumed).length = consumed := by
      rw [List.length_take, Nat.min_eq_left inside]
    have recovered := @scanFrom_recovers base64 bytes _ _ result decorated accepted
      ((bytes.take MAX_TRANSPORT_BYTES).drop consumed)
    rw [split, size] at recovered
    exact recovered

/-- An answer other than `incomplete` is final. -/
theorem scan_append {bytes : List UInt8} {answer : Scan} (more : List UInt8)
    (decided : scan base64 bytes = some answer) (known : answer ≠ .incomplete) :
    scan base64 (bytes ++ more) = some answer := by
  unfold scan at decided ⊢
  dsimp only at decided ⊢
  by_cases full : MAX_TRANSPORT_BYTES ≤ bytes.length
  · have same : incomplete bytes = incomplete (bytes ++ more) :=
      (if_pos full).trans (if_pos (by rw [List.length_append]; omega)).symm
    rw [List.take_append_of_le_length full, ← scanFrom_congr same]
    exact decided
  · have short : incomplete bytes = .incomplete := if_neg full
    have whole : bytes.take MAX_TRANSPORT_BYTES = bytes := List.take_of_length_le (by omega)
    rw [whole] at decided
    rw [List.take_append, whole]
    have kept := @scanFrom_append base64 bytes [] bytes [] (bytes ++ more)
      (more.take (MAX_TRANSPORT_BYTES - bytes.length)) bytes.length answer short decided known
      (more.take (MAX_TRANSPORT_BYTES - bytes.length)).length
    rw [List.nil_append, ← List.length_append] at kept
    exact kept

/-- The scanner never panics, it recovers exactly the envelopes that were decorated
and are accepted, what it decided stays decided, and every marker that is written is
recovered, reads as it was written and is authenticated. -/
theorem scan_exact (base64 : UrlSafeNoPad) :
    (∀ bytes, ∃ answer, scan base64 bytes = some answer) ∧
      (∀ bytes consumed body, scan base64 bytes = some (.complete consumed body) ↔
        ∃ envelope result, consumed ≤ bytes.length ∧ consumed ≤ MAX_TRANSPORT_BYTES ∧
          Decorated envelope (bytes.take consumed) ∧ envelope.length = ENVELOPE_BYTES ∧
          parseConptyMarker base64 envelope = .ok result ∧ body = envelope.take BODY_BYTES) ∧
      (∀ bytes more answer, scan base64 bytes = some answer → answer ≠ .incomplete →
        scan base64 (bytes ++ more) = some answer) ∧
      ∀ (hmac : HmacSha256) (key : Bytes 32) (sessionTag : Bytes 16)
        (contextId anchorId : UInt64), contextId ≠ 0 → anchorId ≠ 0 →
        ∃ envelope marker, encodeConptyMarker base64 hmac key sessionTag contextId anchorId =
            .ok envelope ∧
          marker.sessionTag = sessionTag ∧ marker.contextId = contextId ∧
          marker.anchorId = anchorId ∧ verifyMarker hmac key marker = true ∧
          ∀ raw, Decorated envelope raw → raw.length ≤ MAX_TRANSPORT_BYTES →
            ∃ body, scan base64 raw = some (.complete raw.length body) ∧
              parseMarker base64 body = .ok marker := by
  refine ⟨scan_total base64, fun _ _ _ => scan_eq_complete,
    fun _ more _ decided known => scan_append more decided known, ?_⟩
  intro hmac key sessionTag contextId anchorId named anchored
  have fields := written_fields base64 (authenticator hmac key sessionTag contextId anchorId)
    sessionTag contextId anchorId
  have parsed := @parseMarker_written base64
    (authenticator hmac key sessionTag contextId anchorId) sessionTag contextId anchorId named
    anchored
  refine ⟨_, _, encodeConptyMarker_eq key sessionTag named anchored, rfl, rfl, rfl,
    decide_eq_true rfl, fun raw decorated short => ⟨_, ?_, parsed⟩⟩
  refine scan_eq_complete.mpr ⟨_, _, le_refl _, short, ?_, ?_,
    (parseConptyMarker_append fields.length).trans parsed, ?_⟩
  · rw [List.take_length]
    exact decorated
  · rw [List.length_append, fields.length]
    exact congrArg (89 + ·) length_suffix
  · exact (List.take_left' fields.length).symm

/-- Captured output: two wraps in an envelope. -/
def sampleCapture : List UInt8 :=
  textBytes "VIVID;3;A;AAAAAAAAAAAAAAAAAAAAAA;0000000" ++ [13, 10, 0x1b] ++
    textBytes "[23;40H0000000003;0000000000000007;AAAAAAAAAAAAA" ++ [13, 10, 0x1b] ++
    textBytes "[23;40HAAAAAAAAAA;VIVID-END"

theorem scan_exact_capture :
    scan rfc4648 (sampleCapture ++ [13, 10]) =
      some (.complete 121 (textBytes
        "VIVID;3;A;AAAAAAAAAAAAAAAAAAAAAA;0000000000000003;0000000000000007;AAAAAAAAAAAAAAAAAAAAAA")) :=
  (scan_exact rfc4648).2.2.1 sampleCapture [13, 10] _ (by decide +kernel) nofun

end Scanning

end VividProtocol.Anchor
