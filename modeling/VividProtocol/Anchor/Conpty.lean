import Mathlib.Tactic
import VividProtocol.Anchor.Marker

/-!
# Markers in the output of ConPTY

`scan` of `anchor/conpty.rs`, which recovers an envelope that wraps were inserted
into.  Where the source indexes, slices or converts text, the model checks it and
answers `none` for a panic.
-/

set_option autoImplicit false

namespace VividProtocol.Anchor

open VividProtocol.Cbor

def MAX_TRANSPORT_BYTES : Nat := 2048
def BODY_BYTES : Nat := 10 + 22 + 1 + 16 + 1 + 16 + 1 + 22
def SUFFIX : List UInt8 := textBytes ";VIVID-END"
def ENVELOPE_BYTES : Nat := BODY_BYTES + 10

inductive Scan where
  | complete (consumed : Nat) (body : List UInt8)
  | incomplete
  | invalid
  deriving Repr, DecidableEq

def incomplete (bytes : List UInt8) : Scan :=
  if MAX_TRANSPORT_BYTES ≤ bytes.length then .invalid else .incomplete

def expectedByte (index : Nat) (byte : UInt8) : Option Bool :=
  if index < 10 then
    ((textBytes "VIVID;3;A;")[index]?).map fun expected => decide (byte = expected)
  else if (10 ≤ index ∧ index < 32) ∨ (67 ≤ index ∧ index < 89) then some (isUrlSafe byte)
  else if index = 32 ∨ index = 49 ∨ index = 66 then some (decide (byte = 59))
  else if (33 ≤ index ∧ index < 49) ∨ (50 ≤ index ∧ index < 66) then some (isHexDigit byte)
  else (SUFFIX[index - BODY_BYTES]?).map fun expected => decide (byte = expected)

/-! ## The cursor after a wrap -/

inductive Cursor where
  | complete (consumed : Nat)
  | incomplete
  | invalid
  deriving Repr, DecidableEq

/-- The digits of a parameter: their number, their value and what follows them.
The sixth digit is invalid. -/
def digits : List UInt8 → Nat → UInt32 → Option (Nat × UInt32 × List UInt8)
  | [], count, value => some (count, value, [])
  | byte :: rest, count, value =>
      if isDigit byte then
        if count = 5 then none
        else digits rest (count + 1) (value * 10 + (byte - 48).toUInt32)
      else some (count, value, byte :: rest)

/-- One round of the loop of `wrap_cursor`: a parameter and its delimiter. -/
def parameter (delimiter : UInt8) (bytes : List UInt8) : Cursor :=
  match digits bytes 0 0 with
  | none => .invalid
  | some (_, _, []) => .incomplete
  | some (count, value, byte :: _) =>
      if count = 0 ∨ value = 0 ∨ value > 32767 ∨ byte ≠ delimiter then .invalid
      else .complete (count + 1)

/-- The loop of `wrap_cursor`: a row, then a column. -/
def cursorParameters (bytes : List UInt8) : Cursor :=
  match parameter 59 (bytes.drop 2) with
  | .complete row =>
      match parameter 72 (bytes.drop (2 + row)) with
      | .complete column => .complete (2 + row + column)
      | .incomplete => .incomplete
      | .invalid => .invalid
  | .incomplete => .incomplete
  | .invalid => .invalid

def wrapCursor (bytes : List UInt8) : Cursor :=
  if bytes.length < 2 then .incomplete
  else if ¬ [0x1b, 91].isPrefixOf bytes then .invalid
  else cursorParameters bytes

/-! ## The scanner -/

section Scanner

variable (base64 : UrlSafeNoPad) (bytes input : List UInt8)

/-- After the cursor of a wrap the last byte of the row before is repeated. -/
def skipRepaint (canonical : List UInt8) (cursor : Nat) : Option (Except Scan Nat) :=
  match input[cursor]? with
  | none => some (.error (incomplete bytes))
  | some repaint =>
      (canonical[canonical.length - 1]?).map fun last =>
        if repaint ≠ last then .error .invalid else .ok (cursor + 1)

/-- The wrap at a position, which begins with CR: where it ends, or the answer. -/
def skipWrap (canonical : List UInt8) (cursor : Nat) : Option (Except Scan Nat) :=
  match input[cursor + 1]? with
  | none => some (.error (incomplete bytes))
  | some next =>
      if next ≠ 10 then some (.error .invalid)
      else if input[cursor + 2]? = some 0x1b then
        if input.length < cursor + 2 then none
        else
          match wrapCursor (input.drop (cursor + 2)) with
          | .complete consumed => skipRepaint bytes input canonical (cursor + 2 + consumed)
          | .incomplete => some (.error (incomplete bytes))
          | .invalid => some (.error .invalid)
      else some (.ok (cursor + 2))

/-- The end of a wrap: what it answers, or the position of the byte behind it. -/
def settled : Except Scan Nat → Except Scan Nat
  | .error answer => .error answer
  | .ok cursor => if cursor = input.length then .error (incomplete bytes) else .ok cursor

/-- The position of the next byte of the envelope, behind a wrap if there is one. -/
def nextByte (canonical : List UInt8) (cursor : Nat) : Option (Except Scan Nat) :=
  match input[cursor]? with
  | none => none
  | some byte =>
      if canonical.length ≠ 0 ∧ byte = 13 then
        (skipWrap bytes input canonical cursor).map (settled bytes input)
      else some (.ok cursor)

/-- The envelope is complete. -/
def finish (canonical : List UInt8) (consumed : Nat) : Option Scan :=
  if ¬ isAscii canonical then none
  else if (parseConptyMarker base64 canonical).isOk then
    some (.complete consumed (canonical.take BODY_BYTES))
  else some .invalid

/-- The loop of `scan`, with the rounds that are left. -/
def scanFrom : Nat → Nat → List UInt8 → Option Scan
  | 0, _, _ => some (incomplete bytes)
  | rounds + 1, cursor, canonical =>
      if input.length ≤ cursor then some (incomplete bytes)
      else
        match nextByte bytes input canonical cursor with
        | none => none
        | some (.error answer) => some answer
        | some (.ok cursor) =>
            match input[cursor]? with
            | none => none
            | some byte =>
                match expectedByte canonical.length byte with
                | none => none
                | some false => some .invalid
                | some true =>
                    if ENVELOPE_BYTES ≤ canonical.length then none
                    else if canonical.length + 1 = ENVELOPE_BYTES then
                      finish base64 (canonical ++ [byte]) (cursor + 1)
                    else scanFrom rounds (cursor + 1) (canonical ++ [byte])

end Scanner

def scan (base64 : UrlSafeNoPad) (bytes : List UInt8) : Option Scan :=
  let input := bytes.take MAX_TRANSPORT_BYTES
  scanFrom base64 bytes input input.length 0 []

/-! ## Decorated envelopes -/

/-- The number that decimal digits stand for, behind a number. -/
def decimal : List UInt8 → Nat → Nat
  | [], value => value
  | byte :: rest, value => decimal rest (value * 10 + (byte.toNat - 48))

/-- A row or a column: one to five digits of a positive number of 15 bits. -/
structure Parameter (text : List UInt8) : Prop where
  nonempty : text ≠ []
  short : text.length ≤ 5
  digits : ∀ byte ∈ text, isDigit byte = true
  positive : 1 ≤ decimal text 0
  bounded : decimal text 0 ≤ 32767

/-- What ConPTY inserts behind a part of an envelope: nothing, a line break, or a
line break, a cursor position and the last byte once more. -/
inductive Insertion (envelope : List UInt8) : List UInt8 → Prop
  | none : Insertion envelope []
  | wrap (later : envelope ≠ []) : Insertion envelope [13, 10]
  | cursor {row column : List UInt8} {last : UInt8} (rows : Parameter row)
      (columns : Parameter column) (repeated : envelope.getLast? = some last) :
      Insertion envelope ([13, 10, 0x1b, 91] ++ row ++ [59] ++ column ++ [72, last])

/-- `Decorated envelope raw`: the envelope with such insertions before its bytes. -/
inductive Decorated : List UInt8 → List UInt8 → Prop
  | nil : Decorated [] []
  | byte {envelope raw wrap : List UInt8} (rest : Decorated envelope raw)
      (inserted : Insertion envelope wrap) (byte : UInt8) :
      Decorated (envelope ++ [byte]) (raw ++ wrap ++ [byte])

/-! ## Parameters -/

theorem digits_append {bytes : List UInt8} {count : Nat} {value : UInt32}
    (more : List UInt8) :
    (digits bytes count value = none → digits (bytes ++ more) count value = none) ∧
      ∀ size total byte rest, digits bytes count value = some (size, total, byte :: rest) →
        digits (bytes ++ more) count value = some (size, total, byte :: (rest ++ more)) := by
  induction bytes generalizing count value with
  | nil => exact ⟨nofun, fun _ _ _ _ read => by cases read⟩
  | cons first others ih =>
      rw [List.cons_append]
      unfold digits
      cases digit : isDigit first with
      | false =>
          refine ⟨nofun, fun size total byte rest read => ?_⟩
          cases read
          rfl
      | true =>
          by_cases sixth : count = 5
          · rw [if_pos rfl, if_pos sixth]
            refine ⟨fun _ => ?_, nofun⟩
            rw [if_pos rfl, if_pos sixth]
          · simp only [if_true, if_neg sixth]
            exact ih

/-- Digits that fit are read to their end. -/
theorem digits_read {text : List UInt8} {count : Nat} {value : UInt32} (rest : List UInt8)
    (all : ∀ byte ∈ text, isDigit byte = true) (fits : count + text.length ≤ 5)
    (small : value.toNat < 10 ^ count) :
    ∃ total : UInt32, digits (text ++ rest) count value = digits rest (count + text.length) total ∧
      total.toNat = decimal text value.toNat ∧ total.toNat < 10 ^ (count + text.length) := by
  induction text generalizing count value with
  | nil => exact ⟨value, rfl, rfl, small⟩
  | cons first others ih =>
      have digit := all first (List.mem_cons_self ..)
      rw [List.length_cons] at fits
      have range : 48 ≤ first.toNat ∧ first.toNat ≤ 57 := by
        simp only [isDigit, Bool.and_eq_true, decide_eq_true_eq, UInt8.le_iff_toNat_le] at digit
        exact digit
      have power : 10 ^ (count + 1) ≤ 10 ^ 5 := Nat.pow_le_pow_right (by norm_num) (by omega)
      rw [pow_succ] at power
      have exactly : (value * 10 + (first - 48).toUInt32).toNat =
          value.toNat * 10 + (first.toNat - 48) := by
        have low : (first - 48).toNat = first.toNat - 48 := by
          rw [UInt8.toNat_sub_of_le]
          · rfl
          · rw [UInt8.le_iff_toNat_le]
            exact range.1
        rw [UInt32.toNat_add, UInt32.toNat_mul, UInt8.toNat_toUInt32, low]
        simp only [UInt32.toNat_ofNat]
        omega
      obtain ⟨total, read, sum, bound⟩ := @ih (count + 1) (value * 10 + (first - 48).toUInt32)
        (fun byte inside => all byte (List.mem_cons_of_mem _ inside)) (by omega)
        (by rw [exactly, pow_succ]; omega)
      refine ⟨total, ?_, ?_, ?_⟩
      · rw [List.cons_append, digits, digit, if_pos rfl, if_neg (by omega), read, List.length_cons, Nat.add_right_comm,
          Nat.add_assoc]
      · rw [sum, exactly]
        rfl
      · rw [List.length_cons, ← Nat.add_assoc, Nat.add_right_comm]
        exact bound

/-- What is read is digits, and what follows them is none. -/
theorem digits_eq_some {bytes rest : List UInt8} {count size : Nat} {value total : UInt32}
    (read : digits bytes count value = some (size, total, rest)) (few : count ≤ 5) :
    ∃ text, bytes = text ++ rest ∧ (∀ byte ∈ text, isDigit byte = true) ∧
      size = count + text.length ∧ size ≤ 5 ∧
      ∀ byte, rest.head? = some byte → isDigit byte = false := by
  induction bytes generalizing count value with
  | nil =>
      cases read
      exact ⟨[], rfl, nofun, rfl, few, nofun⟩
  | cons first others ih =>
      rw [digits] at read
      cases digit : isDigit first with
      | false =>
          rw [digit] at read
          cases read
          refine ⟨[], rfl, nofun, rfl, few, fun byte head => ?_⟩
          cases head
          exact digit
      | true =>
          rw [digit, if_pos rfl] at read
          by_cases sixth : count = 5
          · rw [if_pos sixth] at read
            cases read
          · rw [if_neg sixth] at read
            obtain ⟨text, split, all, sizes, bound, stop⟩ := ih read (by omega)
            refine ⟨first :: text, by rw [split, List.cons_append], ?_, ?_, bound, stop⟩
            · intro byte inside
              rcases List.mem_cons.mp inside with rfl | inside
              · exact digit
              · exact all byte inside
            · rw [sizes, List.length_cons]
              omega

/-- A parameter is complete with its delimiter. -/
theorem parameter_eq_complete {delimiter : UInt8} (apart : isDigit delimiter = false)
    {bytes : List UInt8} {consumed : Nat} :
    parameter delimiter bytes = .complete consumed ↔
      ∃ text rest, bytes = text ++ delimiter :: rest ∧ Parameter text ∧
        consumed = text.length + 1 := by
  constructor
  · intro complete
    unfold parameter at complete
    cases read : digits bytes 0 0 with
    | none =>
        rw [read] at complete
        cases complete
    | some found =>
        obtain ⟨count, value, rest⟩ := found
        rw [read] at complete
        cases rest with
        | nil => cases complete
        | cons byte rest =>
            dsimp only at complete
            obtain ⟨text, split, all, sizes, bound, stop⟩ := digits_eq_some read (by omega)
            obtain ⟨total, again, sum, -⟩ := digits_read (byte :: rest) all
              (by omega) (show (0 : UInt32).toNat < 10 ^ 0 by decide)
            rw [← split, read, Nat.zero_add, digits, stop byte rfl] at again
            cases again
            by_cases refused : text.length = 0 ∨ value = 0 ∨ value > 32767 ∨ byte ≠ delimiter
            · rw [if_pos refused] at complete
              cases complete
            · rw [if_neg refused, Cursor.complete.injEq] at complete
              simp only [not_or, not_not] at refused
              obtain ⟨some, positive, bounded, rfl⟩ := refused
              refine ⟨text, rest, split, ⟨?_, by omega, all, ?_, ?_⟩, complete.symm⟩
              · exact fun empty => some (List.length_eq_zero_iff.mpr empty)
              · have nonzero : value.toNat ≠ 0 := fun zero => positive (UInt32.toNat_inj.mp zero)
                rw [sum] at nonzero
                exact Nat.one_le_iff_ne_zero.mpr nonzero
              · rw [gt_iff_lt, UInt32.lt_iff_toNat_lt, sum, not_lt] at bounded
                exact bounded
  · rintro ⟨text, rest, rfl, ⟨nonempty, short, all, positive, bounded⟩, rfl⟩
    obtain ⟨total, read, sum, -⟩ := digits_read (delimiter :: rest) all (by omega)
      (show (0 : UInt32).toNat < 10 ^ 0 by decide)
    rw [Nat.zero_add, digits, apart] at read
    unfold parameter
    rw [read]
    refine if_neg ?_
    simp only [not_or, not_not]
    rw [show (0 : UInt32).toNat = 0 from rfl] at sum
    refine ⟨?_, ?_, ?_, trivial⟩
    · exact fun empty => nonempty (List.length_eq_zero_iff.mp empty)
    · rintro rfl
      rw [← sum] at positive
      exact absurd positive (by decide)
    · rw [gt_iff_lt, UInt32.lt_iff_toNat_lt, sum, not_lt]
      exact bounded

/-- What is decided about a parameter stays so when more bytes arrive. -/
theorem parameter_append {delimiter : UInt8} {bytes : List UInt8} {answer : Cursor}
    (decided : parameter delimiter bytes = answer) (known : answer ≠ .incomplete)
    (more : List UInt8) : parameter delimiter (bytes ++ more) = answer := by
  unfold parameter at decided ⊢
  cases read : digits bytes 0 0 with
  | none =>
      rw [(digits_append more).1 read]
      rw [read] at decided
      exact decided
  | some found =>
      obtain ⟨count, value, rest⟩ := found
      rw [read] at decided
      cases rest with
      | nil => exact absurd decided.symm known
      | cons byte rest =>
          rw [(digits_append more).2 _ _ _ _ read]
          exact decided

theorem drop_row (row rest : List UInt8) :
    ([0x1b, 91] ++ (row ++ 59 :: rest)).drop (2 + (row.length + 1)) = rest := by
  have split : [0x1b, 91] ++ (row ++ 59 :: rest) = ([0x1b, 91] ++ row ++ [59]) ++ rest := by simp
  rw [split]
  exact List.drop_left' (by simp; omega)

/-- Behind a row a column is read. -/
theorem cursorParameters_row {row : List UInt8} (rows : Parameter row) (rest : List UInt8) :
    cursorParameters ([0x1b, 91] ++ (row ++ 59 :: rest)) =
      match parameter 72 rest with
      | .complete column => .complete (2 + (row.length + 1) + column)
      | .incomplete => .incomplete
      | .invalid => .invalid := by
  have first : parameter 59 (([0x1b, 91] ++ (row ++ 59 :: rest)).drop 2) =
      .complete (row.length + 1) :=
    (parameter_eq_complete (by decide)).mpr ⟨row, rest, rfl, rows, rfl⟩
  unfold cursorParameters
  rw [first]
  dsimp only
  rw [drop_row]

theorem wrapCursor_begun (tail : List UInt8) :
    wrapCursor ([0x1b, 91] ++ tail) = cursorParameters ([0x1b, 91] ++ tail) := by
  unfold wrapCursor
  rw [if_neg (by simp), if_neg (by simp)]

/-- A cursor position is complete with both parameters. -/
theorem wrapCursor_eq_complete {bytes : List UInt8} {consumed : Nat} :
    wrapCursor bytes = .complete consumed ↔
      ∃ row column rest, bytes = [0x1b, 91] ++ (row ++ 59 :: (column ++ 72 :: rest)) ∧
        Parameter row ∧ Parameter column ∧ consumed = row.length + column.length + 4 := by
  constructor
  · intro complete
    by_cases begins : [0x1b, 91] <+: bytes
    · obtain ⟨tail, rfl⟩ := begins
      rw [wrapCursor_begun] at complete
      cases first : parameter 59 tail with
      | incomplete =>
          simp [cursorParameters, first] at complete
      | invalid =>
          simp [cursorParameters, first] at complete
      | complete size =>
          obtain ⟨row, rest, rfl, rows, rfl⟩ := (parameter_eq_complete (by decide)).mp first
          rw [cursorParameters_row rows] at complete
          cases second : parameter 72 rest with
          | incomplete =>
              rw [second] at complete
              cases complete
          | invalid =>
              rw [second] at complete
              cases complete
          | complete size =>
              rw [second] at complete
              cases complete
              obtain ⟨column, rest, rfl, columns, rfl⟩ :=
                (parameter_eq_complete (by decide)).mp second
              exact ⟨row, column, rest, rfl, rows, columns, by omega⟩
    · unfold wrapCursor at complete
      split at complete
      · cases complete
      · rw [if_pos fun begun => begins (List.isPrefixOf_iff_prefix.mp begun)] at complete
        cases complete
  · rintro ⟨row, column, rest, rfl, rows, columns, rfl⟩
    have second : parameter 72 (column ++ 72 :: rest) = .complete (column.length + 1) :=
      (parameter_eq_complete (by decide)).mpr ⟨column, rest, rfl, columns, rfl⟩
    rw [wrapCursor_begun, cursorParameters_row rows, second]
    dsimp only
    congr 1
    omega

/-- What is decided about a cursor position stays so when more bytes arrive. -/
theorem wrapCursor_append {bytes : List UInt8} {answer : Cursor}
    (decided : wrapCursor bytes = answer) (known : answer ≠ .incomplete) (more : List UInt8) :
    wrapCursor (bytes ++ more) = answer := by
  cases answer with
  | incomplete => exact absurd rfl known
  | complete consumed =>
      obtain ⟨row, column, rest, rfl, rows, columns, size⟩ := wrapCursor_eq_complete.mp decided
      exact wrapCursor_eq_complete.mpr ⟨row, column, rest ++ more, by simp, rows, columns, size⟩
  | invalid =>
      by_cases begins : [0x1b, 91] <+: bytes
      · obtain ⟨tail, rfl⟩ := begins
        rw [wrapCursor_begun] at decided
        rw [List.append_assoc, wrapCursor_begun]
        cases first : parameter 59 tail with
        | incomplete => simp [cursorParameters, first] at decided
        | invalid => simp [cursorParameters, parameter_append first nofun more]
        | complete size =>
            obtain ⟨row, rest, rfl, rows, rfl⟩ := (parameter_eq_complete (by decide)).mp first
            rw [cursorParameters_row rows] at decided
            rw [show row ++ 59 :: rest ++ more = row ++ 59 :: (rest ++ more) by simp,
              cursorParameters_row rows]
            cases second : parameter 72 rest with
            | incomplete =>
                rw [second] at decided
                cases decided
            | complete size =>
                rw [second] at decided
                cases decided
            | invalid => rw [parameter_append second nofun more]
      · unfold wrapCursor at decided
        split at decided
        · cases decided
        · next long =>
          unfold wrapCursor
          rw [if_neg (by rw [List.length_append]; omega), if_pos]
          intro begun
          have within := List.prefix_of_prefix_length_le (List.isPrefixOf_iff_prefix.mp begun)
            (List.prefix_append bytes more) (not_lt.mp long)
          exact begins within

end VividProtocol.Anchor
