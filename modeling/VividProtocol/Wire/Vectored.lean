import Mathlib.Tactic
import VividProtocol.Counters

/-!
# The vectored write loop

`write_writer_parts` on a live transport.  The record is a list of segments,
the header first, and a cursor says which byte of which segment is written
next.  The transport answers each vectored write as it likes: it may take fewer
bytes than offered, be interrupted, report nonsense or fail.  When its answers
run out the call is still waiting inside a write.
-/

set_option autoImplicit false

namespace VividProtocol.Wire

def MAX_VECTORED_SLICES : Nat := 16

/-! ## The transport -/

inductive Answer where
  | accepted (written : Nat)
  | interrupted
  | failed (error : IoError)
  deriving Repr, DecidableEq

/-- The bytes a transport has accepted and how often it reported a failure. -/
structure Transport where
  accepted : List UInt8
  failures : Nat
  deriving Repr, DecidableEq

/-- A transport that takes nothing, or claims more than it was offered, has
failed as much as one that says so. -/
def Transport.writeVectored (transport : Transport) (slices : List (List UInt8)) :
    Answer → Transport
  | .interrupted => transport
  | .failed _ => { transport with failures := transport.failures + 1 }
  | .accepted written =>
      { accepted := transport.accepted ++ slices.flatten.take written
        failures :=
          if written = 0 ∨ (slices.map List.length).sum < written then
            transport.failures + 1
          else transport.failures }

/-- The next write, retried while it is interrupted, takes at least one byte. -/
def takesBytes : List Answer → Bool
  | [] => false
  | .interrupted :: later => takesBytes later
  | .failed _ :: _ => false
  | .accepted written :: _ => 0 < written

/-! ## The cursor -/

structure Cursor where
  partIndex : Nat
  partOffset : Nat
  deriving Repr, DecidableEq

/-- The first inner loop: steps over segments that are written out. -/
def skipWritten (cursor : Cursor) : List (List UInt8) → Cursor
  | [] => cursor
  | part :: rest =>
      if cursor.partOffset < part.length then cursor
      else skipWritten { partIndex := cursor.partIndex + 1, partOffset := 0 } rest

/-- The second inner loop: at most `room` nonempty slices from the cursor on. -/
def gatherSlices : Nat → Nat → List (List UInt8) → List (List UInt8)
  | _, _, [] => []
  | 0, _, _ :: _ => []
  | room + 1, offset, part :: rest =>
      if offset < part.length then part.drop offset :: gatherSlices room 0 rest
      else gatherSlices (room + 1) 0 rest

/-- The third inner loop at the start of a segment: empty segments are passed
before `remaining` is looked at again.  `none` is an index out of range. -/
def advancePast (partIndex remaining : Nat) : List (List UInt8) → Option Cursor
  | [] =>
      if remaining = 0 then some { partIndex := partIndex, partOffset := 0 } else none
  | part :: rest =>
      if part.isEmpty then advancePast (partIndex + 1) remaining rest
      else if remaining = 0 then some { partIndex := partIndex, partOffset := 0 }
      else if remaining < part.length then
        some { partIndex := partIndex, partOffset := remaining }
      else advancePast (partIndex + 1) (remaining - part.length) rest

/-- The third inner loop, entered with a nonzero count in the middle of a
segment. -/
def consumeWritten (cursor : Cursor) (written : Nat) : List (List UInt8) → Option Cursor
  | [] => none
  | part :: rest =>
      let available := part.length - cursor.partOffset
      if written < available then
        some { cursor with partOffset := cursor.partOffset + written }
      else advancePast (cursor.partIndex + 1) (written - available) rest

/-! ## The loop -/

inductive Outcome where
  | finished (result : Except IoError Unit)
  /-- Still inside a write of the transport. -/
  | pending
  | panicked

def writeLoop (segments : List (List UInt8)) :
    List Answer → Cursor → Transport → Transport × Outcome
  | [], cursor, transport =>
      let cursor := skipWritten cursor (segments.drop cursor.partIndex)
      if segments.length ≤ cursor.partIndex then (transport, .finished (.ok ()))
      else (transport, .pending)
  | answer :: later, cursor, transport =>
      let cursor := skipWritten cursor (segments.drop cursor.partIndex)
      if segments.length ≤ cursor.partIndex then (transport, .finished (.ok ()))
      else
        let slices := gatherSlices MAX_VECTORED_SLICES cursor.partOffset
          (segments.drop cursor.partIndex)
        let transport := transport.writeVectored slices answer
        match answer with
        | .interrupted => writeLoop segments later cursor transport
        | .failed error => (transport, .finished (.error error))
        | .accepted written =>
            if (slices.map List.length).sum < written then
              (transport,
                .finished (.error ⟨.other, "writer reported more bytes than offered"⟩))
            else if written = 0 then
              (transport, .finished (.error ⟨.writeZero, "failed to write Vivid record"⟩))
            else
              match consumeWritten cursor written (segments.drop cursor.partIndex) with
              | none => (transport, .panicked)
              | some next => writeLoop segments later next transport

/-! ## What the cursor leaves unwritten -/

/-- The bytes from the cursor to the end of the record. -/
def unwritten (segments : List (List UInt8)) (cursor : Cursor) : List UInt8 :=
  (segments.drop cursor.partIndex).flatten.drop cursor.partOffset

/-- The cursor stands inside or at the end of its segment. -/
def Placed (segments : List (List UInt8)) (cursor : Cursor) : Prop :=
  match segments.drop cursor.partIndex with
  | [] => cursor.partOffset = 0
  | part :: _ => cursor.partOffset ≤ part.length

theorem drop_succ_of_cons {segments rest : List (List UInt8)} {part : List UInt8}
    {index : Nat} (here : segments.drop index = part :: rest) :
    segments.drop (index + 1) = rest := by
  rw [← List.tail_drop, here, List.tail_cons]

theorem skipWritten_spec {segments rest : List (List UInt8)} {cursor : Cursor}
    (here : segments.drop cursor.partIndex = rest) (placed : Placed segments cursor) :
    unwritten segments (skipWritten cursor rest) = unwritten segments cursor ∧
      (segments.drop (skipWritten cursor rest).partIndex = [] ∨
        ∃ part later, segments.drop (skipWritten cursor rest).partIndex = part :: later ∧
          (skipWritten cursor rest).partOffset < part.length) := by
  induction rest generalizing cursor with
  | nil => exact ⟨rfl, Or.inl here⟩
  | cons part rest ih =>
      simp only [Placed, here] at placed
      unfold skipWritten
      split_ifs with inside
      · exact ⟨rfl, Or.inr ⟨part, rest, here, inside⟩⟩
      · have next := drop_succ_of_cons here
        have start : Placed segments { partIndex := cursor.partIndex + 1, partOffset := 0 } := by
          unfold Placed
          split <;> simp
        obtain ⟨same, position⟩ := ih next start
        refine ⟨?_, position⟩
        have whole : cursor.partOffset = part.length := by omega
        rw [same]
        simp only [unwritten, here, next, whole, List.drop_zero, List.flatten_cons,
          List.drop_left]

theorem gatherSlices_prefix (room : Nat) {offset : Nat} {rest : List (List UInt8)}
    (placed : ∀ part later, rest = part :: later → offset ≤ part.length) :
    (gatherSlices room offset rest).flatten <+: rest.flatten.drop offset := by
  induction rest generalizing room offset with
  | nil => simp [gatherSlices]
  | cons part rest ih =>
      cases room with
      | zero => simp [gatherSlices]
      | succ room =>
          have within := placed part rest rfl
          have fresh : ∀ room, (gatherSlices room 0 rest).flatten <+: rest.flatten := by
            intro room
            simpa using @ih room 0 (by simp)
          unfold gatherSlices
          rw [List.flatten_cons, List.drop_append_of_le_length within]
          split_ifs with inside
          · exact (List.prefix_append_right_inj _).mpr (fresh room)
          · rw [List.drop_eq_nil_of_le (by omega), List.nil_append]
            exact fresh (room + 1)

/-- Where the skip has stopped short of the end, something is offered. -/
theorem gatherSlices_offers {part : List UInt8} {later : List (List UInt8)} {offset : Nat}
    (inside : offset < part.length) :
    0 < (gatherSlices MAX_VECTORED_SLICES offset (part :: later)).flatten.length := by
  simp only [MAX_VECTORED_SLICES, gatherSlices, inside, if_true, List.flatten_cons,
    List.length_append, List.length_drop]
  omega

theorem advancePast_spec {segments rest : List (List UInt8)} {partIndex remaining : Nat}
    (here : segments.drop partIndex = rest) (fits : remaining ≤ rest.flatten.length) :
    ∃ next, advancePast partIndex remaining rest = some next ∧
      unwritten segments next = rest.flatten.drop remaining ∧ Placed segments next := by
  induction rest generalizing partIndex remaining with
  | nil =>
      have used : remaining = 0 := by simpa using fits
      refine ⟨{ partIndex := partIndex, partOffset := 0 }, ?_, ?_, ?_⟩
      · simp [advancePast, used]
      · simp [unwritten, here]
      · simp [Placed, here]
  | cons part rest ih =>
      have next := drop_succ_of_cons here
      rw [List.flatten_cons, List.length_append] at fits
      unfold advancePast
      split_ifs with empty done short
      · rw [List.isEmpty_iff.mp empty] at fits ⊢
        simpa using ih next (by simpa using fits)
      · refine ⟨_, rfl, ?_, ?_⟩
        · simp [unwritten, here, done]
        · simp [Placed, here]
      · refine ⟨_, rfl, ?_, ?_⟩
        · simp [unwritten, here]
        · simp only [Placed, here]
          omega
      · have within : remaining - part.length ≤ rest.flatten.length := by omega
        obtain ⟨cursor, moved, left, placed⟩ := ih next within
        have passed : part.drop remaining = [] := List.drop_eq_nil_of_le (by omega)
        refine ⟨cursor, moved, ?_, placed⟩
        rw [left, List.flatten_cons, List.drop_append, passed, List.nil_append]

theorem consumeWritten_spec {segments later : List (List UInt8)} {part : List UInt8}
    {cursor : Cursor} {written : Nat}
    (here : segments.drop cursor.partIndex = part :: later)
    (inside : cursor.partOffset < part.length)
    (fits : written ≤ (unwritten segments cursor).length) :
    ∃ next, consumeWritten cursor written (part :: later) = some next ∧
      unwritten segments next = (unwritten segments cursor).drop written ∧
      Placed segments next := by
  have left : unwritten segments cursor = part.drop cursor.partOffset ++ later.flatten := by
    rw [unwritten, here, List.flatten_cons, List.drop_append_of_le_length (by omega)]
  rw [left, List.length_append, List.length_drop] at fits
  unfold consumeWritten
  dsimp only
  split_ifs with short
  · refine ⟨_, rfl, ?_, ?_⟩
    · simp only [unwritten, List.drop_drop]
    · simp only [Placed, here]
      omega
  · have within : written - (part.length - cursor.partOffset) ≤ later.flatten.length := by
      omega
    obtain ⟨next, moved, rest, placed⟩ := advancePast_spec (drop_succ_of_cons here) within
    have passed : (part.drop cursor.partOffset).drop written = [] := by
      apply List.drop_eq_nil_of_le
      rw [List.length_drop]
      omega
    refine ⟨next, moved, ?_, placed⟩
    rw [rest, left, List.drop_append, passed, List.nil_append, List.length_drop]

/-! ## One round of the loop -/

section Rounds

variable {segments : List (List UInt8)} {cursor : Cursor} {transport : Transport}
  {later : List Answer}

theorem skipWritten_inside (placed : Placed segments cursor)
    (left : unwritten segments cursor ≠ []) :
    let stopped := skipWritten cursor (segments.drop cursor.partIndex)
    unwritten segments stopped = unwritten segments cursor ∧
      ∃ part rest, segments.drop stopped.partIndex = part :: rest ∧
        stopped.partOffset < part.length ∧ ¬ segments.length ≤ stopped.partIndex := by
  obtain ⟨same, ended | ⟨part, rest, here, inside⟩⟩ := skipWritten_spec rfl placed
  · exact absurd (by rw [← same, unwritten, ended, List.flatten_nil, List.drop_nil]) left
  · refine ⟨same, part, rest, here, inside, ?_⟩
    intro past
    rw [List.drop_eq_nil_of_le past] at here
    cases here

theorem writeLoop_written (answers : List Answer) (placed : Placed segments cursor)
    (done : unwritten segments cursor = []) :
    writeLoop segments answers cursor transport = (transport, .finished (.ok ())) := by
  obtain ⟨same, ended | ⟨part, rest, here, inside⟩⟩ := skipWritten_spec rfl placed
  · have past := List.drop_eq_nil_iff.mp ended
    cases answers <;> simp only [writeLoop, past, if_true]
  · rw [done, unwritten, here, List.flatten_cons, List.drop_eq_nil_iff,
      List.length_append] at same
    omega

theorem writeLoop_pending (placed : Placed segments cursor)
    (left : unwritten segments cursor ≠ []) :
    writeLoop segments [] cursor transport = (transport, .pending) := by
  obtain ⟨-, part, rest, here, inside, short⟩ := skipWritten_inside placed left
  simp only [writeLoop, short, if_false]

theorem writeLoop_failed (error : IoError) (placed : Placed segments cursor)
    (left : unwritten segments cursor ≠ []) :
    writeLoop segments (.failed error :: later) cursor transport =
      ({ transport with failures := transport.failures + 1 }, .finished (.error error)) := by
  obtain ⟨-, part, rest, here, inside, short⟩ := skipWritten_inside placed left
  simp only [writeLoop, short, if_false, Transport.writeVectored]

theorem writeLoop_interrupted (placed : Placed segments cursor)
    (left : unwritten segments cursor ≠ []) :
    ∃ stopped, Placed segments stopped ∧
      unwritten segments stopped = unwritten segments cursor ∧
      writeLoop segments (.interrupted :: later) cursor transport =
        writeLoop segments later stopped transport := by
  obtain ⟨same, part, rest, here, inside, short⟩ := skipWritten_inside placed left
  refine ⟨_, ?_, same, by simp only [writeLoop, short, if_false, Transport.writeVectored]⟩
  simp only [Placed, here]
  omega

/-- A count the transport may report moves the cursor by as much; any other
ends the loop with an error. -/
theorem writeLoop_accepted (written : Nat) (placed : Placed segments cursor)
    (left : unwritten segments cursor ≠ []) :
    ∃ offered, offered <+: unwritten segments cursor ∧ 0 < offered.length ∧
      ((∃ error, (written = 0 ∨ offered.length < written) ∧
          writeLoop segments (.accepted written :: later) cursor transport =
            ({ accepted := transport.accepted ++ offered.take written
               failures := transport.failures + 1 }, .finished (.error error))) ∨
        ∃ next, 0 < written ∧ written ≤ offered.length ∧ Placed segments next ∧
          unwritten segments next = (unwritten segments cursor).drop written ∧
          writeLoop segments (.accepted written :: later) cursor transport =
            writeLoop segments later next
              { accepted := transport.accepted ++ offered.take written
                failures := transport.failures }) := by
  obtain ⟨same, part, rest, here, inside, short⟩ := skipWritten_inside placed left
  generalize stop : skipWritten cursor (segments.drop cursor.partIndex) = stopped at *
  have offered := gatherSlices_prefix MAX_VECTORED_SLICES
    (show ∀ first others, part :: rest = first :: others →
        stopped.partOffset ≤ first.length by
      intro first others split
      rw [← (List.cons.inj split).1]
      omega)
  have some_offered := @gatherSlices_offers part rest stopped.partOffset inside
  generalize slicesEq : gatherSlices MAX_VECTORED_SLICES stopped.partOffset (part :: rest) =
    slices at *
  refine ⟨slices.flatten, ?_, some_offered, ?_⟩
  · rw [← same, unwritten, here]
    exact offered
  · have sum : (slices.map List.length).sum = slices.flatten.length :=
      List.length_flatten.symm
    simp only [writeLoop, stop, here, slicesEq, short, if_false, Transport.writeVectored, sum]
    by_cases beyond : slices.flatten.length < written
    · left
      refine ⟨⟨.other, "writer reported more bytes than offered"⟩, Or.inr beyond, ?_⟩
      simp only [beyond, or_true, if_true]
    · by_cases zero : written = 0
      · left
        refine ⟨⟨.writeZero, "failed to write Vivid record"⟩, Or.inl zero, ?_⟩
        simp only [zero, Nat.not_lt_zero, true_or, if_true, if_false]
      · right
        have fits : written ≤ (unwritten segments stopped).length := by
          have bound := offered.length_le
          rw [unwritten, here]
          omega
        obtain ⟨next, moved, rest, after⟩ := consumeWritten_spec here inside fits
        refine ⟨next, by omega, by omega, after, by rw [rest, same], ?_⟩
        simp only [beyond, zero, or_false, if_false, moved]

end Rounds

/-! ## The whole loop -/

/-- What an outcome tells about the bytes taken and the failures reported. -/
def Outcome.Accounts (left taken : List UInt8) (before after : Nat) : Outcome → Prop
  | .finished (.ok ()) => taken = left ∧ after = before
  | .finished (.error _) => after = before + 1
  | .pending => after = before
  | .panicked => False

theorem writeLoop_spec (segments : List (List UInt8)) (answers : List Answer)
    {cursor : Cursor} (transport : Transport) (placed : Placed segments cursor) :
    ∃ taken, taken <+: unwritten segments cursor ∧
      (writeLoop segments answers cursor transport).1.accepted =
        transport.accepted ++ taken ∧
      (writeLoop segments answers cursor transport).2.Accounts
        (unwritten segments cursor) taken transport.failures
        (writeLoop segments answers cursor transport).1.failures := by
  induction answers generalizing cursor transport with
  | nil =>
      refine ⟨[], List.nil_prefix, ?_⟩
      by_cases done : unwritten segments cursor = []
      · simp [writeLoop_written [] placed done, Outcome.Accounts, done]
      · simp [writeLoop_pending placed done, Outcome.Accounts]
  | cons answer later ih =>
      by_cases done : unwritten segments cursor = []
      · refine ⟨[], List.nil_prefix, ?_⟩
        simp [writeLoop_written _ placed done, Outcome.Accounts, done]
      · cases answer with
        | failed error =>
            refine ⟨[], List.nil_prefix, ?_⟩
            simp [writeLoop_failed error placed done, Outcome.Accounts]
        | interrupted =>
            obtain ⟨stopped, position, same, round⟩ :=
              @writeLoop_interrupted segments cursor transport later placed done
            rw [round, ← same]
            exact ih transport position
        | accepted written =>
            obtain ⟨offered, within, -, ⟨error, -, round⟩ |
              ⟨next, -, fits, position, moved, round⟩⟩ :=
              @writeLoop_accepted segments cursor transport later written placed done
            · rw [round]
              exact ⟨_, (List.take_prefix written offered).trans within, rfl, rfl⟩
            · obtain ⟨taken, leading, accepted, accounts⟩ := ih
                { accepted := transport.accepted ++ offered.take written
                  failures := transport.failures } position
              have head : offered.take written = (unwritten segments cursor).take written := by
                obtain ⟨tail, whole⟩ := within
                rw [← whole, List.take_append_of_le_length fits]
              rw [moved] at leading accounts
              refine ⟨offered.take written ++ taken, ?_, ?_, ?_⟩
              · conv_rhs => rw [← List.take_append_drop written (unwritten segments cursor)]
                rw [head]
                exact (List.prefix_append_right_inj _).mpr leading
              · rw [round, accepted, List.append_assoc]
              · rw [round]
                generalize (writeLoop segments later next _).2 = outcome at accounts ⊢
                cases outcome with
                | finished result =>
                    cases result with
                    | error reason => exact accounts
                    | ok value =>
                        refine ⟨?_, accounts.2⟩
                        rw [accounts.1, head, List.take_append_drop]
                | pending => exact accounts
                | panicked => exact accounts

/-- As long as something is unwritten, bytes are put on the transport exactly
when its first answer that is not an interruption takes some. -/
theorem writeLoop_silent_iff (segments : List (List UInt8)) (answers : List Answer)
    {cursor : Cursor} (transport : Transport) (placed : Placed segments cursor)
    (left : unwritten segments cursor ≠ []) :
    (writeLoop segments answers cursor transport).1.accepted = transport.accepted ↔
      takesBytes answers = false := by
  induction answers generalizing cursor transport with
  | nil => simp [writeLoop_pending placed left, takesBytes]
  | cons answer later ih =>
      cases answer with
      | failed error => simp [writeLoop_failed error placed left, takesBytes]
      | interrupted =>
          obtain ⟨stopped, position, same, round⟩ :=
            @writeLoop_interrupted segments cursor transport later placed left
          rw [round]
          exact ih transport position (by rw [same]; exact left)
      | accepted written =>
          obtain ⟨offered, -, nonempty, ⟨error, -, round⟩ |
            ⟨next, positive, -, position, -, round⟩⟩ :=
            @writeLoop_accepted segments cursor transport later written placed left
          · rw [round]
            have grows : offered ≠ [] := List.length_pos_iff.mp nonempty
            simp [takesBytes, List.take_eq_nil_iff, grows]
          · obtain ⟨taken, -, accepted, -⟩ := writeLoop_spec segments later
              { accepted := transport.accepted ++ offered.take written
                failures := transport.failures } position
            have grows : offered ≠ [] := List.length_pos_iff.mp nonempty
            have counted : written ≠ 0 := by omega
            rw [round, accepted]
            simp [takesBytes, List.append_assoc, grows, counted]

end VividProtocol.Wire
