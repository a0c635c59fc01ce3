import Mathlib.Tactic
import VividProtocol.Wire.Writer

/-!
# The calls a record makes of its transport

`write_writer_parts` seen from the transport.  Each `write_vectored` is a call
with the slices it offers, and the record is on the wire when the answered
counts add up to it.  A record in parts is written as its bytes in one piece
would be, however the transport cuts them.
-/

set_option autoImplicit false

namespace VividProtocol.Wire

/-! ## Calls -/

structure VectoredCall where
  cursor : Cursor
  slices : List (List UInt8)
  answer : Answer
  deriving Repr, DecidableEq

namespace VectoredCall

def offered (call : VectoredCall) : Nat := (call.slices.map List.length).sum

/-- What the transport took of the slices. -/
def taken (call : VectoredCall) : List UInt8 :=
  match call.answer with
  | .accepted written => call.slices.flatten.take written
  | .interrupted | .failed _ => []

/-- The answer of a transport that works. -/
def Obliging (call : VectoredCall) : Prop :=
  match call.answer with
  | .accepted written => 1 ≤ written ∧ written ≤ call.offered
  | .interrupted => True
  | .failed _ => False

/-- The cursor stands on a byte of the record. -/
def Inside (segments : List (List UInt8)) (call : VectoredCall) : Prop :=
  ∃ part, segments[call.cursor.partIndex]? = some part ∧ call.cursor.partOffset < part.length

end VectoredCall

/-- The calls of `write_vectored` that `writeLoop` makes. -/
def vectoredCalls (segments : List (List UInt8)) : List Answer → Cursor → List VectoredCall
  | [], _ => []
  | answer :: later, cursor =>
      let cursor := skipWritten cursor (segments.drop cursor.partIndex)
      if segments.length ≤ cursor.partIndex then []
      else
        let slices := gatherSlices MAX_VECTORED_SLICES cursor.partOffset
          (segments.drop cursor.partIndex)
        { cursor := cursor, slices := slices, answer := answer } ::
          match answer with
          | .interrupted => vectoredCalls segments later cursor
          | .failed _ => []
          | .accepted written =>
              if (slices.map List.length).sum < written then []
              else if written = 0 then []
              else
                match consumeWritten cursor written (segments.drop cursor.partIndex) with
                | none => []
                | some next => vectoredCalls segments later next

def Answer.counts : Answer → Bool
  | .accepted _ => true
  | .interrupted | .failed _ => false

theorem gatherSlices_length (room offset : Nat) (rest : List (List UInt8)) :
    (gatherSlices room offset rest).length ≤ room := by
  induction rest generalizing room offset with
  | nil => simp [gatherSlices]
  | cons part rest ih =>
      cases room with
      | zero => simp [gatherSlices]
      | succ room =>
          unfold gatherSlices
          split_ifs with inside
          · have fewer := ih room 0
            rw [List.length_cons]
            omega
          · exact ih (room + 1) 0

/-! ## One call -/

section Rounds

variable {segments : List (List UInt8)} {cursor : Cursor} {later : List Answer}

theorem vectoredCalls_written (answers : List Answer) (placed : Placed segments cursor)
    (done : unwritten segments cursor = []) : vectoredCalls segments answers cursor = [] := by
  obtain ⟨same, ended | ⟨part, rest, here, inside⟩⟩ := skipWritten_spec rfl placed
  · have past := List.drop_eq_nil_iff.mp ended
    cases answers <;> simp only [vectoredCalls, past, if_true]
  · rw [done, unwritten, here, List.flatten_cons, List.drop_eq_nil_iff,
      List.length_append] at same
    omega

/-- The call made where something is unwritten: it stands on a byte, and what it
offers is the front of what is left. -/
theorem call_made (answer : Answer) (placed : Placed segments cursor)
    (left : unwritten segments cursor ≠ []) :
    let stopped := skipWritten cursor (segments.drop cursor.partIndex)
    let call : VectoredCall :=
      { cursor := stopped
        slices := gatherSlices MAX_VECTORED_SLICES stopped.partOffset
          (segments.drop stopped.partIndex)
        answer := answer }
    call.Inside segments ∧ call.slices.length ≤ MAX_VECTORED_SLICES ∧
      call.slices.flatten <+: unwritten segments cursor ∧
      Placed segments stopped ∧ unwritten segments stopped = unwritten segments cursor := by
  obtain ⟨same, part, rest, here, inside, -⟩ := skipWritten_inside placed left
  generalize skipWritten cursor (segments.drop cursor.partIndex) = stopped at *
  have found : segments[stopped.partIndex]? = some part := by
    rw [← List.head?_drop, here, List.head?_cons]
  have front := gatherSlices_prefix MAX_VECTORED_SLICES
    (show ∀ first others, part :: rest = first :: others →
        stopped.partOffset ≤ first.length by
      intro first others split
      rw [← (List.cons.inj split).1]
      omega)
  refine ⟨⟨part, found, inside⟩, gatherSlices_length _ _ _, ?_, ?_, same⟩
  · rw [← same, unwritten, here]
    exact front
  · simp only [Placed, here]
    omega

end Rounds

/-! ## All calls -/

/-- The calls are made inside the record and offer few slices. -/
theorem vectoredCalls_inside (segments : List (List UInt8)) (answers : List Answer)
    {cursor : Cursor} (placed : Placed segments cursor) :
    ∀ call ∈ vectoredCalls segments answers cursor,
      call.Inside segments ∧ call.slices.length ≤ MAX_VECTORED_SLICES := by
  induction answers generalizing cursor with
  | nil =>
      intro call made
      cases made
  | cons answer later ih =>
      intro call made
      by_cases done : unwritten segments cursor = []
      · rw [vectoredCalls_written _ placed done] at made
        cases made
      · obtain ⟨stands, few, front, position, same⟩ := call_made answer placed done
        obtain ⟨-, part, rest, here, inside, short⟩ := skipWritten_inside placed done
        generalize skipped : skipWritten cursor (segments.drop cursor.partIndex) = stopped at *
        simp only [vectoredCalls, skipped, short, if_false, List.mem_cons] at made
        rcases made with first | made
        · rw [first]
          exact ⟨stands, few⟩
        · cases answer with
          | interrupted => exact ih position call made
          | failed error => cases made
          | accepted written =>
              dsimp only at made
              split_ifs at made with beyond zero
              · cases made
              · cases made
              · have fits : written ≤ (unwritten segments stopped).length := by
                  have bound := front.length_le
                  rw [List.length_flatten] at bound
                  rw [same]
                  exact (Nat.le_of_not_lt beyond).trans bound
                obtain ⟨next, moved, -, after⟩ := consumeWritten_spec here inside fits
                rw [here, moved] at made
                exact ih after call made

/-- What the transport holds in the end is what the calls gave it. -/
theorem writeLoop_taken (segments : List (List UInt8)) (answers : List Answer)
    (cursor : Cursor) (transport : Transport) :
    (writeLoop segments answers cursor transport).1.accepted =
      transport.accepted ++ ((vectoredCalls segments answers cursor).map VectoredCall.taken).flatten := by
  induction answers generalizing cursor transport with
  | nil =>
      simp only [writeLoop, vectoredCalls]
      split_ifs <;> simp
  | cons answer later ih =>
      simp only [writeLoop, vectoredCalls]
      generalize skipWritten cursor (segments.drop cursor.partIndex) = stopped
      split_ifs with past
      · simp
      · cases answer with
        | interrupted => simp [Transport.writeVectored, ih, VectoredCall.taken]
        | failed error => simp [Transport.writeVectored, VectoredCall.taken]
        | accepted written =>
            dsimp only
            split_ifs with beyond zero
            · simp [Transport.writeVectored, VectoredCall.taken]
            · simp [Transport.writeVectored, VectoredCall.taken]
            · cases consumeWritten stopped written (segments.drop stopped.partIndex) with
              | none => simp [Transport.writeVectored, VectoredCall.taken]
              | some next => simp [Transport.writeVectored, VectoredCall.taken, ih]

/-- How the calls account for an outcome.  `left` is what was to be written. -/
def Outcome.Concludes (answers : List Answer) (calls : List VectoredCall)
    (delivered left : List UInt8) : Outcome → Prop
  | .finished (.ok ()) => delivered = left ∧ ∀ call ∈ calls, call.Obliging
  | .finished (.error _) =>
      ∃ earlier last, calls = earlier ++ [last] ∧ (∀ call ∈ earlier, call.Obliging) ∧
        ¬ last.Obliging
  | .pending =>
      delivered ≠ left ∧ calls.map VectoredCall.answer = answers ∧
        ∀ call ∈ calls, call.Obliging
  | .panicked => False

theorem Outcome.Concludes.fault {answers : List Answer} {call : VectoredCall}
    {delivered left : List UInt8} {error : IoError} (fault : ¬ call.Obliging) :
    (Outcome.finished (.error error)).Concludes answers [call] delivered left := by
  refine ⟨[], call, rfl, ?_, fault⟩
  intro other among
  cases among

theorem Outcome.Concludes.cons {call : VectoredCall} {calls : List VectoredCall}
    {later : List Answer} {delivered left : List UInt8} {outcome : Outcome}
    (rest : outcome.Concludes later calls delivered (left.drop call.taken.length))
    (obliging : call.Obliging) (front : call.taken <+: left) :
    outcome.Concludes (call.answer :: later) (call :: calls) (call.taken ++ delivered) left := by
  have split : left = call.taken ++ left.drop call.taken.length := by
    obtain ⟨tail, whole⟩ := front
    rw [← whole, List.drop_left]
  have all : (∀ other ∈ calls, other.Obliging) → ∀ other ∈ call :: calls, other.Obliging := by
    intro others other among
    rcases List.mem_cons.mp among with same | among
    · rw [same]
      exact obliging
    · exact others other among
  cases outcome with
  | finished result =>
      cases result with
      | ok done => exact ⟨by rw [rest.1, ← split], all rest.2⟩
      | error reason =>
          obtain ⟨earlier, last, shape, others, fault⟩ := rest
          refine ⟨call :: earlier, last, by rw [shape, List.cons_append], ?_, fault⟩
          intro other among
          rcases List.mem_cons.mp among with same | among
          · rw [same]
            exact obliging
          · exact others other among
  | pending =>
      obtain ⟨short, sent, others⟩ := rest
      refine ⟨?_, by rw [List.map_cons, sent], all others⟩
      intro whole
      rw [split] at whole
      exact short (List.append_cancel_left whole)
  | panicked => exact rest

theorem writeLoop_concludes (segments : List (List UInt8)) (answers : List Answer)
    {cursor : Cursor} (transport : Transport) (placed : Placed segments cursor) :
    (writeLoop segments answers cursor transport).2.Concludes answers
      (vectoredCalls segments answers cursor)
      ((vectoredCalls segments answers cursor).map VectoredCall.taken).flatten
      (unwritten segments cursor) := by
  induction answers generalizing cursor transport with
  | nil =>
      by_cases done : unwritten segments cursor = []
      · rw [writeLoop_written [] placed done, done]
        exact ⟨rfl, fun call made => by cases made⟩
      · rw [writeLoop_pending placed done]
        exact ⟨Ne.symm done, rfl, fun call made => by cases made⟩
  | cons answer later ih =>
      by_cases done : unwritten segments cursor = []
      · rw [writeLoop_written _ placed done, vectoredCalls_written _ placed done, done]
        exact ⟨rfl, fun call made => by cases made⟩
      · obtain ⟨-, -, front, position, same⟩ := call_made answer placed done
        obtain ⟨-, part, rest, here, inside, short⟩ := skipWritten_inside placed done
        generalize skipped : skipWritten cursor (segments.drop cursor.partIndex) = stopped at *
        simp only [writeLoop, vectoredCalls, skipped, short, if_false]
        dsimp only at front
        generalize gathered : gatherSlices MAX_VECTORED_SLICES stopped.partOffset
          (segments.drop stopped.partIndex) = slices at *
        cases answer with
        | interrupted =>
            have obliging : (VectoredCall.mk stopped slices .interrupted).Obliging := trivial
            refine Outcome.Concludes.cons ?_ obliging (by simp [VectoredCall.taken])
            simpa [VectoredCall.taken, same] using ih (transport.writeVectored slices .interrupted)
              position
        | failed error =>
            exact Outcome.Concludes.fault id
        | accepted written =>
            dsimp only
            split_ifs with beyond zero
            · apply Outcome.Concludes.fault
              intro obliging
              exact absurd obliging.2 (Nat.not_le.mpr beyond)
            · apply Outcome.Concludes.fault
              intro obliging
              exact absurd obliging.1 (by omega)
            · have fits : written ≤ slices.flatten.length := by
                rw [List.length_flatten]
                exact Nat.le_of_not_lt beyond
              have within : written ≤ (unwritten segments stopped).length := by
                rw [same]
                exact fits.trans front.length_le
              obtain ⟨next, moved, advanced, after⟩ := consumeWritten_spec here inside within
              rw [here, moved]
              have obliging : (VectoredCall.mk stopped slices (.accepted written)).Obliging :=
                ⟨by omega, Nat.le_of_not_lt beyond⟩
              refine Outcome.Concludes.cons ?_ obliging
                ((List.take_prefix written slices.flatten).trans front)
              have size : (slices.flatten.take written).length = written := by
                rw [List.length_take]
                omega
              simp only [VectoredCall.taken, size, ← same, ← advanced]
              exact ih _ after

/-! ## Records in parts -/

/-- Each count a working transport reports is at least one byte. -/
theorem counts_le_taken {calls : List VectoredCall} (obliging : ∀ call ∈ calls, call.Obliging) :
    (calls.map VectoredCall.answer).countP Answer.counts ≤
      ((calls.map VectoredCall.taken).flatten).length := by
  induction calls with
  | nil => simp
  | cons call calls ih =>
      have later := ih fun other among => obliging other (List.mem_cons_of_mem call among)
      have first := obliging call List.mem_cons_self
      simp only [List.map_cons, List.countP_cons, List.flatten_cons, List.length_append]
      cases given : call.answer with
      | interrupted =>
          simp only [Answer.counts, Bool.false_eq_true, if_false]
          omega
      | failed error =>
          simp only [VectoredCall.Obliging, given] at first
      | accepted written =>
          simp only [VectoredCall.Obliging, given, VectoredCall.offered] at first
          have size : call.taken.length = written := by
            rw [← List.length_flatten] at first
            simp only [VectoredCall.taken, given, List.length_take]
            omega
          simp only [Answer.counts, if_true]
          omega

theorem writeWriterParts_of_carries {io : WriterIo} (carries : io.carries = true)
    (header : List UInt8) (parts : List (List UInt8)) (transport : Transport)
    (answers : List Answer) :
    writeWriterParts io header parts transport answers =
      writeLoop (header :: parts) answers { partIndex := 0, partOffset := 0 } transport := by
  cases io with
  | tcp => rfl
  | unix => rfl
  | live => rfl
  | trace => cases carries
  | sink => cases carries

/-- A record in parts goes out as the header and the parts in one piece would:
every call stands inside the record and offers few slices, the transport is
given the bytes in order, each once, and the call ends as its last answer says.
A working transport that keeps taking bytes ends it with success. -/
theorem parts_written_as_one {io : WriterIo} (carries : io.carries = true)
    (header : List UInt8) (parts : List (List UInt8)) (transport : Transport)
    (answers : List Answer) :
    let calls := vectoredCalls (header :: parts) answers { partIndex := 0, partOffset := 0 }
    let record := header ++ parts.flatten
    let delivered := (calls.map VectoredCall.taken).flatten
    let answer := writeWriterParts io header parts transport answers
    (∀ call ∈ calls, call.Inside (header :: parts) ∧
        call.slices.length ≤ MAX_VECTORED_SLICES) ∧
      answer.1.accepted = transport.accepted ++ delivered ∧ delivered <+: record ∧
      answer.2.Concludes answers calls delivered record ∧
      ((∀ call ∈ calls, call.Obliging) → record.length ≤ answers.countP Answer.counts →
        answer.2 = .finished (.ok ()) ∧ delivered = record) := by
  intro calls record delivered answer
  have start : Placed (header :: parts) { partIndex := 0, partOffset := 0 } := by
    simp [Placed]
  have whole : unwritten (header :: parts) { partIndex := 0, partOffset := 0 } = record := by
    simp [unwritten, record]
  have same : answer = writeLoop (header :: parts) answers { partIndex := 0, partOffset := 0 }
      transport := writeWriterParts_of_carries carries header parts transport answers
  have concludes : answer.2.Concludes answers calls delivered record := by
    rw [same, ← whole]
    exact writeLoop_concludes (header :: parts) answers transport start
  have accepted : answer.1.accepted = transport.accepted ++ delivered := by
    rw [same]
    exact writeLoop_taken (header :: parts) answers _ transport
  have front : delivered <+: record := by
    obtain ⟨taken, leading, held, -⟩ := writeLoop_spec (header :: parts) answers transport start
    rw [← same, accepted] at held
    rw [List.append_cancel_left held, ← whole]
    exact leading
  refine ⟨vectoredCalls_inside (header :: parts) answers start, accepted, front, concludes, ?_⟩
  intro obliging enough
  generalize answer.2 = outcome at concludes ⊢
  cases outcome with
  | finished result =>
      cases result with
      | ok done => exact ⟨rfl, concludes.1⟩
      | error reason =>
          obtain ⟨earlier, last, shape, -, fault⟩ := concludes
          exact absurd (obliging last (by rw [shape]; simp)) fault
  | pending =>
      obtain ⟨unfinished, sent, -⟩ := concludes
      have counted := counts_le_taken obliging
      rw [sent] at counted
      have complete : delivered.length = record.length :=
        Nat.le_antisymm front.length_le (enough.trans counted)
      exact absurd (front.eq_of_length complete) unfinished
  | panicked => exact concludes.elim

/-- Short writes that end inside a part, on its end and after an interruption. -/
theorem parts_written_as_one_short :
    writeWriterParts .tcp [1, 2, 3] [[4], [], [5, 6]] { accepted := [], failures := 0 }
        [.accepted 2, .interrupted, .accepted 2, .accepted 2] =
      ({ accepted := [1, 2, 3, 4, 5, 6], failures := 0 }, .finished (.ok ())) ∧
    (writeWriterParts .tcp [1, 2, 3] [[4], [], [5, 6]] { accepted := [], failures := 0 }
        [.accepted 2, .interrupted, .accepted 2, .accepted 2]).2.Concludes
      [.accepted 2, .interrupted, .accepted 2, .accepted 2]
      (vectoredCalls [[1, 2, 3], [4], [], [5, 6]]
        [.accepted 2, .interrupted, .accepted 2, .accepted 2]
        { partIndex := 0, partOffset := 0 })
      [1, 2, 3, 4, 5, 6] [1, 2, 3, 4, 5, 6] :=
  ⟨rfl, (@parts_written_as_one .tcp rfl [1, 2, 3] [[4], [], [5, 6]]
    { accepted := [], failures := 0 }
    [.accepted 2, .interrupted, .accepted 2, .accepted 2]).2.2.2.1⟩

end VividProtocol.Wire
