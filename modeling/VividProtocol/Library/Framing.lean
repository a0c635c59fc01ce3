import Mathlib.Tactic

/-!
# Streams of self-delimiting frames

A stream carries the encodings of frames one after another, and a state says
which frame may come next.  Cut at any byte, it is some whole frames and at
most one cut short.  A reader that takes a whole frame or stops for an excused
reason therefore returns the leading frames of any cut stream, in order.
-/

set_option autoImplicit false

namespace VividProtocol.Library.Framing

universe u

structure Format (State Frame Byte : Type u) where
  encode : Frame → List Byte
  /-- The frame may come next. -/
  Follows : State → Frame → Prop
  advance : State → Frame → State

namespace Format

variable {State Frame Byte : Type u} (format : Format State Frame Byte)

def stream : List Frame → List Byte
  | [] => []
  | frame :: rest => format.encode frame ++ stream rest

/-- Each frame may come after those before it. -/
def Sequenced : State → List Frame → Prop
  | _, [] => True
  | state, frame :: rest =>
      format.Follows state frame ∧ Sequenced (format.advance state frame) rest

def last : State → List Frame → State
  | state, [] => state
  | state, frame :: rest => last (format.advance state frame) rest

theorem stream_snoc (frames : List Frame) (frame : Frame) :
    format.stream (frames ++ [frame]) =
      format.stream frames ++ format.encode frame := by
  induction frames with
  | nil => simp [stream]
  | cons first rest ih => simp only [List.cons_append, stream, ih, List.append_assoc]

theorem last_snoc (state : State) (frames : List Frame) (frame : Frame) :
    format.last state (frames ++ [frame]) =
      format.advance (format.last state frames) frame := by
  induction frames generalizing state with
  | nil => rfl
  | cons first rest ih => exact ih (format.advance state first)

theorem sequenced_snoc {state : State} {frames : List Frame} {frame : Frame}
    (before : format.Sequenced state frames)
    (follows : format.Follows (format.last state frames) frame) :
    format.Sequenced state (frames ++ [frame]) := by
  induction frames generalizing state with
  | nil => exact ⟨follows, trivial⟩
  | cons first rest ih => exact ⟨before.1, ih before.2 follows⟩

variable {format}

/-- A cut inside a frame and what follows it is a cut of the frame itself or
the whole frame and a cut of the rest. -/
theorem cut_cons {frame : Frame} {bytes tail : List Byte}
    (cut : bytes <+: format.encode frame ++ tail) :
    (bytes <+: format.encode frame ∧ bytes.length < (format.encode frame).length) ∨
      ∃ rest, bytes = format.encode frame ++ rest ∧ rest <+: tail := by
  rcases List.prefix_or_prefix_of_prefix cut (List.prefix_append _ tail) with short | whole
  · by_cases strict : bytes.length < (format.encode frame).length
    · exact Or.inl ⟨short, strict⟩
    · have same := short.eq_of_length_le (by omega)
      exact Or.inr ⟨[], by rw [same, List.append_nil], List.nil_prefix⟩
  · obtain ⟨rest, rfl⟩ := whole
    exact Or.inr ⟨rest, rfl, (List.prefix_append_right_inj _).mp cut⟩

end Format

/-! ## Readers -/

variable {State Frame Byte Choice Reason : Type u}

/-- One read for each of the caller's choices, until a read fails. -/
def readAll (read : Choice → State → List Byte → Except Reason (Frame × State × List Byte)) :
    List Choice → State → List Byte → List Frame × Option Reason
  | [], _, _ => ([], none)
  | choice :: later, state, unread =>
      match read choice state unread with
      | .error reason => ([], some reason)
      | .ok (frame, next, rest) =>
          let answer := readAll read later next rest
          (frame :: answer.1, answer.2)

/-- A read takes the next frame when it is whole, and may stop for an excused
reason; on a cut frame or on no bytes it stops for one. -/
structure Reads (format : Format State Frame Byte)
    (read : Choice → State → List Byte → Except Reason (Frame × State × List Byte))
    (Excused : Reason → Prop) : Prop where
  whole : ∀ choice state frame rest, format.Follows state frame →
    read choice state (format.encode frame ++ rest) =
        .ok (frame, format.advance state frame, rest) ∨
      ∃ reason, read choice state (format.encode frame ++ rest) = .error reason ∧
        Excused reason
  cut : ∀ choice state frame bytes, format.Follows state frame →
    bytes <+: format.encode frame → bytes.length < (format.encode frame).length →
      ∃ reason, read choice state bytes = .error reason ∧ Excused reason
  empty : ∀ choice state, ∃ reason, read choice state [] = .error reason ∧ Excused reason

theorem Reads.readAll_cut {format : Format State Frame Byte}
    {read : Choice → State → List Byte → Except Reason (Frame × State × List Byte)}
    {Excused : Reason → Prop} (reads : Reads format read Excused)
    (choices : List Choice) {state : State} {frames : List Frame} {bytes : List Byte}
    (sequenced : format.Sequenced state frames) (cut : bytes <+: format.stream frames) :
    (readAll read choices state bytes).1 <+: frames ∧
      ∀ reason, (readAll read choices state bytes).2 = some reason → Excused reason := by
  have stops : ∀ {choice : Choice} {later : List Choice} {state : State}
      {bytes : List Byte} {frames : List Frame} {reason : Reason},
      read choice state bytes = .error reason → Excused reason →
      (readAll read (choice :: later) state bytes).1 <+: frames ∧
        ∀ stop, (readAll read (choice :: later) state bytes).2 = some stop →
          Excused stop := by
    intro choice later state bytes frames reason failed excused
    simp only [readAll, failed]
    refine ⟨List.nil_prefix, ?_⟩
    intro stop same
    rw [← Option.some.inj same]
    exact excused
  induction choices generalizing state frames bytes with
  | nil =>
      refine ⟨List.nil_prefix, ?_⟩
      intro reason impossible
      cases impossible
  | cons choice later ih =>
      cases frames with
      | nil =>
          obtain rfl := List.prefix_nil.mp cut
          obtain ⟨reason, failed, excused⟩ := reads.empty choice state
          exact stops failed excused
      | cons frame rest =>
          rcases Format.cut_cons cut with ⟨short, strict⟩ | ⟨unread, rfl, tail⟩
          · obtain ⟨reason, failed, excused⟩ :=
              reads.cut choice state frame bytes sequenced.1 short strict
            exact stops failed excused
          · rcases reads.whole choice state frame unread sequenced.1 with
              taken | ⟨reason, failed, excused⟩
            · obtain ⟨leading, excuse⟩ := ih sequenced.2 tail
              simp only [readAll, taken]
              exact ⟨(List.prefix_cons_inj frame).mpr leading, excuse⟩
            · exact stops failed excused

end VividProtocol.Library.Framing
