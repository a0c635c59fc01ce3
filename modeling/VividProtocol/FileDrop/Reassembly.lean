import Mathlib.Tactic
import VividProtocol.FileDrop.Flow
import VividProtocol.Library.Fields
import VividProtocol.Library.Transition

/-!
# Reassembled files

A receiver appends what it parses from each record its flow admits, and cuts
back to the committed offset when the flow advances.  What it holds is the front
of the source, up to the next offset.
-/

set_option autoImplicit false

namespace VividProtocol.FileDrop

open VividProtocol.Wire
open VividProtocol.Library.Fields VividProtocol.Library.Transition

/-- The record of a part of the source, where the source has one. -/
def fileRecord (source : List UInt8) (offset : UInt64) (length : Nat) : Option (List UInt8) := do
  let bytes ← (fileDataPrefix offset length).toOption
  let data ← slice offset.toNat length source
  some (bytes ++ data)

structure Transfer where
  flow : FileTransferFlow
  received : List UInt8
  deriving Repr, DecidableEq

inductive TransferCall where
  | data (offset : UInt64) (length : Nat)
  | raiseMaxima (bodyBytes records : UInt64)
  | advance (generation : FileTransferGeneration)
      (committedOffset maximumBodyBytes maximumRecords : UInt64)
  deriving Repr, DecidableEq

inductive TransferAnswer where
  | unbuilt
  | unparsed (error : IoError)
  | called (result : Except MessageError Unit)

def receiveData (transfer : Transfer) (body : List UInt8) : TransferAnswer × Transfer :=
  match parseFileData body with
  | .error error => (.unparsed error, transfer)
  | .ok parsed =>
      match transfer.flow.admitData parsed.offset (UInt32.ofNat parsed.data.length) with
      | (.error error, flow) => (.called (.error error), { transfer with flow := flow })
      | (.ok (), flow) =>
          (.called (.ok ()), { flow := flow, received := transfer.received ++ parsed.data })

def transferStep (source : List UInt8) (transfer : Transfer) :
    TransferCall → TransferAnswer × Transfer
  | .data offset length =>
      match fileRecord source offset length with
      | none => (.unbuilt, transfer)
      | some body => receiveData transfer body
  | .raiseMaxima bodyBytes records =>
      (.called (.ok ()), { transfer with flow := transfer.flow.raiseMaxima bodyBytes records })
  | .advance generation committedOffset maximumBodyBytes maximumRecords =>
      match transfer.flow.advance generation committedOffset maximumBodyBytes maximumRecords with
      | (.error error, flow) => (.called (.error error), { transfer with flow := flow })
      | (.ok (), flow) =>
          (.called (.ok ()),
            { flow := flow, received := transfer.received.take committedOffset.toNat })

def transferMachine (source : List UInt8) : Machine Transfer TransferCall TransferAnswer :=
  ⟨transferStep source⟩

abbrev TransferEvent := Event Transfer TransferCall TransferAnswer

/-- What was received is the front of the source. -/
structure Assembled (source : List UInt8) (transfer : Transfer) : Prop where
  reach : transfer.flow.nextOffset.toNat ≤ source.length
  received : transfer.received = source.take transfer.flow.nextOffset.toNat

/-- What one call does to the transfer. -/
inductive TransferEffect (source : List UInt8) (before : Transfer) :
    TransferCall → TransferAnswer → Transfer → Prop where
  | unbuilt (offset : UInt64) (length : Nat) :
      TransferEffect source before (.data offset length) .unbuilt before
  | refused (call : TransferCall) (error : MessageError) :
      TransferEffect source before call (.called (.error error)) before
  | received (data : List UInt8) (flow : FileTransferFlow) (length : Nat)
      (part : slice before.flow.nextOffset.toNat data.length source = some data)
      (charged : before.flow.Charged (UInt32.ofNat data.length) flow)
      (small : data.length < 2 ^ 32) :
      TransferEffect source before (.data before.flow.nextOffset length) (.called (.ok ()))
        { flow := flow, received := before.received ++ data }
  | raised (bodyBytes records : UInt64) :
      TransferEffect source before (.raiseMaxima bodyBytes records) (.called (.ok ()))
        { before with flow := before.flow.raiseMaxima bodyBytes records }
  | advanced (generation : FileTransferGeneration)
      (committedOffset maximumBodyBytes maximumRecords : UInt64)
      (next : generation.toNat = before.flow.generation.toNat + 1)
      (committed : committedOffset.toNat ≤ before.flow.nextOffset.toNat) :
      TransferEffect source before
        (.advance generation committedOffset maximumBodyBytes maximumRecords) (.called (.ok ()))
        { flow := ⟨generation, committedOffset, 0, 0, maximumBodyBytes, maximumRecords⟩
          received := before.received.take committedOffset.toNat }

variable {source : List UInt8} {transfer : Transfer}

theorem data_effect (offset : UInt64) (length : Nat) :
    TransferEffect source transfer (.data offset length)
      (transferStep source transfer (.data offset length)).1
      (transferStep source transfer (.data offset length)).2 := by
  cases built : fileRecord source offset length with
  | none =>
      simp only [transferStep, built]
      exact .unbuilt offset length
  | some body =>
      simp only [transferStep, built]
      obtain ⟨bytes, front, built⟩ := Option.bind_eq_some_iff.mp built
      obtain ⟨data, part, built⟩ := Option.bind_eq_some_iff.mp built
      cases built
      have sized := slice_length part
      cases made : fileDataPrefix offset length with
      | error error =>
          rw [made] at front
          cases front
      | ok written =>
          rw [made] at front
          cases front
          have bounds := fileDataPrefix_eq_ok.mp made
          have hard : HARD_MAX_RECORD_BODY.toNat < 2 ^ 32 := by decide
          rw [← sized] at made part
          unfold receiveData
          rw [parseFileData_built made]
          dsimp only
          rcases transfer.flow.admit_cases offset (UInt32.ofNat data.length) with
            ⟨after, allows, ends, charged⟩ | ⟨error, -, ends⟩
          · rw [ends]
            have next := allows.next
            subst next
            exact .received data after length part charged (by omega)
          · rw [ends]
            exact .refused _ error

theorem transferStep_effect (call : TransferCall) :
    TransferEffect source transfer call (transferStep source transfer call).1
      (transferStep source transfer call).2 := by
  cases call with
  | data offset length => exact data_effect offset length
  | raiseMaxima bodyBytes records => exact .raised bodyBytes records
  | advance generation committedOffset maximumBodyBytes maximumRecords =>
      rcases transfer.flow.advance_cases generation committedOffset maximumBodyBytes
        maximumRecords with ⟨after, ends, next, committed, same⟩ | ⟨error, ends⟩
      · subst same
        simp only [transferStep, ends]
        exact .advanced generation committedOffset maximumBodyBytes maximumRecords next committed
      · simp only [transferStep, ends]
        exact .refused _ error

/-- Every call keeps the front of the source together. -/
theorem Assembled.step {call : TransferCall} {answer : TransferAnswer} {after : Transfer}
    (assembled : Assembled source transfer)
    (effect : TransferEffect source transfer call answer after) : Assembled source after := by
  have reach := assembled.reach
  have received := assembled.received
  cases effect with
  | unbuilt offset length => exact assembled
  | refused call error => exact assembled
  | received data flow length part charged small =>
      obtain ⟨enough, split⟩ := slice_eq_some.mp part
      have next := charged.nextOffset
      rw [UInt32.toNat_ofNat', Nat.mod_eq_of_lt small] at next
      refine ⟨by rw [next]; exact enough, ?_⟩
      have taken : data = (source.drop transfer.flow.nextOffset.toNat).take data.length := by
        rw [split, List.take_left]
      rw [next, received, List.take_add]
      exact congrArg _ taken
  | raised bodyBytes records => exact ⟨reach, received⟩
  | advanced generation committedOffset maximumBodyBytes maximumRecords next committed =>
      refine ⟨le_trans committed reach, ?_⟩
      rw [received, List.take_take, Nat.min_eq_left committed]

/-- The law of one call. -/
structure TransferLaw (event : TransferEvent) : Prop where
  refused : ∀ error, event.output = .called (.error error) → event.after = event.before
  parsed : ∀ error, event.output ≠ .unparsed error
  advanced : ∀ generation committedOffset maximumBodyBytes maximumRecords,
    event.input = .advance generation committedOffset maximumBodyBytes maximumRecords →
      event.output = .called (.ok ()) →
      event.after.flow.generation.toNat = event.before.flow.generation.toNat + 1

theorem transferLaw_event (transfer : Transfer) (call : TransferCall) :
    TransferLaw ((transferMachine source).event transfer call) := by
  have effect := @transferStep_effect source transfer call
  have answer : (transferMachine source).event transfer call =
      ⟨transfer, call, (transferStep source transfer call).1,
        (transferStep source transfer call).2⟩ := rfl
  rw [answer]
  generalize (transferStep source transfer call).1 = output at effect
  generalize (transferStep source transfer call).2 = after at effect
  cases effect with
  | unbuilt offset length => exact ⟨by simp, by simp, by simp⟩
  | refused call error => exact ⟨by simp, by simp, by simp⟩
  | received data flow length part charged small => exact ⟨by simp, by simp, by simp⟩
  | raised bodyBytes records => exact ⟨by simp, by simp, by simp⟩
  | advanced generation committedOffset maximumBodyBytes maximumRecords next committed =>
      exact ⟨by simp, by simp, fun _ _ _ _ _ _ => next⟩

/-- A transferred file is reassembled without gap or overlap. -/
theorem file_reassembled (source : List UInt8) (generation : FileTransferGeneration)
    (maximumBodyBytes maximumRecords : UInt64) (flow : FileTransferFlow)
    (fresh : FileTransferFlow.new generation 0 maximumBodyBytes maximumRecords = .ok flow)
    (calls : List TransferCall) :
    let transfer := (transferMachine source).final ⟨flow, []⟩ calls
    transfer.received = source.take transfer.flow.nextOffset.toNat ∧
      transfer.flow.nextOffset.toNat ≤ source.length ∧
      ∀ event ∈ (transferMachine source).history ⟨flow, []⟩ calls, TransferLaw event := by
  intro transfer
  have begins : Assembled source ⟨flow, []⟩ := by
    rw [(FileTransferFlow.new_eq_ok.mp fresh).2.2]
    exact ⟨Nat.zero_le _, rfl⟩
  have assembled : Assembled source transfer :=
    (transferMachine source).invariant_final begins
      (fun _ call held => held.step (transferStep_effect call)) calls
  refine ⟨assembled.received, assembled.reach, ?_⟩
  intro event inside
  obtain ⟨past, future, cut⟩ := List.append_of_mem inside
  obtain ⟨before, call, -, -, -, rfl, -⟩ := (transferMachine source).history_event cut
  exact transferLaw_event _ call

/-- Three bytes, of which two are taken back and sent again. -/
theorem file_reassembled_rewound :
    ((transferMachine [7, 8, 9]).final ⟨⟨.one, 0, 0, 0, 64, 4⟩, []⟩
      [.data 0 2, .data 2 1, .advance ⟨2⟩ 1 64 4, .data 1 2]).received = [7, 8, 9] :=
  (file_reassembled [7, 8, 9] .one 64 4 ⟨.one, 0, 0, 0, 64, 4⟩ (by rfl)
    [.data 0 2, .data 2 1, .advance ⟨2⟩ 1 64 4, .data 1 2]).1

end VividProtocol.FileDrop
