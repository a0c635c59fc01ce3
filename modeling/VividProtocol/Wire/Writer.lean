import Mathlib.Tactic
import VividProtocol.Library.Result
import VividProtocol.Library.Transition
import VividProtocol.Wire.Record
import VividProtocol.Wire.Vectored

/-!
# The connection writer

`ConnectionWriter` of `wire.rs` with every clone and the transport behind it.
Its mutex runs the calls one after another, so a run is a list of operations.
A call that waits inside the transport keeps the lock.  Shutdown publishes its
flag without the lock, so a write call carries how many of its loads of the
flag came before that.
-/

set_option autoImplicit false

namespace VividProtocol.Wire

open Library.Transition

def BATCH_RECORD_LIMIT : UInt64 := 32

def ERROR : UInt16 := 0x0004
def PONG : UInt16 := 0x0006
def INPUT_REVOKED : UInt16 := 0x0702
def INPUT_RESET : UInt16 := 0x0704
def FILE_DROP_CANCELLED : UInt16 := 0x7006
def FILE_TRANSFER_OPEN : UInt16 := 0x7010
def FILE_TRANSFER_ACCEPTED : UInt16 := 0x7011
def MAX_FILE_DATA : UInt16 := 0x7013
def FILE_FINISH : UInt16 := 0x7014
def FILE_RESULT : UInt16 := 0x7015
def FILE_TRANSFER_ABORT : UInt16 := 0x7016
def MAX_CHANNEL_DATA : UInt16 := 0x8009

inductive FlushMode where
  | immediate
  | batched
  deriving Repr, DecidableEq

inductive WriterIo where
  | tcp
  | unix
  | live
  | trace
  | sink
  deriving Repr, DecidableEq

/-- What the writer writes reaches a transport. -/
def WriterIo.carries : WriterIo → Bool
  | .tcp | .unix | .live => true
  | .trace | .sink => false

structure WriterState where
  io : WriterIo
  closed : Bool
  sendSequence : UInt64
  sendBodyLimit : UInt32
  flushMode : FlushMode
  unflushedRecords : UInt64
  deriving Repr, DecidableEq

def WriterState.close (state : WriterState) : WriterState :=
  { state with closed := true, unflushedRecords := 0, io := .sink }

inductive Lock where
  | free
  | held
  | poisoned
  deriving Repr, DecidableEq

structure ConnectionWriter where
  state : WriterState
  lock : Lock
  nativeShutdown : Bool
  shutdownRequested : Bool
  transport : Transport
  deriving Repr, DecidableEq

/-- A writer right after its preface. -/
def ConnectionWriter.connected (io : WriterIo) (sendBodyLimit : UInt32)
    (flushMode : FlushMode) : ConnectionWriter :=
  { state :=
      { io := io
        closed := false
        sendSequence := 0
        sendBodyLimit := sendBodyLimit
        flushMode := flushMode
        unflushedRecords := 0 }
    lock := .free
    nativeShutdown := io == .tcp || io == .unix
    shutdownRequested := false
    transport := { accepted := [], failures := 0 } }

structure WriteCall where
  recordType : UInt16
  flags : UInt16
  objectId : UInt64
  parts : List (List UInt8)
  checkpoint : Bool
  answers : List Answer
  /-- What a flush of the transport answers, or `none` when it never does. -/
  flushed : Option (Except IoError Unit)
  quietLoads : Nat

inductive Reply where
  | sequence (number : UInt64)
  | done
  | failed (error : IoError)
  | blocked
  | panicked

def writerClosedError : IoError := ⟨.brokenPipe, "Vivid connection writer is closed"⟩

def lockPoisonedError : IoError :=
  ⟨.other, "Vivid connection writer lock is poisoned"⟩

/-! ## One record -/

/-- `read_control_uint` on the bytes that are left. -/
def readControlUint : Nat → UInt64 → List UInt8 → Option UInt64
  | 0, value, _ => some value
  | _ + 1, _, [] => none
  | length + 1, value, byte :: rest =>
      readControlUint length (value <<< 8 ||| byte.toUInt64) rest

def hasCorrelatedControlEnvelope (recordType : UInt16) (parts : List (List UInt8)) : Bool :=
  if 0x8000 ≤ recordType then false
  else
    match parts.flatten with
    | map :: key :: initial :: rest =>
        if map >>> 5 ≠ 5 ∨ key ≠ 0 then false
        else if initial >>> 5 ≠ 0 then false
        else
          let additional := initial &&& 0x1f
          let requestId :=
            if additional ≤ 23 then additional.toUInt64
            else if additional = 24 then (readControlUint 1 0 rest).getD 0
            else if additional = 25 then (readControlUint 2 0 rest).getD 0
            else if additional = 26 then (readControlUint 4 0 rest).getD 0
            else if additional = 27 then (readControlUint 8 0 rest).getD 0
            else 0
          requestId != 0
    | _ => false

def WriterState.mustFlush (state : WriterState) (call : WriteCall) : Bool :=
  state.flushMode == .immediate || call.checkpoint ||
    [MAX_CHANNEL_DATA, MAX_FILE_DATA, FILE_TRANSFER_OPEN, FILE_TRANSFER_ACCEPTED,
      FILE_FINISH, FILE_RESULT, FILE_TRANSFER_ABORT, FILE_DROP_CANCELLED,
      INPUT_REVOKED, INPUT_RESET, PONG, ERROR].contains call.recordType ||
    hasCorrelatedControlEnvelope call.recordType call.parts ||
    decide (BATCH_RECORD_LIMIT ≤ state.unflushedRecords)

def addPartLength (length : Nat) (part : List UInt8) : Except IoError Nat :=
  if length + part.length < 2 ^ 64 then .ok (length + part.length)
  else .error ⟨.invalidInput, "record body length overflows"⟩

def bodyLength (parts : List (List UInt8)) : Except IoError UInt32 :=
  parts.foldlM addPartLength 0 >>= fun length =>
    if length < 2 ^ 32 then .ok (UInt32.ofNat length)
    else .error ⟨.invalidInput, "record body exceeds u32"⟩

def writeWriterParts (io : WriterIo) (header : List UInt8) (parts : List (List UInt8))
    (transport : Transport) (answers : List Answer) : Transport × Outcome :=
  match io with
  | .trace | .sink => (transport, .finished (.ok ()))
  | .tcp | .unix | .live =>
      writeLoop (header :: parts) answers { partIndex := 0, partOffset := 0 } transport

def flushWriter (io : WriterIo) (transport : Transport)
    (flushed : Option (Except IoError Unit)) : Transport × Outcome :=
  match io with
  | .trace | .sink => (transport, .finished (.ok ()))
  | .tcp | .unix | .live =>
      match flushed with
      | none => (transport, .pending)
      | some (.ok ()) => (transport, .finished (.ok ()))
      | some (.error error) =>
          ({ transport with failures := transport.failures + 1 }, .finished (.error error))

namespace ConnectionWriter

/-- What the given load of `shutdown_requested` in a write call reads. -/
def loads (writer : ConnectionWriter) (call : WriteCall) (load : Nat) : Bool :=
  writer.shutdownRequested || decide (call.quietLoads ≤ load)

/-- The call up to the point where the sequence number is taken. -/
def startRecord (writer : ConnectionWriter) (call : WriteCall) :
    Except Reply RecordHeader :=
  if writer.loads call 0 then .error (.failed writerClosedError)
  else if call.flags &&& ~~~ RECORD_KNOWN_FLAGS ≠ 0 then
    .error (.failed ⟨.invalidInput, "record has nonzero reserved flags"⟩)
  else
    match bodyLength call.parts with
    | .error error => .error (.failed error)
    | .ok length =>
        if writer.loads call 1 then .error (.failed writerClosedError)
        else
          match writer.lock with
          | .held => .error .blocked
          | .poisoned => .error (.failed lockPoisonedError)
          | .free =>
              if writer.state.closed || writer.loads call 2 then
                .error (.failed writerClosedError)
              else if writer.state.sendBodyLimit < length ∨ HARD_MAX_RECORD_BODY < length then
                .error (.failed ⟨.invalidInput, "record body of " ++ toString length ++
                  " bytes exceeds negotiated maximum"⟩)
              else
                match checkedAdd writer.state.sendSequence 1 with
                | none => .error (.failed ⟨.invalidData, "record sequence exhausted"⟩)
                | some sequence =>
                    .ok
                      { bodyLength := length
                        recordType := call.recordType
                        flags := call.flags
                        objectId := call.objectId
                        sequence := sequence }

/-- A flush of the transport, and what the call does with its answer. -/
def flushing (writer : ConnectionWriter) (flushed : Option (Except IoError Unit))
    (finish : ConnectionWriter → Except IoError Unit → Reply × ConnectionWriter) :
    Reply × ConnectionWriter :=
  let answer := flushWriter writer.state.io writer.transport flushed
  let writer := { writer with transport := answer.1 }
  match answer.2 with
  | .pending => (.blocked, { writer with lock := .held })
  | .panicked => (.panicked, { writer with lock := .poisoned })
  | .finished result => finish writer result

/-- The end of a record that is flushed; `stopped` is the load after the flush. -/
def endRecord (number : UInt64) (stopped : Bool) (writer : ConnectionWriter)
    (flushed : Except IoError Unit) : Reply × ConnectionWriter :=
  if stopped then
    (.failed writerClosedError, { writer with state := writer.state.close })
  else
    match flushed with
    | .error error => (.failed error, writer)
    | .ok () =>
        (.sequence number,
          { writer with state := { writer.state with unflushedRecords := 0 } })

/-- The call from the point where the sequence number is taken. -/
def sendRecord (writer : ConnectionWriter) (call : WriteCall) (header : RecordHeader) :
    Reply × ConnectionWriter :=
  let answer := writeWriterParts writer.state.io header.encode call.parts
    writer.transport call.answers
  let sent :=
    { writer with
      state := { writer.state with sendSequence := header.sequence }
      shutdownRequested := writer.loads call 4
      transport := answer.1 }
  match answer.2 with
  | .pending => (.blocked, { sent with lock := .held })
  | .panicked => (.panicked, { sent with lock := .poisoned })
  | .finished written =>
      if writer.loads call 3 then
        (.failed writerClosedError, { sent with state := sent.state.close })
      else
        match written with
        | .error error => (.failed error, sent)
        | .ok () =>
            let counted :=
              { sent with
                state :=
                  { sent.state with
                    unflushedRecords :=
                      (checkedAdd sent.state.unflushedRecords 1).getD
                        sent.state.unflushedRecords } }
            if counted.state.mustFlush call then
              counted.flushing call.flushed (endRecord header.sequence (writer.loads call 4))
            else (.sequence header.sequence, counted)

def writeRecordPartsInner (writer : ConnectionWriter) (call : WriteCall) :
    Reply × ConnectionWriter :=
  match writer.startRecord call with
  | .error reply => (reply, { writer with shutdownRequested := writer.loads call 4 })
  | .ok header => writer.sendRecord call header

/-! ## The other operations -/

/-- Takes the lock of a writer that is open. -/
def whenOpen (writer : ConnectionWriter) (action : Reply × ConnectionWriter) :
    Reply × ConnectionWriter :=
  match writer.lock with
  | .held => (.blocked, writer)
  | .poisoned => (.failed lockPoisonedError, writer)
  | .free =>
      if writer.state.closed || writer.shutdownRequested then
        (.failed writerClosedError, writer)
      else action

/-- The end of a flush outside a record, with the update a success makes. -/
def endFlush (update : WriterState → WriterState) (writer : ConnectionWriter)
    (flushed : Except IoError Unit) : Reply × ConnectionWriter :=
  match flushed with
  | .error error => (.failed error, writer)
  | .ok () =>
      (.done,
        { writer with state := update { writer.state with unflushedRecords := 0 } })

def setFlushMode (writer : ConnectionWriter) (mode : FlushMode)
    (flushed : Option (Except IoError Unit)) : Reply × ConnectionWriter :=
  writer.whenOpen
    (if mode = .immediate ∧ writer.state.unflushedRecords ≠ 0 then
      writer.flushing flushed (endFlush (fun state => { state with flushMode := mode }))
    else (.done, { writer with state := { writer.state with flushMode := mode } }))

def flush (writer : ConnectionWriter) (flushed : Option (Except IoError Unit)) :
    Reply × ConnectionWriter :=
  writer.whenOpen (writer.flushing flushed (endFlush id))

def setSendBodyLimit (writer : ConnectionWriter) (maximum : UInt32) :
    Reply × ConnectionWriter :=
  if maximum = 0 ∨ HARD_MAX_RECORD_BODY < maximum then
    (.failed ⟨.invalidInput, "invalid record-body limit"⟩, writer)
  else
    writer.whenOpen
      (.done, { writer with state := { writer.state with sendBodyLimit := maximum } })

def ofResult : Except IoError Unit → Reply
  | .ok () => .done
  | .error error => .failed error

/-- The rest of a `shutdown` whose swap found the flag clear.  Only a writer
with a native handle does not wait for the lock. -/
def shutdownState (writer : ConnectionWriter) (native : Except IoError Unit) :
    Reply × ConnectionWriter :=
  let result : Except IoError Unit := if writer.nativeShutdown then native else .ok ()
  match writer.lock with
  | .held =>
      if writer.nativeShutdown then (ofResult result, writer) else (.blocked, writer)
  | .poisoned => (.failed lockPoisonedError, writer)
  | .free => (ofResult result, { writer with state := writer.state.close })

end ConnectionWriter

/-! ## Runs -/

/-- `shutdown` is its swap of the flag and, later, the rest: other calls come
between the two. -/
inductive WriterOperation where
  | writeRecordParts (call : WriteCall)
  | setFlushMode (mode : FlushMode) (flushed : Option (Except IoError Unit))
  | flush (flushed : Option (Except IoError Unit))
  | setSendBodyLimit (maximum : UInt32)
  | requestShutdown
  | shutdownState (native : Except IoError Unit)

def ConnectionWriter.apply (writer : ConnectionWriter) :
    WriterOperation → Reply × ConnectionWriter
  | .writeRecordParts call => writer.writeRecordPartsInner call
  | .setFlushMode mode flushed => writer.setFlushMode mode flushed
  | .flush flushed => writer.flush flushed
  | .setSendBodyLimit maximum => writer.setSendBodyLimit maximum
  | .requestShutdown => (.done, { writer with shutdownRequested := true })
  | .shutdownState native => writer.shutdownState native

def writerMachine : Machine ConnectionWriter WriterOperation Reply :=
  { step := ConnectionWriter.apply }

abbrev WriterEvent := Event ConnectionWriter WriterOperation Reply

/-- The record a writer starts on an operation, whether or not it gets through. -/
def ConnectionWriter.starts (writer : ConnectionWriter) : WriterOperation → Option Record
  | .writeRecordParts call =>
      match writer.startRecord call with
      | .ok header => some { header := header, body := call.parts.flatten }
      | .error _ => none
  | _ => none

/-- The records started in a history, in order. -/
def started (history : List WriterEvent) : List Record :=
  history.filterMap (fun event => event.before.starts event.input)

/-- The transport reported a failure to the call. -/
def TransportFailed (event : WriterEvent) : Prop :=
  event.before.transport.failures < event.after.transport.failures

end VividProtocol.Wire
