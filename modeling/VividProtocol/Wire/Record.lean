import Mathlib.Tactic
import VividProtocol.Counters
import VividProtocol.Library.BigEndian

/-!
# Records on the wire

The 24-byte record header of `wire.rs` and the limits both halves of a
connection check.  `Record.encode` is the header followed by the body, which is
what a connection carries for one record.
-/

set_option autoImplicit false

namespace VividProtocol.Wire

open Library.BigEndian

def HEADER_SIZE : Nat := 24
def RECORD_OPTIONAL : UInt16 := 1
def RECORD_KNOWN_FLAGS : UInt16 := RECORD_OPTIONAL
def HARD_MAX_RECORD_BODY : UInt32 := 64 * 1024 * 1024

structure RecordHeader where
  bodyLength : UInt32
  recordType : UInt16
  flags : UInt16
  objectId : UInt64
  sequence : UInt64
  deriving Repr, DecidableEq

namespace RecordHeader

def encode (header : RecordHeader) : List UInt8 :=
  toBytes 4 header.bodyLength.toNat ++ toBytes 2 header.recordType.toNat ++
    toBytes 2 header.flags.toNat ++ toBytes 8 header.objectId.toNat ++
    toBytes 8 header.sequence.toNat

def decode (bytes : List UInt8) : RecordHeader :=
  { bodyLength := UInt32.ofNat (ofBytes (bytes.take 4))
    recordType := UInt16.ofNat (ofBytes ((bytes.drop 4).take 2))
    flags := UInt16.ofNat (ofBytes ((bytes.drop 6).take 2))
    objectId := UInt64.ofNat (ofBytes ((bytes.drop 8).take 8))
    sequence := UInt64.ofNat (ofBytes ((bytes.drop 16).take 8)) }

@[simp] theorem length_encode (header : RecordHeader) :
    header.encode.length = HEADER_SIZE := by
  simp [encode, HEADER_SIZE]

/-- A field of known width starting at a known offset is read back whole. -/
theorem take_drop_field {before field after : List UInt8} {offset width : Nat}
    (start : before.length = offset) (size : field.length = width) :
    ((before ++ field ++ after).drop offset).take width = field := by
  subst start size
  rw [List.append_assoc, List.drop_left, List.take_left]

theorem decode_encode (header : RecordHeader) : decode header.encode = header := by
  have bodyLength := header.bodyLength.toNat_lt
  have recordType := header.recordType.toNat_lt
  have flags := header.flags.toNat_lt
  have objectId := header.objectId.toNat_lt
  have sequence := header.sequence.toNat_lt
  have field : ∀ (before after : List UInt8) (offset width n : Nat),
      before.length = offset → n < 256 ^ width →
      ofBytes (((before ++ toBytes width n ++ after).drop offset).take width) = n := by
    intro before after offset width n start fits
    rw [take_drop_field start (length_toBytes width n), ofBytes_toBytes width n fits]
  have first := field [] (toBytes 2 header.recordType.toNat ++
    (toBytes 2 header.flags.toNat ++ (toBytes 8 header.objectId.toNat ++
      toBytes 8 header.sequence.toNat))) 0 4 header.bodyLength.toNat rfl (by omega)
  have second := field (toBytes 4 header.bodyLength.toNat)
    (toBytes 2 header.flags.toNat ++ (toBytes 8 header.objectId.toNat ++
      toBytes 8 header.sequence.toNat)) 4 2 header.recordType.toNat (by simp) (by omega)
  have third := field (toBytes 4 header.bodyLength.toNat ++ toBytes 2 header.recordType.toNat)
    (toBytes 8 header.objectId.toNat ++ toBytes 8 header.sequence.toNat) 6 2
    header.flags.toNat (by simp) (by omega)
  have fourth := field (toBytes 4 header.bodyLength.toNat ++
    (toBytes 2 header.recordType.toNat ++ toBytes 2 header.flags.toNat))
    (toBytes 8 header.sequence.toNat) 8 8 header.objectId.toNat (by simp) (by omega)
  have fifth := field (toBytes 4 header.bodyLength.toNat ++
    (toBytes 2 header.recordType.toNat ++ (toBytes 2 header.flags.toNat ++
      toBytes 8 header.objectId.toNat))) [] 16 8 header.sequence.toNat (by simp) (by omega)
  simp only [List.nil_append, List.append_nil, List.drop_zero, List.append_assoc]
    at first second third fourth fifth
  simp only [decode, encode, List.append_assoc, first, second, third, fourth, fifth,
    UInt32.ofNat_toNat, UInt16.ofNat_toNat, UInt64.ofNat_toNat]

end RecordHeader

structure Record where
  header : RecordHeader
  body : List UInt8
  deriving Repr, DecidableEq

namespace Record

def encode (record : Record) : List UInt8 := record.header.encode ++ record.body

@[simp] theorem length_encode (record : Record) :
    record.encode.length = HEADER_SIZE + record.body.length := by
  simp [encode]

/-- What both halves of a connection check of a record apart from its place in
the stream. -/
structure WellFormed (record : Record) : Prop where
  flagsKnown : record.header.flags &&& ~~~ RECORD_KNOWN_FLAGS = 0
  bodyLength : record.header.bodyLength.toNat = record.body.length
  bounded : record.header.bodyLength ≤ HARD_MAX_RECORD_BODY

/-- The record the sequence counter puts right after a given one. -/
def Follows (sequence : UInt64) (record : Record) : Prop :=
  record.WellFormed ∧ checkedAdd sequence 1 = some record.header.sequence

end Record

end VividProtocol.Wire
