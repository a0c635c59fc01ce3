import Mathlib.Tactic
import VividProtocol.Counters
import VividProtocol.Library.Template

/-!
# Trace records and their lines

The records of `trace.rs` and the line of JSON each is written as.  A line is kept
as its characters.
-/

set_option autoImplicit false

namespace VividProtocol.Trace

open VividProtocol.Library.Template

def TRACE_VERSION : UInt64 := 1

inductive TraceComponent where
  | protocol
  | sdk
  | vivido
  | vvmux
  | vvbridge
  | vivi
  | vvrd
  | veston
  | vvsway
  deriving Repr, DecidableEq

def TraceComponent.name : TraceComponent → String
  | .protocol => "vivid_protocol"
  | .sdk => "vivid_sdk"
  | .vivido => "vivido"
  | .vvmux => "vvmux"
  | .vvbridge => "vvbridge"
  | .vivi => "vivi"
  | .vvrd => "vvrd"
  | .veston => "veston"
  | .vvsway => "vvsway"

inductive TraceHop where
  | producer
  | presenter
  | inner
  | outer
  | relay
  | browser
  | «local»
  deriving Repr, DecidableEq

def TraceHop.name : TraceHop → String
  | .producer => "producer"
  | .presenter => "presenter"
  | .inner => "inner"
  | .outer => "outer"
  | .relay => "relay"
  | .browser => "browser"
  | .local => "local"

inductive TraceDirection where
  | send
  | receive
  | map
  | «local»
  deriving Repr, DecidableEq

def TraceDirection.name : TraceDirection → String
  | .send => "send"
  | .receive => "receive"
  | .map => "map"
  | .local => "local"

inductive TraceObjectKind where
  | session
  | surface
  | track
  | node
  | transaction
  | context
  | lease
  | anchor
  | connection
  | trace
  deriving Repr, DecidableEq

def TraceObjectKind.name : TraceObjectKind → String
  | .session => "session"
  | .surface => "surface"
  | .track => "track"
  | .node => "node"
  | .transaction => "transaction"
  | .context => "context"
  | .lease => "lease"
  | .anchor => "anchor"
  | .connection => "connection"
  | .trace => "trace"

inductive TraceOutcome where
  | ok
  | error
  | dropped
  | restricted
  | state
  deriving Repr, DecidableEq

def TraceOutcome.name : TraceOutcome → String
  | .ok => "ok"
  | .error => "error"
  | .dropped => "dropped"
  | .restricted => "restricted"
  | .state => "state"

structure TraceRecord where
  monotonicTsUs : UInt64
  component : TraceComponent
  hop : TraceHop
  direction : TraceDirection
  recordType : UInt16
  bodyLength : UInt64
  connectionSequence : UInt64
  objectKind : TraceObjectKind
  objectId : Option UInt64
  requestId : Option UInt64
  causationId : Option (Bytes 16)
  localSessionHint : Bytes 16
  outcome : TraceOutcome
  deriving Repr, DecidableEq

/-! ## Values of a line -/

/-- `Display` of an unsigned integer. -/
def decimal (value : Nat) : List Char := Nat.toDigits 10 value

def hexDigit (value : UInt8) : Char :=
  if value < 10 then Char.ofNat (48 + value.toNat) else Char.ofNat (87 + value.toNat)

def hex (bytes : List UInt8) : List Char :=
  bytes.flatMap fun (byte : UInt8) => [hexDigit (byte >>> 4), hexDigit (byte &&& 0x0f)]

def optionalU64 (value : Option UInt64) : List Char :=
  (value.map fun value => decimal value.toNat).getD "null".toList

def optionalCausation (value : Option (Bytes 16)) : List Char :=
  (value.map fun value => "\"".toList ++ hex value.toList ++ "\"".toList).getD "null".toList

/-- What ends a line. -/
def newline : Char := Char.ofNat 10

namespace TraceRecord

/-- What is filled in, each value before the text that follows it. -/
def parts (record : TraceRecord) : List (List Char × List Char) :=
  [(decimal TRACE_VERSION.toNat, ",\"monotonic_ts_us\":".toList),
    (decimal record.monotonicTsUs.toNat,
      ",\"clock_domain\":\"process_monotonic\",\"component\":\"".toList),
    (record.component.name.toList, "\",\"hop\":\"".toList),
    (record.hop.name.toList, "\",\"direction\":\"".toList),
    (record.direction.name.toList, "\",\"record_type\":".toList),
    (decimal record.recordType.toNat, ",\"body_length\":".toList),
    (decimal record.bodyLength.toNat, ",\"connection_sequence\":".toList),
    (decimal record.connectionSequence.toNat, ",\"object_kind\":\"".toList),
    (record.objectKind.name.toList, "\",\"object_id\":".toList),
    (optionalU64 record.objectId, ",\"request_id\":".toList),
    (optionalU64 record.requestId, ",\"causation_id\":".toList),
    (optionalCausation record.causationId, ",\"local_session_hint\":\"".toList),
    (hex record.localSessionHint.toList, "\",\"outcome\":\"".toList),
    (record.outcome.name.toList, "\"\x7d\n".toList)]

def ndjsonLine (record : TraceRecord) : List Char :=
  fill "\x7b\"version\":".toList record.parts

end TraceRecord

/-! ## Each value is known -/

theorem decimal_inj {first second : Nat} (same : decimal first = decimal second) :
    first = second := by
  have read : ∀ value, Nat.ofDigitChars 10 (decimal value) 0 = value := fun value =>
    Nat.ofDigitChars_toDigits (by decide) (by decide)
  rw [← read first, same, read]

theorem hexDigit_inj {first second : UInt8} (small : first < 16) (low : second < 16)
    (same : hexDigit first = hexDigit second) : first = second := by
  have all : ∀ left right : Fin 16,
      hexDigit (UInt8.ofNat left) = hexDigit (UInt8.ofNat right) → left = right := by decide
  have below : ∀ {value : UInt8}, value < 16 → value.toNat < 16 := UInt8.lt_iff_toNat_lt.mp
  have found := all ⟨first.toNat, below small⟩ ⟨second.toNat, below low⟩
    (by simpa [UInt8.ofNat_toNat] using same)
  exact UInt8.toNat_inj.mp (Fin.mk.inj found)

theorem nibbles (byte : UInt8) :
    (byte >>> 4).toNat = byte.toNat / 16 ∧ (byte &&& 0x0f).toNat = byte.toNat % 16 := by
  constructor
  · rw [UInt8.toNat_shiftRight, Nat.shiftRight_eq_div_pow]
    rfl
  · rw [UInt8.toNat_and]
    exact Nat.and_two_pow_sub_one_eq_mod byte.toNat 4

theorem nibbles_small (byte : UInt8) : byte >>> 4 < 16 ∧ byte &&& 0x0f < 16 := by
  obtain ⟨high, low⟩ := nibbles byte
  have bound := byte.toNat_lt
  have sixteen : (16 : UInt8).toNat = 16 := rfl
  rw [UInt8.lt_iff_toNat_lt, UInt8.lt_iff_toNat_lt, high, low, sixteen]
  omega

theorem hex_inj {first second : List UInt8} (same : hex first = hex second) : first = second := by
  induction first generalizing second with
  | nil =>
      cases second with
      | nil => rfl
      | cons byte rest => cases same
  | cons byte rest ih =>
      cases second with
      | nil => cases same
      | cons other others =>
          unfold hex at same ih
          simp only [List.flatMap_cons, List.cons_append, List.nil_append, List.cons.injEq] at same
          obtain ⟨high, low, later⟩ := same
          have highs := hexDigit_inj (nibbles_small byte).1 (nibbles_small other).1 high
          have lows := hexDigit_inj (nibbles_small byte).2 (nibbles_small other).2 low
          have upper := congrArg UInt8.toNat highs
          have lower := congrArg UInt8.toNat lows
          rw [(nibbles byte).1, (nibbles other).1] at upper
          rw [(nibbles byte).2, (nibbles other).2] at lower
          have bytes : byte = other := UInt8.toNat_inj.mp (by omega)
          rw [bytes, ih later]

/-! ## Which characters a value holds -/

/-- Letters, digits and underscores. -/
def plain (char : Char) : Bool := char.isAlphanum || char == '_'

def Plain (value : List Char) : Prop := ∀ char ∈ value, plain char = true

theorem plain_decimal (value : Nat) : Plain (decimal value) := by
  intro char among
  have digit : char.isDigit = true := Nat.isDigit_of_mem_toDigits (by decide) (by decide) among
  simp [plain, Char.isAlphanum, digit]

theorem plain_hexDigit {value : UInt8} (small : value < 16) : plain (hexDigit value) = true := by
  have all : ∀ value : Fin 16, plain (hexDigit (UInt8.ofNat value)) = true := by decide
  simpa [UInt8.ofNat_toNat] using all ⟨value.toNat, UInt8.lt_iff_toNat_lt.mp small⟩

theorem plain_hex (bytes : List UInt8) : Plain (hex bytes) := by
  intro char among
  obtain ⟨byte, -, which⟩ := List.mem_flatMap.mp among
  simp only [List.mem_cons, List.not_mem_nil, or_false] at which
  rcases which with rfl | rfl
  · exact plain_hexDigit (nibbles_small byte).1
  · exact plain_hexDigit (nibbles_small byte).2

theorem plain_of_all {text : List Char} (all : text.all plain = true) : Plain text := by
  intro char among
  exact List.all_eq_true.mp all char among

theorem plain_null : Plain "null".toList := plain_of_all (by decide)

theorem plain_optionalU64 (value : Option UInt64) : Plain (optionalU64 value) := by
  cases value with
  | none => exact plain_null
  | some value => exact plain_decimal value.toNat

theorem optionalU64_inj {first second : Option UInt64}
    (same : optionalU64 first = optionalU64 second) : first = second := by
  have apart : ∀ value : UInt64, decimal value.toNat ≠ "null".toList := by
    intro value same
    have letter : 'n' ∈ decimal value.toNat := by
      rw [same]
      decide
    exact absurd (Nat.isDigit_of_mem_toDigits (by decide) (by decide) letter) (by decide)
  cases first with
  | none =>
      cases second with
      | none => rfl
      | some value => exact absurd same.symm (apart value)
  | some value =>
      cases second with
      | none => exact absurd same (apart value)
      | some other => rw [UInt64.toNat_inj.mp (decimal_inj same)]

theorem optionalCausation_inj {first second : Option (Bytes 16)}
    (same : optionalCausation first = optionalCausation second) : first = second := by
  have apart : ∀ value : Bytes 16, optionalCausation (some value) ≠ optionalCausation none := by
    intro value same
    have head : '"' = 'n' := List.head_eq_of_cons_eq same
    exact absurd head (by decide)
  cases first with
  | none =>
      cases second with
      | none => rfl
      | some value => exact absurd same.symm (apart value)
  | some value =>
      cases second with
      | none => exact absurd same (apart value)
      | some other =>
          have inner := List.append_cancel_left (List.append_cancel_right same)
          rw [Vector.toList_inj.mp (hex_inj inner)]

/-- The names of a vocabulary are different words. -/
structure Named {τ : Type} (name : τ → String) : Prop where
  injective : ∀ {first second}, name first = name second → first = second
  plain : ∀ value, Plain (name value).toList

theorem named_component : Named TraceComponent.name where
  injective := by
    intro first second same
    cases first <;> cases second <;> first | rfl | (exact absurd same (by decide))
  plain component := by
    apply plain_of_all
    cases component <;> rfl

theorem named_hop : Named TraceHop.name where
  injective := by
    intro first second same
    cases first <;> cases second <;> first | rfl | (exact absurd same (by decide))
  plain hop := by
    apply plain_of_all
    cases hop <;> rfl

theorem named_direction : Named TraceDirection.name where
  injective := by
    intro first second same
    cases first <;> cases second <;> first | rfl | (exact absurd same (by decide))
  plain direction := by
    apply plain_of_all
    cases direction <;> rfl

theorem named_objectKind : Named TraceObjectKind.name where
  injective := by
    intro first second same
    cases first <;> cases second <;> first | rfl | (exact absurd same (by decide))
  plain kind := by
    apply plain_of_all
    cases kind <;> rfl

theorem named_outcome : Named TraceOutcome.name where
  injective := by
    intro first second same
    cases first <;> cases second <;> first | rfl | (exact absurd same (by decide))
  plain outcome := by
    apply plain_of_all
    cases outcome <;> rfl

/-! ## Lines -/

theorem Plain.closes {value text : List Char} (plained : Plain value)
    (strange : ∃ mark rest, text = mark :: rest ∧ plain mark = false) : Closes value text := by
  obtain ⟨mark, rest, same, other⟩ := strange
  refine ⟨mark, rest, same, fun among => ?_⟩
  rw [plained mark among] at other
  cases other

namespace TraceRecord

/-- A causation is plain but for its quotes. -/
theorem not_mem_causation {mark : Char} (strange : plain mark = false)
    (other : mark ∉ "\"".toList) (value : Option (Bytes 16)) :
    mark ∉ optionalCausation value := by
  intro among
  have plained : ∀ {text : List Char}, Plain text → mark ∉ text := by
    intro text plained inside
    rw [plained mark inside] at strange
    cases strange
  cases value with
  | none => exact plained plain_null among
  | some value =>
      have within : mark ∈ "\"".toList ++ hex value.toList ++ "\"".toList := among
      rcases List.mem_append.mp within with front | back
      · rcases List.mem_append.mp front with quote | digit
        · exact other quote
        · exact plained (plain_hex _) digit
      · exact other back

theorem causation_closes (value : Option (Bytes 16)) {text : List Char}
    (comma : ∃ rest, text = ',' :: rest) : Closes (optionalCausation value) text := by
  obtain ⟨rest, same⟩ := comma
  exact ⟨',', rest, same, not_mem_causation (by decide) (by decide) value⟩

theorem parts_closed (record : TraceRecord) : ∀ part ∈ record.parts, Closes part.1 part.2 := by
  simp only [parts, List.forall_mem_cons]
  exact ⟨(plain_decimal _).closes ⟨_, _, rfl, rfl⟩, (plain_decimal _).closes ⟨_, _, rfl, rfl⟩,
    (named_component.plain _).closes ⟨_, _, rfl, rfl⟩, (named_hop.plain _).closes ⟨_, _, rfl, rfl⟩,
    (named_direction.plain _).closes ⟨_, _, rfl, rfl⟩, (plain_decimal _).closes ⟨_, _, rfl, rfl⟩,
    (plain_decimal _).closes ⟨_, _, rfl, rfl⟩, (plain_decimal _).closes ⟨_, _, rfl, rfl⟩,
    (named_objectKind.plain _).closes ⟨_, _, rfl, rfl⟩,
    (plain_optionalU64 _).closes ⟨_, _, rfl, rfl⟩, (plain_optionalU64 _).closes ⟨_, _, rfl, rfl⟩,
    causation_closes _ ⟨_, rfl⟩, (plain_hex _).closes ⟨_, _, rfl, rfl⟩,
    (named_outcome.plain _).closes ⟨_, _, rfl, rfl⟩, nofun⟩

theorem ndjsonLine_inj {first second : TraceRecord} (same : first.ndjsonLine = second.ndjsonLine) :
    first = second := by
  have texts : first.parts.map Prod.snd = second.parts.map Prod.snd := rfl
  have parts := fill_inj texts first.parts_closed second.parts_closed same
  simp only [TraceRecord.parts, List.cons.injEq, Prod.mk.injEq, and_true, true_and,
    String.toList_inj] at parts
  obtain ⟨ts, component, hop, direction, recordType, length, sequence, kind, object, request,
    causation, hint, outcome⟩ := parts
  cases first
  cases second
  simp only [TraceRecord.mk.injEq]
  exact ⟨UInt64.toNat_inj.mp (decimal_inj ts), named_component.injective component,
    named_hop.injective hop, named_direction.injective direction,
    UInt16.toNat_inj.mp (decimal_inj recordType), UInt64.toNat_inj.mp (decimal_inj length),
    UInt64.toNat_inj.mp (decimal_inj sequence), named_objectKind.injective kind,
    optionalU64_inj object, optionalU64_inj request, optionalCausation_inj causation,
    Vector.toList_inj.mp (hex_inj hint), named_outcome.injective outcome⟩

/-- The line without its end. -/
def body (record : TraceRecord) : List Char :=
  fill "\x7b\"version\":".toList
    (record.parts.dropLast ++ [(record.outcome.name.toList, "\"\x7d".toList)])

theorem ndjsonLine_eq (record : TraceRecord) : record.ndjsonLine = record.body ++ [newline] := by
  have shape : record.parts = record.parts.dropLast ++
      [(record.outcome.name.toList, "\"\x7d".toList ++ [newline])] := rfl
  rw [ndjsonLine, shape, fill_append]
  rfl

/-- No line is broken by what it holds. -/
theorem newline_free (record : TraceRecord) : newline ∉ record.body := by
  have plained : ∀ {value : List Char}, Plain value → newline ∉ value := by
    intro value plained among
    exact absurd (plained newline among) (by decide)
  have clear : ∀ part ∈ record.parts.dropLast ++ [(record.outcome.name.toList, "\"\x7d".toList)],
      newline ∉ part.1 ∧ newline ∉ part.2 := by
    simp only [parts, List.dropLast, List.cons_append, List.nil_append, List.forall_mem_cons]
    exact ⟨⟨plained (plain_decimal _), by decide⟩, ⟨plained (plain_decimal _), by decide⟩,
      ⟨plained (named_component.plain _), by decide⟩, ⟨plained (named_hop.plain _), by decide⟩,
      ⟨plained (named_direction.plain _), by decide⟩, ⟨plained (plain_decimal _), by decide⟩,
      ⟨plained (plain_decimal _), by decide⟩, ⟨plained (plain_decimal _), by decide⟩,
      ⟨plained (named_objectKind.plain _), by decide⟩, ⟨plained (plain_optionalU64 _), by decide⟩,
      ⟨plained (plain_optionalU64 _), by decide⟩,
      ⟨not_mem_causation (by decide) (by decide) _, by decide⟩,
      ⟨plained (plain_hex _), by decide⟩, ⟨plained (named_outcome.plain _), by decide⟩, nofun⟩
  intro among
  rcases mem_fill.mp among with start | ⟨part, inside, held | held⟩
  · exact absurd start (by decide)
  · exact (clear part inside).1 held
  · exact (clear part inside).2 held

end TraceRecord

/-- A trace can be read back: the lines of different records differ, also when they are
written one after another, and a line ends only where its record does. -/
theorem trace_lines_unambiguous :
    (∀ records others : List TraceRecord,
      records.flatMap TraceRecord.ndjsonLine = others.flatMap TraceRecord.ndjsonLine ↔
        records = others) ∧
    ∀ record : TraceRecord, ∃ body, record.ndjsonLine = body ++ [newline] ∧ newline ∉ body := by
  have ends : ∀ record : TraceRecord,
      ∃ body, record.ndjsonLine = body ++ [newline] ∧ newline ∉ body :=
    fun record => ⟨record.body, record.ndjsonLine_eq, record.newline_free⟩
  refine ⟨fun records others => ⟨lines_inj ends TraceRecord.ndjsonLine_inj, ?_⟩, ends⟩
  exact congrArg (List.flatMap TraceRecord.ndjsonLine)

end VividProtocol.Trace
