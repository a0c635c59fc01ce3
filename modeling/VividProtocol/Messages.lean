import Mathlib.Tactic
import VividProtocol.Counters
import VividProtocol.Cbor.Codec
import VividProtocol.Library.Result

/-!
# Message errors and shared checks

The parts of `messages.rs` that the state machines use: the error type with
its schema, key and reason, the payload map, and the checks several schemas
share.
-/

set_option autoImplicit false

namespace VividProtocol

open VividProtocol.Library.Result

inductive MessageError where
  | cbor (message : String)
  | expectedMap (schema : String)
  | missingKey (schema : String) (key : UInt64)
  | unknownKey (schema : String) (key : UInt64)
  | wrongType (schema : String) (key : UInt64)
  | invalidValue (schema : String) (key : UInt64) (reason : String)
  | headerObjectMismatch (header payload : UInt64)
  deriving Repr, DecidableEq

abbrev PayloadMap := List (UInt64 × Cbor.Value)

def invalidValue (schema : String) (key : UInt64) (reason : String) : MessageError :=
  .invalidValue schema key reason

def requireNonzero (schema : String) (key value : UInt64) :
    Except MessageError UInt64 :=
  if value = 0 then .error (invalidValue schema key "must be nonzero") else .ok value

def validateHeaderObject (headerObjectId payloadId : UInt64) :
    Except MessageError Unit :=
  if headerObjectId ≠ payloadId then
    .error (.headerObjectMismatch headerObjectId payloadId)
  else .ok ()

/-- `Result::map_err` with a message error that ignores the cause. -/
def orInvalid {ε α : Type} (schema : String) (key : UInt64) (reason : String) :
    Except ε α → Except MessageError α
  | .ok value => .ok value
  | .error _ => .error (invalidValue schema key reason)

theorem requireNonzero_eq_ok {schema : String} {key value result : UInt64} :
    requireNonzero schema key value = .ok result ↔ value ≠ 0 ∧ result = value := by
  unfold requireNonzero
  rw [ite_error_eq_ok_iff, Except.ok.injEq]
  exact and_congr_right fun _ => eq_comm

theorem requireNonzero_bind_ok {α : Type} {schema : String} {key value : UInt64}
    {rest : UInt64 → Except MessageError α} {result : α}
    (accepted : (requireNonzero schema key value >>= rest) = .ok result) :
    rest value = .ok result := by
  obtain ⟨checked, nonzero, done⟩ := bind_eq_ok_iff.mp accepted
  rw [(requireNonzero_eq_ok.mp nonzero).2] at done
  exact done

theorem validateHeaderObject_self (objectId : UInt64) :
    validateHeaderObject objectId objectId = .ok () := by
  unfold validateHeaderObject
  rw [if_neg (by simp)]

theorem validateHeaderObject_eq_ok {above object : UInt64} {done : Unit} :
    validateHeaderObject above object = .ok done ↔ above = object := by
  unfold validateHeaderObject
  rw [ite_error_eq_ok_iff]
  simp

theorem orInvalid_eq_ok {ε α : Type} {schema : String} {key : UInt64} {reason : String}
    {result : Except ε α} {value : α} :
    orInvalid schema key reason result = .ok value ↔ result = .ok value := by
  cases result <;> simp [orInvalid]

/-! ## Strict maps -/

structure StrictMap where
  schema : String
  entries : PayloadMap

namespace StrictMap

def new (schema : String) (value : Cbor.Value) (allowed : List UInt64) :
    Except MessageError StrictMap :=
  match value with
  | .map entries =>
      match entries.find? fun entry => ! allowed.contains entry.1 with
      | some (key, _) => .error (.unknownKey schema key)
      | none => .ok { schema := schema, entries := entries }
  | _ => .error (.expectedMap schema)

def required (map : StrictMap) (key : UInt64) : Except MessageError Cbor.Value :=
  match map.entries.lookup key with
  | some value => .ok value
  | none => .error (.missingKey map.schema key)

def requiredU64 (map : StrictMap) (key : UInt64) : Except MessageError UInt64 := do
  match (← map.required key).asU64 with
  | some value => .ok value
  | none => .error (.wrongType map.schema key)

def requiredBool (map : StrictMap) (key : UInt64) : Except MessageError Bool := do
  match (← map.required key).asBool with
  | some value => .ok value
  | none => .error (.wrongType map.schema key)

variable {map : StrictMap} {key : UInt64}

theorem requiredU64_of_lookup {value : UInt64}
    (held : map.entries.lookup key = some (.unsigned value)) :
    map.requiredU64 key = .ok value := by
  unfold requiredU64 required
  rw [held]
  rfl

theorem requiredBool_of_lookup {value : Bool}
    (held : map.entries.lookup key = some (.bool value)) :
    map.requiredBool key = .ok value := by
  unfold requiredBool required
  rw [held]
  rfl

end StrictMap

end VividProtocol
