import Mathlib.Tactic
import VividProtocol.Counters
import VividProtocol.Library.OrderedMap

/-!
# Owner-scoped identities

The identities of `identity.rs` that the modelled state is keyed by.  Each
carries its whole chain of owners, so a number reused under another owner is
another identity.
-/

set_option autoImplicit false

namespace VividProtocol

open Std VividProtocol.Library

/-- The label of what must be nonzero. -/
structure IdentityError where
  label : String
  deriving Repr, DecidableEq

structure PresenterInstanceId where
  bytes : Bytes 16
  deriving Repr, DecidableEq

structure SessionIdentity where
  presenter : PresenterInstanceId
  sessionId : UInt64
  deriving Repr, DecidableEq

structure ContextIdentity where
  session : SessionIdentity
  contextId : UInt64
  deriving Repr, DecidableEq

structure SurfaceIdentity where
  context : ContextIdentity
  surfaceId : UInt64
  deriving Repr, DecidableEq

def nonzero (label : String) (value : UInt64) : Except IdentityError UInt64 :=
  if value = 0 then .error ⟨label⟩ else .ok value

namespace SessionIdentity

def toContext (session : SessionIdentity) (contextId : UInt64) :
    Except IdentityError ContextIdentity := do
  let contextId ← nonzero "context ID" contextId
  return { session := session, contextId := contextId }

end SessionIdentity

namespace ContextIdentity

def toSurface (context : ContextIdentity) (surfaceId : UInt64) :
    Except IdentityError SurfaceIdentity := do
  let surfaceId ← nonzero "surface ID" surfaceId
  return { context := context, surfaceId := surfaceId }

end ContextIdentity

/-! ## The derived orders -/

instance : Ord PresenterInstanceId := ⟨compareOn PresenterInstanceId.bytes⟩

instance : TransOrd PresenterInstanceId := inferInstanceAs (TransCmp (compareOn _))

instance : LawfulEqOrd PresenterInstanceId :=
  lawfulEqCmp_compareOn fun left right same => by
    cases left
    cases right
    exact congrArg _ same

def SessionIdentity.fields (session : SessionIdentity) : PresenterInstanceId × UInt64 :=
  (session.presenter, session.sessionId)

instance : Ord SessionIdentity := ⟨compareOn SessionIdentity.fields⟩

instance : TransOrd SessionIdentity := inferInstanceAs (TransCmp (compareOn _))

instance : LawfulEqOrd SessionIdentity :=
  lawfulEqCmp_compareOn fun left right same => by
    cases left
    cases right
    simpa [SessionIdentity.fields] using same

def SurfaceIdentity.fields (surface : SurfaceIdentity) :
    SessionIdentity × UInt64 × UInt64 :=
  (surface.context.session, surface.context.contextId, surface.surfaceId)

instance : Ord SurfaceIdentity := ⟨compareOn SurfaceIdentity.fields⟩

instance : TransOrd SurfaceIdentity := inferInstanceAs (TransCmp (compareOn _))

instance : LawfulEqOrd SurfaceIdentity :=
  lawfulEqCmp_compareOn fun left right same => by
    obtain ⟨⟨session, contextId⟩, surfaceId⟩ := left
    obtain ⟨⟨session', contextId'⟩, surfaceId'⟩ := right
    simpa [SurfaceIdentity.fields, and_assoc] using same

end VividProtocol
