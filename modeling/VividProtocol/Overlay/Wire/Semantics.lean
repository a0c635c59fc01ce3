import Mathlib.Tactic
import VividProtocol.Overlay.Wire.Fields

/-!
# Semantic trees

The accessibility tree of a scene, its checks from `overlay.rs` and its codec
from `overlay/wire.rs`.  A node's optional keys are absent rather than empty,
so a node reads back from exactly the keys it needs.
-/

set_option autoImplicit false

namespace VividProtocol.Overlay.Wire

open VividProtocol.Cbor
open VividProtocol.Library.Result
open VividProtocol.Library.Codec

def MAX_SEMANTIC_NODES : Nat := 256
def MAX_SEMANTIC_DEPTH : Nat := 32
def MAX_SEMANTIC_TEXT_BYTES : Nat := 256
def MAX_SEMANTIC_ACTIONS : Nat := 7

/-! ## Nodes -/

inductive SemanticRole where
  | generic
  | application
  | group
  | heading
  | text
  | button
  | switch
  | checkBox
  | radioButton
  | textInput
  | slider
  | spinButton
  | progressIndicator
  | list
  | listItem
  | image
  | link
  | dialog
  | tab
  | separator
  deriving Repr, DecidableEq

namespace SemanticRole

def ALL : List SemanticRole :=
  [.generic, .application, .group, .heading, .text, .button, .switch, .checkBox, .radioButton,
    .textInput, .slider, .spinButton, .progressIndicator, .list, .listItem, .image, .link,
    .dialog, .tab, .separator]

/-- The declaration order. -/
def index (role : SemanticRole) : UInt64 := UInt64.ofNat role.ctorIdx

def fromIndex (index : UInt64) : Option SemanticRole := ALL[index.toNat]?

theorem fromIndex_index (role : SemanticRole) : fromIndex role.index = some role := by
  cases role <;> rfl

end SemanticRole

def actionIndex (action : AccessibleAction) : UInt64 := UInt64.ofNat action.ctorIdx

/-- `AccessibleAction::from_index`. -/
def actionFromIndex (index : UInt64) : Option AccessibleAction :=
  [AccessibleAction.default, .focus, .click, .increment, .decrement, .expand,
    .collapse][index.toNat]?

theorem actionFromIndex_actionIndex (action : AccessibleAction) :
    actionFromIndex (actionIndex action) = some action := by
  cases action <;> rfl

inductive Toggled where
  | off
  | on
  | mixed
  deriving Repr, DecidableEq

def Toggled.index : Toggled → UInt64
  | .off => 0
  | .on => 1
  | .mixed => 2

structure SemanticNode where
  id : UInt64
  role : SemanticRole
  bounds : Rect
  label : String
  numeric : Option (Scalar × Scalar × Scalar)
  level : Option UInt8
  set : Option (UInt16 × UInt16)
  toggled : Option Toggled
  disabled : Bool
  actions : List AccessibleAction
  children : List UInt32
  deriving Repr, DecidableEq

structure Semantics where
  sceneRevision : UInt64
  nodes : List SemanticNode
  deriving Repr, DecidableEq

/-! ## The checks of a tree -/

namespace Semantics

variable (validRect : Rect → Except InvalidScene Unit)

/-- The loop over single nodes, with the identities it has seen. -/
def validateNodes : List UInt64 → List SemanticNode → Except InvalidScene Unit
  | _, [] => .ok ()
  | identities, node :: rest =>
      if node.id = 0 ∨ node.id ∈ identities then
        .error ⟨"semantic node IDs must be nonzero and unique"⟩
      else do
        validRect node.bounds
        if MAX_SEMANTIC_TEXT_BYTES < node.label.utf8ByteSize then
          .error ⟨"semantic node label exceeds its ceiling"⟩
        else if MAX_SEMANTIC_ACTIONS < node.actions.length then
          .error ⟨"semantic node lists too many actions"⟩
        else if node.set.any fun pair =>
            decide (pair.1 = 0) || decide (pair.2 = 0) || decide (pair.2 < pair.1) then
          .error ⟨"semantic set position must be within its size"⟩
        else validateNodes (node.id :: identities) rest

/-- The children of the node at an index take their places. -/
def claimChildren (index : Nat) :
    List Nat → Array Bool → List UInt32 → Except InvalidScene (Array Bool)
  | _, claimed, [] => .ok claimed
  | seen, claimed, child :: rest =>
      if child.toNat ≤ index ∨ claimed.size ≤ child.toNat ∨ child.toNat ∈ seen then
        .error ⟨"semantic children must follow their parent and be listed once"⟩
      else if claimed.getD child.toNat false then
        .error ⟨"a semantic node has two parents"⟩
      else
        claimChildren index (child.toNat :: seen) (claimed.setIfInBounds child.toNat true) rest

def claimNodes : Nat → Array Bool → List SemanticNode → Except InvalidScene (Array Bool)
  | _, claimed, [] => .ok claimed
  | index, claimed, node :: rest => do
      let claimed ← claimChildren index [] claimed node.children
      claimNodes (index + 1) claimed rest

def deepenChildren (index : Nat) : Array Nat → List UInt32 → Except InvalidScene (Array Nat)
  | depth, [] => .ok depth
  | depth, child :: rest =>
      let below := depth.getD index 0 + 1
      if MAX_SEMANTIC_DEPTH < below then .error ⟨"semantic tree is too deep"⟩
      else deepenChildren index (depth.setIfInBounds child.toNat below) rest

def deepenNodes : Nat → Array Nat → List SemanticNode → Except InvalidScene (Array Nat)
  | _, depth, [] => .ok depth
  | index, depth, node :: rest => do
      let depth ← deepenChildren index depth node.children
      deepenNodes (index + 1) depth rest

def validate (semantics : Semantics) : Except InvalidScene Unit :=
  if semantics.sceneRevision = 0 then
    .error ⟨"semantics require a published scene revision"⟩
  else if semantics.nodes = [] ∨ MAX_SEMANTIC_NODES < semantics.nodes.length then
    .error ⟨"semantic tree size is out of range"⟩
  else do
    validateNodes validRect [] semantics.nodes
    let claimed ← claimNodes 0 (Array.replicate semantics.nodes.length false) semantics.nodes
    if claimed.toList.tail.any fun claimed => ! claimed then
      .error ⟨"a semantic node is unreachable from the root"⟩
    else do
      let _ ← deepenNodes 0 (Array.replicate semantics.nodes.length 0) semantics.nodes
      .ok ()

end Semantics

/-! ## Nodes on the wire -/

def labelValue (label : String) : Option Value := if label = "" then none else some (.text label)

def parseLabel : Option Value → Except MessageError String
  | none => .ok ""
  | some (.text text) => .ok text
  | some _ => .error (badOverlay 3 "semantic label must be text")

def numericValue (numeric : Scalar × Scalar × Scalar) : Value :=
  .array [scalar numeric.1, scalar numeric.2.1, scalar numeric.2.2]

def parseNumeric (value : Value) : Except MessageError (Scalar × Scalar × Scalar) := do
  let fields ← array 3 value 4
  let current ← decodeScalar fields[0] 4
  let minimum ← decodeScalar fields[1] 4
  let maximum ← decodeScalar fields[2] 4
  .ok (current, minimum, maximum)

def parseLevel (value : Value) : Except MessageError UInt8 := do
  toU8 (← unsigned value 5) 5 "heading level exceeds u8"

def setValue (set : UInt16 × UInt16) : Value :=
  .array [.unsigned set.1.toUInt64, .unsigned set.2.toUInt64]

/-- The elements of a position in a set. -/
abbrev SET_PARTS : Nat := 2

def parseSet (value : Value) : Except MessageError (UInt16 × UInt16) := do
  let fields ← array SET_PARTS value 6
  let position ← toU16 (← unsigned fields[0] 6) 6 "set position exceeds u16"
  let size ← toU16 (← unsigned fields[1] 6) 6 "set size exceeds u16"
  .ok (position, size)

def parseToggled (value : Value) : Except MessageError Toggled := do
  match ← unsigned value 7 with
  | 0 => .ok .off
  | 1 => .ok .on
  | 2 => .ok .mixed
  | _ => .error (badOverlay 7 "unknown toggled state")

def disabledValue (disabled : Bool) : Option Value :=
  if disabled then some (.bool true) else none

def parseDisabled : Option Value → Except MessageError Bool
  | none => .ok false
  | some value => boolean value 8

/-- A list whose key is absent when it is empty. -/
def listValue {α : Type} (write : α → Value) (values : List α) : Option Value :=
  if values = [] then none else some (.array (values.map write))

def actionValue (action : AccessibleAction) : Value := .unsigned (actionIndex action)

/-- `AccessibleAction::from_index(..).ok_or(..)` in the key of a record. -/
def actionOf (key index : UInt64) : Except MessageError AccessibleAction :=
  match actionFromIndex index with
  | some action => .ok action
  | none => .error (badOverlay key "unknown accessible action")

def parseActions : Option Value → Except MessageError (List AccessibleAction)
  | none => .ok []
  | some value => do
      let list ← arrayAsSlice value 9
      if MAX_SEMANTIC_ACTIONS < list.length then
        .error (badOverlay 9 "semantic node lists too many actions")
      else collect (fun value => do actionOf 9 (← unsigned value 9)) list

def parseChildren : Option Value → Except MessageError (List UInt32)
  | none => .ok []
  | some value => do
      let list ← arrayAsSlice value 10
      collect (fun value => do toU32 (← unsigned value 10) 10 "semantic child index exceeds u32")
        list

namespace SemanticNode

/-- The map of `node_value`. -/
def fields (node : SemanticNode) : PayloadMap :=
  [(0, .unsigned node.id), (1, .unsigned node.role.index), (2, rectangle node.bounds)] ++
  (optionalEntry 3 (labelValue node.label) ++
  (optionalEntry 4 (node.numeric.map numericValue) ++
  (optionalEntry 5 (node.level.map fun level => .unsigned level.toUInt64) ++
  (optionalEntry 6 (node.set.map setValue) ++
  (optionalEntry 7 (node.toggled.map fun toggled => .unsigned toggled.index) ++
  (optionalEntry 8 (disabledValue node.disabled) ++
  (optionalEntry 9 (listValue actionValue node.actions) ++
  optionalEntry 10 (listValue (fun child : UInt32 => .unsigned child.toUInt64)
    node.children))))))))

/-- `node_value`. -/
def toValue (node : SemanticNode) : Value := .map node.fields

/-- `parse_node`. -/
def parse (validRect : Rect → Except InvalidScene Unit) (value : Value) :
    Except MessageError SemanticNode := do
  let map ← strict value [0, 1, 2, 3, 4, 5, 6, 7, 8, 9, 10]
  let id ← map.requiredU64 0
  if id = 0 then .error (badOverlay 0 "semantic node ID must be nonzero")
  else do
    let role ←
      match SemanticRole.fromIndex (← map.requiredU64 1) with
      | some role => .ok role
      | none => .error (badOverlay 1 "unknown semantic role")
    let bounds ← decodeRectangle validRect (← map.required 2) 2
    let label ← parseLabel (optional map 3)
    let numeric ← transpose parseNumeric (optional map 4)
    let level ← transpose parseLevel (optional map 5)
    let set ← transpose parseSet (optional map 6)
    let toggled ← transpose parseToggled (optional map 7)
    let disabled ← parseDisabled (optional map 8)
    let actions ← parseActions (optional map 9)
    let children ← parseChildren (optional map 10)
    .ok
      { id := id
        role := role
        bounds := bounds
        label := label
        numeric := numeric
        level := level
        set := set
        toggled := toggled
        disabled := disabled
        actions := actions
        children := children }

end SemanticNode

/-! ## SetSemantics -/

structure SetSemantics where
  address : WindowAddress
  semantics : Semantics
  deriving Repr, DecidableEq

namespace SetSemantics

variable (validRect : Rect → Except InvalidScene Unit)

def fields (request : SetSemantics) : PayloadMap :=
  request.address.payload ++
    [(3, .unsigned request.semantics.sceneRevision),
      (4, .array (request.semantics.nodes.map SemanticNode.toValue))]

def payload (request : SetSemantics) : Except MessageError PayloadMap := do
  request.address.validate request.address.surfaceId
  orInvalid "overlay" 4 "invalid semantic tree" (request.semantics.validate validRect)
  .ok request.fields

def decode (object : UInt64) (value : Value) : Except MessageError SetSemantics := do
  let map ← strict value [0, 1, 2, 3, 4]
  let address ← WindowAddress.decode object map
  let list ← arrayAsSlice (← map.required 4) 4
  if list.length = 0 ∨ MAX_SEMANTIC_NODES < list.length then
    .error (badOverlay 4 "invalid semantic tree size")
  else do
    let nodes ← collect (SemanticNode.parse validRect) list
    let sceneRevision ← map.requiredU64 3
    let semantics : Semantics := { sceneRevision := sceneRevision, nodes := nodes }
    orInvalid "overlay" 4 "invalid semantic tree" (semantics.validate validRect)
    .ok { address := address, semantics := semantics }

end SetSemantics

/-! ## Nodes read back -/

variable {validRect : Rect → Except InvalidScene Unit}

/-- What the parser of a node demands. -/
structure SemanticNode.Sendable (validRect : Rect → Except InvalidScene Unit)
    (node : SemanticNode) : Prop where
  id : node.id ≠ 0
  bounds : validRect node.bounds = .ok ()
  actions : node.actions.length ≤ MAX_SEMANTIC_ACTIONS

theorem validateNodes_sendable {identities : List UInt64} {nodes : List SemanticNode}
    {done : Unit} (accepted : Semantics.validateNodes validRect identities nodes = .ok done) :
    ∀ node ∈ nodes, node.Sendable validRect := by
  induction nodes generalizing identities with
  | nil => simp
  | cons node rest ih =>
      unfold Semantics.validateNodes at accepted
      simp only [bind_eq_ok_iff, ite_error_eq_ok_iff, not_or, Nat.not_lt] at accepted
      obtain ⟨⟨nonzero, _⟩, _, bounds, _, actions, _, later⟩ := accepted
      intro other among
      rcases List.mem_cons.mp among with here | there
      · rw [here]
        exact ⟨nonzero, bounds, actions⟩
      · exact ih later other there

theorem parseLabel_written (label : String) : parseLabel (labelValue label) = .ok label := by
  by_cases empty : label = "" <;> simp [labelValue, parseLabel, empty]

theorem parseNumeric_written (numeric : Scalar × Scalar × Scalar) :
    parseNumeric (numericValue numeric) = .ok numeric := by
  simp [parseNumeric, numericValue]

theorem parseLevel_written (level : UInt8) :
    parseLevel (.unsigned level.toUInt64) = .ok level := by
  simp [parseLevel]

theorem parseSet_written (set : UInt16 × UInt16) : parseSet (setValue set) = .ok set := by
  simp [parseSet, setValue]

theorem parseToggled_written (toggled : Toggled) :
    parseToggled (.unsigned toggled.index) = .ok toggled := by
  cases toggled <;> rfl

theorem parseDisabled_written (disabled : Bool) :
    parseDisabled (disabledValue disabled) = .ok disabled := by
  cases disabled <;> rfl

theorem actionOf_written (key : UInt64) (action : AccessibleAction) :
    actionOf key (actionIndex action) = .ok action := by
  unfold actionOf
  rw [actionFromIndex_actionIndex]

theorem parseActions_written {actions : List AccessibleAction}
    (few : actions.length ≤ MAX_SEMANTIC_ACTIONS) :
    parseActions (listValue actionValue actions) = .ok actions := by
  by_cases empty : actions = []
  · rw [empty]
    rfl
  · unfold listValue
    rw [if_neg empty]
    unfold parseActions
    simp only [arrayAsSlice_written, ok_bind, List.length_map, if_neg (Nat.not_lt.mpr few)]
    refine collect_map fun action _ => ?_
    rw [actionValue, unsigned_written, ok_bind, actionOf_written]

theorem parseChildren_written (children : List UInt32) :
    parseChildren (listValue (fun child => .unsigned child.toUInt64) children) =
      .ok children := by
  by_cases empty : children = []
  · rw [empty]
    rfl
  · unfold listValue
    rw [if_neg empty]
    unfold parseChildren
    simp only [arrayAsSlice_written, ok_bind]
    refine collect_map fun child _ => ?_
    rw [unsigned_written, ok_bind, toU32_written]

namespace SemanticNode

variable {node : SemanticNode}

theorem fields_keys :
    (node.fields.map Prod.fst).Sublist [0, 1, 2, 3, 4, 5, 6, 7, 8, 9, 10] := by
  simp only [fields, List.map_append]
  exact (List.Sublist.refl [0, 1, 2]).append
    ((optionalEntry_keys 3 _).append ((optionalEntry_keys 4 _).append
      ((optionalEntry_keys 5 _).append ((optionalEntry_keys 6 _).append
        ((optionalEntry_keys 7 _).append ((optionalEntry_keys 8 _).append
          ((optionalEntry_keys 9 _).append (optionalEntry_keys 10 _))))))))

/-- An optional key of a node holds what the node writes there. -/
theorem optional_fields :
    let map : StrictMap := { schema := "overlay", entries := node.fields }
    optional map 3 = labelValue node.label ∧
      optional map 4 = node.numeric.map numericValue ∧
      optional map 5 = node.level.map (fun level => .unsigned level.toUInt64) ∧
      optional map 6 = node.set.map setValue ∧
      optional map 7 = node.toggled.map (fun toggled => .unsigned toggled.index) ∧
      optional map 8 = disabledValue node.disabled ∧
      optional map 9 = listValue actionValue node.actions ∧
      optional map 10 = listValue (fun child => .unsigned child.toUInt64) node.children := by
  simp [optional, fields, List.lookup_append, List.lookup_cons]

theorem Sendable.parse (sendable : node.Sendable validRect) :
    SemanticNode.parse validRect node.toValue = .ok node := by
  obtain ⟨label, numeric, level, set, toggled, disabled, actions, children⟩ :=
    @optional_fields node
  unfold SemanticNode.parse toValue
  rw [strict_ok fields_keys (by decide), ok_bind,
    @StrictMap.requiredU64_of_lookup _ 0 node.id rfl, ok_bind, if_neg sendable.id,
    @StrictMap.requiredU64_of_lookup _ 1 node.role.index rfl, ok_bind,
    SemanticRole.fromIndex_index]
  dsimp only
  rw [ok_bind, required_eq_ok.mpr rfl, ok_bind, decodeRectangle_written sendable.bounds, ok_bind,
    label, parseLabel_written, ok_bind,
    numeric, transpose_map fun numeric _ => parseNumeric_written numeric, ok_bind,
    level, transpose_map fun level _ => parseLevel_written level, ok_bind,
    set, transpose_map fun set _ => parseSet_written set, ok_bind,
    toggled, transpose_map fun toggled _ => parseToggled_written toggled, ok_bind,
    disabled, parseDisabled_written, ok_bind,
    actions, parseActions_written sendable.actions, ok_bind,
    children, parseChildren_written, ok_bind]

end SemanticNode

/-! ## Trees read back -/

namespace SetSemantics

/-- What both sides demand of a request. -/
structure Valid (validRect : Rect → Except InvalidScene Unit) (request : SetSemantics) :
    Prop where
  address : request.address.Named
  semantics : request.semantics.validate validRect = .ok ()

variable {request : SetSemantics}

theorem payload_eq_ok {entries : PayloadMap} :
    request.payload validRect = .ok entries ↔
      request.Valid validRect ∧ request.fields = entries := by
  unfold payload
  simp only [bind_eq_ok_iff, WindowAddress.validate_eq_ok, orInvalid_eq_ok, Except.ok.injEq]
  constructor
  · intro accepted
    obtain ⟨_, ⟨_, named⟩, _, semantics, same⟩ := accepted
    exact ⟨⟨named, semantics⟩, same⟩
  · intro accepted
    obtain ⟨valid, same⟩ := accepted
    exact ⟨(), ⟨trivial, valid.address⟩, (), valid.semantics, same⟩

theorem Valid.nodes (valid : request.Valid validRect) :
    request.semantics.nodes ≠ [] ∧ request.semantics.nodes.length ≤ MAX_SEMANTIC_NODES ∧
      ∀ node ∈ request.semantics.nodes, node.Sendable validRect := by
  have checked := valid.semantics
  unfold Semantics.validate at checked
  simp only [bind_eq_ok_iff, ite_error_eq_ok_iff, not_or, Nat.not_lt] at checked
  obtain ⟨_, ⟨some, few⟩, _, each, _⟩ := checked
  exact ⟨some, few, validateNodes_sendable each⟩

theorem Valid.decode (valid : request.Valid validRect) :
    SetSemantics.decode validRect request.address.surfaceId (.map request.fields) =
      .ok request := by
  obtain ⟨some, few, sendable⟩ := valid.nodes
  have opened : strict (.map request.fields) [0, 1, 2, 3, 4] = .ok _ :=
    strict_ok (List.Sublist.refl _) (by decide)
  have sized : ¬ (request.semantics.nodes.length = 0 ∨
      MAX_SEMANTIC_NODES < request.semantics.nodes.length) := by
    rw [List.length_eq_zero_iff]
    exact not_or.mpr ⟨some, Nat.not_lt.mpr few⟩
  unfold SetSemantics.decode
  rw [opened, ok_bind, fields, valid.address.decode_payload, ok_bind,
    required_eq_ok.mpr rfl, ok_bind, arrayAsSlice_written, ok_bind, List.length_map,
    if_neg sized, collect_map fun node among => (sendable node among).parse, ok_bind,
    @StrictMap.requiredU64_of_lookup _ 3 request.semantics.sceneRevision rfl, ok_bind]
  dsimp only
  rw [orInvalid_eq_ok.mpr valid.semantics, ok_bind]

theorem decode_valid {object : UInt64} {value : Value}
    (accepted : SetSemantics.decode validRect object value = .ok request) :
    object = request.address.surfaceId ∧ request.Valid validRect := by
  unfold SetSemantics.decode at accepted
  simp only [bind_eq_ok_iff, ite_error_eq_ok_iff, orInvalid_eq_ok] at accepted
  obtain ⟨_, _, _, addressed, _, _, _, _, _, _, _, _, _, _, semantics, same⟩ := accepted
  obtain ⟨same', named⟩ := WindowAddress.decode_named addressed
  cases same
  exact ⟨same', named, semantics⟩

end SetSemantics

end VividProtocol.Overlay.Wire
