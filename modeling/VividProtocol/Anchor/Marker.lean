import Mathlib.Tactic
import VividProtocol.Auth.Transcript
import VividProtocol.Library.Base64Url
import VividProtocol.Library.Result

/-!
# Anchor markers

The markers of `anchor.rs`: an authenticated line of printable fields, bare or in
the envelope that ConPTY passes through.  Text is its UTF-8 bytes.
-/

set_option autoImplicit false

namespace VividProtocol.Anchor

open VividProtocol.Library
open VividProtocol.Cbor
open VividProtocol.Auth
open VividProtocol.Library.Result

def MAX_MARKER_BYTES : Nat := 192

/-! ## Text -/

/-- `u8::is_ascii_digit`. -/
def isDigit (byte : UInt8) : Bool := decide (48 ≤ byte) && decide (byte ≤ 57)

/-- `u8::is_ascii_hexdigit`. -/
def isHexDigit (byte : UInt8) : Bool :=
  isDigit byte || (decide (97 ≤ byte) && decide (byte ≤ 102)) ||
    (decide (65 ≤ byte) && decide (byte ≤ 70))

/-- `u8::is_ascii_alphanumeric`. -/
def isAlphanumeric (byte : UInt8) : Bool :=
  isDigit byte || (decide (97 ≤ byte) && decide (byte ≤ 122)) ||
    (decide (65 ≤ byte) && decide (byte ≤ 90))

/-- `is_ascii_alphanumeric() || matches!(byte, b'-' | b'_')`. -/
def isUrlSafe (byte : UInt8) : Bool :=
  isAlphanumeric byte || decide (byte = 45) || decide (byte = 95)

/-- `is_ascii`. -/
def isAscii (text : List UInt8) : Bool := text.all fun byte => decide (byte < 128)

/-- The engine `URL_SAFE_NO_PAD` of the `base64` crate, with what is relied on: it
decodes what it encodes, four letters stand for three bytes, and its alphabet. -/
structure UrlSafeNoPad where
  encode : List UInt8 → List UInt8
  decode : List UInt8 → Option (List UInt8)
  decode_encode : ∀ bytes, decode (encode bytes) = some bytes
  length_encode : ∀ bytes, (encode bytes).length = (4 * bytes.length + 2) / 3
  alphabet_encode : ∀ bytes byte, byte ∈ encode bytes → isUrlSafe byte = true
  alphabet_decode : ∀ text bytes, decode text = some bytes →
    ∀ byte ∈ text, isUrlSafe byte = true

theorem isUrlSafe_of_isLetter {byte : UInt8} (letter : Base64Url.isLetter byte = true) :
    isUrlSafe byte = true := by
  unfold Base64Url.isLetter Base64Url.bits at letter
  unfold isUrlSafe isAlphanumeric isDigit
  grind

/-- The engine as the standard has it. -/
def rfc4648 : UrlSafeNoPad where
  encode := Base64Url.encode
  decode := Base64Url.decode
  decode_encode := Base64Url.decode_encode
  length_encode := Base64Url.length_encode
  alphabet_encode := fun _ _ inside => isUrlSafe_of_isLetter (Base64Url.isLetter_of_encode inside)
  alphabet_decode := fun _ _ read _ inside =>
    isUrlSafe_of_isLetter (Base64Url.isLetter_of_decode read inside)

def hexDigit (value : Nat) : UInt8 :=
  if value < 10 then UInt8.ofNat (value + 48) else UInt8.ofNat (value + 87)

def hexDigits : Nat → Nat → List UInt8
  | 0, _ => []
  | count + 1, value => hexDigit (value / 16 ^ count % 16) :: hexDigits count value

/-- `{value:016x}`. -/
def hex16 (value : UInt64) : List UInt8 := hexDigits 16 value.toNat

def hexValue (byte : UInt8) : Option Nat :=
  if 48 ≤ byte ∧ byte ≤ 57 then some (byte.toNat - 48)
  else if 97 ≤ byte ∧ byte ≤ 102 then some (byte.toNat - 87)
  else if 65 ≤ byte ∧ byte ≤ 70 then some (byte.toNat - 55)
  else none

def hexNumber : List UInt8 → Option Nat
  | [] => some 0
  | byte :: rest => do
      let high ← hexValue byte
      let low ← hexNumber rest
      return high * 16 ^ rest.length + low

/-- `u64::from_str_radix` of base 16, on text that begins with no sign. -/
def fromStrRadix (text : List UInt8) : Option UInt64 := do
  let value ← if text = [] then none else hexNumber text
  if value < 2 ^ 64 then some (UInt64.ofNat value) else none

/-- `try_into` of a vector. -/
def toArray16 (bytes : List UInt8) : Option (Bytes 16) :=
  if size : bytes.length = 16 then some ⟨bytes.toArray, size⟩ else none

/-- `ok_or` and `map_err`. -/
def orError {α : Type} (message : String) : Option α → Except String α
  | some value => .ok value
  | none => .error message

/-! ## Markers -/

structure AnchorMarker where
  sessionTag : Bytes 16
  contextId : UInt64
  anchorId : UInt64
  authenticator : Bytes 16
  deriving DecidableEq

section Markers

variable (base64 : UrlSafeNoPad) (hmac : HmacSha256)

/-- What the source formats between the introducer and the terminator. -/
def markerFields (key sessionTag : List UInt8) (contextId anchorId : UInt64) :
    List (List UInt8) :=
  [textBytes "VIVID", textBytes "3", textBytes "A", base64.encode sessionTag, hex16 contextId,
    hex16 anchorId, base64.encode key]

def encodeMarker (key : Bytes 32) (sessionTag : Bytes 16) (contextId anchorId : UInt64) :
    Except String (List UInt8) :=
  if contextId = 0 ∨ anchorId = 0 then .error "context and anchor IDs must be nonzero"
  else
    let auth := authenticator hmac key sessionTag contextId anchorId
    let marker := [0x1b, 95] ++
      [59].intercalate (markerFields base64 auth.toList sessionTag.toList contextId anchorId) ++
        [0x1b, 92]
    if MAX_MARKER_BYTES < marker.length then .error "anchor marker is oversized" else .ok marker

def encodeConptyMarker (key : Bytes 32) (sessionTag : Bytes 16) (contextId anchorId : UInt64) :
    Except String (List UInt8) := do
  let apc ← encodeMarker base64 hmac key sessionTag contextId anchorId
  let body := (apc.take (apc.length - 2)).drop 2
  let marker := body ++ textBytes ";VIVID-END"
  if MAX_MARKER_BYTES < marker.length then .error "anchor marker is oversized" else .ok marker

def parseMarker (marker : List UInt8) : Except String AnchorMarker :=
  if MAX_MARKER_BYTES - 4 < marker.length ∨ ¬ isAscii marker then
    .error "anchor marker is oversized or non-ASCII"
  else
    let fields := marker.splitOn 59
    if fields[0]? ≠ some (textBytes "VIVID") ∨ fields[1]? ≠ some (textBytes "3") ∨
        fields[2]? ≠ some (textBytes "A") then
      .error "not a Vivid anchor-v3 marker"
    else do
      let tag ← orError "missing session tag" fields[3]?
      let contextId ← orError "missing context ID" fields[4]?
      let anchorId ← orError "missing anchor ID" fields[5]?
      let auth ← orError "missing anchor authenticator" fields[6]?
      if fields[7]?.isSome ∨ tag.length ≠ 22 ∨ contextId.length ≠ 16 ∨
          ¬ contextId.all isHexDigit ∨ anchorId.length ≠ 16 ∨ ¬ anchorId.all isHexDigit ∨
          auth.length ≠ 22 then
        .error "invalid anchor marker field length"
      else do
        let tag ← orError "invalid session tag" (base64.decode tag)
        let auth ← orError "invalid anchor authenticator" (base64.decode auth)
        let contextId ← orError "invalid context ID" (fromStrRadix contextId)
        let anchorId ← orError "invalid anchor ID" (fromStrRadix anchorId)
        if contextId = 0 ∨ anchorId = 0 then .error "context and anchor IDs must be nonzero"
        else do
          let sessionTag ← orError "invalid session tag length" (toArray16 tag)
          let authenticator ← orError "invalid authenticator length" (toArray16 auth)
          return { sessionTag := sessionTag
                   contextId := contextId
                   anchorId := anchorId
                   authenticator := authenticator }

def parseConptyMarker (marker : List UInt8) : Except String AnchorMarker :=
  if MAX_MARKER_BYTES < marker.length ∨ ¬ (textBytes ";VIVID-END").isSuffixOf marker then
    .error "not a bounded Vivid ConPTY anchor-v3 marker"
  else parseMarker base64 (marker.take (marker.length - 10))

def verifyMarker (key : Bytes 32) (marker : AnchorMarker) : Bool :=
  decide (authenticator hmac key marker.sessionTag marker.contextId marker.anchorId =
    marker.authenticator)

end Markers

/-! ## Numbers -/

theorem hexValue_hexDigit {value : Nat} (small : value < 16) :
    hexValue (hexDigit value) = some value ∧ isHexDigit (hexDigit value) = true := by
  have all : ∀ value : Fin 16, hexValue (hexDigit value) = some value.val ∧
      isHexDigit (hexDigit value) = true := by decide
  exact all ⟨value, small⟩

theorem length_hexDigits (count value : Nat) : (hexDigits count value).length = count := by
  induction count with
  | zero => rfl
  | succ count ih => rw [hexDigits, List.length_cons, ih]

theorem hexNumber_hexDigits (count value : Nat) :
    hexNumber (hexDigits count value) = some (value % 16 ^ count) := by
  induction count with
  | zero => simp [hexDigits, hexNumber, Nat.mod_one]
  | succ count ih =>
      have small : value / 16 ^ count % 16 < 16 := Nat.mod_lt _ (by norm_num)
      simp only [hexDigits, hexNumber, (hexValue_hexDigit small).1, ih, length_hexDigits,
        Option.bind_eq_bind, Option.bind_some, Option.pure_def, Option.some.injEq]
      rw [pow_succ, Nat.mod_mul, Nat.mul_comm, Nat.add_comm]

theorem isHexDigit_of_hexDigits {count value : Nat} {byte : UInt8}
    (inside : byte ∈ hexDigits count value) : isHexDigit byte = true := by
  induction count with
  | zero => cases inside
  | succ count ih =>
      rw [hexDigits, List.mem_cons] at inside
      rcases inside with rfl | inside
      · exact (hexValue_hexDigit (Nat.mod_lt _ (by norm_num))).2
      · exact ih inside

theorem length_hex16 (value : UInt64) : (hex16 value).length = 16 := length_hexDigits 16 _

/-- A number that is printed is read back. -/
theorem fromStrRadix_hex16 (value : UInt64) : fromStrRadix (hex16 value) = some value := by
  have small : value.toNat < 16 ^ 16 := value.toNat_lt
  have read := hexNumber_hexDigits 16 value.toNat
  rw [Nat.mod_eq_of_lt small] at read
  have nonempty : hex16 value ≠ [] := by
    intro empty
    have size := length_hex16 value
    rw [empty] at size
    cases size
  unfold fromStrRadix
  rw [if_neg nonempty]
  show (hexNumber (hexDigits 16 value.toNat)).bind _ = _
  rw [read, Option.bind_some]
  dsimp only
  rw [if_pos value.toNat_lt, UInt64.ofNat_toNat]

/-! ## Fields -/

/-- The bytes of a class are printable and are not the separator. -/
theorem ascii_of_hexDigit {byte : UInt8} (digit : isHexDigit byte = true) :
    byte < 128 ∧ byte ≠ 59 := by
  simp only [isHexDigit, isDigit, Bool.or_eq_true, Bool.and_eq_true, decide_eq_true_eq,
    UInt8.le_iff_toNat_le] at digit
  rw [UInt8.lt_iff_toNat_lt, ne_eq, ← UInt8.toNat_inj]
  simp at digit ⊢
  omega

theorem ascii_of_urlSafe {byte : UInt8} (safe : isUrlSafe byte = true) :
    byte < 128 ∧ byte ≠ 59 := by
  simp only [isUrlSafe, isAlphanumeric, isDigit, Bool.or_eq_true, Bool.and_eq_true,
    decide_eq_true_eq, UInt8.le_iff_toNat_le, ← UInt8.toNat_inj] at safe
  rw [UInt8.lt_iff_toNat_lt, ne_eq, ← UInt8.toNat_inj]
  simp at safe ⊢
  omega

/-- The fields of a marker, as the scanner expects them. -/
structure Fields (tag contextId anchorId auth : List UInt8) : Prop where
  tagSize : tag.length = 22
  tagSafe : ∀ byte ∈ tag, isUrlSafe byte = true
  contextSize : contextId.length = 16
  contextHex : ∀ byte ∈ contextId, isHexDigit byte = true
  anchorSize : anchorId.length = 16
  anchorHex : ∀ byte ∈ anchorId, isHexDigit byte = true
  authSize : auth.length = 22
  authSafe : ∀ byte ∈ auth, isUrlSafe byte = true

/-- A marker of the given fields. -/
def markerOf (tag contextId anchorId auth : List UInt8) : List UInt8 :=
  [59].intercalate
    [textBytes "VIVID", textBytes "3", textBytes "A", tag, contextId, anchorId, auth]

theorem textBytes_head :
    textBytes "VIVID;3;A;" = [86, 73, 86, 73, 68, 59, 51, 59, 65, 59] := by decide +kernel

theorem textBytes_vivid : textBytes "VIVID" = [86, 73, 86, 73, 68] := by decide +kernel

theorem textBytes_three : textBytes "3" = [51] := by decide +kernel

theorem textBytes_letter : textBytes "A" = [65] := by decide +kernel

theorem textBytes_suffix :
    textBytes ";VIVID-END" = [59, 86, 73, 86, 73, 68, 45, 69, 78, 68] := by decide +kernel

theorem length_head : (textBytes "VIVID;3;A;").length = 10 := congrArg List.length textBytes_head

theorem length_suffix : (textBytes ";VIVID-END").length = 10 :=
  congrArg List.length textBytes_suffix

theorem markerOf_eq (tag contextId anchorId auth : List UInt8) :
    markerOf tag contextId anchorId auth =
      textBytes "VIVID;3;A;" ++ tag ++ [59] ++ contextId ++ [59] ++ anchorId ++ [59] ++ auth := by
  unfold markerOf
  rw [textBytes_head, textBytes_vivid, textBytes_three, textBytes_letter]
  simp [List.intercalate]

namespace Fields

variable {tag contextId anchorId auth : List UInt8} (fields : Fields tag contextId anchorId auth)

include fields

theorem length : (markerOf tag contextId anchorId auth).length = 89 := by
  simp [markerOf_eq, length_head, fields.tagSize, fields.contextSize, fields.anchorSize,
    fields.authSize]

theorem isAscii : isAscii (markerOf tag contextId anchorId auth) = true := by
  have head : ∀ byte ∈ textBytes "VIVID;3;A;", byte < 128 := by
    rw [textBytes_head]
    decide +kernel
  simp only [Anchor.isAscii, List.all_eq_true, decide_eq_true_eq, markerOf_eq, List.mem_append,
    List.mem_singleton]
  intro byte inside
  rcases inside with ((((((inside | inside) | rfl) | inside) | rfl) | inside) | rfl) | inside
  · exact head byte inside
  · exact (ascii_of_urlSafe (fields.tagSafe byte inside)).1
  · decide
  · exact (ascii_of_hexDigit (fields.contextHex byte inside)).1
  · decide
  · exact (ascii_of_hexDigit (fields.anchorHex byte inside)).1
  · decide
  · exact (ascii_of_urlSafe (fields.authSafe byte inside)).1

theorem splitOn : (markerOf tag contextId anchorId auth).splitOn 59 =
    [textBytes "VIVID", textBytes "3", textBytes "A", tag, contextId, anchorId, auth] := by
  have vivid : 59 ∉ textBytes "VIVID" := by
    rw [textBytes_vivid]
    decide
  have three : 59 ∉ textBytes "3" := by
    rw [textBytes_three]
    decide
  have letter : 59 ∉ textBytes "A" := by
    rw [textBytes_letter]
    decide
  refine List.splitOn_intercalate 59 (fun field inside => ?_) (List.cons_ne_nil _ _)
  simp only [List.mem_cons, List.not_mem_nil, or_false] at inside
  rcases inside with rfl | rfl | rfl | rfl | rfl | rfl | rfl
  · exact vivid
  · exact three
  · exact letter
  · exact fun separator => (ascii_of_urlSafe (fields.tagSafe 59 separator)).2 rfl
  · exact fun separator => (ascii_of_hexDigit (fields.contextHex 59 separator)).2 rfl
  · exact fun separator => (ascii_of_hexDigit (fields.anchorHex 59 separator)).2 rfl
  · exact fun separator => (ascii_of_urlSafe (fields.authSafe 59 separator)).2 rfl

end Fields

/-! ## Parsing -/

section Parsing

variable {base64 : UrlSafeNoPad} {hmac : HmacSha256}

theorem orError_eq_ok {α : Type} {message : String} {found : Option α} {value : α} :
    orError message found = .ok value ↔ found = some value := by
  cases found with
  | none => simp [orError]
  | some other => simp [orError]

theorem toArray16_toList (bytes : Bytes 16) : toArray16 bytes.toList = some bytes := by
  unfold toArray16
  rw [dif_pos bytes.length_toList]
  exact congrArg some (Vector.toList_inj.mp rfl)

/-- What is accepted is a marker of fields of the right form. -/
theorem parseMarker_fields {marker : List UInt8} {result : AnchorMarker}
    (accepted : parseMarker base64 marker = .ok result) :
    ∃ tag contextId anchorId auth, marker = markerOf tag contextId anchorId auth ∧
      Fields tag contextId anchorId auth := by
  unfold parseMarker at accepted
  rw [ite_error_eq_ok_iff] at accepted
  obtain ⟨-, accepted⟩ := accepted
  have whole : [59].intercalate (marker.splitOn 59) = marker := List.intercalate_splitOn 59
  generalize marker.splitOn 59 = parts at accepted whole
  dsimp only at accepted
  rw [ite_error_eq_ok_iff] at accepted
  obtain ⟨named, accepted⟩ := accepted
  simp only [bind_eq_ok_iff, orError_eq_ok, ite_error_eq_ok_iff] at accepted
  obtain ⟨tag, third, contextId, fourth, anchorId, fifth, auth, sixth, formed, tagBytes, tagRead,
    authBytes, authRead, -⟩ := accepted
  simp only [not_or, ne_eq, not_not] at named formed
  obtain ⟨vivid, three, letter⟩ := named
  obtain ⟨last, tagSize, contextSize, contextHex, anchorSize, anchorHex, authSize⟩ := formed
  refine ⟨tag, contextId, anchorId, auth, ?_,
    { tagSize := tagSize
      tagSafe := base64.alphabet_decode tag tagBytes tagRead
      contextSize := contextSize
      contextHex := List.all_eq_true.mp contextHex
      anchorSize := anchorSize
      anchorHex := List.all_eq_true.mp anchorHex
      authSize := authSize
      authSafe := base64.alphabet_decode auth authBytes authRead }⟩
  have known : parts = [textBytes "VIVID", textBytes "3", textBytes "A", tag, contextId, anchorId,
      auth] := by
    refine List.ext_getElem? fun index => ?_
    match index with
    | 0 => exact vivid
    | 1 => exact three
    | 2 => exact letter
    | 3 => exact third
    | 4 => exact fourth
    | 5 => exact fifth
    | 6 => exact sixth
    | beyond + 7 =>
        have short : parts.length ≤ 7 := by
          rw [Bool.not_eq_true, Option.isSome_eq_false_iff, Option.isNone_iff_eq_none,
            List.getElem?_eq_none_iff] at last
          exact last
        rw [List.getElem?_eq_none (by omega), List.getElem?_eq_none (by simp)]
  rw [← whole, known]
  rfl

/-- The fields that `encode_marker` writes. -/
theorem written_fields (base64 : UrlSafeNoPad) (auth sessionTag : Bytes 16)
    (contextId anchorId : UInt64) :
    Fields (base64.encode sessionTag.toList) (hex16 contextId) (hex16 anchorId)
      (base64.encode auth.toList) where
  tagSize := by rw [base64.length_encode, Vector.length_toList]
  tagSafe := base64.alphabet_encode _
  contextSize := length_hex16 contextId
  contextHex := fun _ inside => isHexDigit_of_hexDigits inside
  anchorSize := length_hex16 anchorId
  anchorHex := fun _ inside => isHexDigit_of_hexDigits inside
  authSize := by rw [base64.length_encode, Vector.length_toList]
  authSafe := base64.alphabet_encode _

/-- The fields that are written are read back. -/
theorem parseMarker_written (auth sessionTag : Bytes 16) {contextId anchorId : UInt64}
    (named : contextId ≠ 0) (anchored : anchorId ≠ 0) :
    parseMarker base64 (markerOf (base64.encode sessionTag.toList) (hex16 contextId)
        (hex16 anchorId) (base64.encode auth.toList)) =
      .ok { sessionTag := sessionTag
            contextId := contextId
            anchorId := anchorId
            authenticator := auth } := by
  have fields := written_fields base64 auth sessionTag contextId anchorId
  unfold parseMarker
  rw [if_neg (by rw [fields.length, fields.isAscii]; decide), fields.splitOn]
  dsimp only
  simp [orError, fields.tagSize, fields.contextSize, fields.anchorSize, fields.authSize,
    base64.decode_encode, fromStrRadix_hex16, toArray16_toList, named, anchored, Result.ok_bind]
  exact ⟨fields.contextHex, fields.anchorHex⟩

theorem encodeMarker_eq (key : Bytes 32) (sessionTag : Bytes 16) {contextId anchorId : UInt64}
    (named : contextId ≠ 0) (anchored : anchorId ≠ 0) :
    encodeMarker base64 hmac key sessionTag contextId anchorId =
      .ok ([0x1b, 95] ++
        markerOf (base64.encode sessionTag.toList) (hex16 contextId) (hex16 anchorId)
          (base64.encode (authenticator hmac key sessionTag contextId anchorId).toList) ++
        [0x1b, 92]) := by
  have fields := written_fields base64 (authenticator hmac key sessionTag contextId anchorId)
    sessionTag contextId anchorId
  unfold encodeMarker
  rw [if_neg (by simp [named, anchored])]
  refine if_neg ?_
  show ¬ MAX_MARKER_BYTES < ([0x1b, 95] ++ markerOf _ _ _ _ ++ [0x1b, 92]).length
  rw [List.length_append, List.length_append, fields.length]
  decide

theorem encodeConptyMarker_eq (key : Bytes 32) (sessionTag : Bytes 16)
    {contextId anchorId : UInt64} (named : contextId ≠ 0) (anchored : anchorId ≠ 0) :
    encodeConptyMarker base64 hmac key sessionTag contextId anchorId =
      .ok (markerOf (base64.encode sessionTag.toList) (hex16 contextId) (hex16 anchorId)
        (base64.encode (authenticator hmac key sessionTag contextId anchorId).toList) ++
          textBytes ";VIVID-END") := by
  have fields := written_fields base64 (authenticator hmac key sessionTag contextId anchorId)
    sessionTag contextId anchorId
  have size := fields.length
  unfold encodeConptyMarker
  rw [encodeMarker_eq key sessionTag named anchored, Result.ok_bind]
  generalize markerOf _ _ _ _ = body at size ⊢
  have stripped : ((([0x1b, 95] ++ body ++ [0x1b, 92]).take
      (([0x1b, 95] ++ body ++ [0x1b, 92]).length - 2)).drop 2) = body := by simp
  dsimp only
  rw [stripped, if_neg]
  rw [List.length_append, size, length_suffix]
  decide

theorem parseConptyMarker_append {body : List UInt8} (size : body.length = 89) :
    parseConptyMarker base64 (body ++ textBytes ";VIVID-END") = parseMarker base64 body := by
  unfold parseConptyMarker
  rw [if_neg]
  · rw [List.length_append, length_suffix, Nat.add_sub_cancel, List.take_left]
  · rw [not_or, not_not, List.length_append, length_suffix, size, List.isSuffixOf_iff_suffix]
    exact ⟨by decide, List.suffix_append _ _⟩

/-- An envelope that is accepted is a marker and the suffix. -/
theorem parseConptyMarker_fields {envelope : List UInt8} {result : AnchorMarker}
    (accepted : parseConptyMarker base64 envelope = .ok result) :
    ∃ tag contextId anchorId auth,
      envelope = markerOf tag contextId anchorId auth ++ textBytes ";VIVID-END" ∧
        Fields tag contextId anchorId auth := by
  unfold parseConptyMarker at accepted
  rw [ite_error_eq_ok_iff, not_or, not_not, List.isSuffixOf_iff_suffix] at accepted
  obtain ⟨⟨-, body, rfl⟩, accepted⟩ := accepted
  rw [List.length_append, length_suffix, Nat.add_sub_cancel, List.take_left] at accepted
  obtain ⟨tag, contextId, anchorId, auth, rfl, fields⟩ := parseMarker_fields accepted
  exact ⟨tag, contextId, anchorId, auth, rfl, fields⟩

end Parsing

end VividProtocol.Anchor
