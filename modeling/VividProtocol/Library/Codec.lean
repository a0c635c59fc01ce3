import Mathlib.Tactic
import VividProtocol.Library.Result

/-!
# Codecs that fail

An encoder and a decoder that both may refuse.  They agree when the decoder
reads back whatever the encoder writes and admits only values the encoder
writes.  The traversals of optional and repeated parts are here too.
-/

set_option autoImplicit false

namespace VividProtocol.Library.Codec

open VividProtocol.Library.Result

universe u

variable {ε α β γ : Type u}

/-- `option.map(read).transpose()`. -/
def transpose (read : α → Except ε β) : Option α → Except ε (Option β)
  | none => .ok none
  | some part => do
      let value ← read part
      .ok (some value)

/-- `iter().map(read).collect::<Result<Vec<_>, _>>()`. -/
def collect (read : α → Except ε β) : List α → Except ε (List β)
  | [] => .ok []
  | part :: rest => do
      let value ← read part
      let values ← collect read rest
      .ok (value :: values)

/-! ## Agreement -/

variable {κ δ : Type u}

/-- The two sides of a codec accept the same values: what the encoder writes is
read back under the value's header, and what the decoder accepts can be
written. -/
structure Agrees (header : α → κ) (wrap : γ → δ) (encode : α → Except ε γ)
    (decode : κ → δ → Except ε α) : Prop where
  readsBack : ∀ {value : α} {fields : γ}, encode value = .ok fields →
    decode (header value) (wrap fields) = .ok value
  admits : ∀ {above : κ} {message : δ} {value : α}, decode above message = .ok value →
    above = header value ∧ ∃ fields, encode value = .ok fields

section Agreement

variable {header : α → κ} {wrap : γ → δ} {encode : α → Except ε γ} {decode : κ → δ → Except ε α}

/-- Both sides check one condition on the value. -/
theorem Agrees.of_valid {Valid : α → Prop} {write : α → γ}
    (writes : ∀ {value : α} {fields : γ},
      encode value = .ok fields ↔ Valid value ∧ write value = fields)
    (reads : ∀ {value : α}, Valid value → decode (header value) (wrap (write value)) = .ok value)
    (checks : ∀ {above : κ} {message : δ} {value : α}, decode above message = .ok value →
      above = header value ∧ Valid value) :
    Agrees header wrap encode decode where
  readsBack := by
    intro value fields written
    obtain ⟨valid, same⟩ := writes.mp written
    rw [← same]
    exact reads valid
  admits := by
    intro above message value accepted
    obtain ⟨same, valid⟩ := checks accepted
    exact ⟨same, write value, writes.mpr ⟨valid, rfl⟩⟩

/-- An accepted value is written and read as itself. -/
theorem Agrees.settles (agrees : Agrees header wrap encode decode) {above : κ} {message : δ}
    {value : α} (accepted : decode above message = .ok value) :
    ∃ fields, encode value = .ok fields ∧ decode above (wrap fields) = .ok value := by
  obtain ⟨same, fields, written⟩ := agrees.admits accepted
  rw [same]
  exact ⟨fields, written, agrees.readsBack written⟩

/-- The decoder checks more than the encoder: what is written is read back if it is
proper and not otherwise, and what the decoder accepts is written and read as
itself. -/
structure Settles (header : α → κ) (wrap : γ → δ) (encode : α → Except ε γ)
    (decode : κ → δ → Except ε α) (Proper : α → Prop) : Prop where
  readsBack : ∀ {value : α} {fields : γ}, encode value = .ok fields →
    (decode (header value) (wrap fields) = .ok value ↔ Proper value)
  admits : ∀ {above : κ} {message : δ} {value : α}, decode above message = .ok value →
    above = header value ∧ ∃ fields, encode value = .ok fields ∧
      decode above (wrap fields) = .ok value

theorem Settles.of_reads {Sent Proper : α → Prop} {write : α → γ}
    (writes : ∀ {value : α} {fields : γ},
      encode value = .ok fields ↔ Sent value ∧ write value = fields)
    (reads : ∀ {value : α},
      decode (header value) (wrap (write value)) = .ok value ↔ Sent value ∧ Proper value)
    (checks : ∀ {above : κ} {message : δ} {value : α}, decode above message = .ok value →
      above = header value ∧ Sent value ∧ Proper value) :
    Settles header wrap encode decode Proper where
  readsBack := by
    intro value fields written
    obtain ⟨sent, same⟩ := writes.mp written
    rw [← same, reads]
    exact and_iff_right sent
  admits := by
    intro above message value accepted
    obtain ⟨same, sent, proper⟩ := checks accepted
    refine ⟨same, write value, writes.mpr ⟨sent, rfl⟩, ?_⟩
    rw [same]
    exact reads.mpr ⟨sent, proper⟩

end Agreement

/-! ## Optional parts -/

theorem transpose_map {read : β → Except ε α} {write : α → β} {part : Option α}
    (readsBack : ∀ value, part = some value → read (write value) = .ok value) :
    transpose read (part.map write) = .ok part := by
  cases part with
  | none => rfl
  | some value => rw [Option.map_some, transpose, readsBack value rfl, ok_bind]

theorem transpose_eq_ok {read : α → Except ε β} {part : Option α} {value : β}
    (accepted : transpose read part = .ok (some value)) :
    ∃ inner, part = some inner ∧ read inner = .ok value := by
  cases part with
  | none => cases accepted
  | some inner =>
      obtain ⟨result, done, same⟩ := bind_eq_ok_iff.mp accepted
      cases same
      exact ⟨inner, rfl, done⟩

/-- A written part is read as itself or not at all. -/
theorem transpose_map_eq {read : β → Except ε α} {write : α → β} {part result : Option α}
    (same : ∀ value other, read (write value) = .ok other → other = value)
    (accepted : transpose read (part.map write) = .ok result) : result = part := by
  cases part with
  | none =>
      cases accepted
      rfl
  | some value =>
      obtain ⟨other, done, built⟩ := bind_eq_ok_iff.mp accepted
      cases built
      rw [same value other done]

/-! ## Repeated parts -/

theorem collect_map {read : β → Except ε α} {write : α → β} {values : List α}
    (readsBack : ∀ value ∈ values, read (write value) = .ok value) :
    collect read (values.map write) = .ok values := by
  induction values with
  | nil => rfl
  | cons value rest ih =>
      rw [List.map_cons, collect, readsBack value List.mem_cons_self, ok_bind,
        ih fun other among => readsBack other (List.mem_cons_of_mem value among), ok_bind]

theorem collect_map_eq {read : β → Except ε α} {write : α → β} {values results : List α}
    (same : ∀ value result, read (write value) = .ok result → result = value)
    (accepted : collect read (values.map write) = .ok results) : results = values := by
  induction values generalizing results with
  | nil =>
      cases accepted
      rfl
  | cons value rest ih =>
      rw [List.map_cons] at accepted
      obtain ⟨first, done, accepted⟩ := bind_eq_ok_iff.mp accepted
      obtain ⟨others, collected, built⟩ := bind_eq_ok_iff.mp accepted
      cases built
      rw [same value first done, ih collected]

/-- Reading that undoes writing, and accepts only what is written, does so of a sequence. -/
theorem collect_eq_ok_iff {read : β → Except ε α} {write : α → β}
    (undoes : ∀ part value, read part = .ok value ↔ part = write value) {parts : List β}
    {values : List α} : collect read parts = .ok values ↔ parts = values.map write := by
  constructor
  · intro accepted
    induction parts generalizing values with
    | nil =>
        cases accepted
        rfl
    | cons part rest ih =>
        obtain ⟨value, done, accepted⟩ := bind_eq_ok_iff.mp accepted
        obtain ⟨others, collected, same⟩ := bind_eq_ok_iff.mp accepted
        cases same
        rw [(undoes part value).mp done, ih collected, List.map_cons]
  · rintro rfl
    exact collect_map fun value _ => (undoes _ value).mpr rfl

theorem collect_length {read : α → Except ε β} {parts : List α} {values : List β}
    (accepted : collect read parts = .ok values) : values.length = parts.length := by
  induction parts generalizing values with
  | nil =>
      cases accepted
      rfl
  | cons part rest ih =>
      obtain ⟨value, _, accepted⟩ := bind_eq_ok_iff.mp accepted
      obtain ⟨others, collected, same⟩ := bind_eq_ok_iff.mp accepted
      cases same
      rw [List.length_cons, List.length_cons, ih collected]

theorem collect_mem {read : α → Except ε β} {parts : List α} {values : List β}
    (accepted : collect read parts = .ok values) {value : β} (among : value ∈ values) :
    ∃ part ∈ parts, read part = .ok value := by
  induction parts generalizing values with
  | nil =>
      cases accepted
      cases among
  | cons part rest ih =>
      obtain ⟨first, done, accepted⟩ := bind_eq_ok_iff.mp accepted
      obtain ⟨others, collected, same⟩ := bind_eq_ok_iff.mp accepted
      cases same
      rcases List.mem_cons.mp among with here | later
      · exact ⟨part, List.mem_cons_self, by rw [here]; exact done⟩
      · obtain ⟨inner, held, read⟩ := ih collected later
        exact ⟨inner, List.mem_cons_of_mem part held, read⟩

end VividProtocol.Library.Codec
