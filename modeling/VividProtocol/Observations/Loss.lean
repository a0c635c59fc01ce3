import Mathlib.Tactic
import VividProtocol.Observations.Queue

/-!
# No silent loss

An accepted observation is delivered with its newest payload, is still queued,
was unsubscribed, or was evicted and is named by the gap that precedes the next
delivery.  `Accounted` says which, and every later call keeps it; the ledger
also numbers what was drained.
-/

set_option autoImplicit false

namespace VividProtocol.Observations

open VividProtocol.Library.Transition

/-! ## Reading the history -/

def QueueOutput.observation? : QueueOutput → Option Observation
  | .drained observation => observation
  | _ => none

def drained (history : List QueueEvent) : List Observation :=
  history.filterMap fun event => event.output.observation?

def Accepts (classBits : UInt64) (key : ObservationKey) (payload : PayloadMap)
    (event : QueueEvent) : Prop :=
  event.input = .push classBits key payload ∧ event.output = .pushed true

/-- The payload a key carries after one more call. -/
def supersede (key : ObservationKey) (payload : PayloadMap) (event : QueueEvent) : PayloadMap :=
  match event.input, event.output with
  | .push _ pushed newer, .pushed true => if pushed = key then newer else payload
  | _, _ => payload

def newest (key : ObservationKey) (payload : PayloadMap) (since : List QueueEvent) :
    PayloadMap :=
  since.foldl (supersede key) payload

def Delivers (key : ObservationKey) (payload : PayloadMap) (event : QueueEvent) : Prop :=
  ∃ entry rest, event.before.lost = none ∧ event.before.entries = entry :: rest ∧
    entry.key = key ∧ entry.payload = payload ∧
    event.output = .drained (some (entry.record event.after.sequence))

def Unsubscribes (classBits : UInt64) (event : QueueEvent) : Prop :=
  ∃ mask, event.input = .subscribe mask ∧ event.output = .subscribed (.ok ()) ∧
    classBits &&& mask = 0

def Evicts (key : ObservationKey) (event : QueueEvent) : Prop :=
  event.output = .pushed true ∧
    (∃ entry rest, event.before.entries = entry :: rest ∧ entry.key = key) ∧
    ∀ entry ∈ event.after.entries, entry.key ≠ key

/-- The loss names the class, and the sequence after the given one as the first
lost. -/
def Names (classBits sequence : UInt64) (firstLost classes : UInt64) : Prop :=
  firstLost.toNat = sequence.toNat + 1 ∧ classBits &&& classes = classBits

/-- The gap precedes everything drained since, or waits to be drained next. -/
def GapFollows (classBits sequence : UInt64) (since : List QueueEvent)
    (queue : ObservationQueue) : Prop :=
  (drained since = [] ∧ ∃ firstLost classes, queue.lost = some (firstLost, classes) ∧
      Names classBits sequence firstLost classes) ∨
    ∃ firstLost classes number rest,
      drained since = gapRecord firstLost classes number :: rest ∧
        Names classBits sequence firstLost classes

inductive Accounted (classBits : UInt64) (key : ObservationKey) (payload : PayloadMap)
    (since : List QueueEvent) (queue : ObservationQueue) : Prop where
  | queued (entry : Entry) (inside : entry ∈ queue.entries) (same : entry.key = key)
      (kept : entry.payload = newest key payload since)
  | delivered (first : List QueueEvent) (event : QueueEvent) (rest : List QueueEvent)
      (split : since = first ++ event :: rest)
      (delivers : Delivers key (newest key payload first) event)
  | unsubscribed (first : List QueueEvent) (event : QueueEvent) (rest : List QueueEvent)
      (split : since = first ++ event :: rest) (drops : Unsubscribes classBits event)
  | lost (first : List QueueEvent) (event : QueueEvent) (rest : List QueueEvent)
      (split : since = first ++ event :: rest) (evicts : Evicts key event)
      (gap : GapFollows classBits event.before.sequence rest queue)

/-- The class of an observation follows from its record type, and the sequence
is below its maximum. -/
structure Regular (classOf : UInt16 → UInt64) (event : QueueEvent) : Prop where
  sequence : event.before.sequence.toNat < 2 ^ 64 - 1
  classed : ∀ classBits key payload, event.input = .push classBits key payload →
    classBits = classOf key.recordType

/-! ## The shape of the queue -/

structure Shape (classOf : UInt16 → UInt64) (capacity : Nat) (queue : ObservationQueue) :
    Prop where
  fixed : queue.capacity = capacity
  bound : queue.entries.length ≤ capacity
  keys : (queue.entries.map Entry.key).Nodup
  classed : ∀ entry ∈ queue.entries, entry.classBits = classOf entry.key.recordType

@[simp] theorem noteLoss_entries (queue : ObservationQueue) (classes : UInt64) :
    (queue.noteLoss classes).entries = queue.entries := by
  unfold ObservationQueue.noteLoss
  cases queue.lost <;> rfl

@[simp] theorem noteLoss_capacity (queue : ObservationQueue) (classes : UInt64) :
    (queue.noteLoss classes).capacity = queue.capacity := by
  unfold ObservationQueue.noteLoss
  cases queue.lost <;> rfl

@[simp] theorem noteLoss_sequence (queue : ObservationQueue) (classes : UInt64) :
    (queue.noteLoss classes).sequence = queue.sequence := by
  unfold ObservationQueue.noteLoss
  cases queue.lost <;> rfl

theorem evict_cons {queue : ObservationQueue} {dropped : Entry} {rest : List Entry}
    (front : queue.entries = dropped :: rest) :
    queue.evict = { queue with entries := rest }.noteLoss dropped.classBits := by
  unfold ObservationQueue.evict
  rw [front]

theorem front_of_full {queue : ObservationQueue} {capacity : Nat}
    (positive : 0 < capacity) (same : queue.capacity = capacity)
    (full : queue.capacity ≤ queue.entries.length) :
    ∃ dropped rest, queue.entries = dropped :: rest := by
  cases entries : queue.entries with
  | nil =>
      rw [entries, same] at full
      simp at full
      omega
  | cons dropped rest => exact ⟨dropped, rest, rfl⟩

variable {classOf : UInt16 → UInt64} {capacity : Nat} {before after : ObservationQueue}
  {input : QueueInput} {output : QueueOutput} {past : List QueueEvent}

theorem Shape.appended {entries : List Entry} (entry : Entry)
    (keys : (entries.map Entry.key).Nodup)
    (classed : ∀ entry ∈ entries, entry.classBits = classOf entry.key.recordType)
    (absent : ∀ other ∈ entries, other.key ≠ entry.key)
    (regular : entry.classBits = classOf entry.key.recordType) :
    ((entries ++ [entry]).map Entry.key).Nodup ∧
      ∀ other ∈ entries ++ [entry], other.classBits = classOf other.key.recordType := by
  constructor
  · rw [List.map_append, List.nodup_append]
    refine ⟨keys, by simp, ?_⟩
    intro first inside last only same
    obtain ⟨other, member, rfl⟩ := List.mem_map.mp inside
    simp only [List.map_cons, List.map_nil, List.mem_singleton] at only
    exact absent other member (same.trans only)
  · exact forall_snoc classed regular

theorem QueueEffect.preserves_shape (positive : 0 < capacity)
    (shape : Shape classOf capacity before)
    (regular : Regular classOf ⟨before, input, output, after⟩)
    (effect : QueueEffect before input output after) : Shape classOf capacity after := by
  cases effect with
  | unassigned mask error => exact shape
  | subscribed mask =>
      refine ⟨shape.fixed, ?_, ?_, ?_⟩
      · exact (List.length_filter_le _ _).trans shape.bound
      · exact shape.keys.sublist (List.filter_sublist.map _)
      · intro entry inside
        exact shape.classed entry (List.mem_filter.mp inside).1
  | ignored classBits key payload => exact shape
  | coalesced classBits key payload first entry rest found same earlier =>
      have bound := shape.bound
      have keys := shape.keys
      have classed := shape.classed
      rw [found] at bound keys classed
      refine ⟨shape.fixed, ?_, ?_, ?_⟩
      · simpa using bound
      · simpa using keys
      · intro other inside
        rcases List.mem_append.mp inside with inside | inside
        · exact classed other (by simp [inside])
        · rcases List.mem_cons.mp inside with rfl | inside
          · exact classed entry (by simp)
          · exact classed other (by simp [inside])
  | queued classBits key payload absent room =>
      have grown := Shape.appended ⟨key, classBits, payload⟩ shape.keys shape.classed
        absent (regular.classed classBits key payload rfl)
      refine ⟨shape.fixed, ?_, grown.1, grown.2⟩
      have same := shape.fixed
      simp only [List.length_append, List.length_singleton]
      omega
  | evicted classBits key payload absent full =>
      obtain ⟨dropped, rest, front⟩ := front_of_full positive shape.fixed full
      have bound := shape.bound
      have keys := shape.keys
      have classed := shape.classed
      rw [front] at bound keys classed absent
      have grown := Shape.appended ⟨key, classBits, payload⟩
        (List.nodup_cons.mp keys).2 (fun entry inside => classed entry (by simp [inside]))
        (fun other inside => absent other (by simp [inside]))
        (regular.classed classBits key payload rfl)
      rw [evict_cons front]
      refine ⟨by simpa using shape.fixed, ?_, ?_, ?_⟩
      · simp only [noteLoss_entries, List.length_append, List.length_singleton]
        simpa using bound
      · simpa using grown.1
      · simpa using grown.2
  | reported firstLost classes pending => exact ⟨shape.fixed, shape.bound, shape.keys, shape.classed⟩
  | delivered entry rest settled queued =>
      have bound := shape.bound
      have keys := shape.keys
      have classed := shape.classed
      rw [queued] at bound keys classed
      refine ⟨shape.fixed, ?_, (List.nodup_cons.mp keys).2, ?_⟩
      · simp only [List.length_cons] at bound
        simp only
        omega
      · intro other inside
        exact classed other (by simp [inside])
  | empty settled drained => exact shape

/-! ## Accounting for one observation -/

variable {classBits : UInt64} {key : ObservationKey} {payload : PayloadMap}
  {since : List QueueEvent}

theorem drained_snoc (history : List QueueEvent) (event : QueueEvent) :
    drained (history ++ [event]) = drained history ++ event.output.observation?.toList := by
  unfold drained
  rw [List.filterMap_append]
  cases found : event.output.observation? <;> simp [found]

theorem newest_snoc (event : QueueEvent) :
    newest key payload (since ++ [event]) =
      supersede key (newest key payload since) event := by
  simp [newest]

/-- A loss already noted keeps naming what it named. -/
theorem Names.widen {sequence firstLost classes more : UInt64}
    (names : Names classBits sequence firstLost classes) :
    Names classBits sequence firstLost (classes ||| more) :=
  ⟨names.1, and_or_of_covered names.2⟩

theorem GapFollows.snoc {sequence : UInt64} (gap : GapFollows classBits sequence since before)
    (effect : QueueEffect before input output after) :
    GapFollows classBits sequence (since ++ [⟨before, input, output, after⟩]) after := by
  rcases gap with ⟨silent, firstLost, classes, pending, names⟩ |
    ⟨firstLost, classes, number, rest, reported, names⟩
  · have still (quiet : output.observation? = none) :
        drained (since ++ [⟨before, input, output, after⟩]) = [] := by
      simp [drained_snoc, silent, quiet]
    cases effect with
    | unassigned mask error => exact Or.inl ⟨still rfl, firstLost, classes, pending, names⟩
    | subscribed mask => exact Or.inl ⟨still rfl, firstLost, classes, pending, names⟩
    | ignored classBits key payload =>
        exact Or.inl ⟨still rfl, firstLost, classes, pending, names⟩
    | coalesced classBits key payload first entry rest found same earlier =>
        exact Or.inl ⟨still rfl, firstLost, classes, pending, names⟩
    | queued classBits key payload absent room =>
        exact Or.inl ⟨still rfl, firstLost, classes, pending, names⟩
    | evicted other key payload absent full =>
        obtain ⟨more, widened⟩ : ∃ more, before.evict.lost = some (firstLost, classes ||| more) := by
          unfold ObservationQueue.evict
          cases before.entries with
          | nil => exact ⟨0, by simp [ObservationQueue.noteLoss, pending]⟩
          | cons dropped rest =>
              exact ⟨dropped.classBits, by simp [ObservationQueue.noteLoss, pending]⟩
        exact Or.inl ⟨still rfl, firstLost, _, widened, names.widen⟩
    | reported first spanned found =>
        rw [pending] at found
        cases found
        refine Or.inr ⟨firstLost, classes, saturatingAdd before.sequence 1, [], ?_, names⟩
        simp [drained_snoc, silent, QueueOutput.observation?]
    | delivered entry rest settled queued =>
        rw [pending] at settled
        cases settled
    | empty settled nothing =>
        rw [pending] at settled
        cases settled
  · exact Or.inr ⟨firstLost, classes, number, rest ++ output.observation?.toList,
      by simp [drained_snoc, reported], names⟩

/-- The pending loss starts one after what was last drained. -/
def LossPending (queue : ObservationQueue) : Prop :=
  ∀ firstLost classes, queue.lost = some (firstLost, classes) →
    firstLost.toNat = queue.sequence.toNat + 1

theorem successor_toNat {sequence : UInt64} (room : sequence.toNat < 2 ^ 64 - 1) :
    (saturatingAdd sequence 1).toNat = sequence.toNat + 1 :=
  saturatingAdd_toNat (by simpa using by omega)

/-- What an eviction leaves pending names the class of the evicted entry. -/
theorem evict_names {queue : ObservationQueue} {dropped : Entry} {rest : List Entry}
    (front : queue.entries = dropped :: rest) (pending : LossPending queue)
    (room : queue.sequence.toNat < 2 ^ 64 - 1) :
    ∃ firstLost classes, queue.evict.lost = some (firstLost, classes) ∧
      Names dropped.classBits queue.sequence firstLost classes := by
  rw [evict_cons front]
  unfold ObservationQueue.noteLoss
  cases lost : queue.lost with
  | none =>
      refine ⟨_, _, rfl, successor_toNat room, ?_⟩
      exact UInt64.and_self
  | some noted =>
      obtain ⟨firstLost, seen⟩ := noted
      refine ⟨_, _, rfl, pending firstLost seen lost, ?_⟩
      rw [UInt64.or_comm]
      exact and_or_of_covered UInt64.and_self

theorem noteLoss_pending (queue : ObservationQueue) (pending : LossPending queue)
    (room : queue.sequence.toNat < 2 ^ 64 - 1) (classes : UInt64) :
    LossPending (queue.noteLoss classes) := by
  intro firstLost spanned found
  rw [noteLoss_sequence]
  unfold ObservationQueue.noteLoss at found
  cases lost : queue.lost with
  | none =>
      rw [lost] at found
      cases found
      exact successor_toNat room
  | some noted =>
      rw [lost] at found
      cases found
      exact pending noted.1 noted.2 lost

theorem QueueEffect.preserves_pending (pending : LossPending before)
    (room : before.sequence.toNat < 2 ^ 64 - 1)
    (effect : QueueEffect before input output after) : LossPending after := by
  cases effect with
  | unassigned mask error => exact pending
  | subscribed mask => exact pending
  | ignored classBits key payload => exact pending
  | coalesced classBits key payload first entry rest found same earlier => exact pending
  | queued classBits key payload absent room => exact pending
  | evicted classBits key payload absent full =>
      unfold ObservationQueue.evict
      cases before.entries with
      | nil => exact noteLoss_pending before pending room 0
      | cons dropped rest =>
          exact noteLoss_pending { before with entries := rest } pending room _
  | reported firstLost classes found => exact by nofun
  | delivered entry rest settled queued => exact by nofun
  | empty settled nothing => exact pending

theorem Accounted.snoc (positive : 0 < capacity) (shape : Shape classOf capacity before)
    (pending : LossPending before)
    (regular : Regular classOf ⟨before, input, output, after⟩)
    (classed : classBits = classOf key.recordType)
    (accounted : Accounted classBits key payload since before)
    (effect : QueueEffect before input output after) :
    Accounted classBits key payload (since ++ [⟨before, input, output, after⟩]) after := by
  cases accounted with
  | delivered first event rest split delivers =>
      exact .delivered first event (rest ++ [⟨before, input, output, after⟩]) (by simp [split]) delivers
  | unsubscribed first event rest split drops =>
      exact .unsubscribed first event (rest ++ [⟨before, input, output, after⟩]) (by simp [split]) drops
  | lost first event rest split evicts gap =>
      exact .lost first event (rest ++ [⟨before, input, output, after⟩]) (by simp [split]) evicts
        (gap.snoc effect)
  | queued entry inside same kept =>
      have known : entry.classBits = classBits := by
        rw [shape.classed entry inside, same, classed]
      cases effect with
      | unassigned mask error => exact .queued entry inside same (by rw [newest_snoc]; exact kept)
      | subscribed mask =>
          by_cases dropped : classBits &&& mask = 0
          · exact .unsubscribed since _ [] rfl ⟨mask, rfl, rfl, dropped⟩
          · refine .queued entry (List.mem_filter.mpr ⟨inside, ?_⟩) same
              (by rw [newest_snoc]; exact kept)
            rw [known]
            simpa using dropped
      | ignored other key payload =>
          exact .queued entry inside same (by rw [newest_snoc]; exact kept)
      | coalesced other pushed newer first found rest split matched earlier =>
          by_cases mine : pushed = key
          · refine .queued { found with payload := newer } (by simp) (matched.trans mine) ?_
            rw [newest_snoc]
            simp [supersede, mine]
          · refine .queued entry ?_ same ?_
            · rw [split] at inside
              rcases List.mem_append.mp inside with inside | inside
              · exact List.mem_append_left _ inside
              · rcases List.mem_cons.mp inside with rfl | inside
                · exact absurd (matched.symm.trans same) mine
                · exact List.mem_append_right _ (List.mem_cons_of_mem _ inside)
            · rw [newest_snoc, kept]
              simp [supersede, mine]
      | queued other pushed newer absent room =>
          refine .queued entry (List.mem_append_left _ inside) same ?_
          rw [newest_snoc, kept]
          have foreign : pushed ≠ key := by
            rintro rfl
            exact absent entry inside same
          simp [supersede, foreign]
      | evicted other pushed newer absent full =>
          have foreign : pushed ≠ key := by
            rintro rfl
            exact absent entry inside same
          obtain ⟨dropped, rest, front⟩ := front_of_full positive shape.fixed full
          have keys := shape.keys
          rw [front] at inside keys
          rcases List.mem_cons.mp inside with rfl | inside
          · obtain ⟨firstLost, classes, lost, names⟩ := evict_names front pending regular.sequence
            rw [known] at names
            refine .lost since _ [] rfl ⟨rfl, ⟨entry, rest, front, same⟩, ?_⟩
              (Or.inl ⟨rfl, firstLost, classes, lost, names⟩)
            simp only [evict_cons front, noteLoss_entries]
            refine forall_snoc ?_ foreign
            intro later member clash
            refine (List.nodup_cons.mp keys).1 (List.mem_map.mpr ⟨later, member, ?_⟩)
            exact clash.trans same.symm
          · refine .queued entry ?_ same ?_
            · simp only [evict_cons front, noteLoss_entries]
              exact List.mem_append_left _ inside
            · rw [newest_snoc, kept]
              simp [supersede, foreign]
      | reported firstLost classes found =>
          exact .queued entry inside same (by rw [newest_snoc]; exact kept)
      | delivered found rest settled queued =>
          rw [queued] at inside
          rcases List.mem_cons.mp inside with rfl | inside
          · exact .delivered since _ [] rfl ⟨entry, rest, settled, queued, same, kept, rfl⟩
          · exact .queued entry inside same (by rw [newest_snoc]; exact kept)
      | empty settled nothing =>
          exact .queued entry inside same (by rw [newest_snoc]; exact kept)

/-! ## The ledger -/

structure QueueLedger (classOf : UInt16 → UInt64) (capacity : Nat)
    (past : List QueueEvent) (queue : ObservationQueue) : Prop where
  shape : Shape classOf capacity queue
  pending : LossPending queue
  numbered : queue.sequence.toNat = (drained past).length
  accounted : ∀ earlier push since classBits key payload,
    past = earlier ++ push :: since → Accepts classBits key payload push →
    Accounted classBits key payload since queue

/-- The law of one call: what it drains carries the next number. -/
structure SequenceLaw (past : List QueueEvent) (event : QueueEvent) : Prop where
  numbered : event.before.sequence.toNat = (drained past).length
  drains : ∀ observation, event.output = .drained (some observation) →
    event.after.sequence.toNat = (drained past).length + 1 ∧
      ((∃ firstLost classes, event.before.lost = some (firstLost, classes) ∧
          observation = gapRecord firstLost classes event.after.sequence) ∨
        ∃ entry rest, event.before.lost = none ∧ event.before.entries = entry :: rest ∧
          observation = entry.record event.after.sequence)

theorem QueueLedger.law (ledger : QueueLedger classOf capacity past before)
    (regular : Regular classOf ⟨before, input, output, after⟩)
    (effect : QueueEffect before input output after) :
    SequenceLaw past ⟨before, input, output, after⟩ := by
  have next : (saturatingAdd before.sequence 1).toNat = before.sequence.toNat + 1 :=
    successor_toNat regular.sequence
  rw [ledger.numbered] at next
  refine ⟨ledger.numbered, ?_⟩
  intro observation drains
  simp only at drains
  cases effect with
  | unassigned mask error => cases drains
  | subscribed mask => cases drains
  | ignored classBits key payload => cases drains
  | coalesced classBits key payload first entry rest found same earlier => cases drains
  | queued classBits key payload absent room => cases drains
  | evicted classBits key payload absent full => cases drains
  | reported firstLost classes pending =>
      cases drains
      exact ⟨next, Or.inl ⟨firstLost, classes, pending, rfl⟩⟩
  | delivered entry rest settled queued =>
      cases drains
      exact ⟨next, Or.inr ⟨entry, rest, settled, queued, rfl⟩⟩
  | empty settled nothing => cases drains

theorem QueueEffect.sequence_drained (regular : Regular classOf ⟨before, input, output, after⟩)
    (effect : QueueEffect before input output after) :
    after.sequence.toNat =
      before.sequence.toNat + output.observation?.toList.length := by
  have next := successor_toNat regular.sequence
  cases effect with
  | unassigned mask error => rfl
  | subscribed mask => rfl
  | ignored classBits key payload => rfl
  | coalesced classBits key payload first entry rest found same earlier => rfl
  | queued classBits key payload absent room => rfl
  | evicted classBits key payload absent full =>
      unfold ObservationQueue.evict
      cases before.entries <;> simp [QueueOutput.observation?]
  | reported firstLost classes pending => exact next
  | delivered entry rest settled queued => exact next
  | empty settled nothing => rfl

/-- An accepted push leaves an entry with its key and payload. -/
theorem QueueEffect.accounted_push (accepts : Accepts classBits key payload
      ⟨before, input, output, after⟩) (effect : QueueEffect before input output after) :
    Accounted classBits key payload [] after := by
  obtain ⟨asked, accepted⟩ := accepts
  simp only at asked accepted
  subst asked accepted
  cases effect with
  | coalesced _ _ _ first entry rest found same earlier =>
      exact .queued { entry with payload := payload } (by simp) same rfl
  | queued _ _ _ absent room => exact .queued ⟨key, classBits, payload⟩ (by simp) rfl rfl
  | evicted _ _ _ absent full => exact .queued ⟨key, classBits, payload⟩ (by simp) rfl rfl

theorem QueueLedger.snoc (positive : 0 < capacity)
    (ledger : QueueLedger classOf capacity past before)
    (regular : Regular classOf ⟨before, input, output, after⟩)
    (whole : ∀ event ∈ past, Regular classOf event)
    (effect : QueueEffect before input output after) :
    QueueLedger classOf capacity (past ++ [⟨before, input, output, after⟩]) after := by
  refine ⟨effect.preserves_shape positive ledger.shape regular,
    effect.preserves_pending ledger.pending regular.sequence, ?_, ?_⟩
  · rw [drained_snoc, List.length_append, ← ledger.numbered]
    exact effect.sequence_drained regular
  · intro earlier push since classBits key payload split accepts
    rcases List.eq_nil_or_concat since with rfl | ⟨sooner, last, rfl⟩
    · obtain ⟨rfl, same⟩ := List.append_inj' split rfl
      cases same
      exact effect.accounted_push accepts
    · rw [List.concat_eq_append, ← List.cons_append, ← List.append_assoc] at split
      obtain ⟨same, added⟩ := List.append_inj' split rfl
      cases added
      rw [List.concat_eq_append]
      have classed := (whole push (by rw [same]; simp)).classed classBits key payload accepts.1
      exact (ledger.accounted earlier push sooner classBits key payload same accepts).snoc
        positive ledger.shape ledger.pending regular classed effect

end VividProtocol.Observations
