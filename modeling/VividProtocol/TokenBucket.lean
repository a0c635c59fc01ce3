import Mathlib.Tactic
import Mathlib.Algebra.Order.Floor.Div
import VividProtocol.Resource
import VividProtocol.Library.Transition

/-!
# Token buckets

The rate limiter of `resource.rs`.  Tokens are earned from elapsed nanoseconds,
and the part of a token that is not earned yet is carried as a remainder.  What
was charged and what time has passed are read off the history of a run.
-/

set_option autoImplicit false

namespace VividProtocol

open VividProtocol.Library.Transition

def nanosPerSecond : Nat := 1000000000

/-- `std::time::Duration`. -/
structure Duration where
  seconds : UInt64
  nanos : UInt32
  subsecond : nanos.toNat < nanosPerSecond
  deriving Repr, DecidableEq

/-- `Duration::as_nanos`. -/
def Duration.asNanos (elapsed : Duration) : Nat :=
  nanosPerSecond * elapsed.seconds.toNat + elapsed.nanos.toNat

/-- `Duration::from_nanos`. -/
def Duration.fromNanos (nanos : UInt64) : Duration :=
  { seconds := UInt64.ofNat (nanos.toNat / nanosPerSecond)
    nanos := UInt32.ofNat (nanos.toNat % nanosPerSecond)
    subsecond := by
      have below : nanos.toNat % nanosPerSecond < nanosPerSecond := Nat.mod_lt _ (by decide)
      have small : nanosPerSecond < 2 ^ 32 := by decide
      rwa [UInt32.toNat_ofNat', Nat.mod_eq_of_lt (lt_trans below small)] }

theorem Duration.fromNanos_asNanos (nanos : UInt64) :
    (Duration.fromNanos nanos).asNanos = nanos.toNat := by
  have bound := nanos.toNat_lt
  have seconds : nanos.toNat / nanosPerSecond < 2 ^ 64 :=
    lt_of_le_of_lt (Nat.div_le_self _ _) bound
  have below : nanos.toNat % nanosPerSecond < nanosPerSecond := Nat.mod_lt _ (by decide)
  have small : nanosPerSecond < 2 ^ 32 := by decide
  unfold asNanos fromNanos
  rw [UInt64.toNat_ofNat', UInt32.toNat_ofNat', Nat.mod_eq_of_lt seconds,
    Nat.mod_eq_of_lt (lt_trans below small)]
  exact Nat.div_add_mod nanos.toNat nanosPerSecond

/-- A `u128` that did not overflow. -/
def checkedWide (value : Nat) : Option Nat := if value < 2 ^ 128 then some value else none

/-- `u64::try_from`. -/
def checkedWord (value : Nat) : Option UInt64 :=
  if value < 2 ^ 64 then some (UInt64.ofNat value) else none

structure TokenBucket where
  ratePerSecond : UInt64
  capacity : UInt64
  tokens : UInt64
  remainderNanos : UInt64
  deriving Repr, DecidableEq

namespace TokenBucket

def new (ratePerSecond maximumRecordCharge : UInt64) : TokenBucket :=
  let capacity := max ratePerSecond maximumRecordCharge
  { ratePerSecond := ratePerSecond
    capacity := capacity
    tokens := capacity
    remainderNanos := 0 }

/-- What has been earned, in tokens times `nanosPerSecond`. -/
def earnedNumerator (bucket : TokenBucket) (elapsed : Duration) : Option Nat := do
  let product ← checkedWide (bucket.ratePerSecond.toNat * elapsed.asNanos)
  checkedWide (product + bucket.remainderNanos.toNat)

/-- The remainder is stored before the tokens are known to fit. -/
def carry (bucket : TokenBucket) (numerator : Nat) : TokenBucket :=
  { bucket with remainderNanos := UInt64.ofNat (numerator % nanosPerSecond) }

def earn (bucket : TokenBucket) (earned : UInt64) : Except ResourceError Unit × TokenBucket :=
  let missing := bucket.capacity - bucket.tokens
  if missing ≤ earned then (.ok (), { bucket with tokens := bucket.capacity })
  else
    match checkedAdd bucket.tokens earned with
    | none => (.error .overflow, bucket)
    | some tokens => (.ok (), { bucket with tokens := tokens })

def replenish (bucket : TokenBucket) (elapsed : Duration) :
    Except ResourceError Unit × TokenBucket :=
  match bucket.earnedNumerator elapsed with
  | none => (.error .overflow, bucket)
  | some numerator =>
      match checkedWord (numerator / nanosPerSecond) with
      | none => (.error .overflow, bucket.carry numerator)
      | some earned => (bucket.carry numerator).earn earned

/-- How long until `units` can be charged: `none` is now, and a charge that the
bucket can never hold is an error. -/
def timeUntil (bucket : TokenBucket) (units : UInt64) :
    Except ResourceError (Option Duration) :=
  if units ≤ bucket.tokens then .ok none
  else if bucket.capacity < units ∨ bucket.ratePerSecond = 0 then
    .error (.exceedsContract .mediaRecordsPerSecond)
  else
    match checkedWide ((units - bucket.tokens).toNat * nanosPerSecond) with
    | none => .error .overflow
    | some deficit =>
        -- The part-earned token counts, and the wait is rounded up.
        let owedNanos := deficit - bucket.remainderNanos.toNat
        match checkedWord (owedNanos ⌈/⌉ bucket.ratePerSecond.toNat) with
        | none => .error .overflow
        | some nanos => .ok (some (.fromNanos nanos))

def charge (bucket : TokenBucket) (units : UInt64) : Except ResourceError Unit × TokenBucket :=
  match checkedSub bucket.tokens units with
  | none => (.error (.exceedsContract .mediaRecordsPerSecond), bucket)
  | some tokens => (.ok (), { bucket with tokens := tokens })

/-! ## What each call does -/

variable {bucket : TokenBucket}

/-- The counters stay within their ranges. -/
structure Within (bucket : TokenBucket) : Prop where
  full : bucket.tokens.toNat ≤ bucket.capacity.toNat
  carried : bucket.remainderNanos.toNat < nanosPerSecond

theorem within_new (ratePerSecond maximumRecordCharge : UInt64) :
    (new ratePerSecond maximumRecordCharge).Within :=
  ⟨le_refl _, show 0 < nanosPerSecond by decide⟩

theorem checkedWord_eq_some {value : Nat} {word : UInt64} :
    checkedWord value = some word ↔ word.toNat = value := by
  unfold checkedWord
  split_ifs with small
  · rw [Option.some.injEq, ← UInt64.toNat_inj, UInt64.toNat_ofNat', Nat.mod_eq_of_lt small]
    exact eq_comm
  · have bound := word.toNat_lt
    constructor
    · intro impossible
      cases impossible
    · intro same
      omega

/-- The numerator before any check for overflow. -/
def credit (bucket : TokenBucket) (elapsed : Duration) : Nat :=
  bucket.ratePerSecond.toNat * elapsed.asNanos + bucket.remainderNanos.toNat

theorem earnedNumerator_eq_some {elapsed : Duration} {numerator : Nat}
    (earned : bucket.earnedNumerator elapsed = some numerator) :
    numerator = bucket.credit elapsed := by
  unfold earnedNumerator checkedWide at earned
  obtain ⟨product, first, second⟩ := Option.bind_eq_some_iff.mp earned
  split_ifs at first with small
  cases first
  split_ifs at second
  exact (Option.some.inj second).symm

/-- The bucket after a whole number of tokens was earned. -/
structure Earned (bucket : TokenBucket) (elapsed : Duration) (after : TokenBucket) : Prop where
  rate : after.ratePerSecond = bucket.ratePerSecond
  capacity : after.capacity = bucket.capacity
  remainder : after.remainderNanos.toNat = bucket.credit elapsed % nanosPerSecond
  tokens : after.tokens.toNat =
    min bucket.capacity.toNat (bucket.tokens.toNat + bucket.credit elapsed / nanosPerSecond)

@[simp] theorem carry_remainder (bucket : TokenBucket) (numerator : Nat) :
    (bucket.carry numerator).remainderNanos.toNat = numerator % nanosPerSecond := by
  have small : numerator % nanosPerSecond < nanosPerSecond := Nat.mod_lt _ (by decide)
  have below : nanosPerSecond < 2 ^ 64 := by decide
  show (UInt64.ofNat (numerator % nanosPerSecond)).toNat = _
  rw [UInt64.toNat_ofNat', Nat.mod_eq_of_lt (lt_trans small below)]

/-- Earned tokens fill the bucket at most. -/
theorem earn_eq (full : bucket.tokens.toNat ≤ bucket.capacity.toNat) (earned : UInt64) :
    ∃ tokens : UInt64, bucket.earn earned = (.ok (), { bucket with tokens := tokens }) ∧
      tokens.toNat = min bucket.capacity.toNat (bucket.tokens.toNat + earned.toNat) := by
  have left : (bucket.capacity - bucket.tokens).toNat =
      bucket.capacity.toNat - bucket.tokens.toNat :=
    UInt64.toNat_sub_of_le _ _ (UInt64.le_iff_toNat_le.mpr full)
  unfold earn
  by_cases fills : bucket.capacity - bucket.tokens ≤ earned
  · refine ⟨bucket.capacity, if_pos fills, ?_⟩
    rw [UInt64.le_iff_toNat_le] at fills
    omega
  · rw [UInt64.le_iff_toNat_le] at fills
    have bound := bucket.capacity.toNat_lt
    have total : checkedAdd bucket.tokens earned = some (bucket.tokens + earned) := by
      unfold checkedAdd
      rw [if_pos (by omega)]
    have sum := checkedAdd_eq_some.mp total
    refine ⟨bucket.tokens + earned, ?_, ?_⟩
    · rw [if_neg (by rwa [UInt64.le_iff_toNat_le]), total]
    · omega

/-- A replenishment earns its tokens, or fails: then at most the remainder
changes. -/
theorem replenish_cases (within : bucket.Within) (elapsed : Duration) :
    (∃ after : TokenBucket,
        bucket.replenish elapsed = (.ok (), after) ∧ bucket.Earned elapsed after) ∨
      bucket.replenish elapsed = (.error .overflow, bucket) ∨
      bucket.replenish elapsed = (.error .overflow, bucket.carry (bucket.credit elapsed)) := by
  unfold replenish
  cases counted : bucket.earnedNumerator elapsed with
  | none => exact Or.inr (Or.inl rfl)
  | some numerator =>
      rw [earnedNumerator_eq_some counted]
      dsimp only
      cases fits : checkedWord (bucket.credit elapsed / nanosPerSecond) with
      | none => exact Or.inr (Or.inr rfl)
      | some earned =>
          obtain ⟨tokens, done, total⟩ := earn_eq
            (show (bucket.carry (bucket.credit elapsed)).tokens.toNat ≤ _ from within.full) earned
          refine Or.inl ⟨_, done, rfl, rfl, carry_remainder bucket _, ?_⟩
          rw [← checkedWord_eq_some.mp fits]
          exact total

/-- A charge is taken from the tokens or refused without effect. -/
theorem charge_cases (bucket : TokenBucket) (units : UInt64) :
    (∃ tokens, bucket.charge units = (.ok (), { bucket with tokens := tokens }) ∧
        bucket.tokens.toNat = tokens.toNat + units.toNat) ∨
      bucket.charge units = (.error (.exceedsContract .mediaRecordsPerSecond), bucket) := by
  unfold charge
  cases taken : checkedSub bucket.tokens units with
  | none => exact Or.inr rfl
  | some tokens => exact Or.inl ⟨tokens, rfl, checkedSub_eq_some.mp taken⟩

/-! ## Runs -/

inductive Call where
  | replenish (elapsed : Duration)
  | charge (units : UInt64)
  deriving Repr, DecidableEq

def step (bucket : TokenBucket) : Call → Except ResourceError Unit × TokenBucket
  | .replenish elapsed => bucket.replenish elapsed
  | .charge units => bucket.charge units

def machine : Machine TokenBucket Call (Except ResourceError Unit) := ⟨step⟩

/-- The nanoseconds an event passed to the bucket, whatever the answer. -/
def elapsedIn (event : Event TokenBucket Call (Except ResourceError Unit)) : Nat :=
  match event.input with
  | .replenish elapsed => elapsed.asNanos
  | .charge _ => 0

/-- The units of a charge that succeeded. -/
def chargedIn (event : Event TokenBucket Call (Except ResourceError Unit)) : Nat :=
  match event.input, event.output with
  | .charge units, .ok () => units.toNat
  | _, _ => 0

def elapsedTotal (history : List (Event TokenBucket Call (Except ResourceError Unit))) : Nat :=
  (history.map elapsedIn).sum

def chargedTotal (history : List (Event TokenBucket Call (Except ResourceError Unit))) : Nat :=
  (history.map chargedIn).sum

/-- The account of a run: what was charged and what is left was earned. -/
structure Account (rate capacity : UInt64)
    (history : List (Event TokenBucket Call (Except ResourceError Unit)))
    (bucket : TokenBucket) : Prop where
  within : bucket.Within
  sameRate : bucket.ratePerSecond = rate
  sameCapacity : bucket.capacity = capacity
  credit : nanosPerSecond * (bucket.tokens.toNat + chargedTotal history) +
      bucket.remainderNanos.toNat ≤
    nanosPerSecond * capacity.toNat + rate.toNat * elapsedTotal history

theorem elapsedTotal_snoc (history : List (Event TokenBucket Call (Except ResourceError Unit)))
    (event : Event TokenBucket Call (Except ResourceError Unit)) :
    elapsedTotal (history ++ [event]) = elapsedTotal history + elapsedIn event := by
  simp [elapsedTotal]

theorem chargedTotal_snoc (history : List (Event TokenBucket Call (Except ResourceError Unit)))
    (event : Event TokenBucket Call (Except ResourceError Unit)) :
    chargedTotal (history ++ [event]) = chargedTotal history + chargedIn event := by
  simp [chargedTotal]

variable {rate capacity : UInt64}
  {history : List (Event TokenBucket Call (Except ResourceError Unit))}

theorem Account.charge (account : Account rate capacity history bucket) (units : UInt64) :
    Account rate capacity (history ++ [machine.event bucket (.charge units)])
      (bucket.charge units).2 := by
  have credit := account.credit
  have full := account.within.full
  rcases charge_cases bucket units with ⟨tokens, charged, taken⟩ | refused
  · have event : chargedIn (machine.event bucket (.charge units)) = units.toNat := by
      simp [chargedIn, machine, step, charged]
    have time : elapsedIn (machine.event bucket (.charge units)) = 0 := rfl
    rw [charged]
    refine ⟨⟨?_, account.within.carried⟩, account.sameRate, account.sameCapacity, ?_⟩
    · dsimp only
      omega
    · rw [chargedTotal_snoc, elapsedTotal_snoc, event, time]
      dsimp only
      have moved : tokens.toNat + (chargedTotal history + units.toNat) =
          bucket.tokens.toNat + chargedTotal history := by omega
      rw [moved]
      exact credit
  · have event : chargedIn (machine.event bucket (.charge units)) = 0 := by
      simp [chargedIn, machine, step, refused]
    have time : elapsedIn (machine.event bucket (.charge units)) = 0 := rfl
    rw [refused]
    refine ⟨account.within, account.sameRate, account.sameCapacity, ?_⟩
    rw [chargedTotal_snoc, elapsedTotal_snoc, event, time]
    exact credit

theorem Account.replenish (account : Account rate capacity history bucket) (elapsed : Duration) :
    Account rate capacity (history ++ [machine.event bucket (.replenish elapsed)])
      (bucket.replenish elapsed).2 := by
  have credit := account.credit
  have event : chargedIn (machine.event bucket (.replenish elapsed)) = 0 := rfl
  have time : elapsedIn (machine.event bucket (.replenish elapsed)) = elapsed.asNanos := rfl
  have worth : bucket.credit elapsed =
      rate.toNat * elapsed.asNanos + bucket.remainderNanos.toNat := by
    rw [TokenBucket.credit, account.sameRate]
  -- The credit is the tokens it earns and the remainder that is carried on.
  have split := Nat.div_add_mod (bucket.credit elapsed) nanosPerSecond
  have below : bucket.credit elapsed % nanosPerSecond < nanosPerSecond :=
    Nat.mod_lt _ (by decide)
  rcases replenish_cases account.within elapsed with
    ⟨after, done, earned⟩ | refused | refused
  · rw [done]
    have gained : after.tokens.toNat ≤
        bucket.tokens.toNat + bucket.credit elapsed / nanosPerSecond := by
      rw [earned.tokens]
      exact Nat.min_le_right _ _
    have scaled := Nat.mul_le_mul_left nanosPerSecond gained
    refine ⟨⟨?_, ?_⟩, earned.rate.trans account.sameRate,
      earned.capacity.trans account.sameCapacity, ?_⟩
    · rw [earned.capacity, earned.tokens]
      exact Nat.min_le_left _ _
    · rw [earned.remainder]
      exact below
    · rw [chargedTotal_snoc, elapsedTotal_snoc, event, time, earned.remainder,
        Nat.mul_add rate.toNat, Nat.add_zero]
      rw [Nat.mul_add] at scaled credit ⊢
      dsimp only
      omega
  · rw [refused]
    refine ⟨account.within, account.sameRate, account.sameCapacity, ?_⟩
    rw [chargedTotal_snoc, elapsedTotal_snoc, event, time, Nat.mul_add rate.toNat, Nat.add_zero]
    exact le_trans credit (Nat.add_le_add_left (Nat.le_add_right _ _) _)
  · rw [refused]
    refine ⟨⟨account.within.full, ?_⟩, account.sameRate, account.sameCapacity, ?_⟩
    · rw [carry_remainder]
      exact below
    · rw [chargedTotal_snoc, elapsedTotal_snoc, event, time, Nat.mul_add rate.toNat, Nat.add_zero]
      rw [carry_remainder]
      dsimp only [carry]
      omega

/-- Every run keeps its account. -/
theorem account_final (rate maximumRecordCharge : UInt64) (calls : List Call) :
    Account rate (max rate maximumRecordCharge)
      (machine.history (new rate maximumRecordCharge) calls)
      (machine.final (new rate maximumRecordCharge) calls) := by
  refine @Machine.history_induction _ _ _ machine (Account rate (max rate maximumRecordCharge)) _
    ?_ ?_ calls
  · exact ⟨within_new rate maximumRecordCharge, rfl, rfl, by
      simp [new, chargedTotal, elapsedTotal]⟩
  · intro past bucket call account
    cases call with
    | replenish elapsed => exact account.replenish elapsed
    | charge units => exact account.charge units

/-! ## Replenishing in two steps -/

theorem ext_toNat {other : TokenBucket} (rate : bucket.ratePerSecond = other.ratePerSecond)
    (capacity : bucket.capacity = other.capacity)
    (tokens : bucket.tokens.toNat = other.tokens.toNat)
    (remainder : bucket.remainderNanos.toNat = other.remainderNanos.toNat) : bucket = other := by
  cases bucket
  cases other
  simp only [mk.injEq]
  exact ⟨rate, capacity, UInt64.toNat_inj.mp tokens, UInt64.toNat_inj.mp remainder⟩

theorem replenish_earned (within : bucket.Within) {elapsed : Duration} {after : TokenBucket}
    (done : bucket.replenish elapsed = (.ok (), after)) : bucket.Earned elapsed after := by
  rcases replenish_cases within elapsed with ⟨other, same, earned⟩ | refused | refused
  · rw [done] at same
    cases same
    exact earned
  · rw [done] at refused
    cases refused
  · rw [done] at refused
    cases refused

/-- Two times with nothing charged between them count as their sum. -/
theorem replenish_add (within : bucket.Within) {first second whole : Duration}
    (sum : whole.asNanos = first.asNanos + second.asNanos) {middle after once : TokenBucket}
    (begun : bucket.replenish first = (.ok (), middle))
    (ended : middle.replenish second = (.ok (), after))
    (atOnce : bucket.replenish whole = (.ok (), once)) : after = once := by
  have one := replenish_earned within begun
  have positive : 0 < nanosPerSecond := by decide
  have kept : middle.Within := by
    refine ⟨?_, ?_⟩
    · rw [one.tokens, one.capacity]
      exact Nat.min_le_left _ _
    · rw [one.remainder]
      exact Nat.mod_lt _ positive
  have two := replenish_earned kept ended
  have all := replenish_earned within atOnce
  -- The numerator of the whole time, split at the tokens the first part earned.
  have carried : bucket.credit whole = middle.credit second +
      nanosPerSecond * (bucket.credit first / nanosPerSecond) := by
    have split := Nat.div_add_mod (bucket.credit first) nanosPerSecond
    have worth : bucket.credit whole =
        bucket.credit first + bucket.ratePerSecond.toNat * second.asNanos := by
      unfold credit
      rw [sum, Nat.mul_add]
      omega
    rw [worth, credit.eq_def middle, one.rate, one.remainder]
    omega
  refine ext_toNat ?_ ?_ ?_ ?_
  · rw [two.rate, one.rate, all.rate]
  · rw [two.capacity, one.capacity, all.capacity]
  · rw [two.tokens, all.tokens, carried, Nat.add_mul_div_left _ _ positive, one.tokens,
      one.capacity]
    generalize middle.credit second / nanosPerSecond = later
    generalize bucket.credit first / nanosPerSecond = sooner
    omega
  · rw [two.remainder, all.remainder, carried, Nat.add_mul_mod_self_left]

/-- The bucket never holds or grants more than was earned, a refused charge is
without effect, and time may be passed in parts. -/
theorem token_bucket_conserves (rate maximumRecordCharge : UInt64) (calls : List Call) :
    let start := new rate maximumRecordCharge
    let history := machine.history start calls
    let bucket := machine.final start calls
    (bucket.tokens ≤ bucket.capacity ∧ bucket.remainderNanos.toNat < 10 ^ 9 ∧
      10 ^ 9 * (bucket.tokens.toNat + chargedTotal history) + bucket.remainderNanos.toNat ≤
        10 ^ 9 * bucket.capacity.toNat + rate.toNat * elapsedTotal history) ∧
    (∀ (units : UInt64) (error : ResourceError) (after : TokenBucket),
      bucket.charge units = (.error error, after) → after = bucket) ∧
    (∀ (first second whole : Duration) (middle after once : TokenBucket),
      whole.asNanos = first.asNanos + second.asNanos →
      bucket.replenish first = (.ok (), middle) → middle.replenish second = (.ok (), after) →
      bucket.replenish whole = (.ok (), once) → after = once) := by
  intro start history bucket
  have account := account_final rate maximumRecordCharge calls
  have credit := account.credit
  rw [← account.sameCapacity] at credit
  refine ⟨⟨UInt64.le_iff_toNat_le.mpr account.within.full, account.within.carried, credit⟩, ?_, ?_⟩
  · intro units error after refused
    rcases charge_cases bucket units with ⟨_, charged, _⟩ | same
    · rw [charged] at refused
      cases refused
    · rw [same] at refused
      cases refused
      rfl
  · intro first second whole middle after once sum begun ended atOnce
    exact replenish_add account.within sum begun ended atOnce


def halfSecond : Duration := ⟨0, 500000000, by decide⟩

/-- Three tokens a second: a half second twice, after a charge, is one second. -/
theorem token_bucket_conserves_halves :
    ((((new 3 5).charge 4).2.replenish halfSecond).2.replenish halfSecond).2 =
      (((new 3 5).charge 4).2.replenish ⟨1, 0, by decide⟩).2 :=
  (token_bucket_conserves 3 5 [.charge 4]).2.2 halfSecond halfSecond ⟨1, 0, by decide⟩
    (((new 3 5).charge 4).2.replenish halfSecond).2 _ _ (by decide) (by decide) (by decide)
    (by decide)

/-! ## The wait for a charge -/

/-- A charge succeeds exactly when the tokens cover it. -/
theorem charge_ok_iff (bucket : TokenBucket) (units : UInt64) :
    (bucket.charge units).1 = .ok () ↔ units.toNat ≤ bucket.tokens.toNat := by
  unfold charge
  cases taken : checkedSub bucket.tokens units with
  | none =>
      have short : ¬ units.toNat ≤ bucket.tokens.toNat := by
        intro covered
        rw [checkedSub, if_pos covered] at taken
        cases taken
      simp [short]
  | some tokens =>
      have exact := checkedSub_eq_some.mp taken
      have covered : units.toNat ≤ bucket.tokens.toNat := by omega
      simp [covered]

/-- A replenishment whose tokens fit in a word succeeds. -/
theorem replenish_ok (within : bucket.Within) {elapsed : Duration}
    (fits : bucket.credit elapsed < nanosPerSecond * 2 ^ 64) :
    ∃ after : TokenBucket,
      bucket.replenish elapsed = (.ok (), after) ∧ bucket.Earned elapsed after := by
  have wide : nanosPerSecond * 2 ^ 64 < 2 ^ 128 := by decide
  have sum : bucket.ratePerSecond.toNat * elapsed.asNanos + bucket.remainderNanos.toNat < 2 ^ 128 :=
    lt_trans fits wide
  have counted : bucket.earnedNumerator elapsed = some (bucket.credit elapsed) := by
    unfold earnedNumerator checkedWide
    rw [if_pos (lt_of_le_of_lt (Nat.le_add_right _ _) sum)]
    exact if_pos sum
  have word : bucket.credit elapsed / nanosPerSecond < 2 ^ 64 := Nat.div_lt_of_lt_mul fits
  obtain ⟨tokens, ends, total⟩ := earn_eq
    (show (bucket.carry (bucket.credit elapsed)).tokens.toNat ≤ _ from within.full)
    (UInt64.ofNat (bucket.credit elapsed / nanosPerSecond))
  rw [UInt64.toNat_ofNat', Nat.mod_eq_of_lt word] at total
  have done : bucket.replenish elapsed = (bucket.carry (bucket.credit elapsed)).earn
      (UInt64.ofNat (bucket.credit elapsed / nanosPerSecond)) := by
    unfold replenish
    rw [counted]
    simp only [checkedWord, if_pos word]
  exact ⟨_, done.trans ends, rfl, rfl, carry_remainder bucket _, total⟩

/-- The nanoseconds still owed for a charge, before they are rounded to a wait. -/
def owed (bucket : TokenBucket) (units : UInt64) : Nat :=
  (units.toNat - bucket.tokens.toNat) * nanosPerSecond - bucket.remainderNanos.toNat

/-- A replenished bucket covers a charge exactly when the time earned what was
owed. -/
theorem Earned.covers_iff {elapsed : Duration} {after : TokenBucket} {units : UInt64}
    (earned : bucket.Earned elapsed after) (small : units.toNat ≤ bucket.capacity.toNat) :
    units.toNat ≤ after.tokens.toNat ↔
      bucket.owed units ≤ bucket.ratePerSecond.toNat * elapsed.asNanos := by
  have whole : units.toNat - bucket.tokens.toNat ≤ bucket.credit elapsed / nanosPerSecond ↔
      (units.toNat - bucket.tokens.toNat) * nanosPerSecond ≤ bucket.credit elapsed :=
    Nat.le_div_iff_mul_le (by decide)
  have deficit : units.toNat ≤ after.tokens.toNat ↔
      units.toNat - bucket.tokens.toNat ≤ bucket.credit elapsed / nanosPerSecond := by
    rw [earned.tokens]
    generalize bucket.credit elapsed / nanosPerSecond = gained
    omega
  rw [deficit, whole, owed, Nat.sub_le_iff_le_add, credit]

theorem timeUntil_eq_now {units : UInt64} (found : bucket.timeUntil units = .ok none) :
    units ≤ bucket.tokens := by
  unfold timeUntil at found
  split_ifs at found with now never
  · exact now
  · cases wide : checkedWide ((units - bucket.tokens).toNat * nanosPerSecond) with
    | none => simp [wide] at found
    | some deficit =>
        rw [wide] at found
        dsimp only at found
        cases word : checkedWord ((deficit - bucket.remainderNanos.toNat) ⌈/⌉
            bucket.ratePerSecond.toNat) with
        | none => simp [word] at found
        | some nanos => simp [word] at found

/-- A charge that the bucket can never hold, or that it will not earn. -/
structure Starved (units : UInt64) (bucket : TokenBucket) : Prop where
  within : bucket.Within
  short : bucket.tokens.toNat < units.toNat
  never : bucket.capacity.toNat < units.toNat ∨ bucket.ratePerSecond = 0

theorem timeUntil_eq_never {units : UInt64} {resource : Resource}
    (refused : bucket.timeUntil units = .error (.exceedsContract resource))
    (within : bucket.Within) : bucket.Starved units := by
  unfold timeUntil at refused
  split_ifs at refused with now never
  · rw [UInt64.le_iff_toNat_le, not_le] at now
    exact ⟨within, now, never.imp UInt64.lt_iff_toNat_lt.mp id⟩
  · cases wide : checkedWide ((units - bucket.tokens).toNat * nanosPerSecond) with
    | none => simp [wide] at refused
    | some deficit =>
        rw [wide] at refused
        dsimp only at refused
        cases word : checkedWord ((deficit - bucket.remainderNanos.toNat) ⌈/⌉
            bucket.ratePerSecond.toNat) with
        | none => simp [word] at refused
        | some nanos => simp [word] at refused

/-- No replenishment ends the wait for such a charge. -/
theorem Starved.replenish {units : UInt64} (starved : bucket.Starved units)
    (elapsed : Duration) : (bucket.replenish elapsed).2.Starved units := by
  have carried : bucket.credit elapsed % nanosPerSecond < nanosPerSecond :=
    Nat.mod_lt _ (by decide)
  rcases replenish_cases starved.within elapsed with ⟨after, done, earned⟩ | refused | refused
  · rw [done]
    have tokens := earned.tokens
    have kept : after.Within := by
      refine ⟨?_, by rwa [earned.remainder]⟩
      rw [earned.capacity, tokens]
      exact Nat.min_le_left _ _
    refine ⟨kept, ?_, by rw [earned.capacity, earned.rate]; exact starved.never⟩
    have short := starved.short
    show after.tokens.toNat < units.toNat
    rw [tokens]
    rcases starved.never with large | idle
    · exact lt_of_le_of_lt (Nat.min_le_left _ _) large
    · -- With no rate only the remainder is left, which is less than a token.
      have nothing : bucket.credit elapsed / nanosPerSecond = 0 := by
        apply Nat.div_eq_of_lt
        simpa [credit, idle] using starved.within.carried
      rw [nothing]
      omega
  · rw [refused]
    exact starved
  · rw [refused]
    refine ⟨⟨starved.within.full, ?_⟩, starved.short, starved.never⟩
    rw [carry_remainder]
    exact carried

theorem starved_final {units : UInt64} (starved : bucket.Starved units)
    (waits : List Duration) : (machine.final bucket (waits.map .replenish)).Starved units := by
  induction waits generalizing bucket with
  | nil => exact starved
  | cons elapsed rest ih => exact ih (starved.replenish elapsed)

/-- How a wait is found. -/
theorem timeUntil_eq_wait {units : UInt64} {wait : Duration}
    (found : bucket.timeUntil units = .ok (some wait)) :
    bucket.tokens.toNat < units.toNat ∧ units.toNat ≤ bucket.capacity.toNat ∧
      0 < bucket.ratePerSecond.toNat ∧
      wait.asNanos = bucket.owed units ⌈/⌉ bucket.ratePerSecond.toNat := by
  unfold timeUntil at found
  split_ifs at found with now never
  · cases found
  rw [UInt64.le_iff_toNat_le, not_le] at now
  rw [not_or, UInt64.not_lt, UInt64.le_iff_toNat_le] at never
  have difference : (units - bucket.tokens).toNat = units.toNat - bucket.tokens.toNat :=
    UInt64.toNat_sub_of_le _ _ (UInt64.le_iff_toNat_le.mpr now.le)
  have moving : 0 < bucket.ratePerSecond.toNat := by
    rw [Nat.pos_iff_ne_zero]
    exact fun zero => never.2 (UInt64.toNat_inj.mp zero)
  refine ⟨now, never.1, moving, ?_⟩
  cases wide : checkedWide ((units - bucket.tokens).toNat * nanosPerSecond) with
  | none => simp [wide] at found
  | some deficit =>
      have exact : deficit = (units.toNat - bucket.tokens.toNat) * nanosPerSecond := by
        unfold checkedWide at wide
        split_ifs at wide
        rw [← difference]
        exact (Option.some.inj wide).symm
      rw [wide] at found
      dsimp only at found
      cases word : checkedWord ((deficit - bucket.remainderNanos.toNat) ⌈/⌉
          bucket.ratePerSecond.toNat) with
      | none => simp [word] at found
      | some nanos =>
          rw [word, Except.ok.injEq, Option.some.injEq] at found
          rw [← found, Duration.fromNanos_asNanos, checkedWord_eq_some.mp word, owed, exact]

/-- No time up to the wait earns more than a word of tokens. -/
theorem credit_fits {units : UInt64} {wait elapsed : Duration} (within : bucket.Within)
    (bounded : bucket.capacity.toNat < 2 ^ 63)
    (found : bucket.timeUntil units = .ok (some wait))
    (atMost : elapsed.asNanos ≤ wait.asNanos) :
    bucket.credit elapsed < nanosPerSecond * 2 ^ 64 := by
  obtain ⟨short, small, moving, exact⟩ := timeUntil_eq_wait found
  have carried := within.carried
  have rate := bucket.ratePerSecond.toNat_lt
  have deficit : bucket.owed units ≤ 2 ^ 63 * nanosPerSecond := by
    unfold owed
    refine le_trans (Nat.sub_le _ _) (Nat.mul_le_mul_right _ ?_)
    omega
  -- The wait overshoots what is owed by less than one nanosecond's earnings.
  have overshoot : bucket.ratePerSecond.toNat * wait.asNanos <
      bucket.owed units + bucket.ratePerSecond.toNat := by
    rw [exact, Nat.ceilDiv_eq_add_pred_div]
    have floor := Nat.mul_div_le (bucket.owed units + bucket.ratePerSecond.toNat - 1)
      bucket.ratePerSecond.toNat
    omega
  have less := Nat.mul_le_mul_left bucket.ratePerSecond.toNat atMost
  unfold credit
  unfold nanosPerSecond at *
  omega

/-- The wait for a charge is exact: at its end the charge succeeds, at any earlier
time it does not, and a charge without a wait never succeeds. -/
theorem time_until_exact (rate maximumRecordCharge : UInt64) (calls : List Call)
    (units : UInt64)
    (bounded : (machine.final (new rate maximumRecordCharge) calls).capacity.toNat < 2 ^ 63) :
    let bucket := machine.final (new rate maximumRecordCharge) calls
    (bucket.timeUntil units = .ok none → (bucket.charge units).1 = .ok ()) ∧
    (∀ wait, bucket.timeUntil units = .ok (some wait) →
      (bucket.replenish wait).1 = .ok () ∧
        ((bucket.replenish wait).2.charge units).1 = .ok () ∧
        ∀ shorter : Duration, shorter.asNanos < wait.asNanos →
          (bucket.replenish shorter).1 = .ok () ∧
            ((bucket.replenish shorter).2.charge units).1 ≠ .ok ()) ∧
    (∀ resource, bucket.timeUntil units = .error (.exceedsContract resource) →
      ∀ waits : List Duration,
        ((machine.final bucket (waits.map .replenish)).charge units).1 ≠ .ok ()) := by
  intro bucket
  have within := (account_final rate maximumRecordCharge calls).within
  refine ⟨?_, ?_, ?_⟩
  · intro now
    rw [charge_ok_iff, ← UInt64.le_iff_toNat_le]
    exact timeUntil_eq_now now
  · intro wait found
    obtain ⟨short, small, moving, exact⟩ := timeUntil_eq_wait found
    have reached (elapsed : Duration) (atMost : elapsed.asNanos ≤ wait.asNanos) :
        (bucket.replenish elapsed).1 = .ok () ∧
          (((bucket.replenish elapsed).2.charge units).1 = .ok () ↔
            wait.asNanos ≤ elapsed.asNanos) := by
      obtain ⟨after, done, earned⟩ :=
        replenish_ok within (credit_fits within bounded found atMost)
      rw [done, charge_ok_iff, earned.covers_iff small, exact, ceilDiv_le_iff_le_mul moving]
      exact ⟨rfl, Iff.rfl⟩
    refine ⟨(reached wait le_rfl).1, (reached wait le_rfl).2.mpr le_rfl, ?_⟩
    intro shorter less
    have outcome := reached shorter less.le
    refine ⟨outcome.1, ?_⟩
    rw [ne_eq, outcome.2, not_le]
    exact less
  · intro resource never waits
    rw [ne_eq, charge_ok_iff, not_le]
    exact (starved_final (timeUntil_eq_never never within) waits).short

def quarterSecond : Duration := ⟨0, 250000000, by decide⟩

/-- An empty bucket that earns a thousand tokens a second. -/
theorem time_until_exact_quarter :
    ((((new 1000 1000).charge 1000).2.replenish quarterSecond).2.charge 250).1 = .ok () :=
  ((time_until_exact 1000 1000 [.charge 1000] 250 (by decide)).2.1 quarterSecond
    (by decide)).2.1

end TokenBucket

end VividProtocol
