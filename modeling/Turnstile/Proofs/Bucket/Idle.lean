import Turnstile.Proofs.Bucket.Eighths
import Turnstile.Proofs.Bucket.Rate

/-!
# Calls that take nothing

A look at a bucket and a refused request take no token, but they fill the bucket up, and
filling it in several steps rounds several times. On the grid of eighths of a second
nothing is rounded, and such calls change no other answer: filling a bucket on the way
leaves no trace (`Mirrors.refill_refill`). Off the grid the roundings can keep the token
from a caller who goes on asking for it, but for no longer than a millisecond: all of them
together take off less than a millisecond restores (`Holds.le_run_of_idle`).
-/

namespace Turnstile

open Binary64

namespace Bucket

variable {bucket : Bucket} {tokens : Rat} {start : UInt64} {exact : ExactBucket}

/-! ## Idle calls -/

/-- A call sees nothing of a bucket but what it is when filled up to its reading. -/
theorem call_congr {left right : Bucket} {call : Call}
    (same : left.refill call.reading = right.refill call.reading) :
    left.call call = right.call call := by
  cases call with
  | consume reading =>
      change left.refill reading = right.refill reading at same
      simp only [Bucket.call, consume_congr same]
  | available reading =>
      change left.refill reading = right.refill reading at same
      simp only [Bucket.call, available, same]

/-- A call that takes no token leaves the bucket filled up to its reading. -/
theorem call_of_idle {call : Call} (idle : (bucket.call call).1.isAdmission = false) :
    (bucket.call call).2 = bucket.refill call.reading := by
  cases call with
  | available reading => rfl
  | consume reading =>
      change (bucket.consume reading).1.isAdmitted = false at idle
      change (bucket.consume reading).2 = bucket.refill reading
      unfold consume at idle ⊢
      simp only at idle ⊢
      split
      · next enough =>
          rw [if_pos enough] at idle
          cases idle
      · rfl

/-! ## On the grid -/

/-- A bucket is told by its exact bucket. -/
theorem Mirrors.eq {other : Bucket} (mirrors : Mirrors start bucket exact)
    (others : Mirrors start other exact) : bucket = other := by
  have limits := mirrors.limits.symm.trans others.limits
  have count := mirrors.holds.count.trans others.holds.count.symm
  have lastRefill := mirrors.lastRefill.symm.trans others.lastRefill
  cases bucket
  cases other
  cases limits
  cases count
  cases UInt64.toNat_inj.mp lastRefill
  rfl

/-- On the grid, filling a bucket on the way to a later reading changes nothing. -/
theorem Mirrors.refill_refill (mirrors : Mirrors start bucket exact)
    (small : bucket.limits.capacity.toNat ≤ 2 ^ 50) {first second : UInt64}
    (firstOnGrid : OnGrid start first) (secondOnGrid : OnGrid start second)
    (order : first ≤ second) : (bucket.refill first).refill second = bucket.refill second := by
  have twice := (mirrors.refill small firstOnGrid).refill (by simpa using small) secondOnGrid
  rw [exact.refill_refill (UInt64.le_iff_toNat_le.mp order)] at twice
  exact twice.eq (mirrors.refill small secondOnGrid)

/-- A call of a run, and whether it was put into the run. -/
structure Entry where
  call : Call
  inserted : Bool
  deriving DecidableEq, Repr

/-- The calls that were there before others were put in. -/
def own (entries : List Entry) : List Call :=
  (entries.filter fun entry => !entry.inserted).map Entry.call

/-- A run of all calls, each with its answer. -/
def answered (bucket : Bucket) (entries : List Entry) : List (Entry × Reply) :=
  entries.zip (bucket.run (entries.map Entry.call)).1

/-- The answers to the calls that were there before, in the run of all calls. -/
def ownReplies (bucket : Bucket) (entries : List Entry) : List Reply :=
  ((bucket.answered entries).filter fun pair => !pair.1.inserted).map Prod.snd

/-- The calls that were put in are looks and refused requests. -/
def InsertedIdle (bucket : Bucket) (entries : List Entry) : Prop :=
  ∀ pair ∈ bucket.answered entries, pair.1.inserted = true → pair.2.isAdmission = false

instance (bucket : Bucket) (entries : List Entry) : Decidable (bucket.InsertedIdle entries) :=
  inferInstanceAs (Decidable (∀ pair ∈ bucket.answered entries,
    pair.1.inserted = true → pair.2.isAdmission = false))

theorem answered_cons (bucket : Bucket) (entry : Entry) (rest : List Entry) :
    bucket.answered (entry :: rest) =
      (entry, (bucket.call entry.call).1) :: (bucket.call entry.call).2.answered rest := rfl

theorem InsertedIdle.rest {entry : Entry} {rest : List Entry}
    (idle : bucket.InsertedIdle (entry :: rest)) :
    (bucket.call entry.call).2.InsertedIdle rest :=
  fun pair member => idle pair (List.mem_cons_of_mem _ member)

theorem ownReplies_of_inserted {entry : Entry} (inserted : entry.inserted = true)
    (rest : List Entry) :
    bucket.ownReplies (entry :: rest) = (bucket.call entry.call).2.ownReplies rest := by
  simp [ownReplies, answered_cons, inserted]

theorem ownReplies_of_own {entry : Entry} (kept : entry.inserted = false) (rest : List Entry) :
    bucket.ownReplies (entry :: rest) =
      (bucket.call entry.call).1 :: (bucket.call entry.call).2.ownReplies rest := by
  simp [ownReplies, answered_cons, kept]

/-- Two buckets that are the same once filled up to any reading to come give the same
answers, whether or not the one is called in between by calls that take nothing. -/
private theorem ownReplies_of_refill_eq {other : Bucket} {entries : List Entry}
    (mirrors : Mirrors start bucket exact) (positive : bucket.limits.Positive)
    (small : bucket.limits.capacity.toNat ≤ 2 ^ 50)
    (onGrid : ∀ entry ∈ entries, OnGrid start entry.call.reading)
    (sorted : (entries.map fun entry => entry.call.reading).Pairwise (· ≤ ·))
    (idle : bucket.InsertedIdle entries)
    (same : ∀ entry ∈ entries,
      bucket.refill entry.call.reading = other.refill entry.call.reading) :
    bucket.ownReplies entries = (other.run (own entries)).1 := by
  induction entries generalizing bucket other exact with
  | nil => rfl
  | cons entry rest inductionHypothesis =>
      have entryOnGrid := onGrid entry List.mem_cons_self
      have restOnGrid : ∀ entry ∈ rest, OnGrid start entry.call.reading :=
        fun entry member => onGrid entry (List.mem_cons_of_mem _ member)
      obtain ⟨first, restSorted⟩ := List.pairwise_cons.mp sorted
      have next := (mirrors.call positive small entryOnGrid).2
      have restReplies := @inductionHypothesis (bucket.call entry.call).2
      cases kind : entry.inserted with
      | true =>
          have filled : (bucket.call entry.call).2 = bucket.refill entry.call.reading :=
            call_of_idle (idle _ List.mem_cons_self kind)
          rw [ownReplies_of_inserted kind, own, List.filter_cons_of_neg (by simp [kind])]
          refine restReplies next (by simpa using positive) (by simpa using small) restOnGrid
            restSorted idle.rest fun later member => ?_
          have order := first _ (List.mem_map_of_mem member)
          rw [filled, mirrors.refill_refill small entryOnGrid (restOnGrid later member) order]
          exact same later (List.mem_cons_of_mem _ member)
      | false =>
          have alike := call_congr (same entry List.mem_cons_self)
          rw [ownReplies_of_own kind, own, List.filter_cons_of_pos (by simp [kind]),
            List.map_cons, run_cons, ← alike]
          congr 1
          exact restReplies next (by simpa using positive) (by simpa using small) restOnGrid
            restSorted idle.rest fun later member => rfl

/-- On the grid, calls that take nothing leave no trace at a later reading. -/
theorem Mirrors.refill_run_of_idle (mirrors : Mirrors start bucket exact)
    (positive : bucket.limits.Positive) (small : bucket.limits.capacity.toNat ≤ 2 ^ 50)
    {calls : List Call} (onGrid : ∀ call ∈ calls, OnGrid start call.reading)
    (idle : ∀ reply ∈ (bucket.run calls).1, reply.isAdmission = false) {later : UInt64}
    (laterOnGrid : OnGrid start later) (before : ∀ call ∈ calls, call.reading ≤ later) :
    (bucket.run calls).2.refill later = bucket.refill later := by
  induction calls generalizing bucket exact with
  | nil => rfl
  | cons call rest inductionHypothesis =>
      have callOnGrid := onGrid call List.mem_cons_self
      have filled : (bucket.call call).2 = bucket.refill call.reading :=
        call_of_idle (idle _ List.mem_cons_self)
      calc ((bucket.call call).2.run rest).2.refill later
          = (bucket.call call).2.refill later :=
            inductionHypothesis (mirrors.call positive small callOnGrid).2
              (by simpa using positive) (by simpa using small)
              (fun call member => onGrid call (List.mem_cons_of_mem _ member))
              (fun reply member => idle reply (List.mem_cons_of_mem _ member))
              (fun call member => before call (List.mem_cons_of_mem _ member))
        _ = bucket.refill later := by
          rw [filled]
          exact mirrors.refill_refill small callOnGrid laterOnGrid (before call List.mem_cons_self)

end Bucket

/-! ## Waiting -/

namespace Limits

variable {limits : Limits} {elapsed : UInt64}

/-- A bucket of some capacity has room for one token. -/
theorem one_le_brim (positive : limits.Positive) : 1 ≤ limits.brim :=
  one_le_nearest_toNat positive.capacity

/-- A rate of at least one token in a second does not make a gain less than the seconds
that passed. -/
private theorem nearest_seconds_le_gain (recovers : limits.refill ≠ 0) :
    nearest (nearest elapsed.toNat / 1000) ≤ limits.gain elapsed := by
  have rate := one_le_nearest_toNat recovers
  have nonneg : 0 ≤ nearest (nearest elapsed.toNat / 1000) :=
    nearest_nonneg (div_nonneg (nearest_nonneg (Nat.cast_nonneg _)) (by norm_num))
  exact le_nearest (nearest_representable _) (le_mul_of_one_le_right nonneg rate)

/-- A second restores a whole token. -/
theorem one_le_gain (recovers : limits.refill ≠ 0) (second : 1000 ≤ elapsed.toNat) :
    1 ≤ limits.gain elapsed := by
  have secondRat : ((1000 : Nat) : Rat) ≤ elapsed.toNat := by exact_mod_cast second
  have rounded : ((1000 : Nat) : Rat) ≤ nearest elapsed.toNat := by
    rw [← nearest_natCast (n := 1000) (by norm_num)]
    exact nearest_mono secondRat
  refine le_trans (le_nearest .one ?_) (nearest_seconds_le_gain recovers)
  rw [le_div_iff₀ (by norm_num), one_mul]
  exact_mod_cast rounded

/-- Two roundings can lower the seconds that passed. -/
theorem le_gain (recovers : limits.refill ≠ 0) (passed : 1 ≤ elapsed.toNat) :
    elapsed.toNat / 1000 * (1 - 1 / 2 ^ 53) ^ 2 ≤ limits.gain elapsed := by
  have passedRat : (1 : Rat) ≤ elapsed.toNat := by exact_mod_cast passed
  have milliseconds := mul_le_nearest (show (1 / 1024 : Rat) ≤ elapsed.toNat by linarith)
  have rounded : 1 ≤ nearest elapsed.toNat := le_nearest .one passedRat
  have seconds := mul_le_nearest (show (1 / 1024 : Rat) ≤ nearest elapsed.toNat / 1000 by linarith)
  refine le_trans ?_ (nearest_seconds_le_gain recovers)
  norm_num at milliseconds seconds ⊢
  linarith

end Limits

namespace Bucket

variable {bucket : Bucket} {tokens : Rat} {start : UInt64} {exact : ExactBucket}

/-- Who has waited for a second since the last refill finds a token. -/
theorem Holds.one_le_level (holds : bucket.Holds tokens) (positive : bucket.limits.Positive)
    {later : UInt64} (waited : bucket.lastRefill.toNat + 1000 ≤ later.toNat) :
    1 ≤ bucket.level tokens later := by
  rcases bucket.level_cases tokens later with ⟨stale, _⟩ | ⟨elapsed, _, since, level⟩
  · omega
  · have gain : 1 ≤ bucket.limits.gain elapsed := Limits.one_le_gain positive.refill (by omega)
    have empty := holds.nonneg
    rw [level]
    exact le_min (le_nearest .one (by linarith)) (Limits.one_le_brim positive)

/-- Up to a whole token, a bucket gains at least one part in 1001 of a token in every
millisecond. -/
theorem Holds.le_level_of_elapsed (holds : bucket.Holds tokens)
    (positive : bucket.limits.Positive) (now : UInt64) :
    min 1 (tokens +
        ((bucket.refill now).lastRefill.toNat - bucket.lastRefill.toNat : Rat) / 1001) ≤
      bucket.level tokens now := by
  rw [refill_lastRefill]
  rcases bucket.level_cases tokens now with ⟨stale, level⟩ | ⟨elapsed, passed, since, level⟩
  · rw [level, max_eq_left stale, sub_self, zero_div, add_zero]
    exact min_le_right _ _
  · have passedRat : (1 : Rat) ≤ elapsed.toNat := by exact_mod_cast passed
    have gain := Limits.le_gain positive.refill passed
    have empty := holds.nonneg
    rw [level, since, max_eq_right (Nat.le_add_right _ _), Nat.cast_add, add_sub_cancel_left]
    generalize (elapsed.toNat : Rat) = milliseconds at *
    generalize bucket.limits.gain elapsed = gained at *
    refine le_min ?_ ((min_le_left _ _).trans (Limits.one_le_brim positive))
    rcases le_or_gt 1 (tokens + gained) with covered | short
    · exact (min_le_left _ _).trans (le_nearest .one covered)
    · -- The rounding of a sum below one takes off less than a refill of one millisecond
      -- is above one part in 1001.
      refine (min_le_right _ _).trans ?_
      have sum := mul_le_nearest (show 1 / 1024 ≤ tokens + gained by
        norm_num at gain ⊢; linarith)
      norm_num at gain sum ⊢
      linarith

/-- Over a run of calls that take nothing, the parts gained add up. -/
theorem Holds.le_run_of_idle (holds : bucket.Holds tokens) (positive : bucket.limits.Positive)
    {calls : List Call} (idle : ∀ reply ∈ (bucket.run calls).1, reply.isAdmission = false) :
    ∃ left, (bucket.run calls).2.Holds left ∧
      min 1 (tokens +
          ((bucket.run calls).2.lastRefill.toNat - bucket.lastRefill.toNat : Rat) / 1001) ≤
        left := by
  induction calls generalizing bucket tokens with
  | nil =>
      refine ⟨tokens, holds, (min_le_right _ _).trans ?_⟩
      simp
  | cons call rest inductionHypothesis =>
      have filled : (bucket.call call).2 = bucket.refill call.reading :=
        call_of_idle (idle _ List.mem_cons_self)
      have holdsNext := holds.refill call.reading
      have first := holds.le_level_of_elapsed positive call.reading
      rw [← filled] at holdsNext first
      obtain ⟨left, holdsLeft, others⟩ := inductionHypothesis holdsNext (by simpa using positive)
        fun reply member => idle reply (List.mem_cons_of_mem _ member)
      refine ⟨left, holdsLeft, le_trans ?_ others⟩
      have later : ((bucket.call call).2.lastRefill.toNat : Rat) ≤
          ((bucket.call call).2.run rest).2.lastRefill.toNat := by
        rw [run_lastRefill]
        exact_mod_cast le_max_left _ _
      rw [run_cons]
      refine le_min (min_le_left _ _) ?_
      rcases min_le_iff.mp first with whole | part
      · exact (min_le_left _ _).trans (by linarith)
      · exact (min_le_right _ _).trans (by linarith)

/-- A caller who was refused a token at a clock reading, and all later calls up to now,
none of which took one. -/
structure Waiting (bucket : Bucket) (now : UInt64) (calls : List Call) : Prop where
  refused : (bucket.consume now).1.isAdmitted = false
  idle : ∀ reply ∈ ((bucket.consume now).2.run calls).1, reply.isAdmission = false

/-- The clock reading at which a caller who is refused a token is told to come back. -/
def due (bucket : Bucket) (now : UInt64) : Nat :=
  (bucket.consume now).2.lastRefill.toNat + 1000 * (bucket.consume now).1.retryAfter.toNat

/-- Whoever is refused is told to come back after a second. -/
private theorem Waiting.due_eq {now : UInt64} {calls : List Call}
    (waiting : Waiting bucket now calls) (holds : bucket.Holds tokens)
    (positive : bucket.limits.Positive) :
    bucket.due now = (bucket.consume now).2.lastRefill.toNat + 1000 := by
  rw [due, holds.decision_of_refused positive.refill waiting.refused]
  rfl

/-- A refused caller who keeps calling is admitted one millisecond after he was told to
come back, if not before. -/
private theorem Waiting.admitted {now later : UInt64} {calls : List Call}
    (waiting : Waiting bucket now calls) (holds : bucket.Holds tokens)
    (positive : bucket.limits.Positive) (passed : bucket.due now + 1 ≤ later.toNat) :
    (((bucket.consume now).2.run calls).2.consume later).1.isAdmitted = true := by
  rw [waiting.due_eq holds positive] at passed
  obtain ⟨left, holdsLeft⟩ := holds.call (.consume now)
  change (bucket.consume now).2.Holds left at holdsLeft
  obtain ⟨last, holdsLast, gained⟩ :=
    holdsLeft.le_run_of_idle (by simpa using positive) waiting.idle
  have final := holdsLast.le_level_of_elapsed (by simpa using positive) later
  rw [refill_lastRefill] at final
  have since : ((bucket.consume now).2.lastRefill.toNat : Rat) + 1001 ≤
      (max ((bucket.consume now).2.run calls).2.lastRefill.toNat later.toNat : Nat) := by
    have bound := passed.trans
      (le_max_right ((bucket.consume now).2.run calls).2.lastRefill.toNat later.toNat)
    exact_mod_cast bound
  have empty := holdsLeft.nonneg
  have enough : 1 ≤ ((bucket.consume now).2.run calls).2.level last later := by
    refine le_trans (le_min le_rfl ?_) final
    have before : (((bucket.consume now).2.run calls).2.lastRefill.toNat : Rat) ≤
        (max ((bucket.consume now).2.run calls).2.lastRefill.toNat later.toNat : Nat) := by
      exact_mod_cast le_max_left _ _
    rcases min_le_iff.mp gained with whole | part
    · linarith
    · linarith
  rw [consume_of_one_le holdsLast enough]
  rfl

/-- On the grid, a refused caller who keeps calling is admitted when he was told to come
back. -/
private theorem Waiting.admitted_onGrid {now later : UInt64} {calls : List Call}
    (waiting : Waiting bucket now calls) (mirrors : Mirrors start bucket exact)
    (positive : bucket.limits.Positive) (small : bucket.limits.capacity.toNat ≤ 2 ^ 50)
    (nowOnGrid : OnGrid start now) (onGrid : ∀ call ∈ calls, OnGrid start call.reading)
    (laterOnGrid : OnGrid start later) (before : ∀ call ∈ calls, call.reading ≤ later)
    (passed : bucket.due now ≤ later.toNat) :
    (((bucket.consume now).2.run calls).2.consume later).1.isAdmitted = true := by
  rw [waiting.due_eq mirrors.holds positive] at passed
  have next := (mirrors.consume positive small nowOnGrid).2
  have traceless := next.refill_run_of_idle (by simpa using positive) (by simpa using small)
    onGrid waiting.idle laterOnGrid before
  have enough := next.holds.one_le_level (by simpa using positive) passed
  rw [consume_congr traceless, consume_of_one_le next.holds enough]
  rfl

/-- On the grid of eighths of a second, with a capacity of at most `2 ^ 50`, looks and
refused requests put into a run change none of the other answers, and a refused caller
who keeps calling is admitted when he was told to come back. At any other readings and
with any capacity, he is admitted one millisecond later. -/
theorem ownReplies_eq_run {limits : Limits} (positive : limits.Positive) (start : UInt64) :
    (limits.capacity.toNat ≤ 2 ^ 50 → ∀ entries : List Entry,
      (∀ entry ∈ entries, OnGrid start entry.call.reading) →
      (entries.map fun entry => entry.call.reading).Pairwise (· ≤ ·) →
      (full limits start).InsertedIdle entries →
        (full limits start).ownReplies entries = ((full limits start).run (own entries)).1) ∧
    ∀ (past calls : List Call) (now later : UInt64),
      let bucket := ((full limits start).run past).2
      let last := ((bucket.consume now).2.run calls).2
      Waiting bucket now calls →
        (limits.capacity.toNat ≤ 2 ^ 50 →
          (∀ call ∈ past ++ .consume now :: calls, OnGrid start call.reading) →
          OnGrid start later → (∀ call ∈ calls, call.reading ≤ later) →
          bucket.due now ≤ later.toNat → (last.consume later).1.isAdmitted = true) ∧
        (bucket.due now + 1 ≤ later.toNat → (last.consume later).1.isAdmitted = true) := by
  constructor
  · intro small entries onGrid sorted idle
    exact ownReplies_of_refill_eq (Mirrors.full small start) positive small onGrid sorted idle
      fun entry member => rfl
  · intro past calls now later bucket last waiting
    obtain ⟨tokens, holds⟩ := (Holds.full limits start).run past
    have limitsEq : bucket.limits = limits := run_limits _ _
    have positiveStill : bucket.limits.Positive := by rwa [limitsEq]
    constructor
    · intro small onGrid laterOnGrid before passed
      have pastOnGrid : ∀ call ∈ past, OnGrid start call.reading :=
        fun call member => onGrid call (List.mem_append_left _ member)
      have nowOnGrid : OnGrid start now :=
        onGrid (.consume now) (List.mem_append_right _ List.mem_cons_self)
      have callsOnGrid : ∀ call ∈ calls, OnGrid start call.reading :=
        fun call member => onGrid call (List.mem_append_right _ (List.mem_cons_of_mem _ member))
      have mirrors := ((Mirrors.full small start).run positive small pastOnGrid).2
      exact waiting.admitted_onGrid mirrors positiveStill (by rwa [limitsEq]) nowOnGrid
        callsOnGrid laterOnGrid before passed
    · exact waiting.admitted holds positiveStill

/-- Looks and a refused request among other calls on the grid, and two callers who go on
calling after they were refused, the second one off the grid. -/
theorem ownReplies_eq_run_of_looks :
    let limits : Limits := ⟨2, 3⟩
    let entries : List Entry := [⟨.consume 500, false⟩, ⟨.available 500, true⟩,
      ⟨.consume 500, false⟩, ⟨.consume 625, true⟩, ⟨.consume 750, false⟩,
      ⟨.available 875, true⟩, ⟨.consume 1000, false⟩]
    let past : List Call := [.consume 500, .consume 500]
    let calls : List Call := [.consume 750, .available 875]
    let others : List Call := [.consume 701, .consume 833]
    let bucket := ((full limits 500).run past).2
    limits.Positive ∧ limits.capacity.toNat ≤ 2 ^ 50 ∧
      ((∀ entry ∈ entries, OnGrid 500 entry.call.reading) ∧
        (entries.map fun entry => entry.call.reading).Pairwise (· ≤ ·) ∧
        (full limits 500).InsertedIdle entries ∧
        (full limits 500).ownReplies entries = ((full limits 500).run (own entries)).1) ∧
      (Waiting bucket 625 calls ∧
        (∀ call ∈ past ++ .consume 625 :: calls, OnGrid 500 call.reading) ∧
        OnGrid 500 1625 ∧ (∀ call ∈ calls, call.reading ≤ 1625) ∧
        bucket.due 625 ≤ (1625 : UInt64).toNat ∧
        (((bucket.consume 625).2.run calls).2.consume 1625).1.isAdmitted = true) ∧
      (Waiting bucket 600 others ∧ bucket.due 600 + 1 ≤ (1601 : UInt64).toNat ∧
        (((bucket.consume 600).2.run others).2.consume 1601).1.isAdmitted = true) := by
  intro limits entries past calls others bucket
  have positive : limits.Positive := ⟨by decide, by decide⟩
  have small : limits.capacity.toNat ≤ 2 ^ 50 := by decide
  have onGrid : ∀ entry ∈ entries, OnGrid 500 entry.call.reading := by decide
  have sorted : (entries.map fun entry => entry.call.reading).Pairwise (· ≤ ·) := by decide
  have idle : (full limits 500).InsertedIdle entries := by decide +kernel
  have waiting : Waiting bucket 625 calls := ⟨by decide +kernel, by decide +kernel⟩
  have callsOnGrid : ∀ call ∈ past ++ .consume 625 :: calls, OnGrid 500 call.reading := by decide
  have laterOnGrid : OnGrid 500 1625 := by decide
  have before : ∀ call ∈ calls, call.reading ≤ 1625 := by decide
  have due : bucket.due 625 ≤ (1625 : UInt64).toNat := by decide +kernel
  have othersWaiting : Waiting bucket 600 others := ⟨by decide +kernel, by decide +kernel⟩
  have othersDue : bucket.due 600 + 1 ≤ (1601 : UInt64).toNat := by decide +kernel
  obtain ⟨same, later⟩ := ownReplies_eq_run positive 500
  exact ⟨positive, small, ⟨onGrid, sorted, idle, same small entries onGrid sorted idle⟩,
    ⟨waiting, callsOnGrid, laterOnGrid, before, due,
      (later past calls 625 1625 waiting).1 small callsOnGrid laterOnGrid before due⟩,
    ⟨othersWaiting, othersDue, (later past others 600 1601 othersWaiting).2 othersDue⟩⟩

/-- A caller who asks at every tenth of a second, off the grid, is refused at the reading
at which he was told to come back; had he waited without asking, he would have been
admitted. -/
theorem ownReplies_ne_run_of_tenths :
    let limits : Limits := ⟨1, 1⟩
    let asked : List Entry := [⟨.consume 0, false⟩, ⟨.consume 0, false⟩]
    let asking : List Entry :=
      [100, 200, 300, 400, 500, 600, 700, 800, 900].map fun reading => ⟨.consume reading, true⟩
    let entries := asked ++ asking ++ [⟨.consume 1000, false⟩]
    (entries.map fun entry => entry.call.reading).Pairwise (· ≤ ·) ∧
      (full limits 0).InsertedIdle entries ∧
      (full limits 0).ownReplies entries =
        [.decided (.allow 1 0), .decided (.refuse 1 0 1), .decided (.refuse 1 0 1)] ∧
      ((full limits 0).run (own entries)).1 =
        [.decided (.allow 1 0), .decided (.refuse 1 0 1), .decided (.allow 1 0)] := by
  decide +kernel

end Bucket

end Turnstile
