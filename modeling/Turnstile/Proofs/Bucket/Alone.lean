import Turnstile.Proofs.Bucket.Run

/-!
# A bucket of its own

The decisions of one bucket that nobody else charges: made full at the first of some
clock readings and charged at all of them. While the clock stands still such a bucket
counts its tokens down (`Holds.answers_of_standing`), and it does not matter how long it
was full before it was first charged (`consume_full`).
-/

namespace Turnstile.Bucket

open Binary64

/-- The decisions of a bucket charged at some clock readings. -/
def answers (bucket : Bucket) : List UInt64 → List Decision
  | [] => []
  | reading :: rest => (bucket.consume reading).1 :: (bucket.consume reading).2.answers rest

/-- The decisions of a bucket that is made full at the first of some clock readings
and charged at each of them. -/
def alone (limits : Limits) : List UInt64 → List Decision
  | [] => []
  | first :: rest => (full limits first).answers (first :: rest)

/-! ## Limits -/

/-- Every decision of a bucket tells its capacity. -/
theorem limit_of_mem_answers {bucket : Bucket} {readings : List UInt64} {decision : Decision}
    (member : decision ∈ bucket.answers readings) :
    decision.limit = bucket.limits.capacity := by
  induction readings generalizing bucket with
  | nil => cases member
  | cons reading rest inductionHypothesis =>
      rcases List.mem_cons.mp member with rfl | later
      · exact consume_limit reading bucket
      · rw [inductionHypothesis later, consume_limits]

theorem limit_of_mem_alone {limits : Limits} {readings : List UInt64} {decision : Decision}
    (member : decision ∈ alone limits readings) : decision.limit = limits.capacity := by
  cases readings with
  | nil => cases member
  | cons first rest => exact limit_of_mem_answers member

/-! ## Full buckets -/

/-- A full bucket stays full. -/
theorem refill_full (limits : Limits) {made now : UInt64} (order : made ≤ now) :
    (full limits made).refill now = full limits now := by
  have levelEq : (full limits made).level limits.brim now = limits.brim := by
    have gain := limits.gain_nonneg (now - made)
    unfold level
    split
    · rfl
    · exact min_eq_right (le_nearest limits.brim_representable (le_add_of_nonneg_right gain))
  have count := ((Holds.full limits made).refill now).count
  rw [levelEq, ← (Holds.full limits now).count] at count
  unfold refill at count ⊢
  split
  · next early =>
      have same : made = now := UInt64.le_antisymm order early
      rw [same]
  · next late =>
      rw [if_neg late] at count
      simp only [full] at count ⊢
      rw [count]

/-- A full bucket is charged as one that was made at the reading of the charge. -/
theorem consume_full (limits : Limits) {made now : UInt64} (order : made ≤ now) :
    (full limits made).consume now = (full limits now).consume now := by
  apply consume_congr
  rw [refill_full limits order, refill_full limits UInt64.le_rfl]

/-! ## A standing clock -/

/-- The decisions of a bucket with a number of whole tokens while the clock stands
still: one admission for each token, and refusals from then on. -/
def countdown (limit : UInt64) (tokens count : Nat) : List Decision :=
  (List.range count).map fun index =>
    if index < tokens then .allow limit (.ofNat (tokens - 1 - index)) else .refuse limit 0 1

theorem countdown_of_pos (limit : UInt64) {tokens : Nat} (some : 0 < tokens) (count : Nat) :
    countdown limit tokens (count + 1) =
      .allow limit (.ofNat (tokens - 1)) :: countdown limit (tokens - 1) count := by
  unfold countdown
  rw [List.range_succ_eq_map, List.map_cons, List.map_map, if_pos some, Nat.sub_zero]
  congr 1
  apply List.map_congr_left
  intro index _
  have shifted : index + 1 < tokens ↔ index < tokens - 1 := by omega
  have left : tokens - 1 - (index + 1) = tokens - 1 - 1 - index := by omega
  simp only [Function.comp, Nat.succ_eq_add_one, shifted, left]

theorem countdown_of_none (limit : UInt64) (count : Nat) :
    countdown limit 0 (count + 1) = .refuse limit 0 1 :: countdown limit 0 count := by
  unfold countdown
  rw [List.range_succ_eq_map, List.map_cons, List.map_map]
  rfl

/-- While the clock stands still, a bucket counts its whole tokens down. -/
theorem Holds.answers_of_standing {bucket : Bucket} {tokens : Rat} {now : UInt64}
    (holds : bucket.Holds tokens) (standing : now ≤ bucket.lastRefill)
    (recovers : bucket.limits.refill ≠ 0) (small : tokens ≤ 2 ^ 53) (count : Nat) :
    bucket.answers (List.replicate count now) =
      countdown bucket.limits.capacity tokens.floor.toNat count := by
  induction count generalizing bucket tokens with
  | zero => rfl
  | succ count inductionHypothesis =>
      have level : bucket.level tokens now = tokens := if_pos standing
      have stays : now ≤ (bucket.consume now).2.lastRefill := by
        rw [consume_lastRefill, UInt64.le_iff_toNat_le, refill_lastRefill]
        exact le_max_right _ _
      rw [List.replicate_succ, answers]
      rcases holds.consume now with ⟨enough, _, taken⟩ | ⟨short, refused, kept⟩
      · have whole : 1 ≤ tokens.floor := Rat.le_floor_iff.mpr (by simpa [level] using enough)
        have exact : nearest (tokens - 1) = tokens - 1 :=
          nearest_of_representable (holds.representable.sub_one (level ▸ enough) small)
        have left : (tokens - 1).floor.toNat = tokens.floor.toNat - 1 := by
          rw [Rat.floor_sub_one]
          omega
        rw [level, exact] at taken
        rw [inductionHypothesis taken stays (by simpa using recovers) (by linarith),
          consume_limits, countdown_of_pos _ (by omega), consume_of_one_le holds enough, level,
          exact, floorUInt64_eq_ofNat (by norm_num at small ⊢; linarith), left]
      · rw [level] at short kept
        have none : tokens.floor.toNat = 0 := by
          have below : tokens.floor < 1 := Rat.floor_lt_iff.mpr (by simpa using short)
          omega
        rw [inductionHypothesis kept stays (by simpa using recovers) small, consume_limits,
          none, countdown_of_none, holds.decision_of_refused recovers refused]

/-- While the clock stands still, a bucket counts down from the tokens it shows. -/
theorem Holds.answers_of_shown {bucket : Bucket} {tokens : Rat} (holds : bucket.Holds tokens)
    (recovers : bucket.limits.refill ≠ 0) (small : bucket.limits.capacity.toNat ≤ 2 ^ 53)
    (now : UInt64) (count : Nat) :
    (bucket.available now).2.answers (List.replicate count now) =
      countdown bucket.limits.capacity (bucket.available now).1.toNat count := by
  have filled := holds.refill now
  have standing : now ≤ (bucket.refill now).lastRefill := by
    rw [UInt64.le_iff_toNat_le, refill_lastRefill]
    exact le_max_right _ _
  have high := filled.le_brim
  rw [refill_limits, bucket.limits.brim_eq small] at high
  have level : bucket.level tokens now ≤ 2 ^ 53 := high.trans (by exact_mod_cast small)
  have shown : ((bucket.available now).1.toNat : Int) = (bucket.level tokens now).floor := by
    change ((bucket.refill now).tokens.floorUInt64.toNat : Int) = _
    rw [filled.count]
    exact toNat_floorUInt64 filled.nonneg (by norm_num at level ⊢; linarith)
  change (bucket.refill now).answers _ = _
  rw [filled.answers_of_standing standing (by simpa using recovers) level, refill_limits,
    ← shown, Int.toNat_natCast]

/-- A countdown admits once for each token. -/
theorem countP_countdown (limit : UInt64) (tokens count : Nat) :
    (countdown limit tokens count).countP Decision.isAdmitted = min tokens count := by
  induction count generalizing tokens with
  | zero => exact (Nat.min_zero tokens).symm
  | succ count inductionHypothesis =>
      rcases Nat.eq_zero_or_pos tokens with rfl | some
      · rw [countdown_of_none, List.countP_cons_of_neg Bool.false_ne_true, inductionHypothesis]
        omega
      · rw [countdown_of_pos limit some, List.countP_cons_of_pos rfl, inductionHypothesis]
        omega

/-- Of a capacity of at most 53 bits, a new bucket counts down from it. -/
theorem alone_of_standing {limits : Limits} (recovers : limits.refill ≠ 0)
    (small : limits.capacity.toNat ≤ 2 ^ 53) (now : UInt64) (count : Nat) :
    alone limits (List.replicate count now) =
      countdown limits.capacity limits.capacity.toNat count := by
  cases count with
  | zero => rfl
  | succ count =>
      have holds := Holds.full limits now
      rw [limits.brim_eq small] at holds
      have counted := holds.answers_of_standing UInt64.le_rfl recovers (by exact_mod_cast small)
        (count + 1)
      rwa [toNat_floor_natCast] at counted

/-- Of a capacity of at most 53 bits, a new bucket admits exactly that many charges
at one clock reading. -/
theorem countP_alone_of_standing {limits : Limits} (recovers : limits.refill ≠ 0)
    (small : limits.capacity.toNat ≤ 2 ^ 53) (now : UInt64) (count : Nat) :
    (alone limits (List.replicate count now)).countP Decision.isAdmitted =
      min limits.capacity.toNat count := by
  rw [alone_of_standing recovers small, countP_countdown]

end Turnstile.Bucket
