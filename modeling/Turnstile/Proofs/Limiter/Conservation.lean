import Turnstile.Proofs.Limiter.Isolation

/-!
# Capacity conservation

While the clock stands still, a key that has not been met is admitted as often as its
capacity says and no more (`Conserves`) exactly if the capacity is at most `2 ^ 53`.
Above that the binary64 grid has no odd numbers. The next two capacities lose one
admission to rounding, and for all greater ones the number below a count rounds back to
the count: such a bucket never runs dry, whatever the clock does
(`Holds.consume_of_vast`).
-/

namespace Turnstile

open Binary64

/-- Decisions that admit as often as a capacity says and refuse from then on, where no
admission leaves the bucket full. -/
structure Conserves (capacity : UInt64) (decisions : List Decision) : Prop where
  admitted : ∀ index decision, decisions[index]? = some decision →
    (decision.isAdmitted = true ↔ index < capacity.toNat)
  below : ∀ decision ∈ decisions, decision.isAdmitted = true →
    decision.remaining < decision.limit

/-! ## Rounded capacities -/

/-- No capacity from `2 ^ 53 + 3` on has a count below `2 ^ 53 + 4`. -/
theorem Limits.brim_of_vast {limits : Limits} (vast : 2 ^ 53 + 3 ≤ limits.capacity.toNat) :
    2 ^ 53 + 4 ≤ limits.brim := by
  have high : (2 ^ 53 + 3 : Rat) ≤ limits.capacity.toNat := by exact_mod_cast vast
  calc (2 ^ 53 + 4 : Rat) = nearest (2 ^ 53 + 3) := by decide +kernel
    _ ≤ limits.brim := nearest_mono high

/-- Of the two capacities between, the first token taken leaves two less. -/
theorem Limits.nearest_brim_sub_one_of_barely {limits : Limits}
    (beyond : 2 ^ 53 < limits.capacity.toNat) (barely : limits.capacity.toNat < 2 ^ 53 + 3) :
    nearest (limits.brim - 1) = (limits.capacity.toNat - 2 : Nat) := by
  have between : limits.capacity.toNat = 2 ^ 53 + 1 ∨ limits.capacity.toNat = 2 ^ 53 + 2 := by
    omega
  unfold brim
  rcases between with one | two
  · rw [one]
    decide +kernel
  · rw [two]
    decide +kernel

namespace Bucket

/-! ## Counts that never run dry -/

/-- From `2 ^ 53 + 4` on, a token taken off a count leaves it at `2 ^ 53 + 4` or more. -/
theorem nearest_sub_one_of_vast {tokens : Rat} (vast : 2 ^ 53 + 4 ≤ tokens) :
    2 ^ 53 + 4 ≤ nearest (tokens - 1) := by
  calc (2 ^ 53 + 4 : Rat) = nearest (2 ^ 53 + 4 - 1) := by decide +kernel
    _ ≤ nearest (tokens - 1) := nearest_mono (by linarith)

/-- With `2 ^ 53 + 4` tokens or more, a bucket admits and keeps as many. -/
theorem Holds.consume_of_vast {bucket : Bucket} {tokens : Rat} (holds : bucket.Holds tokens)
    (vast : 2 ^ 53 + 4 ≤ tokens) (now : UInt64) :
    (bucket.consume now).1.isAdmitted = true ∧
      ∃ left, 2 ^ 53 + 4 ≤ left ∧ (bucket.consume now).2.Holds left := by
  have level := vast.trans (holds.le_level now)
  rcases holds.consume now with ⟨_, admitted, taken⟩ | ⟨short, _, _⟩
  · exact ⟨admitted, _, nearest_sub_one_of_vast level, taken⟩
  · norm_num at level
    linarith

/-- With `2 ^ 53 + 4` tokens or more, a bucket admits at all readings. -/
theorem Holds.admitted_of_vast {bucket : Bucket} {tokens : Rat} (holds : bucket.Holds tokens)
    (vast : 2 ^ 53 + 4 ≤ tokens) {readings : List UInt64} {decision : Decision}
    (member : decision ∈ bucket.answers readings) : decision.isAdmitted = true := by
  induction readings generalizing bucket tokens with
  | nil => cases member
  | cons reading rest inductionHypothesis =>
      obtain ⟨admitted, left, leftVast, holdsLeft⟩ := holds.consume_of_vast vast reading
      rcases List.mem_cons.mp member with rfl | later
      · exact admitted
      · exact inductionHypothesis holdsLeft leftVast later

/-- Of a capacity from `2 ^ 53 + 3` on, a new bucket admits at all readings. -/
theorem admitted_of_mem_alone {limits : Limits} (vast : 2 ^ 53 + 3 ≤ limits.capacity.toNat)
    {readings : List UInt64} {decision : Decision} (member : decision ∈ alone limits readings) :
    decision.isAdmitted = true := by
  cases readings with
  | nil => cases member
  | cons first rest =>
      exact (Holds.full limits first).admitted_of_vast (Limits.brim_of_vast vast) member

/-! ## The two capacities between -/

/-- Of a capacity of `2 ^ 53 + 1` or `2 ^ 53 + 2`, a new bucket counts down from one
less: it is one less when full, or the first token taken is rounded to two. -/
theorem alone_of_barely {limits : Limits} (recovers : limits.refill ≠ 0)
    (beyond : 2 ^ 53 < limits.capacity.toNat) (barely : limits.capacity.toNat < 2 ^ 53 + 3)
    (now : UInt64) (count : Nat) :
    alone limits (List.replicate count now) =
      countdown limits.capacity (limits.capacity.toNat - 1) count := by
  cases count with
  | zero => rfl
  | succ count =>
      have holds := Holds.full limits now
      have level : (full limits now).level limits.brim now = limits.brim := if_pos UInt64.le_rfl
      have left := Limits.nearest_brim_sub_one_of_barely beyond barely
      have high : (2 : Rat) ^ 53 ≤ limits.capacity.toNat := by exact_mod_cast beyond.le
      have brim : (2 : Rat) ^ 53 ≤ limits.brim := pow_le_nearest high
      have enough : 1 ≤ (full limits now).level limits.brim now := by
        rw [level]
        exact le_trans (by norm_num) brim
      have leftSmall : ((limits.capacity.toNat - 2 : Nat) : Rat) ≤ 2 ^ 53 := by
        have bounded : limits.capacity.toNat - 2 ≤ 2 ^ 53 := by omega
        exact_mod_cast bounded
      obtain ⟨_, _, taken⟩ | ⟨short, _, _⟩ := holds.consume now
      · rw [level, left] at taken
        have standing : now ≤ ((full limits now).consume now).2.lastRefill := by
          simp [full, refill]
        have counted := taken.answers_of_standing standing (by simpa [full] using recovers)
          leftSmall count
        rw [List.replicate_succ, alone, answers, counted, consume_limits, toNat_floor_natCast,
          countdown_of_pos _ (by omega), consume_of_one_le holds enough, level, left,
          floorUInt64_eq_ofNat (leftSmall.trans_lt (by norm_num)), toNat_floor_natCast]
        rfl
      · linarith

/-! ## Countdowns -/

theorem length_answers (bucket : Bucket) (readings : List UInt64) :
    (bucket.answers readings).length = readings.length := by
  induction readings generalizing bucket with
  | nil => rfl
  | cons reading rest inductionHypothesis =>
      rw [answers, List.length_cons, inductionHypothesis, List.length_cons]

theorem length_alone (limits : Limits) (readings : List UInt64) :
    (alone limits readings).length = readings.length := by
  cases readings with
  | nil => rfl
  | cons first rest => exact length_answers _ _

/-- A countdown admits as long as there are tokens. -/
theorem isAdmitted_countdown {limit : UInt64} {tokens count index : Nat} {decision : Decision}
    (there : (countdown limit tokens count)[index]? = some decision) :
    decision.isAdmitted = true ↔ index < tokens := by
  unfold countdown at there
  rw [List.getElem?_map, Option.map_eq_some_iff] at there
  obtain ⟨position, atIndex, rfl⟩ := there
  obtain ⟨_, rfl⟩ := List.getElem?_eq_some_iff.mp atIndex
  rw [List.getElem_range]
  split
  · next some => exact iff_of_true rfl some
  · next none => exact iff_of_false Bool.false_ne_true none

/-- A countdown from the capacity conserves it. -/
theorem conserves_countdown (capacity : UInt64) (count : Nat) :
    Conserves capacity (countdown capacity capacity.toNat count) where
  admitted _ _ there := isAdmitted_countdown there
  below decision member admitted := by
    obtain ⟨index, _, rfl⟩ := List.mem_map.mp member
    split at admitted
    · next some =>
        rw [if_pos some, UInt64.lt_iff_toNat_lt]
        calc (UInt64.ofNat (capacity.toNat - 1 - index)).toNat
            ≤ capacity.toNat - 1 - index := Nat.mod_le _ _
          _ < capacity.toNat := by omega
    · cases admitted

end Bucket

namespace TimedLimiter

/-! ## Keys -/

/-- Charges while the clock stands still find one reading. -/
theorem visits_standing (key : String) (now : UInt64) (keys : List String) :
    visits key now (keys.map .consume) = (List.replicate (keys.count key) now, []) := by
  induction keys with
  | nil => rfl
  | cons other rest inductionHypothesis =>
      rw [List.map_cons, visits, inductionHypothesis, List.count_cons]
      by_cases same : other = key
      · simp [same, List.replicate_succ]
      · simp [same]

/-- While the clock stands still, a key that has not been met is a new bucket charged at
one reading. -/
theorem decisionsOn_standing {timed : TimedLimiter} {key : String}
    (new : timed.limiter.bucket? key = none) (keys : List String) :
    decisionsOn key timed (keys.map .consume) =
      Bucket.alone (timed.limiter.tiers.limitsFor key)
        (List.replicate (keys.count key) timed.now) := by
  rw [decisionsOn_of_new new, visits_standing, List.flatMap_singleton]

/-- While the clock stands still and keys are charged in whatever order, a key that has
not been met is admitted on exactly its first charges, as many as its capacity says, each
time with fewer tokens left than that, exactly if the capacity is at most `2 ^ 53`. The
next two capacities give one admission less. All greater ones give no refusal ever, even
if the clock moves or keys are forgotten. -/
theorem conserves_iff {timed : TimedLimiter} {key : String}
    (new : timed.limiter.bucket? key = none) :
    let capacity := (timed.limiter.tiers.limitsFor key).capacity
    let decisions (keys : List String) := decisionsOn key timed (keys.map .consume)
    (∀ keys, (decisions keys).length = keys.count key) ∧
      ((∀ keys, Conserves capacity (decisions keys)) ↔ capacity.toNat ≤ 2 ^ 53) ∧
      (2 ^ 53 < capacity.toNat → capacity.toNat < 2 ^ 53 + 3 → ∀ keys,
        (decisions keys).countP Decision.isAdmitted =
          min (capacity.toNat - 1) (keys.count key)) ∧
      (2 ^ 53 + 3 ≤ capacity.toNat → ∀ actions, ∀ decision ∈ decisionsOn key timed actions,
        decision.isAdmitted = true) := by
  intro capacity decisions
  have recovers := (timed.limiter.tiers.limitsFor_positive key).refill
  have decisionsEq (keys : List String) : decisions keys =
      Bucket.alone (timed.limiter.tiers.limitsFor key)
        (List.replicate (keys.count key) timed.now) := decisionsOn_standing new keys
  have length (keys : List String) : (decisions keys).length = keys.count key := by
    rw [decisionsEq, Bucket.length_alone, List.length_replicate]
  have vastAdmits (vast : 2 ^ 53 + 3 ≤ capacity.toNat) (actions : List Action)
      (decision : Decision) (member : decision ∈ decisionsOn key timed actions) :
      decision.isAdmitted = true := by
    rw [decisionsOn_of_new new, List.mem_flatMap] at member
    obtain ⟨readings, _, decided⟩ := member
    exact Bucket.admitted_of_mem_alone vast decided
  refine ⟨length, ⟨fun conserves => ?_, fun small keys => ?_⟩, fun beyond barely keys => ?_,
    vastAdmits⟩
  · by_contra! beyond
    -- One charge more than the capacity is refused too early or not at all.
    let charged := List.replicate (capacity.toNat + 1) key
    have reached (index : Nat) (inside : index ≤ capacity.toNat) :
        ∃ decision, (decisions charged)[index]? = some decision := by
      have charges := length charged
      rw [List.count_replicate_self] at charges
      exact ⟨_, List.getElem?_eq_getElem (by omega)⟩
    rcases lt_or_ge capacity.toNat (2 ^ 53 + 3) with barely | vast
    · obtain ⟨decision, there⟩ := reached (capacity.toNat - 1) (by omega)
      have conserved := (conserves charged).admitted _ _ there
      rw [decisionsEq, Bucket.alone_of_barely recovers beyond barely] at there
      have counted := Bucket.isAdmitted_countdown there
      exact lt_irrefl _ (counted.mp (conserved.mpr (by omega)))
    · obtain ⟨decision, there⟩ := reached capacity.toNat le_rfl
      have conserved := (conserves charged).admitted _ _ there
      have admitted := vastAdmits vast _ _ (List.mem_of_getElem? there)
      exact lt_irrefl _ (conserved.mp admitted)
  · rw [decisionsEq, Bucket.alone_of_standing recovers small]
    exact Bucket.conserves_countdown capacity _
  · rw [decisionsEq, Bucket.alone_of_barely recovers beyond barely, Bucket.countP_countdown]

/-- The greatest capacity that is conserved. -/
theorem conserves_iff_at_limit :
    let limits : Limits := ⟨9007199254740992, 1⟩
    let tiers : Tiers := ⟨limits, limits, ⟨by decide, by decide⟩, ⟨by decide, by decide⟩⟩
    let timed : TimedLimiter := ⟨5, .ofTiers tiers⟩
    timed.limiter.bucket? "user:a" = none ∧
      ∀ keys : List String,
        Conserves 9007199254740992 (decisionsOn "user:a" timed (keys.map .consume)) := by
  intro limits tiers timed
  have new : timed.limiter.bucket? "user:a" = none := Limiter.bucket?_ofTiers tiers "user:a"
  have capacity : (timed.limiter.tiers.limitsFor "user:a").capacity = 9007199254740992 := by
    decide +kernel
  obtain ⟨_, conserves, _⟩ := conserves_iff new
  rw [capacity] at conserves
  exact ⟨new, conserves.mpr (by decide)⟩

/-- Accepted tiers whose capacity is not conserved: the first admission leaves one token
more than the capacity. -/
theorem not_conserves_of_rounded_count :
    ∃ tiers, Tiers.ofLimits ⟨9007199254740995, 1⟩ ⟨1, 1⟩ = .ok tiers ∧
      (tiers.limitsFor "user:a").capacity = 9007199254740995 ∧
      decisionsOn "user:a" ⟨0, .ofTiers tiers⟩ [.consume "user:a"] =
        [.allow 9007199254740995 9007199254740996] ∧
      ¬Conserves 9007199254740995
        (decisionsOn "user:a" ⟨0, .ofTiers tiers⟩ [.consume "user:a"]) := by
  let tiers : Tiers := ⟨⟨9007199254740995, 1⟩, ⟨1, 1⟩, ⟨by decide, by decide⟩,
    ⟨by decide, by decide⟩⟩
  have decided : decisionsOn "user:a" ⟨0, .ofTiers tiers⟩ [.consume "user:a"] =
      [.allow 9007199254740995 9007199254740996] := by decide +kernel
  refine ⟨tiers, rfl, by decide +kernel, decided, fun conserves => ?_⟩
  rw [decided] at conserves
  exact absurd (conserves.below _ List.mem_cons_self rfl) (by decide)

end TimedLimiter

end Turnstile
