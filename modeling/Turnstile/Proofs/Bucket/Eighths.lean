import Turnstile.Proofs.Bucket.Alone
import Turnstile.Proofs.Bucket.Exact

/-!
# Eighths of a second

Between clock readings that are whole eighths of a second apart, every refill is a
number of eighths of a token. Up to `2 ^ 50` such numbers are on the binary64 grid, and
beyond it rounding cannot bring them back below (`AgreeBelow`), so a capacity of at most
`2 ^ 50` hides every rounding: the bucket is the exact bucket (`Mirrors`), answer by
answer.
-/

namespace Turnstile

open Binary64

/-! ## Numbers of eighths -/

/-- A number of eighths that is not negative. -/
def IsEighths (value : Rat) : Prop := ∃ count : Nat, value = count / 8

namespace IsEighths

theorem natCast (n : Nat) : IsEighths n := ⟨8 * n, by push_cast; ring⟩

theorem add {left right : Rat} (first : IsEighths left) (second : IsEighths right) :
    IsEighths (left + right) := by
  obtain ⟨leftCount, rfl⟩ := first
  obtain ⟨rightCount, rfl⟩ := second
  exact ⟨leftCount + rightCount, by push_cast; ring⟩

theorem min {left right : Rat} (first : IsEighths left) (second : IsEighths right) :
    IsEighths (min left right) := by
  rcases min_choice left right with same | same
  · rwa [same]
  · rwa [same]

theorem sub_one {value : Rat} (eighths : IsEighths value) (one_le : 1 ≤ value) :
    IsEighths (value - 1) := by
  obtain ⟨count, rfl⟩ := eighths
  have enough : 8 ≤ count := by
    rw [le_div_iff₀ (by norm_num)] at one_le
    exact_mod_cast one_le
  exact ⟨count - 8, by rw [Nat.cast_sub enough]; push_cast; ring⟩

/-- A number of eighths of at most 53 bits is on the grid. -/
theorem representable {value : Rat} (eighths : IsEighths value) (small : value ≤ 2 ^ 50) :
    Representable value := by
  obtain ⟨count, rfl⟩ := eighths
  have bounded : count ≤ 2 ^ 53 := by
    rw [div_le_iff₀ (by norm_num)] at small
    norm_num at small ⊢
    exact_mod_cast small
  refine ⟨count, -3, ?_, by norm_num, ?_⟩
  · rw [Nat.abs_cast]
    exact_mod_cast bounded
  · norm_num
    ring

end IsEighths

/-- Two numbers that no number below `2 ^ 50` tells apart. -/
def AgreeBelow (left right : Rat) : Prop := left = right ∨ 2 ^ 50 ≤ left ∧ 2 ^ 50 ≤ right

/-- A bound of at most `2 ^ 50` hides the difference. -/
theorem AgreeBelow.min_eq {left right bound : Rat} (agree : AgreeBelow left right)
    (small : bound ≤ 2 ^ 50) : min left bound = min right bound := by
  rcases agree with same | ⟨leftHigh, rightHigh⟩
  · rw [same]
  · rw [min_eq_right (small.trans leftHigh), min_eq_right (small.trans rightHigh)]

/-- Rounding a number of eighths is not seen below `2 ^ 50`. -/
theorem IsEighths.agreeBelow {value : Rat} (eighths : IsEighths value) :
    AgreeBelow (nearest value) value := by
  rcases le_total value (2 ^ 50) with low | high
  · exact .inl (nearest_of_representable (eighths.representable low))
  · exact .inr ⟨pow_le_nearest high, high⟩

/-! ## Gains -/

/-- Over eighths of a second, the exact gain is a number of eighths, and what rounding
does to the gain is not seen below `2 ^ 50`. -/
theorem Limits.gain_agreeBelow (limits : Limits) {elapsed : UInt64}
    (short : elapsed.toNat < 2 ^ 53) (eighths : 125 ∣ elapsed.toNat) :
    IsEighths (elapsed.toNat * limits.refill.toNat / 1000) ∧
      AgreeBelow (limits.gain elapsed) (elapsed.toNat * limits.refill.toNat / 1000) := by
  obtain ⟨count, elapsedEq⟩ := eighths
  have secondsEq : (elapsed.toNat / 1000 : Rat) = count / 8 := by
    rw [elapsedEq]
    push_cast
    ring
  have exactEq : (elapsed.toNat * limits.refill.toNat / 1000 : Rat) =
      (count * limits.refill.toNat : Nat) / 8 := by
    rw [elapsedEq]
    push_cast
    ring
  have seconds : nearest (elapsed.toNat / 1000) = count / 8 := by
    rw [secondsEq]
    apply nearest_of_representable
    apply IsEighths.representable ⟨count, rfl⟩
    have small : (count : Rat) ≤ 2 ^ 53 := by
      have bounded : count ≤ 2 ^ 53 := by omega
      exact_mod_cast bounded
    calc (count / 8 : Rat) ≤ 2 ^ 53 / 8 := by gcongr
      _ = 2 ^ 50 := by norm_num
  have gainEq : limits.gain elapsed = nearest (count / 8 * nearest limits.refill.toNat) := by
    unfold gain
    rw [nearest_natCast short.le, seconds]
  rw [exactEq, gainEq]
  refine ⟨⟨_, rfl⟩, ?_⟩
  rcases le_or_gt limits.refill.toNat (2 ^ 53) with slow | fast
  · rw [nearest_natCast slow]
    have productEq : (count / 8 * limits.refill.toNat : Rat) =
        (count * limits.refill.toNat : Nat) / 8 := by
      push_cast
      ring
    rw [productEq]
    exact IsEighths.agreeBelow ⟨_, rfl⟩
  · rcases Nat.eq_zero_or_pos count with none | some
    · left
      simp [none, nearest_zero]
    · -- A single eighth of a second restores more than `2 ^ 50` tokens.
      have fastRat : (2 : Rat) ^ 53 ≤ limits.refill.toNat := by exact_mod_cast fast.le
      have rate := pow_le_nearest fastRat
      have oneEighth : (1 : Rat) ≤ count := by exact_mod_cast some
      right
      constructor
      · apply pow_le_nearest
        calc (2 : Rat) ^ 50 = 1 / 8 * 2 ^ 53 := by norm_num
          _ ≤ count / 8 * nearest limits.refill.toNat := by gcongr
      · rw [Nat.cast_mul]
        calc (2 : Rat) ^ 50 = 1 * 2 ^ 53 / 8 := by norm_num
          _ ≤ (count : Rat) * limits.refill.toNat / 8 := by gcongr

namespace Bucket

/-- A clock reading some eighths of a second before or after another one. -/
structure OnGrid (start reading : UInt64) : Prop where
  early : reading.toNat < 2 ^ 53
  eighths : (125 : Int) ∣ (reading.toNat : Int) - start.toNat

instance (start reading : UInt64) : Decidable (OnGrid start reading) :=
  decidable_of_iff
    (reading.toNat < 2 ^ 53 ∧ (125 : Int) ∣ (reading.toNat : Int) - start.toNat)
    ⟨fun both => ⟨both.1, both.2⟩, fun onGrid => ⟨onGrid.early, onGrid.eighths⟩⟩

/-- An answer in integers. -/
def Reply.exact : Reply → ExactBucket.Reply
  | decided (.allow limit remaining) => .allow limit.toNat remaining.toNat
  | decided (.refuse limit remaining wait) => .refuse limit.toNat remaining.toNat wait.toNat
  | shown tokens => .shown tokens.toNat

/-- A bucket on the grid of eighths of a second beside the exact bucket. -/
structure Mirrors (start : UInt64) (bucket : Bucket) (exact : ExactBucket) : Prop where
  limits : exact.limits = bucket.limits
  holds : bucket.Holds exact.tokens
  tokens : IsEighths exact.tokens
  lastRefill : exact.lastRefill = bucket.lastRefill.toNat
  onGrid : (125 : Int) ∣ (bucket.lastRefill.toNat : Int) - start.toNat

variable {limits : Limits} {start now : UInt64} {bucket : Bucket} {exact : ExactBucket}

theorem Mirrors.full (small : limits.capacity.toNat ≤ 2 ^ 50) (start : UInt64) :
    Mirrors start (full limits start) (.full limits start.toNat) where
  limits := rfl
  holds := by
    have holds := Holds.full limits start
    rwa [limits.brim_eq (by omega)] at holds
  tokens := .natCast _
  lastRefill := rfl
  onGrid := ⟨0, by simp [Bucket.full]⟩

/-- On the grid the level of a bucket is that of the exact bucket. -/
theorem Mirrors.level (mirrors : Mirrors start bucket exact)
    (small : bucket.limits.capacity.toNat ≤ 2 ^ 50) (onGrid : OnGrid start now) :
    IsEighths (exact.refill now.toNat).tokens ∧
      bucket.level exact.tokens now = (exact.refill now.toNat).tokens := by
  have brim := bucket.limits.brim_eq (by omega)
  have full := mirrors.holds.le_brim
  rw [brim] at full
  have capacity : (bucket.limits.capacity.toNat : Rat) ≤ 2 ^ 50 := by exact_mod_cast small
  simp only [ExactBucket.refill, mirrors.limits, mirrors.lastRefill]
  rcases bucket.level_cases exact.tokens now with ⟨stale, level⟩ | ⟨elapsed, passed, since, level⟩
  · rw [level, Nat.sub_eq_zero_of_le stale, Nat.cast_zero, zero_mul, zero_div, add_zero,
      min_eq_right full]
    exact ⟨mirrors.tokens, rfl⟩
  · have eighths : 125 ∣ elapsed.toNat := by
      have := onGrid.eighths
      have := mirrors.onGrid
      omega
    have early := onGrid.early
    obtain ⟨gain, agree⟩ := bucket.limits.gain_agreeBelow (by omega) eighths
    rw [level, since, Nat.add_sub_cancel_left]
    refine ⟨(IsEighths.natCast _).min (mirrors.tokens.add gain), ?_⟩
    rw [brim, min_comm (bucket.limits.capacity.toNat : Rat)]
    apply AgreeBelow.min_eq _ capacity
    have empty := mirrors.holds.nonneg
    rcases agree with same | ⟨gainHigh, exactHigh⟩
    · rw [same]
      exact (mirrors.tokens.add gain).agreeBelow
    · exact .inr ⟨pow_le_nearest (by linarith), by linarith⟩

/-- Filling both buckets up to a reading on the grid keeps them alike. -/
theorem Mirrors.refill (mirrors : Mirrors start bucket exact)
    (small : bucket.limits.capacity.toNat ≤ 2 ^ 50) (onGrid : OnGrid start now) :
    Mirrors start (bucket.refill now) (exact.refill now.toNat) := by
  obtain ⟨eighths, level⟩ := mirrors.level small onGrid
  have holds := mirrors.holds.refill now
  rw [level] at holds
  refine ⟨?_, holds, eighths, ?_, ?_⟩
  · simp [mirrors.limits]
  · rw [refill_lastRefill, ExactBucket.refill_lastRefill, mirrors.lastRefill]
  · rw [refill_lastRefill]
    rcases max_choice bucket.lastRefill.toNat now.toNat with same | same
    · rw [same]
      exact mirrors.onGrid
    · rw [same]
      exact onGrid.eighths

/-- The count is far below the end of the range of its floor. -/
private theorem Mirrors.tokens_lt (mirrors : Mirrors start bucket exact)
    (small : bucket.limits.capacity.toNat ≤ 2 ^ 50) : exact.tokens < 2 ^ 64 := by
  have high := mirrors.holds.le_brim
  rw [bucket.limits.brim_eq (by omega)] at high
  have capacity : (bucket.limits.capacity.toNat : Rat) ≤ 2 ^ 50 := by exact_mod_cast small
  exact (high.trans capacity).trans_lt (by norm_num)

/-- A request on the grid is answered alike and keeps both buckets alike. -/
theorem Mirrors.consume (mirrors : Mirrors start bucket exact)
    (positive : bucket.limits.Positive) (small : bucket.limits.capacity.toNat ≤ 2 ^ 50)
    (onGrid : OnGrid start now) :
    (Reply.decided (bucket.consume now).1).exact = (exact.refill now.toNat).take.1 ∧
      Mirrors start (bucket.consume now).2 (exact.refill now.toNat).take.2 := by
  have filled := mirrors.refill small onGrid
  obtain ⟨eighths, level⟩ := mirrors.level small onGrid
  have range := filled.tokens_lt (by simpa using small)
  have limits : (exact.refill now.toNat).limits = bucket.limits := mirrors.limits
  generalize exact.refill now.toNat = filledExact at *
  rcases mirrors.holds.consume now with ⟨enough, _, taken⟩ | ⟨short, refused, _⟩
  · have whole := mirrors.holds.nearest_level_sub_one (by omega) enough
    rw [whole, level] at taken
    rw [level] at enough
    have take : filledExact.take =
        (.allow bucket.limits.capacity.toNat (filledExact.tokens - 1).floor,
          { filledExact with tokens := filledExact.tokens - 1 }) := by
      rw [ExactBucket.take, if_pos enough, limits]
    have remaining := toNat_floorUInt64 (sub_nonneg.mpr enough) (by linarith)
    rw [take]
    constructor
    · rw [consume_of_one_le mirrors.holds (by rwa [level]), whole, level]
      exact congrArg (ExactBucket.Reply.allow _) remaining
    · refine ⟨?_, taken, eighths.sub_one enough, ?_, ?_⟩
      · simpa using limits
      · rw [consume_lastRefill]
        exact filled.lastRefill
      · rw [consume_lastRefill]
        exact filled.onGrid
  · rw [level] at short
    have none : filledExact.tokens.floor = 0 := by
      have low : 0 ≤ filledExact.tokens.floor :=
        Rat.le_floor_iff.mpr (by simpa using filled.holds.nonneg)
      have high : filledExact.tokens.floor < 1 := Rat.floor_lt_iff.mpr (by simpa using short)
      omega
    have take : filledExact.take = (.refuse bucket.limits.capacity.toNat 0 1, filledExact) := by
      rw [ExactBucket.take, if_neg (not_le.mpr short), limits, none,
        ExactBucket.wait_of_lt_one (by rw [limits]; exact positive.refill) filled.holds.nonneg]
    rw [take]
    constructor
    · rw [mirrors.holds.decision_of_refused positive.refill refused]
      rfl
    · rw [consume_of_lt_one mirrors.holds (by rwa [level])]
      exact filled

/-- One call on the grid is answered alike and keeps both buckets alike. -/
theorem Mirrors.call (mirrors : Mirrors start bucket exact) (positive : bucket.limits.Positive)
    (small : bucket.limits.capacity.toNat ≤ 2 ^ 50) {call : Call}
    (onGrid : OnGrid start call.reading) :
    (bucket.call call).1.exact = (exact.call call).1 ∧
      Mirrors start (bucket.call call).2 (exact.call call).2 := by
  cases call with
  | consume reading => exact mirrors.consume positive small onGrid
  | available reading =>
      have filled := mirrors.refill small onGrid
      have shown :=
        toNat_floorUInt64 filled.holds.nonneg (filled.tokens_lt (by simpa using small))
      rw [← filled.holds.count] at shown
      exact ⟨congrArg ExactBucket.Reply.shown shown, filled⟩

/-- A run on the grid is answered alike and keeps both buckets alike. -/
theorem Mirrors.run (mirrors : Mirrors start bucket exact) (positive : bucket.limits.Positive)
    (small : bucket.limits.capacity.toNat ≤ 2 ^ 50) {calls : List Call}
    (onGrid : ∀ call ∈ calls, OnGrid start call.reading) :
    (bucket.run calls).1.map Reply.exact = (exact.run calls).1 ∧
      Mirrors start (bucket.run calls).2 (exact.run calls).2 := by
  induction calls generalizing bucket exact with
  | nil => exact ⟨rfl, mirrors⟩
  | cons call rest inductionHypothesis =>
      obtain ⟨reply, next⟩ := mirrors.call positive small (onGrid call List.mem_cons_self)
      obtain ⟨replies, last⟩ :=
        inductionHypothesis next (by simpa using positive) (by simpa using small)
          fun call member => onGrid call (List.mem_cons_of_mem _ member)
      rw [run_cons, ExactBucket.run_cons, List.map_cons, reply, replies]
      exact ⟨rfl, last⟩

/-- With a capacity of at most `2 ^ 50`, a bucket that is called some eighths of a second
before or after it was made answers as the exact bucket does, in whatever order the clock
readings come. While the clock stands still, at whichever reading, it admits as often as
it shows tokens, telling each time how many are left, and refuses from then on. -/
theorem run_map_exact {limits : Limits} (positive : limits.Positive)
    (small : limits.capacity.toNat ≤ 2 ^ 50) (start : UInt64) (calls : List Call)
    (onGrid : ∀ call ∈ calls, OnGrid start call.reading) :
    ((full limits start).run calls).1.map Reply.exact =
        ((ExactBucket.full limits start.toNat).run calls).1 ∧
      ∀ (now : UInt64) (count : Nat),
        let shown := ((full limits start).run calls).2.available now
        shown.2.answers (List.replicate count now) =
          countdown limits.capacity shown.1.toNat count := by
  obtain ⟨replies, _⟩ := (Mirrors.full small start).run positive small onGrid
  refine ⟨replies, fun now count => ?_⟩
  obtain ⟨tokens, holds⟩ := (Holds.full limits start).run calls
  have limitsEq : ((full limits start).run calls).2.limits = limits := run_limits _ _
  have standing := holds.answers_of_shown (by rw [limitsEq]; exact positive.refill)
    (by rw [limitsEq]; omega) now count
  rwa [limitsEq] at standing

/-- The largest capacity and the fastest refill, whose product with an eighth of a second
is far beyond the capacity and not on the binary64 grid, with stale readings among the
calls. -/
theorem run_map_exact_at_limits :
    let limits : Limits := ⟨1125899906842624, 18446744073709551615⟩
    let calls : List Call := [.consume 1000, .consume 1000, .available 1125, .consume 250,
      .available 9007199254740875, .consume 625]
    (limits.Positive ∧ limits.capacity.toNat ≤ 2 ^ 50 ∧
        ∀ call ∈ calls, OnGrid 500 call.reading) ∧
      ((full limits 500).run calls).1.map Reply.exact =
        ((ExactBucket.full limits 500).run calls).1 := by
  intro limits calls
  have positive : limits.Positive := ⟨by decide, by decide⟩
  have small : limits.capacity.toNat ≤ 2 ^ 50 := by decide
  have onGrid : ∀ call ∈ calls, OnGrid 500 call.reading := by decide
  exact ⟨⟨positive, small, onGrid⟩, (run_map_exact positive small 500 calls onGrid).1⟩

end Bucket

end Turnstile
