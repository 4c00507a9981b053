import Turnstile.Proofs.Bucket.Idle
import Turnstile.Proofs.Limiter.Buckets

/-!
# Waiting after a refusal

A refusal asks to wait for one second, and that is enough: whoever comes back a second after
the last refill, with nobody in between, is admitted (`Bucket.Holds.honest`). On a limiter
whose clock never goes backwards no bucket was filled up to a later reading than the clock
shows (`TimedLimiter.Current`), so that the second may be counted from the refusal.
-/

namespace Turnstile

open Binary64

/-- An admission asks nobody to wait. -/
theorem Decision.retryAfter_of_admitted {decision : Decision}
    (admitted : decision.isAdmitted = true) : decision.retryAfter = 0 := by
  cases decision with
  | allow => rfl
  | refuse => cases admitted

/-- A refusal asks for the computed wait, and for one second at least. -/
theorem Decision.retryAfter_refuseFor (limit remaining wait : UInt64) :
    (refuseFor limit remaining wait).retryAfter.toNat = max 1 wait.toNat := by
  unfold refuseFor retryAfter
  by_cases zero : wait = 0
  · rw [if_pos zero, zero]
    rfl
  · rw [if_neg zero]
    have positive : wait.toNat ≠ 0 := fun none => zero (UInt64.toNat_inj.mp none)
    change wait.toNat = max 1 wait.toNat
    omega

namespace Bucket

variable {bucket : Bucket} {tokens : Rat}

/-- What a refusal at a clock reading says, and what it promises. -/
structure Honest (bucket : Bucket) (now : UInt64) : Prop where
  remaining : (bucket.consume now).1.remaining = 0
  /-- It asks for the seconds that the bucket computed, at least one and never more. -/
  retryAfter : (bucket.consume now).1.retryAfter = 1
  computed : max 1 (bucket.consume now).2.wait.toNat = 1
  /-- Nor would more be computed without rounding. -/
  missing : ∃ tokens, (bucket.consume now).2.tokens = .finite tokens ∧
    max 1 ⌈(1 - tokens) / (bucket.limits.refill.toNat : Rat)⌉ = 1
  /-- Who is next to come, a second after the last refill or later, is admitted. -/
  kept : ∀ later : UInt64, (bucket.consume now).2.lastRefill.toNat + 1000 ≤ later.toNat →
    ((bucket.consume now).2.consume later).1.isAdmitted = true

/-- Whoever waits for a second after the last refill is admitted. -/
theorem Holds.admitted_of_waited (holds : bucket.Holds tokens)
    (positive : bucket.limits.Positive) {later : UInt64}
    (waited : bucket.lastRefill.toNat + 1000 ≤ later.toNat) :
    (bucket.consume later).1.isAdmitted = true := by
  rw [consume_of_one_le holds (holds.one_le_level positive waited)]
  rfl

/-- A full bucket admits whoever comes. -/
theorem admitted_full {limits : Limits} (positive : limits.Positive) (now : UInt64) :
    ((full limits now).consume now).1.isAdmitted = true := by
  have holds := Holds.full limits now
  have enough := (Limits.one_le_brim positive).trans (holds.le_level now)
  rw [consume_of_one_le holds enough]
  rfl

/-- Every refusal is honest. -/
theorem Holds.honest (holds : bucket.Holds tokens) (positive : bucket.limits.Positive)
    {now : UInt64} (refused : (bucket.consume now).1.isAdmitted = false) :
    bucket.Honest now := by
  have said := holds.decision_of_refused positive.refill refused
  obtain ⟨_, admitted, _⟩ | ⟨short, _, left⟩ := holds.consume now
  · rw [admitted] at refused
    cases refused
  · refine ⟨by rw [said]; rfl, by rw [said]; rfl, ?_, ⟨_, left.count, ?_⟩, fun later waited => ?_⟩
    · have asked := left.refuseFor_wait (by simpa using positive.refill) short 0 0
      rw [← Decision.retryAfter_refuseFor 0 0, asked]
      rfl
    · have rate : (1 : Rat) ≤ bucket.limits.refill.toNat := by
        exact_mod_cast one_le_toNat positive.refill
      have atMost : (1 - bucket.level tokens now) / (bucket.limits.refill.toNat : Rat) ≤ 1 := by
        rw [div_le_one (by linarith)]
        linarith [left.nonneg]
      exact max_eq_left (Int.ceil_le.mpr (by exact_mod_cast atMost))
    · exact left.admitted_of_waited (by simpa using positive) waited

end Bucket

namespace TimedLimiter

/-- The clock never goes backwards in a run. -/
def Forward (timed : TimedLimiter) : List Action → Prop
  | [] => True
  | action :: rest =>
      timed.now ≤ (timed.step action).2.now ∧ (timed.step action).2.Forward rest

/-- No bucket is filled up to a later reading than the clock shows. -/
def Current (timed : TimedLimiter) : Prop :=
  ∀ key bucket, timed.limiter.bucket? key = some bucket → bucket.lastRefill ≤ timed.now

theorem Current.ofTiers (tiers : Tiers) (start : UInt64) :
    Current ⟨start, .ofTiers tiers⟩ := by
  intro key bucket there
  rw [Limiter.bucket?_ofTiers] at there
  cases there

/-- The bucket that a charge finds is filled up to no later reading either. -/
theorem Current.found {timed : TimedLimiter} (current : timed.Current) (key : String) :
    (timed.limiter.found key timed.now).lastRefill ≤ timed.now := by
  unfold Limiter.found
  cases there : timed.limiter.bucket? key with
  | none => exact UInt64.le_refl _
  | some bucket => exact current key bucket there

/-- A charge fills the bucket it finds up to what the clock shows. -/
theorem Current.lastRefill_charged {timed : TimedLimiter} (current : timed.Current)
    (key : String) :
    ((timed.limiter.found key timed.now).consume timed.now).2.lastRefill = timed.now := by
  have early := UInt64.le_iff_toNat_le.mp (current.found key)
  rw [Bucket.consume_lastRefill, ← UInt64.toNat_inj, Bucket.refill_lastRefill,
    max_eq_right early]

/-- An action that does not turn the clock back leaves all buckets current. -/
theorem Current.step {timed : TimedLimiter} (current : timed.Current) (action : Action)
    (forward : timed.now ≤ (timed.step action).2.now) : (timed.step action).2.Current := by
  intro key bucket there
  cases action with
  | advance elapsed => exact UInt64.le_trans (current key bucket there) forward
  | set reading => exact UInt64.le_trans (current key bucket there) forward
  | clear =>
      change timed.limiter.clear.bucket? key = some bucket at there
      rw [Limiter.bucket?_clear] at there
      cases there
  | consume charged =>
      change (timed.limiter.consume charged timed.now).2.2.bucket? key = some bucket at there
      rw [Limiter.bucket?_consume] at there
      split at there
      · cases there
        rw [current.lastRefill_charged charged]
        exact UInt64.le_refl _
      · exact current key bucket there

/-- Nor does a run whose clock never goes backwards. -/
theorem Current.run {timed : TimedLimiter} (current : timed.Current) {actions : List Action}
    (forward : timed.Forward actions) : (timed.run actions).2.Current := by
  induction actions generalizing timed with
  | nil => exact current
  | cons action rest inductionHypothesis =>
      exact inductionHypothesis (current.step action forward.1) forward.2

/-- While nobody charges a key its bucket stays as it is, unless all keys are forgotten. -/
theorem bucket?_run_of_quiet {timed : TimedLimiter} {key : String} {actions : List Action}
    (quiet : ∀ action ∈ actions, action ≠ .consume key) :
    (timed.run actions).2.limiter.bucket? key = timed.limiter.bucket? key ∨
      (timed.run actions).2.limiter.bucket? key = none := by
  induction actions generalizing timed with
  | nil => exact .inl rfl
  | cons action rest inductionHypothesis =>
      obtain ⟨first, others⟩ := List.forall_mem_cons.mp quiet
      have later := @inductionHypothesis (timed.step action).2 others
      rw [run_cons]
      cases action with
      | advance elapsed => exact later
      | set reading => exact later
      | clear =>
          refine .inr (later.elim (fun same => ?_) id)
          rw [same]
          exact Limiter.bucket?_clear _ key
      | consume other =>
          have untouched : (timed.step (.consume other)).2.limiter.bucket? key =
              timed.limiter.bucket? key := by
            change (timed.limiter.consume other timed.now).2.2.bucket? key = _
            rw [Limiter.bucket?_consume, if_neg (fun same => first (by rw [same]))]
          rwa [untouched] at later

/-- What a charge to a key would be answered. -/
def decision (timed : TimedLimiter) (key : String) : Decision :=
  (timed.limiter.consume key timed.now).1

/-- The limiter after a charge to a key and what comes after it. -/
def afterCharge (timed : TimedLimiter) (key : String) (waiting : List Action) : TimedLimiter :=
  (timed.run (.consume key :: waiting)).2

/-- A key is refused, and not charged again until the wait is over. -/
structure WaitsOut (timed : TimedLimiter) (key : String) (waiting : List Action) : Prop where
  refused : (timed.decision key).isAdmitted = false
  quiet : ∀ action ∈ waiting, action ≠ .consume key
  waited : timed.now.toNat + 1000 * (timed.decision key).retryAfter.toNat ≤
    (timed.afterCharge key waiting).now.toNat

/-- On buckets that are current, whoever waits out a refusal is admitted. -/
theorem WaitsOut.admitted {timed : TimedLimiter} {key : String} {waiting : List Action}
    (waits : timed.WaitsOut key waiting) (current : timed.Current)
    (sound : timed.limiter.Sound) :
    ((timed.afterCharge key waiting).decision key).isAdmitted = true := by
  have soundLater : (timed.afterCharge key waiting).limiter.Sound := run_sound sound _
  have passed := waits.waited
  have said : timed.decision key = .refuse (timed.limiter.tiers.limitsFor key).capacity 0 1 :=
    (sound.decision key timed.now).2 waits.refused
  rw [said] at passed
  have kept := @bucket?_run_of_quiet (timed.step (.consume key)).2 key waiting waits.quiet
  change (timed.afterCharge key waiting).limiter.bucket? key =
      (timed.limiter.consume key timed.now).2.2.bucket? key ∨
    (timed.afterCharge key waiting).limiter.bucket? key = none at kept
  rw [Limiter.bucket?_consume, if_pos rfl] at kept
  generalize timed.afterCharge key waiting = later at soundLater passed kept ⊢
  obtain ⟨limits, tokens, holds⟩ := soundLater.found key later.now
  have positive : (later.limiter.found key later.now).limits.Positive := by
    rw [limits]
    exact Tiers.limitsFor_positive _ key
  rw [decision, Limiter.consume_decision]
  rcases kept with same | forgotten
  · refine holds.admitted_of_waited positive ?_
    rw [Limiter.found, same, Option.getD_some, current.lastRefill_charged key]
    exact passed
  · rw [Limiter.found, forgotten, Option.getD_none, Limiter.newBucket]
    exact Bucket.admitted_full (Tiers.limitsFor_positive _ key) later.now

/-- Every bucket of positive limits, whatever was asked of it before, admits without a wait
and refuses with a wait of one second, after which whoever comes next is admitted. On a
limiter whose clock never went backwards, a caller who was refused and does not call again
until the wait is over is admitted, whoever else calls in the meantime. -/
theorem refusals_honest :
    (∀ (limits : Limits), limits.Positive → ∀ (start : UInt64) (calls : List Bucket.Call)
      (now : UInt64),
      let bucket := ((Bucket.full limits start).run calls).2
      ((bucket.consume now).1.isAdmitted = true → (bucket.consume now).1.retryAfter = 0) ∧
        ((bucket.consume now).1.isAdmitted = false → bucket.Honest now)) ∧
    ∀ (tiers : Tiers) (start : UInt64) (past waiting : List Action) (key : String),
      Forward ⟨start, .ofTiers tiers⟩ past →
      let timed := ((⟨start, .ofTiers tiers⟩ : TimedLimiter).run past).2
      timed.WaitsOut key waiting →
        ((timed.afterCharge key waiting).decision key).isAdmitted = true := by
  constructor
  · intro limits positive start calls now bucket
    obtain ⟨tokens, holds⟩ := (Bucket.Holds.full limits start).run calls
    have limitsEq : bucket.limits = limits := Bucket.run_limits _ _
    exact ⟨Decision.retryAfter_of_admitted, holds.honest (by rwa [limitsEq])⟩
  · intro tiers start past waiting key forward timed waits
    have current := (Current.ofTiers tiers start).run forward
    exact waits.admitted current (run_sound (.ofTiers tiers) past)

/-- A bucket that was filled in parts and at a stale reading, and a key that is refused half
a second after its only token was taken, while another key is charged. -/
theorem refusals_honest_of_parts :
    let limits : Limits := ⟨1, 1⟩
    let calls : List Bucket.Call := [.consume 700, .available 1033, .consume 500]
    let bucket := ((Bucket.full limits 0).run calls).2
    let tiers : Tiers := ⟨limits, limits, ⟨by decide, by decide⟩, ⟨by decide, by decide⟩⟩
    let past : List Action := [.set 100, .consume "user:a", .advance 500]
    let waiting : List Action := [.consume "user:b", .advance 900, .consume "user:b", .set 1600]
    let timed := ((⟨0, .ofTiers tiers⟩ : TimedLimiter).run past).2
    limits.Positive ∧ (bucket.consume 1699).1.isAdmitted = false ∧ bucket.Honest 1699 ∧
      (bucket.consume 1800).1.isAdmitted = true ∧ (bucket.consume 1800).1.retryAfter = 0 ∧
      Forward ⟨0, .ofTiers tiers⟩ past ∧
      timed.WaitsOut "user:a" waiting ∧
      ((timed.afterCharge "user:a" waiting).decision "user:a").isAdmitted = true := by
  intro limits calls bucket tiers past waiting timed
  have positive : limits.Positive := ⟨by decide, by decide⟩
  have short : (bucket.consume 1699).1.isAdmitted = false := by decide +kernel
  have enough : (bucket.consume 1800).1.isAdmitted = true := by decide +kernel
  have forward : Forward ⟨0, .ofTiers tiers⟩ past :=
    ⟨by decide, by decide, by decide, trivial⟩
  have waits : timed.WaitsOut "user:a" waiting :=
    ⟨by decide +kernel, by decide, by decide +kernel⟩
  obtain ⟨ofBucket, ofLimiter⟩ := refusals_honest
  exact ⟨positive, short, (ofBucket limits positive 0 calls 1699).2 short, enough,
    (ofBucket limits positive 0 calls 1800).1 enough, forward, waits,
    ofLimiter tiers 0 past waiting "user:a" forward waits⟩

end TimedLimiter

end Turnstile
