import Turnstile.Limiter.Run
import Turnstile.Proofs.Bucket.Run

/-!
# The buckets of a limiter

The map of buckets is seen only through `Limiter.bucket?` and `Limiter.size`, and
each operation is described by what it does to these two. `Limiter.Sound` says that
every bucket has the limits of its key's tier and holds a number of tokens; every
run from a limiter without buckets keeps it.
-/

namespace Turnstile

namespace Limiter

/-! ## The map seen from outside -/

@[simp] theorem bucket?_ofTiers (tiers : Tiers) (key : String) :
    (ofTiers tiers).bucket? key = none :=
  Std.TreeMap.getElem?_emptyc

@[simp] theorem bucket?_clear (limiter : Limiter) (key : String) :
    limiter.clear.bucket? key = none :=
  Std.TreeMap.getElem?_emptyc

theorem bucket?_setBucket (limiter : Limiter) (key other : String) (bucket : Bucket) :
    (limiter.setBucket key bucket).bucket? other =
      if other = key then some bucket else limiter.bucket? other := by
  unfold bucket? setBucket
  rw [Std.TreeMap.getElem?_insert]
  simp only [Std.compare_eq_iff_eq, eq_comm (a := other)]

@[simp] theorem setBucket_tiers (limiter : Limiter) (key : String) (bucket : Bucket) :
    (limiter.setBucket key bucket).tiers = limiter.tiers := rfl

@[simp] theorem size_ofTiers (tiers : Tiers) : (ofTiers tiers).size = 0 :=
  Std.TreeMap.size_emptyc

@[simp] theorem size_clear (limiter : Limiter) : limiter.clear.size = 0 :=
  Std.TreeMap.size_emptyc

theorem size_setBucket (limiter : Limiter) (key : String) (bucket : Bucket) :
    (limiter.setBucket key bucket).size =
      if (limiter.bucket? key).isSome then limiter.size else limiter.size + 1 := by
  unfold size setBucket bucket?
  rw [Std.TreeMap.size_insert, Std.TreeMap.contains_eq_isSome_getElem?]

/-! ## Charging a key -/

/-- The bucket that a charge finds: the key's own one, or a full one. -/
def found (limiter : Limiter) (key : String) (now : UInt64) : Bucket :=
  (limiter.bucket? key).getD (limiter.newBucket key now)

theorem meet_fst (limiter : Limiter) (key : String) (now : UInt64) :
    (limiter.meet key now).1 = limiter.found key now := by
  unfold meet found
  cases limiter.bucket? key <;> rfl

/-- A charge is decided by the bucket it finds. -/
theorem consume_decision (limiter : Limiter) (key : String) (now : UInt64) :
    (limiter.consume key now).1 = ((limiter.found key now).consume now).1 := by
  rw [← meet_fst]
  rfl

/-- A charge changes no bucket but the one it finds. -/
theorem consume_limiter (limiter : Limiter) (key : String) (now : UInt64) :
    (limiter.consume key now).2.2 =
      limiter.setBucket key ((limiter.found key now).consume now).2 := by
  rw [← meet_fst]
  rfl

theorem bucket?_consume (limiter : Limiter) (key other : String) (now : UInt64) :
    (limiter.consume key now).2.2.bucket? other =
      if other = key then some ((limiter.found key now).consume now).2
      else limiter.bucket? other := by
  rw [consume_limiter, bucket?_setBucket]

@[simp] theorem consume_tiers (limiter : Limiter) (key : String) (now : UInt64) :
    (limiter.consume key now).2.2.tiers = limiter.tiers := by
  rw [consume_limiter, setBucket_tiers]

/-! ## Soundness -/

/-- Every bucket is one that its key can have. -/
def Sound (limiter : Limiter) : Prop :=
  ∀ key bucket, limiter.bucket? key = some bucket →
    bucket.limits = limiter.tiers.limitsFor key ∧ ∃ tokens, bucket.Holds tokens

theorem Sound.ofTiers (tiers : Tiers) : (ofTiers tiers).Sound := by
  intro key bucket there
  rw [bucket?_ofTiers] at there
  cases there

theorem Sound.clear (limiter : Limiter) : limiter.clear.Sound := by
  intro key bucket there
  rw [bucket?_clear] at there
  cases there

variable {limiter : Limiter}

theorem Sound.setBucket (sound : limiter.Sound) {key : String} {bucket : Bucket}
    (limits : bucket.limits = limiter.tiers.limitsFor key) {tokens : Rat}
    (holds : bucket.Holds tokens) : (limiter.setBucket key bucket).Sound := by
  intro other found there
  rw [bucket?_setBucket] at there
  split at there
  · next same =>
      cases there
      rw [same]
      exact ⟨limits, tokens, holds⟩
  · exact sound other found there

/-- The bucket a charge finds is one that the key can have. -/
theorem Sound.found (sound : limiter.Sound) (key : String) (now : UInt64) :
    (limiter.found key now).limits = limiter.tiers.limitsFor key ∧
      ∃ tokens, (limiter.found key now).Holds tokens := by
  unfold Limiter.found
  cases there : limiter.bucket? key with
  | none => exact ⟨rfl, _, Bucket.Holds.full _ now⟩
  | some bucket => exact sound key bucket there

theorem Sound.consume (sound : limiter.Sound) (key : String) (now : UInt64) :
    (limiter.consume key now).2.2.Sound := by
  obtain ⟨limits, tokens, holds⟩ := sound.found key now
  obtain ⟨left, holdsLeft⟩ := holds.call (.consume now)
  rw [consume_limiter]
  exact sound.setBucket ((Bucket.consume_limits now _).trans limits) holdsLeft

/-- A charge tells the capacity of the key's tier; a refused one leaves nothing and asks
to wait for one second. -/
theorem Sound.decision (sound : limiter.Sound) (key : String) (now : UInt64) :
    (limiter.consume key now).1.limit = (limiter.tiers.limitsFor key).capacity ∧
      ((limiter.consume key now).1.isAdmitted = false →
        (limiter.consume key now).1 =
          .refuse (limiter.tiers.limitsFor key).capacity 0 1) := by
  obtain ⟨limits, tokens, holds⟩ := sound.found key now
  rw [consume_decision, ← limits]
  refine ⟨Bucket.consume_limit now _, fun refused => holds.decision_of_refused ?_ refused⟩
  rw [limits]
  exact (limiter.tiers.limitsFor_positive key).refill

end Limiter

namespace TimedLimiter

@[simp] theorem run_nil (timed : TimedLimiter) : timed.run [] = ([], timed) := rfl

@[simp] theorem run_cons (timed : TimedLimiter) (action : Action) (rest : List Action) :
    timed.run (action :: rest) =
      ((timed.step action).1 :: ((timed.step action).2.run rest).1,
        ((timed.step action).2.run rest).2) := rfl

/-- A run in two parts is the first part and then the second. -/
theorem run_append (timed : TimedLimiter) (first second : List Action) :
    timed.run (first ++ second) =
      ((timed.run first).1 ++ ((timed.run first).2.run second).1,
        ((timed.run first).2.run second).2) := by
  induction first generalizing timed with
  | nil => rfl
  | cons action rest inductionHypothesis =>
      rw [List.cons_append, run_cons, inductionHypothesis, run_cons]
      rfl

theorem step_tiers (timed : TimedLimiter) (action : Action) :
    (timed.step action).2.limiter.tiers = timed.limiter.tiers := by
  cases action with
  | consume key => exact Limiter.consume_tiers _ key _
  | advance _ => rfl
  | set _ => rfl
  | clear => rfl

theorem step_sound {timed : TimedLimiter} (sound : timed.limiter.Sound) (action : Action) :
    (timed.step action).2.limiter.Sound := by
  cases action with
  | consume key => exact sound.consume key _
  | advance _ => exact sound
  | set _ => exact sound
  | clear => exact .clear _

/-- A run never changes the tiers. -/
theorem run_tiers (timed : TimedLimiter) (actions : List Action) :
    (timed.run actions).2.limiter.tiers = timed.limiter.tiers := by
  induction actions generalizing timed with
  | nil => rfl
  | cons action rest inductionHypothesis =>
      rw [run_cons, inductionHypothesis, step_tiers]

/-- A run keeps every bucket one that its key can have. -/
theorem run_sound {timed : TimedLimiter} (sound : timed.limiter.Sound) (actions : List Action) :
    (timed.run actions).2.limiter.Sound := by
  induction actions generalizing timed with
  | nil => exact sound
  | cons action rest inductionHypothesis =>
      rw [run_cons]
      exact inductionHypothesis (step_sound sound action)

end TimedLimiter

end Turnstile
