import Mathlib.Data.Set.Function
import Turnstile.Proofs.Limiter.Buckets

/-!
# A limiter sees of a key its kind and whether it is new

Keys may be renamed: as long as different keys stay different and each keeps its kind, a run
on the renamed keys answers as the run on the keys does, events included. `Renamed` ties the
two limiters together: the bucket of a key in the one is the bucket of its new name in the
other. One charge keeps this, since a charge looks at no bucket but that of its key, and at
the key for nothing but its kind.
-/

namespace Turnstile

/-- Different keys get different names, and every name is of the kind of its key. -/
structure RenamesKeys (rename : String → String) (keys : Set String) : Prop where
  injective : Set.InjOn rename keys
  kind : ∀ key ∈ keys, Key.kind (rename key) = Key.kind key

/-- Keys of one kind have one tier, and its limits. -/
theorem Tiers.limitsFor_of_kind (tiers : Tiers) {key other : String}
    (same : Key.kind other = Key.kind key) : tiers.limitsFor other = tiers.limitsFor key := by
  rw [limitsFor, limitsFor, Tier.ofKey, Tier.ofKey, same]

namespace Limiter

/-- Every bucket of a key stands in the other limiter under the new name of the key. -/
structure Renamed (rename : String → String) (keys : Set String) (limiter other : Limiter) :
    Prop where
  tiers : other.tiers = limiter.tiers
  size : other.size = limiter.size
  bucket? : ∀ key ∈ keys, other.bucket? (rename key) = limiter.bucket? key

variable {rename : String → String} {keys : Set String} {limiter other : Limiter}

theorem Renamed.ofTiers (rename : String → String) (keys : Set String) (tiers : Tiers) :
    Renamed rename keys (ofTiers tiers) (ofTiers tiers) where
  tiers := rfl
  size := rfl
  bucket? key _ := by rw [bucket?_ofTiers, bucket?_ofTiers]

theorem Renamed.clear (renamed : Renamed rename keys limiter other) :
    Renamed rename keys limiter.clear other.clear where
  tiers := renamed.tiers
  size := by rw [size_clear, size_clear]
  bucket? key _ := by rw [bucket?_clear, bucket?_clear]

theorem Renamed.setBucket (renamed : Renamed rename keys limiter other)
    (renames : RenamesKeys rename keys) {key : String} (member : key ∈ keys) (bucket : Bucket) :
    Renamed rename keys (limiter.setBucket key bucket) (other.setBucket (rename key) bucket) where
  tiers := renamed.tiers
  size := by rw [size_setBucket, size_setBucket, renamed.bucket? key member, renamed.size]
  bucket? asked memberAsked := by
    rw [bucket?_setBucket, bucket?_setBucket, renamed.bucket? asked memberAsked]
    simp only [renames.injective.eq_iff memberAsked member]

/-- The name of a key meets the bucket that the key meets, and reports the same. -/
theorem Renamed.meet (renamed : Renamed rename keys limiter other)
    (renames : RenamesKeys rename keys) {key : String} (member : key ∈ keys) (now : UInt64) :
    other.meet (rename key) now = limiter.meet key now := by
  have kind := renames.kind key member
  have limits : other.tiers.limitsFor (rename key) = limiter.tiers.limitsFor key := by
    rw [renamed.tiers, limiter.tiers.limitsFor_of_kind kind]
  unfold Limiter.meet newBucket
  rw [renamed.bucket? key member, limits, kind]

/-- A charge to the name of a key is decided as the charge to the key is. -/
theorem Renamed.consume (renamed : Renamed rename keys limiter other)
    (renames : RenamesKeys rename keys) {key : String} (member : key ∈ keys) (now : UInt64) :
    (other.consume (rename key) now).1 = (limiter.consume key now).1 ∧
      (other.consume (rename key) now).2.1 = (limiter.consume key now).2.1 ∧
      Renamed rename keys (limiter.consume key now).2.2
        (other.consume (rename key) now).2.2 := by
  unfold Limiter.consume
  rw [renamed.meet renames member now]
  exact ⟨rfl, rfl, renamed.setBucket renames member _⟩

end Limiter

namespace TimedLimiter

/-- The action on the new name of its key. -/
def Action.rename (rename : String → String) : Action → Action
  | .consume key => .consume (rename key)
  | action => action

/-- The keys that actions charge. -/
def chargedKeys (actions : List Action) : Set String := {key | .consume key ∈ actions}

/-- The two clocks agree, and the buckets up to the names of their keys. -/
structure Renamed (rename : String → String) (keys : Set String) (timed other : TimedLimiter) :
    Prop where
  now : other.now = timed.now
  limiter : timed.limiter.Renamed rename keys other.limiter

variable {rename : String → String} {keys : Set String} {timed other : TimedLimiter}

theorem Renamed.start (rename : String → String) (keys : Set String) (tiers : Tiers)
    (start : UInt64) :
    Renamed rename keys ⟨start, .ofTiers tiers⟩ ⟨start, .ofTiers tiers⟩ where
  now := rfl
  limiter := .ofTiers rename keys tiers

/-- An action answers on names as it does on keys. -/
theorem Renamed.step (renamed : timed.Renamed rename keys other)
    (renames : RenamesKeys rename keys) {action : Action}
    (member : ∀ key, action = .consume key → key ∈ keys) :
    (other.step (action.rename rename)).1 = (timed.step action).1 ∧
      (timed.step action).2.Renamed rename keys (other.step (action.rename rename)).2 := by
  obtain ⟨now, limiter⟩ := renamed
  cases action with
  | advance elapsed =>
      have later : laterBy other.now elapsed = laterBy timed.now elapsed := by rw [now]
      exact ⟨congrArg Answer.reading later, later, limiter⟩
  | set reading => exact ⟨rfl, rfl, limiter⟩
  | clear =>
      have cleared := limiter.clear
      exact ⟨congrArg Answer.cleared cleared.size, now, cleared⟩
  | consume key =>
      obtain ⟨decision, events, next⟩ := limiter.consume renames (member key rfl) timed.now
      refine ⟨?_, now, ?_⟩
      · simp only [TimedLimiter.step, Action.rename, now, decision, events, next.size]
      · simp only [TimedLimiter.step, Action.rename, now]
        exact next

/-- A run answers on names as it does on keys. -/
theorem Renamed.run (renamed : timed.Renamed rename keys other)
    (renames : RenamesKeys rename keys) {actions : List Action}
    (charged : chargedKeys actions ⊆ keys) :
    (other.run (actions.map (Action.rename rename))).1 = (timed.run actions).1 ∧
      (timed.run actions).2.Renamed rename keys
        (other.run (actions.map (Action.rename rename))).2 := by
  induction actions generalizing timed other with
  | nil => exact ⟨rfl, renamed⟩
  | cons action rest inductionHypothesis =>
      have first : ∀ key, action = .consume key → key ∈ keys := by
        rintro key rfl
        exact charged List.mem_cons_self
      have others : chargedKeys rest ⊆ keys :=
        fun key member => charged (List.mem_cons_of_mem _ member)
      obtain ⟨answer, next⟩ := renamed.step renames first
      obtain ⟨answers, last⟩ := inductionHypothesis next others
      rw [List.map_cons, run_cons, run_cons, answer, answers]
      exact ⟨rfl, last⟩

end TimedLimiter

end Turnstile
