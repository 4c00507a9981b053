import Mathlib.Data.Finset.Card
import Turnstile.Proofs.Bucket.Alone
import Turnstile.Proofs.Limiter.Buckets

/-!
# Keys do not interfere

The decisions on a key are those of a bucket of its own. `TimedLimiter.visits` lists
the clock readings at which a key is charged, up to each point where all keys are
forgotten, and `Bucket.alone` is a bucket made full at the first of some readings and
charged at all of them. The two give the decisions of every run, and neither knows of
any other key.
-/

namespace Turnstile

namespace TimedLimiter

/-- The key and the decision of a charge, given an action and its answer. -/
def charge? : Action × Answer → Option (String × Decision)
  | (.consume key, .charged decision _ _) => some (key, decision)
  | _ => none

/-- The charges of a run, each with its key and decision. -/
def charges (timed : TimedLimiter) (actions : List Action) : List (String × Decision) :=
  (actions.zip (timed.run actions).1).filterMap charge?

/-- The decisions on a key in a run. -/
def decisionsOn (key : String) (timed : TimedLimiter) (actions : List Action) : List Decision :=
  ((timed.charges actions).filter fun charge => charge.1 = key).map Prod.snd

/-- The clock readings at which a key is charged: those up to the first time that all
keys are forgotten, and those after each such time. -/
def visits (key : String) : UInt64 → List Action → List UInt64 × List (List UInt64)
  | _, [] => ([], [])
  | now, .advance elapsed :: rest => visits key (laterBy now elapsed) rest
  | _, .set reading :: rest => visits key reading rest
  | now, .consume other :: rest =>
      let (first, others) := visits key now rest
      (if other = key then now :: first else first, others)
  | now, .clear :: rest =>
      let (first, others) := visits key now rest
      ([], first :: others)

/-- Whether an action is anything but a charge to another key. -/
def Action.concerns (key : String) : Action → Bool
  | .consume other => other = key
  | _ => true

/-- The keys that are met after one more action. -/
def Action.meet (keys : Finset String) : Action → Finset String
  | .consume key => insert key keys
  | .clear => ∅
  | _ => keys

/-- The keys charged since all keys were last forgotten. -/
def met (actions : List Action) : Finset String := actions.foldl Action.meet ∅

/-! ## One key -/

/-- The decisions at some readings of a key whose bucket is there, or of a new key. -/
private def resumed (limits : Limits) : Option Bucket → List UInt64 → List Decision
  | some bucket, readings => bucket.answers readings
  | none, readings => Bucket.alone limits readings

private theorem resumed_nil (limits : Limits) (bucket : Option Bucket) :
    resumed limits bucket [] = [] := by
  cases bucket <;> rfl

private theorem resumed_cons (limits : Limits) (bucket : Option Bucket) (now : UInt64)
    (later : List UInt64) :
    resumed limits bucket (now :: later) =
      ((bucket.getD (.full limits now)).consume now).1 ::
        resumed limits (some ((bucket.getD (.full limits now)).consume now).2) later := by
  cases bucket <;> rfl

theorem charges_cons (timed : TimedLimiter) (action : Action) (rest : List Action) :
    timed.charges (action :: rest) =
      (charge? (action, (timed.step action).1)).toList ++
        (timed.step action).2.charges rest := by
  unfold charges
  rw [run_cons, List.zip_cons_cons, List.filterMap_cons]
  cases charge? (action, (timed.step action).1) <;> rfl

/-- The charges of a run in two parts are those of the parts. -/
theorem charges_append (timed : TimedLimiter) (first second : List Action) :
    timed.charges (first ++ second) =
      timed.charges first ++ (timed.run first).2.charges second := by
  induction first generalizing timed with
  | nil => rfl
  | cons action rest inductionHypothesis =>
      rw [List.cons_append, charges_cons, charges_cons, inductionHypothesis, run_cons,
        List.append_assoc]

private theorem decisionsOn_cons_consume (key other : String) (timed : TimedLimiter)
    (rest : List Action) :
    decisionsOn key timed (.consume other :: rest) =
      (if other = key then [((timed.limiter.found other timed.now).consume timed.now).1]
        else []) ++
        decisionsOn key (timed.step (.consume other)).2 rest := by
  unfold decisionsOn
  rw [charges_cons, List.filter_append, List.map_append, ← Limiter.consume_decision]
  by_cases same : other = key
  · simp [charge?, step, same]
  · simp [charge?, step, same]

/-- From any point on, a key goes on with its own bucket. -/
private theorem decisionsOn_eq_resumed (key : String) (timed : TimedLimiter)
    (actions : List Action) :
    decisionsOn key timed actions =
      resumed (timed.limiter.tiers.limitsFor key) (timed.limiter.bucket? key)
          (visits key timed.now actions).1 ++
        (visits key timed.now actions).2.flatMap
          (Bucket.alone (timed.limiter.tiers.limitsFor key)) := by
  induction actions generalizing timed with
  | nil =>
      rw [visits, resumed_nil]
      rfl
  | cons action rest inductionHypothesis =>
      cases action with
      | advance elapsed => exact inductionHypothesis _
      | set reading => exact inductionHypothesis _
      | clear =>
          change decisionsOn key (timed.step .clear).2 rest = _
          rw [inductionHypothesis]
          change resumed _ (timed.limiter.clear.bucket? key) _ ++ _ = _
          rw [Limiter.bucket?_clear]
          simp only [visits, resumed_nil, List.nil_append, List.flatMap_cons]
          rfl
      | consume other =>
          rw [decisionsOn_cons_consume, inductionHypothesis, step_tiers]
          change _ ++ (resumed _ ((timed.limiter.consume other timed.now).2.2.bucket? key)
            (visits key timed.now rest).1 ++ _) = _
          rw [Limiter.bucket?_consume]
          by_cases same : other = key
          · subst same
            simp only [visits, if_true, resumed_cons]
            rfl
          · simp only [visits, if_neg same, if_neg (Ne.symm same)]
            rfl

/-- The decisions on a key that has not been met are those of a bucket of its own. -/
theorem decisionsOn_of_new {key : String} {timed : TimedLimiter}
    (fresh : timed.limiter.bucket? key = none) (actions : List Action) :
    decisionsOn key timed actions =
      ((visits key timed.now actions).1 :: (visits key timed.now actions).2).flatMap
        (Bucket.alone (timed.limiter.tiers.limitsFor key)) := by
  rw [decisionsOn_eq_resumed, List.flatMap_cons, fresh]
  rfl

/-- Charges to other keys leave the readings of a key alone. -/
private theorem visits_filter (key : String) (now : UInt64) (actions : List Action) :
    visits key now (actions.filter (Action.concerns key)) = visits key now actions := by
  induction actions generalizing now with
  | nil => rfl
  | cons action rest inductionHypothesis =>
      cases action with
      | advance elapsed => exact inductionHypothesis _
      | set reading => exact inductionHypothesis _
      | clear =>
          change visits key now (.clear :: rest.filter (Action.concerns key)) = _
          simp only [visits, inductionHypothesis]
      | consume other =>
          by_cases same : other = key
          · rw [List.filter_cons_of_pos (by simpa [Action.concerns] using same)]
            simp only [visits, inductionHypothesis]
          · rw [List.filter_cons_of_neg (by simpa [Action.concerns] using same)]
            simp only [visits, inductionHypothesis, if_neg same]

/-! ## All keys -/

/-- The buckets are those of the keys charged since all keys were last forgotten. -/
private def Tracks (limiter : Limiter) (keys : Finset String) : Prop :=
  limiter.size = keys.card ∧ ∀ key, (limiter.bucket? key).isSome ↔ key ∈ keys

private theorem Tracks.step {timed : TimedLimiter} {keys : Finset String}
    (tracks : Tracks timed.limiter keys) (action : Action) :
    Tracks (timed.step action).2.limiter (action.meet keys) := by
  cases action with
  | advance elapsed => exact tracks
  | set reading => exact tracks
  | clear =>
      refine ⟨timed.limiter.size_clear, fun key => ?_⟩
      change (timed.limiter.clear.bucket? key).isSome ↔ _
      simp [Action.meet]
  | consume key =>
      obtain ⟨size, there⟩ := tracks
      refine ⟨?_, fun other => ?_⟩
      · change (timed.limiter.consume key timed.now).2.2.size = (insert key keys).card
        rw [Limiter.consume_limiter, Limiter.size_setBucket, size]
        by_cases member : key ∈ keys
        · rw [if_pos ((there key).mpr member), Finset.insert_eq_of_mem member]
        · rw [if_neg (fun held => member ((there key).mp held)),
            Finset.card_insert_of_notMem member]
      · change ((timed.limiter.consume key timed.now).2.2.bucket? other).isSome ↔
          other ∈ insert key keys
        rw [Limiter.bucket?_consume, Finset.mem_insert]
        by_cases same : other = key
        · simp [same]
        · simp only [same, false_or]
          exact there other

private theorem Tracks.run {timed : TimedLimiter} {keys : Finset String}
    (tracks : Tracks timed.limiter keys) (actions : List Action) :
    Tracks (timed.run actions).2.limiter (actions.foldl Action.meet keys) := by
  induction actions generalizing timed keys with
  | nil => exact tracks
  | cons action rest inductionHypothesis => exact inductionHypothesis (tracks.step action)

/-- Of a limiter without buckets, the decisions on a key are those of a bucket of its
own, made full when the key is first charged after all keys were forgotten. Charges
to other keys may be put in, left out or moved about, and every decision tells the
capacity of the key's tier. The buckets are as many as the keys met. -/
theorem decisionsOn_eq_alone (tiers : Tiers) (start : UInt64) (actions : List Action)
    (key : String) :
    let timed : TimedLimiter := ⟨start, .ofTiers tiers⟩
    let limits := tiers.limitsFor key
    decisionsOn key timed actions =
        ((visits key start actions).1 :: (visits key start actions).2).flatMap
          (Bucket.alone limits) ∧
      (∀ other : List Action,
        other.filter (Action.concerns key) = actions.filter (Action.concerns key) →
          decisionsOn key timed other = decisionsOn key timed actions) ∧
      (∀ decision ∈ decisionsOn key timed actions, decision.limit = limits.capacity) ∧
      (timed.run actions).2.limiter.size = (met actions).card := by
  intro timed limits
  have alone := @decisionsOn_of_new key timed (Limiter.bucket?_ofTiers tiers key)
  have tracks : Tracks timed.limiter ∅ := by
    refine ⟨Limiter.size_ofTiers tiers, fun other => ?_⟩
    change ((Limiter.ofTiers tiers).bucket? other).isSome ↔ _
    simp
  refine ⟨alone actions, fun other same => ?_, fun decision member => ?_,
    (tracks.run actions).1⟩
  · rw [alone, alone, ← visits_filter key _ other, same, visits_filter]
  · rw [alone, List.mem_flatMap] at member
    obtain ⟨readings, _, decided⟩ := member
    exact Bucket.limit_of_mem_alone decided

/-- The charges to another key are left out. -/
theorem decisionsOn_eq_alone_of_others :
    let limits : Limits := ⟨2, 1⟩
    let tiers : Tiers := ⟨limits, limits, ⟨by decide, by decide⟩, ⟨by decide, by decide⟩⟩
    let timed : TimedLimiter := ⟨5, .ofTiers tiers⟩
    let actions : List Action := [.consume "user:a", .consume "user:b", .advance 10,
      .consume "user:b", .consume "user:a", .clear, .consume "user:a"]
    let other : List Action := [.consume "user:a", .advance 10, .consume "user:a", .clear,
      .consume "user:a"]
    other.filter (Action.concerns "user:a") = actions.filter (Action.concerns "user:a") ∧
      decisionsOn "user:a" timed other = decisionsOn "user:a" timed actions := by
  intro limits tiers timed actions other
  have same : other.filter (Action.concerns "user:a") =
      actions.filter (Action.concerns "user:a") := by decide
  exact ⟨same, (decisionsOn_eq_alone tiers 5 actions "user:a").2.1 other same⟩

end TimedLimiter

end Turnstile
