import Mathlib.Data.Finset.Card
import Turnstile.Proofs.Limiter.Isolation
import Turnstile.Proofs.Limiter.Turns

/-!
# Charges of several threads are linearizable

The charges of a schedule are those of a limiter that makes them one after another, in
the order in which their tokens were taken and at the readings at which they were
taken. The buckets differ only where a thread has made a bucket and nobody has taken a
token from it yet: there the sequential limiter has no bucket, and the bucket made is
still full (`Agrees`). That is enough, since it does not matter for how long a bucket
was full before it was first charged.
-/

namespace Turnstile.Schedule

open TimedLimiter

/-- A charge made at the reading at which its token was taken. -/
def Charged.actions (charged : Charged) : List Action :=
  [.set charged.reading, .consume charged.key]

/-- The charges of a history, one after another. -/
def order (history : List Charged) : List Action :=
  history.reverse.flatMap Charged.actions

/-- The limiter that has made the charges of a history one after another. -/
def sequential (limiter : Limiter) (first : UInt64) (history : List Charged) : Limiter :=
  ((⟨first, limiter⟩ : TimedLimiter).run (order history)).2.limiter

variable {limiter : Limiter} {first : UInt64}

private theorem order_cons (charged : Charged) (history : List Charged) :
    order (charged :: history) = order history ++ charged.actions := by
  simp [order]

theorem sequential_cons (charged : Charged) (history : List Charged) :
    sequential limiter first (charged :: history) =
      ((sequential limiter first history).consume charged.key charged.reading).2.2 := by
  rw [sequential, order_cons, run_append]
  rfl

theorem sequential_tiers (history : List Charged) :
    (sequential limiter first history).tiers = limiter.tiers :=
  run_tiers _ _

/-- The sequential limiter has the buckets it started with and those of the keys
charged. -/
theorem isSome_sequential (key : String) (history : List Charged) :
    ((sequential limiter first history).bucket? key).isSome ↔
      (limiter.bucket? key).isSome ∨ key ∈ history.map Charged.key := by
  induction history with
  | nil => simp [sequential, order]
  | cons charged earlier inductionHypothesis =>
      rw [sequential_cons, Limiter.bucket?_consume, List.map_cons, List.mem_cons]
      split
      · next same => simp [same]
      · next different =>
          rw [inductionHypothesis]
          simp only [different, false_or]

/-- The decision of the latest charge is that of the bucket it finds. -/
theorem charges_order_cons (charged : Charged) (history : List Charged) :
    charges ⟨first, limiter⟩ (order (charged :: history)) =
      charges ⟨first, limiter⟩ (order history) ++
        [(charged.key, (((sequential limiter first history).found charged.key
          charged.reading).consume charged.reading).1)] := by
  rw [order_cons, charges_append, ← Limiter.consume_decision]
  rfl

/-! ## The buckets -/

/-- A bucket of a schedule beside that of the sequential limiter: the same, or full and
not yet there. -/
def Agrees (limits : Limits) (now : UInt64) (bucket sequential : Option Bucket) : Prop :=
  bucket = sequential ∨
    sequential = none ∧ ∃ made, made ≤ now ∧ bucket = some (.full limits made)

theorem Agrees.later {limits : Limits} {now later : UInt64} {bucket sequential : Option Bucket}
    (agrees : Agrees limits now bucket sequential) (order : now ≤ later) :
    Agrees limits later bucket sequential := by
  obtain same | ⟨absent, made, before, full⟩ := agrees
  · exact .inl same
  · exact .inr ⟨absent, made, UInt64.le_trans before order, full⟩

/-- A charge finds a bucket that answers as the one the schedule has. -/
theorem Agrees.consume {limits : Limits} {now : UInt64} {bucket : Bucket}
    {sequential : Option Bucket} (agrees : Agrees limits now (some bucket) sequential) :
    (sequential.getD (.full limits now)).consume now = bucket.consume now := by
  obtain same | ⟨absent, made, before, full⟩ := agrees
  · rw [← same]
    rfl
  · cases full
    rw [absent, Bucket.consume_full limits before]
    rfl

/-- The schedule has decided as the sequential limiter, and its buckets agree. -/
structure Simulates (limiter : Limiter) (first : UInt64) (state : State) : Prop where
  tiers : state.limiter.tiers = limiter.tiers
  decided : charges ⟨first, limiter⟩ (order state.history) =
    state.history.reverse.map fun charged => (charged.key, charged.decision)
  agrees : ∀ key, Agrees (limiter.tiers.limitsFor key) state.now
    (state.limiter.bucket? key) ((sequential limiter first state.history).bucket? key)

theorem Simulates.start (limiter : Limiter) (first : UInt64) (work : List (List String)) :
    Simulates limiter first (.start limiter first work) where
  tiers := rfl
  decided := rfl
  agrees _ := .inl rfl

/-- Making a bucket leaves the sequential limiter as it is. -/
private theorem Simulates.make {state : State} {index : Nat} {key : String}
    {rest : List String} (simulates : Simulates limiter first state)
    (fresh : state.limiter.bucket? key = none) :
    Simulates limiter first (state.made index key rest) := by
  refine ⟨simulates.tiers, simulates.decided, fun other => ?_⟩
  change Agrees _ state.now ((state.limiter.setBucket key _).bucket? other) _
  rw [Limiter.bucket?_setBucket]
  split
  · next same =>
      subst same
      have agrees := simulates.agrees other
      rw [fresh] at agrees
      refine .inr ⟨?_, state.now, UInt64.le_rfl, ?_⟩
      · obtain same | ⟨absent, _⟩ := agrees
        · exact same.symm
        · exact absent
      · rw [Limiter.newBucket, simulates.tiers]
  · exact simulates.agrees other

/-- Taking a token is the charge of the sequential limiter. -/
private theorem Simulates.take {state : State} {index : Nat} {key : String}
    {rest : List String} {bucket : Bucket} (simulates : Simulates limiter first state)
    (held : state.limiter.bucket? key = some bucket) :
    Simulates limiter first (state.taken index key rest bucket) := by
  have agrees := simulates.agrees key
  rw [held] at agrees
  have answer : ((sequential limiter first state.history).found key state.now).consume
      state.now = bucket.consume state.now := by
    rw [Limiter.found, Limiter.newBucket, sequential_tiers]
    exact agrees.consume
  have after : ∀ other,
      (sequential limiter first (state.taken index key rest bucket).history).bucket? other =
        if other = key then some (bucket.consume state.now).2
        else (sequential limiter first state.history).bucket? other := by
    intro other
    rw [State.taken, sequential_cons, Limiter.bucket?_consume, answer]
  refine ⟨simulates.tiers, ?_, fun other => ?_⟩
  · rw [State.taken, charges_order_cons, simulates.decided, answer, List.reverse_cons,
      List.map_append]
    rfl
  · rw [after]
    change Agrees _ state.now ((state.limiter.setBucket key _).bucket? other) _
    rw [Limiter.bucket?_setBucket]
    split
    · exact .inl rfl
    · exact simulates.agrees other

theorem Simulates.step {before after : State} (step : Step before after)
    (simulates : Simulates limiter first before) : Simulates limiter first after := by
  cases step with
  | stay => exact simulates
  | look _ _ _ => exact ⟨simulates.tiers, simulates.decided, simulates.agrees⟩
  | tick later =>
      exact ⟨simulates.tiers, simulates.decided,
        fun key => (simulates.agrees key).later later⟩
  | make _ fresh => exact simulates.make fresh
  | take _ held => exact simulates.take held

/-! ## Standing clock -/

/-- The readings at which the sequential limiter charges a key. -/
private theorem visits_order (key : String) (now : UInt64) (history : List Charged) :
    visits key now (history.flatMap Charged.actions) =
      ((history.filter fun charged => charged.key = key).map Charged.reading, []) := by
  induction history generalizing now with
  | nil => rfl
  | cons charged rest inductionHypothesis =>
      change visits key now (.set charged.reading :: .consume charged.key ::
        rest.flatMap Charged.actions) = _
      simp only [visits, inductionHypothesis]
      by_cases same : charged.key = key
      · simp [same]
      · simp [same]

/-- The admissions of a key are those among its decisions. -/
private theorem Simulates.allowed_eq {state : State}
    (simulates : Simulates limiter first state) (key : String) :
    state.allowed key = (decisionsOn key ⟨first, limiter⟩ (order state.history)).countP
      Decision.isAdmitted := by
  have decisions : decisionsOn key ⟨first, limiter⟩ (order state.history) =
      (state.history.reverse.filter fun charged => charged.key = key).map
        Charged.decision := by
    rw [decisionsOn, simulates.decided, List.filter_map, List.map_map]
    rfl
  rw [decisions, List.countP_map, List.countP_filter, List.countP_reverse, State.allowed,
    ← List.countP_eq_length_filter]
  congr 1
  funext charged
  simp [Bool.and_comm]

/-- While the clock stands still, a new key is admitted as often as its capacity and
the charges made allow. -/
theorem Simulates.allowed_of_standing {state : State}
    (simulates : Simulates limiter first state) (timed : Timed first state)
    (standing : state.now = first) {key : String} (new : limiter.bucket? key = none)
    (small : (limiter.tiers.limitsFor key).capacity.toNat ≤ 2 ^ 53) :
    state.allowed key = min (limiter.tiers.limitsFor key).capacity.toNat
      ((state.history.map Charged.key).count key) := by
  have readings : (state.history.reverse.filter fun charged => charged.key = key).map
      Charged.reading = List.replicate ((state.history.map Charged.key).count key) first := by
    refine List.eq_replicate_iff.mpr ⟨?_, fun reading member => ?_⟩
    · rw [List.length_map, ← List.countP_eq_length_filter, List.countP_reverse, List.count,
        List.countP_map]
      congr 1
    · obtain ⟨charged, among, rfl⟩ := List.mem_map.mp member
      have bounds := timed.within charged
        (List.mem_reverse.mp (List.mem_of_mem_filter among))
      rw [standing] at bounds
      exact UInt64.le_antisymm bounds.2 bounds.1
  rw [simulates.allowed_eq, decisionsOn_of_new new, order, visits_order, readings]
  simp only [List.flatMap_cons, List.flatMap_nil, List.append_nil]
  exact Bucket.countP_alone_of_standing (limiter.tiers.limitsFor_positive key).refill small
    first _

/-! ## Every schedule -/

/-- What the charges of a schedule have in common with charges made one after another. -/
structure Linearized (limiter : Limiter) (first : UInt64) (work : List (List String))
    (last : State) : Prop where
  /-- The decisions are those of the sequential limiter at the readings of the takes. -/
  decided : charges ⟨first, limiter⟩ (order last.history) =
    last.history.reverse.map fun charged => (charged.key, charged.decision)
  /-- These readings are in order. -/
  sorted : (last.history.reverse.map Charged.reading).Pairwise (· ≤ ·)
  /-- A thread charges its keys in the order of its work. -/
  inOrder : ∀ index, last.done index ++ last.remaining index = (work[index]?).getD []
  /-- No bucket is made twice. -/
  once : last.created.Nodup
  /-- The buckets made are those that are there and were not there at the start. -/
  made : ∀ key, key ∈ last.created ↔
    limiter.bucket? key = none ∧ (last.limiter.bucket? key).isSome
  /-- A thread that has found a bucket is never left without it. -/
  held : Held last
  /-- Every bucket is as the sequential limiter left it, but for those that have been
  made and not been charged, which are full. -/
  kept : ∀ key, last.limiter.bucket? key = (sequential limiter first last.history).bucket? key ∨
    key ∈ last.created ∧ key ∉ last.history.map Charged.key ∧
      ∃ reading, reading ≤ last.now ∧
        last.limiter.bucket? key = some (.full (limiter.tiers.limitsFor key) reading)

variable {work : List (List String)} {last : State}

private theorem Linearized.of_invariants (simulates : Simulates limiter first last)
    (timed : Timed first last) (held : Held last) (accounted : Accounted limiter work last) :
    Linearized limiter first work last where
  decided := simulates.decided
  sorted := by
    rw [List.map_reverse, List.pairwise_reverse]
    exact timed.sorted.map Charged.reading fun _ _ => id
  inOrder := accounted.inOrder
  once := accounted.once
  made key := by
    constructor
    · intro member
      exact ⟨(accounted.new key member).1, (accounted.there key).mpr (.inr member)⟩
    · rintro ⟨new, there⟩
      rw [accounted.there, new] at there
      exact there.resolve_left Bool.false_ne_true
  held := held
  kept key := by
    obtain same | ⟨absent, reading, before, full⟩ := simulates.agrees key
    · exact .inl same
    · have untouched := (isSome_sequential key last.history).not.mp
        (by rw [absent]; exact Bool.false_ne_true)
      obtain ⟨unmet, uncharged⟩ := not_or.mp untouched
      have there := (accounted.there key).mp (by rw [full]; rfl)
      exact .inr ⟨there.resolve_left unmet, uncharged, reading, before, full⟩

/-- With nothing left to charge, the charges are those of the work. -/
private theorem Accounted.finished (accounted : Accounted limiter work last)
    (finished : ∀ index, last.remaining index = []) :
    (last.history.map Charged.key).Perm work.flatten := by
  have nothing : last.threads.flatMap Thread.remaining = [] := by
    refine List.flatMap_eq_nil_iff.mpr fun thread member => ?_
    obtain ⟨index, there⟩ := List.mem_iff_getElem?.mp member
    have empty := finished index
    rwa [State.remaining, there] at empty
  have complete := accounted.complete
  rwa [nothing, List.append_nil] at complete

/-- With nothing left to charge, every bucket is as the sequential limiter left it. -/
private theorem Linearized.buckets_eq (linearized : Linearized limiter first work last)
    (accounted : Accounted limiter work last)
    (finished : ∀ index, last.remaining index = []) (key : String) :
    last.limiter.bucket? key = (sequential limiter first last.history).bucket? key := by
  obtain same | ⟨member, uncharged, _⟩ := linearized.kept key
  · exact same
  · have charged := (accounted.finished finished).mem_iff.mpr (accounted.new key member).2
    exact absurd charged uncharged

/-- With nothing left to charge, a bucket was made for each new key of the work. -/
private theorem Linearized.created_eq (linearized : Linearized limiter first work last)
    (accounted : Accounted limiter work last)
    (finished : ∀ index, last.remaining index = []) :
    last.created.toFinset =
      work.flatten.toFinset.filter fun key => limiter.bucket? key = none := by
  ext key
  rw [Finset.mem_filter, List.mem_toFinset, List.mem_toFinset]
  constructor
  · intro member
    exact (accounted.new key member).symm
  · rintro ⟨wanted, new⟩
    have charged := (accounted.finished finished).mem_iff.mpr wanted
    refine (linearized.made key).mpr ⟨new, ?_⟩
    rw [linearized.buckets_eq accounted finished]
    exact (isSome_sequential key last.history).mpr (.inr charged)

/-- The charges of any number of threads, in whichever order they take their steps, are
those of a limiter that makes them one after another. Once all are done, its buckets
are the same, and there is one for each key; and if the clock has stood still, each new
key was admitted as often as its capacity allows. -/
theorem run_linearized (limiter : Limiter) (first : UInt64) (work : List (List String))
    (turns : List Turn) :
    let last := (State.start limiter first work).run turns
    Linearized limiter first work last ∧
      ((∀ index, last.remaining index = []) →
        (∀ key, last.limiter.bucket? key =
          (sequential limiter first last.history).bucket? key) ∧
        last.limiter.size = limiter.size +
          (work.flatten.toFinset.filter fun key => limiter.bucket? key = none).card ∧
        (last.now = first → ∀ key, limiter.bucket? key = none →
          (limiter.tiers.limitsFor key).capacity.toNat ≤ 2 ^ 53 →
            last.allowed key = min (limiter.tiers.limitsFor key).capacity.toNat
              (work.flatten.count key))) := by
  intro last
  have simulates : Simulates limiter first last :=
    run_induction (.start limiter first work) (fun _ _ step => .step step) turns
  have timed : Timed first last :=
    run_induction (.start limiter first work) (fun _ _ step => .step step) turns
  have accounted : Accounted limiter work last :=
    run_induction (.start limiter first work) (fun _ _ step => .step step) turns
  have held : Held last :=
    run_induction (.start limiter first work) (fun _ _ step => .step step) turns
  have linearized := Linearized.of_invariants simulates timed held accounted
  refine ⟨linearized, fun finished => ⟨?_, ?_, ?_⟩⟩
  · exact linearized.buckets_eq accounted finished
  · rw [accounted.size, ← linearized.created_eq accounted finished,
      List.toFinset_card_of_nodup linearized.once]
  · intro standing key new small
    rw [← (accounted.finished finished).count_eq key]
    exact simulates.allowed_of_standing timed standing new small

/-- Two threads that both miss the same key before either makes its bucket, and the one
that did not make it is the first to take a token. -/
theorem run_linearized_of_race :
    let limits : Limits := ⟨1, 1⟩
    let limiter : Limiter := .ofTiers
      ⟨limits, limits, ⟨by decide, by decide⟩, ⟨by decide, by decide⟩⟩
    let work := [["ip:10.0.0.1", "api:key"], ["ip:10.0.0.1"]]
    let turns : List Turn := [.thread 0, .thread 1, .thread 0, .thread 1, .thread 1,
      .thread 0, .thread 0, .thread 0, .thread 0]
    let last := (State.start limiter 5 work).run turns
    (∀ index, last.remaining index = []) ∧ last.now = 5 ∧
      limiter.bucket? "ip:10.0.0.1" = none ∧
      (limiter.tiers.limitsFor "ip:10.0.0.1").capacity.toNat ≤ 2 ^ 53 ∧
      Linearized limiter 5 work last ∧
      last.limiter.size = limiter.size +
        (work.flatten.toFinset.filter fun key => limiter.bucket? key = none).card ∧
      last.allowed "ip:10.0.0.1" = 1 := by
  intro limits limiter work turns last
  have threads : last.threads = [⟨.idle, []⟩, ⟨.idle, []⟩] := by decide +kernel
  have finished : ∀ index, last.remaining index = [] := by
    intro index
    rw [State.remaining, threads]
    rcases index with _ | _ | index
    · rfl
    · rfl
    · rfl
  have standing : last.now = 5 := by decide +kernel
  have new : limiter.bucket? "ip:10.0.0.1" = none := Limiter.bucket?_ofTiers _ _
  have small : (limiter.tiers.limitsFor "ip:10.0.0.1").capacity.toNat ≤ 2 ^ 53 := by decide
  obtain ⟨linearized, whenDone⟩ := run_linearized limiter 5 work turns
  obtain ⟨_, size, allowed⟩ := whenDone finished
  refine ⟨finished, standing, new, small, linearized, size, ?_⟩
  rw [allowed standing _ new small]
  decide

end Turnstile.Schedule
