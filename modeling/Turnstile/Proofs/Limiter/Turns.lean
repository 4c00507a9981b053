import Mathlib.Data.Finset.Card
import Turnstile.Limiter.Schedule
import Turnstile.Proofs.Limiter.Buckets

/-!
# What a turn can do

`Step` names the five things that a turn can do, and `turn_step` says that there are no
others. What is true of every schedule follows from the five cases: the clock never
goes back (`Timed`), a bucket that was found stays there (`Held`), and every thread
charges its keys in their order, each key is made at most once, and no charge is left
out (`Accounted`).
-/

namespace Turnstile.Schedule

/-- The keys a thread has yet to take a token for. -/
def Thread.remaining : Thread → List String
  | ⟨.idle, waiting⟩ => waiting
  | ⟨.missed key, waiting⟩ => key :: waiting
  | ⟨.found key, waiting⟩ => key :: waiting

namespace State

/-- The keys that a thread has charged, in order. -/
def done (state : State) (index : Nat) : List String :=
  (state.history.reverse.filter fun charged => charged.thread = index).map Charged.key

/-- The keys that a thread has yet to charge, in order. -/
def remaining (state : State) (index : Nat) : List String :=
  (state.threads[index]?).elim [] Thread.remaining

/-- The state after a token was taken. -/
def taken (state : State) (index : Nat) (key : String) (rest : List String)
    (bucket : Bucket) : State :=
  { state with
    threads := state.threads.set index ⟨.idle, rest⟩
    limiter := state.limiter.setBucket key (bucket.consume state.now).2
    history := ⟨index, key, state.now, (bucket.consume state.now).1⟩ :: state.history }

/-- The state after a bucket was made. -/
def made (state : State) (index : Nat) (key : String) (rest : List String) : State :=
  { state with
    threads := state.threads.set index ⟨.found key, rest⟩
    limiter := state.limiter.setBucket key (state.limiter.newBucket key state.now)
    created := key :: state.created }

end State

open State

/-- The things a turn can do. -/
inductive Step (state : State) : State → Prop
  | stay : Step state state
  | tick {reading : UInt64} (later : state.now ≤ reading) :
      Step state { state with now := reading }
  | look {index : Nat} {thread next : Thread} (there : state.threads[index]? = some thread)
      (same : next.remaining = thread.remaining)
      (found : ∀ key, next.phase = .found key → (state.limiter.bucket? key).isSome) :
      Step state (state.setThread index next)
  | make {index : Nat} {key : String} {rest : List String}
      (there : state.threads[index]? = some ⟨.missed key, rest⟩)
      (fresh : state.limiter.bucket? key = none) : Step state (state.made index key rest)
  | take {index : Nat} {key : String} {rest : List String} {bucket : Bucket}
      (there : state.threads[index]? = some ⟨.found key, rest⟩)
      (held : state.limiter.bucket? key = some bucket) :
      Step state (state.taken index key rest bucket)

private theorem found_of_held {state : State} {key : String} {bucket : Bucket}
    (held : state.limiter.bucket? key = some bucket) (other : String)
    (same : Phase.found key = .found other) : (state.limiter.bucket? other).isSome := by
  cases same
  rw [held]
  rfl

/-- A turn does one of these things. -/
theorem turn_step (state : State) (turn : Turn) : Step state (state.turn turn) := by
  cases turn with
  | clock reading =>
      simp only [State.turn]
      split
      · exact .stay
      · next later => exact .tick (UInt64.le_of_lt (UInt64.not_le.mp later))
  | thread index =>
      cases there : state.threads[index]? with
      | none =>
          simp only [State.turn, there]
          exact .stay
      | some thread =>
          rcases thread with ⟨phase, waiting⟩
          cases phase with
          | idle =>
              cases waiting with
              | nil =>
                  simp only [State.turn, there]
                  exact .stay
              | cons key rest =>
                  simp only [State.turn, there, State.lookUp]
                  split
                  · next held => exact .look there rfl (found_of_held held)
                  · exact .look there rfl nofun
          | missed key =>
              simp only [State.turn, there, State.create]
              split
              · next held => exact .look there rfl (found_of_held held)
              · next fresh => exact .make there fresh
          | found key =>
              simp only [State.turn, there, State.take]
              split
              · next held => exact .take there held
              · exact .stay

/-- What every step keeps holds after every run. -/
theorem run_induction {property : State → Prop} {state : State} (initially : property state)
    (kept : ∀ before after, Step before after → property before → property after)
    (turns : List Turn) : property (state.run turns) := by
  induction turns generalizing state with
  | nil => exact initially
  | cons turn rest inductionHypothesis =>
      exact inductionHypothesis (kept _ _ (turn_step state turn) initially)

/-! ## The clock -/

/-- The readings of the charges are between the first reading and the last, in order. -/
structure Timed (first : UInt64) (state : State) : Prop where
  started : first ≤ state.now
  within : ∀ charged ∈ state.history, first ≤ charged.reading ∧ charged.reading ≤ state.now
  sorted : state.history.Pairwise fun later earlier => earlier.reading ≤ later.reading

theorem Timed.start (limiter : Limiter) (first : UInt64) (work : List (List String)) :
    Timed first (.start limiter first work) where
  started := UInt64.le_rfl
  within := by simp [State.start]
  sorted := .nil

theorem Timed.step {first : UInt64} {before after : State} (step : Step before after)
    (timed : Timed first before) : Timed first after := by
  obtain ⟨started, within, sorted⟩ := timed
  cases step with
  | stay => exact ⟨started, within, sorted⟩
  | look _ _ _ => exact ⟨started, within, sorted⟩
  | make _ _ => exact ⟨started, within, sorted⟩
  | tick later =>
      refine ⟨UInt64.le_trans started later, fun charged member => ?_, sorted⟩
      exact ⟨(within charged member).1, UInt64.le_trans (within charged member).2 later⟩
  | take _ _ =>
      refine ⟨started, fun charged member => ?_, ?_⟩
      · rcases List.mem_cons.mp member with rfl | earlier
        · exact ⟨started, UInt64.le_rfl⟩
        · exact within charged earlier
      · exact List.pairwise_cons.mpr ⟨fun charged member => (within charged member).2, sorted⟩

/-! ## The buckets -/

/-- Every step keeps every bucket one that its key can have. -/
theorem Step.sound {before after : State} (step : Step before after)
    (sound : before.limiter.Sound) : after.limiter.Sound := by
  cases step with
  | stay => exact sound
  | tick _ => exact sound
  | look _ _ _ => exact sound
  | @make index key rest _ _ =>
      exact sound.setBucket rfl (Bucket.Holds.full _ before.now)
  | @take index key rest bucket _ held =>
      obtain ⟨limits, tokens, holds⟩ := sound key bucket held
      obtain ⟨left, holdsLeft⟩ := holds.call (.consume before.now)
      exact sound.setBucket ((Bucket.consume_limits before.now _).trans limits) holdsLeft

/-- A run keeps every bucket one that its key can have. -/
theorem run_sound {state : State} (sound : state.limiter.Sound) (turns : List Turn) :
    (state.run turns).limiter.Sound :=
  @run_induction (fun state => state.limiter.Sound) state sound (fun _ _ step => step.sound) turns

/-! ## The threads -/

/-- A thread that has found a bucket will find it when it takes a token. -/
def Held (state : State) : Prop :=
  ∀ thread ∈ state.threads, ∀ key, thread.phase = .found key →
    (state.limiter.bucket? key).isSome

theorem Held.start (limiter : Limiter) (now : UInt64) (work : List (List String)) :
    Held (.start limiter now work) := by
  intro thread member key found
  obtain ⟨keys, _, rfl⟩ := List.mem_map.mp member
  cases found

/-- Every step keeps the buckets that are there. -/
theorem Held.step {before after : State} (step : Step before after) (held : Held before) :
    Held after := by
  cases step with
  | stay => exact held
  | tick _ => exact held
  | look _ _ found =>
      intro thread member key isFound
      rcases List.mem_or_eq_of_mem_set member with old | rfl
      · exact held thread old key isFound
      · exact found key isFound
  | @make index key rest _ _ =>
      intro thread member other isFound
      change ((before.limiter.setBucket key _).bucket? other).isSome
      rw [Limiter.bucket?_setBucket]
      split
      · rfl
      · next different =>
          rcases List.mem_or_eq_of_mem_set member with old | rfl
          · exact held thread old other isFound
          · cases isFound
            exact absurd rfl different
  | @take index key rest bucket _ _ =>
      intro thread member other isFound
      change ((before.limiter.setBucket key _).bucket? other).isSome
      rw [Limiter.bucket?_setBucket]
      split
      · rfl
      · rcases List.mem_or_eq_of_mem_set member with old | rfl
        · exact held thread old other isFound
        · cases isFound

/-- Putting in another thread changes the keys that are left only by those of that
thread. -/
private theorem remaining_set (state : State) {index : Nat} {thread : Thread}
    (there : state.threads[index]? = some thread) (next : Thread) (other : Nat) :
    ((state.threads.set index next)[other]?).elim [] Thread.remaining =
      if other = index then next.remaining else state.remaining other := by
  obtain ⟨bound, _⟩ := List.getElem?_eq_some_iff.mp there
  rw [List.getElem?_set]
  by_cases same : index = other
  · subst same
    rw [if_pos rfl, if_pos rfl, if_pos bound]
    rfl
  · rw [if_neg same, if_neg (Ne.symm same)]
    rfl

/-- The keys left over all threads, when one thread is put in for another. -/
private theorem flatMap_set {threads : List Thread} {index : Nat} {thread : Thread}
    (there : threads[index]? = some thread) (next : Thread) :
    ∃ before after : List String,
      threads.flatMap Thread.remaining = before ++ (thread.remaining ++ after) ∧
      (threads.set index next).flatMap Thread.remaining =
        before ++ (next.remaining ++ after) := by
  induction threads generalizing index with
  | nil => cases there
  | cons first rest inductionHypothesis =>
      cases index with
      | zero =>
          cases there
          exact ⟨[], rest.flatMap Thread.remaining, rfl, rfl⟩
      | succ index =>
          obtain ⟨before, after, old, new⟩ := inductionHypothesis there
          refine ⟨first.remaining ++ before, after, ?_, ?_⟩
          · rw [List.flatMap_cons, old, List.append_assoc]
          · rw [List.set_cons_succ, List.flatMap_cons, new, List.append_assoc]

/-- Every thread charges its keys in order, no charge is lost or made twice, and every
bucket that is new was made once. -/
structure Accounted (limiter : Limiter) (work : List (List String)) (state : State) :
    Prop where
  inOrder : ∀ index, state.done index ++ state.remaining index = (work[index]?).getD []
  complete : (state.history.map Charged.key ++ state.threads.flatMap Thread.remaining).Perm
    work.flatten
  once : state.created.Nodup
  new : ∀ key ∈ state.created, limiter.bucket? key = none ∧ key ∈ work.flatten
  there : ∀ key, (state.limiter.bucket? key).isSome ↔
    (limiter.bucket? key).isSome ∨ key ∈ state.created
  size : state.limiter.size = limiter.size + state.created.length

theorem Accounted.start (limiter : Limiter) (now : UInt64) (work : List (List String)) :
    Accounted limiter work (.start limiter now work) where
  inOrder index := by
    simp only [State.done, State.remaining, State.start, List.reverse_nil, List.filter_nil,
      List.map_nil, List.nil_append, List.getElem?_map]
    cases work[index]? <;> rfl
  complete := by
    have flat : (work.map fun keys => (⟨.idle, keys⟩ : Thread)).flatMap Thread.remaining =
        work.flatten := by
      rw [List.flatMap_map, ← List.flatMap_id]
      rfl
    exact .of_eq flat
  once := List.nodup_nil
  new := by simp [State.start]
  there := by simp [State.start]
  size := rfl

variable {limiter : Limiter} {work : List (List String)} {state : State} {index : Nat}
  {key : String} {rest : List String}

/-- A thread that moves on within a charge. -/
private theorem Accounted.setThread {thread next : Thread}
    (accounted : Accounted limiter work state) (there : state.threads[index]? = some thread)
    (same : next.remaining = thread.remaining) :
    Accounted limiter work (state.setThread index next) := by
  refine { accounted with inOrder := fun other => ?_, complete := ?_ }
  · rw [← accounted.inOrder other]
    change state.done other ++ ((state.threads.set index next)[other]?).elim [] _ = _
    rw [remaining_set state there]
    split
    · next isSame =>
        rw [isSame, State.remaining, there, same]
        rfl
    · rfl
  · obtain ⟨front, back, old, new⟩ := flatMap_set there next
    have complete := accounted.complete
    rw [old, ← same, ← new] at complete
    exact complete

/-- Making a bucket puts its key on record, once. -/
private theorem Accounted.make (accounted : Accounted limiter work state)
    (there : state.threads[index]? = some ⟨.missed key, rest⟩)
    (fresh : state.limiter.bucket? key = none) :
    Accounted limiter work (state.made index key rest) := by
  have moved : Accounted limiter work (state.setThread index ⟨.found key, rest⟩) :=
    accounted.setThread there rfl
  have absent : ¬((limiter.bucket? key).isSome ∨ key ∈ state.created) := by
    rw [← accounted.there, fresh]
    exact Bool.false_ne_true
  obtain ⟨unmet, unmade⟩ := not_or.mp absent
  refine ⟨moved.inOrder, moved.complete, accounted.once.cons unmade, ?_, ?_, ?_⟩
  · intro other member
    rcases List.mem_cons.mp member with rfl | earlier
    · refine ⟨by simpa using unmet, accounted.complete.mem_iff.mp ?_⟩
      exact List.mem_append_right _ (List.mem_flatMap.mpr
        ⟨_, List.mem_of_getElem? there, List.mem_cons_self⟩)
    · exact accounted.new other earlier
  · intro other
    change ((state.limiter.setBucket key _).bucket? other).isSome ↔
      _ ∨ other ∈ key :: state.created
    rw [Limiter.bucket?_setBucket, List.mem_cons]
    split
    · next same => simp [same]
    · next different =>
        rw [accounted.there other]
        simp only [different, false_or]
  · change (state.limiter.setBucket key _).size = _ + (key :: state.created).length
    rw [Limiter.size_setBucket, fresh, accounted.size, List.length_cons]
    rfl

/-- Taking a token adds its key to what the thread has done. -/
private theorem done_taken (state : State) (index other : Nat) (key : String)
    (rest : List String) (bucket : Bucket) :
    (state.taken index key rest bucket).done other =
      state.done other ++ if other = index then [key] else [] := by
  change ((List.reverse (_ :: state.history)).filter _).map Charged.key = _
  rw [List.reverse_cons, List.filter_append, List.map_append]
  by_cases same : other = index
  · simp [State.done, same]
  · simp [State.done, same, Ne.symm same]

/-- Taking a token moves its key from what is left to what is done. -/
private theorem Accounted.take {bucket : Bucket} (accounted : Accounted limiter work state)
    (there : state.threads[index]? = some ⟨.found key, rest⟩)
    (held : state.limiter.bucket? key = some bucket) :
    Accounted limiter work (state.taken index key rest bucket) := by
  refine ⟨?_, ?_, accounted.once, accounted.new, ?_, ?_⟩
  · intro other
    rw [done_taken, ← accounted.inOrder other, List.append_assoc]
    change _ ++ (_ ++ ((state.threads.set index ⟨.idle, rest⟩)[other]?).elim [] _) = _
    rw [remaining_set state there]
    by_cases same : other = index
    · have left : state.remaining other = key :: rest := by
        rw [same, State.remaining, there]
        rfl
      rw [if_pos same, if_pos same, left]
      rfl
    · rw [if_neg same, if_neg same]
      rfl
  · obtain ⟨front, back, old, new⟩ := flatMap_set there ⟨.idle, rest⟩
    have complete := accounted.complete
    rw [old] at complete
    change (key :: state.history.map Charged.key ++
      (state.threads.set index ⟨.idle, rest⟩).flatMap Thread.remaining).Perm _
    rw [new]
    refine .trans ?_ complete
    have earlier := (@List.perm_middle _ key (state.history.map Charged.key ++ front)
      (rest ++ back)).symm
    rwa [List.append_assoc, List.append_assoc] at earlier
  · intro other
    refine .trans ?_ (accounted.there other)
    change ((state.limiter.setBucket key _).bucket? other).isSome ↔ _
    rw [Limiter.bucket?_setBucket]
    split
    · next same => simp [same, held]
    · rfl
  · change (state.limiter.setBucket key _).size = _
    rw [Limiter.size_setBucket, held]
    exact accounted.size

/-- Every step keeps the accounts. -/
theorem Accounted.step {before after : State} (step : Step before after)
    (accounted : Accounted limiter work before) : Accounted limiter work after := by
  cases step with
  | stay => exact accounted
  | tick _ => exact { accounted with }
  | look there same _ => exact accounted.setThread there same
  | make there fresh => exact accounted.make there fresh
  | take there held => exact accounted.take there held

end Turnstile.Schedule
