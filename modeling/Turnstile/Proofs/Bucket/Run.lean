import Turnstile.Proofs.Bucket.Count

/-!
# Runs of a bucket

A bucket and what may happen to it, one call after another at whatever clock
readings: a token is asked for, or the tokens are looked at. Along every run the
bucket holds a number of tokens, its limits stay, and its last refill is the
latest reading seen so far.
-/

namespace Turnstile

namespace Bucket

/-- What may be asked of a bucket at a clock reading. -/
inductive Call where
  | consume (reading : UInt64)
  | available (reading : UInt64)
  deriving DecidableEq, Repr

/-- The clock reading of a call. -/
def Call.reading : Call → UInt64
  | consume reading => reading
  | available reading => reading

/-- What a call answers. -/
inductive Reply where
  | decided (decision : Decision)
  | shown (tokens : UInt64)
  deriving DecidableEq, Repr

/-- Whether a token was taken. -/
def Reply.isAdmission : Reply → Bool
  | decided decision => decision.isAdmitted
  | shown _ => false

/-- One call. -/
def call (bucket : Bucket) : Call → Reply × Bucket
  | .consume reading =>
      let (decision, next) := bucket.consume reading
      (.decided decision, next)
  | .available reading =>
      let (tokens, next) := bucket.available reading
      (.shown tokens, next)

/-- Calls one after another, with their answers. -/
def run (bucket : Bucket) : List Call → List Reply × Bucket
  | [] => ([], bucket)
  | call :: rest =>
      let (reply, next) := bucket.call call
      let (replies, last) := next.run rest
      (reply :: replies, last)

/-- The number of tokens taken, as the answers tell it. -/
def admissions (replies : List Reply) : Nat := replies.countP Reply.isAdmission

/-- The latest clock reading among calls, zero if there is none. -/
def latest (calls : List Call) : Nat :=
  calls.foldr (fun call latest => max call.reading.toNat latest) 0

@[simp] theorem run_nil (bucket : Bucket) : bucket.run [] = ([], bucket) := rfl

@[simp] theorem run_cons (bucket : Bucket) (call : Call) (rest : List Call) :
    bucket.run (call :: rest) =
      ((bucket.call call).1 :: ((bucket.call call).2.run rest).1,
        ((bucket.call call).2.run rest).2) := rfl

@[simp] theorem admissions_nil : admissions [] = 0 := rfl

@[simp] theorem admissions_cons (reply : Reply) (rest : List Reply) :
    admissions (reply :: rest) = admissions [reply] + admissions rest := by
  change admissions ([reply] ++ rest) = _
  exact List.countP_append

/-- A request counts as an admission exactly if it is admitted. -/
@[simp] theorem admissions_consume (bucket : Bucket) (reading : UInt64) :
    admissions [(bucket.call (.consume reading)).1] =
      if (bucket.consume reading).1.isAdmitted then 1 else 0 := by
  simp only [admissions, List.countP_cons, List.countP_nil, zero_add]
  rfl

@[simp] theorem admissions_available (bucket : Bucket) (reading : UInt64) :
    admissions [(bucket.call (.available reading)).1] = 0 := rfl

variable {bucket : Bucket} {tokens : Rat}

@[simp] theorem call_limits (bucket : Bucket) (call : Call) :
    (bucket.call call).2.limits = bucket.limits := by
  cases call with
  | consume reading => exact consume_limits reading bucket
  | available reading => exact refill_limits reading bucket

/-- Every call moves the last refill up to its reading, if that is later. -/
theorem call_lastRefill (bucket : Bucket) (call : Call) :
    (bucket.call call).2.lastRefill.toNat =
      max bucket.lastRefill.toNat call.reading.toNat := by
  cases call with
  | consume reading =>
      change (bucket.consume reading).2.lastRefill.toNat = _
      rw [consume_lastRefill]
      exact refill_lastRefill reading bucket
  | available reading => exact refill_lastRefill reading bucket

/-- Every call leaves a number of tokens that a bucket can hold. -/
theorem Holds.call (holds : bucket.Holds tokens) (call : Call) :
    ∃ left, (bucket.call call).2.Holds left := by
  cases call with
  | consume reading =>
      rcases holds.consume reading with ⟨_, _, taken⟩ | ⟨_, _, kept⟩
      · exact ⟨_, taken⟩
      · exact ⟨_, kept⟩
  | available reading => exact ⟨_, holds.refill reading⟩

@[simp] theorem run_limits (bucket : Bucket) (calls : List Call) :
    (bucket.run calls).2.limits = bucket.limits := by
  induction calls generalizing bucket with
  | nil => rfl
  | cons call rest inductionHypothesis =>
      rw [run_cons, inductionHypothesis, call_limits]

/-- After any calls, the last refill is the latest reading seen so far. -/
theorem run_lastRefill (bucket : Bucket) (calls : List Call) :
    (bucket.run calls).2.lastRefill.toNat = max bucket.lastRefill.toNat (latest calls) := by
  induction calls generalizing bucket with
  | nil => exact (max_eq_left (Nat.zero_le _)).symm
  | cons call rest inductionHypothesis =>
      rw [run_cons, inductionHypothesis, call_lastRefill, max_assoc]
      rfl

/-- After any calls, a bucket holds a number of tokens. -/
theorem Holds.run (holds : bucket.Holds tokens) (calls : List Call) :
    ∃ left, (bucket.run calls).2.Holds left := by
  induction calls generalizing bucket tokens with
  | nil => exact ⟨tokens, holds⟩
  | cons call rest inductionHypothesis =>
      obtain ⟨left, holdsLeft⟩ := holds.call call
      exact inductionHypothesis holdsLeft

end Bucket

end Turnstile
