import Turnstile.Limiter

/-!
# Interleaved charges

Several threads charge keys on one limiter. A charge is three atomic steps: the
key is looked up; if it was not there, its bucket is made unless another thread
has made it meanwhile; then the bucket is held, the clock read and a token taken.
A schedule says whose turn it is, or moves the clock.
-/

namespace Turnstile.Schedule

/-- How far a thread is with a charge. -/
inductive Phase where
  | idle
  /-- The key was not there when it was looked up. -/
  | missed (key : String)
  /-- The bucket of the key is there. -/
  | found (key : String)
  deriving DecidableEq, Repr

/-- A thread: the charge it is at and the keys it has yet to charge. -/
structure Thread where
  phase : Phase
  waiting : List String
  deriving DecidableEq, Repr

/-- A charge that is done. -/
structure Charged where
  thread : Nat
  key : String
  reading : UInt64
  decision : Decision
  deriving DecidableEq, Repr

/-- Threads on one limiter and one clock. -/
structure State where
  now : UInt64
  limiter : Limiter
  threads : List Thread
  /-- The charges that are done, the latest first. -/
  history : List Charged
  /-- The keys whose buckets were made, the latest first. -/
  created : List String

/-- Whose turn it is. -/
inductive Turn where
  | thread (index : Nat)
  | clock (reading : UInt64)
  deriving DecidableEq, Repr

namespace State

/-- The state before any charge. -/
def start (limiter : Limiter) (now : UInt64) (work : List (List String)) : State where
  now := now
  limiter := limiter
  threads := work.map fun keys => ⟨.idle, keys⟩
  history := []
  created := []

/-- The state with another state of one thread. -/
def setThread (state : State) (index : Nat) (thread : Thread) : State :=
  { state with threads := state.threads.set index thread }

/-- Look up the next key of a thread. -/
def lookUp (state : State) (index : Nat) (key : String) (rest : List String) : State :=
  match state.limiter.bucket? key with
  | some _ => state.setThread index ⟨.found key, rest⟩
  | none => state.setThread index ⟨.missed key, rest⟩

/-- Make the bucket of a key, unless it is there by now. -/
def create (state : State) (index : Nat) (key : String) (rest : List String) : State :=
  match state.limiter.bucket? key with
  | some _ => state.setThread index ⟨.found key, rest⟩
  | none =>
      { state.setThread index ⟨.found key, rest⟩ with
        limiter :=
          state.limiter.setBucket key (state.limiter.newBucket key state.now)
        created := key :: state.created }

/-- Take a token from the bucket of a key. -/
def take (state : State) (index : Nat) (key : String) (rest : List String) : State :=
  match state.limiter.bucket? key with
  | some bucket =>
      let (decision, after) := bucket.consume state.now
      { state.setThread index ⟨.idle, rest⟩ with
        limiter := state.limiter.setBucket key after
        history := ⟨index, key, state.now, decision⟩ :: state.history }
  | none => state

/-- One turn. A thread without work stays as it is, and the clock never goes back. -/
def turn (state : State) : Turn → State
  | .clock reading => if reading ≤ state.now then state else { state with now := reading }
  | .thread index =>
      match state.threads[index]? with
      | none => state
      | some ⟨.idle, []⟩ => state
      | some ⟨.idle, key :: rest⟩ => state.lookUp index key rest
      | some ⟨.missed key, rest⟩ => state.create index key rest
      | some ⟨.found key, rest⟩ => state.take index key rest

/-- Turns one after another. -/
def run (state : State) (turns : List Turn) : State :=
  turns.foldl turn state

/-- The turns in which all threads take part in rounds. -/
def rounds (count threads : Nat) : List Turn :=
  (List.replicate count ((List.range threads).map Turn.thread)).flatten

/-- Enough rounds for every thread to end its work. -/
def runToEnd (state : State) : State :=
  let longest := state.threads.foldl (fun most thread => Nat.max most thread.waiting.length) 0
  state.run (rounds (3 * longest) state.threads.length)

/-- How often a key was let through. -/
def allowed (state : State) (key : String) : Nat :=
  (state.history.filter fun charged => charged.key = key && charged.decision.isAdmitted).length

end State

end Turnstile.Schedule
