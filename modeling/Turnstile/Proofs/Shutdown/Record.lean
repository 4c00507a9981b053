import Mathlib.Algebra.Ring.Nat
import Turnstile.Proofs.Shutdown.Steps

/-!
# The record of a run

A record of a run tells, without a look at the network, of which family every handle is
(`origin`), where a receiver listens (`home`), which of them are still there (`Held`,
`Listening`), what a receiver was answered (`signals`, `missed`) and how often it should have
been signalled since it subscribed (`triggersSince`): by every trigger of a handle that is held
in its family. After every run the handles and receivers that are there are those that the
record has made and not dropped (`Network.present_run`). Their numbers are given out in turn,
and both lists keep the same account of them (`Tallies`).
-/

namespace Turnstile.Shutdown

/-- An action with its answer. The latest comes first in a record. -/
abbrev Entry := Action × Answer

/-! ## Records -/

/-- The first handle of the family to which a handle belongs: its own original, or the
original's, and so on. -/
def origin : List Entry → Nat → Nat
  | [], handle => handle
  | (.clone original, .made made) :: earlier, handle =>
      origin earlier (if handle = made then original else handle)
  | _ :: earlier, handle => origin earlier handle

/-- The family at which a receiver listens, by its first handle. -/
def home : List Entry → Nat → Option Nat
  | [], _ => none
  | (.subscribe handle, .made made) :: earlier, receiver =>
      if receiver = made then some (origin earlier handle) else home earlier receiver
  | _ :: earlier, receiver => home earlier receiver

/-- The handle that an entry made. -/
def madeHandle? : Entry → Option Nat
  | (.newChannel, .made handle) => some handle
  | (.clone _, .made handle) => some handle
  | _ => none

/-- The receiver that an entry made. -/
def madeReceiver? : Entry → Option Nat
  | (.subscribe _, .made receiver) => some receiver
  | _ => none

/-- All handles that were made, the first of which is there from the start. -/
def madeHandles (record : List Entry) : List Nat :=
  record.filterMap madeHandle? ++ [0]

/-- All receivers that were made. -/
def madeReceivers (record : List Entry) : List Nat :=
  record.filterMap madeReceiver?

/-- A handle was made and has not been dropped. -/
def Held (record : List Entry) (handle : Nat) : Prop :=
  handle ∈ madeHandles record ∧ (.dropHandle handle, .dropped true) ∉ record

/-- A receiver was made and has not been dropped. -/
def Listening (record : List Entry) (receiver : Nat) : Prop :=
  receiver ∈ madeReceivers record ∧ (.dropReceiver receiver, .dropped true) ∉ record

instance (record : List Entry) (handle : Nat) : Decidable (Held record handle) :=
  inferInstanceAs (Decidable (_ ∧ _))

instance (record : List Entry) (receiver : Nat) : Decidable (Listening record receiver) :=
  inferInstanceAs (Decidable (_ ∧ _))

/-- The number of receivers that listen at the family of a handle. -/
def audience (record : List Entry) (handle : Nat) : Nat :=
  (madeReceivers record).countP fun receiver =>
    Listening record receiver ∧ home record receiver = some (origin record handle)

/-- How often a receiver was answered with a signal. -/
def signals (record : List Entry) (receiver : Nat) : Nat :=
  record.count (.receive receiver, .signal)

/-- How many signals an entry tells a receiver that it missed. -/
def missedBy (receiver : Nat) : Entry → Nat
  | (.receive index, .lagged count) => if index = receiver then count else 0
  | _ => 0

/-- How many signals a receiver was told that it missed. -/
def missed (record : List Entry) (receiver : Nat) : Nat :=
  (record.map (missedBy receiver)).sum

/-- How many triggers there were in the family of a receiver since it subscribed: every one of a
handle that is held, whatever it was answered. -/
def triggersSince : List Entry → Nat → Nat
  | [], _ => 0
  | (.subscribe _, .made made) :: earlier, receiver =>
      if receiver = made then 0 else triggersSince earlier receiver
  | (.trigger handle, _) :: earlier, receiver =>
      triggersSince earlier receiver +
        if Held earlier handle ∧ home earlier receiver = some (origin earlier handle) then 1
        else 0
  | _ :: earlier, receiver => triggersSince earlier receiver

theorem madeHandles_cons (entry : Entry) (record : List Entry) :
    madeHandles (entry :: record) = (madeHandle? entry).toList ++ madeHandles record := by
  cases made : madeHandle? entry <;> simp [madeHandles, made]

theorem madeReceivers_cons (entry : Entry) (record : List Entry) :
    madeReceivers (entry :: record) = (madeReceiver? entry).toList ++ madeReceivers record := by
  cases made : madeReceiver? entry <;> simp [madeReceivers, made]

/-- What is not answered with a number made nothing. -/
theorem made?_eq_none (action : Action) {answer : Answer}
    (nothingMade : ∀ index, answer ≠ .made index) :
    madeHandle? (action, answer) = none ∧ madeReceiver? (action, answer) = none := by
  cases answer with
  | made index => exact absurd rfl (nothingMade index)
  | _ => cases action <;> exact ⟨rfl, rfl⟩

theorem signals_cons (entry : Entry) (record : List Entry) (receiver : Nat) :
    signals (entry :: record) receiver =
      signals record receiver + if entry = (.receive receiver, .signal) then 1 else 0 := by
  simp [signals, List.count_cons]

theorem missed_cons (entry : Entry) (record : List Entry) (receiver : Nat) :
    missed (entry :: record) receiver = missedBy receiver entry + missed record receiver := rfl

/-- Only a receiver that asks is answered. -/
theorem answered_cons_of_ne {action : Action} {receiver : Nat}
    (other : action ≠ .receive receiver) (answer : Answer) (record : List Entry) :
    signals ((action, answer) :: record) receiver = signals record receiver ∧
      missed ((action, answer) :: record) receiver = missed record receiver := by
  rw [signals_cons, missed_cons]
  refine ⟨by simp [other], ?_⟩
  cases action with
  | receive index =>
      have differs : index ≠ receiver := fun same => other (by rw [same])
      cases answer <;> simp [missedBy, differs]
  | _ => simp [missedBy]

/-- Entries that a record is asked about. -/
def IsHeard : Entry → Prop
  | (.clone _, .made _) => True
  | (.subscribe _, .made _) => True
  | (.trigger _, _) => True
  | (.receive _, .signal) => True
  | (.receive _, .lagged _) => True
  | _ => False

/-- An entry that changes nothing that a record is asked about. -/
structure Silent (record : List Entry) (entry : Entry) : Prop where
  origin : ∀ handle, origin (entry :: record) handle = origin record handle
  home : ∀ receiver, home (entry :: record) receiver = home record receiver
  signals : ∀ receiver, signals (entry :: record) receiver = signals record receiver
  missed : ∀ receiver, missed (entry :: record) receiver = missed record receiver
  triggersSince : ∀ receiver,
    triggersSince (entry :: record) receiver = triggersSince record receiver

theorem silent_of_not_heard {entry : Entry} (unheard : ¬IsHeard entry) (record : List Entry) :
    Silent record entry := by
  obtain ⟨action, answer⟩ := entry
  cases action <;> cases answer <;> first
    | exact absurd trivial unheard
    | constructor <;> intros <;> simp [origin, home, signals, missed, missedBy, triggersSince]

/-- A trigger of a handle that is gone is no trigger. -/
theorem silent_of_not_held {record : List Entry} {handle : Nat} (gone : ¬Held record handle)
    (answer : Answer) : Silent record (.trigger handle, answer) where
  origin _ := rfl
  home _ := rfl
  signals receiver := (answered_cons_of_ne (by simp) answer record).1
  missed receiver := (answered_cons_of_ne (by simp) answer record).2
  triggersSince receiver := by simp [triggersSince, gone]

/-! ## Lists with gaps and what was recorded of them -/

/-- A list with gaps has a place for every number that was made, and a gap for every number that
was dropped. -/
structure Tallies {α : Type} (held : List (Option α)) (made : List Nat) (dropped : Nat → Prop) :
    Prop where
  made_eq : made = (List.range held.length).reverse
  there_iff : ∀ index, ((held[index]?).join).isSome ↔ index ∈ made ∧ ¬dropped index
  /-- Nothing is dropped before it is made. -/
  dropped_lt : ∀ index, dropped index → index < held.length

namespace Tallies

variable {α : Type} {held : List (Option α)} {made madeNext : List Nat}
  {dropped droppedNext : Nat → Prop} (tallies : Tallies held made dropped)
include tallies

/-- The next number is a new one. -/
theorem fresh : held.length ∉ made := by
  rw [tallies.made_eq]
  simp

theorem congr {next : List (Option α)}
    (sameThere : ∀ index : Nat, ((next[index]?).join).isSome = ((held[index]?).join).isSome)
    (sameLength : next.length = held.length) (sameMade : madeNext = made)
    (sameDropped : ∀ index, droppedNext index ↔ dropped index) :
    Tallies next madeNext droppedNext where
  made_eq := by rw [sameMade, sameLength, tallies.made_eq]
  there_iff index := by rw [sameThere, sameMade, sameDropped, tallies.there_iff]
  dropped_lt index gone := by
    rw [sameLength]
    exact tallies.dropped_lt index ((sameDropped index).mp gone)

theorem add (value : α) (oneMade : madeNext = held.length :: made)
    (sameDropped : ∀ index, droppedNext index ↔ dropped index) :
    Tallies (held ++ [some value]) madeNext droppedNext where
  made_eq := by
    rw [oneMade, List.length_append, List.length_singleton, List.range_succ, List.reverse_append,
      tallies.made_eq]
    rfl
  there_iff index := by
    rw [join_append, oneMade, sameDropped, List.mem_cons]
    split
    · next new =>
        have kept : ¬dropped index := fun gone =>
          absurd (tallies.dropped_lt index gone) (by omega)
        simp [new, new ▸ kept]
    · next old => simp [old, tallies.there_iff]
  dropped_lt index gone := by
    rw [List.length_append]
    exact Nat.lt_succ_of_lt (tallies.dropped_lt index ((sameDropped index).mp gone))

theorem drop {index : Nat} (within : index < held.length) (sameMade : madeNext = made)
    (oneDropped : ∀ other, droppedNext other ↔ other = index ∨ dropped other) :
    Tallies (held.set index none) madeNext droppedNext where
  made_eq := by rw [sameMade, List.length_set, tallies.made_eq]
  there_iff other := by
    rw [join_set within, sameMade, oneDropped]
    split
    · next same => simp [same]
    · next differs => simp [differs, tallies.there_iff]
  dropped_lt other gone := by
    rw [List.length_set]
    rcases (oneDropped other).mp gone with rfl | earlier
    · exact within
    · exact tallies.dropped_lt other earlier

end Tallies

namespace Network

/-- The record of a run. -/
def record (network : Network) (actions : List Action) : List Entry :=
  (actions.zip (network.run actions).1).reverse

theorem run_append (network : Network) (first second : List Action) :
    network.run (first ++ second) =
      ((network.run first).1 ++ ((network.run first).2.run second).1,
        ((network.run first).2.run second).2) := by
  induction first generalizing network with
  | nil => rfl
  | cons action rest inductionHypothesis =>
      simp only [List.cons_append, run, inductionHypothesis]

theorem length_run (network : Network) (actions : List Action) :
    (network.run actions).1.length = actions.length := by
  induction actions generalizing network with
  | nil => rfl
  | cons action rest inductionHypothesis =>
      exact congrArg (· + 1) (inductionHypothesis (network.step action).2)

theorem run_snoc (network : Network) (actions : List Action) (action : Action) :
    (network.run (actions ++ [action])).2 = ((network.run actions).2.step action).2 := by
  rw [run_append]
  rfl

/-- One more action goes on top of a record. -/
theorem record_snoc (network : Network) (actions : List Action) (action : Action) :
    network.record (actions ++ [action]) =
      (action, ((network.run actions).2.step action).1) :: network.record actions := by
  unfold record
  rw [run_append, List.zip_append (length_run network actions).symm, List.reverse_append]
  rfl

variable {network : Network} {record : List Entry}

/-! ## What is there -/

/-- The record knows what was made and what is still there. -/
structure Present (network : Network) (record : List Entry) : Prop where
  receivers : Tallies network.receivers (madeReceivers record) fun index =>
    (.dropReceiver index, .dropped true) ∈ record
  handles : Tallies network.handles (madeHandles record) fun handle =>
    (.dropHandle handle, .dropped true) ∈ record

theorem Present.start : Network.start.Present [] where
  receivers := ⟨rfl, fun index => by simp [madeReceivers, Network.start], nofun⟩
  handles := by
    refine ⟨rfl, fun handle => ?_, nofun⟩
    cases handle with
    | zero => simp [madeHandles, Network.start]
    | succ => simp [madeHandles, Network.start]

/-- What neither makes nor drops anything leaves everything there. -/
theorem Present.keep (present : network.Present record) {next : Network}
    (receivers : ∀ index, (next.receiver? index).isSome = (network.receiver? index).isSome)
    (handles : ∀ handle, (next.channel? handle).isSome = (network.channel? handle).isSome)
    (receiversLength : next.receivers.length = network.receivers.length)
    (handlesLength : next.handles.length = network.handles.length)
    {action : Action} {answer : Answer} (nothingMade : ∀ index, answer ≠ .made index)
    (nothingDropped : answer ≠ .dropped true) : next.Present ((action, answer) :: record) := by
  obtain ⟨noHandle, noReceiver⟩ := made?_eq_none action nothingMade
  constructor
  · refine present.receivers.congr receivers receiversLength ?_ fun index => ?_
    · rw [madeReceivers_cons, noReceiver]
      rfl
    · simp [Ne.symm nothingDropped]
  · refine present.handles.congr handles handlesLength ?_ fun handle => ?_
    · rw [madeHandles_cons, noHandle]
      rfl
    · simp [Ne.symm nothingDropped]

theorem Present.addReceiver (present : network.Present record) (handle channel : Nat) :
    (network.addReceiver channel).Present
      ((.subscribe handle, .made network.receivers.length) :: record) where
  receivers := present.receivers.add _ (madeReceivers_cons _ _) (by simp)
  handles := present.handles.congr (fun _ => rfl) rfl (madeHandles_cons _ _) (by simp)

/-- A new handle is there, on a new channel or as a clone. -/
theorem Present.addHandle (present : network.Present record) (next : Network) {channel : Nat}
    (receivers : next.receivers = network.receivers)
    (handles : next.handles = network.handles ++ [some channel]) {action : Action}
    (makes : action = .newChannel ∨ ∃ original, action = .clone original) :
    next.Present ((action, .made network.handles.length) :: record) := by
  constructor
  · rw [receivers]
    rcases makes with rfl | ⟨original, rfl⟩
    all_goals exact present.receivers.congr (fun _ => rfl) rfl (madeReceivers_cons _ _) (by simp)
  · rw [handles]
    rcases makes with rfl | ⟨original, rfl⟩
    all_goals exact present.handles.add _ (madeHandles_cons _ _) (by simp)

theorem Present.dropHandle (present : network.Present record) {handle channel : Nat}
    (there : network.channel? handle = some channel) :
    (network.withoutHandle handle).Present
      ((.dropHandle handle, .dropped true) :: record) where
  receivers := present.receivers.congr (fun _ => rfl) rfl (madeReceivers_cons _ _) (by simp)
  handles := present.handles.drop (channel?_lt there) (madeHandles_cons _ _) (by simp)

theorem Present.dropReceiver (present : network.Present record) {index : Nat}
    {receiver : Receiver} (there : network.receiver? index = some receiver) :
    (network.withoutReceiver index).Present
      ((.dropReceiver index, .dropped true) :: record) where
  receivers := present.receivers.drop (receiver?_lt there) (madeReceivers_cons _ _) (by simp)
  handles := present.handles.congr (fun _ => rfl) rfl (madeHandles_cons _ _) (by simp)

theorem isSome_receiver?_setPending {index : Nat} {receiver : Receiver}
    (there : network.receiver? index = some receiver) (pending other : Nat) :
    ((network.setPending index receiver pending).receiver? other).isSome =
      (network.receiver? other).isSome := by
  rw [receiver?_setPending there]
  split
  · next same => rw [same, there]; rfl
  · rfl

theorem isSome_receiver?_signalled (channel index : Nat) :
    ((network.signalled channel).receiver? index).isSome = (network.receiver? index).isSome := by
  rw [receiver?_signalled]
  cases network.receiver? index with
  | none => rfl
  | some receiver =>
      simp only [signalOn]
      split <;> rfl

theorem Present.step (present : network.Present record) {action : Action} {answer : Answer}
    {next : Network} (step : network.Step action answer next) :
    next.Present ((action, answer) :: record) := by
  cases step with
  | idle misses =>
      exact present.keep (fun _ => rfl) (fun _ => rfl) rfl rfl misses.makes_nothing
        misses.drops_nothing
  | newChannel => exact present.addHandle network.addChannel rfl rfl (.inl rfl)
  | subscribe there => exact present.addReceiver _ _
  | clone there => exact present.addHandle (network.addHandle _) rfl rfl (.inr ⟨_, rfl⟩)
  | trigger there =>
      exact present.keep (isSome_receiver?_signalled _) (fun _ => rfl) (List.length_map _) rfl
        (by simp) (by simp)
  | count there => exact present.keep (fun _ => rfl) (fun _ => rfl) rfl rfl (by simp) (by simp)
  | dropHandle there => exact present.dropHandle there
  | dropReceiver there => exact present.dropReceiver there
  | wait there none =>
      exact present.keep (fun _ => rfl) (fun _ => rfl) rfl rfl (by split <;> simp)
        (by split <;> simp)
  | signal there one =>
      exact present.keep (isSome_receiver?_setPending there 0) (fun _ => rfl) List.length_set rfl
        (by simp) (by simp)
  | lag there several =>
      exact present.keep (isSome_receiver?_setPending there 1) (fun _ => rfl) List.length_set rfl
        (by simp) (by simp)

section

variable (present : network.Present record) {handle index : Nat}
include present

theorem Present.listening_iff : (network.receiver? index).isSome ↔ Listening record index :=
  present.receivers.there_iff index

theorem Present.held_iff : (network.channel? handle).isSome ↔ Held record handle :=
  present.handles.there_iff handle

theorem Present.held {channel : Nat} (there : network.channel? handle = some channel) :
    Held record handle :=
  present.held_iff.mp (Option.isSome_iff_exists.mpr ⟨channel, there⟩)

theorem Present.exists_channel (held : Held record handle) :
    ∃ channel, network.channel? handle = some channel :=
  Option.isSome_iff_exists.mp (present.held_iff.mpr held)

theorem Present.exists_receiver (listening : Listening record index) :
    ∃ receiver, network.receiver? index = some receiver :=
  Option.isSome_iff_exists.mp (present.listening_iff.mpr listening)

theorem Present.channel?_eq_none (gone : ¬Held record handle) :
    network.channel? handle = none :=
  Option.not_isSome_iff_eq_none.mp (mt present.held_iff.mp gone)

theorem Present.receiver?_eq_none (gone : ¬Listening record index) :
    network.receiver? index = none :=
  Option.not_isSome_iff_eq_none.mp (mt present.listening_iff.mp gone)

end

/-- What misses is not heard of. -/
theorem Present.silent (present : network.Present record) {action : Action} {answer : Answer}
    (misses : network.Misses action answer) : Silent record (action, answer) := by
  cases misses with
  | @trigger handle absent =>
      have gone : ¬Held record handle := fun held => by
        obtain ⟨channel, there⟩ := present.exists_channel held
        rw [absent] at there
        cases there
      exact silent_of_not_held gone _
  | subscribe | clone | count | dropHandle | dropReceiver | receive =>
      exact silent_of_not_heard id record

theorem present_run (actions : List Action) :
    (start.run actions).2.Present (start.record actions) := by
  induction actions using List.reverseRecOn with
  | nil => exact .start
  | append_singleton earlier action inductionHypothesis =>
      rw [run_snoc, record_snoc]
      exact inductionHypothesis.step (step_step _ action)

end Network

end Turnstile.Shutdown
