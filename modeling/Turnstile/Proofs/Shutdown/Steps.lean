import Mathlib.Data.List.Induction
import Turnstile.Shutdown

/-!
# What one action does to the channels

Handles and receivers are seen only through `Network.channel?` and `Network.receiver?`, and
each action is described by what it does to these two. `Network.Step` lists all that an
action can do; an action on a handle or receiver that is not there does nothing
(`Network.Misses`).
-/

namespace Turnstile.Shutdown

/-! ## Lists with gaps -/

section

variable {α : Type} {held : List (Option α)}

theorem lt_of_join {index : Nat} {value : α} (there : (held[index]?).join = some value) :
    index < held.length := by
  apply Nat.lt_of_not_le
  intro beyond
  rw [List.getElem?_eq_none beyond] at there
  cases there

theorem join_append (held : List (Option α)) (added : Option α) (index : Nat) :
    ((held ++ [added])[index]?).join =
      if index = held.length then added else (held[index]?).join := by
  rcases Nat.lt_trichotomy index held.length with within | rfl | beyond
  · rw [List.getElem?_append_left within, if_neg (Nat.ne_of_lt within)]
  · simp
  · rw [List.getElem?_eq_none (by simpa [Nat.succ_le_iff] using beyond),
      if_neg (Nat.ne_of_gt beyond), List.getElem?_eq_none (Nat.le_of_lt beyond)]

theorem join_set {index : Nat} (within : index < held.length) (value : Option α)
    (other : Nat) :
    (((held.set index value)[other]?).join) =
      if other = index then value else (held[other]?).join := by
  by_cases same : other = index
  · rw [if_pos same, same, List.getElem?_set_self within]
    rfl
  · rw [if_neg same, List.getElem?_set_ne (Ne.symm same)]

/-- Counting the places of a list counts what stands there. -/
private theorem countP_range (counts : Option α → Bool) (held : List (Option α)) :
    ((List.range held.length).countP fun index => counts (held[index]?).join) =
      held.countP counts := by
  induction held using List.reverseRecOn with
  | nil => rfl
  | append_singleton earlier last inductionHypothesis =>
      have same : ∀ index ∈ List.range earlier.length,
          counts ((earlier ++ [last])[index]?).join = true ↔
            counts (earlier[index]?).join = true := by
        intro index member
        rw [join_append, if_neg (Nat.ne_of_lt (List.mem_range.mp member))]
      rw [List.length_append, List.length_singleton, List.range_succ, List.countP_append,
        List.countP_append, List.countP_congr same, inductionHypothesis, List.countP_singleton,
        List.countP_singleton, join_append, if_pos rfl]

end

namespace Network

variable {network : Network}

theorem receiver?_lt {index : Nat} {receiver : Receiver}
    (there : network.receiver? index = some receiver) : index < network.receivers.length :=
  lt_of_join there

theorem channel?_lt {handle channel : Nat} (there : network.channel? handle = some channel) :
    handle < network.handles.length :=
  lt_of_join there

/-- A channel is open exactly if some handle of it is there. -/
theorem isOpen_iff {channel : Nat} :
    network.isOpen channel = true ↔ ∃ handle, network.channel? handle = some channel := by
  unfold isOpen channel?
  rw [List.any_eq_true]
  constructor
  · rintro ⟨held, member, same⟩
    obtain ⟨handle, found⟩ := List.mem_iff_getElem?.mp member
    exact ⟨handle, by rw [found]; simpa using same⟩
  · rintro ⟨handle, found⟩
    exact ⟨some channel, List.mem_of_getElem? (Option.join_eq_some_iff.mp found), by simp⟩

/-- Whether a receiver is there and listens on a channel. -/
def listensOn (channel : Nat) : Option Receiver → Bool
  | some receiver => receiver.channel = channel
  | none => false

/-- The listeners of a channel are the receivers that are there and listen on it. -/
theorem listeners_eq_countP (network : Network) (channel : Nat) :
    network.listeners channel =
      (List.range network.receivers.length).countP fun index =>
        listensOn channel (network.receiver? index) := by
  rw [listeners, ← List.countP_eq_length_filter]
  exact (countP_range (listensOn channel) network.receivers).symm

/-! ## What the actions make of the network -/

/-- The network with one more handle. -/
def addHandle (network : Network) (channel : Nat) : Network :=
  { network with handles := network.handles ++ [some channel] }

/-- The network with one more handle, on a channel of its own. -/
def addChannel (network : Network) : Network :=
  { network with
    handles := network.handles ++ [some network.channels]
    channels := network.channels + 1 }

/-- The network with one more receiver, which has nothing pending. -/
def addReceiver (network : Network) (channel : Nat) : Network :=
  { network with receivers := network.receivers ++ [some ⟨channel, 0⟩] }

/-- The network after a signal on a channel. -/
def signalled (network : Network) (channel : Nat) : Network :=
  { network with receivers := network.receivers.map (signalOn channel) }

/-- The network without a handle. -/
def withoutHandle (network : Network) (handle : Nat) : Network :=
  { network with handles := network.handles.set handle none }

/-- The network without a receiver. -/
def withoutReceiver (network : Network) (receiver : Nat) : Network :=
  { network with receivers := network.receivers.set receiver none }

theorem length_receivers_addReceiver (network : Network) (channel : Nat) :
    (network.addReceiver channel).receivers.length = network.receivers.length + 1 :=
  List.length_append

theorem length_handles_addHandle (network : Network) (channel : Nat) :
    (network.addHandle channel).handles.length = network.handles.length + 1 :=
  List.length_append

theorem length_handles_addChannel (network : Network) :
    network.addChannel.handles.length = network.handles.length + 1 :=
  List.length_append

theorem length_handles_withoutHandle (network : Network) (handle : Nat) :
    (network.withoutHandle handle).handles.length = network.handles.length :=
  List.length_set

theorem channel?_addHandle (network : Network) (channel handle : Nat) :
    (network.addHandle channel).channel? handle =
      if handle = network.handles.length then some channel else network.channel? handle :=
  join_append _ _ _

theorem channel?_addChannel (network : Network) (handle : Nat) :
    network.addChannel.channel? handle =
      if handle = network.handles.length then some network.channels
      else network.channel? handle :=
  join_append _ _ _

theorem receiver?_addReceiver (network : Network) (channel index : Nat) :
    (network.addReceiver channel).receiver? index =
      if index = network.receivers.length then some ⟨channel, 0⟩ else network.receiver? index :=
  join_append _ _ _

theorem receiver?_signalled (network : Network) (channel index : Nat) :
    (network.signalled channel).receiver? index =
      signalOn channel (network.receiver? index) := by
  unfold signalled receiver?
  rw [List.getElem?_map]
  cases network.receivers[index]? <;> rfl

/-- A receiver that is there after a signal was there before, with one signal less pending if
it listens on that channel. -/
theorem exists_of_receiver?_signalled {channel index : Nat} {receiver : Receiver}
    (there : (network.signalled channel).receiver? index = some receiver) :
    ∃ before, network.receiver? index = some before ∧ receiver.channel = before.channel ∧
      receiver.pending = before.pending + if before.channel = channel then 1 else 0 := by
  rw [receiver?_signalled] at there
  cases found : network.receiver? index with
  | none =>
      rw [found] at there
      cases there
  | some before =>
      rw [found, signalOn] at there
      by_cases same : before.channel = channel
      · rw [if_pos same] at there
        cases there
        exact ⟨before, rfl, rfl, by rw [if_pos same]⟩
      · rw [if_neg same] at there
        cases there
        exact ⟨receiver, rfl, rfl, by rw [if_neg same, Nat.add_zero]⟩

/-- A signal on a channel without listeners changes nothing. -/
theorem signalled_of_no_listeners {channel : Nat} (none : network.listeners channel = 0) :
    network.signalled channel = network := by
  rw [listeners, List.length_eq_zero_iff, List.filter_eq_nil_iff] at none
  have same : network.receivers.map (signalOn channel) = network.receivers := by
    refine (List.map_congr_left fun held member => ?_).trans (List.map_id _)
    cases held with
    | none => rfl
    | some receiver =>
        have other : receiver.channel ≠ channel := by simpa using none _ member
        exact if_neg other
  rw [signalled, same]

theorem channel?_withoutHandle {handle channel : Nat}
    (there : network.channel? handle = some channel) (other : Nat) :
    (network.withoutHandle handle).channel? other =
      if other = handle then none else network.channel? other :=
  join_set (channel?_lt there) _ _

theorem receiver?_withoutReceiver {index : Nat} {receiver : Receiver}
    (there : network.receiver? index = some receiver) (other : Nat) :
    (network.withoutReceiver index).receiver? other =
      if other = index then none else network.receiver? other :=
  join_set (receiver?_lt there) _ _

theorem receiver?_setPending {index : Nat} {receiver : Receiver}
    (there : network.receiver? index = some receiver) (pending other : Nat) :
    (network.setPending index receiver pending).receiver? other =
      if other = index then some { receiver with pending := pending }
      else network.receiver? other :=
  join_set (receiver?_lt there) _ _

/-! ## Steps -/

theorem step_subscribe {handle channel : Nat} (there : network.channel? handle = some channel) :
    network.step (.subscribe handle) =
      (.made network.receivers.length, network.addReceiver channel) := by
  simp only [step, there]
  rfl

theorem step_clone {handle channel : Nat} (there : network.channel? handle = some channel) :
    network.step (.clone handle) = (.made network.handles.length, network.addHandle channel) := by
  simp only [step, there]
  rfl

theorem step_trigger {handle channel : Nat} (there : network.channel? handle = some channel) :
    network.step (.trigger handle) = (.triggered, network.signalled channel) := by
  simp only [step, there]
  rfl

theorem step_count {handle channel : Nat} (there : network.channel? handle = some channel) :
    network.step (.count handle) = (.counted (network.listeners channel), network) := by
  simp only [step, there]

theorem step_dropHandle {handle channel : Nat} (there : network.channel? handle = some channel) :
    network.step (.dropHandle handle) = (.dropped true, network.withoutHandle handle) := by
  simp only [step, there]
  rfl

theorem step_dropReceiver {index : Nat} {receiver : Receiver}
    (there : network.receiver? index = some receiver) :
    network.step (.dropReceiver index) = (.dropped true, network.withoutReceiver index) := by
  simp only [step, there]
  rfl

theorem step_receive {index : Nat} {receiver : Receiver}
    (there : network.receiver? index = some receiver) :
    network.step (.receive index) = network.receive index receiver := by
  simp only [step, there]

/-- An action on a handle or receiver that is not there, and its answer. -/
inductive Misses (network : Network) : Action → Answer → Prop
  | subscribe {handle : Nat} (absent : network.channel? handle = none) :
      Misses network (.subscribe handle) .gone
  | clone {handle : Nat} (absent : network.channel? handle = none) :
      Misses network (.clone handle) .gone
  | trigger {handle : Nat} (absent : network.channel? handle = none) :
      Misses network (.trigger handle) .gone
  | count {handle : Nat} (absent : network.channel? handle = none) :
      Misses network (.count handle) .gone
  | dropHandle {handle : Nat} (absent : network.channel? handle = none) :
      Misses network (.dropHandle handle) (.dropped false)
  | dropReceiver {index : Nat} (absent : network.receiver? index = none) :
      Misses network (.dropReceiver index) (.dropped false)
  | receive {index : Nat} (absent : network.receiver? index = none) :
      Misses network (.receive index) .gone

/-- An action that misses does nothing. -/
theorem Misses.step_eq {action : Action} {answer : Answer} (misses : network.Misses action answer) :
    network.step action = (answer, network) := by
  cases misses with
  | subscribe absent | clone absent | trigger absent | count absent | dropHandle absent
  | dropReceiver absent | receive absent => simp only [step, absent]

theorem Misses.makes_nothing {action : Action} {answer : Answer}
    (misses : network.Misses action answer) (index : Nat) : answer ≠ .made index := by
  cases misses <;> nofun

theorem Misses.drops_nothing {action : Action} {answer : Answer}
    (misses : network.Misses action answer) : answer ≠ .dropped true := by
  cases misses <;> nofun

/-- What an action can answer and do. -/
inductive Step (network : Network) : Action → Answer → Network → Prop
  /-- The handle or receiver is not there. -/
  | idle {action : Action} {answer : Answer} (misses : network.Misses action answer) :
      Step network action answer network
  | newChannel : Step network .newChannel (.made network.handles.length) network.addChannel
  | subscribe {handle channel : Nat} (there : network.channel? handle = some channel) :
      Step network (.subscribe handle) (.made network.receivers.length)
        (network.addReceiver channel)
  | clone {handle channel : Nat} (there : network.channel? handle = some channel) :
      Step network (.clone handle) (.made network.handles.length) (network.addHandle channel)
  | trigger {handle channel : Nat} (there : network.channel? handle = some channel) :
      Step network (.trigger handle) .triggered (network.signalled channel)
  | count {handle channel : Nat} (there : network.channel? handle = some channel) :
      Step network (.count handle) (.counted (network.listeners channel)) network
  | dropHandle {handle channel : Nat} (there : network.channel? handle = some channel) :
      Step network (.dropHandle handle) (.dropped true) (network.withoutHandle handle)
  | dropReceiver {index : Nat} {receiver : Receiver}
      (there : network.receiver? index = some receiver) :
      Step network (.dropReceiver index) (.dropped true) (network.withoutReceiver index)
  /-- Nothing is pending. -/
  | wait {index : Nat} {receiver : Receiver} (there : network.receiver? index = some receiver)
      (none : receiver.pending = 0) :
      Step network (.receive index)
        (if network.isOpen receiver.channel then .empty else .closed) network
  /-- One signal is pending. -/
  | signal {index : Nat} {receiver : Receiver} (there : network.receiver? index = some receiver)
      (one : receiver.pending = 1) :
      Step network (.receive index) .signal (network.setPending index receiver 0)
  /-- More signals are pending; all but the last of them are lost. -/
  | lag {index missed : Nat} {receiver : Receiver}
      (there : network.receiver? index = some receiver)
      (several : receiver.pending = missed + 2) :
      Step network (.receive index) (.lagged (missed + 1)) (network.setPending index receiver 1)

/-- Every action does one of these. -/
theorem step_step (network : Network) (action : Action) :
    network.Step action (network.step action).1 (network.step action).2 := by
  cases action with
  | newChannel => exact .newChannel
  | subscribe handle =>
      simp only [step]
      cases there : network.channel? handle with
      | none => exact .idle (.subscribe there)
      | some channel => exact .subscribe there
  | clone handle =>
      simp only [step]
      cases there : network.channel? handle with
      | none => exact .idle (.clone there)
      | some channel => exact .clone there
  | trigger handle =>
      simp only [step]
      cases there : network.channel? handle with
      | none => exact .idle (.trigger there)
      | some channel => exact .trigger there
  | count handle =>
      simp only [step]
      cases there : network.channel? handle with
      | none => exact .idle (.count there)
      | some channel => exact .count there
  | dropHandle handle =>
      simp only [step]
      cases there : network.channel? handle with
      | none => exact .idle (.dropHandle there)
      | some channel => exact .dropHandle there
  | dropReceiver index =>
      simp only [step]
      cases there : network.receiver? index with
      | none => exact .idle (.dropReceiver there)
      | some receiver => exact .dropReceiver there
  | receive index =>
      simp only [step]
      cases there : network.receiver? index with
      | none => exact .idle (.receive there)
      | some receiver =>
          dsimp only
          unfold receive
          split
          · next none => exact .wait there none
          · next one => exact .signal there one
          · next missed several => exact .lag there several

end Network

end Turnstile.Shutdown
