import Mathlib.Logic.Function.Basic
import Turnstile.Proofs.Shutdown.Record

/-!
# No signal is lost or counted twice

Channels and families are the same thing (`Network.Agrees`): a receiver is signalled exactly
by the triggers of its family since it subscribed. So what a receiver was answered and what
it has pending add up to these triggers after every run, and nothing but its own asking takes
away what it has pending (`Network.run_accounts`).
-/

namespace Turnstile.Shutdown.Network

/-! ## The network agrees with its record -/

/-- What a network and the record of how it came about have to do with each other. -/
structure Agrees (network : Network) (record : List Entry) (founder : Nat → Nat) : Prop where
  /-- Every channel has a founder, and no two have the same one. -/
  founded : ∀ channel < network.channels, founder channel < network.handles.length
  injective : ∀ channel < network.channels, ∀ other < network.channels,
    founder channel = founder other → channel = other
  handles : ∀ handle channel, network.channel? handle = some channel →
    channel < network.channels ∧ origin record handle = founder channel
  receivers : ∀ index receiver, network.receiver? index = some receiver →
    receiver.channel < network.channels ∧ home record index = some (founder receiver.channel)
  balance : ∀ index receiver, network.receiver? index = some receiver →
    signals record index + missed record index + receiver.pending = triggersSince record index
  /-- Nothing is recorded of what is not made yet. -/
  unmade : ∀ handle, network.handles.length ≤ handle → origin record handle = handle
  unheard : ∀ index, network.receivers.length ≤ index →
    signals record index = 0 ∧ missed record index = 0

variable {network : Network} {record : List Entry} {founder : Nat → Nat}

/-- A receiver listens at the family of a handle exactly if it listens on its channel. -/
theorem Agrees.home_eq_iff (agrees : network.Agrees record founder) {handle channel index : Nat}
    {receiver : Receiver} (handleThere : network.channel? handle = some channel)
    (receiverThere : network.receiver? index = some receiver) :
    home record index = some (origin record handle) ↔ receiver.channel = channel := by
  obtain ⟨below, homeEq⟩ := agrees.receivers index receiver receiverThere
  obtain ⟨channelBelow, originEq⟩ := agrees.handles handle channel handleThere
  rw [homeEq, originEq, Option.some.injEq]
  exact ⟨agrees.injective _ below _ channelBelow, congrArg founder⟩

/-- An entry that changes nothing leaves a network that did not change in agreement. -/
theorem Agrees.silent (agrees : network.Agrees record founder) {entry : Entry}
    (silent : Silent record entry) : network.Agrees (entry :: record) founder where
  founded := agrees.founded
  injective := agrees.injective
  handles handle channel there := by
    rw [silent.origin]
    exact agrees.handles handle channel there
  receivers index receiver there := by
    rw [silent.home]
    exact agrees.receivers index receiver there
  balance index receiver there := by
    rw [silent.signals, silent.missed, silent.triggersSince]
    exact agrees.balance index receiver there
  unmade handle beyond := by
    rw [silent.origin]
    exact agrees.unmade handle beyond
  unheard index beyond := by
    rw [silent.signals, silent.missed]
    exact agrees.unheard index beyond

/-- A handle that is dropped leaves its channel to the others. -/
theorem Agrees.dropHandle (agrees : network.Agrees record founder) {handle channel : Nat}
    (there : network.channel? handle = some channel) :
    (network.withoutHandle handle).Agrees record founder where
  founded other below := by
    rw [length_handles_withoutHandle]
    exact agrees.founded other below
  injective := agrees.injective
  handles other channel found := by
    rw [channel?_withoutHandle there] at found
    split at found
    · cases found
    · exact agrees.handles other channel found
  receivers := agrees.receivers
  balance := agrees.balance
  unmade other beyond := agrees.unmade other (by simpa [withoutHandle] using beyond)
  unheard := agrees.unheard

theorem Agrees.dropReceiver (agrees : network.Agrees record founder) {index : Nat}
    {receiver : Receiver} (there : network.receiver? index = some receiver) :
    (network.withoutReceiver index).Agrees record founder where
  founded := agrees.founded
  injective := agrees.injective
  handles := agrees.handles
  receivers other receiver found := by
    rw [receiver?_withoutReceiver there] at found
    split at found
    · cases found
    · exact agrees.receivers other receiver found
  balance other receiver found := by
    rw [receiver?_withoutReceiver there] at found
    split at found
    · cases found
    · exact agrees.balance other receiver found
  unmade := agrees.unmade
  unheard other beyond := agrees.unheard other (by simpa [withoutReceiver] using beyond)

/-- A new channel is founded by its first handle. -/
theorem Agrees.newChannel (agrees : network.Agrees record founder) :
    network.addChannel.Agrees record
      (Function.update founder network.channels network.handles.length) where
  founded channel below := by
    change channel < network.channels + 1 at below
    rw [length_handles_addChannel, Function.update_apply]
    split
    · exact Nat.lt_succ_self _
    · exact Nat.lt_succ_of_lt (agrees.founded channel (by omega))
  injective channel below other otherBelow same := by
    change channel < network.channels + 1 at below
    change other < network.channels + 1 at otherBelow
    rw [Function.update_apply, Function.update_apply] at same
    -- The new founder is a handle that founded nothing before.
    split at same <;> split at same
    · omega
    · have old := agrees.founded other (by omega)
      omega
    · have old := agrees.founded channel (by omega)
      omega
    · exact agrees.injective channel (by omega) other (by omega) same
  handles handle channel found := by
    rw [channel?_addChannel] at found
    split at found
    · next new =>
        cases found
        rw [new, Function.update_self]
        exact ⟨Nat.lt_succ_self _, agrees.unmade _ (Nat.le_refl _)⟩
    · obtain ⟨below, same⟩ := agrees.handles handle channel found
      rw [Function.update_of_ne (Nat.ne_of_lt below)]
      exact ⟨Nat.lt_succ_of_lt below, same⟩
  receivers index receiver found := by
    obtain ⟨below, same⟩ := agrees.receivers index receiver found
    rw [Function.update_of_ne (Nat.ne_of_lt below)]
    exact ⟨Nat.lt_succ_of_lt below, same⟩
  balance := agrees.balance
  unmade handle beyond := by
    rw [length_handles_addChannel] at beyond
    exact agrees.unmade handle (Nat.le_of_succ_le beyond)
  unheard := agrees.unheard

/-- A clone belongs to the family of its original. -/
theorem Agrees.clone (agrees : network.Agrees record founder) {handle channel : Nat}
    (there : network.channel? handle = some channel) :
    (network.addHandle channel).Agrees
      ((.clone handle, .made network.handles.length) :: record) founder where
  founded other below := by
    rw [length_handles_addHandle]
    exact Nat.lt_succ_of_lt (agrees.founded other below)
  injective := agrees.injective
  handles other otherChannel found := by
    rw [channel?_addHandle] at found
    rw [origin]
    split at found
    · next new =>
        cases found
        rw [if_pos new]
        exact agrees.handles handle channel there
    · next old =>
        rw [if_neg old]
        exact agrees.handles other otherChannel found
  receivers := agrees.receivers
  balance index receiver found := by
    rw [(answered_cons_of_ne (by simp) _ _).1, (answered_cons_of_ne (by simp) _ _).2]
    exact agrees.balance index receiver found
  unmade other beyond := by
    rw [length_handles_addHandle] at beyond
    rw [origin, if_neg (by omega)]
    exact agrees.unmade other (by omega)
  unheard index beyond := by
    rw [(answered_cons_of_ne (by simp) _ _).1, (answered_cons_of_ne (by simp) _ _).2]
    exact agrees.unheard index beyond

/-- A new receiver listens at the family of its handle and has missed nothing. -/
theorem Agrees.subscribe (agrees : network.Agrees record founder) {handle channel : Nat}
    (there : network.channel? handle = some channel) :
    (network.addReceiver channel).Agrees
      ((.subscribe handle, .made network.receivers.length) :: record) founder where
  founded := agrees.founded
  injective := agrees.injective
  handles := agrees.handles
  receivers index receiver found := by
    rw [receiver?_addReceiver] at found
    rw [home]
    split at found
    · next new =>
        cases found
        obtain ⟨below, same⟩ := agrees.handles handle channel there
        rw [if_pos new, same]
        exact ⟨below, rfl⟩
    · next old =>
        rw [if_neg old]
        exact agrees.receivers index receiver found
  balance index receiver found := by
    rw [receiver?_addReceiver] at found
    rw [(answered_cons_of_ne (by simp) _ _).1, (answered_cons_of_ne (by simp) _ _).2,
      triggersSince]
    split at found
    · next new =>
        obtain ⟨noSignal, noneMissed⟩ := agrees.unheard index (Nat.le_of_eq new.symm)
        cases found
        rw [if_pos new, noSignal, noneMissed]
        rfl
    · next old =>
        rw [if_neg old]
        exact agrees.balance index receiver found
  unmade := agrees.unmade
  unheard index beyond := by
    rw [length_receivers_addReceiver] at beyond
    rw [(answered_cons_of_ne (by simp) _ _).1, (answered_cons_of_ne (by simp) _ _).2]
    exact agrees.unheard index (Nat.le_of_succ_le beyond)

/-- A trigger is one more signal pending for every receiver of its family. -/
theorem Agrees.trigger (agrees : network.Agrees record founder) {handle channel : Nat}
    (there : network.channel? handle = some channel) (held : Held record handle) :
    (network.signalled channel).Agrees ((.trigger handle, .triggered) :: record) founder where
  founded := agrees.founded
  injective := agrees.injective
  handles := agrees.handles
  receivers index receiver found := by
    obtain ⟨before, foundBefore, sameChannel, _⟩ := exists_of_receiver?_signalled found
    rw [sameChannel]
    exact agrees.receivers index before foundBefore
  balance index receiver found := by
    obtain ⟨before, foundBefore, _, pending⟩ := exists_of_receiver?_signalled found
    rw [(answered_cons_of_ne (by simp) _ _).1, (answered_cons_of_ne (by simp) _ _).2,
      triggersSince, pending, ← agrees.balance index before foundBefore]
    simp only [held, true_and, agrees.home_eq_iff there foundBefore, Nat.add_assoc]
  unmade := agrees.unmade
  unheard index beyond := by
    rw [(answered_cons_of_ne (by simp) _ _).1, (answered_cons_of_ne (by simp) _ _).2]
    exact agrees.unheard index (by simpa [signalled] using beyond)

/-- What a receiver is answered is taken off what it has pending. -/
theorem Agrees.receive (agrees : network.Agrees record founder) {index pending : Nat}
    {receiver : Receiver} (there : network.receiver? index = some receiver) {answer : Answer}
    (given : answer = .signal ∧ receiver.pending = pending + 1 ∨
      ∃ count, answer = .lagged count ∧ receiver.pending = pending + count) :
    (network.setPending index receiver pending).Agrees
      ((.receive index, answer) :: record) founder := by
  have untouched : ∀ other, other ≠ index →
      signals ((.receive index, answer) :: record) other = signals record other ∧
        missed ((.receive index, answer) :: record) other = missed record other :=
    fun other differs => answered_cons_of_ne (by simpa using Ne.symm differs) answer record
  have same : (∀ handle,
        origin ((.receive index, answer) :: record) handle = origin record handle) ∧
      (∀ other, home ((.receive index, answer) :: record) other = home record other) ∧
      ∀ other, triggersSince ((.receive index, answer) :: record) other =
        triggersSince record other := by
    cases answer <;> exact ⟨fun _ => rfl, fun _ => rfl, fun _ => rfl⟩
  obtain ⟨sameOrigin, sameHome, sameTriggers⟩ := same
  refine ⟨agrees.founded, agrees.injective, ?_, ?_, ?_, ?_, ?_⟩
  · intro handle channel found
    rw [sameOrigin]
    exact agrees.handles handle channel found
  · intro other otherReceiver found
    rw [receiver?_setPending there] at found
    rw [sameHome]
    split at found
    · next self =>
        cases found
        rw [self]
        exact agrees.receivers index receiver there
    · exact agrees.receivers other otherReceiver found
  · intro other otherReceiver found
    rw [receiver?_setPending there] at found
    rw [sameTriggers]
    split at found
    · next self =>
        cases found
        have balance := agrees.balance index receiver there
        rw [self, signals_cons, missed_cons]
        rcases given with ⟨rfl, taken⟩ | ⟨count, rfl, taken⟩
        · simp only [if_true, missedBy]
          omega
        · simp only [missedBy, if_true, Prod.mk.injEq, reduceCtorEq, and_false, if_false]
          omega
    · next differs =>
        rw [(untouched other differs).1, (untouched other differs).2]
        exact agrees.balance other otherReceiver found
  · intro handle beyond
    rw [sameOrigin]
    exact agrees.unmade handle beyond
  · intro other beyond
    have beyondBefore : network.receivers.length ≤ other := by
      simpa [setPending] using beyond
    have differs : other ≠ index := by
      have within := receiver?_lt there
      omega
    rw [(untouched other differs).1, (untouched other differs).2]
    exact agrees.unheard other beyondBefore

theorem Agrees.start : Network.start.Agrees [] fun _ => 0 where
  founded _ _ := Nat.zero_lt_one
  injective channel below other otherBelow _ := by
    change channel < 1 at below
    change other < 1 at otherBelow
    omega
  handles handle channel there := by
    have within : handle < 1 := channel?_lt there
    obtain rfl : handle = 0 := by omega
    cases there
    exact ⟨Nat.zero_lt_one, rfl⟩
  receivers index receiver there := absurd (receiver?_lt there) (Nat.not_lt_zero index)
  balance index receiver there := absurd (receiver?_lt there) (Nat.not_lt_zero index)
  unmade _ _ := rfl
  unheard _ _ := ⟨rfl, rfl⟩

/-- Every action leaves a network that agrees with its record. -/
theorem Agrees.step (agrees : network.Agrees record founder) (present : network.Present record)
    {action : Action} {answer : Answer} {next : Network} (step : network.Step action answer next) :
    ∃ founder, next.Agrees ((action, answer) :: record) founder := by
  cases step with
  | idle misses => exact ⟨founder, agrees.silent (present.silent misses)⟩
  | newChannel => exact ⟨_, agrees.newChannel.silent (silent_of_not_heard id record)⟩
  | subscribe there => exact ⟨founder, agrees.subscribe there⟩
  | clone there => exact ⟨founder, agrees.clone there⟩
  | trigger there => exact ⟨founder, agrees.trigger there (present.held there)⟩
  | count there => exact ⟨founder, agrees.silent (silent_of_not_heard id record)⟩
  | dropHandle there =>
      exact ⟨founder, (agrees.dropHandle there).silent (silent_of_not_heard id record)⟩
  | dropReceiver there =>
      exact ⟨founder, (agrees.dropReceiver there).silent (silent_of_not_heard id record)⟩
  | wait there none =>
      refine ⟨founder, agrees.silent (silent_of_not_heard ?_ record)⟩
      split <;> exact id
  | signal there one => exact ⟨founder, agrees.receive there (.inl ⟨rfl, one⟩)⟩
  | lag there several =>
      exact ⟨founder, agrees.receive there (.inr ⟨_, rfl, by omega⟩)⟩

/-- Every run leaves a network that agrees with its record. -/
theorem agrees_run (actions : List Action) :
    ∃ founder, (start.run actions).2.Agrees (start.record actions) founder := by
  induction actions using List.reverseRecOn with
  | nil => exact ⟨_, .start⟩
  | append_singleton earlier action inductionHypothesis =>
      obtain ⟨founder, agrees⟩ := inductionHypothesis
      rw [run_snoc, record_snoc]
      exact agrees.step (present_run earlier) (step_step _ action)

/-! ## What receivers hear -/

/-- A receiver that was made and, if it is still there, has something pending. -/
def Owed (network : Network) (index : Nat) : Prop :=
  index < network.receivers.length ∧
    ∀ receiver, network.receiver? index = some receiver → 1 ≤ receiver.pending

/-- What another receiver takes is its own. -/
theorem Owed.setPending {index taker pending : Nat} {receiver : Receiver}
    (owed : network.Owed index) (there : network.receiver? taker = some receiver)
    (differs : index ≠ taker) : (network.setPending taker receiver pending).Owed index := by
  refine ⟨by simpa [Network.setPending] using owed.1, fun after found => ?_⟩
  rw [receiver?_setPending there, if_neg differs] at found
  exact owed.2 after found

/-- Only the receiver itself takes what it has pending. -/
theorem Owed.step {index : Nat} (owed : network.Owed index) {action : Action} {answer : Answer}
    {next : Network} (step : network.Step action answer next)
    (other : action ≠ .receive index) : next.Owed index := by
  obtain ⟨within, pending⟩ := owed
  cases step with
  | idle | newChannel | clone | count | dropHandle | wait => exact ⟨within, pending⟩
  | @subscribe handle channel there =>
      refine ⟨?_, fun receiver found => ?_⟩
      · rw [length_receivers_addReceiver]
        exact Nat.lt_succ_of_lt within
      · rw [receiver?_addReceiver, if_neg (Nat.ne_of_lt within)] at found
        exact pending receiver found
  | @trigger handle channel there =>
      refine ⟨by simpa [signalled] using within, fun receiver found => ?_⟩
      obtain ⟨before, foundBefore, _, more⟩ := exists_of_receiver?_signalled found
      have enough := pending before foundBefore
      omega
  | dropReceiver there =>
      refine ⟨by simpa [withoutReceiver] using within, fun receiver found => ?_⟩
      rw [receiver?_withoutReceiver there] at found
      split at found
      · cases found
      · exact pending receiver found
  | signal there | lag there =>
      exact (Owed.setPending ⟨within, pending⟩ there) fun same => other (by rw [same])

theorem Owed.run {index : Nat} (owed : network.Owed index) {actions : List Action}
    (others : ∀ action ∈ actions, action ≠ .receive index) :
    (network.run actions).2.Owed index := by
  induction actions generalizing network with
  | nil => exact owed
  | cons action rest inductionHypothesis =>
      obtain ⟨first, later⟩ := List.forall_mem_cons.mp others
      exact inductionHypothesis (owed.step (step_step network action) first) later

/-- A receiver that has something pending is not told that there is nothing. -/
theorem Owed.answer {index : Nat} (owed : network.Owed index) :
    (network.step (.receive index)).1 ≠ .empty ∧ (network.step (.receive index)).1 ≠ .closed := by
  have stepped := step_step network (.receive index)
  generalize (network.step (.receive index)).1 = answer at stepped
  generalize (network.step (.receive index)).2 = next at stepped
  cases stepped with
  | idle misses =>
      cases misses
      simp
  | wait there none =>
      have pending := owed.2 _ there
      omega
  | signal => simp
  | lag => simp

/-! ## The accounts -/

/-- How a network answers, after a run with this record. -/
structure Accounts (network : Network) (record : List Entry) : Prop where
  listening : ∀ index, (network.receiver? index).isSome ↔ Listening record index
  held : ∀ handle, (network.channel? handle).isSome ↔ Held record handle
  /-- There is always another channel, with a handle that is like no other. -/
  created : ∃ made, made ∉ madeHandles record ∧ (network.step .newChannel).1 = .made made
  /-- Whoever holds a handle can do with it what can be done with handles. -/
  cloned : ∀ handle, Held record handle →
    ∃ made, made ∉ madeHandles record ∧ (network.step (.clone handle)).1 = .made made
  subscribed : ∀ handle, Held record handle →
    ∃ made, made ∉ madeReceivers record ∧ (network.step (.subscribe handle)).1 = .made made
  triggered : ∀ handle, Held record handle → (network.step (.trigger handle)).1 = .triggered
  counted : ∀ handle, Held record handle →
    network.step (.count handle) = (.counted (audience record handle), network)
  droppedHandle : ∀ handle, Held record handle →
    (network.step (.dropHandle handle)).1 = .dropped true
  droppedReceiver : ∀ index, Listening record index →
    (network.step (.dropReceiver index)).1 = .dropped true
  /-- Nobody can do anything with a handle or a receiver that is not there. -/
  goneHandle : ∀ handle, ¬Held record handle →
    (∀ action ∈ [.subscribe handle, .clone handle, .trigger handle, .count handle],
        network.step action = (.gone, network)) ∧
      network.step (.dropHandle handle) = (.dropped false, network)
  goneReceiver : ∀ index, ¬Listening record index →
    network.step (.receive index) = (.gone, network) ∧
      network.step (.dropReceiver index) = (.dropped false, network)
  /-- What a receiver was answered and what it has pending are the triggers it subscribed to. -/
  balance : ∀ index receiver, network.receiver? index = some receiver →
    signals record index + missed record index + receiver.pending = triggersSince record index
  /-- Of several pending signals all but the last are told to be missed. -/
  lagged : ∀ index receiver, network.receiver? index = some receiver → 2 ≤ receiver.pending →
    network.step (.receive index) =
        (.lagged (receiver.pending - 1), network.setPending index receiver 1) ∧
      (network.setPending index receiver 1).receiver? index = some { receiver with pending := 1 }
  signal : ∀ index receiver, network.receiver? index = some receiver → receiver.pending = 1 →
    network.step (.receive index) = (.signal, network.setPending index receiver 0) ∧
      (network.setPending index receiver 0).receiver? index = some { receiver with pending := 0 }
  closed : ∀ index receiver, network.receiver? index = some receiver → receiver.pending = 0 →
    (∀ handle, Held record handle → home record index ≠ some (origin record handle)) →
    network.step (.receive index) = (.closed, network)
  empty : ∀ index receiver, network.receiver? index = some receiver → receiver.pending = 0 →
    ∀ handle, Held record handle → home record index = some (origin record handle) →
      network.step (.receive index) = (.empty, network)
  /-- Whoever listened when a trigger was made hears of it, whatever comes in between. -/
  woken : ∀ handle index, Held record handle → Listening record index →
    home record index = some (origin record handle) →
    ∀ between : List Action, (∀ action ∈ between, action ≠ .receive index) →
      let answer := (((network.step (.trigger handle)).2.run between).2.step (.receive index)).1
      answer ≠ .empty ∧ answer ≠ .closed
  /-- A trigger that nobody listens to changes nothing. -/
  unheard : ∀ handle, audience record handle = 0 →
    (network.step (.trigger handle)).2 = network

/-- The audience of a handle are the listeners of its channel. -/
theorem Agrees.audience_eq (agrees : network.Agrees record founder)
    (present : network.Present record) {handle channel : Nat}
    (there : network.channel? handle = some channel) :
    audience record handle = network.listeners channel := by
  rw [listeners_eq_countP, audience, present.receivers.made_eq, List.countP_reverse]
  refine List.countP_congr fun index _ => ?_
  rw [decide_eq_true_iff, ← present.listening_iff]
  cases found : network.receiver? index with
  | none => simp [listensOn]
  | some receiver => simp [listensOn, agrees.home_eq_iff there found]

/-- A network that agrees with its record keeps account. -/
theorem Agrees.accounts (agrees : network.Agrees record founder)
    (present : network.Present record) : network.Accounts record where
  listening := present.receivers.there_iff
  held := present.handles.there_iff
  created := ⟨_, present.handles.fresh, rfl⟩
  cloned handle held := by
    obtain ⟨channel, found⟩ := present.exists_channel held
    exact ⟨_, present.handles.fresh, by rw [step_clone found]⟩
  subscribed handle held := by
    obtain ⟨channel, found⟩ := present.exists_channel held
    exact ⟨_, present.receivers.fresh, by rw [step_subscribe found]⟩
  triggered handle held := by
    obtain ⟨channel, found⟩ := present.exists_channel held
    rw [step_trigger found]
  counted handle held := by
    obtain ⟨channel, found⟩ := present.exists_channel held
    rw [agrees.audience_eq present found, step_count found]
  droppedHandle handle held := by
    obtain ⟨channel, found⟩ := present.exists_channel held
    rw [step_dropHandle found]
  droppedReceiver index listening := by
    obtain ⟨receiver, there⟩ := present.exists_receiver listening
    rw [step_dropReceiver there]
  goneHandle handle gone := by
    have absent := present.channel?_eq_none gone
    refine ⟨fun action tried => ?_, (Misses.dropHandle absent).step_eq⟩
    simp only [List.mem_cons, List.not_mem_nil, or_false] at tried
    rcases tried with rfl | rfl | rfl | rfl
    · exact (Misses.subscribe absent).step_eq
    · exact (Misses.clone absent).step_eq
    · exact (Misses.trigger absent).step_eq
    · exact (Misses.count absent).step_eq
  goneReceiver index gone := by
    have absent := present.receiver?_eq_none gone
    exact ⟨(Misses.receive absent).step_eq, (Misses.dropReceiver absent).step_eq⟩
  balance := agrees.balance
  lagged index receiver there several := by
    obtain ⟨missed, pending⟩ := Nat.exists_eq_add_of_le' several
    refine ⟨?_, by rw [receiver?_setPending there, if_pos rfl]⟩
    rw [step_receive there, Network.receive, pending]
    rfl
  signal index receiver there one := by
    refine ⟨?_, by rw [receiver?_setPending there, if_pos rfl]⟩
    rw [step_receive there, Network.receive, one]
  closed index receiver there nothing deserted := by
    have shut : network.isOpen receiver.channel = false := by
      rw [Bool.eq_false_iff, ne_eq, isOpen_iff]
      rintro ⟨handle, found⟩
      exact deserted handle (present.held found) ((agrees.home_eq_iff found there).mpr rfl)
    rw [step_receive there, Network.receive, nothing, shut]
    rfl
  empty index receiver there nothing handle held listens := by
    obtain ⟨channel, found⟩ := present.exists_channel held
    have isOpen : network.isOpen receiver.channel = true :=
      isOpen_iff.mpr ⟨handle, by rw [found, (agrees.home_eq_iff found there).mp listens]⟩
    rw [step_receive there, Network.receive, nothing, isOpen]
    rfl
  woken handle index held listening listens between others := by
    obtain ⟨channel, found⟩ := present.exists_channel held
    obtain ⟨receiver, there⟩ := present.exists_receiver listening
    have owed : (network.step (.trigger handle)).2.Owed index := by
      rw [step_trigger found]
      refine ⟨by simpa [signalled] using receiver?_lt there, fun after foundAfter => ?_⟩
      obtain ⟨before, foundBefore, _, pending⟩ := exists_of_receiver?_signalled foundAfter
      rw [if_pos ((agrees.home_eq_iff found foundBefore).mp listens)] at pending
      omega
    exact (owed.run others).answer
  unheard handle nobody := by
    cases found : network.channel? handle with
    | none => rw [(Misses.trigger found).step_eq]
    | some channel =>
        rw [step_trigger found]
        exact signalled_of_no_listeners (by rw [← agrees.audience_eq present found, nobody])

/-- After every run, the network keeps account of all signals: for every receiver, the
triggers of its family since it subscribed are the signals it got, those it was told that it
missed and those it has pending. The record tells all of the run: one more action adds itself
and its answer. -/
theorem run_accounts (actions : List Action) :
    (start.run actions).2.Accounts (start.record actions) ∧
      ∀ action,
        start.record (actions ++ [action]) =
            (action, ((start.run actions).2.step action).1) :: start.record actions ∧
          (start.run (actions ++ [action])).2 = ((start.run actions).2.step action).2 := by
  obtain ⟨founder, agrees⟩ := agrees_run actions
  exact ⟨agrees.accounts (present_run actions),
    fun action => ⟨record_snoc start actions action, run_snoc start actions action⟩⟩

/-- Two channels, with two handles of the first. A receiver of each is there when the first
channel is triggered twice, and hears of it by the missed signal and the last one. -/
theorem run_accounts_of_two_channels :
    let actions : List Action :=
      [.subscribe 0, .clone 0, .newChannel, .subscribe 2, .trigger 1, .trigger 0, .count 1,
        .dropHandle 0, .trigger 0, .subscribe 1, .receive 0, .receive 0, .receive 0, .receive 1,
        .receive 2, .dropHandle 1, .receive 0]
    (start.run actions).1 =
        [.made 0, .made 1, .made 2, .made 1, .triggered, .triggered, .counted 1,
          .dropped true, .gone, .made 2, .lagged 1, .signal, .empty, .empty,
          .empty, .dropped true, .closed] ∧
      (start.run actions).2.receiver? 0 = some ⟨0, 0⟩ ∧
      triggersSince (start.record actions) 0 = 2 ∧
      signals (start.record actions) 0 + missed (start.record actions) 0 = 2 ∧
      (start.run actions).2.Accounts (start.record actions) := by
  intro actions
  have accounts := (run_accounts actions).1
  have there : (start.run actions).2.receiver? 0 = some ⟨0, 0⟩ := by decide
  have triggers : triggersSince (start.record actions) 0 = 2 := by decide
  exact ⟨by decide, there, triggers, (accounts.balance 0 _ there).trans triggers, accounts⟩

end Turnstile.Shutdown.Network
