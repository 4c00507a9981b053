/-!
# Shutdown channels

A trigger reaches every receiver that listens on the channel of its handle. A
channel keeps one signal: a receiver that is behind by more learns how many it
missed, and then gets the last one. A receiver whose channel has no handle left
learns that once it has nothing pending.
-/

namespace Turnstile.Shutdown

/-- A receiver: the channel it listens on and the signals it has not taken. -/
structure Receiver where
  channel : Nat
  pending : Nat
  deriving DecidableEq, Repr

/-- Handles and receivers by their number; one that is dropped leaves a gap. -/
structure Network where
  /-- The channel of each handle. -/
  handles : List (Option Nat)
  receivers : List (Option Receiver)
  /-- The number of channels. -/
  channels : Nat
  deriving DecidableEq, Repr

/-- What may be done with handles and receivers. -/
inductive Action where
  | subscribe (handle : Nat)
  | clone (handle : Nat)
  | newChannel
  | trigger (handle : Nat)
  | count (handle : Nat)
  | dropHandle (handle : Nat)
  | dropReceiver (receiver : Nat)
  | receive (receiver : Nat)
  deriving DecidableEq, Repr

/-- What an action answers. -/
inductive Answer where
  /-- The number of a new handle or receiver. -/
  | made (index : Nat)
  | triggered
  | counted (receivers : Nat)
  | dropped (wasThere : Bool)
  | signal
  | lagged (missed : Nat)
  | empty
  | closed
  /-- The handle or receiver is not there. -/
  | gone
  deriving DecidableEq, Repr

namespace Network

/-- One handle of one channel, and no receivers. -/
def start : Network where
  handles := [some 0]
  receivers := []
  channels := 1

/-- The channel of a handle that is there. -/
def channel? (network : Network) (handle : Nat) : Option Nat :=
  (network.handles[handle]?).join

/-- A receiver that is there. -/
def receiver? (network : Network) (receiver : Nat) : Option Receiver :=
  (network.receivers[receiver]?).join

/-- The number of receivers that listen on a channel. -/
def listeners (network : Network) (channel : Nat) : Nat :=
  (network.receivers.filter fun receiver =>
    match receiver with
    | some receiver => receiver.channel = channel
    | none => false).length

/-- Whether a channel has a handle left. -/
def isOpen (network : Network) (channel : Nat) : Bool :=
  network.handles.any fun handle => handle = some channel

/-- One more signal for a receiver that listens on a channel. -/
def signalOn (channel : Nat) : Option Receiver → Option Receiver
  | some receiver =>
      if receiver.channel = channel then some { receiver with pending := receiver.pending + 1 }
      else some receiver
  | none => none

/-- The network with another count of pending signals for a receiver. -/
def setPending (network : Network) (index : Nat) (receiver : Receiver) (pending : Nat) :
    Network :=
  { network with
    receivers := network.receivers.set index (some { receiver with pending := pending }) }

/-- Take what a receiver has pending. -/
def receive (network : Network) (index : Nat) (receiver : Receiver) : Answer × Network :=
  match receiver.pending with
  | 0 => (if network.isOpen receiver.channel then .empty else .closed, network)
  | 1 => (.signal, network.setPending index receiver 0)
  | missed + 2 => (.lagged (missed + 1), network.setPending index receiver 1)

/-- One action. -/
def step (network : Network) : Action → Answer × Network
  | .newChannel =>
      (.made network.handles.length,
        { network with
          handles := network.handles ++ [some network.channels]
          channels := network.channels + 1 })
  | .subscribe handle =>
      match network.channel? handle with
      | some channel =>
          (.made network.receivers.length,
            { network with receivers := network.receivers ++ [some ⟨channel, 0⟩] })
      | none => (.gone, network)
  | .clone handle =>
      match network.channel? handle with
      | some channel =>
          (.made network.handles.length,
            { network with handles := network.handles ++ [some channel] })
      | none => (.gone, network)
  | .trigger handle =>
      match network.channel? handle with
      | some channel =>
          (.triggered, { network with receivers := network.receivers.map (signalOn channel) })
      | none => (.gone, network)
  | .count handle =>
      match network.channel? handle with
      | some channel => (.counted (network.listeners channel), network)
      | none => (.gone, network)
  | .dropHandle handle =>
      match network.channel? handle with
      | some _ => (.dropped true, { network with handles := network.handles.set handle none })
      | none => (.dropped false, network)
  | .dropReceiver receiver =>
      match network.receiver? receiver with
      | some _ =>
          (.dropped true, { network with receivers := network.receivers.set receiver none })
      | none => (.dropped false, network)
  | .receive index =>
      match network.receiver? index with
      | some receiver => network.receive index receiver
      | none => (.gone, network)

/-- Actions one after another, with their answers. -/
def run (network : Network) : List Action → List Answer × Network
  | [] => ([], network)
  | action :: rest =>
      let (answer, next) := network.step action
      let (answers, last) := next.run rest
      (answer :: answers, last)

end Network

end Turnstile.Shutdown
