import Conclave.Failure
import Conclave.Keyed

namespace Conclave

structure ChannelId where
  number : Nat
  deriving DecidableEq, Repr

/-- `senders` counts the publishers that have looked the channel up and not yet sent. -/
structure Channel where
  session : SessionId
  buffer : Option CeremonyResult
  senders : Nat
  deriving DecidableEq, Repr

structure Bus where
  topics : Keyed SessionId ChannelId
  channels : Keyed ChannelId Channel
  next : Nat

namespace Bus

def empty : Bus := ⟨.empty, .empty, 0⟩

def isSubscribed (b : Bus) (s : SessionId) : Bool := b.topics.contains s

def topicCount (b : Bus) : Nat := b.topics.size

def alreadySubscribed (s : SessionId) : Failure :=
  .internal s!"Session {s.text} already has a result subscriber"

def subscribe (s : SessionId) (b : Bus) : Except Failure (ChannelId × Bus) :=
  if b.isSubscribed s then .error (alreadySubscribed s)
  else
    let c : ChannelId := ⟨b.next⟩
    .ok (c, ⟨b.topics.insert s c, b.channels.insert c ⟨s, none, 0⟩, b.next + 1⟩)

def find (s : SessionId) (b : Bus) : Option ChannelId × Bus :=
  match b.topics.get? s with
  | none => (none, b)
  | some c =>
      (some c, { b with
        channels := b.channels.modify c fun ch => { ch with senders := ch.senders + 1 } })

def send (c : ChannelId) (result : CeremonyResult) (b : Bus) : Bool × Bus :=
  let accepted := match b.channels.get? c with
    | none => false
    | some ch => ch.buffer.isNone
  (accepted, { b with
    channels := b.channels.modify c fun ch =>
      { ch with
        buffer := if ch.buffer.isNone then some result else ch.buffer
        senders := ch.senders - 1 } })

def publish (s : SessionId) (result : CeremonyResult) (b : Bus) : Bool × Bus :=
  match b.find s with
  | (none, b) => (false, b)
  | (some c, b) => b.send c result

inductive Received where
  | result (r : CeremonyResult)
  | closed
  | waiting
  deriving DecidableEq, Repr

def isOpen (c : ChannelId) (ch : Channel) (b : Bus) : Bool :=
  decide (b.topics.get? ch.session = some c) || decide (0 < ch.senders)

def receive (c : ChannelId) (b : Bus) : Received × Bus :=
  match b.channels.get? c with
  | none => (.closed, b)
  | some ch =>
      match ch.buffer with
      | some r =>
          (.result r, { b with channels := b.channels.modify c fun ch => { ch with buffer := none } })
      | none => (if b.isOpen c ch then .waiting else .closed, b)

def drop (c : ChannelId) (b : Bus) : Bus :=
  match b.channels.get? c with
  | none => b
  | some ch => { b with topics := b.topics.erase ch.session, channels := b.channels.erase c }

def closeAll (b : Bus) : Bus := { b with topics := .empty }

end Bus

end Conclave
