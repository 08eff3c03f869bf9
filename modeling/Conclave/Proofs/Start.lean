import Conclave.Coordinator
import Conclave.Proofs.Quorum

namespace Conclave.Coordinator

abbrev chosen (s : SessionId) (draws : Draws) (request : Session.Request) (c : Coordinator) :
    Except Failure (List NodeId) :=
  Quorum.select c.config.selectionPolicy c.registry.nodes.values request.totalNodes.toNat
    request.threshold.toNat s draws

theorem nodup_chosen {s : SessionId} {draws : Draws} {request : Session.Request} {c : Coordinator}
    (named : c.registry.Named) {parties : List NodeId}
    (selected : c.chosen s draws request = .ok parties) : parties.Nodup :=
  Quorum.nodup_select (Registry.nodup_ids named)
    (by have := request.totalNodes.toNat_lt; omega) selected

def refuse (now : Timestamp) (s : SessionId) (request : Session.Request) (f : Failure)
    (c : Coordinator) : Coordinator :=
  { c with docket := (c.docket.create now s request).finish now s (some f) }

def launch (now : Timestamp) (s : SessionId) (request : Session.Request) (parties : List NodeId)
    (channel : ChannelId) (bus : Bus) (c : Coordinator) : Coordinator :=
  { c with
    registry := (c.registry.markAll parties).2
    bus := bus
    docket := c.docket.create now s request
    leases := c.leases.insert s
      ⟨request.action, parties, (c.registry.markAll parties).1, channel, false⟩ }

inductive Started (now : Timestamp) (s : SessionId) (draws : Draws) (request : Session.Request)
    (c : Coordinator) : Prop
  | invalid (f : Failure) (invalid : request.validate = .error f)
      (result : c.start now s draws request = (.error f, c))
  | unchosen (f : Failure) (valid : request.validate = .ok ())
      (unchosen : c.chosen s draws request = .error f)
      (result : c.start now s draws request = (.error f, c.refuse now s request f))
  | taken (f : Failure) (parties : List NodeId) (valid : request.validate = .ok ())
      (selected : c.chosen s draws request = .ok parties) (taken : c.bus.subscribe s = .error f)
      (result : c.start now s draws request = (.error f, c.refuse now s request f))
  | launched (parties : List NodeId) (channel : ChannelId) (bus : Bus)
      (valid : request.validate = .ok ()) (selected : c.chosen s draws request = .ok parties)
      (subscribed : c.bus.subscribe s = .ok (channel, bus))
      (result : c.start now s draws request =
        (.ok (request.notice s parties), c.launch now s request parties channel bus))

theorem started (now : Timestamp) (s : SessionId) (draws : Draws) (request : Session.Request)
    (c : Coordinator) : Started now s draws request c := by
  cases valid : request.validate with
  | error f => exact .invalid f valid (by simp only [start, valid])
  | ok _ =>
      cases selected : c.chosen s draws request with
      | error f => exact .unchosen f valid selected (by simp only [start, valid, selected, refuse])
      | ok parties =>
          cases subscribed : c.bus.subscribe s with
          | error f =>
              refine .taken f parties valid selected subscribed ?_
              simp only [start, valid, selected, subscribed, refuse]
          | ok opened =>
              obtain ⟨channel, bus⟩ := opened
              refine .launched parties channel bus valid selected subscribed ?_
              simp only [start, valid, selected, subscribed, launch]

theorem live_of_launch {now : Timestamp} {s : SessionId} {request : Session.Request}
    (parties : List NodeId) (channel : ChannelId) (bus : Bus) {c : Coordinator} :
    (c.launch now s request parties channel bus).leases.get? s =
      some ⟨request.action, parties, (c.registry.markAll parties).1, channel, false⟩ := by
  rw [launch, Keyed.get?_insert, if_pos rfl]

end Conclave.Coordinator
