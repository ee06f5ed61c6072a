import Buzz.Audio.OwnerRegistry

/-!
A relay with the huddles of several communities.

Clients connect, resolve who owns the huddle, are admitted to a room and leave it; other relays open
control streams and register their clients; datagrams arrive; leases are lost and the relay drains.
What a task of the source does between two points where it waits is one step here, and what it waits
for (the directory, the database, other relays) is part of the input.  A step shows the frames that
it puts into the sinks of a room and the signals that connections and streams see.

A connection knows its room by community and channel, where the source keeps hold of the room it got.
A stream is for one community: the source closes it at a frame that names another one.
-/

namespace Buzz.Audio

open Buzz.Core Lib
open Mesh (RuntimeId)

/-! ### Connections -/

inductive JoinOutcome
  | localOwner (generation : ℕ)
  | remoteOwner (ownerRuntimeId : RuntimeId) (generation : ℕ)

structure ResolvedJoin where
  outcome : JoinOutcome
  acquired : Bool

/-- What a client is to the relay: the relay owns its huddle, and perhaps there are signals to watch;
or another relay does. -/
inductive Role
  | owner (signals : Option Conn) (generation : ℕ)
  | remote

/-- A control stream: the relay that opened it, with what generation, the signals to watch and the
peers registered. -/
structure ControlStream where
  opener : RuntimeId
  generation : ℕ
  signals : Option Conn
  registered : Table String ℕ

inductive Phase
  | fresh
  | resolving (version : UInt8) (attempts : ℕ)
  | entered (version : UInt8) (resolved : ResolvedJoin)
  | dialing (version : UInt8)
  | connected (peerId : ℕ) (role : Role)
  | closing (peerId : ℕ) (role : Role)
  | leaving (shouldEnd : Bool) (generation : Option ℕ)
  | serving (stream : ControlStream)
  | validating (stream : ControlStream) (pubkey : String) (version : UInt8)
  | closed

def Phase.watched : Phase → Option Conn
  | .connected _ (.owner signals _) => signals
  | .serving stream | .validating stream _ _ => stream.signals
  | _ => none

def Phase.generation : Phase → Option ℕ
  | .connected _ (.owner _ generation) | .closing _ (.owner _ generation) => some generation
  | .leaving _ generation => generation
  | .serving stream | .validating stream _ _ => some stream.generation
  | _ => none

def ownerReadyMaxAttempts : ℕ := 25

def currentProtocolVersion : UInt8 := 3

/-! ### Inputs and outputs -/

inductive OwnerSignal
  | lost | draining
deriving DecidableEq

inductive Observation
  | media (communityId : CommunityId) (peer : AudioPeer) (payload : List UInt8)
  | signal (c : Conn) (s : OwnerSignal)
deriving DecidableEq

def Observation.communityId : Observation → CommunityId
  | .media communityId _ _ => communityId
  | .signal c _ => c.communityId

inductive Validation
  | valid | fenced | failed

/-- Inputs at a client's connection, at the renewer it started, and at a control stream. -/
inductive ConnAct
  | connect (version : UInt8)
  | resolve (answer : Option ResolvedJoin)
  | checked (isOpen : Bool)
  | dialed (peerIndex : Option UInt8) (greeted : Bool)
  | frame (frame : List UInt8)
  | ownerGone
  | leave
  | finish (archived : Bool)
  | renewed (outcome : HuddleRenewOutcome)
  | released (outcome : HuddleReleaseOutcome)
  | accept (opener : RuntimeId) (generation : ℕ)
  | register (pubkey : String) (version : UInt8)
  | validated (validation : Validation)
  | unregister (pubkey : String)
  | close
  | watch (lostFirst : Bool)

inductive PodAct
  | conn (c : Conn) (act : ConnAct)
  | datagram (communityId : CommunityId) (dgram : MeshDatagram)
  | drainAll

/-! ### The relay -/

structure Pod where
  localRuntimeId : RuntimeId
  router : MeshAudioRouter
  owners : HuddleOwnerRegistry
  phases : Conn → Phase

namespace Pod

def init (localRuntimeId : RuntimeId) : Pod := ⟨localRuntimeId, ⟨∅, ∅⟩, .new, fun _ => .fresh⟩

section Parts

variable (pod : Pod) (c : Conn)

def room : Room := (pod.router.rooms.getOrCreate c.communityId c.channelId).1

def setPhase (phase : Phase) : Pod := { pod with phases := Function.update pod.phases c phase }

def setRooms (rooms : AudioRoomManager) : Pod := { pod with router := { pod.router with rooms } }

def setRoom (room : Room) : Pod :=
  pod.setRooms (pod.router.rooms.insert (c.communityId, c.channelId) room)

def enter : Pod := pod.setRooms (pod.router.rooms.getOrCreate c.communityId c.channelId).2

def cleanup : Bool × Pod :=
  let (removed, rooms) := pod.router.rooms.cleanupIfEmpty c.communityId c.channelId
  (removed, pod.setRooms rooms)

def modifyRoom (f : Room → Room) : Pod :=
  match pod.router.rooms.lookup (c.communityId, c.channelId) with
  | some room => pod.setRoom c (f room)
  | none => pod

def release (generation : ℕ) : Pod :=
  { pod with owners := pod.owners.release c.channelId generation }

def forget : Pod :=
  { pod with router := { pod.router with fence := pod.router.fence.forget c.channelId } }

def modifySignals (f : HuddleOwnerSignals → HuddleOwnerSignals) : Pod :=
  { pod with owners := pod.owners.modifySignals c f }

/-- The signal that is seen, if both have been given the first one asked for. -/
def fired (lostFirst : Bool) : Option OwnerSignal :=
  match (pod.phases c).watched with
  | none => none
  | some t =>
    match (pod.owners.signals t).lost, (pod.owners.signals t).draining with
    | true, true => some (if lostFirst then .lost else .draining)
    | true, false => some .lost
    | false, true => some .draining
    | false, false => none

end Parts

section Steps

variable (pod : Pod) (c : Conn) (version : UInt8) (stream : ControlStream) (pubkey : String)

/-- A relay that drains turns clients away. -/
def connect : Pod × List Observation :=
  if pod.owners.draining then (pod.setPhase c .closed, [.signal c .draining])
  else (pod.setPhase c (.resolving version 0), [])

/-- A huddle that the relay owns without this connection having acquired it needs an entry. -/
def resolve (attempts : ℕ) : Option ResolvedJoin → Pod
  | none => pod.setPhase c .closed
  | some resolved =>
    match resolved with
    | ⟨.localOwner _, false⟩ =>
      if (pod.owners.signalsFor c.channelId).isSome then
        (pod.enter c).setPhase c (.entered version resolved)
      else if attempts + 1 < ownerReadyMaxAttempts then
        pod.setPhase c (.resolving version (attempts + 1))
      else pod.setPhase c .closed
    | _ => (pod.enter c).setPhase c (.entered version resolved)

def admitLocal (generation : ℕ) (acquired : Bool) : Pod :=
  match (pod.room c).addPeer version .socket with
  | (.error _, room) => (pod.modifyRoom c fun _ => room).setPhase c .closed
  | (.ok peer, room) =>
    let pod := pod.setRoom c room
    if acquired then
      let (signals, owners) := pod.owners.attachSignals c generation
      { pod with owners }.setPhase c (.connected peer.peerId (.owner (some signals) generation))
    else
      let signals := pod.owners.signalsFor c.channelId
      pod.setPhase c (.connected peer.peerId (.owner signals generation))

/-- The channel was looked up again: it is open, or it is archived or cannot be read. -/
def checked (resolved : ResolvedJoin) (isOpen : Bool) : Pod :=
  if isOpen = false then ((pod.cleanup c).2).setPhase c .closed
  else if version = 0 ∨ version > currentProtocolVersion then pod.setPhase c .closed
  else
    match resolved.outcome with
    | .localOwner generation => pod.admitLocal c version generation resolved.acquired
    | .remoteOwner _ _ => pod.setPhase c (.dialing version)

/-- The owner has registered the client, with an index, or has not; and the client was greeted. -/
def dialed (peerIndex : Option UInt8) (greeted : Bool) : Pod :=
  match peerIndex with
  | none => ((pod.cleanup c).2).setPhase c .closed
  | some peerIndex =>
    match (pod.room c).addPeerAtIndex version peerIndex .socket with
    | (.error _, room) => (pod.modifyRoom c fun _ => room).setPhase c .closed
    | (.ok peer, room) =>
      let pod := pod.setRoom c room
      if greeted then pod.setPhase c (.connected peer.peerId .remote)
      else
        (((pod.modifyRoom c fun room => (room.removePeer peer.peerId).2).cleanup c).2).setPhase c
          .closed

/-- The frames of clients whose huddle another relay owns leave this relay. -/
def frame (peerId : ℕ) (role : Role) (frame : List UInt8) : List Observation :=
  match role with
  | .owner _ _ => ((pod.room c).broadcastFrame peerId frame).map fun e => .media c.communityId e.1 e.2
  | .remote => []

def leave (peerId : ℕ) (role : Role) : Pod :=
  match role with
  | .remote =>
    (pod.modifyRoom c fun room => (room.removePeer peerId).2).setPhase c (.leaving false none)
  | .owner _ generation =>
    match (pod.room c).removePeerAndCheckEnded peerId with
    | (none, _) => pod.setPhase c (.leaving false (some generation))
    | (some (_, shouldEnd), room) =>
      (pod.setRoom c room).setPhase c (.leaving shouldEnd (some generation))

/-- A room that is to end stays if its channel cannot be archived; otherwise it goes when it is empty,
and with it the lease. -/
def finish (shouldEnd : Bool) (generation : Option ℕ) (archived : Bool) : Pod :=
  if shouldEnd && !archived then (pod.modifyRoom c Room.clearEnded).setPhase c .closed
  else
    let (emptied, pod) := pod.cleanup c
    match emptied, generation with
    | true, some generation => (pod.release c generation).setPhase c .closed
    | _, _ => pod.setPhase c .closed

def removeRemotePeer (generation peerId : ℕ) : Pod :=
  match pod.router.rooms.lookup (c.communityId, c.channelId) with
  | none => pod
  | some room =>
    match room.removePeerAndCheckEnded peerId with
    | (none, _) => pod
    | (some (_, shouldEnd), room) =>
      let pod := pod.setRoom c room
      if shouldEnd then
        let (removed, pod) := pod.cleanup c
        if removed then pod.release c generation else pod
      else pod

def teardown : Pod :=
  (stream.registered.entries.foldl
    (fun pod e => pod.removeRemotePeer c stream.generation e.2) pod).setPhase c .closed

/-- A relay that drains closes the stream; otherwise the directory is asked, with the room at hand. -/
def register (version : UInt8) : Pod × List Observation :=
  if pod.owners.draining then (pod.teardown c stream, [.signal c .draining])
  else ((pod.enter c).setPhase c (.validating stream pubkey version), [])

def validated (version : UInt8) : Validation → Pod
  | .valid =>
    match (pod.room c).addPeer version
        (.mesh stream.opener ⟨c.channelId, stream.generation, pod.localRuntimeId⟩) with
    | (.error _, room) => (pod.modifyRoom c fun _ => room).setPhase c (.serving stream)
    | (.ok peer, room) =>
      (pod.setRoom c room).setPhase c
        (.serving { stream with registered := stream.registered.insert pubkey peer.peerId })
  | .fenced => pod.setPhase c (.serving stream)
  | .failed => pod.teardown c stream

def unregister : Pod :=
  match stream.registered.lookup pubkey with
  | none => pod
  | some peerId =>
    (pod.removeRemotePeer c stream.generation peerId).setPhase c
      (.serving { stream with registered := stream.registered.erase pubkey })

/-- A signal closes a client's connection, and the relay forgets the generation; it ends a stream. -/
def watch (lostFirst : Bool) : Pod × List Observation :=
  match pod.phases c, pod.fired c lostFirst with
  | .connected peerId role, some s =>
    ((pod.forget c).setPhase c (.closing peerId role), [.signal c s])
  | .serving stream, some s => (pod.teardown c stream, [.signal c s])
  | _, _ => (pod, [])

/-- A step at a connection or stream; what does not fit its phase changes nothing. -/
def connStep (act : ConnAct) : Pod × List Observation :=
  match act, pod.phases c with
  | .connect version, .fresh => pod.connect c version
  | .resolve answer, .resolving version attempts => (pod.resolve c version attempts answer, [])
  | .checked isOpen, .entered version resolved => (pod.checked c version resolved isOpen, [])
  | .dialed peerIndex greeted, .dialing version => (pod.dialed c version peerIndex greeted, [])
  | .frame frame, .connected peerId role => (pod, pod.frame c peerId role frame)
  | .ownerGone, .connected peerId .remote =>
    ((pod.forget c).setPhase c (.closing peerId .remote), [])
  | .leave, .connected peerId role | .leave, .closing peerId role => (pod.leave c peerId role, [])
  | .finish archived, .leaving shouldEnd generation =>
    (pod.finish c shouldEnd generation archived, [])
  | .renewed outcome, _ => (pod.modifySignals c fun s => s.renew outcome, [])
  | .released outcome, _ => (pod.modifySignals c fun s => s.finish outcome, [])
  | .accept opener generation, .fresh =>
    (pod.setPhase c (.serving ⟨opener, generation, pod.owners.signalsFor c.channelId, ∅⟩), [])
  | .register pubkey version, .serving stream => pod.register c stream pubkey version
  | .validated validation, .validating stream pubkey version =>
    (pod.validated c stream pubkey version validation, [])
  | .unregister pubkey, .serving stream => (pod.unregister c stream pubkey, [])
  | .close, .serving stream => (pod.teardown c stream, [])
  | .watch lostFirst, _ => pod.watch c lostFirst
  | _, _ => (pod, [])

end Steps

/-- The frames for the sinks of the room that a datagram finds. -/
def datagram (pod : Pod) (dgram : MeshDatagram) : Pod × List Observation :=
  let (outcome, router) := pod.router.onMediaDatagram dgram
  match outcome.room with
  | some room => ({ pod with router }, outcome.sent.map fun e => .media room.communityId e.1 e.2)
  | none => ({ pod with router }, [])

def step (pod : Pod) : PodAct → Pod × List Observation
  | .conn c act => pod.connStep c act
  | .datagram _ dgram => pod.datagram dgram
  | .drainAll => ({ pod with owners := pod.owners.drainAll }, [])

end Pod

end Buzz.Audio
