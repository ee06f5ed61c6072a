import Buzz.Audio.Media

/-!
A huddle across relays.

One relay owns the huddle: its room has all participants, with indices and epochs of its choice.  A
participant on another relay is a peer of the owner's room whose sink leads back to that relay, and a
peer of a room on that relay, at the same index.  Its frames go to the owner as datagrams, and the
owner fans them out to everyone else, for each participant elsewhere as a datagram to its relay, which
hands it to all of its own peers but the author.

Joining and leaving are taken as a whole.  Frames can be lost wherever the source drops them: at a
full sink and on the way between relays.
-/

namespace Buzz.Audio

open Buzz.Core Lib
open Mesh (RuntimeId)
open Tunnel (FencedHeader)

structure HuddleConfig where
  owner : RuntimeId
  communityId : CommunityId
  channelId : Uuid
  generation : ℕ

/-- The fence of everything the huddle sends; its session is its channel. -/
def HuddleConfig.fenced (cfg : HuddleConfig) : FencedHeader :=
  ⟨cfg.channelId, cfg.generation, cfg.owner⟩

/-- A client in the huddle: its relay, its ids in the owner's room and in that of its relay, and what
the owner has assigned to it. -/
structure Participant where
  pod : RuntimeId
  ownerPeerId : ℕ
  localPeerId : ℕ
  peerIndex : UInt8
  epoch : UInt8
  localEpoch : UInt8
  protocolVersion : UInt8
deriving DecidableEq

structure Huddle where
  routers : RuntimeId → MeshAudioRouter
  participants : List Participant

namespace Huddle

variable (cfg : HuddleConfig) (h : Huddle) (pod : RuntimeId) (p : Participant)

def init : Huddle := ⟨fun _ => ⟨∅, ∅⟩, []⟩

def room : Room :=
  ((h.routers pod).rooms.getOrCreate cfg.communityId cfg.channelId).1

def setRouter (router : MeshAudioRouter) : Huddle :=
  { h with routers := Function.update h.routers pod router }

def setRoom (room : Room) : Huddle :=
  let router := h.routers pod
  h.setRouter pod { router with rooms := router.rooms.insert (cfg.communityId, cfg.channelId) room }

def cleanup : Huddle :=
  let router := h.routers pod
  h.setRouter pod
    { router with rooms := (router.rooms.cleanupIfEmpty cfg.communityId cfg.channelId).2 }

def addParticipant : Huddle :=
  { h with participants := h.participants ++ [p] }

def joinLocal (version : UInt8) : Huddle :=
  match (h.room cfg cfg.owner).addPeer version .socket with
  | (.error _, room) => h.setRoom cfg cfg.owner room
  | (.ok peer, room) =>
    (h.setRoom cfg cfg.owner room).addParticipant
      ⟨cfg.owner, peer.peerId, peer.peerId, peer.peerIndex, peer.epoch, peer.epoch, version⟩

/-- A client of another relay joins: it is registered with the owner, and then admitted at the index
it got.  If it is not, it is unregistered. -/
def joinRemote (version : UInt8) : Huddle :=
  match (h.room cfg cfg.owner).addPeer version (.mesh pod cfg.fenced) with
  | (.error _, room) => h.setRoom cfg cfg.owner room
  | (.ok peer, room) =>
    match (h.room cfg pod).addPeerAtIndex version peer.peerIndex .socket with
    | (.error _, _) =>
      (h.setRoom cfg cfg.owner (room.removePeerAndCheckEnded peer.peerId).2).cleanup cfg cfg.owner
    | (.ok mirror, mirrorRoom) =>
      ((h.setRoom cfg cfg.owner room).setRoom cfg pod mirrorRoom).addParticipant
        ⟨pod, peer.peerId, mirror.peerId, peer.peerIndex, peer.epoch, mirror.epoch, version⟩

def leave : Huddle :=
  let h := { h with participants := h.participants.filter fun q => q ≠ p }
  let h := (h.setRoom cfg cfg.owner
    ((h.room cfg cfg.owner).removePeerAndCheckEnded p.ownerPeerId).2).cleanup cfg cfg.owner
  if p.pod = cfg.owner then h
  else (h.setRoom cfg p.pod ((h.room cfg p.pod).removePeer p.localPeerId).2).cleanup cfg p.pod

/-! ### Frames on their way -/

/-- What gets through, if `losses` says of each item in turn whether it is lost; and the losses to
come.  Without losses everything gets through. -/
def transmit {α : Type} : List Bool → List α → List α × List Bool
  | losses, [] => ([], losses)
  | [], x :: xs => (x :: xs, [])
  | true :: losses, _ :: xs => transmit losses xs
  | false :: losses, x :: xs => ((x :: (transmit losses xs).1), (transmit losses xs).2)

structure Delivered where
  pod : RuntimeId
  peerId : ℕ
  payload : List UInt8

def toClients (queued : List (AudioPeer × List UInt8)) : List Delivered :=
  queued.filterMap fun e =>
    match e.1.audioTx with
    | .socket => some ⟨pod, e.1.peerId, e.2⟩
    | .mesh _ _ => none

def toPods (queued : List (AudioPeer × List UInt8)) : List (RuntimeId × MeshDatagram) :=
  queued.filterMap fun e =>
    match e.1.audioTx with
    | .socket => none
    | .mesh pod fenced => some (pod, ⟨fenced, e.2⟩)

def receive (h : Huddle) :
    List (RuntimeId × MeshDatagram) → List (RuntimeId × AudioPeer × List UInt8) × Huddle
  | [] => ([], h)
  | (pod, dgram) :: rest =>
    let (outcome, router) := (h.routers pod).onMediaDatagram dgram
    let (sent, h') := receive (h.setRouter pod router) rest
    (outcome.sent.map (fun e => (pod, e)) ++ sent, h')

def fanOut (sent : List (AudioPeer × List UInt8)) (losses : List Bool) : List Delivered × Huddle :=
  let (queued, losses) := transmit losses sent
  let (arrived, losses) := transmit losses (toPods queued)
  let (sent, h) := h.receive arrived
  let (queued', _) := transmit losses sent
  (toClients cfg.owner queued ++ queued'.flatMap fun e => toClients e.1 [e.2], h)

def send (frame : List UInt8) (losses : List Bool) : List Delivered × Huddle :=
  if p.pod = cfg.owner then
    h.fanOut cfg ((h.room cfg cfg.owner).broadcastFrame p.ownerPeerId frame) losses
  else
    let dgram := mediaDatagram p.peerIndex p.epoch p.protocolVersion cfg.fenced frame
    let (arrived, losses) := transmit losses [(cfg.owner, dgram)]
    let (sent, h) := h.receive arrived
    h.fanOut cfg (sent.map Prod.snd) losses

/-! ### Runs -/

inductive HuddleAct
  | joinLocal (version : UInt8)
  | joinRemote (pod : RuntimeId) (version : UInt8)
  | leave (p : Participant)
  | send (p : Participant) (frame : List UInt8) (losses : List Bool)

/-- Only participants leave or send, and only clients of other relays join from there. -/
def step : HuddleAct → Huddle
  | .joinLocal version => h.joinLocal cfg version
  | .joinRemote pod version => if pod = cfg.owner then h else h.joinRemote cfg pod version
  | .leave p => if p ∈ h.participants then h.leave cfg p else h
  | .send p frame losses => if p ∈ h.participants then (h.send cfg p frame losses).2 else h

def run (acts : List HuddleAct) : Huddle := acts.foldl (step cfg) init

end Huddle

end Buzz.Audio
