import Buzz.Audio.Room

/-!
Media from other relays.

A relay has its rooms, by community and channel, and the generations it has seen, by channel.  A
datagram carries the channel only: it is dropped if its generation is behind the one seen, and if
there is not exactly one room for its channel.

The sequence number of a datagram is read by nothing and left out.
-/

namespace Buzz.Audio

open Buzz.Core Lib
open Tunnel (FencedHeader)

/-! ### The generation floor -/

/-- The highest generation seen of each session. -/
abbrev GenerationFloor := Table Uuid ℕ

inductive FenceVerdict
  | accept (advanced : Bool)
  | rejectStale (known : ℕ)

namespace GenerationFloor

def check (floor : GenerationFloor) (sessionId : Uuid) (generation : ℕ) :
    FenceVerdict × GenerationFloor :=
  match floor.lookup sessionId with
  | some known =>
    if generation < known then (.rejectStale known, floor)
    else (.accept (decide (generation > known)), floor.insert sessionId generation)
  | none => (.accept false, floor.insert sessionId generation)

def forget (floor : GenerationFloor) (sessionId : Uuid) : GenerationFloor := floor.erase sessionId

end GenerationFloor

/-! ### Rooms of a relay -/

abbrev AudioRoomManager := Table (CommunityId × Uuid) Room

namespace AudioRoomManager

variable (rooms : AudioRoomManager)

def getOrCreate (communityId : CommunityId) (channelId : Uuid) : Room × AudioRoomManager :=
  match rooms.lookup (communityId, channelId) with
  | some room => (room, rooms)
  | none =>
    let room := Room.new communityId channelId
    (room, rooms.insert (communityId, channelId) room)

def ofChannel (channelId : Uuid) : List Room :=
  (rooms.entries.filter fun e => e.1.2 = channelId).map Sigma.snd

def getUnambiguousByChannel (channelId : Uuid) : Option Room :=
  match rooms.ofChannel channelId with
  | [room] => some room
  | _ => none

def cleanupIfEmpty (communityId : CommunityId) (channelId : Uuid) : Bool × AudioRoomManager :=
  match rooms.lookup (communityId, channelId) with
  | some room =>
    if room.peers.isEmpty then (true, rooms.erase (communityId, channelId)) else (false, rooms)
  | none => (false, rooms)

end AudioRoomManager

/-! ### Datagrams -/

structure MeshDatagram where
  fenced : FencedHeader
  payload : List UInt8

/-- What a datagram leads to: the room it is for, and the frames for the sinks of its peers. -/
structure MediaOutcome where
  verdict : FenceVerdict
  room : Option Room
  sent : List (AudioPeer × List UInt8)

/-- The part of a relay that handles media. -/
structure MeshAudioRouter where
  rooms : AudioRoomManager
  fence : GenerationFloor

def MeshAudioRouter.onMediaDatagram (router : MeshAudioRouter) (dgram : MeshDatagram) :
    MediaOutcome × MeshAudioRouter :=
  let (verdict, fence) := router.fence.check dgram.fenced.sessionId dgram.fenced.generation
  let router := { router with fence }
  match verdict with
  | .rejectStale _ => (⟨verdict, none, []⟩, router)
  | .accept _ =>
    match router.rooms.getUnambiguousByChannel dgram.fenced.sessionId, dgram.payload with
    | some room, authorIndex :: rest =>
      (⟨verdict, some room, room.deliverPrefixed authorIndex (authorIndex :: rest)⟩, router)
    | _, _ => (⟨verdict, none, []⟩, router)

def mediaDatagram (peerIndex epoch version : UInt8) (fenced : FencedHeader)
    (clientFrame : List UInt8) : MeshDatagram :=
  ⟨fenced, Room.framePrefix peerIndex epoch version ++ clientFrame⟩

end Buzz.Audio
