import Buzz.Core.Event
import Buzz.Lib.Run

/-!
Authentication and bans.

An AUTH message is handled by a run of `handle_auth`.  It asks the database whether its key, and the
owner that the message proves, are banned; then for the allowlist, the membership and the owner's
row; then it makes the connection authenticated, and at last enters the key in the pod's connection
manager.  Between any two of these others can come in.

A ban first writes its row.  Then the pod that handles it disconnects the connections that are
entered under the key, and publishes a command for the other pods to do the same.

Signatures are taken as the message has them: whether it answers the challenge, and the owner that its
`auth` tag proves.  What the lookups other than the bans answer comes with the run.  Authorisation of
the moderators, audit rows and notices are left out.
-/

namespace Buzz.Relay.Auth

open Buzz.Core Lib

abbrev PodId := ℕ
abbrev ConnId := Uuid

/-! ### Data -/

structure Config where
  pubkeyAllowlistEnabled : Bool
  requireRelayMembership : Bool
  allowNipOaAuth : Bool

/-- An AUTH message, as its signatures have it. -/
structure AuthMessage where
  pubkey : PublicKey
  /-- The event answers the challenge of the connection. -/
  verified : Bool
  /-- The owner that the one `auth` tag of the event proves. -/
  owner : Option PublicKey

/-- What a run's lookups answer; `none` is an error of the database. -/
structure Lookups where
  /-- The lookups of the bans come through. -/
  banAnswers : Bool
  ownerBanAnswers : Bool
  isPubkeyAllowed : Option Bool
  isRelayMember : Option Bool
  isOwnerMember : Option Bool
  /-- `materialize_nip_oa_owner` -/
  materialized : Bool

/-- The authentication of a connection.  `proved` is the owner that the AUTH message proved, whether
or not it was stored with the agent. -/
inductive ConnAuth
  | pending
  | authenticated (pubkey : PublicKey) (agentOwner proved : Option PublicKey)
  | failed
deriving DecidableEq

/-- A connection that the pod has, with its entry in the connection manager. -/
structure Connection where
  communityId : CommunityId
  auth : ConnAuth
  cancelled : Bool
  authenticatedPubkey : Option PublicKey
deriving DecidableEq

/-! ### `handle_auth` -/

inductive BanOutcome
  | clear | banned | dbError

def BanOutcome.of (answers banned : Bool) : BanOutcome :=
  if answers then if banned then .banned else .clear else .dbError

def banDenial : BanOutcome → Option String
  | .clear => none
  | .banned => some "blocked: you are banned from this community"
  | .dbError => some "error: internal error checking restriction state"

inductive MembershipDecision
  | openRelay
  | member
  | viaOwner (owner : PublicKey)
  | denied

def checkRelayMembership (config : Config) (m : AuthMessage) (l : Lookups) :
    Option MembershipDecision :=
  if !config.requireRelayMembership then some .openRelay
  else match l.isRelayMember with
    | none => none
    | some true => some .member
    | some false =>
      match config.allowNipOaAuth, m.owner with
      | true, some owner => l.isOwnerMember.map fun member =>
          if member then .viaOwner owner else .denied
      | _, _ => some .denied

/-- How far a run has come. -/
inductive Stage
  | verifying | checkingBan
  /-- The message proves an owner. -/
  | checkingOwner
  | checkingAllowlist
  | checkingMembership
  | materializing (owner : PublicKey)
  | authenticating (agentOwner : Option PublicKey)
  | registering
  /-- With the `OK` that was sent, if one was. -/
  | ended (reply : Option (Bool × String))

structure AuthRun where
  pod : PodId
  connId : ConnId
  communityId : CommunityId
  message : AuthMessage
  lookups : Lookups
  stage : Stage

def reject (conn : Option Connection) (cancel : Bool) (reason : String) :
    Option Connection × Stage :=
  match conn with
  | some c =>
    if c.auth = .pending then
      (some { c with auth := .failed, cancelled := c.cancelled || cancel },
        .ended (some (false, reason)))
    else (some c, .ended none)
  | none => (none, .ended none)

def afterBanCheck (outcome : BanOutcome) (conn : Option Connection) (next : Stage) :
    Option Connection × Stage :=
  match banDenial outcome with
  | some reason => reject conn true reason
  | none => (conn, next)

/-- The next step of a run, with the bans as they are and the connection if it is still there. -/
def AuthRun.next (config : Config) (banned : PublicKey → Bool) (r : AuthRun)
    (conn : Option Connection) : Option Connection × Stage :=
  match r.stage with
  | .verifying =>
    if r.message.verified then (conn, .checkingBan)
    else reject conn false "auth-required: verification failed"
  | .checkingBan =>
    afterBanCheck (.of r.lookups.banAnswers (banned r.message.pubkey)) conn
      (if r.message.owner.isSome then .checkingOwner else .checkingAllowlist)
  | .checkingOwner =>
    afterBanCheck (.of r.lookups.ownerBanAnswers (r.message.owner.any banned)) conn
      .checkingAllowlist
  | .checkingAllowlist =>
    if config.pubkeyAllowlistEnabled then
      match r.lookups.isPubkeyAllowed with
      | some true => (conn, .checkingMembership)
      | some false => reject conn false "auth-required: verification failed"
      | none => reject conn false "error: internal error checking allowlist"
    else (conn, .checkingMembership)
  | .checkingMembership =>
    let open? := if config.requireRelayMembership then none else r.message.owner
    let withOwner : Option PublicKey → Stage := fun owner =>
      match owner with
      | some owner => .materializing owner
      | none => .authenticating none
    match checkRelayMembership config r.message r.lookups with
    | some .openRelay | some .member => (conn, withOwner open?)
    | some (.viaOwner owner) => (conn, withOwner (some owner))
    | some .denied => reject conn false "restricted: not a relay member"
    | none => reject conn false "error: internal error checking relay membership"
  | .materializing owner =>
    (conn, .authenticating (if r.lookups.materialized then some owner else none))
  | .authenticating agentOwner =>
    match conn with
    | some c =>
      if c.auth = .pending then
        (some { c with auth := .authenticated r.message.pubkey agentOwner r.message.owner },
          .registering)
      else (some c, .ended none)
    | none => (none, .ended none)
  | .registering =>
    (conn.map fun c => { c with authenticatedPubkey := some r.message.pubkey },
      .ended (some (true, "")))
  | .ended reply => (conn, .ended reply)

/-! ### The pods and the database -/

structure BanRow where
  banned : Bool
  banExpiresAt : Option ℤ

structure World where
  config : Config
  /-- The clock of the database. -/
  now : ℤ
  bans : Table (CommunityId × PublicKey) BanRow
  connections : Table (PodId × ConnId) Connection
  runs : List AuthRun
  /-- Bans whose row is written and whose connections are not yet disconnected, with their pods. -/
  unenforced : List (PodId × CommunityId × PublicKey)
  /-- The commands that were published. -/
  commands : List (CommunityId × PublicKey)
  /-- For a pod and a ban that has been in force there ever since a disconnect for it was applied:
  the number of runs that had begun by then. -/
  applied : Table (PodId × CommunityId × PublicKey) ℕ

inductive Move
  | connect (pod : PodId) (id : ConnId) (communityId : CommunityId)
  /-- The connection is cancelled for a reason of its own. -/
  | cancel (pod : PodId) (id : ConnId)
  /-- `expire_auth` -/
  | authTimeout (pod : PodId) (id : ConnId)
  /-- `finish_pending_auth_on_cancel` -/
  | cancelWatcher (pod : PodId) (id : ConnId)
  | close (pod : PodId) (id : ConnId)
  | auth (pod : PodId) (id : ConnId) (message : AuthMessage) (lookups : Lookups)
  | run (i : ℕ)
  /-- A run is dropped when its connection is cancelled. -/
  | abandon (i : ℕ)
  /-- `handle_ban` writes the row, -/
  | ban (pod : PodId) (communityId : CommunityId) (target : PublicKey) (expiresAt : Option ℤ)
  /-- disconnects the pod's own connections and publishes the command. -/
  | enforce (j : ℕ)
  /-- A pod applies a command. -/
  | receive (pod : PodId) (j : ℕ)
  | unban (communityId : CommunityId) (target : PublicKey)
  | tick (seconds : ℕ)

namespace World

def start (config : Config) (now : ℤ) : World := ⟨config, now, ∅, ∅, [], [], [], ∅⟩

variable (w : World)

def banned (c : CommunityId) (k : PublicKey) : Bool :=
  (w.bans.lookup (c, k)).any fun row => row.banned && row.banExpiresAt.all fun time => w.now < time

def updateConnection (key : PodId × ConnId) (f : Connection → Connection) : World :=
  match w.connections.lookup key with
  | some c => { w with connections := w.connections.insert key (f c) }
  | none => w

/-- `disconnect_pubkey` on a pod, with the note that it was applied. -/
def disconnectPubkey (pod : PodId) (c : CommunityId) (k : PublicKey) : World :=
  { w with
    connections := w.connections.mapRows fun key conn =>
      if key.1 = pod ∧ conn.communityId = c ∧ conn.authenticatedPubkey = some k then
        { conn with cancelled := true }
      else conn
    applied := if (w.applied.lookup (pod, c, k)).isSome then w.applied
      else w.applied.insert (pod, c, k) w.runs.length }

def connOf (r : AuthRun) : Option Connection := w.connections.lookup (r.pod, r.connId)

def nextOf (r : AuthRun) : Option Connection × Stage :=
  r.next w.config (w.banned r.communityId) (w.connOf r)

def advance (i : ℕ) (r : AuthRun) : World :=
  { w with
    connections := match (w.nextOf r).1 with
      | some c => w.connections.insert (r.pod, r.connId) c
      | none => w.connections
    runs := w.runs.set i { r with stage := (w.nextOf r).2 } }

def firstStage : ConnAuth → Stage
  | .pending => .verifying
  | .authenticated _ _ _ => .ended (some (false, "auth-required: already authenticated"))
  | .failed => .ended (some (false, "auth-required: authentication already failed"))

def act : Move → World
  | .connect pod id communityId =>
    -- the identifier is a new one
    if (w.connections.lookup (pod, id)).isSome ∨ w.runs.any (fun r => r.pod = pod ∧ r.connId = id)
    then w
    else { w with
      connections := w.connections.insert (pod, id) ⟨communityId, .pending, false, none⟩ }
  | .cancel pod id => w.updateConnection (pod, id) fun c => { c with cancelled := true }
  | .authTimeout pod id => w.updateConnection (pod, id) fun c =>
      match c.auth with
      | .pending | .failed => { c with auth := .failed, cancelled := true }
      | .authenticated _ _ _ => c
  | .cancelWatcher pod id => w.updateConnection (pod, id) fun c =>
      if c.cancelled ∧ c.auth = .pending then { c with auth := .failed } else c
  | .close pod id => { w with connections := w.connections.erase (pod, id) }
  | .auth pod id message lookups =>
    match w.connections.lookup (pod, id) with
    | some c => { w with
        runs := w.runs ++ [⟨pod, id, c.communityId, message, lookups, firstStage c.auth⟩] }
    | none => w
  | .run i =>
    match w.runs[i]? with
    | some r => w.advance i r
    | none => w
  | .abandon i =>
    match w.runs[i]? with
    | some r =>
      if (w.connOf r).all (·.cancelled) then
        { w with runs := w.runs.set i { r with stage := .ended none } }
      else w
    | none => w
  | .ban pod communityId target expiresAt =>
    { w with
      bans := w.bans.insert (communityId, target) ⟨true, expiresAt⟩
      unenforced := w.unenforced ++ [(pod, communityId, target)] }
  | .enforce j =>
    match w.unenforced[j]? with
    | some (pod, c, k) =>
      { w.disconnectPubkey pod c k with
        unenforced := w.unenforced.eraseIdx j, commands := w.commands ++ [(c, k)] }
    | none => w
  | .receive pod j =>
    match w.commands[j]? with
    | some (c, k) => w.disconnectPubkey pod c k
    | none => w
  | .unban communityId target =>
    if w.banned communityId target then
      { w with bans := w.bans.insert (communityId, target) ⟨false, none⟩ }
    else w
  | .tick seconds => { w with now := w.now + seconds }

/-- A ban that is no longer in force has to be applied anew. -/
def forget : World :=
  { w with applied := w.applied.select fun key _ => w.banned key.2.1 key.2.2 }

def step (m : Move) : World := (w.act m).forget

def run (config : Config) (now : ℤ) (moves : List Move) : World :=
  moves.foldl step (start config now)

end World

end Buzz.Relay.Auth
