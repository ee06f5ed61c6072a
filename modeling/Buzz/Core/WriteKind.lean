import Buzz.Core.Kind

/-!
Event kinds by the way they are written.

The kinds a client may submit, the groups the write path routes on, and the scope a token needs for
each.
-/

namespace Buzz.Core

/-! ### Notes, lists and other state a user owns -/

def kindProfile : ℕ := 0
def kindTextNote : ℕ := 1
def kindContactList : ℕ := 3
def kindMuteList : ℕ := 10000
def kindPinList : ℕ := 10001
def kindNip65RelayListMetadata : ℕ := 10002
def kindBookmarkList : ℕ := 10003
def kindEmojiList : ℕ := 10030
def kindAgentProfile : ℕ := 10100
def kindFollowSet : ℕ := 30000
def kindBookmarkSet : ℕ := 30003
def kindLongForm : ℕ := 30023
def kindEmojiSet : ℕ := 30030
def kindReadState : ℕ := 30078
def kindAgentEngram : ℕ := 30174
def kindTeam : ℕ := 30176
def kindManagedAgent : ℕ := 30177
def kindUserStatus : ℕ := 30315

/-! ### Messages -/

def kindDeletion : ℕ := 5
def kindReaction : ℕ := 7
def kindStreamMessage : ℕ := 9
def kindGiftWrap : ℕ := 1059
def kindStreamMessageV2 : ℕ := 40002
def kindStreamMessageEdit : ℕ := 40003
def kindStreamMessagePinned : ℕ := 40004
def kindStreamMessageBookmarked : ℕ := 40005
def kindStreamMessageScheduled : ℕ := 40006
def kindStreamReminder : ℕ := 40007
def kindStreamMessageDiff : ℕ := 40008
def kindCanvas : ℕ := 40100
def kindForumPost : ℕ := 45001
def kindForumVote : ℕ := 45002
def kindForumComment : ℕ := 45003

/-! ### Groups, members and huddles -/

def kindNip29PutUser : ℕ := 9000
def kindNip29RemoveUser : ℕ := 9001
def kindNip29EditMetadata : ℕ := 9002
def kindNip29DeleteEvent : ℕ := 9005
def kindNip29CreateGroup : ℕ := 9007
def kindNip29DeleteGroup : ℕ := 9008
def kindNip29JoinRequest : ℕ := 9021
def kindNip29LeaveRequest : ℕ := 9022
def kindIaArchiveRequest : ℕ := 9035
def kindIaUnarchiveRequest : ℕ := 9036
def kindNip43LeaveRequest : ℕ := 28936
def kindHuddleStarted : ℕ := 48100
def kindHuddleParticipantJoined : ℕ := 48101
def kindHuddleParticipantLeft : ℕ := 48102
def kindHuddleEnded : ℕ := 48103
def kindHuddleGuidelines : ℕ := 48106

/-! ### Repositories -/

def kindGitPatch : ℕ := 1617
def kindGitPullRequest : ℕ := 1618
def kindGitPrUpdate : ℕ := 1619
def kindGitIssue : ℕ := 1621
def kindGitStatusOpen : ℕ := 1630
def kindGitStatusMerged : ℕ := 1631
def kindGitStatusClosed : ℕ := 1632
def kindGitStatusDraft : ℕ := 1633
def kindGitRepoAnnouncement : ℕ := 30617
def kindGitRepoState : ℕ := 30618
def kindProject : ℕ := 30621

/-! ### Reports and moderation -/

def kindReport : ℕ := 1984
def kindProductFeedback : ℕ := 42000
def kindModerationBan : ℕ := 9040
def kindModerationUnban : ℕ := 9041
def kindModerationTimeout : ℕ := 9042
def kindModerationUntimeout : ℕ := 9043
def kindModerationResolveReport : ℕ := 9044

def relayAdminAddMember : ℕ := 9030
def relayAdminRemoveMember : ℕ := 9031
def relayAdminChangeRole : ℕ := 9032
def relayAdminSetWorkspaceProfile : ℕ := 9033

/-! ### Commands -/

def kindWorkflowDef : ℕ := 30620
def kindDmOpen : ℕ := 41010
def kindDmAddMember : ℕ := 41011
def kindDmHide : ℕ := 41012
def kindWorkflowTrigger : ℕ := 46020
def kindApprovalGrant : ℕ := 46030
def kindApprovalDeny : ℕ := 46031

/-! ### Kinds the relay signs, and connection kinds -/

def kindNip43MembershipList : ℕ := 13534
def kindPresenceUpdate : ℕ := 20001
def kindAuth : ℕ := 22242
def kindAgentObserverFrame : ℕ := 24200
def kindThreadSummary : ℕ := 39005
def kindWindowBounds : ℕ := 39006
def kindChannelSummary : ℕ := 40901
def kindPresenceSnapshot : ℕ := 40902
def kindMemberAddedNotification : ℕ := 44100
def kindMemberRemovedNotification : ℕ := 44101

def ephemeralKindMin : ℕ := 20000
def ephemeralKindMax : ℕ := 29999

/-! ### Groups of kinds -/

variable (kind : ℕ)

def isModerationCommandKind : Bool :=
  [kindModerationBan, kindModerationUnban, kindModerationTimeout, kindModerationUntimeout,
    kindModerationResolveReport].contains kind

def isRelayAdminKind : Bool :=
  [relayAdminAddMember, relayAdminRemoveMember, relayAdminChangeRole,
    relayAdminSetWorkspaceProfile].contains kind

/-- The kinds executed as commands: direct messages, workflows and approvals. -/
def isCommandKind : Bool :=
  [kindWorkflowDef, kindDmOpen, kindDmAddMember, kindDmHide, kindWorkflowTrigger, kindApprovalGrant,
    kindApprovalDeny].contains kind

/-- The kinds only the relay may author. -/
def isRelayOnlyKind : Bool :=
  [kindNip43MembershipList, kindChannelSummary, kindPresenceSnapshot, kindDmVisibility,
    kindThreadSummary, kindWindowBounds].contains kind

def isEphemeral : Bool := ephemeralKindMin ≤ kind && kind ≤ ephemeralKindMax

/-! ### Scopes -/

inductive Scope
  | messagesRead
  | messagesWrite
  | channelsRead
  | channelsWrite
  | adminChannels
  | usersRead
  | usersWrite
  | adminUsers
  | jobsRead
  | jobsWrite
  | subscriptionsRead
  | subscriptionsWrite
  | filesRead
  | filesWrite
  | reposRead
  | reposWrite
  | unknown (s : String)
deriving DecidableEq

def Scope.asStr : Scope → String
  | .messagesRead => "messages:read"
  | .messagesWrite => "messages:write"
  | .channelsRead => "channels:read"
  | .channelsWrite => "channels:write"
  | .adminChannels => "admin:channels"
  | .usersRead => "users:read"
  | .usersWrite => "users:write"
  | .adminUsers => "admin:users"
  | .jobsRead => "jobs:read"
  | .jobsWrite => "jobs:write"
  | .subscriptionsRead => "subscriptions:read"
  | .subscriptionsWrite => "subscriptions:write"
  | .filesRead => "files:read"
  | .filesWrite => "files:write"
  | .reposRead => "repos:read"
  | .reposWrite => "repos:write"
  | .unknown s => s

/-- The scope a token needs to submit an event of this kind; kinds not listed are refused. -/
def requiredScopeForKind (e : Event) : Except String Scope :=
  if kind = kindProfile then .ok .usersWrite
  else if kind ∈ [kindTextNote, kindLongForm] then .ok .messagesWrite
  else if kind ∈ [kindContactList, kindReadState, kindUserStatus, kindAgentEngram,
      kindEventReminder, kindPersona, kindTeam, kindManagedAgent, kindPrivateManagedAgent,
      kindTeamCatalog, kindPushLease] then .ok .usersWrite
  else if kind = kindAgentTurnMetric then .ok .messagesWrite
  else if kind ∈ [kindReport, kindProductFeedback] then .ok .messagesWrite
  else if isModerationCommandKind kind then .ok .messagesWrite
  else if kind ∈ [kindMuteList, kindPinList, kindNip65RelayListMetadata, kindBookmarkList,
      kindFollowSet, kindBookmarkSet, kindEmojiSet, kindEmojiList, kindAgentProfile] then
    .ok .usersWrite
  else if kind ∈ [kindDeletion, kindReaction, kindGiftWrap, kindStreamMessage, kindStreamMessageV2,
      kindNip29DeleteEvent, kindStreamMessageEdit, kindStreamMessagePinned,
      kindStreamMessageBookmarked, kindStreamMessageScheduled, kindStreamReminder,
      kindStreamMessageDiff, kindForumPost, kindForumVote, kindForumComment] then
    .ok .messagesWrite
  else if kind ∈ [kindNip29PutUser, kindNip29RemoveUser, kindNip29DeleteGroup] then
    .ok .adminChannels
  else if isRelayAdminKind kind then .ok .adminUsers
  else if kind ∈ [kindIaArchiveRequest, kindIaUnarchiveRequest] then .ok .usersWrite
  else if kind = kindNip29EditMetadata then
    if e.tags.any fun t => t.kind = "archived" then .ok .adminChannels else .ok .channelsWrite
  else if kind ∈ [kindNip29CreateGroup, kindCanvas] then .ok .channelsWrite
  else if kind ∈ [kindNip29JoinRequest, kindNip29LeaveRequest, kindNip43LeaveRequest] then
    .ok .channelsRead
  else if kind ∈ [kindHuddleStarted, kindHuddleParticipantJoined, kindHuddleParticipantLeft,
      kindHuddleEnded, kindHuddleGuidelines] then .ok .channelsWrite
  else if kind ∈ [kindGitRepoAnnouncement, kindGitRepoState] then .ok .reposWrite
  else if kind = kindProject then .ok .reposWrite
  else if kind ∈ [kindGitPatch, kindGitPullRequest, kindGitPrUpdate, kindGitIssue,
      kindGitStatusOpen, kindGitStatusMerged, kindGitStatusClosed, kindGitStatusDraft] then
    .ok .messagesWrite
  else if kind ∈ [kindDmOpen, kindDmAddMember, kindDmHide] then .ok .messagesWrite
  else if kind ∈ [kindWorkflowDef, kindWorkflowTrigger] then .ok .messagesWrite
  else if kind ∈ [kindApprovalGrant, kindApprovalDeny] then .ok .messagesWrite
  else .error "restricted: unknown event kind"

end Buzz.Core
