import Buzz.Db.ChannelMembers

/-!
What the membership calls do.

For each block of the two calls, what it has established when it comes to its end; and from these,
for a call as a whole, the three things it can do: nothing, put one member in force at a role, or
take one member out of force (`exec_cases`).
-/

namespace Buzz.Db

open Buzz.Core Lib Option Tx.Ends
open Git (MemberRole)

/-! ### The tables -/

namespace Store

variable {s : Store} {chan : ChannelKey} {key : MemberKey}

lemma activeRole_upsertMember (role : MemberRole) (invitedBy : Option Bytes) (now : ℕ)
    (key' : MemberKey) : (s.upsertMember key role invitedBy now).activeRole key' =
      if key' = key then some role else s.activeRole key' := by
  rw [activeRole, upsertMember, Table.lookup_insert_if]
  split_ifs
  · cases s.members.lookup key <;> rfl
  · rfl

lemma activeRole_softDelete (removedBy : Bytes) (now : ℕ) (key' : MemberKey) :
    (s.softDelete key removedBy now).activeRole key' =
      if key' = key then none else s.activeRole key' := by
  unfold softDelete
  cases hrow : (s.members.lookup key).filter MemberRow.isActive with
  | none =>
    by_cases h : key' = key
    · subst h
      rw [if_pos rfl, activeRole, hrow]
      rfl
    · rw [if_neg h]
  | some row =>
    rw [activeRole, Table.lookup_insert_if]
    split_ifs <;> rfl

def actorRole (s : Store) (chan : ChannelKey) (actor : Option Bytes) : Option MemberRole :=
  actor.bind fun pubkey => s.activeRole ⟨chan, pubkey⟩

/-- The actor is an active owner or admin of the channel. -/
def Elevated (s : Store) (chan : ChannelKey) (actor : Option Bytes) : Prop :=
  (s.actorRole chan actor).any MemberRole.isElevated

instance Elevated.decidable {actor : Option Bytes} : Decidable (s.Elevated chan actor) :=
  inferInstanceAs (Decidable (_ = true))

lemma exists_other_owner (h : 2 ≤ s.ownerCount chan) (pubkey : Bytes) :
    ∃ other ≠ pubkey, s.activeRole ⟨chan, other⟩ = some .owner := by
  obtain ⟨⟨key, row⟩, hmem, hrow, hne⟩ := Table.exists_key_ne_of_two_le_countP h ⟨chan, pubkey⟩
  obtain ⟨rfl, hown, hact⟩ : key.channel = chan ∧ row.role = .owner ∧ row.isActive := by
    simpa using hrow
  refine ⟨key.pubkey, ?_, ?_⟩
  · rintro rfl
    exact hne rfl
  have hget : s.members.lookup key = some row := AList.mem_lookup_iff.mpr hmem
  change ((s.members.lookup key).filter MemberRow.isActive).map MemberRow.role = some .owner
  rw [hget, filter_some_pos hact, map_some, hown]

end Store

/-! ### The statements -/

section Blocks

variable {s : Store} {chan : ChannelKey} {faults : Faults} {st : Statement}

@[simp] lemma ends_await : (await faults st).Ends s u t ↔ faults st = false ∧ s = t := by
  simp [await]

@[simp] lemma ends_fetch {α : Type} {f : Store → α} {a : α} :
    (fetch faults st f).Ends s a t ↔ faults st = false ∧ f s = a ∧ s = t := by
  simp only [fetch, ends_bind, ends_await, ends_query]
  constructor
  · rintro ⟨_, _, ⟨hst, rfl⟩, ha⟩
    exact ⟨hst, ha⟩
  · rintro ⟨hst, ha⟩
    exact ⟨(), s, ⟨hst, rfl⟩, ha⟩

@[simp] lemma ends_execute : (execute faults st f).Ends s u t ↔ faults st = false ∧ f s = t := by
  simp only [execute, ends_bind, ends_await, ends_update]
  constructor
  · rintro ⟨_, _, ⟨hst, rfl⟩, ha⟩
    exact ⟨hst, ha⟩
  · rintro ⟨hst, ha⟩
    exact ⟨(), s, ⟨hst, rfl⟩, ha⟩

variable {invitedBy : Option Bytes}

@[simp] lemma ends_invitedByRole {stored : Option String} :
    (invitedByRole faults st chan invitedBy).Ends s stored t ↔
      (invitedBy.isSome → faults st = false) ∧
        (s.actorRole chan invitedBy).map MemberRole.asStr = stored ∧ s = t := by
  cases invitedBy with
  | none => simp [invitedByRole, Store.actorRole]
  | some inviter => simp [invitedByRole, Store.actorRole, getActiveRoleTx]

/-! ### The blocks of `add_member` -/

/-- The creator of a private channel adds themselves: the case that asks for no role at all. -/
def Bootstrap (channel : ChannelRow) (pubkey : Bytes) (invitedBy : Option Bytes) : Prop :=
  channel.visibility = .privateChannel ∧ invitedBy = some pubkey ∧ pubkey = channel.createdBy

variable {channel : ChannelRow} {pubkey : Bytes} {role granted : Git.MemberRole}

/-- The role granted is the role asked for; an elevated one takes an elevated granter, or the
bootstrap. -/
lemma effectiveRole_ends
    (h : (effectiveRole faults chan channel pubkey role invitedBy).Ends s granted t) :
    role = granted ∧ s = t ∧
      (role.isElevated → s.Elevated chan invitedBy ∨ Bootstrap channel pubkey invitedBy) := by
  unfold effectiveRole at h
  split_ifs at h with hpriv helev
  · rw [ends_bind] at h
    obtain ⟨inviter, _, hinviter, h⟩ := h
    obtain ⟨hinvited, rfl⟩ := ends_check.mp hinviter
    rw [okOr_eq_ok] at hinvited
    subst hinvited
    split_ifs at h with hboot
    · obtain ⟨rfl, rfl⟩ := ends_pure.mp h
      obtain ⟨rfl, hcre⟩ := hboot
      refine ⟨rfl, rfl, fun _ => .inr ⟨?_, rfl, hcre⟩⟩
      cases hv : channel.visibility with
      | privateChannel => rfl
      | openChannel => rw [hv] at hpriv; simp [ChannelVisibility.asStr] at hpriv
    simp only [ends_bind, getActiveRoleTx, ends_fetch, ends_check, okOr_eq_ok, refuseIf_eq_ok,
      ends_pure] at h
    obtain ⟨_, _, ⟨-, rfl, rfl⟩, _, _, ⟨hsto, rfl⟩, parsed, _, ⟨hparsed, rfl⟩, _, _,
      ⟨hok, rfl⟩, rfl, rfl⟩ := h
    obtain ⟨found, hfnd, rfl⟩ := map_eq_some_iff.mp hsto
    rw [MemberRole.fromStr_asStr, some.injEq] at hparsed
    subst hparsed
    refine ⟨rfl, rfl, fun helev => .inl ?_⟩
    simpa [Store.Elevated, Store.actorRole, hfnd, helev] using hok
  · simp only [ends_bind, ends_check, refuseIf_eq_ok, ends_pure, ends_invitedByRole] at h
    obtain ⟨_, _, ⟨-, rfl, rfl⟩, _, _, ⟨hok, rfl⟩, rfl, rfl⟩ := h
    refine ⟨rfl, rfl, fun _ => .inl ?_⟩
    unfold Store.Elevated
    cases hfnd : s.actorRole chan invitedBy with
    | none => simp [hfnd] at hok
    | some found =>
      rw [hfnd] at hok
      cases found with
      | owner | admin => rfl
      | member | guest | bot => simp [MemberRole.asStr] at hok
  · obtain ⟨rfl, rfl⟩ := ends_pure.mp h
    exact ⟨rfl, rfl, fun h => absurd h helev⟩

/-- An active member changes role only by an elevated actor, and an owner only if there is another
one. -/
lemma guardRoleChange_ends (h : (guardRoleChange faults chan pubkey granted invitedBy).Ends s u t) :
    s = t ∧ faults .currentRole = false ∧
      ∀ current, s.activeRole ⟨chan, pubkey⟩ = some current → current ≠ granted →
        s.Elevated chan invitedBy ∧ (current = .owner → 2 ≤ s.ownerCount chan) := by
  simp only [guardRoleChange, ends_bind, getActiveRoleTx, ends_fetch] at h
  obtain ⟨_, _, ⟨hst, rfl, rfl⟩, h⟩ := h
  cases hcur : s.activeRole ⟨chan, pubkey⟩ with
  | none =>
    rw [hcur] at h
    obtain ⟨-, rfl⟩ := ends_pure.mp h
    exact ⟨rfl, hst, by simp⟩
  | some current =>
    rw [hcur, map_some] at h
    by_cases hsame : current = granted
    · subst hsame
      rw [filter_some_neg (by simp)] at h
      obtain ⟨-, rfl⟩ := ends_pure.mp h
      refine ⟨rfl, hst, ?_⟩
      rintro _ ⟨⟩ hne
      exact absurd rfl hne
    have hstr : current.asStr ≠ granted.asStr := fun h => hsame (MemberRole.asStr_injective h)
    rw [filter_some_pos (by simpa using hstr)] at h
    simp only [ends_bind, ends_check, refuseIf_eq_ok, ends_invitedByRole] at h
    obtain ⟨_, _, ⟨-, rfl, rfl⟩, _, _, ⟨hok, rfl⟩, h⟩ := h
    have helev : s.Elevated chan invitedBy := by
      rw [not_not, bind_map] at hok
      simpa [Store.Elevated, Function.comp_def] using hok
    have hends : s = t ∧ (current = .owner → 2 ≤ s.ownerCount chan) := by
      split_ifs at h with hown
      · simp only [ends_bind, ends_fetch, ends_check, refuseIf_eq_ok] at h
        obtain ⟨_, _, ⟨-, rfl, rfl⟩, hcnt, rfl⟩ := h
        exact ⟨rfl, fun _ => by omega⟩
      obtain ⟨-, rfl⟩ := ends_pure.mp h
      refine ⟨rfl, ?_⟩
      rintro rfl
      exact absurd ⟨rfl, fun h => hsame h.symm⟩ hown
    obtain ⟨rfl, hown⟩ := hends
    refine ⟨rfl, hst, ?_⟩
    rintro _ ⟨⟩ -
    exact ⟨helev, hown⟩

def addStatements : List Statement :=
  [.acquireWriter, .begin, .lock, .getChannel, .currentRole, .upsert, .fetchRecord, .commit]

/-- What an addition that went through has established. -/
structure AddMemberOk (faults : Faults) (s : Store) (chan : ChannelKey) (pubkey : Bytes)
    (role : MemberRole) (invitedBy : Option Bytes) : Prop where
  length : pubkey.length = 32
  answered : ∀ st ∈ addStatements, faults st = false
  grant : ∃ channel, s.channels.lookup chan = some channel ∧ channel.deletedAt = none ∧
    (role.isElevated → s.Elevated chan invitedBy ∨ Bootstrap channel pubkey invitedBy)
  change : ∀ current, s.activeRole ⟨chan, pubkey⟩ = some current → current ≠ role →
    s.Elevated chan invitedBy ∧ (current = .owner → 2 ≤ s.ownerCount chan)

lemma addMember_ends {now : ℕ} {record : MemberRecord}
    (h : (addMember faults chan pubkey role invitedBy now).Ends s record t) :
    AddMemberOk faults s chan pubkey role invitedBy ∧
      s.upsertMember ⟨chan, pubkey⟩ role invitedBy now = t := by
  simp only [addMember, getChannelTx, ends_bind, ends_check, ends_await, ends_fetch, ends_execute,
    okOr_eq_ok, refuseIf_eq_ok, ends_pure] at h
  obtain ⟨_, _, ⟨hlen, rfl⟩, _, _, ⟨hwriter, rfl⟩, _, _, ⟨hbegin, rfl⟩, _, _, ⟨hlock, rfl⟩,
    channel, _, ⟨_, _, ⟨hget, rfl, rfl⟩, hchan, rfl⟩, granted, _, hgr, _, _, hguard,
    _, _, ⟨hupsert, rfl⟩, _, _, ⟨hfetch, rfl, rfl⟩, _, _, ⟨-, rfl⟩, _, _, ⟨hcommit, rfl⟩, -, rfl⟩ := h
  obtain ⟨rfl, rfl, hgrant⟩ := effectiveRole_ends hgr
  obtain ⟨rfl, hcur, hchange⟩ := guardRoleChange_ends hguard
  obtain ⟨hrow, hlive⟩ := filter_eq_some_iff.mp hchan
  refine ⟨⟨not_not.mp hlen, ?_, ⟨channel, hrow, by simpa using hlive, hgrant⟩, hchange⟩, rfl⟩
  simp [addStatements, *]

lemma effectiveRole_bootstrap (hboot : Bootstrap channel pubkey invitedBy) :
    (effectiveRole faults chan channel pubkey role invitedBy).Ends s role s := by
  obtain ⟨hpriv, rfl, hcre⟩ := hboot
  have hstr : channel.visibility.asStr = "private" := by rw [hpriv]; rfl
  unfold effectiveRole
  rw [if_pos hstr]
  refine bind (ends_check.mpr ⟨rfl, rfl⟩) ?_
  rw [if_pos ⟨rfl, hcre⟩]
  exact ends_pure.mpr ⟨rfl, rfl⟩

lemma addMember_bootstrap (role : MemberRole) (now : ℕ) (hlen : pubkey.length = 32)
    (hans : ∀ st ∈ addStatements, faults st = false)
    (hchan : s.channels.lookup chan = some channel) (hlive : channel.deletedAt = none)
    (hboot : Bootstrap channel pubkey invitedBy) (hnone : s.activeRole ⟨chan, pubkey⟩ = none) :
    ∃ record, (addMember faults chan pubkey role invitedBy now).Ends s record
      (s.upsertMember ⟨chan, pubkey⟩ role invitedBy now) := by
  have hawait : ∀ st ∈ addStatements, ∀ s, (await faults st).Ends s () s :=
    fun st hst s => ends_await.mpr ⟨hans st hst, rfl⟩
  have hget : (getChannelTx faults chan).Ends s channel s := by
    refine bind (ends_fetch.mpr ⟨hans _ (by decide), rfl, rfl⟩) ?_
    rw [hchan, filter_some_pos (by simpa using hlive)]
    exact ends_check.mpr ⟨rfl, rfl⟩
  obtain ⟨row, hrow⟩ : ∃ row, (s.upsertMember ⟨chan, pubkey⟩ role invitedBy now).members.lookup
      ⟨chan, pubkey⟩ = some row := ⟨_, AList.lookup_insert _⟩
  refine ⟨rowToMemberRecord ⟨chan, pubkey⟩ row, ?_⟩
  refine bind (a := ()) (ends_check.mpr ⟨refuseIf_eq_ok.mpr (not_not.mpr hlen), rfl⟩) ?_
  refine bind (hawait .acquireWriter (by decide) s) ?_
  refine bind (hawait .begin (by decide) s) ?_
  refine bind (hawait .lock (by decide) s) ?_
  refine bind hget ?_
  refine bind (effectiveRole_bootstrap hboot) ?_
  refine bind (u := s) (a := ()) (bind (ends_fetch.mpr ⟨hans _ (by decide), rfl, rfl⟩) ?_) ?_
  · rw [hnone]
    exact ends_pure.mpr ⟨rfl, rfl⟩
  refine bind (a := ()) (ends_execute.mpr ⟨hans _ (by decide), rfl⟩) ?_
  refine bind (ends_fetch.mpr ⟨hans _ (by decide), hrow, rfl⟩) ?_
  refine bind (ends_check.mpr ⟨rfl, rfl⟩) ?_
  refine bind (hawait .commit (by decide) _) ?_
  exact ends_pure.mpr ⟨rfl, rfl⟩

/-! ### The blocks of `remove_member` -/

variable {actor : Bytes}

lemma actorIsAgentOwner_ends {isOwner : Bool}
    (h : (actorIsAgentOwner faults chan pubkey actor).Ends s isOwner t) : s = t := by
  unfold actorIsAgentOwner at h
  split_ifs at h
  · exact (ends_pure.mp h).2
  · exact (ends_fetch.mp h).2.2

lemma guardActor_ends {isOwner : Bool}
    (h : (guardActor faults chan pubkey actor isOwner).Ends s u t) : s = t := by
  unfold guardActor at h
  split_ifs at h
  · exact (ends_pure.mp h).2
  simp only [getActiveRoleTx, ends_bind, ends_fetch, ends_check] at h
  obtain ⟨_, _, ⟨-, -, rfl⟩, _, _, ⟨-, rfl⟩, _, _, ⟨-, rfl⟩, -, rfl⟩ := h
  rfl

lemma guardLastOwner_ends (h : (guardLastOwner faults chan pubkey).Ends s u t) :
    s = t ∧ (s.activeRole ⟨chan, pubkey⟩ = some .owner → 2 ≤ s.ownerCount chan) := by
  simp only [guardLastOwner, getActiveRoleTx, ends_bind, ends_fetch] at h
  obtain ⟨_, _, ⟨-, rfl, rfl⟩, h⟩ := h
  split_ifs at h with hown
  · simp only [ends_bind, ends_fetch, ends_check, refuseIf_eq_ok] at h
    obtain ⟨_, _, ⟨-, rfl, rfl⟩, hcnt, rfl⟩ := h
    exact ⟨rfl, fun _ => by omega⟩
  obtain ⟨-, rfl⟩ := ends_pure.mp h
  refine ⟨rfl, fun hrole => absurd ?_ hown⟩
  rw [hrole]
  rfl

lemma removeMember_ends {now : ℕ} (h : (removeMember faults chan pubkey actor now).Ends s u t) :
    (s.activeRole ⟨chan, pubkey⟩ = some .owner → 2 ≤ s.ownerCount chan) ∧
      s.softDelete ⟨chan, pubkey⟩ actor now = t := by
  simp only [removeMember, ends_bind, ends_await, ends_fetch, ends_check, ends_update] at h
  obtain ⟨_, _, hagent, _, _, ⟨-, rfl⟩, _, _, ⟨-, rfl⟩, _, _, ⟨-, rfl⟩, _, _, hact, _, _, hlast,
    _, _, ⟨-, -, rfl⟩, _, _, rfl, _, _, ⟨-, rfl⟩, -, rfl⟩ := h
  obtain rfl := actorIsAgentOwner_ends hagent
  obtain rfl := guardActor_ends hact
  obtain ⟨rfl, hown⟩ := guardLastOwner_ends hlast
  exact ⟨hown, rfl⟩

end Blocks

/-! ### What a call does -/

/-- The outcomes of a call: an error and nothing done, one member put in force at a role, or one
member taken out of force. -/
inductive Effect (s : Store) : Call → Option DbError × Store → Prop
  | failed (call : Call) (e : DbError) : Effect s call (some e, s)
  | added (faults : Faults) (chan : ChannelKey) (pubkey : Bytes) (role : MemberRole)
      (invitedBy : Option Bytes) (now : ℕ) (ok : AddMemberOk faults s chan pubkey role invitedBy) :
      Effect s (.add faults chan pubkey role invitedBy now)
        (none, s.upsertMember ⟨chan, pubkey⟩ role invitedBy now)
  | removed (faults : Faults) (chan : ChannelKey) (pubkey actor : Bytes) (now : ℕ)
      (ok : s.activeRole ⟨chan, pubkey⟩ = some .owner → 2 ≤ s.ownerCount chan) :
      Effect s (.remove faults chan pubkey actor now)
        (none, s.softDelete ⟨chan, pubkey⟩ actor now)

theorem exec_effect (s : Store) (call : Call) : Effect s call (call.exec s) := by
  cases call with
  | add faults chan pubkey role invitedBy now =>
    rw [Call.exec]
    rcases transact_cases (addMember faults chan pubkey role invitedBy now) s with
      ⟨record, t, hends, hrun⟩ | ⟨e, hrun⟩
    · obtain ⟨hok, rfl⟩ := addMember_ends hends
      rw [hrun]
      exact .added faults chan pubkey role invitedBy now hok
    · rw [hrun]
      exact .failed _ e
  | remove faults chan pubkey actor now =>
    rw [Call.exec]
    rcases transact_cases (removeMember faults chan pubkey actor now) s with
      ⟨u, t, hends, hrun⟩ | ⟨e, hrun⟩
    · obtain ⟨hok, rfl⟩ := removeMember_ends hends
      rw [hrun]
      exact .removed faults chan pubkey actor now hok
    · rw [hrun]
      exact .failed _ e

end Buzz.Db
