import Buzz.Db.MembershipSpec
import Buzz.Lib.Run

/-!
Who governs a channel.

The calls keep two promises about the owners and admins of a channel.  The last owner stays, by the
counts both calls make before they take an owner out of force.  And rank is conferred by rank: an
owner or admin comes into being, and an active member's role changes, by a call of an active owner
or admin.  The second promise has a gap.  The creator of a private channel may add themselves
without being asked for a role, and what they once were is not looked at: a creator who was removed
comes back as whatever they ask for.
-/

namespace Buzz.Db

open Buzz.Core Lib Store Option
open Git (MemberRole)

variable {s : Store} {chan : ChannelKey}

/-! ### The last owner -/

def Store.HasOwner (s : Store) (chan : ChannelKey) : Prop :=
  ∃ pubkey, s.activeRole ⟨chan, pubkey⟩ = some .owner

/-- An owner stays in a channel that one member of some channel is taken out of, or given another
role in, if it is not the last owner. -/
lemma hasOwner_of_update {t : Store}
    (hupd : ∀ key', t.activeRole key' = if key' = key then granted else s.activeRole key')
    (hlast : s.activeRole key = some .owner → granted ≠ some .owner → 2 ≤ s.ownerCount key.channel)
    (h : s.HasOwner chan) : t.HasOwner chan := by
  obtain ⟨owner, hown⟩ := h
  by_cases hkey : (⟨chan, owner⟩ : MemberKey) = key
  · subst hkey
    by_cases hgr : granted = some .owner
    · refine ⟨owner, ?_⟩
      rw [hupd, if_pos rfl, hgr]
    obtain ⟨other, hne, hoth⟩ := exists_other_owner (hlast hown hgr) owner
    refine ⟨other, ?_⟩
    rw [hupd, if_neg, hoth]
    rintro ⟨⟩
    exact hne rfl
  · refine ⟨owner, ?_⟩
    rw [hupd, if_neg hkey, hown]

lemma hasOwner_step (h : s.HasOwner chan) (call : Call) : (s.step call).HasOwner chan := by
  have heff := exec_effect s call
  unfold step
  generalize call.exec s = result at heff ⊢
  cases heff with
  | failed e => exact h
  | added faults chan' pubkey role invitedBy now ok =>
    refine hasOwner_of_update (activeRole_upsertMember role invitedBy now) ?_ h
    intro hown hne
    refine (ok.change .owner hown ?_).2 rfl
    rintro rfl
    exact hne rfl
  | removed faults chan' pubkey actor now ok =>
    exact hasOwner_of_update (activeRole_softDelete actor now) (fun hown _ => ok hown) h

/-! ### The handlers' check -/

/-- The test of the relay's handlers, on the active members of a channel. -/
def isSoleOwner (members : List MemberRecord) (pubkey : Bytes) : Bool :=
  match members.filter fun m => m.role = "owner" with
  | [] => false
  | first :: rest => first.pubkey = pubkey ∧ rest = []

variable {channel : ChannelRow} {pubkey : Bytes} {call : Call}

section

variable (hchannel : s.channels.lookup chan = some channel)

include hchannel

variable (hlive : channel.deletedAt = none)

include hlive

lemma countP_getMembers :
    (s.getMembers chan).countP (fun m => m.role = "owner") = s.ownerCount chan := by
  have hsame : ∀ row : MemberRow, row.role.asStr = "owner" ↔ row.role = .owner := by
    intro row
    exact ⟨fun h => MemberRole.asStr_injective h, fun h => by rw [h]; rfl⟩
  unfold getMembers ownerCount
  rw [hchannel, filter_some_pos (by simpa using hlive)]
  simp only [List.countP_map, (List.mergeSort_perm _ _).countP_eq, List.countP_filter]
  refine List.countP_congr ?_
  intro e _
  simp only [Function.comp, rowToMemberRecord, hsame, decide_eq_true_eq, Bool.and_eq_true]
  tauto

lemma mem_getMembers (hrole : s.activeRole ⟨chan, pubkey⟩ = some role) :
    ∃ m ∈ s.getMembers chan, m.pubkey = pubkey ∧ m.role = role.asStr := by
  obtain ⟨row, hrow, rfl⟩ := map_eq_some_iff.mp hrole
  obtain ⟨hget, hact⟩ := filter_eq_some_iff.mp hrow
  refine ⟨rowToMemberRecord ⟨chan, pubkey⟩ row, ?_, rfl, rfl⟩
  unfold getMembers
  rw [hchannel, filter_some_pos (by simpa using hlive)]
  refine List.mem_map.mpr ⟨⟨⟨chan, pubkey⟩, row⟩, ?_, rfl⟩
  rw [List.mem_mergeSort, List.mem_filter]
  exact ⟨AList.mem_lookup_iff.mp hget, by simpa using hact⟩

/-- The handlers refuse the departure of an owner where the database does. -/
theorem isSoleOwner_getMembers (hown : s.activeRole ⟨chan, pubkey⟩ = some .owner) :
    isSoleOwner (s.getMembers chan) pubkey = true ↔ s.ownerCount chan ≤ 1 := by
  rw [← countP_getMembers hchannel hlive, List.countP_eq_length_filter]
  have hmem : ∃ m ∈ (s.getMembers chan).filter (fun m => m.role = "owner"), m.pubkey = pubkey := by
    obtain ⟨m, hm, hpk, hrole⟩ := mem_getMembers hchannel hlive hown
    exact ⟨m, List.mem_filter.mpr ⟨hm, decide_eq_true hrole⟩, hpk⟩
  unfold isSoleOwner
  obtain ⟨m, hm, rfl⟩ := hmem
  cases howners : (s.getMembers chan).filter fun m => m.role = "owner" with
  | nil => rw [howners] at hm; cases hm
  | cons first rest =>
    rw [howners] at hm
    cases rest with
    | nil =>
      obtain rfl := List.mem_singleton.mp hm
      simp
    | cons second rest => simp

end

/-! ### Calls and runs -/

/-- **The last owner stays.** A channel with an active owner has one after every sequence of calls,
and a call that returns an error leaves the tables as they were. -/
theorem owner_remains (s : Store) (chan : ChannelKey) (h : s.HasOwner chan) (calls : List Call) :
    (s.run calls).HasOwner chan ∧
      ∀ (call : Call) e, (call.exec (s.run calls)).1 = some e →
        (call.exec (s.run calls)).2 = s.run calls := by
  constructor
  · induction calls generalizing s with
    | nil => exact h
    | cons call calls ih => exact ih (s.step call) (hasOwner_step h call)
  intro call e herror
  have heffect := exec_effect (s.run calls) call
  generalize call.exec (s.run calls) = result at heffect herror ⊢
  cases heffect with
  | failed e => rfl
  | added => cases herror
  | removed => cases herror

def twoOwners (founder partner : Bytes) (chan : ChannelKey) : Store where
  channels := AList.singleton chan ⟨.privateChannel, founder, none⟩
  members := (AList.singleton ⟨chan, founder⟩ ⟨.owner, 0, some founder, none, none⟩).insert
    ⟨chan, partner⟩ ⟨.owner, 1, some founder, none, none⟩
  agentOwners := ∅

def founder : Bytes := List.replicate 32 1

def partner : Bytes := List.replicate 32 2

def board : ChannelKey := (⟨⟨1⟩⟩, ⟨2⟩)

theorem isSoleOwner_twoOwners :
    isSoleOwner ((twoOwners founder partner board).getMembers board) founder = true ↔
      (twoOwners founder partner board).ownerCount board ≤ 1 :=
  isSoleOwner_getMembers rfl rfl (by decide +kernel)

def partnerLeaves : List Call :=
  [.remove (fun _ => false) board founder partner 2, .remove (fun _ => false) board partner partner 3]

theorem owner_remains_twoOwners :
    (twoOwners founder partner board).HasOwner board ∧
      ((twoOwners founder partner board).run partnerLeaves).HasOwner board :=
  have h : (twoOwners founder partner board).HasOwner board := ⟨founder, by decide +kernel⟩
  ⟨h, (owner_remains _ board h partnerLeaves).1⟩

/-! ### Rank is conferred by rank -/

/-- In the call no pubkey becomes an owner or admin of the channel and no active member's role
changes, unless the actor was an active owner or admin just before. -/
structure Earned (chan : ChannelKey) (s : Store) (call : Call) : Prop where
  becomes : ∀ pubkey, ¬ s.Elevated chan (some pubkey) → (s.step call).Elevated chan (some pubkey) →
    s.Elevated chan call.actor
  changes : ∀ pubkey role role', s.activeRole ⟨chan, pubkey⟩ = some role →
    (s.step call).activeRole ⟨chan, pubkey⟩ = some role' → role ≠ role' →
      s.Elevated chan call.actor

/-- The creator of the private channel, with no role in force, adds themselves at an elevated role
and nothing else is in the way. -/
def Call.SelfMade (chan : ChannelKey) (s : Store) : Call → Prop
  | add faults chan' pubkey role invitedBy _ =>
    chan' = chan ∧ role.isElevated ∧ s.activeRole ⟨chan, pubkey⟩ = none ∧
      (∃ channel, s.channels.lookup chan = some channel ∧ channel.deletedAt = none ∧
        Bootstrap channel pubkey invitedBy) ∧
      pubkey.length = 32 ∧ ∀ st ∈ addStatements, faults st = false
  | remove .. => False

lemma Store.elevated_some : s.Elevated chan (some pubkey) ↔
    ∃ role, s.activeRole ⟨chan, pubkey⟩ = some role ∧ role.isElevated := by
  unfold Store.Elevated actorRole
  rw [bind_some, any_eq_true]

lemma Earned.no_return (h : Earned chan s call)
    (hact : call.actor = some pubkey) (hnone : s.activeRole ⟨chan, pubkey⟩ = none) :
    ¬ (s.step call).Elevated chan (some pubkey) := by
  have hord : ¬ s.Elevated chan (some pubkey) := by
    rw [elevated_some, hnone]
    rintro ⟨_, ⟨⟩, _⟩
  intro haft
  exact hord (hact ▸ h.becomes pubkey hord haft)

lemma earned_of_kept (h : ∀ pubkey role, (s.step call).activeRole ⟨chan, pubkey⟩ = some role →
      s.activeRole ⟨chan, pubkey⟩ = some role ∨
        s.activeRole ⟨chan, pubkey⟩ = none ∧ role.isElevated = false) : Earned chan s call where
  becomes := by
    intro pubkey hpre haft
    obtain ⟨role, hrole, helev⟩ := elevated_some.mp haft
    rcases h pubkey role hrole with hkept | ⟨-, hord⟩
    · exact absurd (elevated_some.mpr ⟨role, hkept, helev⟩) hpre
    · rw [helev] at hord
      cases hord
  changes := by
    intro pubkey role role' hrole hrole' hne
    rcases h pubkey role' hrole' with hkept | ⟨hnone, -⟩
    · rw [hkept] at hrole
      exact absurd (some.inj hrole).symm hne
    · rw [hnone] at hrole
      cases hrole

/-- An addition by an ordinary actor leaves an active member's role, and confers none but an
ordinary one, the return of a creator apart. -/
lemma earned_added (ok : AddMemberOk faults s chan pubkey role invitedBy)
    (hself : ¬ (Call.add faults chan pubkey role invitedBy now).SelfMade chan s)
    (hact : ¬ s.Elevated chan invitedBy) : s.activeRole ⟨chan, pubkey⟩ = some role ∨
      s.activeRole ⟨chan, pubkey⟩ = none ∧ role.isElevated = false := by
  cases hcur : s.activeRole ⟨chan, pubkey⟩ with
  | some current =>
    left
    by_contra hne
    exact hact (ok.change current hcur fun h => hne (congrArg some h)).1
  | none =>
    right
    refine ⟨rfl, Bool.eq_false_iff.mpr fun helev => ?_⟩
    obtain ⟨channel, hchannel, hlive, hgr⟩ := ok.grant
    have hboot := (hgr helev).resolve_left hact
    exact hself ⟨rfl, helev, hcur, ⟨channel, hchannel, hlive, hboot⟩, ok.length, ok.answered⟩

lemma not_earned_of_selfMade (hself : call.SelfMade chan s) : ¬ Earned chan s call := by
  intro hearned
  cases call with
  | remove => exact hself
  | add faults chan' pubkey role invitedBy now =>
    obtain ⟨rfl, helev, hnone, ⟨channel, hchannel, hlive, hboot⟩, hlen, hans⟩ := hself
    obtain ⟨record, hends⟩ := addMember_bootstrap role now hlen hans hchannel hlive hboot hnone
    have hstep : s.step (.add faults chan' pubkey role invitedBy now) =
        s.upsertMember ⟨chan', pubkey⟩ role invitedBy now := by
      rw [step, Call.exec, transact_of_ends hends]
      rfl
    refine hearned.no_return hboot.2.1 hnone ?_
    rw [hstep, elevated_some, activeRole_upsertMember, if_pos rfl]
    exact ⟨role, rfl, helev⟩

/-- One call confers rank by rank, exactly if it is not the return of a creator. -/
lemma earned_iff : Earned chan s call ↔ ¬ call.SelfMade chan s := by
  refine ⟨fun hearned hself => not_earned_of_selfMade hself hearned, fun hself => ?_⟩
  by_cases hact : s.Elevated chan call.actor
  · exact ⟨fun _ _ _ => hact, fun _ _ _ _ _ _ => hact⟩
  refine earned_of_kept ?_
  intro pubkey role haft
  have heff := exec_effect s call
  unfold step at haft
  generalize call.exec s = result at heff haft
  cases heff with
  | failed e => exact .inl haft
  | added faults chan' target granted invitedBy now ok =>
    rw [activeRole_upsertMember] at haft
    split_ifs at haft with hkey
    · obtain rfl := some.inj haft
      cases hkey
      exact earned_added ok hself hact
    · exact .inl haft
  | removed faults chan' target actor now ok =>
    rw [activeRole_softDelete] at haft
    split_ifs at haft with hkey
    exact .inl haft

/-- **Rank is conferred by rank.** In every sequence of calls, a pubkey becomes an active owner or
admin, and an active member's role changes, only in a call of an active owner or admin, exactly if
none of them is the return of a creator. -/
theorem rank_earned_iff (s : Store) (chan : ChannelKey) (calls : List Call) :
    AllSteps Store.step (Earned chan) s calls ↔
      AllSteps Store.step (fun s call => ¬ call.SelfMade chan s) s calls := by
  constructor
  · exact AllSteps.mono fun _ _ _ => earned_iff.mp
  · exact AllSteps.mono fun _ _ _ => earned_iff.mpr

def founderRemoved : Store :=
  (twoOwners founder partner board).step (.remove (fun _ => false) board founder partner 2)

def founderReturns : Call := .add (fun _ => false) board founder .owner (some founder) 3

/-- A founder whom the partner has removed is an owner again by a call of their own. -/
theorem removed_founder_returns :
    founderRemoved.activeRole ⟨board, founder⟩ = none ∧
      founderRemoved.activeRole ⟨board, partner⟩ = some .owner ∧
      (founderReturns.exec founderRemoved).1 = none ∧
      (founderRemoved.step founderReturns).activeRole ⟨board, founder⟩ = some .owner ∧
      ¬ Earned board founderRemoved founderReturns := by
  have hout : founderRemoved.activeRole ⟨board, founder⟩ = none := by decide +kernel
  have hback : (founderRemoved.step founderReturns).activeRole ⟨board, founder⟩ = some .owner := by
    decide +kernel
  refine ⟨hout, by decide +kernel, by decide +kernel, hback, ?_⟩
  intro hearned
  exact hearned.no_return rfl hout (elevated_some.mpr ⟨.owner, hback, rfl⟩)

end Buzz.Db
