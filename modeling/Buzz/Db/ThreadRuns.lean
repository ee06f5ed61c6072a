import Buzz.Db.ThreadCounts

/-!
Runs of posts and deletions.

A reply is resolved before its transaction.  What it learns is about events that stay stored, so it is
still right when the transaction comes, however much was written between.  The one thing it may get
wrong is the time of its root: when the root is not found among the live events, or the read of it
fails, the parent's time is taken.  `Request.Sound` rules this out, and the counters are exact
then.  A thread whose root was deleted gets a second row for the root with its next nested reply.
-/

namespace Buzz.Db.Thread

open Buzz.Core Lib

/-! ### What a resolution learns -/

namespace View

variable (v : View) (community : CommunityId)

/-- The root on record for an event: in its thread row, or without a row in its own tags. -/
def recordedRoot (parentId : EventId) : Option EventId :=
  match v.parentMeta, v.parentEvent with
  | .ok rows, .ok events =>
    match rows.getThreadMetadataByEvent community parentId with
    | some row => some (row.rootEventId.getD parentId)
    | none => (events.getEventById community parentId).map fun row => markedRoot row.event
  | _, _ => none

def findsRoot (rootId : EventId) : Bool :=
  match v.rootEvent with
  | .ok s => (s.getEventById community rootId).isSome
  | .error _ => false

/-- The root on record for a parent is the parent itself or a live event that is read. -/
def RootFound (parentId : EventId) : Prop :=
  ∀ rootId ∈ v.recordedRoot community parentId, rootId = parentId ∨ v.findsRoot community rootId

instance (parentId : EventId) : Decidable (v.RootFound community parentId) := by
  unfold RootFound
  infer_instance

end View

section Resolve

variable {v : View} {community : CommunityId}

structure Traced (fromTimestamp : ℕ → Option DateTime) (v : View) (community : CommunityId)
    (parent : EventRow) (a : ReplyAncestry) : Prop where
  parentId : a.parentEventId = parent.event.id
  parentTime : a.parentEventCreatedAt = (fromTimestamp parent.event.createdAt).getD v.now
  root : v.recordedRoot community parent.event.id = some a.rootEventId
  rootTime : a.rootEventCreatedAt =
      v.rootCreated fromTimestamp community a.rootEventId a.parentEventCreatedAt ∨
    a.rootEventId = a.parentEventId ∧ a.rootEventCreatedAt = a.parentEventCreatedAt

lemma getEventById_eq_some {s : Store} {id : EventId} (h : s.getEventById community id = some row) :
    row ∈ s.events ∧ row.key = (community, id) ∧ row.isLive := by
  unfold Store.getEventById at h
  have hrow := List.find?_some h
  simp only [decide_eq_true_eq] at hrow
  exact ⟨List.mem_of_find?_eq_some h, hrow⟩

lemma findParent_eq_ok {decoded : Option EventId}
    (h : ((okOr decoded "reply parent not found").bind fun id =>
      v.findParent community id channelId) = .ok parent) : decoded = some parent.event.id ∧
      ∃ events, v.parentEvent = .ok events ∧
        events.getEventById community parent.event.id = some parent := by
  obtain ⟨parentId, hdec, h⟩ := bind_eq_ok.mp h
  unfold View.findParent at h
  simp only [bind_eq_ok, okOr_eq_ok, mapError_eq_ok] at h
  obtain ⟨events, hevents, row, hrow, hchan⟩ := h
  have heq : row = parent := by
    cases hc : row.channelId with
    | none =>
      rw [hc] at hchan
      cases hchan
    | some parentChannel =>
      simp only [hc, bind_eq_ok] at hchan
      obtain ⟨_, -, heq⟩ := hchan
      cases heq
      rfl
  subst heq
  obtain ⟨-, hkey, -⟩ := getEventById_eq_some hrow
  obtain rfl : row.event.id = parentId := congrArg Prod.snd hkey
  exact ⟨okOr_eq_ok.mp hdec, events, hevents, hrow⟩

lemma time_isSome_of_found {s : Store} {id : EventId}
    (h : (s.getEventByIdIncludingDeleted community id).isSome) :
    (s.time (community, id)).isSome := by
  unfold Store.time
  rw [Option.isSome_map]
  exact h

lemma findParentMeta_eq_ok (h : v.findParentMeta community parentId = .ok row) :
    ∃ s, v.parentMeta = .ok s ∧ s.getThreadMetadataByEvent community parentId = row := by
  unfold View.findParentMeta at h
  simp only [map_eq_ok, mapError_eq_ok] at h
  exact h

/-- The time taken for a root is that of the root, if it is found, or else the parent's. -/
lemma rootCreated_cases (fromTimestamp : ℕ → Option DateTime) (v : View) (community : CommunityId)
    (rootId : EventId) (parentCreated : DateTime) :
    (∃ s row, v.rootEvent = .ok s ∧ s.getEventById community rootId = some row ∧
        v.rootCreated fromTimestamp community rootId parentCreated =
          (fromTimestamp row.event.createdAt).getD parentCreated) ∨
      v.findsRoot community rootId = false ∧
        v.rootCreated fromTimestamp community rootId parentCreated = parentCreated := by
  unfold View.rootCreated View.findsRoot
  cases v.rootEvent with
  | error e => exact .inr ⟨rfl, rfl⟩
  | ok s =>
    simp only
    cases hfnd : s.getEventById community rootId with
    | none => exact .inr ⟨rfl, rfl⟩
    | some row => exact .inl ⟨s, row, rfl, hfnd, rfl⟩

section Traced

variable {events rows : Store} (hevents : v.parentEvent = .ok events)
  (hrows : v.parentMeta = .ok rows)
  (hfound : events.getEventById community parent.event.id = some parent)

include hevents hrows hfound

lemma recordedRoot_eq : v.recordedRoot community parent.event.id =
    match rows.getThreadMetadataByEvent community parent.event.id with
    | some row => some (row.rootEventId.getD parent.event.id)
    | none => some (markedRoot parent.event) := by
  unfold View.recordedRoot
  rw [hevents, hrows]
  simp only [hfound]
  rfl

lemma traced_deriveAncestry
    (hnone : rows.getThreadMetadataByEvent community parent.event.id = none) :
    Traced fromTimestamp v community parent (deriveAncestryFromParentTags fromTimestamp v community
      parent.event ((fromTimestamp parent.event.createdAt).getD v.now)) := by
  have hroot := recordedRoot_eq hevents hrows hfound
  rw [hnone] at hroot
  unfold deriveAncestryFromParentTags
  simp only
  split_ifs with heq
  · exact ⟨rfl, rfl, hroot, .inr ⟨heq, rfl⟩⟩
  · exact ⟨rfl, rfl, hroot, .inl rfl⟩

lemma traced_clientAncestry (h : clientAncestry fromTimestamp v community parent.event
      ((fromTimestamp parent.event.createdAt).getD v.now) clientRoot
      (rows.getThreadMetadataByEvent community parent.event.id) = .ok a) :
    Traced fromTimestamp v community parent a := by
  have hroot := recordedRoot_eq hevents hrows hfound
  cases hmeta : rows.getThreadMetadataByEvent community parent.event.id with
  | none =>
    rw [hmeta] at h
    simp only [clientAncestry, bind_eq_ok, refuseIf_eq_ok] at h
    obtain ⟨_, -, heq⟩ := h
    cases heq
    exact traced_deriveAncestry hevents hrows hfound hmeta
  | some row =>
    rw [hmeta] at h hroot
    simp only [clientAncestry, bind_eq_ok, refuseIf_eq_ok] at h
    obtain ⟨_, -, _, -, heq⟩ := h
    cases heq
    exact ⟨rfl, rfl, hroot, .inl rfl⟩

lemma traced_relayAncestry :
    Traced fromTimestamp v community parent (relayAncestry fromTimestamp v community parent.event
      ((fromTimestamp parent.event.createdAt).getD v.now)
      (rows.getThreadMetadataByEvent community parent.event.id)) := by
  have hroot := recordedRoot_eq hevents hrows hfound
  cases hmeta : rows.getThreadMetadataByEvent community parent.event.id with
  | none => exact traced_deriveAncestry hevents hrows hfound hmeta
  | some row =>
    rw [hmeta] at hroot
    refine ⟨rfl, rfl, hroot, ?_⟩
    by_cases heq : row.rootEventId.getD parent.event.id = parent.event.id
    · exact .inr ⟨heq, if_pos heq⟩
    · exact .inl (if_neg heq)

end Traced

def replyParent (event : Event) : Option EventId :=
  ((parseThreadMarkers event.tags).resolve.bind fun m => decodeEventId m.2).bind id

/-- What a resolved ancestry rests on: a parent that was found. -/
def Rests (fromTimestamp : ℕ → Option DateTime) (v : View) (community : CommunityId)
    (parentId : EventId) (a : ReplyAncestry) : Prop :=
  ∃ events parent, v.parentEvent = .ok events ∧ events.getEventById community parentId = some parent ∧
    parent.event.id = parentId ∧ Traced fromTimestamp v community parent a

lemma resolveNip10_eq_ok
    (h : resolveNip10ThreadMeta fromTimestamp v community event channelId = .ok (some m)) :
    ∃ parentId a, replyParent event = some parentId ∧ Rests fromTimestamp v community parentId a ∧
      m = a.intoThreadMeta event.id ((fromTimestamp event.createdAt).getD v.now) channelId
        (isBroadcast event) := by
  unfold resolveNip10ThreadMeta at h
  cases hres : (parseThreadMarkers event.tags).resolve with
  | none =>
    rw [hres] at h
    cases h
  | some markers =>
    rw [hres] at h
    simp only [bind_eq_ok, okOr_eq_ok] at h
    obtain ⟨decoded, hdec, parent, hpar, clientRoot, -, row, hrow, a, ha, heq⟩ := h
    cases heq
    obtain ⟨rfl, events, hevents, hfnd⟩ := findParent_eq_ok hpar
    obtain ⟨rows, hrows, rfl⟩ := findParentMeta_eq_ok hrow
    refine ⟨parent.event.id, a, ?_,
      ⟨events, parent, hevents, hfnd, rfl, traced_clientAncestry hevents hrows hfnd ha⟩, rfl⟩
    simp [replyParent, hres, hdec]

lemma resolveRelayReply_eq_ok
    (h : resolveRelayReplyThreadMeta fromTimestamp v community parentHex channelId = .ok a) :
    ∃ parentId, decodeEventId parentHex = some (some parentId) ∧
      Rests fromTimestamp v community parentId a := by
  unfold resolveRelayReplyThreadMeta at h
  simp only [bind_eq_ok, okOr_eq_ok] at h
  obtain ⟨decoded, hdec, parent, hpar, row, hrow, _, -, heq⟩ := h
  cases heq
  obtain ⟨rfl, events, hevents, hfnd⟩ := findParent_eq_ok hpar
  obtain ⟨rows, hrows, rfl⟩ := findParentMeta_eq_ok hrow
  exact ⟨parent.event.id, hdec, events, parent, hevents, hfnd, rfl,
    traced_relayAncestry hevents hrows hfnd⟩

end Resolve

/-! ### Requests that keep the rows true -/

/-- Every root that a reply needs is found, and a moderator deletes events that are stored. -/
def Request.Sound (t : Timeline Store) : Request → Prop
  | .ingest community event _ reads _ =>
    ∀ parentId ∈ replyParent event, (reads.view t).RootFound community parentId
  | .workflow community _ _ replyTo reads _ =>
    ∀ parentHex ∈ replyTo, ∀ decoded ∈ decodeEventId parentHex, ∀ parentId ∈ decoded,
      (reads.view t).RootFound community parentId
  | .moderate community target row _ _ _ _ =>
    ((t.ago row).getEventByIdIncludingDeleted community target).isSome
  | .store .. | .delete .. => True

instance (t : Timeline Store) : ∀ r : Request, Decidable (r.Sound t)
  | .ingest .. => inferInstanceAs (Decidable (∀ _ ∈ _, _))
  | .workflow .. => inferInstanceAs (Decidable (∀ _ ∈ _, ∀ _ ∈ _, ∀ _ ∈ _, _))
  | .moderate .. => inferInstanceAs (Decidable (_ = true))
  | .store .. | .delete .. => inferInstanceAs (Decidable True)

def Request.event? : Request → Option Event
  | .store _ event _ _ _ | .ingest _ event _ _ _ | .workflow _ event _ _ _ _ => some event
  | .delete .. | .moderate .. => none

section Requests

variable {community : CommunityId}
  {reads : Moments}

/-- The versions of the store are true, and each comes from the one before. -/
abbrev TrueTimeline (fromTimestamp : ℕ → Option DateTime) (createdAtOf : EventId → ℕ)
    (t : Timeline Store) : Prop :=
  t.Lawful (Consistent fromTimestamp createdAtOf) Later

lemma readAt_eq_ok (h : readAt t moment = .ok s) : ∃ n, s = t.ago n := by
  cases moment with
  | none => cases h
  | some n =>
    cases h
    exact ⟨n, rfl⟩

section

variable (ht : TrueTimeline fromTimestamp createdAtOf t)
include ht

lemma time_of_found {moment : Option ℕ} {s : Store} (hread : readAt t moment = .ok s) {id : EventId}
    (hfnd : s.getEventById community id = some row) :
    ∃ time, fromTimestamp row.event.createdAt = some time ∧
      t.now.time (community, id) = some time := by
  obtain ⟨n, rfl⟩ := readAt_eq_ok hread
  obtain ⟨hrow, hkey, -⟩ := getEventById_eq_some hfnd
  refine ⟨row.createdAt, ((ht.ago n).fixed row hrow).2, ?_⟩
  rw [← hkey]
  exact (ht.ago_le_now n).time _ _ ((ht.ago n).time_of_mem hrow)

lemma times_of_rests (h : Rests fromTimestamp (reads.view t) community parentId a)
    (hroot : (reads.view t).RootFound community parentId) :
    t.now.time (community, a.parentEventId) = some a.parentEventCreatedAt ∧
      t.now.time (community, a.rootEventId) = some a.rootEventCreatedAt := by
  obtain ⟨events, parent, hevents, hfnd, hid, traced⟩ := h
  obtain ⟨parentTime, hfrom, hpar⟩ := time_of_found ht hevents hfnd
  have hparent' : t.now.time (community, a.parentEventId) = some a.parentEventCreatedAt := by
    rw [traced.parentId, hid, traced.parentTime, hfrom, hpar]
    rfl
  refine ⟨hparent', ?_⟩
  rcases traced.rootTime with htime | ⟨hself, htime⟩
  · rw [htime]
    rcases rootCreated_cases fromTimestamp (reads.view t) community a.rootEventId
      a.parentEventCreatedAt with ⟨s, row, hread, hrow, heq⟩ | ⟨hnot, heq⟩
    · obtain ⟨rootTime, hfrom, hsto⟩ := time_of_found ht hread hrow
      rw [heq, hfrom, hsto]
      rfl
    have hself : a.rootEventId = a.parentEventId := by
      rw [traced.parentId, hid]
      refine (hroot _ ?_).resolve_right ?_
      · rw [← hid]
        exact traced.root
      · rw [hnot]
        decide
    rw [heq, hself]
    exact hparent'
  · rw [hself, htime]
    exact hparent'

lemma metaRight_of_rests (h : Rests fromTimestamp (reads.view t) community parentId a)
    (hroot : (reads.view t).RootFound community parentId)
    (hfrom : fromTimestamp event.createdAt = some createdAt) (channel : Uuid)
    (broadcast : Bool) : MetaRight t.now ⟨community, event, createdAt, channelId, none⟩
      (a.intoThreadMeta event.id ((fromTimestamp event.createdAt).getD (reads.view t).now) channel
        broadcast) := by
  obtain ⟨hpar, hrootTime⟩ := times_of_rests ht h hroot
  refine ⟨rfl, ?_, ?_, ?_⟩
  · simp [ReplyAncestry.intoThreadMeta, hfrom]
  · rintro id ⟨⟩
    exact hpar
  · rintro id ⟨⟩
    exact hrootTime

lemma Request.consistent_serve {r : Request}
    (hsnd : r.Sound t) (hfix : ∀ e ∈ r.event?, e.createdAt = createdAtOf e.id) :
    Consistent fromTimestamp createdAtOf (r.serve fromTimestamp t) ∧
      Later t.now (r.serve fromTimestamp t) := by
  have hpres := ht.present
  cases r with
  | store community event channelId now commits =>
    refine hpres.accept (hfix event rfl) ?_ now
    intro _ _ m hm
    cases hm
  | ingest community event channelId reads commits =>
    unfold serve
    simp only
    cases hmeta : ingestThreadMeta fromTimestamp (reads.view t) community event channelId with
    | error e => exact ⟨hpres, refl _⟩
    | ok m =>
      refine hpres.accept (hfix event rfl) ?_ reads.now
      rintro createdAt hfrom m' rfl
      unfold ingestThreadMeta at hmeta
      split at hmeta
      · split at hmeta
        · obtain ⟨parentId, a, hpar, hrests, rfl⟩ := resolveNip10_eq_ok hmeta
          exact metaRight_of_rests ht hrests (hsnd parentId hpar) hfrom _ _
        · cases hmeta
      · cases hmeta
  | workflow community event channelId replyTo reads commits =>
    unfold serve
    simp only
    cases hmeta : workflowThreadMeta fromTimestamp (reads.view t) community event channelId replyTo with
    | error e => exact ⟨hpres, refl _⟩
    | ok m =>
      refine hpres.accept (hfix event rfl) ?_ reads.now
      rintro createdAt hfrom _ ⟨⟩
      unfold workflowThreadMeta at hmeta
      cases replyTo with
      | none =>
        cases hmeta
        refine ⟨rfl, ?_, fun _ h => (nomatch h), fun _ h => (nomatch h)⟩
        simp [hfrom]
      | some parentHex =>
        obtain ⟨a, hres, rfl⟩ := map_eq_ok.mp hmeta
        obtain ⟨parentId, hdec, hrests⟩ := resolveRelayReply_eq_ok hres
        exact metaRight_of_rests ht hrests (hsnd parentHex rfl _ hdec parentId rfl) hfrom _ _
  | delete community target found row now commits =>
    unfold serve
    simp only
    cases hfnd : (t.ago (found + row)).getEventByIdIncludingDeleted community target with
    | none => exact ⟨hpres, refl _⟩
    | some e =>
      have hsto := time_isSome_of_found (by rw [hfnd]; rfl)
      obtain ⟨time, htime⟩ := Option.isSome_iff_exists.mp hsto
      have hrow := (ht.ago_add_le found row).time _ _ htime
      exact hpres.softDelete (deleteTargets_right (ht.ago row) (ht.ago_le_now row)
        (Option.isSome_iff_exists.mpr ⟨time, hrow⟩))
  | moderate community target row owned unmarked now commits =>
    have hright := deleteTargets_right (ht.ago row) (ht.ago_le_now row) (time_isSome_of_found hsnd)
    unfold serve executeDeleteWithMarker
    simp only
    cases owned with
    | false => exact ⟨hpres, refl _⟩
    | true =>
      cases hpar : (deleteTargets (t.ago row) community target).1 with
      | some parentId => exact ⟨hpres, refl _⟩
      | none =>
        cases unmarked with
        | false => exact ⟨hpres, refl _⟩
        | true =>
          refine hpres.markDeleted_of_not fun _ r hr hkey => ?_
          rw [(hright.reply r hr hkey).1] at hpar
          cases hpar

lemma TrueTimeline.step {r : Request}
    (hsnd : r.Sound t) (hfix : ∀ e ∈ r.event?, e.createdAt = createdAtOf e.id) :
    TrueTimeline fromTimestamp createdAtOf (step fromTimestamp t r) := by
  unfold Thread.step
  split_ifs
  · obtain ⟨hcons, hlat⟩ := Request.consistent_serve ht hsnd hfix
    exact ht.push hcons hlat
  · exact ht

end

end Requests

lemma consistent_empty (fromTimestamp : ℕ → Option DateTime) (createdAtOf : EventId → ℕ) :
    Consistent fromTimestamp createdAtOf .empty where
  fixed _ he := nomatch he
  tallies := ⟨List.nodup_nil, fun _ h => (nomatch h), fun _ h => (nomatch h),
    fun _ h => (nomatch h), fun _ _ => ⟨rfl, rfl⟩⟩
  links _ := by simp [Store.empty]
  keys := List.nodup_nil
  stored _ hr := nomatch hr

/-- **The counters are exact.** In every run of sound requests, whatever is written between the reads
of a request and its transaction, each version of the store has one row for an id, with the time of
its event and with the numbers of its live replies and descendants. -/
theorem counters_exact (fromTimestamp : ℕ → Option DateTime) (createdAtOf : EventId → ℕ)
    (requests : List Request)
    (hfixed : ∀ r ∈ requests, ∀ e ∈ r.event?, e.createdAt = createdAtOf e.id)
    (hsound : AllSteps (step fromTimestamp) Request.Sound ⟨.empty, []⟩ requests) (n : ℕ) :
    Exact fromTimestamp ((run fromTimestamp requests).ago n) := by
  have hboth : AllSteps (step fromTimestamp)
      (fun t r => r.Sound t ∧ ∀ e ∈ r.event?, e.createdAt = createdAtOf e.id) ⟨.empty, []⟩ requests :=
    hsound.mono fun _ r hr h => ⟨h, hfixed r hr⟩
  have hrun : TrueTimeline fromTimestamp createdAtOf (run fromTimestamp requests) :=
    hboth.invariant (fun _ _ ht h => ht.step h.1 h.2)
      ⟨consistent_empty fromTimestamp createdAtOf, fun _ h => (nomatch h), trivial⟩
  exact (hrun.ago n).exact

/-! ### A thread whose root is deleted -/

def community : CommunityId := ⟨⟨1⟩⟩

def channel : Uuid := ⟨2⟩

def eventId (n : ℕ) : EventId := ⟨BitVec.ofNat 256 n⟩

def message (n : ℕ) (tags : List Tag) : Event := ⟨eventId n, ⟨7⟩, 100 * n, 9, tags, "hello"⟩

def marker (n : ℕ) (name : String) : Tag := ⟨"e", [(eventId n).toHex, "", name]⟩

def atOnce : Moments := ⟨some 0, some 0, some 0, 1000⟩

def post (event : Event) : Request := .ingest community event (some channel) atOnce true

def remove (n : ℕ) : Request := .delete community (eventId n) 0 0 1000 true

def seconds (secs : ℕ) : Option DateTime := some secs

def nestedThread : List Request :=
  [post (message 1 []), post (message 2 [marker 1 "reply"]),
    post (message 3 [marker 1 "root", marker 2 "reply"]), remove 2]

theorem counters_exact_nestedThread : Exact seconds ((run seconds nestedThread).ago 0) :=
  counters_exact seconds (fun id => 100 * id.bits.toNat) nestedThread (by decide +kernel)
    (by decide +kernel) 0

def orphanedThread : List Request :=
  [post (message 1 []), post (message 2 [marker 1 "reply"]), remove 1,
    post (message 3 [marker 1 "root", marker 2 "reply"])]

/-- The last reply makes a second row for the root, with the time of its parent. -/
theorem orphaned_root_has_two_rows : ¬ Exact seconds (run seconds orphanedThread).now := by
  intro hexact
  have hkeys : (run seconds orphanedThread).now.threads.map (fun row => (row.key, row.eventCreatedAt)) =
      [((community, eventId 1), 200), ((community, eventId 3), 300), ((community, eventId 1), 100),
        ((community, eventId 2), 200)] := by
    decide +kernel
  have hids := congrArg (List.map Prod.fst) hkeys
  rw [List.map_map] at hids
  have hunique := hexact.unique
  rw [show (run seconds orphanedThread).now.threads.map ThreadRow.key = _ from hids] at hunique
  exact absurd hunique (by decide)

end Buzz.Db.Thread
