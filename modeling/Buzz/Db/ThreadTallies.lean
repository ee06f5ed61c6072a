import Buzz.Db.Threads

/-!
The rows of threads.

`Tallies` relates the rows of the table to what they ought to say: the times of the events and two
functions that count.  Each statement of the calls keeps it, for the functions as they are then.  So a
transaction keeps it when its updates are those of the true counts and when the time a row is made
with is that of its event.
-/

namespace Buzz.Db.Thread

open Buzz.Core Lib Function List ThreadMetadata

/-! ### Rows and what they ought to say -/

def bump (count : EventKey → ℕ) (key : EventKey) : EventKey → ℕ :=
  Function.update count key (count key + 1)

def drop (count : EventKey → ℕ) (key : EventKey) : EventKey → ℕ :=
  Function.update count key (count key - 1)

lemma eq_drop {count count' : EventKey → ℕ}
    (h : ∀ k, count' k + (if key = k then 1 else 0) = count k) : count' = drop count key := by
  funext k
  have hk := h k
  unfold drop
  by_cases heq : k = key
  · subst heq
    rw [update_self]
    rw [if_pos rfl] at hk
    omega
  rw [update_of_ne heq]
  rw [if_neg (Ne.symm heq)] at hk
  omega

/-- One row for an id, with the time of its event and both counts; ids without a row count nothing. -/
structure Tallies (time : EventKey → Option DateTime) (replies descendants : EventKey → ℕ)
    (threads : List ThreadRow) : Prop where
  unique : (threads.map ThreadRow.key).Nodup
  stamped : ∀ row ∈ threads, time row.key = some row.eventCreatedAt
  replyCount : ∀ row ∈ threads, row.replyCount = replies row.key
  descendantCount : ∀ row ∈ threads, row.descendantCount = descendants row.key
  covered : ∀ key, key ∉ threads.map ThreadRow.key → replies key = 0 ∧ descendants key = 0

section Tallies

variable {time : EventKey → Option DateTime} {replies descendants : EventKey → ℕ}
  {threads : List ThreadRow} {key : EventKey} {row : ThreadRow}

namespace Tallies

variable (h : Tallies time replies descendants threads)

include h

lemma mono (htime : ∀ key t, time key = some t → time' key = some t) :
    Tallies time' replies descendants threads where
  unique := h.unique
  stamped row hrow := htime _ _ (h.stamped row hrow)
  replyCount := h.replyCount
  descendantCount := h.descendantCount
  covered := h.covered

variable (htime : time row.key = some row.eventCreatedAt)

include htime

lemma insertThread_eq : insertThread threads row =
      if row.key ∈ threads.map ThreadRow.key then (threads, false) else (row :: threads, true) := by
  have hconf : (threads.any fun r => r.key = row.key && r.eventCreatedAt = row.eventCreatedAt) =
      true ↔ row.key ∈ threads.map ThreadRow.key := by
    simp only [any_eq_true, Bool.and_eq_true, decide_eq_true_eq, mem_map]
    constructor
    · rintro ⟨r, hr, hkey, -⟩
      exact ⟨r, hr, hkey⟩
    rintro ⟨r, hr, hkey⟩
    have hr' := h.stamped r hr
    rw [hkey, htime] at hr'
    exact ⟨r, hr, hkey, (Option.some.inj hr').symm⟩
  unfold insertThread
  by_cases hmem : row.key ∈ threads.map ThreadRow.key
  · rw [if_pos (hconf.mpr hmem), if_pos hmem]
  · rw [if_neg (mt hconf.mp hmem), if_neg hmem]

lemma insertThread (hreps : row.replyCount = 0) (hdesc : row.descendantCount = 0) :
    Tallies time replies descendants (insertThread threads row).1 := by
  rw [h.insertThread_eq htime]
  by_cases hmem : row.key ∈ threads.map ThreadRow.key
  · rw [if_pos hmem]
    exact h
  rw [if_neg hmem]
  obtain ⟨hr, hd⟩ := h.covered row.key hmem
  exact
    { unique := nodup_cons.mpr ⟨hmem, h.unique⟩
      stamped := forall_mem_cons.mpr ⟨htime, h.stamped⟩
      replyCount := forall_mem_cons.mpr ⟨hreps.trans hr.symm, h.replyCount⟩
      descendantCount := forall_mem_cons.mpr ⟨hdesc.trans hd.symm, h.descendantCount⟩
      covered := fun key hkey => h.covered key fun hin => hkey (mem_cons_of_mem _ hin) }

end Tallies

lemma map_updateThreads {β : Type} (f : ThreadRow → ThreadRow) (g : ThreadRow → β)
    (hf : ∀ row, g (f row) = g row) : (updateThreads threads key f).map g = threads.map g := by
  unfold updateThreads
  rw [map_map]
  refine map_congr_left fun row _ => ?_
  simp only [comp_apply]
  split_ifs
  · exact hf row
  · rfl

lemma mem_updateThreads (h : row ∈ updateThreads threads key f) :
    ∃ old ∈ threads, row = if old.key = key then f old else old := by
  obtain ⟨old, hold, rfl⟩ := mem_map.mp h
  exact ⟨old, hold, rfl⟩

lemma Tallies.mapCounts (h : Tallies time replies descendants threads) (f : ThreadRow → ThreadRow)
    (gr gd : ℕ → ℕ) (hg : key ∈ threads.map ThreadRow.key ∨ gr 0 = 0 ∧ gd 0 = 0)
    (hkey : ∀ row, (f row).key = row.key := by exact fun _ => rfl)
    (htime : ∀ row, (f row).eventCreatedAt = row.eventCreatedAt := by exact fun _ => rfl)
    (hreps : ∀ row, (f row).replyCount = gr row.replyCount := by exact fun _ => rfl)
    (hdesc : ∀ row, (f row).descendantCount = gd row.descendantCount := by
      exact fun _ => rfl) :
    Tallies time (Function.update replies key (gr (replies key)))
      (Function.update descendants key (gd (descendants key))) (updateThreads threads key f) where
  unique := by
    rw [map_updateThreads f ThreadRow.key hkey]
    exact h.unique
  stamped row hrow := by
    obtain ⟨old, hold, rfl⟩ := mem_updateThreads hrow
    split_ifs
    · rw [hkey, htime]
      exact h.stamped old hold
    · exact h.stamped old hold
  replyCount row hrow := by
    obtain ⟨old, hold, rfl⟩ := mem_updateThreads hrow
    split_ifs with hk
    · rw [hreps, hkey, h.replyCount old hold, hk, update_self]
    · rw [update_of_ne hk]
      exact h.replyCount old hold
  descendantCount row hrow := by
    obtain ⟨old, hold, rfl⟩ := mem_updateThreads hrow
    split_ifs with hk
    · rw [hdesc, hkey, h.descendantCount old hold, hk, update_self]
    · rw [update_of_ne hk]
      exact h.descendantCount old hold
  covered k hk := by
    rw [map_updateThreads f ThreadRow.key hkey] at hk
    obtain ⟨hr, hd⟩ := h.covered k hk
    by_cases heq : k = key
    · subst heq
      rw [update_self, update_self, hr, hd]
      exact hg.resolve_left hk
    · rw [update_of_ne heq, update_of_ne heq]
      exact ⟨hr, hd⟩

namespace Tallies

section

variable (h : Tallies time replies descendants threads)
include h

lemma countReply (hrow : key ∈ threads.map ThreadRow.key) (now : DateTime) :
    Tallies time (bump replies key) descendants (updateThreads threads key (countReply now)) := by
  simpa [bump] using h.mapCounts (Thread.countReply now) (· + 1) id (.inl hrow)

lemma countDescendant (hrow : key ∈ threads.map ThreadRow.key) :
    Tallies time replies (bump descendants key) (updateThreads threads key countDescendant) := by
  simpa [bump] using h.mapCounts Thread.countDescendant id (· + 1) (.inl hrow)

lemma uncountReply (key : EventKey) :
    Tallies time (drop replies key) descendants (updateThreads threads key uncountReply) := by
  simpa [drop] using h.mapCounts Thread.uncountReply (· - 1) id (.inr ⟨rfl, rfl⟩)

lemma uncountDescendant (key : EventKey) :
    Tallies time replies (drop descendants key) (updateThreads threads key uncountDescendant) := by
  simpa [drop] using h.mapCounts Thread.uncountDescendant id (· - 1) (.inr ⟨rfl, rfl⟩)

end

end Tallies

lemma key_mem_insertThread (threads : List ThreadRow) (row : ThreadRow) :
    row.key ∈ (insertThread threads row).1.map ThreadRow.key := by
  unfold insertThread
  split_ifs with h
  · obtain ⟨r, hr, hkey⟩ := any_eq_true.mp h
    simp only [Bool.and_eq_true, decide_eq_true_eq] at hkey
    exact mem_map.mpr ⟨r, hr, hkey.1⟩
  · exact mem_cons_self ..

lemma mem_insertThread_of_mem (hrow : row ∈ threads) (new : ThreadRow) :
    row ∈ (insertThread threads new).1 := by
  unfold insertThread
  split_ifs
  · exact hrow
  · exact mem_cons_of_mem _ hrow

/-! ### The rows of a reply -/

/-- The times a reply comes with are those of the events. -/
structure TimesRight (time : EventKey → Option DateTime) (community : CommunityId)
    (m : ThreadMetadata) : Prop where
  self : time (community, m.eventId) = some m.eventCreatedAt
  parent : ∀ id, m.parentEventId = some id →
    time (community, id) = some (m.parentEventCreatedAt.getD m.eventCreatedAt)
  root : ∀ id, m.rootEventId = some id →
    time (community, id) = some (m.rootEventCreatedAt.getD m.eventCreatedAt)

def repliesWith (replies : EventKey → ℕ) (community : CommunityId) (m : ThreadMetadata) :
    EventKey → ℕ :=
  match m.parentEventId with
  | some parentId => bump replies (community, parentId)
  | none => replies

def descendantsWith (descendants : EventKey → ℕ) (community : CommunityId) (m : ThreadMetadata) :
    EventKey → ℕ :=
  match m.parentEventId, m.rootEventId with
  | some _, some rootId => bump descendants (community, rootId)
  | _, _ => descendants

variable {community : CommunityId} {m : ThreadMetadata} {parentId : EventId}

lemma Tallies.ensureAncestors (h : Tallies time replies descendants threads)
    (ht : TimesRight time community m) (hpar : m.parentEventId = some parentId) :
    Tallies time replies descendants (ensureAncestors threads community m parentId) := by
  have hwith : Tallies time replies descendants
      (Thread.insertThread threads (stubRow community
        (m.parentEventCreatedAt.getD m.eventCreatedAt) parentId m.channelId)).1 :=
    h.insertThread (ht.parent parentId hpar) rfl rfl
  unfold Thread.ensureAncestors
  cases hroot : m.rootEventId with
  | none => exact hwith
  | some rootId =>
    simp only
    split_ifs
    · exact hwith.insertThread (ht.root rootId hroot) rfl rfl
    · exact hwith

lemma keys_mem_ensureAncestors (threads : List ThreadRow) (community : CommunityId)
    (m : ThreadMetadata) (parentId : EventId) :
    (community, parentId) ∈ (ensureAncestors threads community m parentId).map ThreadRow.key ∧
      ∀ rootId, m.rootEventId = some rootId →
        (community, rootId) ∈ (ensureAncestors threads community m parentId).map ThreadRow.key := by
  have hpar := key_mem_insertThread threads
    (stubRow community (m.parentEventCreatedAt.getD m.eventCreatedAt) parentId m.channelId)
  unfold ensureAncestors
  cases hroot : m.rootEventId with
  | none => exact ⟨hpar, fun _ h => nomatch h⟩
  | some rootId =>
    simp only
    split_ifs with hne
    · constructor
      · obtain ⟨row, hrow, hkey⟩ := mem_map.mp hpar
        exact mem_map.mpr ⟨row, mem_insertThread_of_mem hrow _, hkey⟩
      · rintro _ ⟨⟩
        exact key_mem_insertThread _ _
    rw [not_not] at hne
    subst hne
    refine ⟨hpar, ?_⟩
    rintro _ ⟨⟩
    exact hpar

lemma Tallies.countAncestors (h : Tallies time replies descendants threads)
    (hpar : m.parentEventId = some parentId)
    (hparentRow : (community, parentId) ∈ threads.map ThreadRow.key)
    (hrootRow : ∀ rootId, m.rootEventId = some rootId →
      (community, rootId) ∈ threads.map ThreadRow.key) (now : DateTime) :
    Tallies time (repliesWith replies community m) (descendantsWith descendants community m)
      (countAncestors threads community m parentId now) := by
  have hcounted := h.countReply hparentRow now
  unfold Thread.countAncestors repliesWith descendantsWith
  rw [hpar]
  cases hroot : m.rootEventId with
  | none => exact hcounted
  | some rootId =>
    refine hcounted.countDescendant ?_
    rw [map_updateThreads (Thread.countReply now) ThreadRow.key fun _ => rfl]
    exact hrootRow rootId hroot

section Record

variable (h : Tallies time replies descendants threads) (ht : TimesRight time community m)
  (hnew : (community, m.eventId) ∉ threads.map ThreadRow.key)
include h ht hnew

lemma insertThread_of_new :
    insertThread threads (m.toRow community) = (m.toRow community :: threads, true) := by
  have hself : time (m.toRow community).key = some (m.toRow community).eventCreatedAt := ht.self
  exact (h.insertThread_eq hself).trans (if_neg hnew)

lemma Tallies.recordThread (now : DateTime) :
    Tallies time (repliesWith replies community m) (descendantsWith descendants community m)
      (recordThread threads community m now) := by
  have hins := insertThread_of_new h ht hnew
  have hown : Tallies time replies descendants (m.toRow community :: threads) := by
    have hinserted := h.insertThread (show time (m.toRow community).key = _ from ht.self) rfl rfl
    rw [hins] at hinserted
    exact hinserted
  unfold Thread.recordThread
  rw [hins]
  cases hpar : m.parentEventId with
  | none =>
    unfold repliesWith descendantsWith
    rw [hpar]
    exact hown
  | some parentId =>
    obtain ⟨hp, hr⟩ :=
      keys_mem_ensureAncestors (m.toRow community :: threads) community m parentId
    exact (hown.ensureAncestors ht hpar).countAncestors hpar hp hr now

end Record

/-! ### The links of the rows -/

def ThreadRow.link (row : ThreadRow) : EventKey × Option EventId × Option EventId :=
  (row.key, row.parentEventId, row.rootEventId)

open ThreadRow

def Reply.link (r : Reply) : EventKey × Option EventId × Option EventId :=
  (r.key, some r.parentEventId, r.rootEventId)

variable {r : Reply}

lemma link_mem_insertStub {id : EventId} {channelId : Uuid} :
    r.link ∈ (insertThread threads (stubRow community createdAt id channelId)).1.map link ↔
      r.link ∈ threads.map link := by
  unfold insertThread
  split_ifs
  · exact Iff.rfl
  rw [map_cons, mem_cons]
  have hne : r.link ≠ (stubRow community createdAt id channelId).link := by
    simp [Reply.link, link, stubRow]
  exact or_iff_right hne

lemma link_mem_ensureAncestors : r.link ∈ (ensureAncestors threads community m parentId).map link ↔
      r.link ∈ threads.map link := by
  unfold ensureAncestors
  cases m.rootEventId with
  | none => exact link_mem_insertStub
  | some rootId =>
    simp only
    split_ifs
    · rw [link_mem_insertStub, link_mem_insertStub]
    · exact link_mem_insertStub

lemma map_link_countAncestors (threads : List ThreadRow) (now : DateTime) :
    (countAncestors threads community m parentId now).map link = threads.map link := by
  unfold countAncestors
  cases m.rootEventId with
  | none => exact map_updateThreads (countReply now) link fun _ => rfl
  | some rootId =>
    exact (map_updateThreads countDescendant link fun _ => rfl).trans
      (map_updateThreads (countReply now) link fun _ => rfl)

lemma map_link_uncountAncestors (threads : List ThreadRow) (parentId rootId : Option EventId) :
    (uncountAncestors threads community parentId rootId).map link = threads.map link := by
  cases parentId with
  | none => rfl
  | some parentId =>
    cases rootId with
    | none => exact map_updateThreads uncountReply link fun _ => rfl
    | some rootId =>
      exact (map_updateThreads uncountDescendant link fun _ => rfl).trans
        (map_updateThreads uncountReply link fun _ => rfl)

lemma link_mem_recordThread (h : Tallies time replies descendants threads)
    (ht : TimesRight time community m) (hnew : (community, m.eventId) ∉ threads.map ThreadRow.key)
    (now : DateTime) : r.link ∈ (recordThread threads community m now).map link ↔
      r ∈ (m.reply? community).toList ∨ r.link ∈ threads.map link := by
  unfold recordThread
  rw [insertThread_of_new h ht hnew]
  simp only [if_true]
  cases hpar : m.parentEventId with
  | none =>
    simp [reply?, toRow, link, Reply.link, hpar]
  | some parentId =>
    simp only
    rw [map_link_countAncestors, link_mem_ensureAncestors, map_cons, mem_cons]
    refine or_congr_left ?_
    obtain ⟨c, i, p, root⟩ := r
    simp only [reply?, hpar, Option.map_some, Option.toList_some,
      mem_singleton, Reply.link, link, toRow, Reply.key, ThreadRow.key,
      Prod.mk.injEq, Option.some.injEq, Reply.mk.injEq]
    tauto

end Tallies

end Buzz.Db.Thread
