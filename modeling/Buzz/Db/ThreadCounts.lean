import Buzz.Db.ThreadTallies
import Buzz.Lib.Run
import Buzz.Lib.Tally

/-!
The counters of threads.

The true counts change with the history of replies and with the live events.  The rows stay true to
them as long as the time a row is made with is that of its event.  The times of a reply and of its
parent are read from the events themselves; that of the root only when the root is found.  So the
counters are exact in every run in which a reply finds its root, and a reply to a thread whose root is
deleted makes a second row for it.
-/

namespace Buzz.Db.Thread

open Buzz.Core Lib List ThreadRow

/-! ### The store -/

namespace Store

def time (s : Store) (key : EventKey) : Option DateTime :=
  (s.events.find? fun row => row.key = key).map EventRow.createdAt

variable {s : Store} {key : EventKey} {row : EventRow} {t : DateTime}

lemma exists_of_time (h : s.time key = some t) :
    ∃ row ∈ s.events, row.key = key ∧ row.createdAt = t := by
  obtain ⟨row, hfind, ht⟩ := Option.map_eq_some_iff.mp h
  have hkey := find?_some hfind
  exact ⟨row, mem_of_find?_eq_some hfind, of_decide_eq_true hkey, ht⟩

lemma time_isSome_of_mem (hrow : row ∈ s.events) : (s.time row.key).isSome := by
  unfold time
  rw [Option.isSome_map, find?_isSome]
  exact ⟨row, hrow, decide_eq_true rfl⟩

lemma isLive_eq_true : s.isLive key ↔ ∃ row ∈ s.events, row.key = key ∧ row.isLive := by
  simp [isLive]

lemma getThreadMetadataByEvent_eq_some {id : EventId} {row : ThreadRow}
    (h : s.getThreadMetadataByEvent community id = some row) :
    row ∈ s.threads ∧ row.key = (community, id) := by
  have hkey := find?_some h
  exact ⟨mem_of_find?_eq_some h, of_decide_eq_true hkey⟩

lemma getThreadMetadataByEvent_of_mem (huniq : (s.threads.map ThreadRow.key).Nodup)
    {id : EventId} {row : ThreadRow} (hrow : row ∈ s.threads)
    (hkey : row.key = (community, id)) : s.getThreadMetadataByEvent community id = some row := by
  have hsome : (s.getThreadMetadataByEvent community id).isSome := by
    unfold getThreadMetadataByEvent
    rw [find?_isSome]
    exact ⟨row, hrow, decide_eq_true hkey⟩
  obtain ⟨found, hfnd⟩ := Option.isSome_iff_exists.mp hsome
  obtain ⟨hmem, hfoundKey⟩ := getThreadMetadataByEvent_eq_some hfnd
  rw [hfnd, inj_on_of_nodup_map huniq hmem hrow (hfoundKey.trans hkey.symm)]

end Store

open Thread.Store

/-- One row for each id with a row, with the time of its event and exact counts. -/
structure Exact (fromTimestamp : ℕ → Option DateTime) (s : Store) : Prop where
  unique : (s.threads.map ThreadRow.key).Nodup
  stamped : ∀ row ∈ s.threads, ∃ e ∈ s.events,
    e.key = row.key ∧ fromTimestamp e.event.createdAt = some row.eventCreatedAt
  replyCount : ∀ row ∈ s.threads, row.replyCount = s.liveReplies row.key
  descendantCount : ∀ row ∈ s.threads, row.descendantCount = s.liveDescendants row.key

section Store

variable (fromTimestamp : ℕ → Option DateTime) (createdAtOf : EventId → ℕ)

/-- The rows are true, and the links of the rows are those of the replies. -/
structure Consistent (s : Store) : Prop where
  fixed : ∀ e ∈ s.events,
    e.event.createdAt = createdAtOf e.event.id ∧ fromTimestamp e.event.createdAt = some e.createdAt
  tallies : Tallies s.time s.liveReplies s.liveDescendants s.threads
  links : ∀ r : Reply, r.link ∈ s.threads.map link ↔ r ∈ s.replies
  keys : (s.replies.map Reply.key).Nodup
  stored : ∀ r ∈ s.replies, (s.time r.key).isSome

/-- Events stay stored, replies stay replies, and what is stored does not become one. -/
structure Later (s s' : Store) : Prop where
  time : ∀ key t, s.time key = some t → s'.time key = some t
  replies : ∀ r ∈ s.replies, r ∈ s'.replies
  back : ∀ r ∈ s'.replies, (s.time r.key).isSome → r ∈ s.replies

instance : Std.Refl Later where
  refl _ := ⟨fun _ _ h => h, fun _ h => h, fun _ h _ => h⟩

instance : IsTrans Store Later where
  trans _ _ _ h h' :=
    { time := fun key t ht => h'.time key t (h.time key t ht)
      replies := fun r hr => h'.replies r (h.replies r hr)
      back := fun r hr hsome => by
        obtain ⟨t, ht⟩ := Option.isSome_iff_exists.mp hsome
        exact h.back r (h'.back r hr (Option.isSome_iff_exists.mpr ⟨t, h.time _ t ht⟩)) hsome }

variable {fromTimestamp createdAtOf} {s : Store} {key : EventKey} {t : DateTime}

namespace Consistent

section

variable (h : Consistent fromTimestamp createdAtOf s)
include h

lemma exact : Exact fromTimestamp s where
  unique := h.tallies.unique
  stamped row hrow := by
    obtain ⟨e, he, hkey, ht⟩ := exists_of_time (h.tallies.stamped row hrow)
    rw [← ht]
    exact ⟨e, he, hkey, (h.fixed e he).2⟩
  replyCount := h.tallies.replyCount
  descendantCount := h.tallies.descendantCount

lemma time_eq (ht : s.time key = some t) : fromTimestamp (createdAtOf key.2) = some t := by
  obtain ⟨row, hrow, rfl, rfl⟩ := exists_of_time ht
  obtain ⟨hcre, hfrom⟩ := h.fixed row hrow
  rw [← hfrom, hcre]
  rfl

lemma time_of_mem (hrow : row ∈ s.events) : s.time row.key = some row.createdAt := by
  obtain ⟨t, ht⟩ := Option.isSome_iff_exists.mp (time_isSome_of_mem hrow)
  obtain ⟨hcre, hfrom⟩ := h.fixed row hrow
  have hfix := h.time_eq ht
  rw [show row.key.2 = row.event.id from rfl, ← hcre, hfrom] at hfix
  rw [ht, hfix]

lemma reply_of_row (hrow : row ∈ s.threads) (hpar : row.parentEventId = some parentId) :
    ⟨row.communityId, row.eventId, parentId, row.rootEventId⟩ ∈ s.replies := by
  refine (h.links _).mp (mem_map.mpr ⟨row, hrow, ?_⟩)
  simp only [link, Reply.link, hpar]
  rfl

end

end Consistent

/-! ### A new event -/

section Insert

variable {row : EventRow} {threads : List ThreadRow} {replies : List Reply}

lemma time_cons : (⟨row :: s.events, threads, replies⟩ : Store).time key =
    if row.key = key then some row.createdAt else s.time key := by
  unfold time
  by_cases h : row.key = key
  · simp [h]
  · simp [h]

lemma isLive_cons (hlive : row.isLive) : (⟨row :: s.events, threads, replies⟩ : Store).isLive key =
      (decide (row.key = key) || s.isLive key) := by
  simp [isLive, hlive]

variable {extra : List Reply}

/-- The replies that come with a new event are live, and those before it are as live as they were. -/
lemma liveCount_cons (hlive : row.isLive) (hnew : s.time row.key = none)
    (hext : ∀ r ∈ extra, r.key = row.key) (hsto : ∀ r ∈ s.replies, (s.time r.key).isSome)
    (p : Reply → Bool) : (⟨row :: s.events, threads, extra ++ s.replies⟩ : Store).liveCount p =
      extra.countP p + s.liveCount p := by
  unfold liveCount
  rw [countP_append]
  congr 1
  · refine countP_congr fun r hr => ?_
    rw [isLive_cons hlive, hext r hr]
    simp
  refine countP_congr fun r hr => ?_
  have hne : row.key ≠ r.key := by
    intro heq
    have hsome := hsto r hr
    rw [← heq, hnew] at hsome
    cases hsome
  rw [isLive_cons hlive]
  simp [hne]

variable {community : CommunityId} {m : ThreadMetadata}

lemma countP_parentKey_reply (count : EventKey → ℕ) (k : EventKey) :
    (m.reply? community).toList.countP (fun r => r.parentKey = k) + count k =
      repliesWith count community m k := by
  unfold ThreadMetadata.reply? repliesWith
  cases m.parentEventId with
  | none => simp
  | some parentId =>
    by_cases hk : (community, parentId) = k
    · subst hk
      simp [bump, Reply.parentKey, Nat.add_comm]
    · simp [bump, Reply.parentKey, hk, Function.update_of_ne (Ne.symm hk)]

lemma countP_rootKey_reply (count : EventKey → ℕ) (k : EventKey) :
    (m.reply? community).toList.countP (fun r => r.rootKey = some k) + count k =
      descendantsWith count community m k := by
  unfold ThreadMetadata.reply? descendantsWith
  cases m.parentEventId with
  | none => simp
  | some parentId =>
    cases m.rootEventId with
    | none => simp [Reply.rootKey]
    | some rootId =>
      by_cases hk : (community, rootId) = k
      · subst hk
        simp [bump, Reply.rootKey, Nat.add_comm]
      · simp [bump, Reply.rootKey, hk, Function.update_of_ne (Ne.symm hk)]

section

variable (h : Consistent fromTimestamp createdAtOf s)

include h

lemma Consistent.conflict_iff (hfix : row.event.createdAt = createdAtOf row.event.id)
    (hfrom : fromTimestamp row.event.createdAt = some row.createdAt) :
    (s.events.any fun r => r.key = row.key && r.createdAt = row.createdAt) ↔
      (s.time row.key).isSome := by
  simp only [any_eq_true, Bool.and_eq_true, decide_eq_true_eq]
  constructor
  · rintro ⟨r, hr, hkey, -⟩
    rw [← hkey]
    exact time_isSome_of_mem hr
  intro hsome
  obtain ⟨t, ht⟩ := Option.isSome_iff_exists.mp hsome
  obtain ⟨r, hr, hkey, hcre⟩ := exists_of_time ht
  have hid := h.time_eq ht
  rw [show row.key.2 = row.event.id from rfl, ← hfix, hfrom] at hid
  exact ⟨r, hr, hkey, hcre.trans (Option.some.inj hid).symm⟩

/-- The times that the metadata of a new event brings. -/
structure MetaRight (s : Store) (row : EventRow) (m : ThreadMetadata) : Prop where
  eventId : m.eventId = row.event.id
  createdAt : m.eventCreatedAt = row.createdAt
  parent : ∀ id, m.parentEventId = some id →
    s.time (row.communityId, id) = some (m.parentEventCreatedAt.getD m.eventCreatedAt)
  root : ∀ id, m.rootEventId = some id →
    s.time (row.communityId, id) = some (m.rootEventCreatedAt.getD m.eventCreatedAt)

omit h in
lemma Later.of_cons (hnew : s.time row.key = none) (hext : ∀ r ∈ extra, r.key = row.key) :
    Later s ⟨row :: s.events, threads, extra ++ s.replies⟩ where
  time key t ht := by
    rw [time_cons, if_neg]
    · exact ht
    rintro rfl
    rw [hnew] at ht
    cases ht
  replies r hr := mem_append_right _ hr
  back r hr hsome := by
    rcases mem_append.mp hr with hr | hr
    · rw [hext r hr, hnew] at hsome
      cases hsome
    · exact hr

lemma Consistent.cons (hfix : row.event.createdAt = createdAtOf row.event.id)
    (hfrom : fromTimestamp row.event.createdAt = some row.createdAt) (hlive : row.isLive)
    (hnew : s.time row.key = none) (hext : ∀ r ∈ extra, r.key = row.key)
    (hkeys : (extra.map Reply.key).Nodup)
    (htal : Tallies (⟨row :: s.events, threads, extra ++ s.replies⟩ : Store).time
      (fun k => extra.countP (fun r => r.parentKey = k) + s.liveReplies k)
      (fun k => extra.countP (fun r => r.rootKey = some k) + s.liveDescendants k) threads)
    (hlinks : ∀ r : Reply, r.link ∈ threads.map link ↔ r ∈ extra ∨ r.link ∈ s.threads.map link) :
    Consistent fromTimestamp createdAtOf ⟨row :: s.events, threads, extra ++ s.replies⟩ := by
  have hlat : Later s ⟨row :: s.events, threads, extra ++ s.replies⟩ := Later.of_cons hnew hext
  have hcnt (p : Reply → Bool) : (⟨row :: s.events, threads, extra ++ s.replies⟩ : Store).liveCount
      p = extra.countP p + s.liveCount p := liveCount_cons hlive hnew hext h.stored p
  refine ⟨forall_mem_cons.mpr ⟨⟨hfix, hfrom⟩, h.fixed⟩, ?_, ?_, ?_, ?_⟩
  · have hreps : (⟨row :: s.events, threads, extra ++ s.replies⟩ : Store).liveReplies =
        fun k => extra.countP (fun r => r.parentKey = k) + s.liveReplies k := funext fun _ => hcnt _
    have hdesc : (⟨row :: s.events, threads, extra ++ s.replies⟩ : Store).liveDescendants =
        fun k => extra.countP (fun r => r.rootKey = some k) + s.liveDescendants k :=
      funext fun _ => hcnt _
    rw [hreps, hdesc]
    exact htal
  · intro r
    rw [hlinks, h.links, mem_append]
  · rw [map_append]
    refine nodup_append'.mpr ⟨hkeys, h.keys, ?_⟩
    intro k hk hk'
    obtain ⟨r, hr, rfl⟩ := mem_map.mp hk
    obtain ⟨r', hr', heq⟩ := mem_map.mp hk'
    have hsome := h.stored r' hr'
    rw [heq, hext r hr, hnew] at hsome
    cases hsome
  intro r hr
  rcases mem_append.mp hr with hr | hr
  · rw [hext r hr, time_cons, if_pos rfl]
    rfl
  · obtain ⟨t, ht⟩ := Option.isSome_iff_exists.mp (h.stored r hr)
    exact Option.isSome_iff_exists.mpr ⟨t, hlat.time _ t ht⟩

lemma Consistent.insertEvent (hfix : row.event.createdAt = createdAtOf row.event.id)
    (hfrom : fromTimestamp row.event.createdAt = some row.createdAt) (hlive : row.isLive)
    {m : Option ThreadMetadata} (hm : ∀ m' ∈ m, MetaRight s row m') (now : DateTime) :
    Consistent fromTimestamp createdAtOf (s.insertEvent row m now).1 ∧
      Later s (s.insertEvent row m now).1 := by
  unfold Store.insertEvent
  split_ifs with hconf
  · exact ⟨h, refl s⟩
  have hnew : s.time row.key = none := by
    rw [h.conflict_iff hfix hfrom, Option.not_isSome_iff_eq_none] at hconf
    exact hconf
  cases m with
  | none =>
    have hnone : ∀ r ∈ ([] : List Reply), r.key = row.key := fun r hr => nomatch hr
    have hlat : Later s ⟨row :: s.events, s.threads, [] ++ s.replies⟩ := Later.of_cons hnew hnone
    refine ⟨h.cons hfix hfrom hlive hnew hnone nodup_nil ?_ fun r => ?_, hlat⟩
    · simpa using h.tallies.mono hlat.time
    · simp
  | some m =>
    obtain ⟨hid, hcre, hpar, hroot⟩ := hm m rfl
    have hext : ∀ r ∈ (m.reply? row.communityId).toList, r.key = row.key := by
      intro r hr
      obtain ⟨parentId, -, rfl⟩ := Option.map_eq_some_iff.mp (Option.mem_toList.mp hr)
      exact Prod.ext rfl hid
    have hkeys : ((m.reply? row.communityId).toList.map Reply.key).Nodup := by
      cases m.reply? row.communityId with
      | none => exact nodup_nil
      | some r => exact nodup_singleton _
    have hlat : Later s ⟨row :: s.events, recordThread s.threads row.communityId m now,
        (m.reply? row.communityId).toList ++ s.replies⟩ := Later.of_cons hnew hext
    have htimes : TimesRight (⟨row :: s.events, recordThread s.threads row.communityId m now,
        (m.reply? row.communityId).toList ++ s.replies⟩ : Store).time row.communityId m := by
      refine ⟨?_, fun id heq => hlat.time _ _ (hpar id heq),
        fun id heq => hlat.time _ _ (hroot id heq)⟩
      have hown : row.key = (row.communityId, m.eventId) := Prod.ext rfl hid.symm
      rw [time_cons, if_pos hown, hcre]
    have hrow : (row.communityId, m.eventId) ∉ s.threads.map ThreadRow.key := by
      intro hmem
      obtain ⟨r, hr, hkey⟩ := mem_map.mp hmem
      have hstamped := h.tallies.stamped r hr
      rw [hkey, hid, show (row.communityId, row.event.id) = row.key from rfl, hnew] at hstamped
      cases hstamped
    have htal := h.tallies.mono hlat.time
    refine ⟨h.cons hfix hfrom hlive hnew hext hkeys ?_ fun r => ?_, hlat⟩
    · rw [funext fun k => countP_parentKey_reply s.liveReplies k,
        funext fun k => countP_rootKey_reply s.liveDescendants k]
      exact htal.recordThread htimes hrow now
    · exact link_mem_recordThread htal htimes hrow now

lemma Consistent.accept (hfix : event.createdAt = createdAtOf event.id) {channelId : Option Uuid}
    {m : Option ThreadMetadata} (hm : ∀ createdAt, fromTimestamp event.createdAt = some createdAt →
      ∀ m' ∈ m, MetaRight s ⟨community, event, createdAt, channelId, none⟩ m') (now : DateTime) :
    Consistent fromTimestamp createdAtOf (s.accept fromTimestamp community event channelId m now) ∧
      Later s (s.accept fromTimestamp community event channelId m now) := by
  unfold Store.accept
  cases hins : insertEventWithThreadMetadataTx fromTimestamp s community event channelId m now with
  | error e => exact ⟨h, refl s⟩
  | ok r =>
    unfold insertEventWithThreadMetadataTx at hins
    simp only [bind_eq_ok, okOr_eq_ok, pure, Except.pure, Except.ok.injEq] at hins
    obtain ⟨_, -, _, -, createdAt, hfrom, rfl⟩ := hins
    exact h.insertEvent hfix hfrom rfl (hm createdAt hfrom) now

end

end Insert

/-! ### A deletion -/

section Delete

variable {now : DateTime}

lemma time_markDeleted (s : Store) (key : EventKey) (now : DateTime) :
    (s.markDeleted key now).time = s.time := by
  funext k
  unfold time markDeleted
  simp only [find?_map, Option.map_map]
  congr 1
  · funext row
    simp only [Function.comp_apply]
    split_ifs <;> rfl
  congr 1
  funext row
  simp only [Function.comp_apply]
  split_ifs <;> rfl

lemma isLive_markDeleted (s : Store) (key k : EventKey) (now : DateTime) :
    (s.markDeleted key now).isLive k = (s.isLive k && k ≠ key) := by
  rw [Bool.eq_iff_iff, Bool.and_eq_true, isLive_eq_true, isLive_eq_true]
  simp only [markDeleted, mem_map, decide_eq_true_eq]
  constructor
  · rintro ⟨_, ⟨row, hrow, rfl⟩, hkey, hlive⟩
    split_ifs at hkey hlive with hdel
    · cases hlive
    refine ⟨⟨row, hrow, hkey, hlive⟩, ?_⟩
    rintro rfl
    exact hdel ⟨hkey, hlive⟩
  rintro ⟨⟨row, hrow, hkey, hlive⟩, hne⟩
  refine ⟨row, ⟨row, hrow, ?_⟩, hkey, hlive⟩
  rw [if_neg]
  rintro ⟨rfl, -⟩
  exact hne hkey.symm

/-- What a deletion passes on is what the history says of its target. -/
structure TargetsRight (s : Store) (key : EventKey) (parentId rootId : Option EventId) : Prop where
  reply : ∀ r ∈ s.replies, r.key = key → parentId = some r.parentEventId ∧ rootId = r.rootEventId
  other : (∀ r ∈ s.replies, r.key ≠ key) → parentId = none

lemma liveCount_markDeleted_of_not (hnot : s.isLive key → ∀ r ∈ s.replies, r.key ≠ key)
    (p : Reply → Bool) : (s.markDeleted key now).liveCount p = s.liveCount p := by
  refine countP_congr fun r hr => ?_
  rw [isLive_markDeleted]
  cases hlive : s.isLive r.key with
  | false => simp
  | true =>
    have hne : r.key ≠ key := by
      intro heq
      rw [heq] at hlive
      exact hnot hlive r hr heq
    simp [hne]

lemma Later.of_eq (htime : s'.time = s.time) (hreps : s'.replies = s.replies) : Later s s' where
  time key t ht := by
    rw [htime]
    exact ht
  replies r hr := by
    rw [hreps]
    exact hr
  back r hr _ := by
    rw [hreps] at hr
    exact hr

section

variable (h : Consistent fromTimestamp createdAtOf s)
include h

lemma Consistent.markDeleted {threads : List ThreadRow}
    (htal : Tallies s.time (s.markDeleted key now).liveReplies
      (s.markDeleted key now).liveDescendants threads)
    (hlinks : threads.map link = s.threads.map link) :
    Consistent fromTimestamp createdAtOf { s.markDeleted key now with threads := threads } ∧
      Later s { s.markDeleted key now with threads := threads } := by
  have htime : ({ s.markDeleted key now with threads := threads } : Store).time = s.time :=
    time_markDeleted s key now
  refine ⟨⟨?_, ?_, ?_, h.keys, ?_⟩, Later.of_eq htime rfl⟩
  · intro e he
    obtain ⟨e', he', rfl⟩ := mem_map.mp he
    have hfix := h.fixed e' he'
    split_ifs <;> exact hfix
  · rw [htime]
    exact htal
  · intro r
    rw [hlinks]
    exact h.links r
  · rw [htime]
    exact h.stored

lemma Consistent.markDeleted_of_not (hnot : s.isLive key → ∀ r ∈ s.replies, r.key ≠ key) :
    Consistent fromTimestamp createdAtOf (s.markDeleted key now) ∧
      Later s (s.markDeleted key now) := by
  refine h.markDeleted ?_ rfl
  have hreps : (s.markDeleted key now).liveReplies = s.liveReplies :=
    funext fun _ => liveCount_markDeleted_of_not hnot _
  have hdesc : (s.markDeleted key now).liveDescendants = s.liveDescendants :=
    funext fun _ => liveCount_markDeleted_of_not hnot _
  rw [hreps, hdesc]
  exact h.tallies

lemma Consistent.tallies_uncountAncestors (hr : r ∈ s.replies) (hlive : s.isLive r.key) :
    Tallies s.time (s.markDeleted r.key now).liveReplies (s.markDeleted r.key now).liveDescendants
      (uncountAncestors s.threads r.communityId (some r.parentEventId) r.rootEventId) := by
  have hcnt (p : Reply → Bool) : (s.markDeleted r.key now).liveCount p + (if p r then 1 else 0) =
      s.liveCount p := by
    have hcnt := countP_eq_countP_key_ne_add h.keys hr fun r => p r && s.isLive r.key
    simp only [hlive, Bool.and_true] at hcnt
    unfold liveCount
    rw [hcnt]
    congr 1
    refine countP_congr fun r' _ => ?_
    rw [isLive_markDeleted, Bool.and_assoc]
  have hreps : (s.markDeleted r.key now).liveReplies = drop s.liveReplies r.parentKey := by
    refine eq_drop fun k => ?_
    have hk := hcnt fun r => r.parentKey = k
    simp only [decide_eq_true_eq] at hk
    exact hk
  have huncounted := h.tallies.uncountReply r.parentKey
  rw [← hreps] at huncounted
  cases hroot : r.rootEventId with
  | none =>
    have hdesc : (s.markDeleted r.key now).liveDescendants = s.liveDescendants := by
      funext k
      have hk := hcnt fun r => r.rootKey = some k
      rw [if_neg (by simp [Reply.rootKey, hroot])] at hk
      exact hk
    rw [hdesc]
    exact huncounted
  | some rootId =>
    have hdesc : (s.markDeleted r.key now).liveDescendants =
        drop s.liveDescendants (r.communityId, rootId) := by
      refine eq_drop fun k => ?_
      have hk := hcnt fun r => r.rootKey = some k
      have hrootKey : r.rootKey = some (r.communityId, rootId) := by rw [Reply.rootKey, hroot]; rfl
      simp only [decide_eq_true_eq, hrootKey, Option.some.injEq] at hk
      exact hk
    rw [hdesc]
    exact huncounted.uncountDescendant _

lemma Consistent.softDelete
    (ht : TargetsRight s (community, target) parentId rootId) : Consistent fromTimestamp createdAtOf
        (softDeleteEventAndUpdateThread s community target parentId rootId now).1 ∧
      Later s (softDeleteEventAndUpdateThread s community target parentId rootId now).1 := by
  unfold softDeleteEventAndUpdateThread
  simp only
  split_ifs with hlive
  · by_cases hrep : ∃ r ∈ s.replies, r.key = (community, target)
    · obtain ⟨r, hr, hkey⟩ := hrep
      obtain ⟨rfl, rfl⟩ := ht.reply r hr hkey
      obtain rfl : r.communityId = community := congrArg Prod.fst hkey
      rw [← hkey] at hlive ⊢
      exact h.markDeleted (h.tallies_uncountAncestors hr hlive) (map_link_uncountAncestors _ _ _)
    push Not at hrep
    obtain rfl := ht.other hrep
    exact h.markDeleted_of_not fun _ => hrep
  · exact h.markDeleted_of_not fun hlive' => absurd hlive' hlive

end

lemma deleteTargets_right (h : Consistent fromTimestamp createdAtOf s)
    (hlat : Later s s') {community : CommunityId} {target : EventId}
    (hsto : (s.time (community, target)).isSome) :
    TargetsRight s' (community, target) (deleteTargets s community target).1
      (deleteTargets s community target).2 := by
  constructor
  · intro r hr hkey
    rw [← hkey] at hsto
    have hlink := (h.links r).mpr (hlat.back r hr hsto)
    obtain ⟨row, hrow, hlink⟩ := mem_map.mp hlink
    have hrowKey : row.key = (community, target) := (congrArg Prod.fst hlink).trans hkey
    unfold deleteTargets
    rw [getThreadMetadataByEvent_of_mem h.tallies.unique hrow hrowKey]
    exact ⟨congrArg (·.2.1) hlink, congrArg (·.2.2) hlink⟩
  intro hnone
  unfold deleteTargets
  cases hfind : s.getThreadMetadataByEvent community target with
  | none => rfl
  | some row =>
    obtain ⟨hrow, hkey⟩ := getThreadMetadataByEvent_eq_some hfind
    cases hpar : row.parentEventId with
    | none => exact hpar
    | some parentId =>
      have hrep := h.reply_of_row hrow hpar
      exact absurd hkey (hnone _ (hlat.replies _ hrep))

end Delete

end Store

end Buzz.Db.Thread
