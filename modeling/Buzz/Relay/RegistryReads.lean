import Buzz.Lib.Run
import Buzz.Lib.Tally
import Buzz.Relay.FanOutIndex
import Mathlib.Data.Set.Card

/-!
What readers of the registry see.

A fan-out copies the candidates of an index and checks them one by one, and the registry may be
another one at each step.  Every check looks at the live entry, so stale candidates do no harm.

`total_connections` counts the rows of the subscription map.  A row stays when its last subscription
is removed, unless the connection goes as a whole, so the count can be too large.
`channel_subscriber_conns_scoped` reads the indexes, in which a subscription that matches no kind has
no place.  Where no row is emptied and every channel subscription names a kind or leaves the kinds
open, both say what they should.
-/

namespace Buzz.Relay

open Buzz.Core Lib SubscriptionRegistry List Function SubscriptionScope

/-! ### Fan-out on a registry that changes -/

/-- A fan-out under way. -/
structure FanOutRun where
  /-- The indexes that are still to be read. -/
  refs : List IndexRef
  /-- Copied from an index and not yet checked. -/
  candidates : List (ConnId × SubId)
  results : List (ConnId × SubId)

namespace FanOutRun

def start (c : CommunityId) (ev : StoredEvent) : FanOutRun := ⟨eventRefs c ev, [], []⟩

def step (c : CommunityId) (ev : StoredEvent) (f : FanOutRun) (r : SubscriptionRegistry) :
    FanOutRun :=
  match f.candidates, f.refs with
  | x :: rest, _ => { f with candidates := rest, results := r.pushMatch c ev f.results x }
  | [], ref :: refs => { f with refs := refs, candidates := r.listing ref }
  | [], [] => f

variable {c : CommunityId} {ev : StoredEvent} {f : FanOutRun}

lemma mem_results_step (h : x ∈ (f.step c ev r).results) :
    x ∈ f.results ∨ ∃ e, r.live x = some e ∧ selects c ev e := by
  unfold step at h
  split at h
  · next y rest _ hcandidates =>
    simp only [pushMatch_eq] at h
    split at h
    · next hy =>
      rcases mem_pushNew.mp h with hold | rfl
      · exact .inl hold
      · exact .inr ((Option.any_eq_true _ _).mp hy)
    · exact .inl h
  · exact .inl h
  · exact .inl h

/-- On a registry that stays as it is, the steps come to what `fanOutScoped` returns. -/
theorem steps_alone (r : SubscriptionRegistry) (c : CommunityId) (ev : StoredEvent) :
    ∃ n, (List.replicate n r).foldl (step c ev) (start c ev) = ⟨[], [], r.fanOutScoped c ev⟩ := by
  have hchk : ∀ refs xs results, (replicate xs.length r).foldl (step c ev) ⟨refs, xs, results⟩ =
      ⟨refs, [], collect (fun x => (r.live x).any (selects c ev)) results xs⟩ := by
    intro refs xs
    induction xs with
    | nil => exact fun results => rfl
    | cons x xs ih =>
      intro results
      rw [length_cons, replicate_succ, foldl_cons, step, ih, pushMatch_eq]
      rfl
  have hrefs : ∀ refs results, ∃ n, (replicate n r).foldl (step c ev) ⟨refs, [], results⟩ =
      ⟨[], [], collect (fun x => (r.live x).any (selects c ev)) results
        (refs.flatMap r.listing)⟩ := by
    intro refs
    induction refs with
    | nil => exact fun results => ⟨0, rfl⟩
    | cons ref refs ih =>
      intro results
      obtain ⟨n, hn⟩ := ih (collect (fun x => (r.live x).any (selects c ev))
        results (r.listing ref))
      refine ⟨1 + ((r.listing ref).length + n), ?_⟩
      rw [replicate_add, replicate_add, foldl_append, foldl_append]
      simp [step, hchk, hn, collect_append]
  rw [fanOutScoped_eq_collect]
  exact hrefs _ []

/-- What the scope of a subscription has to be for an event. -/
def InScope (e : SubEntry) (c : CommunityId) (ev : StoredEvent) : Prop :=
  e.communityId = c ∧ (e.scope = .global ∧ ev.channelId = none ∨
    ∃ ids ch, e.scope = .channels ids ∧ ev.channelId = some ch ∧ ch ∈ ids)

lemma inScope_of_selects (h : selects c ev e) : InScope e c ev := by
  simp only [selects, Bool.and_eq_true, decide_eq_true_eq] at h
  obtain ⟨⟨hcomm, hsc⟩, -⟩ := h
  refine ⟨hcomm, ?_⟩
  cases hs : e.scope with
  | global =>
    cases hch : ev.channelId with
    | none => exact .inl ⟨rfl, rfl⟩
    | some ch => simp [matchesChannel, hs, hch] at hsc
  | channels ids =>
    cases hch : ev.channelId with
    | none => simp [matchesChannel, hs, hch] at hsc
    | some ch =>
      exact .inr ⟨ids, ch, rfl, rfl, by simpa [matchesChannel, hs, hch] using hsc⟩

/-- **Stale candidates do no harm.** Whatever the registry is at each step, and whatever candidates
were copied before: a result that was not there at first was added in a step in which the registry
had it as a live subscription of the community, a global one if the event has no channel, and else
one for the event's channel. -/
theorem added_in_scope (c : CommunityId) (ev : StoredEvent) (f : FanOutRun)
    (rs : List SubscriptionRegistry) (x : ConnId × SubId) :
    x ∈ (rs.foldl (step c ev) f).results → x ∈ f.results ∨
      ∃ before r after, rs = before ++ r :: after ∧ x ∉ (before.foldl (step c ev) f).results ∧
        ∃ e, r.live x = some e ∧ InScope e c ev := by
  induction rs using reverseRecOn with
  | nil => exact .inl
  | append_singleton rs r ih =>
    intro hx
    by_cases hbefore : x ∈ (rs.foldl (step c ev) f).results
    · refine (ih hbefore).imp_right ?_
      rintro ⟨before, r', after, rfl, hadded⟩
      exact ⟨before, r', after ++ [r], by simp, hadded⟩
    rw [foldl_append] at hx
    rcases mem_results_step hx with hx | ⟨e, he, hselects⟩
    · exact absurd hx hbefore
    · exact .inr ⟨rs, r, [], rfl, hbefore, e, he, inScope_of_selects hselects⟩

/-- The first of two listeners of a channel has moved to another. -/
def movedListener : SubscriptionRegistry :=
  runOps [.registerScoped ⟨⟨1⟩⟩ ⟨1⟩ "notes" [{ }] (some ⟨2⟩),
    .registerScoped ⟨⟨1⟩⟩ ⟨2⟩ "notes" [{ }] (some ⟨2⟩),
    .registerScoped ⟨⟨1⟩⟩ ⟨1⟩ "notes" [{ }] (some ⟨3⟩)]

def note : StoredEvent := ⟨⟨⟨0⟩, ⟨0⟩, 0, 1, [], ""⟩, some ⟨2⟩⟩

/-- Both were copied before. -/
def bothCopied : FanOutRun := ⟨[], [(⟨1⟩, "notes"), (⟨2⟩, "notes")], []⟩

theorem added_in_scope_listener :
    ([movedListener, movedListener].foldl (step ⟨⟨1⟩⟩ note) bothCopied).results =
      [(⟨2⟩, "notes")] ∧
    ((⟨2⟩, "notes") ∈ bothCopied.results ∨ ∃ before r after,
      [movedListener, movedListener] = before ++ r :: after ∧
        (⟨2⟩, "notes") ∉ (before.foldl (step ⟨⟨1⟩⟩ note) bothCopied).results ∧
          ∃ e, r.live (⟨2⟩, "notes") = some e ∧ InScope e ⟨⟨1⟩⟩ note) := by
  have hresults : ([movedListener, movedListener].foldl (step ⟨⟨1⟩⟩ note) bothCopied).results =
      [(⟨2⟩, "notes")] := by decide +kernel
  exact ⟨hresults, added_in_scope _ _ _ _ _ (hresults ▸ mem_cons_self)⟩

end FanOutRun

/-! ### Counts and listings -/

namespace SubscriptionRegistry

variable (r : SubscriptionRegistry)

def totalConnections : ℕ := r.subs.keys.length

def countEntry (counts : Table CommunityId ℕ) (e : SubEntry) : Table CommunityId ℕ :=
  counts.insert e.communityId ((counts.lookup e.communityId).getD 0 + 1)

def perCommunitySubscriptions : Table CommunityId ℕ :=
  r.subs.entries.foldl (fun counts conn =>
    conn.2.entries.foldl (fun counts s => countEntry counts s.2) counts) ∅

def channelSubscriberConnsScoped (c : CommunityId) (ch : Uuid) : List ConnId :=
  (r.channelKindIndex.entries.flatMap (fun e =>
      if e.1.1 = c ∧ e.1.2.channelId = ch then e.2.map Prod.fst else []) ++
    (Table.postings r.channelWildcardIndex (c, ch)).map Prod.fst).dedup

end SubscriptionRegistry

def countTotal (counts : Table CommunityId ℕ) : ℕ := counts.entries.foldr (fun e n => e.2 + n) 0

/-- The readers say of the registry what they should of the live subscriptions. -/
structure Reads (r : SubscriptionRegistry) (live : LiveSubs) : Prop where
  connections : r.totalConnections = {conn | ∃ sub e, live (conn, sub) = some e}.ncard
  subscriptions : countTotal r.perCommunitySubscriptions = {x | ∃ e, live x = some e}.ncard
  listing : ∀ c ch conn, conn ∈ r.channelSubscriberConnsScoped c ch ↔
    ∃ sub e, live (conn, sub) = some e ∧ e.communityId = c ∧ ch ∈ e.scope.channelIds

/-- The filters match no kind at all. -/
def Kindless (filters : List Filter) : Prop := extractKindsFromFilters filters = some []

instance (filters : List Filter) : Decidable (Kindless filters) :=
  inferInstanceAs (Decidable (_ = _))

/-- A registration for channels has filters that match some kind, and a removal leaves the
connection a subscription, if it had one. -/
def SubOp.Plain (r : SubscriptionRegistry) : SubOp → Prop
  | .registerScoped _ _ _ filters channelId => channelId.isSome → ¬Kindless filters
  | .registerChannelsScoped _ _ _ filters channelIds => channelIds ≠ [] → ¬Kindless filters
  | .removeSubscription conn sub =>
    (∃ sub e, r.live (conn, sub) = some e) → ∃ other e, other ≠ sub ∧ r.live (conn, other) = some e
  | .removeConnection _ => True
  | .removeChannelSubscriptionsScoped c conn ch =>
    (∃ sub e, r.live (conn, sub) = some e) → ∃ sub e, r.live (conn, sub) = some e ∧
      (e.communityId = c → ch ∈ e.scope.channelIds → e.dropChannel ch ≠ none)

variable {r : SubscriptionRegistry}

section Views

lemma ncard_eq_length {α : Type*} {s : Set α} {l : List α} (hnd : l.Nodup)
    (h : ∀ a, a ∈ s ↔ a ∈ l) : s.ncard = l.length := by
  classical
  have hset : s = ↑l.toFinset := by
    ext a
    simp [h a]
  rw [hset, Set.ncard_coe_finset, toFinset_card_of_nodup hnd]

variable (counts : Table CommunityId ℕ)

lemma countTotal_eq :
    countTotal counts = (tally (fun _ n => Multiset.replicate n ()) counts).card := by
  unfold countTotal tally
  induction counts.entries with
  | nil => rfl
  | cons e l ih =>
    rw [foldr_cons, ih, map_cons, sum_cons, Multiset.card_add, Multiset.card_replicate]

lemma countTotal_countEntry (e : SubEntry) :
    countTotal (countEntry counts e) = countTotal counts + 1 := by
  have hins := congrArg Multiset.card (tally_insert_add
    (fun (_ : CommunityId) n => Multiset.replicate n ()) counts e.communityId
    ((counts.lookup e.communityId).getD 0 + 1))
  rw [countTotal_eq, countTotal_eq]
  simp only [Multiset.card_add, Multiset.card_replicate, tallyAt] at hins
  cases hold : counts.lookup e.communityId with
  | none =>
    simp only [hold, Option.elim_none, Option.getD_none, Multiset.card_zero] at hins
    simp only [countEntry, hold, Option.getD_none]
    omega
  | some n =>
    simp only [hold, Option.elim_some, Option.getD_some, Multiset.card_replicate] at hins
    simp only [countEntry, hold, Option.getD_some]
    omega

def SubscriptionRegistry.held (r : SubscriptionRegistry) : List (ConnId × SubId) :=
  r.subs.entries.flatMap fun conn => conn.2.keys.map fun sub => (conn.1, sub)

lemma mem_held : x ∈ r.held ↔ ∃ e, r.live x = some e := by
  obtain ⟨conn, sub⟩ := x
  simp only [held, live, mem_flatMap, mem_map, Prod.mk.injEq, Option.bind_eq_some_iff]
  constructor
  · rintro ⟨⟨conn, m⟩, hm, sub, hsub, rfl, rfl⟩
    obtain ⟨e, he⟩ := Option.isSome_iff_exists.mp (AList.lookup_isSome.mpr hsub)
    exact ⟨e, m, AList.mem_lookup_iff.mpr hm, he⟩
  rintro ⟨e, m, hm, he⟩
  exact ⟨⟨conn, m⟩, AList.mem_lookup_iff.mp hm, sub,
    AList.lookup_isSome.mp (Option.isSome_of_eq_some he), rfl, rfl⟩

lemma nodup_held (r : SubscriptionRegistry) : r.held.Nodup := by
  refine nodup_flatMap.mpr ⟨?_, ?_⟩
  · intro conn _
    exact conn.2.keys_nodup.map fun _ _ h => (Prod.mk.inj h).2
  refine (nodupKeys_iff_pairwise.mp r.subs.nodupKeys).imp ?_
  intro conn conn' hne x hx hx'
  obtain ⟨_, -, rfl⟩ := mem_map.mp hx
  obtain ⟨_, -, heq⟩ := mem_map.mp hx'
  exact hne (Prod.mk.inj heq).1.symm

lemma countTotal_perCommunitySubscriptions (r : SubscriptionRegistry) :
    countTotal r.perCommunitySubscriptions = r.held.length := by
  have hrow : ∀ (es : List (Sigma fun _ : SubId => SubEntry)) counts,
      countTotal (es.foldl (fun counts s => countEntry counts s.2) counts) =
        countTotal counts + es.length := by
    intro es
    induction es with
    | nil => exact fun counts => rfl
    | cons s es ih =>
      intro counts
      rw [foldl_cons, ih, countTotal_countEntry, length_cons]
      omega
  have hrows : ∀ (rows : List (Sigma fun _ : ConnId => Table SubId SubEntry)) counts,
      countTotal (rows.foldl (fun counts conn =>
        conn.2.entries.foldl (fun counts s => countEntry counts s.2) counts)
        counts) = countTotal counts +
          (rows.flatMap fun conn => conn.2.keys.map fun sub => (conn.1, sub)).length := by
    intro rows
    induction rows with
    | nil => exact fun counts => rfl
    | cons row rows ih =>
      intro counts
      rw [foldl_cons, ih, hrow, flatMap_cons, length_append, length_map,
        AList.keys, keys, length_map]
      omega
  unfold perCommunitySubscriptions
  rw [hrows]
  exact zero_add _

def OfChannel (c : CommunityId) (ch : Uuid) (ref : IndexRef) : Prop :=
  ref = .channelWildcard c ch ∨ ∃ k, ref = .channelKind c ch k

lemma exists_ofChannel_iff : (∃ ref, OfChannel c ch ref ∧ ref ∈ entryRefs e) ↔
      e.communityId = c ∧ ch ∈ e.scope.channelIds ∧ ¬Kindless e.filters := by
  cases hs : e.scope with
  | global =>
    simp only [channelIds, not_mem_nil, false_and, and_false, iff_false]
    rintro ⟨ref, hof, href⟩
    simp only [entryRefs, hs, globalRefs] at href
    split at href
    · obtain ⟨_, -, rfl⟩ := mem_map.mp href
      simp [OfChannel] at hof
    split at href
    · obtain rfl := mem_singleton.mp href
      simp [OfChannel] at hof
    · obtain ⟨_, -, rfl⟩ := mem_map.mp href
      simp [OfChannel] at hof
  | channels ids =>
    simp only [entryRefs, hs, mem_flatMap]
    constructor
    · rintro ⟨ref, hof, ch', hch', href⟩
      have hkinds : ¬Kindless e.filters := by
        intro hnone
        simp [channelRefs, show extractKindsFromFilters e.filters = some [] from hnone] at href
      rcases hof with rfl | ⟨k, rfl⟩
      all_goals
        rcases channelRefs_form href with heq | ⟨_, heq⟩ <;> cases heq
        exact ⟨rfl, hch', hkinds⟩
    rintro ⟨rfl, hch, hkinds⟩
    cases hk : extractKindsFromFilters e.filters with
    | none => exact ⟨_, .inl rfl, ch, hch, by simp [channelRefs, hk]⟩
    | some kinds =>
      cases kinds with
      | nil => exact absurd hk hkinds
      | cons k kinds => exact ⟨_, .inr ⟨k, rfl⟩, ch, hch, by simp [channelRefs, hk]⟩

lemma mem_channelSubscriberConnsScoped : conn ∈ r.channelSubscriberConnsScoped c ch ↔
      ∃ sub ref, OfChannel c ch ref ∧ (conn, sub) ∈ r.listing ref := by
  simp only [channelSubscriberConnsScoped, mem_dedup, mem_append, mem_flatMap, mem_map]
  constructor
  · rintro (⟨⟨⟨c', ch', k⟩, xs⟩, hent, hx⟩ | ⟨⟨_, sub⟩, hx, rfl⟩)
    · split_ifs at hx with hkey
      · obtain ⟨rfl, rfl⟩ := hkey
        obtain ⟨⟨_, sub⟩, hsub, rfl⟩ := mem_map.mp hx
        refine ⟨sub, _, .inr ⟨k, rfl⟩, ?_⟩
        rw [listing, Table.postings, AList.mem_lookup_iff.mpr hent]
        exact hsub
      · cases hx
    · exact ⟨sub, _, .inl rfl, hx⟩
  rintro ⟨sub, _, rfl | ⟨k, rfl⟩, hx⟩
  · exact .inr ⟨(conn, sub), hx, rfl⟩
  simp only [listing, Table.postings] at hx
  cases hxs : r.channelKindIndex.lookup (c, ⟨ch, k⟩) with
  | none => simp [hxs] at hx
  | some xs =>
    rw [hxs] at hx
    refine .inl ⟨⟨(c, ⟨ch, k⟩), xs⟩, AList.mem_lookup_iff.mp hxs, ?_⟩
    rw [if_pos ⟨rfl, rfl⟩]
    exact mem_map_of_mem hx

end Views

/-! ### Runs -/

/-- No row is empty, and no channel subscription matches no kind. -/
structure Kept (r : SubscriptionRegistry) : Prop where
  indexed : r.Indexed
  occupied : ∀ conn, (r.subs.lookup conn).isSome → ∃ sub e, r.live (conn, sub) = some e
  kinds : ∀ x e, r.live x = some e → e.scope.channelIds ≠ [] → ¬Kindless e.filters

section Rows

variable {conn conn' : ConnId}

lemma isSome_insert_row (hm : r.subs.lookup conn = some m) :
    ((r.subs.insert conn m').lookup conn').isSome = (r.subs.lookup conn').isSome := by
  rw [Table.lookup_insert_if]
  split_ifs with h
  · rw [h, hm]
    rfl
  · rfl

lemma isSome_removeSubscription (sub : SubId) :
    ((r.removeSubscription conn sub).1.subs.lookup conn').isSome =
      (r.subs.lookup conn').isSome := by
  unfold removeSubscription
  split
  · rfl
  next m hm =>
  split
  · rfl
  · rw [removeFromIndex_subs]
    exact isSome_insert_row hm

lemma isSome_removeConnection (h : ((r.removeConnection conn).1.subs.lookup conn').isSome) :
    conn' ≠ conn ∧ (r.subs.lookup conn').isSome := by
  unfold removeConnection at h
  split at h
  · next hnone =>
    refine ⟨?_, h⟩
    rintro rfl
    rw [hnone] at h
    cases h
  rw [foldl_removeFromIndex_subs] at h
  obtain ⟨m, hm⟩ := Option.isSome_iff_exists.mp h
  exact (Table.lookup_erase_eq_some.mp hm).imp_right Option.isSome_of_eq_some

lemma isSome_removeChannelOf (c : CommunityId) (ch : Uuid) (sub : SubId)
    (updates : List ChannelSubscriptionUpdate) :
    ((removeChannelOf c conn ch (r, updates) sub).1.subs.lookup conn').isSome =
      (r.subs.lookup conn').isSome := by
  unfold removeChannelOf
  simp only
  split
  · rfl
  next m hm =>
  split
  · rfl
  split
  · rfl
  · rw [removeFromIndex_subs]
    exact isSome_insert_row hm

lemma isSome_removeChannelSubscriptionsScoped (c : CommunityId) (ch : Uuid) :
    ((r.removeChannelSubscriptionsScoped c conn ch).1.subs.lookup conn').isSome =
      (r.subs.lookup conn').isSome := by
  unfold removeChannelSubscriptionsScoped
  apply foldlRecOn (motive := fun s : SubscriptionRegistry × List ChannelSubscriptionUpdate =>
    (s.1.subs.lookup conn').isSome = (r.subs.lookup conn').isSome)
  · rfl
  · rintro ⟨r', updates⟩ ih sub -
    exact (isSome_removeChannelOf c ch sub updates).trans ih

end Rows

section Steps

lemma Kept.register (h : Kept r) {op : SubOp}
    (hexec : op.exec r = (r.registerWithScope c conn sub filters scope).1)
    (happly : op.apply r.live = Function.update r.live (conn, sub) (some ⟨filters, c, scope⟩))
    (hkinds : scope.channelIds ≠ [] → ¬Kindless filters) : Kept (op.exec r) := by
  obtain ⟨hlive, hidx⟩ := exec_spec h.indexed op
  rw [happly] at hlive
  refine ⟨hidx, ?_, ?_⟩
  · intro conn' hrow
    rw [hlive]
    by_cases hconn : conn' = conn
    · subst hconn
      exact ⟨sub, _, update_self ..⟩
    simp only [hexec, registerWithScope, insertIntoIndex_subs] at hrow
    rw [AList.lookup_insert_ne hconn, isSome_removeSubscription] at hrow
    obtain ⟨sub', e, he⟩ := h.occupied conn' hrow
    exact ⟨sub', e, by rw [update_of_ne (by simp [hconn]), he]⟩
  intro x e he hchans
  rw [hlive] at he
  by_cases hx : x = (conn, sub)
  · subst hx
    rw [update_self] at he
    cases he
    exact hkinds hchans
  · rw [update_of_ne hx] at he
    exact h.kinds x e he hchans

lemma dropChannel_eq_some {e e' : SubEntry} (h : e.dropChannel ch = some e') :
    e'.filters = e.filters := by
  unfold SubEntry.dropChannel at h
  split at h
  · cases h
    rfl
  split_ifs at h
  cases h
  rfl

lemma Kept.exec (h : Kept r) {op : SubOp} (hop : op.Plain r) : Kept (op.exec r) := by
  obtain ⟨hlive, hidx⟩ := exec_spec h.indexed op
  cases op with
  | registerScoped c conn sub filters channelId =>
    refine h.register rfl rfl fun hchans => hop ?_
    cases channelId with
    | none => exact absurd rfl hchans
    | some ch => rfl
  | registerChannelsScoped c conn sub filters channelIds => exact h.register rfl rfl hop
  | removeSubscription conn sub =>
    refine ⟨hidx, ?_, ?_⟩
    · intro conn' hrow
      have hpre := h.occupied conn' (isSome_removeSubscription sub ▸ hrow)
      rw [hlive]
      by_cases hconn : conn' = conn
      · subst hconn
        obtain ⟨other, e, hne, he⟩ := hop hpre
        exact ⟨other, e, by rw [SubOp.apply, update_of_ne (by simp [hne]), he]⟩
      · obtain ⟨sub', e, he⟩ := hpre
        exact ⟨sub', e, by rw [SubOp.apply, update_of_ne (by simp [hconn]), he]⟩
    intro x e he
    rw [hlive, SubOp.apply] at he
    by_cases hx : x = (conn, sub)
    · subst hx
      simp at he
    · rw [update_of_ne hx] at he
      exact h.kinds x e he
  | removeConnection conn =>
    refine ⟨hidx, ?_, ?_⟩
    · intro conn' hrow
      obtain ⟨hne, hpre⟩ := isSome_removeConnection hrow
      obtain ⟨sub, e, he⟩ := h.occupied conn' hpre
      exact ⟨sub, e, by simp [hlive, SubOp.apply, hne, he]⟩
    intro x e he
    simp only [hlive, SubOp.apply] at he
    split_ifs at he
    exact h.kinds x e he
  | removeChannelSubscriptionsScoped c conn ch =>
    refine ⟨hidx, ?_, ?_⟩
    · intro conn' hrow
      have hpre := h.occupied conn' (isSome_removeChannelSubscriptionsScoped c ch ▸ hrow)
      rw [hlive]
      by_cases hconn : conn' = conn
      · subst hconn
        obtain ⟨sub, e, he, hkeeps⟩ := hop hpre
        refine ⟨sub, ?_⟩
        simp only [SubOp.apply, he, Option.bind_some, true_and]
        split_ifs with hdrops
        · exact Option.ne_none_iff_exists'.mp (hkeeps hdrops.1 hdrops.2)
        · exact ⟨e, rfl⟩
      · obtain ⟨sub, e, he⟩ := hpre
        exact ⟨sub, e, by simp [SubOp.apply, he, hconn]⟩
    intro x e' he' hchans
    simp only [hlive, SubOp.apply] at he'
    obtain ⟨e, he, hrest⟩ := Option.bind_eq_some_iff.mp he'
    split_ifs at hrest with hdrops
    · rw [dropChannel_eq_some hrest]
      exact h.kinds x e he (ne_nil_of_mem hdrops.2.2)
    · cases hrest
      exact h.kinds x _ he hchans

lemma Kept.reads (h : Kept r) : Reads r r.live := by
  refine ⟨?_, ?_, ?_⟩
  · refine (ncard_eq_length r.subs.keys_nodup ?_).symm
    intro conn
    rw [← AList.mem_keys, ← AList.lookup_isSome]
    refine ⟨?_, h.occupied conn⟩
    rintro ⟨sub, e, he⟩
    obtain ⟨m, hm, -⟩ := Option.bind_eq_some_iff.mp he
    exact Option.isSome_of_eq_some hm
  · rw [countTotal_perCommunitySubscriptions]
    exact (ncard_eq_length (nodup_held r) fun x => mem_held.symm).symm
  intro c ch conn
  rw [mem_channelSubscriberConnsScoped]
  constructor
  · rintro ⟨sub, ref, hof, hlist⟩
    obtain ⟨e, he, href⟩ := (h.indexed ref (conn, sub)).mp hlist
    obtain ⟨hcomm, hch, -⟩ := exists_ofChannel_iff.mp ⟨ref, hof, href⟩
    exact ⟨sub, e, he, hcomm, hch⟩
  rintro ⟨sub, e, he, hcomm, hch⟩
  obtain ⟨ref, hof, href⟩ := exists_ofChannel_iff.mpr
    ⟨hcomm, hch, h.kinds _ e he (ne_nil_of_mem hch)⟩
  exact ⟨sub, ref, hof, (h.indexed ref (conn, sub)).mpr ⟨e, he, href⟩⟩

end Steps

/-- **Counts and listings.** After operations that empty no row and bring no channel subscription
without kinds, the readers say what they should. -/
theorem runOps_reads (ops : List SubOp) (h : AllSteps SubOp.exec SubOp.Plain {} ops) :
    Reads (runOps ops) (liveAfter ops) := by
  have hstart : Kept {} := ⟨indexed_empty, fun conn hrow => by simp at hrow, fun x e he => by
      simp [live] at he⟩
  have hkept : Kept (runOps ops) := AllSteps.invariant (fun r op hr hop => hr.exec hop) h hstart
  rw [← (runOps_spec ops).1]
  exact hkept.reads

def oneOfTwoGone : List SubOp :=
  [.registerScoped ⟨⟨1⟩⟩ ⟨1⟩ "notes" [{ kinds := some [1] }] (some ⟨2⟩),
    .registerScoped ⟨⟨1⟩⟩ ⟨2⟩ "notes" [{ kinds := some [1] }] (some ⟨2⟩), .removeConnection ⟨1⟩]

theorem runOps_reads_connection : (runOps oneOfTwoGone).totalConnections = 1 ∧
    Reads (runOps oneOfTwoGone) (liveAfter oneOfTwoGone) :=
  ⟨by decide +kernel, runOps_reads oneOfTwoGone
    (by exact ⟨fun _ => by decide, fun _ => by decide, trivial, trivial⟩)⟩

def closedSubscription : List SubOp :=
  [.registerScoped ⟨⟨1⟩⟩ ⟨1⟩ "notes" [] none, .removeSubscription ⟨1⟩ "notes"]

theorem closed_connection_counted :
    ¬Reads (runOps closedSubscription) (liveAfter closedSubscription) := by
  intro h
  have hone : (runOps closedSubscription).totalConnections = 1 := by decide +kernel
  have hnone : {conn | ∃ sub e, liveAfter closedSubscription (conn, sub) = some e} = ∅ := by
    ext conn
    simp [liveAfter, SubOp.apply, closedSubscription]
  have hcount := h.connections
  rw [hone, hnone, Set.ncard_empty] at hcount
  cases hcount

end Buzz.Relay
