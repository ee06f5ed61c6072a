import Buzz.Relay.SubscriptionIndex

/-!
Fan-out through the indexes is a scan of the live subscriptions.

A registry stands for a set of live subscriptions, and each of its operations for a change of that
set (`SubOp.apply`).  Over any sequence of operations the registry follows the set and keeps its
indexes exact (`runOps_indexed`, `runOps_live`); an entry that an event selects is listed where the
event is looked up (`exists_eventRef_of_selects`); so what the fan-out returns is what a scan of the
live subscriptions returns.
-/

namespace Buzz.Relay

open SubscriptionRegistry

open Buzz.Core Lib List SubscriptionRegistry AList Option Function SubscriptionScope

/-! ### The set of live subscriptions -/

abbrev LiveSubs := ConnId × SubId → Option SubEntry

/-- What is left of an entry when it loses a channel: nothing, once its last channel is gone. -/
def SubEntry.dropChannel (ch : Uuid) (e : SubEntry) : Option SubEntry :=
  match e.scope with
  | .global => some e
  | .channels ids =>
    if ids.filter (fun candidate => ¬ candidate = ch) = [] then none
    else some { e with scope := .channels (ids.filter fun candidate => ¬ candidate = ch) }

inductive SubOp
  | registerScoped (c : CommunityId) (conn : ConnId) (sub : SubId) (filters : List Filter)
      (channelId : Option Uuid)
  | registerChannelsScoped (c : CommunityId) (conn : ConnId) (sub : SubId) (filters : List Filter)
      (channelIds : List Uuid)
  | removeSubscription (conn : ConnId) (sub : SubId)
  | removeConnection (conn : ConnId)
  | removeChannelSubscriptionsScoped (c : CommunityId) (conn : ConnId) (ch : Uuid)

def SubOp.apply (live : LiveSubs) : SubOp → LiveSubs
  | registerScoped c conn sub filters channelId =>
    update live (conn, sub)
      (some ⟨filters, c, (channelId.map fun ch => channels [ch]).getD .global⟩)
  | registerChannelsScoped c conn sub filters channelIds =>
    update live (conn, sub) (some ⟨filters, c, .channels channelIds⟩)
  | removeSubscription conn sub => update live (conn, sub) none
  | removeConnection conn => fun x => if x.1 = conn then none else live x
  | removeChannelSubscriptionsScoped c conn ch => fun x =>
    (live x).bind fun e =>
      if x.1 = conn ∧ e.communityId = c ∧ ch ∈ e.scope.channelIds then e.dropChannel ch else some e

variable (ops : List SubOp)

def liveAfter : LiveSubs := ops.foldl SubOp.apply fun _ => none

def SubOp.exec (r : SubscriptionRegistry) : SubOp → SubscriptionRegistry
  | registerScoped c conn sub filters channelId =>
    (r.registerScoped c conn sub filters channelId).1
  | registerChannelsScoped c conn sub filters channelIds =>
    (r.registerChannelsScoped c conn sub filters channelIds).1
  | removeSubscription conn sub => (r.removeSubscription conn sub).1
  | removeConnection conn => (r.removeConnection conn).1
  | removeChannelSubscriptionsScoped c conn ch => (r.removeChannelSubscriptionsScoped c conn ch).1

def runOps : SubscriptionRegistry := ops.foldl SubOp.exec {}

def scan (r : SubscriptionRegistry) (c : CommunityId) (ev : StoredEvent) : List (ConnId × SubId) :=
  r.subs.entries.flatMap fun conn =>
    (conn.2.entries.filter fun s => selects c ev s.2).map fun s =>
      (conn.1, s.1)

lemma mem_scan : x ∈ scan r c ev ↔ ∃ e, r.live x = some e ∧ selects c ev e := by
  obtain ⟨conn, sub⟩ := x
  simp only [scan, mem_flatMap, List.mem_map, mem_filter, Prod.mk.injEq, live, bind_eq_some_iff]
  constructor
  · rintro ⟨⟨conn', m⟩, hm, ⟨sub', e⟩, ⟨he, hs⟩, rfl, rfl⟩
    exact ⟨e, ⟨m, mem_lookup_iff.mpr hm, mem_lookup_iff.mpr he⟩, hs⟩
  rintro ⟨e, ⟨m, hm, he⟩, hs⟩
  exact ⟨⟨conn, m⟩, mem_lookup_iff.mp hm, ⟨sub, e⟩, ⟨mem_lookup_iff.mp he, hs⟩,
    rfl, rfl⟩

namespace SubscriptionRegistry

/-! ### Each operation follows the live set and keeps the indexes -/

section Operations

variable {r : SubscriptionRegistry}

lemma update_live_none (h : r.live x = none) : update r.live x none = r.live := by
  rw [← h, update_eq_self]

variable {conn : ConnId} {m : Table SubId SubEntry} {c : CommunityId}

lemma live_erase_entry (hm : r.subs.lookup conn = some m)
    (sub : SubId) : live { r with subs := r.subs.insert conn (m.erase sub) } =
      update r.live (conn, sub) none :=
  live_insert_update r conn sub m _ none (live_of_lookup r hm) (lookup_erase sub m)
    (fun _ hs => lookup_erase_ne hs)

lemma removeSubscription_live (conn : ConnId) (sub : SubId) :
    (r.removeSubscription conn sub).1.live = update r.live (conn, sub) none := by
  unfold removeSubscription
  cases hm : r.subs.lookup conn with
  | none => exact (update_live_none (live_of_lookup_none r hm sub)).symm
  | some m =>
    have hlive := live_of_lookup r hm sub
    cases he : m.lookup sub with
    | none =>
      simp only [he]
      exact (update_live_none (hlive.trans he)).symm
    | some e => simp only [he, live_removeFromIndex, live_erase_entry hm]

lemma removeSubscription_indexed (h : r.Indexed) (conn : ConnId) (sub : SubId) :
    (r.removeSubscription conn sub).1.Indexed := by
  unfold removeSubscription
  cases hm : r.subs.lookup conn with
  | none => exact h
  | some m =>
    have hlive := live_of_lookup r hm sub
    cases he : m.lookup sub with
    | none => simpa only [he] using h
    | some e =>
      simp only [he]
      exact Indexed.retract h (hlive.trans he) (listing_setSubs r _) (live_erase_entry hm sub)
        (by simp)

lemma live_insert_entry (conn : ConnId) (sub : SubId) (e : SubEntry) :
    live { r with subs := r.subs.insert conn (((r.subs.lookup conn).getD ∅).insert sub e) } =
      update r.live (conn, sub) (some e) := by
  refine live_insert_update r conn sub _ _ (some e) ?_ (lookup_insert _)
    fun _ hs => lookup_insert_ne hs
  intro s
  unfold live
  rcases r.subs.lookup conn with _ | m <;> simp

lemma registerWithScope_live (c : CommunityId) (conn : ConnId) (sub : SubId)
    (filters : List Filter) (scope : SubscriptionScope) :
    (r.registerWithScope c conn sub filters scope).1.live =
      update r.live (conn, sub) (some ⟨filters, c, scope⟩) := by
  simp [registerWithScope, live_insertIntoIndex, live_insert_entry, removeSubscription_live]

lemma registerWithScope_indexed (h : r.Indexed) (c : CommunityId) (conn : ConnId) (sub : SubId)
    (filters : List Filter) (scope : SubscriptionScope) :
    (r.registerWithScope c conn sub filters scope).1.Indexed := by
  have hr := removeSubscription_indexed h conn sub
  have hnone : (r.removeSubscription conn sub).1.live (conn, sub) = none := by
    rw [removeSubscription_live, update_self]
  exact Indexed.extend hr hnone (listing_setSubs _ _) (live_insert_entry conn sub _)

lemma live_erase (conn : ConnId) (x : ConnId × SubId) :
    live { r with subs := r.subs.erase conn } x = if x.1 = conn then none else r.live x := by
  unfold live
  by_cases h : x.1 = conn
  · rw [if_pos h, h, lookup_erase]
    rfl
  · rw [if_neg h, lookup_erase_ne h]

lemma foldl_removeFromIndex_subs (conn : ConnId) (es : List (Sigma fun _ : SubId => SubEntry)) :
    (es.foldl (fun r s => removeFromIndex r (conn, s.1) s.2) r).subs = r.subs := by
  induction es generalizing r with
  | nil => rfl
  | cons s es ih => rw [foldl_cons, ih, removeFromIndex_subs]

lemma mem_listing_foldl_removeFromIndex (conn : ConnId)
    (es : List (Sigma fun _ : SubId => SubEntry)) (y : ConnId × SubId) (ref : IndexRef) :
    y ∈ (es.foldl (fun r s => removeFromIndex r (conn, s.1) s.2) r).listing ref ↔
      y ∈ r.listing ref ∧ ¬ ∃ s ∈ es, ref ∈ entryRefs s.2 ∧ y = (conn, s.1) := by
  induction es generalizing r with
  | nil => simp
  | cons s es ih =>
    rw [foldl_cons, ih, mem_listing_removeFromIndex]
    simp only [mem_cons, exists_eq_or_imp]
    rw [not_or, and_assoc]

lemma removeConnection_live (conn : ConnId) (x : ConnId × SubId) :
    (r.removeConnection conn).1.live x = if x.1 = conn then none else r.live x := by
  unfold removeConnection
  cases hm : r.subs.lookup conn with
  | none =>
    obtain ⟨c, s⟩ := x
    by_cases h : c = conn
    · subst h
      simp [live_of_lookup_none r hm]
    · simp [h]
  | some m =>
    rw [← live_erase]
    unfold live
    rw [foldl_removeFromIndex_subs]

lemma removeConnection_indexed (h : r.Indexed) (conn : ConnId) :
    (r.removeConnection conn).1.Indexed := by
  rintro ref ⟨c, s⟩
  rw [removeConnection_live]
  unfold removeConnection
  cases hm : r.subs.lookup conn with
  | none =>
    rw [h ref (c, s)]
    by_cases hc : c = conn
    · subst hc
      simp [live_of_lookup_none r hm]
    · simp [hc]
  | some m =>
    simp only
    rw [mem_listing_foldl_removeFromIndex, listing_setSubs, h ref (c, s)]
    by_cases hc : c = conn
    · -- every listing of the connection comes from an entry that the loop takes out
      subst hc
      rw [if_pos rfl]
      constructor
      · rintro ⟨⟨e, he, href⟩, hno⟩
        rw [live_of_lookup r hm] at he
        exact absurd ⟨⟨s, e⟩, mem_lookup_iff.mp he, href, rfl⟩ hno
      · rintro ⟨e, he, -⟩
        cases he
    rw [if_neg hc]
    constructor
    · exact fun hy => hy.1
    refine fun hy => ⟨hy, ?_⟩
    rintro ⟨t, -, -, ht⟩
    exact hc (congrArg Prod.fst ht)

lemma channelRefs_form (h : ref ∈ channelRefs c filters ch) :
    ref = .channelWildcard c ch ∨ ∃ k, ref = .channelKind c ch k := by
  unfold channelRefs at h
  cases hk : extractKindsFromFilters filters with
  | none =>
    simp only [hk] at h
    exact .inl (mem_singleton.mp h)
  | some kinds =>
    simp only [hk] at h
    obtain ⟨k, -, rfl⟩ := mem_map.mp h
    exact .inr ⟨k, rfl⟩

lemma channelRefs_channel
    (h : ref ∈ channelRefs c filters ch) (h' : ref ∈ channelRefs c' filters' ch') : ch = ch' := by
  rcases channelRefs_form h with rfl | ⟨k, rfl⟩
  · rcases channelRefs_form h' with heq | ⟨k', heq⟩
    · cases heq
      rfl
    · cases heq
  rcases channelRefs_form h' with heq | ⟨k', heq⟩
  · cases heq
  · cases heq
    rfl

lemma entryRefs_dropChannel (e : SubEntry) (ch : Uuid)
    (hs : e.scope = .channels ids) (ref : IndexRef) :
    (∃ e', e.dropChannel ch = some e' ∧ ref ∈ entryRefs e') ↔
      ref ∈ entryRefs e ∧ ref ∉ entryRefs ⟨e.filters, e.communityId, .channels [ch]⟩ := by
  have hsub : (∃ e', e.dropChannel ch = some e' ∧ ref ∈ entryRefs e') ↔
      ref ∈ (ids.filter fun candidate => ¬ candidate = ch).flatMap
        (channelRefs e.communityId e.filters) := by
    simp only [SubEntry.dropChannel, hs]
    split
    · rename_i hnil
      rw [hnil]
      simp
    · simp [entryRefs]
  rw [hsub]
  simp only [entryRefs, hs, mem_flatMap, mem_filter, decide_eq_true_eq,
    mem_singleton, exists_eq_left]
  constructor
  · rintro ⟨ch', ⟨hmem, hne⟩, href⟩
    exact ⟨⟨ch', hmem, href⟩, fun h => hne (channelRefs_channel href h)⟩
  rintro ⟨⟨ch', hmem, href⟩, hnot⟩
  refine ⟨ch', ⟨hmem, ?_⟩, href⟩
  rintro rfl
  exact hnot href

lemma live_insert_dropChannel (sub : SubId) {e : SubEntry}
    (ch : Uuid) (hm : r.subs.lookup conn = some m)
    (hs : e.scope = .channels ids) (hrest : ids.filter (fun candidate => ¬ candidate = ch) = rest) :
    let m' := if rest = [] then m.erase sub else m.insert sub { e with scope := .channels rest }
    live { r with subs := r.subs.insert conn m' } =
      update r.live (conn, sub) (e.dropChannel ch) := by
  refine live_insert_update r conn sub m _ _ (live_of_lookup r hm) ?_ (fun s hne => ?_)
  · simp only [SubEntry.dropChannel, hs, hrest]
    split
    · exact lookup_erase sub m
    · exact lookup_insert m
  split
  · exact lookup_erase_ne hne
  · exact lookup_insert_ne hne

lemma removeChannelOf_spec {sub : SubId} (ch : Uuid) (updates : List ChannelSubscriptionUpdate)
    (hc : ∀ e, r.live (conn, sub) = some e → e.communityId = c) (h : r.Indexed) :
    (removeChannelOf c conn ch (r, updates) sub).1.live =
        update r.live (conn, sub) ((r.live (conn, sub)).bind (SubEntry.dropChannel ch)) ∧
      (removeChannelOf c conn ch (r, updates) sub).1.Indexed := by
  cases hm : r.subs.lookup conn with
  | none =>
    have hnone := live_of_lookup_none r hm sub
    simp only [removeChannelOf, hm, hnone, bind_none]
    exact ⟨(update_live_none hnone).symm, h⟩
  | some m =>
    have hlive := live_of_lookup r hm sub
    cases he : m.lookup sub with
    | none =>
      have hnone := hlive.trans he
      simp only [removeChannelOf, hm, hnone, he, bind_none]
      exact ⟨(update_live_none hnone).symm, h⟩
    | some e =>
      have hsome := hlive.trans he
      obtain rfl : e.communityId = c := hc e hsome
      cases hs : e.scope with
      | global =>
        have hdrop : e.dropChannel ch = some e := by simp [SubEntry.dropChannel, hs]
        simp only [removeChannelOf, hm, hsome, he, hs, hdrop, bind_some]
        refine ⟨?_, h⟩
        rw [← hsome, update_eq_self]
      | channels ids =>
        simp only [removeChannelOf, hm, hsome, he, hs, bind_some]
        have hupd := live_insert_dropChannel sub ch hm hs rfl
        refine ⟨?_, ?_⟩
        · rw [live_removeFromIndex]
          exact hupd
        · exact Indexed.retract h hsome (listing_setSubs r _) hupd (entryRefs_dropChannel e ch hs)

lemma foldl_removeChannelOf_spec (ch : Uuid) (subIds : List SubId)
    (updates : List ChannelSubscriptionUpdate)
    (hc : ∀ sub ∈ subIds, ∀ e, r.live (conn, sub) = some e → e.communityId = c)
    (hnd : subIds.Nodup) (h : r.Indexed) :
    (∀ x, (subIds.foldl (removeChannelOf c conn ch) (r, updates)).1.live x =
        if x.1 = conn ∧ x.2 ∈ subIds then (r.live x).bind (SubEntry.dropChannel ch) else r.live x) ∧
      (subIds.foldl (removeChannelOf c conn ch) (r, updates)).1.Indexed := by
  induction subIds generalizing r updates with
  | nil => exact ⟨fun x => by simp, h⟩
  | cons sub subIds ih =>
    obtain ⟨hsub, hnd⟩ := nodup_cons.mp hnd
    obtain ⟨hlive, hidx⟩ := removeChannelOf_spec ch updates (hc sub mem_cons_self) h
    rcases hstep : removeChannelOf c conn ch (r, updates) sub with ⟨r', updates'⟩
    rw [hstep] at hlive hidx
    -- the other subscriptions of the list are untouched by this round
    have hoth : ∀ s, s ≠ sub → r'.live (conn, s) = r.live (conn, s) := by
      intro s hs
      rw [hlive, update_of_ne (by simp [hs])]
    obtain ⟨ihlive, ihidx⟩ := ih updates' (r := r') (fun s hs e he => by
      have hne : s ≠ sub := fun heq => hsub (heq ▸ hs)
      exact hc s (mem_cons_of_mem _ hs) e (by rw [← hoth s hne]; exact he)) hnd hidx
    rw [foldl_cons, hstep]
    refine ⟨fun x => ?_, ihidx⟩
    rw [ihlive x, hlive]
    obtain ⟨c', s⟩ := x
    by_cases hc' : c' = conn
    · subst hc'
      by_cases hs : s = sub
      · subst hs
        simp [hsub]
      · simp [hs]
    · simp [hc']

lemma removeChannelSubscriptionsScoped_spec (c : CommunityId) (conn : ConnId) (ch : Uuid)
    (h : r.Indexed) : (r.removeChannelSubscriptionsScoped c conn ch).1.live =
        SubOp.apply r.live (.removeChannelSubscriptionsScoped c conn ch) ∧
      (r.removeChannelSubscriptionsScoped c conn ch).1.Indexed := by
  unfold removeChannelSubscriptionsScoped
  cases hm : r.subs.lookup conn with
  | none =>
    refine ⟨?_, h⟩
    funext ⟨c', s⟩
    by_cases hc : c' = conn
    · subst hc
      simp [SubOp.apply, live_of_lookup_none r hm]
    · simp [SubOp.apply, hc]
  | some m =>
    simp only [map_some, getD_some]
    have hmem : ∀ s, s ∈ (m.entries.filter fun t => decide (t.2.communityId = c) &&
        t.2.scope.channelIds.contains ch).map Sigma.fst ↔
          ∃ e, r.live (conn, s) = some e ∧ e.communityId = c ∧ ch ∈ e.scope.channelIds := by
      intro s
      rw [live_of_lookup r hm, List.mem_map]
      constructor
      · rintro ⟨⟨s', e⟩, ht, rfl⟩
        obtain ⟨he, hsel⟩ := mem_filter.mp ht
        exact ⟨e, mem_lookup_iff.mpr he, by simpa using hsel⟩
      · rintro ⟨e, he, hsel⟩
        exact ⟨⟨s, e⟩, mem_filter.mpr ⟨mem_lookup_iff.mp he, by simpa using hsel⟩, rfl⟩
    have hnd : ((m.entries.filter fun t => decide (t.2.communityId = c) &&
        t.2.scope.channelIds.contains ch).map Sigma.fst).Nodup :=
      m.keys_nodup.sublist (filter_sublist.map _)
    obtain ⟨hlive, hidx⟩ := foldl_removeChannelOf_spec ch _ [] (fun s hs e he => by
      obtain ⟨e', he', hcom, -⟩ := (hmem s).mp hs
      rw [he] at he'
      cases he'
      exact hcom) hnd h
    refine ⟨?_, hidx⟩
    funext ⟨c', s⟩
    rw [hlive, SubOp.apply]
    by_cases hc : c' = conn
    · subst hc
      simp only [true_and, hmem s]
      cases he : r.live (c', s) with
      | none => simp
      | some e => simp
    · simp [hc]

end Operations

end SubscriptionRegistry

/-! ### Runs of operations -/

/-- **One operation.** On a registry with exact indexes an operation changes the live subscriptions
as it says, and leaves the indexes exact. -/
theorem exec_spec (h : r.Indexed) (op : SubOp) :
    (op.exec r).live = op.apply r.live ∧ (op.exec r).Indexed := by
  cases op with
  | registerScoped c conn sub filters channelId
  | registerChannelsScoped c conn sub filters channelIds =>
    exact ⟨r.registerWithScope_live c conn sub filters _,
      r.registerWithScope_indexed h c conn sub filters _⟩
  | removeSubscription conn sub =>
    exact ⟨r.removeSubscription_live conn sub, r.removeSubscription_indexed h conn sub⟩
  | removeConnection conn =>
    exact ⟨funext (r.removeConnection_live conn), r.removeConnection_indexed h conn⟩
  | removeChannelSubscriptionsScoped c conn ch =>
    exact r.removeChannelSubscriptionsScoped_spec c conn ch h

lemma indexed_empty : SubscriptionRegistry.Indexed {} := by
  refine Indexes.empty (fun ref => ?_)
  cases ref <;> rfl

/-- **The registry refines the live set.** After any operations from the empty registry its live
entries are those of the live set, and its indexes are exact. -/
theorem runOps_spec : (runOps ops).live = liveAfter ops ∧ (runOps ops).Indexed := by
  refine foldl_rel (r := fun (r : SubscriptionRegistry) live => r.live = live ∧ r.Indexed) ?_ ?_
  · exact ⟨rfl, indexed_empty⟩
  · rintro op - r live ⟨rfl, hidx⟩
    exact exec_spec hidx op

/-! ### Coverage: where an event finds the entries it selects -/

section Coverage

variable {c : CommunityId} {filters : List Filter} {f : Filter}

lemma kind_mem_extractKinds (h : extractKindsFromFilters filters = some kinds)
    (hf : f ∈ filters) : ∃ fk, f.kinds = some fk ∧ fk ⊆ kinds := by
  obtain ⟨-, hall⟩ := foldlM_grow (fun acc f acc' hstep => by
    obtain ⟨fk, -, rfl⟩ := map_eq_some_iff.mp hstep
    exact fun k hk => mem_foldl_pushNew.mpr (Or.inl hk)) h
  obtain ⟨acc₁, acc₂, hstep, hsub⟩ := hall f hf
  obtain ⟨fk, hfk, rfl⟩ := map_eq_some_iff.mp hstep
  exact ⟨fk, hfk, fun k hk => hsub (mem_foldl_pushNew.mpr (Or.inr hk))⟩

lemma extractGlobalPKindIndexKeys_step {keys keys' : List GlobalPKindIndexKey}
    (h : (match f.kinds with
      | none => none
      | some [] => some keys
      | some kinds =>
        match f.genericTags.lookup pTag with
        | none => none
        | some [] => none
        | some ps => some ((kinds.flatMap fun k => ps.map fun p =>
            (⟨c, k, p⟩ : GlobalPKindIndexKey)).foldl pushNew keys)) = some keys') :
    keys ⊆ keys' ∧ ∃ fk, f.kinds = some fk ∧ (fk = [] ∨ ∃ ps, f.genericTags.lookup pTag = some ps ∧
      ∀ k ∈ fk, ∀ p ∈ ps, (⟨c, k, p⟩ : GlobalPKindIndexKey) ∈ keys') := by
  rcases hk : f.kinds with _ | _ | ⟨k₀, ks⟩ <;> simp only [hk] at h
  · cases h
  · cases h
    exact ⟨fun _ hx => hx, [], rfl, Or.inl rfl⟩
  rcases hp : f.genericTags.lookup pTag with _ | _ | ⟨p₀, ps⟩ <;> simp only [hp] at h
  · cases h
  · cases h
  cases h
  refine ⟨fun x hx => mem_foldl_pushNew.mpr (Or.inl hx), _, rfl, Or.inr ⟨_, rfl, ?_⟩⟩
  intro k hk p hp
  refine mem_foldl_pushNew.mpr (Or.inr ?_)
  exact mem_flatMap.mpr ⟨k, hk, mem_map.mpr ⟨p, hp, rfl⟩⟩

lemma key_mem_extractGlobalPKindIndexKeys {keys : List GlobalPKindIndexKey}
    (h : extractGlobalPKindIndexKeys c filters = some keys) (hf : f ∈ filters) :
    ∃ fk, f.kinds = some fk ∧ (fk = [] ∨ ∃ ps, f.genericTags.lookup pTag = some ps ∧
      ∀ k ∈ fk, ∀ p ∈ ps, (⟨c, k, p⟩ : GlobalPKindIndexKey) ∈ keys) := by
  obtain ⟨-, hall⟩ := foldlM_grow
    (fun acc f acc' hstep => (extractGlobalPKindIndexKeys_step hstep).1) h
  obtain ⟨acc₁, acc₂, hstep, hsub⟩ := hall f hf
  obtain ⟨-, fk, hfk, hkeys⟩ := extractGlobalPKindIndexKeys_step hstep
  refine ⟨fk, hfk, ?_⟩
  rcases hkeys with hnil | ⟨ps, hps, hin⟩
  · exact Or.inl hnil
  · exact Or.inr ⟨ps, hps, fun k hk p hp => hsub (hin k hk p hp)⟩

/-- A channel entry with a matching filter is listed under the event's kind or as a wildcard. -/
lemma exists_channelRef (ch : Uuid) (hf : f ∈ filters) (hm : filterMatchOne f ev) :
    ∃ ref ∈ [IndexRef.channelKind c ch ev.event.kind, IndexRef.channelWildcard c ch],
      ref ∈ channelRefs c filters ch := by
  unfold channelRefs
  cases hk : extractKindsFromFilters filters with
  | none => exact ⟨.channelWildcard c ch, by simp, by simp⟩
  | some kinds =>
    obtain ⟨fk, hfk, hsub⟩ := kind_mem_extractKinds hk hf
    have hkind := hsub (kind_mem_of_filterMatchOne hm hfk)
    exact ⟨.channelKind c ch ev.event.kind, by simp, mem_map.mpr ⟨_, hkind, rfl⟩⟩

/-- A community-global entry with a matching filter is listed under one of the event's recipients,
under the event's kind or as a wildcard. -/
lemma exists_globalRef (hf : f ∈ filters) (hm : filterMatchOne f ev) (hev : ev.channelId = none) :
    ∃ ref ∈ eventRefs c ev, ref ∈ globalRefs c filters := by
  unfold globalRefs
  simp only [eventRefs, hev]
  cases hg : extractGlobalPKindIndexKeys c filters with
  | some keys =>
    obtain ⟨fk, hfk, hkeys⟩ := key_mem_extractGlobalPKindIndexKeys hg hf
    have hkind := kind_mem_of_filterMatchOne hm hfk
    rcases hkeys with rfl | ⟨ps, hps, hin⟩
    · cases hkind
    -- the filter's recipients include one of the event's
    obtain ⟨p, hp, hpe⟩ := exists_tag_of_filterMatchOne hm hps (by decide)
    have hpv : p ∈ eventPTagValues ev := mem_foldl_pushNew.mpr (.inr hpe)
    refine ⟨.globalPKind ⟨c, ev.event.kind, p⟩, ?_, mem_map.mpr ⟨_, hin _ hkind p hp, rfl⟩⟩
    exact mem_append_left _ (mem_map.mpr ⟨p, hpv, rfl⟩)
  | none =>
    cases hk : extractKindsFromFilters filters with
    | none => exact ⟨.globalWildcard c, by simp, by simp⟩
    | some kinds =>
      obtain ⟨fk, hfk, hsub⟩ := kind_mem_extractKinds hk hf
      have hkind := hsub (kind_mem_of_filterMatchOne hm hfk)
      exact ⟨.globalKind c ev.event.kind, by simp, mem_map.mpr ⟨_, hkind, rfl⟩⟩

/-- **Coverage.** An entry that an event selects has a reference the event is looked up under. -/
theorem exists_eventRef_of_selects
    (h : selects c ev e = true) : ∃ ref ∈ eventRefs c ev, ref ∈ entryRefs e := by
  simp only [selects, Bool.and_eq_true, decide_eq_true_eq] at h
  obtain ⟨⟨rfl, hsc⟩, hmatch⟩ := h
  obtain ⟨f, hf, hm⟩ := any_eq_true.mp hmatch
  cases hs : e.scope with
  | global =>
    cases hev : ev.channelId with
    | some ch => simp [matchesChannel, hs, hev] at hsc
    | none =>
      simp only [entryRefs, hs]
      exact exists_globalRef hf hm hev
  | channels ids =>
    cases hev : ev.channelId with
    | none => simp [matchesChannel, hs, hev] at hsc
    | some ch =>
      have hch : ch ∈ ids := by simpa [matchesChannel, hs, hev] using hsc
      obtain ⟨ref, href, hin⟩ := exists_channelRef (c := e.communityId) ch hf hm
      simp only [eventRefs, hev, entryRefs, hs]
      exact ⟨ref, href, mem_flatMap.mpr ⟨ch, hch, hin⟩⟩

end Coverage

/-! ### Fan-out -/

namespace SubscriptionRegistry

variable (r : SubscriptionRegistry) (c : CommunityId) (ev : StoredEvent)

lemma pushMatch_eq (results : List (ConnId × SubId)) (x : ConnId × SubId) :
    r.pushMatch c ev results x =
      if (r.live x).any (selects c ev) then pushNew results x else results := by
  unfold pushMatch live
  rcases r.subs.lookup x.1 with _ | m
  · simp
  · rcases he : m.lookup x.2 with _ | e <;> simp [he]

/-- The look-ups of a fan-out, one after the other, are one scan of the listed candidates. -/
lemma fanOutScoped_eq_collect : r.fanOutScoped c ev =
      collect (fun x => (r.live x).any (selects c ev)) [] ((eventRefs c ev).flatMap r.listing) := by
  have hscan : ∀ acc xs, foldl (r.pushMatch c ev) acc xs =
      collect (fun x => (r.live x).any (selects c ev)) acc xs := by
    intro acc xs
    have hfun : r.pushMatch c ev = fun acc x =>
        if (r.live x).any (selects c ev) then pushNew acc x else acc := by
      funext acc x
      exact r.pushMatch_eq c ev acc x
    rw [hfun]
    rfl
  unfold fanOutScoped eventRefs
  cases ev.channelId with
  | some ch => simp [hscan, collect_append, listing]
  | none => simp [hscan, collect_append, listing, flatMap_append, flatMap_map, collect_flatMap]

end SubscriptionRegistry

/-- **Fan-out is a scan of the live subscriptions.** After any operations from the empty registry,
for every community and event, the fan-out returns without repetition the subscriptions that a plain
scan selects, and these are the live ones of the community whose scope and filters match. -/
theorem fanOutScoped_runOps (ops : List SubOp) (c : CommunityId) (ev : StoredEvent) :
    ((runOps ops).fanOutScoped c ev).Nodup ∧
      ∀ x, (x ∈ (runOps ops).fanOutScoped c ev ↔ x ∈ scan (runOps ops) c ev) ∧
        (x ∈ (runOps ops).fanOutScoped c ev ↔
          ∃ e, liveAfter ops x = some e ∧ e.communityId = c ∧
            e.scope.matchesChannel ev.channelId = true ∧ filtersMatch e.filters ev = true) := by
  obtain ⟨hlive, hidx⟩ := runOps_spec ops
  have hmem : ∀ x, x ∈ (runOps ops).fanOutScoped c ev ↔
      ∃ e, (runOps ops).live x = some e ∧ selects c ev e = true := by
    intro x
    rw [fanOutScoped_eq_collect]
    exact mem_collect_of_indexes hidx (fun e he => exists_eventRef_of_selects he) x
  refine ⟨?_, fun x => ⟨?_, ?_⟩⟩
  · rw [fanOutScoped_eq_collect]
    exact nodup_collect nodup_nil
  · rw [hmem x, mem_scan]
  · rw [hmem x, hlive]
    simp [selects, and_assoc]

end Buzz.Relay
