import Buzz.Relay.Subscription

/-!
What the indexes of the subscription registry hold.

The five indexes are read as one index over *references*: a reference names an index and a key of
it.  The filters and the scope of an entry choose its references (`entryRefs`), and an event is
looked up under its own (`eventRefs`).  The representation invariant `Indexed` says that an item is
listed under a reference exactly when its live entry has it; every operation keeps it, and
`covered` says that an entry that matches an event shares a reference with it.
-/

namespace Buzz.Relay

open Buzz.Core Lib Table List Function

/-- A key of one of the five indexes. -/
inductive IndexRef
  | channelKind (c : CommunityId) (ch : Uuid) (k : Kind)
  | channelWildcard (c : CommunityId) (ch : Uuid)
  | globalKind (c : CommunityId) (k : Kind)
  | globalPKind (key : GlobalPKindIndexKey)
  | globalWildcard (c : CommunityId)
deriving DecidableEq

def channelRefs (c : CommunityId) (filters : List Filter) (ch : Uuid) : List IndexRef :=
  match extractKindsFromFilters filters with
  | none => [.channelWildcard c ch]
  | some kinds => kinds.map (.channelKind c ch)

def globalRefs (c : CommunityId) (filters : List Filter) : List IndexRef :=
  match extractGlobalPKindIndexKeys c filters with
  | some keys => keys.map .globalPKind
  | none =>
    match extractKindsFromFilters filters with
    | none => [.globalWildcard c]
    | some kinds => kinds.map (.globalKind c)

def entryRefs (e : SubEntry) : List IndexRef :=
  match e.scope with
  | .channels ids => ids.flatMap (channelRefs e.communityId e.filters)
  | .global => globalRefs e.communityId e.filters

def eventRefs (c : CommunityId) (ev : StoredEvent) : List IndexRef :=
  match ev.channelId with
  | some ch => [.channelKind c ch ev.event.kind, .channelWildcard c ch]
  | none =>
    (eventPTagValues ev).map (fun p => .globalPKind ⟨c, ev.event.kind, p⟩) ++
      [.globalKind c ev.event.kind, .globalWildcard c]

namespace SubscriptionRegistry

variable (r : SubscriptionRegistry)

def listing : IndexRef → List (ConnId × SubId)
  | .channelKind c ch k => postings r.channelKindIndex (c, ⟨ch, k⟩)
  | .channelWildcard c ch => postings r.channelWildcardIndex (c, ch)
  | .globalKind c k => postings r.globalKindIndex (c, k)
  | .globalPKind key => postings r.globalPKindIndex key
  | .globalWildcard c => postings r.globalWildcardIndex c

/-- The representation invariant: the indexes list exactly the live entries' references. -/
def Indexed : Prop := Indexes entryRefs r.live r.listing

/-! ### Single references -/

def lookupRef : IndexRef → Option (List (ConnId × SubId))
  | .channelKind c ch k => r.channelKindIndex.lookup (c, ⟨ch, k⟩)
  | .channelWildcard c ch => r.channelWildcardIndex.lookup (c, ch)
  | .globalKind c k => r.globalKindIndex.lookup (c, k)
  | .globalPKind key => r.globalPKindIndex.lookup key
  | .globalWildcard c => r.globalWildcardIndex.lookup c

def setRef (xs : List (ConnId × SubId)) : IndexRef → SubscriptionRegistry
  | .channelKind c ch k => { r with channelKindIndex := r.channelKindIndex.insert (c, ⟨ch, k⟩) xs }
  | .channelWildcard c ch =>
    { r with channelWildcardIndex := r.channelWildcardIndex.insert (c, ch) xs }
  | .globalKind c k => { r with globalKindIndex := r.globalKindIndex.insert (c, k) xs }
  | .globalPKind key => { r with globalPKindIndex := r.globalPKindIndex.insert key xs }
  | .globalWildcard c => { r with globalWildcardIndex := r.globalWildcardIndex.insert c xs }

def eraseRef : IndexRef → SubscriptionRegistry
  | .channelKind c ch k => { r with channelKindIndex := r.channelKindIndex.erase (c, ⟨ch, k⟩) }
  | .channelWildcard c ch => { r with channelWildcardIndex := r.channelWildcardIndex.erase (c, ch) }
  | .globalKind c k => { r with globalKindIndex := r.globalKindIndex.erase (c, k) }
  | .globalPKind key => { r with globalPKindIndex := r.globalPKindIndex.erase key }
  | .globalWildcard c => { r with globalWildcardIndex := r.globalWildcardIndex.erase c }

def pushRef (x : ConnId × SubId) (r : SubscriptionRegistry) (ref : IndexRef) :
    SubscriptionRegistry :=
  r.setRef (r.listing ref ++ [x]) ref

/-- The list under a key without an item, and the key gone if nothing is left. -/
def pruneRef (x : ConnId × SubId) (r : SubscriptionRegistry) (ref : IndexRef) :
    SubscriptionRegistry :=
  match r.lookupRef ref with
  | none => r
  | some xs =>
    let kept := xs.filter fun y => ¬ y = x
    if kept = [] then (r.setRef kept ref).eraseRef ref else r.setRef kept ref

section Refs

variable (x : ConnId × SubId) (ref ref' : IndexRef) (xs : List (ConnId × SubId))

lemma listing_eq_lookupRef : r.listing ref = (r.lookupRef ref).getD [] := by
  cases ref <;> rfl

lemma listing_setRef :
    (r.setRef xs ref).listing ref' = if ref' = ref then xs else r.listing ref' := by
  cases ref <;> cases ref' <;> simp [setRef, listing, postings_insert]

lemma listing_eraseRef :
    (r.eraseRef ref).listing ref' = if ref' = ref then [] else r.listing ref' := by
  cases ref <;> cases ref' <;> simp [eraseRef, listing, postings_erase]

lemma subs_setRef : (r.setRef xs ref).subs = r.subs := by
  cases ref <;> rfl

lemma subs_eraseRef : (r.eraseRef ref).subs = r.subs := by
  cases ref <;> rfl

lemma live_setRef : (r.setRef xs ref).live = r.live := by
  unfold live
  rw [subs_setRef]

lemma live_eraseRef : (r.eraseRef ref).live = r.live := by
  unfold live
  rw [subs_eraseRef]

lemma pruneRef_eq : r.pruneRef x ref =
    match ref with
    | .channelKind c ch k => { r with channelKindIndex := prune r.channelKindIndex (c, ⟨ch, k⟩) x }
    | .channelWildcard c ch =>
      { r with channelWildcardIndex := prune r.channelWildcardIndex (c, ch) x }
    | .globalKind c k => { r with globalKindIndex := prune r.globalKindIndex (c, k) x }
    | .globalPKind key => { r with globalPKindIndex := prune r.globalPKindIndex key x }
    | .globalWildcard c =>
      { r with globalWildcardIndex := prune r.globalWildcardIndex c x } := by
  cases ref <;> simp only [prune_eq, pruneRef, lookupRef]
  all_goals
    split
    case h_1 habsent => simp only [habsent]
    case h_2 xs hpres =>
      simp only [hpres]
      split_ifs <;> rfl

lemma subs_pruneRef : (r.pruneRef x ref).subs = r.subs := by
  rw [pruneRef_eq]
  cases ref <;> rfl

lemma mem_listing_pushRef (y : ConnId × SubId) :
    y ∈ (r.pushRef x ref).listing ref' ↔ y ∈ r.listing ref' ∨ (ref' = ref ∧ y = x) := by
  rw [pushRef, listing_setRef]
  by_cases h : ref' = ref
  · subst h
    simp
  · simp [h]

lemma mem_listing_pruneRef (y : ConnId × SubId) :
    y ∈ (r.pruneRef x ref).listing ref' ↔ y ∈ r.listing ref' ∧ ¬ (ref' = ref ∧ y = x) := by
  rw [pruneRef_eq]
  cases ref <;> cases ref' <;> simp [listing, mem_postings_prune]

end Refs

/-! ### Index maintenance, by reference -/

/-- Steps that each change one index by `op`. -/
lemma foldl_index {K ι : Type} (get : SubscriptionRegistry → Table K (List (ConnId × SubId)))
    (set : SubscriptionRegistry → Table K (List (ConnId × SubId)) → SubscriptionRegistry)
    {step : SubscriptionRegistry → ι → SubscriptionRegistry}
    {op : Table K (List (ConnId × SubId)) → ι → Table K (List (ConnId × SubId))}
    (is : List ι) (hstep : ∀ r i, step r i = set r (op (get r) i) := by
      intros; first | rfl | exact pruneRef_eq ..)
    (hget : ∀ r t, get (set r t) = t := by intros; rfl)
    (hset : ∀ r t t', set (set r t) t' = set r t' := by intros; rfl)
    (hself : ∀ r, set r (get r) = r := by intros; rfl) :
    is.foldl step r = set r (is.foldl op (get r)) := by
  induction is generalizing r with
  | nil => exact (hself r).symm
  | cons i is ih => rw [foldl_cons, ih, hstep, hget, hset, foldl_cons]

lemma subs_foldl (hstep : ∀ r ref, (step r ref).subs = r.subs) (refs : List IndexRef) :
    (refs.foldl step r).subs = r.subs := by
  induction refs generalizing r with
  | nil => rfl
  | cons ref refs ih => rw [foldl_cons, ih, hstep]

section Maintenance

variable (c : CommunityId) (x : ConnId × SubId) (filters : List Filter) (e : SubEntry)

lemma insertChannelIndex_eq_foldl (ch : Uuid) :
    insertChannelIndex c x filters r ch = (channelRefs c filters ch).foldl (pushRef x) r := by
  unfold insertChannelIndex channelRefs
  rcases extractKindsFromFilters filters with _ | _ | ⟨k, ks⟩
  · rfl
  · rfl
  simp only [pushAll, foldl_map]
  exact (foldl_index r channelKindIndex (fun r t => { r with channelKindIndex := t })
    (k :: ks)).symm

lemma insertIntoIndex_eq_foldl : r.insertIntoIndex x e = (entryRefs e).foldl (pushRef x) r := by
  unfold insertIntoIndex entryRefs
  rcases e.scope with _ | ids
  · unfold insertGlobalIndex globalRefs
    rcases extractGlobalPKindIndexKeys e.communityId e.filters with _ | keys
    · rcases extractKindsFromFilters e.filters with _ | _ | ⟨k, ks⟩
      · rfl
      · rfl
      simp only [pushAll, foldl_map]
      exact (foldl_index r globalKindIndex (fun r t => { r with globalKindIndex := t })
        (k :: ks)).symm
    · simp only [pushAll, foldl_map]
      exact (foldl_index r globalPKindIndex (fun r t => { r with globalPKindIndex := t }) keys).symm
  simp only [foldl_flatMap]
  congr 1
  funext r ch
  exact insertChannelIndex_eq_foldl r e.communityId x e.filters ch

lemma removeChannelIndex_eq_foldl (ch : Uuid) :
    removeChannelIndex c x filters r ch = (channelRefs c filters ch).foldl (pruneRef x) r := by
  unfold removeChannelIndex channelRefs
  rcases extractKindsFromFilters filters with _ | _ | ⟨k, ks⟩
  · exact (pruneRef_eq r x (.channelWildcard c ch)).symm
  · rfl
  simp only [pruneAll, foldl_map]
  exact (foldl_index r channelKindIndex (fun r t => { r with channelKindIndex := t })
    (k :: ks)).symm

lemma removeFromIndex_eq_foldl : r.removeFromIndex x e = (entryRefs e).foldl (pruneRef x) r := by
  unfold removeFromIndex entryRefs
  rcases e.scope with _ | ids
  · unfold removeGlobalIndex globalRefs
    rcases extractGlobalPKindIndexKeys e.communityId e.filters with _ | keys
    · rcases extractKindsFromFilters e.filters with _ | _ | ⟨k, ks⟩
      · exact (pruneRef_eq r x (.globalWildcard e.communityId)).symm
      · rfl
      simp only [pruneAll, foldl_map]
      exact (foldl_index r globalKindIndex (fun r t => { r with globalKindIndex := t })
        (k :: ks)).symm
    · simp only [pruneAll, foldl_map]
      exact (foldl_index r globalPKindIndex (fun r t => { r with globalPKindIndex := t }) keys).symm
  simp only [foldl_flatMap]
  congr 1
  funext r ch
  exact removeChannelIndex_eq_foldl r e.communityId x e.filters ch

lemma mem_listing_insertIntoIndex (y : ConnId × SubId) (ref : IndexRef) :
    y ∈ (r.insertIntoIndex x e).listing ref ↔ y ∈ r.listing ref ∨ (ref ∈ entryRefs e ∧ y = x) := by
  rw [insertIntoIndex_eq_foldl]
  induction entryRefs e generalizing r with
  | nil => simp
  | cons ref' refs ih =>
    rw [foldl_cons, ih, mem_listing_pushRef, mem_cons]
    tauto

/-- Taking an entry out removes its item from under the entry's references, and nothing else. -/
lemma mem_listing_removeFromIndex (y : ConnId × SubId) (ref : IndexRef) :
    y ∈ (r.removeFromIndex x e).listing ref ↔
      y ∈ r.listing ref ∧ ¬ (ref ∈ entryRefs e ∧ y = x) := by
  rw [removeFromIndex_eq_foldl]
  induction entryRefs e generalizing r with
  | nil => simp
  | cons ref' refs ih =>
    rw [foldl_cons, ih, mem_listing_pruneRef, mem_cons]
    tauto

lemma insertIntoIndex_subs : (r.insertIntoIndex x e).subs = r.subs := by
  rw [insertIntoIndex_eq_foldl]
  exact subs_foldl r (fun r ref => subs_setRef r ref _) _

lemma removeFromIndex_subs : (r.removeFromIndex x e).subs = r.subs := by
  rw [removeFromIndex_eq_foldl]
  exact subs_foldl r (fun r ref => subs_pruneRef r x ref) _

end Maintenance

/-! ### The live entries -/

section Live

variable (x : ConnId × SubId) (e : SubEntry)

lemma live_insertIntoIndex : (r.insertIntoIndex x e).live = r.live := by
  unfold live
  rw [insertIntoIndex_subs]

lemma live_removeFromIndex : (r.removeFromIndex x e).live = r.live := by
  unfold live
  rw [removeFromIndex_subs]

lemma listing_setSubs (subs : Table ConnId (Table SubId SubEntry)) :
    listing { r with subs := subs } = r.listing := by
  funext ref
  cases ref <;> rfl

lemma live_insert (conn : ConnId) (m : Table SubId SubEntry) :
    live { r with subs := r.subs.insert conn m } x =
      if x.1 = conn then m.lookup x.2 else r.live x := by
  rw [live, lookup_insert_if]
  split_ifs <;> rfl

lemma live_insert_update (conn : ConnId) (sub : SubId) (m m' : Table SubId SubEntry)
    (new : Option SubEntry) (hm : ∀ s, r.live (conn, s) = m.lookup s)
    (hself : m'.lookup sub = new) (hne : ∀ s, s ≠ sub → m'.lookup s = m.lookup s) :
    live { r with subs := r.subs.insert conn m' } = update r.live (conn, sub) new := by
  funext ⟨c, s⟩
  rw [live_insert]
  by_cases hc : c = conn
  · subst hc
    rw [if_pos rfl]
    by_cases hs : s = sub
    · subst hs
      rw [hself, update_self]
    · rw [hne s hs, update_of_ne (by simp [hs]), hm]
  · rw [if_neg hc, update_of_ne (by simp [hc])]

lemma live_of_lookup (h : r.subs.lookup conn = some m)
    (s : SubId) : r.live (conn, s) = m.lookup s := by
  simp [live, h]

lemma live_of_lookup_none (h : r.subs.lookup conn = none) (s : SubId) :
    r.live (conn, s) = none := by
  simp [live, h]

end Live

/-! ### The invariant under index maintenance -/

section Invariant

variable {r r' : SubscriptionRegistry} {x : ConnId × SubId} {e d : SubEntry}

/-- Taking the references of `d` out of the index follows a change of the live entry from `e` to
`new`, if `new` has the references of `e` that are not references of `d`. -/
lemma Indexed.retract (h : r.Indexed) (he : r.live x = some e)
    (hl : r'.listing = r.listing) (hlive : r'.live = update r.live x new)
    (hnew : ∀ ref, (∃ e', new = some e' ∧ ref ∈ entryRefs e') ↔
      ref ∈ entryRefs e ∧ ref ∉ entryRefs d) : (r'.removeFromIndex x d).Indexed := by
  unfold Indexed
  rw [live_removeFromIndex, hlive]
  refine Indexes.change h x new (fun ref => ?_) (fun ref y hy => ?_)
  · have hx : x ∈ r.listing ref ↔ ref ∈ entryRefs e := by
      rw [h ref x, he]
      simp
    rw [mem_listing_removeFromIndex, hl, hx, hnew]
    simp
  · rw [mem_listing_removeFromIndex, hl]
    simp [hy]

lemma Indexed.extend (h : r.Indexed) (hx : r.live x = none) (hl : r'.listing = r.listing)
    (hlive : r'.live = update r.live x (some e)) : (r'.insertIntoIndex x e).Indexed := by
  unfold Indexed
  rw [live_insertIntoIndex, hlive]
  refine Indexes.change h x (some e) (fun ref => ?_) (fun ref y hy => ?_)
  · have hnot : x ∉ r.listing ref := by
      rw [h ref x, hx]
      simp
    rw [mem_listing_insertIntoIndex, hl]
    simp [hnot]
  · rw [mem_listing_insertIntoIndex, hl]
    simp [hy]

end Invariant

end SubscriptionRegistry

end Buzz.Relay
