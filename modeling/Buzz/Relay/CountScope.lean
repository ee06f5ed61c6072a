import Buzz.Relay.Count
import Mathlib.Data.List.Perm.Basic

/-!
Queries that are confined to the channels of a reader.

The channels gathered while a request is handled can all be read (`Gathered`), and a query that is
confined to them counts the same in two stores that differ elsewhere.  The query for a filter is
confined, unless the values of its `#h` name one channel and are more than one (`Misread`).
-/

namespace Buzz.Relay

open Buzz.Core Lib List EventQuery

/-! ### The channels of the reader -/

section Access

variable (access : ChannelAccess) (ctx : AuthContext) (ch : Uuid)

def ChannelAccess.cachedHas : Bool :=
  match access.cached with
  | .ok ids => ids.contains ch
  | .error _ => false

open ChannelAccess

def ChannelAccess.answer : Option Bool := (access.isMember ch).toOption

/-- The reader can read a channel: it is in the cached list or the database confirms it, and the token
allows it. -/
def readable : Bool :=
  ctx.tokenAllows ch && (access.cachedHas ch || access.answer ch = some true)

/-- The database, if it has to be asked for a channel, answers. -/
def answered : Bool :=
  !ctx.tokenAllows ch || access.cachedHas ch || (access.answer ch).isSome

/-- The channels gathered so far: those that are cached, and none that cannot be read. -/
structure Gathered (channels : List Uuid) : Prop where
  cached : ∀ ch, ctx.tokenAllows ch → access.cachedHas ch → ch ∈ channels
  readable : ∀ ch ∈ channels, readable access ctx ch

variable {access ctx} {channels : List Uuid} {ch : Uuid}

lemma cachedHas_eq {ids : List Uuid} (hca : access.cached = .ok ids) :
    access.cachedHas ch = ids.contains ch := by
  unfold cachedHas
  rw [hca]

lemma gathered_cachedChannels (h : cachedChannels access ctx = .ok channels) :
    Gathered access ctx channels := by
  unfold cachedChannels at h
  cases hca : access.cached with
  | error e =>
    rw [hca] at h
    cases h
  | ok ids =>
    rw [hca] at h
    obtain rfl := Except.ok.inj h
    constructor
    · intro ch htok hhas
      rw [cachedHas_eq hca] at hhas
      exact mem_filter.mpr ⟨by simpa using hhas, htok⟩
    intro ch hch
    obtain ⟨hmem, htok⟩ := mem_filter.mp hch
    have hhas : access.cachedHas ch := by
      rw [cachedHas_eq hca]
      simpa using hmem
    simp [Relay.readable, htok, hhas]

section

variable (hg : Gathered access ctx channels)
include hg

lemma confirmChannel_answered (ha : answered access ctx ch) :
    ∃ channels', confirmChannel access ctx channels ch = .ok channels' ∧
      Gathered access ctx channels' ∧ channels ⊆ channels' ∧
      (readable access ctx ch → ch ∈ channels') := by
  unfold confirmChannel
  by_cases hmem : ch ∈ channels
  · rw [if_pos (by simpa using hmem)]
    exact ⟨channels, rfl, hg, fun _ h => h, fun _ => hmem⟩
  rw [if_neg (by simpa using hmem)]
  by_cases htok : ctx.tokenAllows ch
  · have hca : access.cachedHas ch = false := by
      by_contra hhas
      exact hmem (hg.cached ch htok (by simpa using hhas))
    have hsome : (access.answer ch).isSome := by
      simpa [answered, htok, hca] using ha
    rw [if_pos htok]
    cases hmember : access.isMember ch with
    | error e => simp [answer, hmember, Except.toOption] at hsome
    | ok member =>
      have hans : access.answer ch = some member := by
        simp [answer, hmember, Except.toOption]
      cases member with
      | false =>
        refine ⟨channels, ?_, hg, fun _ h => h, ?_⟩
        · simp [resolveRequestLocalAccess, hmem]
        · intro hread
          simp [Relay.readable, htok, hca, hans] at hread
      | true =>
        refine ⟨channels ++ [ch], ?_, ?_, ?_, ?_⟩
        · simp [resolveRequestLocalAccess, hmem]
        · constructor
          · intro ch' htoken' hhas'
            exact mem_append_left _ (hg.cached ch' htoken' hhas')
          intro ch' hch'
          rcases mem_append.mp hch' with hch' | hch'
          · exact hg.readable ch' hch'
          · rw [mem_singleton.mp hch']
            simp [Relay.readable, htok, hans]
        · exact fun _ h => mem_append_left _ h
        · exact fun _ => mem_append_right _ (mem_singleton_self ch)
  rw [if_neg htok]
  refine ⟨channels, ?_, hg, fun _ h => h, ?_⟩
  · simp [resolveRequestLocalAccess]
  · intro hread
    simp [Relay.readable, htok] at hread

lemma confirmChannel_unanswered (ha : answered access ctx ch = false) :
    confirmChannel access ctx channels ch = .error databaseError := by
  simp only [answered, Bool.or_eq_false_iff, Bool.not_eq_false', Option.isSome_eq_false_iff,
    Option.isNone_iff_eq_none] at ha
  obtain ⟨⟨htok, hca⟩, hnone⟩ := ha
  have hmem : ch ∉ channels := by
    intro hmem
    have hread := hg.readable ch hmem
    simp [Relay.readable, hca, hnone] at hread
  unfold confirmChannel
  rw [if_neg (by simpa using hmem), if_pos htok]
  cases hmember : access.isMember ch with
  | error e => rfl
  | ok member => simp [answer, hmember, Except.toOption] at hnone

lemma confirm_all {requested : List Uuid} (ha : ∀ ch ∈ requested, answered access ctx ch) :
    ∃ channels', requested.foldlM (confirmChannel access ctx) channels = .ok channels' ∧
      Gathered access ctx channels' ∧ channels ⊆ channels' ∧
      ∀ ch ∈ requested, readable access ctx ch → ch ∈ channels' := by
  induction requested generalizing channels with
  | nil => exact ⟨channels, rfl, hg, fun _ h => h, by simp⟩
  | cons ch requested ih =>
    obtain ⟨channels₁, hconf, hg₁, hsub₁, hread₁⟩ :=
      confirmChannel_answered hg (ha ch (mem_cons_self ..))
    obtain ⟨channels₂, hrest, hg₂, hsub₂, hread₂⟩ :=
      ih hg₁ fun ch' hch' => ha ch' (mem_cons_of_mem _ hch')
    refine ⟨channels₂, ?_, hg₂, fun _ h => hsub₂ (hsub₁ h), ?_⟩
    · rw [foldlM_cons, hconf]
      exact hrest
    intro ch' hch' hread
    rcases mem_cons.mp hch' with rfl | hch'
    · exact hsub₂ (hread₁ hread)
    · exact hread₂ ch' hch' hread

lemma confirm_fails {requested : List Uuid} (ha : ¬ ∀ ch ∈ requested, answered access ctx ch) :
    requested.foldlM (confirmChannel access ctx) channels = .error databaseError := by
  induction requested generalizing channels with
  | nil => exact absurd (by simp) ha
  | cons ch requested ih =>
    rw [foldlM_cons]
    cases hch : answered access ctx ch with
    | false =>
      rw [confirmChannel_unanswered hg hch]
      rfl
    | true =>
      obtain ⟨channels₁, hconf, hg₁, _, _⟩ := confirmChannel_answered hg hch
      rw [hconf]
      refine ih hg₁ ?_
      intro hrest
      exact ha fun ch' hch' => (mem_cons.mp hch').elim (fun heq => heq ▸ hch) (hrest ch')

end

end Access

/-! ### Confined queries -/

variable {channels : List Uuid}

section Confined

/-- The query finds rows of the given channels only, and rows without a channel. -/
def Confined (channels : List Uuid) (query : EventQuery) : Prop :=
  ∀ row, query.whereClause row → ∀ ch ∈ row.stored.channelId, ch ∈ channels

variable {query : EventQuery} {communityId : CommunityId} {f : RequestFilter} {row : EventRow}

lemma channelClause_of_whereClause (h : query.whereClause row) : query.channelClause row := by
  simp only [whereClause, Bool.and_eq_true] at h
  obtain ⟨⟨⟨⟨⟨⟨⟨⟨⟨_, h⟩, _⟩, _⟩, _⟩, _⟩, _⟩, _⟩, _⟩, _⟩ := h
  exact h

variable {ch : Uuid}

lemma confined_of_channelId (hq : query.channelId = some ch) (hch : ch ∈ channels) :
    Confined channels query := by
  intro row hrow ch' hch'
  have hclause := channelClause_of_whereClause hrow
  simp only [channelClause, hq, holds, Bool.and_eq_true, decide_eq_true_eq] at hclause
  rw [hclause.1] at hch'
  exact Option.some.inj hch' ▸ hch

lemma confined_of_channelIds {ids : List Uuid} (hq : query.channelIds = some ids)
    (hids : ids ⊆ channels) : Confined channels query := by
  intro row hrow ch hch
  have hclause := channelClause_of_whereClause hrow
  simp only [channelClause, hq, holds, Bool.and_eq_true, Option.mem_def.mp hch] at hclause
  exact hids (by simpa using hclause.2)

/-- The values of `#h` that name one channel, and more. -/
def Misread (values : List String) (ch : Uuid) : Prop :=
  requestedChannels values = [ch] ∧ values.length ≠ 1

variable {values : List String}

lemma mem_requestedChannels :
    ch ∈ requestedChannels values ↔ ∃ v ∈ values, parseUuid v = some ch := by
  unfold requestedChannels
  rw [mem_foldl_pushNew, mem_filterMap]
  simp

variable {requested : List Uuid}

lemma explicitQuery_eq_some (hq : explicitQuery communityId f requested channels = some query) :
    ∃ first ∈ requested, first ∈ channels ∧
      query = applyChannelScopeToQuery (buildEventQueryFromFilter f communityId) f
        (if requested.length = 1 then some first else none) channels := by
  unfold explicitQuery at hq
  split at hq
  · cases hq
  next first rest heq =>
  have hfirst : first ∈ requested.filter channels.contains := by
    rw [heq]
    exact mem_cons_self ..
  obtain ⟨hreq, hch⟩ := mem_filter.mp hfirst
  exact ⟨first, hreq, by simpa using hch, (Option.some.inj hq).symm⟩

/-- **Every other query is confined.** -/
lemma confined_explicitQuery {values : List String} (hvals : f.tagValues hTag = some values)
    (hread : ∀ ch ∈ channels, ¬ Misread values ch)
    (hq : explicitQuery communityId f (requestedChannels values) channels = some query) :
    Confined channels query := by
  obtain ⟨first, hfirst, hch, rfl⟩ := explicitQuery_eq_some hq
  by_cases hone : (requestedChannels values).length = 1
  · obtain ⟨ch, hch'⟩ := length_eq_one_iff.mp hone
    obtain rfl : first = ch := by simpa [hch'] using hfirst
    -- one channel is named, so there is one value, and it is in the query
    have hlen : values.length = 1 := by
      by_contra hne
      exact hread first hch ⟨hch', hne⟩
    obtain ⟨value, rfl⟩ := length_eq_one_iff.mp hlen
    obtain ⟨v, hv, hparse⟩ := mem_requestedChannels.mp hfirst
    obtain rfl := mem_singleton.mp hv
    refine confined_of_channelId ?_ hch
    simp [applyChannelScopeToQuery, hone, buildEventQueryFromFilter, filterToQueryParams,
      extractChannelIdFromFilter, hvals, hparse]
  have hids : (applyChannelScopeToQuery (buildEventQueryFromFilter f communityId) f
      (if (requestedChannels values).length = 1 then some first else none) channels).channelIds =
      some ((values.filterMap parseUuid).filter channels.contains) := by
    simp [applyChannelScopeToQuery, hone, hvals]
  refine confined_of_channelIds hids ?_
  intro ch hmem
  simpa using (mem_filter.mp hmem).2

end Confined

/-! ### Two stores -/

section Stores

variable {access : ChannelAccess} {ctx : AuthContext}

/-- The row is of a channel that the reader can read, or of none. -/
def readableRow (access : ChannelAccess) (ctx : AuthContext) (row : EventRow) : Bool :=
  match row.stored.channelId with
  | some ch => readable access ctx ch
  | none => true

/-- The stores differ only in rows of channels that the reader cannot read. -/
def SameReadable (access : ChannelAccess) (ctx : AuthContext) (store store' : EventStore) : Prop :=
  (store.rows.filter (readableRow access ctx)).Perm (store'.rows.filter (readableRow access ctx))

variable {query : EventQuery} {store store' : EventStore}

lemma Confined.filter_perm (hconf : Confined channels query) (hg : Gathered access ctx channels)
    (hsame : SameReadable access ctx store store') (hp : ∀ row, p row → query.whereClause row) :
    (store.rows.filter p).Perm (store'.rows.filter p) := by
  have hreadable : ∀ rows : List EventRow,
      rows.filter p = (rows.filter (readableRow access ctx)).filter p := by
    intro rows
    rw [filter_filter]
    refine filter_congr ?_
    intro row _
    cases hrow : p row with
    | false => rfl
    | true =>
      have hchan := hconf row (hp row hrow)
      unfold readableRow
      split
      · next ch hch => rw [hg.readable ch (hchan ch hch), Bool.true_and]
      · rfl
  rw [hreadable store.rows, hreadable store'.rows]
  exact hsame.filter p

lemma length_queryEvents (store : EventStore) :
    ((applyCountFallbackLimit query).queryEvents store).length =
      min 5001 (store.rows.filter fun row => query.whereClause row && query.sharedClause row).length := by
  unfold queryEvents
  rw [length_map, length_take, length_mergeSort]
  rfl

lemma countP_queryEvents (store : EventStore)
    (hlen : ((applyCountFallbackLimit query).queryEvents store).length ≤ 5000) :
    ((applyCountFallbackLimit query).queryEvents store).countP p =
      (store.rows.filter fun row => query.whereClause row && query.sharedClause row).countP
        (p ∘ EventRow.stored) := by
  rw [length_queryEvents] at hlen
  unfold queryEvents
  rw [countP_map, take_of_length_le]
  · exact (mergeSort_perm _ _).countP_eq _
  rw [length_mergeSort]
  show (store.rows.filter fun row => query.whereClause row && query.sharedClause row).length ≤ 5001
  omega

def gatedQuery (ctx : AuthContext) (f : RequestFilter) (query : EventQuery) : EventQuery :=
  if canMatchKinds sharedGatedKinds f then { query with sharedGatedReader := some ctx.pubkey }
  else query

lemma whereClause_gatedQuery (row : EventRow) :
    (gatedQuery ctx f query).whereClause row = query.whereClause row := by
  unfold gatedQuery
  split_ifs
  · rfl
  · rfl

def countedBySql (ctx : AuthContext) (f : RequestFilter) : Bool :=
  filterFullyPushable f &&
    (!canMatchKinds authorOnlyKinds f || authorsAreReader ctx.pubkey f) &&
    !(canMatchKinds resultGatedKinds f && !pIsReader ctx.pubkey f) &&
    !canMatchKinds sharedGatedKinds f

lemma countMatching_eq (store : EventStore) (query : EventQuery) : countMatching ctx store f query =
      if countedBySql ctx f then .ok ((gatedQuery ctx f query).countEvents store)
      else if ((applyCountFallbackLimit (gatedQuery ctx f query)).queryEvents store).length > 5000 then
        .error tooBroad
      else .ok (((applyCountFallbackLimit (gatedQuery ctx f query)).queryEvents store).countP fun se =>
        filtersMatch [f.toFilter] se && eventVisibleToReader se.event ctx.pubkey) := rfl

lemma countMatching_perm (hperm : ∀ p : EventRow → Bool, (∀ row, p row → query.whereClause row) →
      (store.rows.filter p).Perm (store'.rows.filter p)) :
    countMatching ctx store f query = countMatching ctx store' f query := by
  have hgated : ∀ p : EventRow → Bool, (∀ row, p row → (gatedQuery ctx f query).whereClause row) →
        (store.rows.filter p).Perm (store'.rows.filter p) := by
    intro p hp
    refine hperm p ?_
    intro row hrow
    rw [← whereClause_gatedQuery row]
    exact hp row hrow
  rw [countMatching_eq, countMatching_eq]
  by_cases hsql : countedBySql ctx f
  · rw [if_pos hsql, if_pos hsql]
    unfold countEvents
    rw [countP_eq_length_filter, countP_eq_length_filter, (hgated _ fun _ h => h).length_eq]
  rw [if_neg hsql, if_neg hsql]
  have hrows := hgated (fun row => (gatedQuery ctx f query).whereClause row &&
    (gatedQuery ctx f query).sharedClause row) fun row hrow => (Bool.and_eq_true _ _ ▸ hrow).1
  have hlen : ((applyCountFallbackLimit (gatedQuery ctx f query)).queryEvents store).length =
      ((applyCountFallbackLimit (gatedQuery ctx f query)).queryEvents store').length := by
    rw [length_queryEvents, length_queryEvents, hrows.length_eq]
  by_cases hbroad : ((applyCountFallbackLimit (gatedQuery ctx f query)).queryEvents store).length >
      5000
  · rw [if_pos hbroad, if_pos (hlen ▸ hbroad)]
  · rw [if_neg hbroad, if_neg (hlen ▸ hbroad), countP_queryEvents store (not_lt.mp hbroad),
      countP_queryEvents store' (hlen ▸ not_lt.mp hbroad), hrows.countP_eq]

lemma Confined.countMatching_eq (hconf : Confined channels query)
    (hg : Gathered access ctx channels) (hsame : SameReadable access ctx store store') :
    countMatching ctx store f query = countMatching ctx store' f query :=
  countMatching_perm fun _ hp => hconf.filter_perm hg hsame hp

end Stores

end Buzz.Relay
