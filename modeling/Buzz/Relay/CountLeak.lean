import Buzz.Relay.CountScope

/-!
What counting shows of channels that the reader cannot read.

If the values of `#h` name one channel in several ways, or one channel and something that is no
channel, the filter counts as one for a single channel where access is checked and as one for several
where the query is built, and the query gets no channel condition at all.  `count_same_iff` says that
this is the one case in which a count shows something.
-/

namespace Buzz.Relay

open Buzz.Core Lib List EventQuery

/-! ### Requests -/

variable {communityId : CommunityId} {access : ChannelAccess} {ctx : AuthContext}
  {store store' : EventStore} {st : List Uuid × ℕ}

section Requests

def hValues (f : RequestFilter) : Option (List String) := f.genericTags.lookup hTag

/-- No filter that is reached is misread: as long as the database answers for the channels that are
named, the values of `#h` do not name one channel that can be read, and more. -/
def NoneMisread (access : ChannelAccess) (ctx : AuthContext) : List (Option (List String)) → Prop
  | [] => True
  | none :: hs => NoneMisread access ctx hs
  | some values :: hs =>
    (∀ ch ∈ requestedChannels values.dedup, answered access ctx ch) →
      (∀ ch, readable access ctx ch → ¬ Misread values.dedup ch) ∧ NoneMisread access ctx hs

variable (hg : Gathered access ctx st.1)

include hg

lemma countFilter_eq (hread : ∀ values, hValues f = some values →
      (∀ ch ∈ requestedChannels values.dedup, answered access ctx ch) →
      ∀ ch, readable access ctx ch → ¬ Misread values.dedup ch)
    (hsame : SameReadable access ctx store store') :
    countFilter communityId access ctx store st f = countFilter communityId access ctx store' st f := by
  unfold countFilter extractChannelIdsFromFilter
  cases hvals : f.tagValues hTag with
  | none =>
    have hconf : Confined st.1
        { buildEventQueryFromFilter f communityId with channelIds := some st.1 } :=
      confined_of_channelIds rfl fun _ h => h
    simp [hconf.countMatching_eq hg hsame]
  | some values =>
    obtain ⟨raw, hraw, rfl⟩ := Option.map_eq_some_iff.mp hvals
    simp only [Option.map_some]
    by_cases hans : ∀ ch ∈ requestedChannels raw.dedup, answered access ctx ch
    · obtain ⟨channels, hfold, hg', _, _⟩ := confirm_all hg hans
      rw [hfold]
      simp only [ok_bind]
      split
      · rfl
      next query hq =>
      have hconf := confined_explicitQuery hvals
        (fun ch hch => hread raw hraw hans ch (hg'.readable ch hch)) hq
      rw [hconf.countMatching_eq hg' hsame]
    · rw [confirm_fails hg hans]
      rfl

lemma countFilter_gathered (h : countFilter communityId access ctx store st f = .ok st') :
    Gathered access ctx st'.1 ∧ ∀ values, hValues f = some values →
      ∀ ch ∈ requestedChannels values.dedup, answered access ctx ch := by
  unfold countFilter extractChannelIdsFromFilter RequestFilter.tagValues at h
  cases hraw : f.genericTags.lookup hTag with
  | none =>
    simp only [hraw, Option.map_none, bind_eq_ok] at h
    obtain ⟨n, _, h⟩ := h
    obtain rfl := Except.ok.inj h
    exact ⟨hg, fun values hvals => by simp [hValues, hraw] at hvals⟩
  | some raw =>
    simp only [hraw, Option.map_some, bind_eq_ok] at h
    obtain ⟨channels, hfold, h⟩ := h
    have hans : ∀ ch ∈ requestedChannels raw.dedup, answered access ctx ch := by
      by_contra hnot
      rw [confirm_fails hg hnot] at hfold
      cases hfold
    obtain ⟨channels', hfold', hg', _, _⟩ := confirm_all hg hans
    obtain rfl := Except.ok.inj (hfold.symm.trans hfold')
    refine ⟨?_, ?_⟩
    · split at h
      · obtain rfl := Except.ok.inj h
        exact hg'
      obtain ⟨n, _, h⟩ := bind_eq_ok.mp h
      obtain rfl := Except.ok.inj h
      exact hg'
    intro values hvals
    obtain rfl := Option.some.inj (hraw.symm.trans hvals)
    exact hans

lemma countFilters_eq {filters : List RequestFilter} (hread : NoneMisread access ctx (filters.map hValues))
    (hsame : SameReadable access ctx store store') :
    filters.foldlM (countFilter communityId access ctx store) st =
      filters.foldlM (countFilter communityId access ctx store') st := by
  induction filters generalizing st with
  | nil => rfl
  | cons f filters ih =>
    have hfil : ∀ values, hValues f = some values →
        (∀ ch ∈ requestedChannels values.dedup, answered access ctx ch) →
        ∀ ch, readable access ctx ch → ¬ Misread values.dedup ch := by
      intro values hvals hans
      rw [map_cons, hvals] at hread
      exact (hread hans).1
    rw [foldlM_cons, foldlM_cons, ← countFilter_eq hg hfil hsame]
    cases hstep : countFilter communityId access ctx store st f with
    | error reply => rfl
    | ok st' =>
      obtain ⟨hg', hans⟩ := countFilter_gathered hg hstep
      refine ih hg' ?_
      cases hvals : hValues f with
      | none => rwa [map_cons, hvals] at hread
      | some values =>
        rw [map_cons, hvals] at hread
        exact (hread (hans values hvals)).2

end Requests

/-! ### A probe -/

section Probe

variable (h : Option (List String))

def probe : RequestFilter where
  kinds := some [1]
  genericTags := match h with
    | some values => (∅ : Table SingleLetterTag (List String)).insert hTag values
    | none => ∅
  search := some ""

lemma hValues_probe : hValues (probe h) = h := by
  cases h with
  | none => rfl
  | some values => exact AList.lookup_insert _

lemma tagValues_hTag_probe (values : List String) :
    (probe (some values)).tagValues hTag = some values.dedup := by
  show (hValues (probe (some values))).map dedup = _
  rw [hValues_probe]
  rfl

def hiddenStore (communityId : CommunityId) (ch : Uuid) (n : ℕ) : EventStore where
  rows := (List.range n).map fun i =>
    ⟨communityId, ⟨⟨⟨0⟩, ⟨0⟩, i, 1, [], ""⟩, some ch⟩, none, false, []⟩
  distinct := by
    rw [List.map_map]
    refine List.Nodup.map ?_ List.nodup_range
    intro i j hij
    exact (Prod.ext_iff.mp (Prod.ext_iff.mp hij).2).1

def emptyStore : EventStore := ⟨[], List.nodup_nil⟩

lemma countMatching_of_none (hnone : ∀ row ∈ store.rows, query.whereClause row = false) :
    countMatching ctx store f query = .ok 0 := by
  have hgated : ∀ row ∈ store.rows, (gatedQuery ctx f query).whereClause row = false := by
    intro row hrow
    rw [whereClause_gatedQuery]
    exact hnone row hrow
  have hfil : (store.rows.filter fun row => (gatedQuery ctx f query).whereClause row &&
      (gatedQuery ctx f query).sharedClause row) = [] := by
    rw [filter_eq_nil_iff]
    intro row hrow
    simp [hgated row hrow]
  have hlen :
      ((applyCountFallbackLimit (gatedQuery ctx f query)).queryEvents store).length = 0 := by
    rw [length_queryEvents, hfil]
    rfl
  rw [countMatching_eq]
  split_ifs with hsql hbroad
  · unfold countEvents
    rw [countP_eq_zero.mpr fun row hrow => by simp [hgated row hrow]]
  · rw [hlen] at hbroad
    exact absurd hbroad (by decide)
  · rw [countP_queryEvents store (hlen ▸ Nat.zero_le _), hfil]
    rfl

variable {channels : List Uuid} {ch : Uuid} {values : List String}

lemma confirm_error {requested : List Uuid}
    (h : requested.foldlM (confirmChannel access ctx) channels = .error reply) :
    reply = databaseError := by
  induction requested generalizing channels with
  | nil => cases h
  | cons ch requested ih =>
    rw [foldlM_cons] at h
    rcases bind_eq_error.mp h with h | ⟨channels', _, h⟩
    · unfold confirmChannel at h
      split_ifs at h
      split at h
      · cases h
      · exact (Except.error.inj h).symm
    · exact ih h

lemma countFilters_emptyStore {filters : List RequestFilter}
    (h : filters.foldlM (countFilter communityId access ctx emptyStore) st = .error reply) :
    reply = databaseError := by
  have hzero : ∀ f query, countMatching ctx emptyStore f query = .ok 0 :=
    fun f query => countMatching_of_none fun row hrow => absurd hrow not_mem_nil
  induction filters generalizing st with
  | nil => cases h
  | cons f filters ih =>
    rw [foldlM_cons] at h
    rcases bind_eq_error.mp h with h | ⟨st', _, h⟩
    · unfold countFilter at h
      split at h
      · rcases bind_eq_error.mp h with h | ⟨channels, _, h⟩
        · exact confirm_error h
        split at h
        · cases h
        · rw [hzero] at h
          cases h
      · simp only [hzero, ok_bind] at h
        cases h
    · exact ih h

lemma Confined.hidden (hconf : Confined channels query) (hg : Gathered access ctx channels)
    (hhidden : readable access ctx ch = false) (f : RequestFilter) (n : ℕ) :
    countMatching ctx (hiddenStore communityId ch n) f query = .ok 0 := by
  refine countMatching_of_none ?_
  intro row hrow
  obtain ⟨i, _, rfl⟩ := mem_map.mp hrow
  by_contra hfound
  have hch := hconf _ (by simpa using hfound) ch rfl
  rw [hg.readable ch hch] at hhidden
  cases hhidden

lemma tagValues_probe (hkey : key ≠ hTag) : (probe (some values)).tagValues key = none := by
  unfold RequestFilter.tagValues probe
  simp only [AList.lookup_insert_ne hkey]
  rfl

/-- The query of a filter that is misread has no channel condition. -/
lemma query_misread (hmis : Misread values.dedup ch) :
    buildEventQueryFromFilter (probe (some values)) communityId =
      { communityId, kinds := some [1], limit := some defaultMaxPageLimit } := by
  have hchan : extractChannelIdFromFilter (probe (some values)) = none := by
    unfold extractChannelIdFromFilter
    rw [tagValues_hTag_probe]
    split
    · next v heq =>
      have hlen := hmis.2
      rw [Option.some.inj heq] at hlen
      exact absurd rfl hlen
    · rfl
  unfold buildEventQueryFromFilter filterToQueryParams
  rw [hchan, @tagValues_probe values pTagKey (by decide), @tagValues_probe values dTagKey (by decide),
    @tagValues_probe values eTagKey (by decide)]
  rfl

lemma not_countedBySql_probe : countedBySql ctx (probe h) = false := by
  simp [countedBySql, filterFullyPushable, probe]

lemma misread_tooBroad (hn : 5000 < n) (hmis : Misread values.dedup ch') :
    countMatching ctx (hiddenStore communityId ch n) (probe (some values))
      (buildEventQueryFromFilter (probe (some values)) communityId) = .error tooBroad := by
  have hgated : ∀ query, gatedQuery ctx (probe (some values)) query = query := fun _ => rfl
  have hall : ((hiddenStore communityId ch n).rows.filter fun row =>
      (buildEventQueryFromFilter (probe (some values)) communityId).whereClause row &&
      (buildEventQueryFromFilter (probe (some values)) communityId).sharedClause row) =
      (hiddenStore communityId ch n).rows := by
    rw [filter_eq_self]
    intro row hrow
    obtain ⟨i, _, rfl⟩ := mem_map.mp hrow
    rw [query_misread hmis]
    simp [whereClause, channelClause, dTagClause, holds,
      sharedClause]
  rw [countMatching_eq, not_countedBySql_probe, hgated, if_neg Bool.false_ne_true, if_pos]
  rw [length_queryEvents, hall]
  unfold hiddenStore
  rw [length_map, length_range]
  omega

/-- **A filter that is misread** shows the rows of a hidden channel. -/
lemma probes_tooBroad (hn : 5000 < n)
    (hhidden : readable access ctx ch = false) (hmisread : ¬ NoneMisread access ctx hs)
    (hg : Gathered access ctx st.1) :
    (hs.map probe).foldlM (countFilter communityId access ctx (hiddenStore communityId ch n)) st =
      .error tooBroad := by
  induction hs generalizing st with
  | nil => exact absurd trivial hmisread
  | cons h hs ih =>
    rw [map_cons, foldlM_cons]
    cases h with
    | none =>
      have hconf : Confined st.1
          { buildEventQueryFromFilter (probe none) communityId with channelIds := some st.1 } :=
        confined_of_channelIds rfl fun _ h => h
      have hstep : countFilter communityId access ctx (hiddenStore communityId ch n) st (probe none) =
          .ok (st.1, st.2 + 0) := by
        show (countMatching ctx (hiddenStore communityId ch n) (probe none) _ >>= _) = _
        rw [hconf.hidden hg hhidden, ok_bind]
      rw [hstep]
      exact ih hmisread hg
    | some values =>
      have hans : ∀ ch ∈ requestedChannels values.dedup, answered access ctx ch := by
        by_contra hnot
        exact hmisread fun h => absurd h hnot
      have hvals : extractChannelIdsFromFilter (probe (some values)) =
          some (requestedChannels values.dedup) := by
        show ((probe (some values)).tagValues hTag).map requestedChannels = _
        rw [tagValues_hTag_probe]
        rfl
      obtain ⟨channels, hfold, hg', _, hmem⟩ := confirm_all hg hans
      simp only [countFilter, hvals, hfold, ok_bind]
      by_cases hbad : ∃ ch', readable access ctx ch' ∧ Misread values.dedup ch'
      · obtain ⟨ch', hread, hbad⟩ := hbad
        have hch' : ch' ∈ channels := hmem ch' (by rw [hbad.1]; exact mem_singleton_self ch') hread
        have hq : explicitQuery communityId (probe (some values)) (requestedChannels values.dedup)
            channels = some (buildEventQueryFromFilter (probe (some values)) communityId) := by
          simp [explicitQuery, hbad.1, hch', applyChannelScopeToQuery]
        rw [hq]
        simp [misread_tooBroad hn hbad, bind, Except.bind]
      have hrest : ¬ NoneMisread access ctx hs :=
        fun hrest => hmisread fun _ => ⟨fun ch' hread hmis => hbad ⟨ch', hread, hmis⟩, hrest⟩
      cases hq : explicitQuery communityId (probe (some values))
          (requestedChannels values.dedup) channels with
      | none => exact ih hrest hg'
      | some query =>
        have hconf := confined_explicitQuery (tagValues_hTag_probe values)
          (fun ch' hch' hmis => hbad ⟨ch', hg'.readable ch' hch', hmis⟩) hq
        simp only [hconf.hidden hg' hhidden, ok_bind]
        exact ih hrest hg'

lemma checkFilters_probes {hs : List (Option (List String))}
    (hcnt : explicitChannelValues (hs.map probe) ≤ maxExplicitChannelValues) :
    checkFilters ctx (hs.map probe) = .ok () := by
  have hgates : ∀ gate : RequestFilter → Bool, (∀ h, gate (probe h)) →
      (hs.map probe).all gate := by
    intro gate hgate
    rw [all_map, all_eq_true]
    intro h _
    exact hgate h
  unfold checkFilters
  simp only [hgates (pGatedFilterAuthorized ctx.pubkey) fun _ => rfl,
    hgates (engramFilterAuthorized ctx.pubkey) fun _ => rfl,
    hgates (authorOnlyFilterAuthorized ctx.pubkey) fun _ => rfl]
  simp [refuseIf, Nat.not_lt.mpr hcnt, ok_bind]

end Probe

/-! ### Counts -/

section Counts

def hValueCount (hs : List (Option (List String))) : ℕ :=
  hs.foldl (fun count h => count + ((h.map List.dedup).map List.length).getD 0) 0

lemma explicitChannelValues_eq_hValueCount (filters : List RequestFilter) :
    explicitChannelValues filters = hValueCount (filters.map hValues) := by
  unfold hValueCount
  rw [foldl_map]
  rfl

variable {filters : List RequestFilter}

lemma explicitChannelValues_of_check (h : checkFilters ctx filters = .ok ()) :
    explicitChannelValues filters ≤ maxExplicitChannelValues := by
  unfold checkFilters at h
  simp only [bind_eq_ok, refuseIf_eq_ok] at h
  obtain ⟨_, _, _, _, _, _, h⟩ := h
  exact Nat.not_lt.mp h

lemma countAll_eq (h : ∀ channels, checkFilters ctx filters = .ok () →
      cachedChannels access ctx = .ok channels →
      filters.foldlM (countFilter communityId access ctx store) (channels, 0) =
        filters.foldlM (countFilter communityId access ctx store') (channels, 0)) :
    countAll communityId access ctx store filters = countAll communityId access ctx store' filters := by
  unfold countAll
  cases hchk : checkFilters ctx filters with
  | error reply => rfl
  | ok u =>
    cases hca : cachedChannels access ctx with
    | error reply => rfl
    | ok channels => simp only [ok_bind, h channels hchk hca]

lemma countMatching_all (hall : ∀ ch, readable access ctx ch)
    (hsame : SameReadable access ctx store store') :
    countMatching ctx store = countMatching ctx store' := by
  have hrows : ∀ rows : List EventRow, rows.filter (readableRow access ctx) = rows := by
    intro rows
    rw [filter_eq_self]
    intro row _
    unfold readableRow
    split
    · exact hall _
    · rfl
  unfold SameReadable at hsame
  rw [hrows, hrows] at hsame
  funext f query
  exact countMatching_perm fun p _ => hsame.filter p

lemma cachedChannels_none (h : access.cached.toOption = none) :
    cachedChannels access ctx = .error databaseError := by
  unfold cachedChannels
  cases hca : access.cached with
  | error e => rfl
  | ok ids =>
    rw [hca] at h
    cases h

lemma sameReadable_hidden (hhidden : readable access ctx ch = false) (n : ℕ) :
    SameReadable access ctx (hiddenStore communityId ch n) emptyStore := by
  have hnone : (hiddenStore communityId ch n).rows.filter (readableRow access ctx) = [] := by
    rw [filter_eq_nil_iff]
    intro row hrow
    obtain ⟨i, _, rfl⟩ := mem_map.mp hrow
    simp [readableRow, hhidden]
  unfold SameReadable
  rw [hnone]
  exact List.Perm.refl []

lemma handleCount_reached (hchk : checkFilters ctx filters = .ok ())
    (hca : cachedChannels access ctx = .ok channels) :
    handleCount communityId access (.authenticated ctx) filters store =
      match filters.foldlM (countFilter communityId access ctx store) (channels, 0) with
      | .ok st => .count st.2
      | .error reply => reply := by
  unfold handleCount countAll
  simp only [hchk, hca, ok_bind]
  cases filters.foldlM (countFilter communityId access ctx store) (channels, 0) with
  | error reply => rfl
  | ok st => rfl

lemma cachedChannels_some (h : access.cached.toOption ≠ none) :
    ∃ channels, cachedChannels access ctx = .ok channels := by
  unfold cachedChannels
  cases hca : access.cached with
  | error e =>
    rw [hca] at h
    exact absurd rfl h
  | ok ids => exact ⟨_, rfl⟩

/-- **A count shows nothing of channels that the reader cannot read** exactly if none of the filters
that are reached names one readable channel in several ways, or beside something that is no channel;
or if the request is refused anyway, or there is no channel that cannot be read. -/
theorem count_same_iff (communityId : CommunityId) (access : ChannelAccess) (ctx : AuthContext)
    (hs : List (Option (List String))) :
    (∀ filters : List RequestFilter, filters.map hValues = hs → ∀ store store' : EventStore,
      SameReadable access ctx store store' →
        handleCount communityId access (.authenticated ctx) filters store =
          handleCount communityId access (.authenticated ctx) filters store') ↔
    hValueCount hs > maxExplicitChannelValues ∨ access.cached.toOption = none ∨
      (∀ ch, readable access ctx ch = true) ∨ NoneMisread access ctx hs := by
  constructor
  · intro hsameReply
    by_contra hnot
    push Not at hnot
    obtain ⟨hcount, hcached, ⟨ch, hch⟩, hmisread⟩ := hnot
    have hhidden : readable access ctx ch = false := by simpa using hch
    obtain ⟨n, hn⟩ : ∃ n, 5000 < n := ⟨5001, by decide⟩
    have hfilters : (hs.map probe).map hValues = hs := by
      rw [map_map]
      exact (map_congr_left fun h _ => hValues_probe h).trans (map_id hs)
    have hreply := hsameReply (hs.map probe) hfilters (hiddenStore communityId ch n) emptyStore
      (sameReadable_hidden hhidden n)
    have hcheck : checkFilters ctx (hs.map probe) = .ok () := by
      refine checkFilters_probes ?_
      rw [explicitChannelValues_eq_hValueCount, hfilters]
      exact hcount
    obtain ⟨channels, hchannels⟩ := @cachedChannels_some access ctx hcached
    rw [handleCount_reached hcheck hchannels, handleCount_reached hcheck hchannels,
      probes_tooBroad hn hhidden hmisread (gathered_cachedChannels hchannels)] at hreply
    cases hempty : (hs.map probe).foldlM (countFilter communityId access ctx emptyStore)
        (channels, 0) with
    | ok st =>
      rw [hempty] at hreply
      cases hreply
    | error reply =>
      rw [hempty, countFilters_emptyStore hempty] at hreply
      exact absurd hreply (by decide)
  intro hcond filters hfilters store store' hsame
  subst hfilters
  have hcount : countAll communityId access ctx store filters =
      countAll communityId access ctx store' filters := by
    rcases hcond with hcount | hcached | hall | hread
    · refine countAll_eq fun channels hcheck _ => ?_
      have hle := explicitChannelValues_of_check hcheck
      rw [explicitChannelValues_eq_hValueCount] at hle
      exact absurd hcount (Nat.not_lt.mpr hle)
    · refine countAll_eq fun channels _ hok => ?_
      rw [cachedChannels_none hcached] at hok
      cases hok
    · refine countAll_eq fun channels _ _ => ?_
      unfold countFilter
      rw [countMatching_all hall hsame]
    · exact countAll_eq fun channels _ hok =>
        countFilters_eq (gathered_cachedChannels hok) hread hsame
  simp only [handleCount, hcount]

/-- Two spellings of one channel, 9, that the reader can read: an event of channel 7, which it cannot
read, is counted. -/
theorem two_spellings_leak :
    ∃ (access : ChannelAccess) (ctx : AuthContext) (filter : RequestFilter)
      (store store' : EventStore),
      hValues filter = some ["00000000000000000000000000000009",
        "00000000-0000-0000-0000-000000000009"] ∧
      SameReadable access ctx store store' ∧
      handleCount ⟨⟨1⟩⟩ access (.authenticated ctx) [filter] store = .count 1 ∧
      handleCount ⟨⟨1⟩⟩ access (.authenticated ctx) [filter] store' = .count 0 := by
  refine ⟨⟨.ok [⟨9⟩], fun _ => .ok false⟩, ⟨⟨5⟩, [], none⟩,
    { kinds := some [1]
      genericTags := (∅ : Table SingleLetterTag (List String)).insert hTag
        ["00000000000000000000000000000009", "00000000-0000-0000-0000-000000000009"] },
    hiddenStore ⟨⟨1⟩⟩ ⟨7⟩ 1, emptyStore, ?_, ?_, ?_, ?_⟩
  · exact AList.lookup_insert _
  · exact sameReadable_hidden (by decide +kernel) 1
  · decide +kernel
  · decide +kernel

end Counts

end Buzz.Relay
