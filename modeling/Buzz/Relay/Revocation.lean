import Buzz.Relay.Pod

/-!
Revocation on one pod.

A key is *barred* for a call when it was no member as the call began, with no removal still to be
invalidated on this pod, and has not been added since.  The question is whether a call can let a
barred key through on a private channel.  It can, when a look-up fills the cache with a `true` that
it read before a removal whose invalidation has already run (`lateFill_readmits`); in the runs
without such a fill it cannot (`revocation_holds`).
-/

namespace Buzz.Relay

open Buzz.Core Lib List PodState Or

/-! ### What a call must not do -/

/-- The key was no member when the call began, with no invalidation outstanding, and has not been
added since. -/
def CallRecord.Barred (g : CallRecord) (key : MemberKey) : Prop :=
  key ∉ g.members ∧ key ∉ g.unsettled ∧ key ∉ g.readded

/-- The key is no member, and every removal of it has been invalidated on this pod. -/
def PodState.Revoked (s : PodState) (key : MemberKey) : Prop :=
  key ∉ s.members ∧ key ∉ s.unsettled

open PodState

/-- The channel has been private since the check began and the row in hand does not say open, or it
has been private since the ingest that makes the check began. -/
def CheckCall.Guarded (k : CheckCall) : Prop :=
  (k.record.stayedPrivate ∧ k.row ≠ some "open") ∨ k.ingestPrivate

/-- The channel has been private since the fan-out began and no other visibility is threaded to it,
or it has been private since the ingest of the event began. -/
def FanoutCall.Guarded (f : FanoutCall) : Prop :=
  (f.record.stayedPrivate ∧ (f.threaded = none ∨ f.threaded = some "private")) ∨
    f.ingestPrivate

/-- No guarded check accepts a barred key, and a guarded fan-out keeps only connections whose key is
not barred. -/
structure RevocationHolds (conns : ConnectionManager) (s : PodState) : Prop where
  checks : ∀ id k, s.checks id = some k → k.Guarded → k.record.Barred k.key →
    k.phase ≠ .finished (.ok ())
  fanouts : ∀ id f, s.fanouts id = some f → f.Guarded → ∀ x ∈ f.kept,
    ∃ pk, pubkeyForConn conns x.1 = some pk ∧ ¬ f.record.Barred ⟨f.communityId, f.channelId, pk⟩

variable (conns : ConnectionManager)

/-- The step does not fill the cache with a `true` for a key that is revoked by then. -/
def FillsFresh (s : PodState) (a : PodAct) : Prop :=
  ∀ key, s.pendingFill conns a = some (key, true) → ¬ s.Revoked key

instance (s : PodState) (key : MemberKey) : Decidable (s.Revoked key) :=
  inferInstanceAs (Decidable (key ∉ s.members ∧ key ∉ s.unsettled))

instance (conns : ConnectionManager) (s : PodState) (a : PodAct) :
    Decidable (FillsFresh conns s a) :=
  match h : s.pendingFill conns a with
  | some (key, true) =>
    decidable_of_iff (¬ s.Revoked key) ⟨fun hr key' heq => by
      rw [h] at heq
      cases heq
      exact hr, fun hf => hf key h⟩
  | some (key, false) => isTrue fun key' heq => by
      rw [h] at heq
      cases heq
  | none => isTrue fun key' heq => by
      rw [h] at heq
      cases heq

/-! ### The look-ups, for a revoked key and a private channel -/

/-- The look-up has not found, and will not fill in, a `true`. -/
def MemberLookup.Negative : MemberLookup → Prop
  | insert value => value = false
  | done (.ok value) => value = false
  | _ => True

/-- Whatever visibility the look-up has in hand is private. -/
def VisibilityLookup.Private : VisibilityLookup → Prop
  | get prefetched => prefetched = none ∨ prefetched = some "private"
  | insert v => v = "private"
  | done (.ok v) => v = "private"
  | _ => True

open VisibilityLookup

section Lookups

variable {s : PodState}

lemma MemberLookup.next_negative {lookup : MemberLookup} (dbOk : Bool)
    (h : lookup.Negative) (hkey : key ∉ s.members)
    (hcache : s.membershipCache.lookup key ≠ some true) : (lookup.next s key dbOk).Negative := by
  cases lookup with
  | get =>
    unfold next
    cases hc : s.membershipCache.lookup key with
    | none => trivial
    | some cached =>
      cases cached with
      | false => rfl
      | true => exact absurd hc hcache
  | read =>
    cases dbOk
    · trivial
    · simp [next, Negative, hkey]
  | insert value => exact h
  | done answer => exact h

lemma VisibilityLookup.resolved_private : (resolved "private").Private := by
  simp [resolved, Private]

lemma VisibilityLookup.next_fill {lookup : VisibilityLookup}
    (h : (lookup.next s chan dbOk).fill = some v) : v = "private" := by
  have hres : ∀ row, (resolved row).fill = some v → v = "private" := by
    intro row hrow
    unfold resolved at hrow
    split at hrow
    · rename_i hp
      exact (Option.some.inj hrow).symm.trans hp
    · cases hrow
  cases lookup with
  | get prefetched =>
    simp only [next] at h
    split at h
    · cases h
    split at h
    · exact hres _ h
    · cases h
  | read =>
    simp only [next] at h
    split at h
    · exact hres _ h
    · cases h
  | insert w => cases h
  | done answer => cases h

lemma VisibilityLookup.next_private {lookup : VisibilityLookup} (dbOk : Bool)
    (h : lookup.Private) (hpriv : s.isPrivate chan)
    (hcache : ∀ v, s.channelVisibilityCache.lookup chan = some v → v = "private") :
    (lookup.next s chan dbOk).Private := by
  have hdb := s.isPrivate_iff.mp hpriv
  cases lookup with
  | get prefetched =>
    unfold next
    cases hc : s.channelVisibilityCache.lookup chan with
    | some cached => exact hcache cached hc
    | none =>
      rcases h with rfl | rfl
      · trivial
      · exact resolved_private
  | read =>
    cases dbOk
    · simp [next, Private]
    · simp [next, hdb, resolved_private]
  | insert v => exact h
  | done answer => exact h

end Lookups

/-! ### The invariant -/

def chanOf (key : MemberKey) : ChannelKey := (key.communityId, key.channelId)

/-- A record agrees with the state: its barred keys are revoked, and its channel is private now if
it stayed private. -/
structure RecordOk (s : PodState) (chan : ChannelKey) (g : CallRecord) : Prop where
  barred : ∀ key, g.Barred key → s.Revoked key
  priv : g.stayedPrivate → s.isPrivate chan

def HandedPrivate (v : Option String) : Prop := v = none ∨ v = some "private"

def IngestPhase.Private : IngestPhase → Prop
  | begun => True
  | fetched row lookup => row = "private" ∧ lookup.Private
  | ready row threaded => HandedPrivate row ∧ HandedPrivate threaded

structure IngestOk (s : PodState) (i : IngestCall) : Prop where
  priv : i.stayedPrivate → s.isPrivate (i.communityId, i.channelId)
  phase : i.stayedPrivate → i.phase.Private
  fills : ∀ v, i.visibilityFill = some v → v = "private"

def CheckPhase.Rejecting : CheckPhase → Prop
  | member lookup => lookup.Negative
  | channel => True
  | finished verdict => verdict ≠ .ok ()

structure CheckOk (s : PodState) (k : CheckCall) : Prop where
  record : RecordOk s (chanOf k.key) k.record
  ingest : k.ingestPrivate → k.record.stayedPrivate ∧ k.row ≠ some "open"
  phase : k.record.stayedPrivate → k.row ≠ some "open" → k.record.Barred k.key →
    k.phase.Rejecting

def FanoutPhase.Filtering (barred : PublicKey → Prop) : FanoutPhase → Prop
  | resolving lookup => lookup.Private
  | checking (x :: _) lookup => ∀ pk, pubkeyForConn conns x.1 = some pk → barred pk →
      lookup.Negative
  | _ => True

structure FanoutOk (conns : ConnectionManager) (s : PodState) (f : FanoutCall) : Prop where
  record : RecordOk s (f.communityId, f.channelId) f.record
  ingest : f.ingestPrivate → f.record.stayedPrivate ∧ HandedPrivate f.threaded
  phase : f.record.stayedPrivate → HandedPrivate f.threaded →
    f.phase.Filtering conns fun pk => f.record.Barred ⟨f.communityId, f.channelId, pk⟩
  kept : f.record.stayedPrivate → HandedPrivate f.threaded → ∀ x ∈ f.kept,
    ∃ pk, pubkeyForConn conns x.1 = some pk ∧ ¬ f.record.Barred ⟨f.communityId, f.channelId, pk⟩
  fills : ∀ v, f.visibilityFill = some v → v = "private"

structure PodInv (conns : ConnectionManager) (s : PodState) : Prop where
  cache : ∀ key, s.Revoked key → s.membershipCache.lookup key ≠ some true
  visibilityCache : ∀ chan v, s.channelVisibilityCache.lookup chan = some v → v = "private"
  ingests : ∀ id i, s.ingests id = some i → IngestOk s i
  checks : ∀ id k, s.checks id = some k → CheckOk s k
  fanouts : ∀ id f, s.fanouts id = some f → FanoutOk conns s f

open PodInv

lemma PodInv.revocationHolds {conns : ConnectionManager} {s : PodState} (h : PodInv conns s) :
    RevocationHolds conns s := by
  constructor
  · intro id k hk hg hb
    have hok := h.checks id k hk
    have hpr : k.record.stayedPrivate ∧ k.row ≠ some "open" := by
      rcases hg with hg | hg
      · exact hg
      · exact hok.ingest hg
    have hph := hok.phase hpr.1 hpr.2 hb
    intro heq
    rw [heq] at hph
    exact hph rfl
  intro id f hf hg
  have hok := h.fanouts id f hf
  have hpr : f.record.stayedPrivate ∧ HandedPrivate f.threaded := by
    rcases hg with hg | hg
    · exact hg
    · exact hok.ingest hg
  exact hok.kept hpr.1 hpr.2

/-! ### The calls take one step -/

section Calls

variable {conns : ConnectionManager} {s s' : PodState}

lemma IngestOk.next {i : IngestCall} (h : IngestOk s i) (hvis : ∀ chan v,
      s.channelVisibilityCache.lookup chan = some v → v = "private") (dbOk : Bool) :
    IngestOk s (i.next s dbOk) := by
  obtain ⟨c, ch, phase, stayed⟩ := i
  cases phase with
  | begun =>
    unfold IngestCall.next
    cases hrow : (if dbOk then s.visibility.lookup (c, ch) else none) with
    | none =>
      exact ⟨h.priv, fun _ => ⟨inl rfl, inl rfl⟩, fun _ hv => by cases hv⟩
    | some row =>
      refine ⟨h.priv, fun hs => ?_, fun _ hv => by cases hv⟩
      have hp := s.isPrivate_iff.mp (h.priv hs)
      have hrow' : row = "private" := by
        cases dbOk
        · cases hrow
        · rw [if_pos rfl, hp] at hrow
          exact (Option.some.inj hrow).symm
      subst hrow'
      exact ⟨rfl, inr rfl⟩
  | fetched row lookup =>
    have hstep : ∀ l : VisibilityLookup, (stayed → row = "private" ∧ l.Private) →
        IngestOk s ⟨c, ch, .fetched row (l.next s (c, ch) dbOk), stayed⟩ := by
      intro l hl
      refine ⟨h.priv, fun hs => ⟨(hl hs).1, ?_⟩, fun _ hv => next_fill hv⟩
      exact next_private dbOk (hl hs).2 (h.priv hs) (hvis _)
    cases lookup with
    | get prefetched => exact hstep (.get prefetched) h.phase
    | read => exact hstep .read h.phase
    | insert v => exact hstep (.insert v) h.phase
    | done answer =>
      refine ⟨h.priv, fun hs => ?_, fun _ hv => by cases hv⟩
      obtain ⟨rfl, hl⟩ := h.phase hs
      refine ⟨inr rfl, ?_⟩
      cases answer with
      | error e => exact inl rfl
      | ok v => exact inr (congrArg some hl)
  | ready row threaded => exact h

lemma openVerdict_ne_ok (h : v ≠ some "open") : openVerdict v ≠ .ok () := by
  simp [openVerdict, h]

lemma CheckOk.next {k : CheckCall} (h : CheckOk s k)
    (hcache : ∀ key, s.Revoked key → s.membershipCache.lookup key ≠ some true) (dbOk : Bool) :
    CheckOk s (k.next s dbOk) := by
  refine ⟨h.record, h.ingest, fun hs hrow hb => ?_⟩
  have hrev := h.record.barred _ hb
  have hph := h.phase hs hrow hb
  unfold CheckCall.next
  rcases hk : k.phase with (lookup | _ | verdict) <;> rw [hk] at hph
  · rcases lookup with _ | _ | value | answer
    · exact MemberLookup.next_negative dbOk hph hrev.1 (hcache _ hrev)
    · exact MemberLookup.next_negative dbOk hph hrev.1 (hcache _ hrev)
    · exact hph
    rcases answer with e | value
    · simp [CheckPhase.next, CheckPhase.Rejecting]
    obtain rfl : value = false := hph
    cases hr : k.row with
    | none => trivial
    | some v =>
      simp only [CheckPhase.next, CheckPhase.Rejecting]
      exact openVerdict_ne_ok (hr ▸ hrow)
  · -- the database says private, if it answers
    have hp : s.visibility.lookup (k.key.communityId, k.key.channelId) = some "private" :=
      s.isPrivate_iff.mp (h.record.priv hs)
    apply openVerdict_ne_ok
    cases dbOk
    · simp
    · simp [hp]
  · exact hph

lemma FanoutOk.settle (h : FanoutOk conns s f) (rest : List (ConnId × SubId)) (keep : Bool)
    (hkeep : keep → f.record.stayedPrivate → HandedPrivate f.threaded →
      ∃ pk, pubkeyForConn conns x.1 = some pk ∧
        ¬ f.record.Barred ⟨f.communityId, f.channelId, pk⟩) :
    FanoutOk conns s (f.settle x rest keep) := by
  refine ⟨h.record, h.ingest, fun _ _ => ?_, fun hs ht y hy => ?_, fun _ hv => by cases hv⟩
  · cases rest with
    | nil => trivial
    | cons z rest => exact fun _ _ _ => trivial
  cases keep with
  | false => exact h.kept hs ht y hy
  | true =>
    rcases mem_append.mp hy with hy | hy
    · exact h.kept hs ht y hy
    rw [mem_singleton] at hy
    subst hy
    exact hkeep rfl hs ht

lemma FanoutOk.next {f : FanoutCall} (h : FanoutOk conns s f)
    (hcache : ∀ key, s.Revoked key → s.membershipCache.lookup key ≠ some true)
    (hvis : ∀ chan v, s.channelVisibilityCache.lookup chan = some v → v = "private")
    (dbOk : Bool) : FanoutOk conns s (f.next conns s dbOk) := by
  have hph := h.phase
  rcases hp : f.phase with lookup | ⟨_ | ⟨x, rest⟩, lookup⟩ | _ <;> rw [hp] at hph
  · have hstep : ∀ l : VisibilityLookup,
        (f.record.stayedPrivate → HandedPrivate f.threaded → l.Private) →
        FanoutOk conns s
          { f with phase := .resolving (l.next s (f.communityId, f.channelId) dbOk) } := by
      intro l hl
      refine ⟨h.record, h.ingest, fun hs ht => ?_, h.kept,
        fun _ hv => next_fill hv⟩
      exact next_private dbOk (hl hs ht) (h.record.priv hs) (hvis _)
    rcases lookup with prefetched | _ | v | e | v <;> simp only [FanoutCall.next, hp]
    · exact hstep (.get prefetched) hph
    · exact hstep .read hph
    · exact ⟨h.record, h.ingest, hph, h.kept, fun _ hv => by cases hv⟩
    · exact ⟨h.record, h.ingest, fun _ _ => trivial, h.kept, fun _ hv => by cases hv⟩
    by_cases hv : v = "private"
    · simp only [hv, ne_eq, not_true_eq_false, if_false]
      refine ⟨h.record, h.ingest, fun _ _ => ?_, h.kept, fun _ hv => by cases hv⟩
      cases f.hits with
      | nil => trivial
      | cons x rest => exact fun _ _ _ => trivial
    -- a guarded call never has another visibility in hand
    simp only [ne_eq, hv, not_false_eq_true, if_true]
    exact ⟨h.record, h.ingest, fun _ _ => trivial, fun hs ht => absurd (hph hs ht) hv,
      fun _ hv => by cases hv⟩
  · simp only [FanoutCall.next, hp]
    exact ⟨h.record, h.ingest, fun _ _ => trivial, h.kept, fun _ hv => by cases hv⟩
  · cases hx : pubkeyForConn conns x.1 with
    | none =>
      simp only [FanoutCall.next, hp, hx]
      exact h.settle rest false (by simp)
    | some pk =>
      have hstep : ∀ l : MemberLookup, (f.record.stayedPrivate → HandedPrivate f.threaded →
          ∀ pk', pubkeyForConn conns x.1 = some pk' →
            f.record.Barred ⟨f.communityId, f.channelId, pk'⟩ → l.Negative) →
          FanoutOk conns s { f with
            phase := .checking (x :: rest) (l.next s ⟨f.communityId, f.channelId, pk⟩ dbOk) } := by
        intro l hl
        refine ⟨h.record, h.ingest, fun hs ht pk' hx' hb => ?_, h.kept, fun _ hv => by cases hv⟩
        obtain rfl := Option.mem_unique hx hx'
        have hrev := h.record.barred _ hb
        exact MemberLookup.next_negative dbOk (hl hs ht pk hx hb) hrev.1 (hcache _ hrev)
      rcases lookup with _ | _ | value | answer <;> simp only [FanoutCall.next, hp, hx]
      · exact hstep .get hph
      · exact hstep .read hph
      · exact hstep (.insert value) hph
      refine h.settle rest (keepsMember answer) fun hkeep hs ht => ⟨pk, hx, fun hb => ?_⟩
      have hneg := hph hs ht pk hx hb
      rcases answer with e | value
      · cases hkeep
      · obtain rfl : value = false := hneg
        cases hkeep
  · simp only [FanoutCall.next, hp]
    exact h

end Calls

/-! ### The invariant is preserved -/

section Preservation

variable {conns : ConnectionManager} {s s' : PodState} {chan : ChannelKey} {g : CallRecord}

lemma RecordOk.mono (h : RecordOk s chan g)
    (hr : ∀ key, s.Revoked key → s'.Revoked key) (hv : s'.visibility = s.visibility) :
    RecordOk s' chan g := by
  refine ⟨fun key hb => hr key (h.barred key hb), fun hs => ?_⟩
  rw [s'.isPrivate_iff, hv]
  exact s.isPrivate_iff.mp (h.priv hs)

/-- The calls of the new state are in order with respect to the old one, and the new state revokes
no less and has the same visibilities. -/
lemma PodInv.frame (hr : ∀ key, s.Revoked key → s'.Revoked key) (hv : s'.visibility = s.visibility)
    (hcache : ∀ key, s'.Revoked key → s'.membershipCache.lookup key ≠ some true)
    (hvis : ∀ chan v, s'.channelVisibilityCache.lookup chan = some v → v = "private")
    (hi : ∀ id i, s'.ingests id = some i → IngestOk s i)
    (hk : ∀ id k, s'.checks id = some k → CheckOk s k)
    (hf : ∀ id f, s'.fanouts id = some f → FanoutOk conns s f) : PodInv conns s' := by
  refine ⟨hcache, hvis, fun id i h => ⟨fun hs => ?_, (hi id i h).phase, (hi id i h).fills⟩,
    fun id k h => ?_, fun id f h => ?_⟩
  · rw [s'.isPrivate_iff, hv]
    exact s.isPrivate_iff.mp ((hi id i h).priv hs)
  · have hok := hk id k h
    exact ⟨hok.record.mono hr hv, hok.ingest, hok.phase⟩
  · have hok := hf id f h
    exact ⟨hok.record.mono hr hv, hok.ingest, hok.phase, hok.kept, hok.fills⟩

lemma forall_update {β : Type*} {P : β → Prop} {pool : ℕ → Option β} {b₀ : β}
    (hold : ∀ id b, pool id = some b → P b) (hnew : P b₀) :
    ∀ id b, Function.update pool id₀ (some b₀) id = some b → P b := by
  intro id b h
  by_cases hid : id = id₀
  · subst hid
    rw [Function.update_self] at h
    cases h
    exact hnew
  · rw [Function.update_of_ne hid] at h
    exact hold id b h

lemma forall_map {β γ : Type*} {P : γ → Prop} {g : β → γ} {pool : ℕ → Option β}
    (h : ∀ id b, pool id = some b → P (g b)) : ∀ id c, (pool id).map g = some c → P c := by
  intro id c hc
  obtain ⟨b, hb, rfl⟩ := Option.map_eq_some_iff.mp hc
  exact h id b hb

lemma RecordOk.noteAdd (h : RecordOk s chan g) (hm : s'.members = key :: s.members)
    (hu : s'.unsettled = s.unsettled) (hv : s'.visibility = s.visibility) :
    RecordOk s' chan (g.noteAdd key) := by
  refine ⟨?_, fun hs => ?_⟩
  · rintro key' ⟨h1, h2, h3⟩
    rw [CallRecord.noteAdd, mem_cons, not_or] at h3
    obtain ⟨hnm, hnu⟩ := h.barred key' ⟨h1, h2, h3.2⟩
    refine ⟨?_, hu ▸ hnu⟩
    rw [hm, mem_cons, not_or]
    exact ⟨h3.1, hnm⟩
  · rw [s'.isPrivate_iff, hv]
    exact s.isPrivate_iff.mp (h.priv hs)

lemma barred_of_noteAdd (h : (g.noteAdd key).Barred key') : g.Barred key' :=
  ⟨h.1, h.2.1, fun hm => h.2.2 (mem_cons_of_mem _ hm)⟩

lemma PodInv.addMember (h : PodInv conns s) (key : MemberKey) :
    PodInv conns (s.step conns (.addMember key)) := by
  refine ⟨?_, h.visibilityCache, fun id i hi => ?_, forall_map fun id k hk => ?_,
    forall_map fun id f hf => ?_⟩
  · rintro key' ⟨hm, hu⟩
    exact h.cache key' ⟨fun hk => hm (mem_cons_of_mem _ hk), hu⟩
  · have hok := h.ingests id i hi
    exact ⟨hok.priv, hok.phase, hok.fills⟩
  · have hok := h.checks id k hk
    exact ⟨hok.record.noteAdd rfl rfl rfl, hok.ingest,
      fun hs hrow hb => hok.phase hs hrow (barred_of_noteAdd hb)⟩
  have hok := h.fanouts id f hf
  refine ⟨hok.record.noteAdd rfl rfl rfl, hok.ingest, fun hs ht => ?_, fun hs ht x hx => ?_,
    hok.fills⟩
  · have hph := hok.phase hs ht
    rcases hp : f.phase with lookup | ⟨_ | ⟨x, rest⟩, lookup⟩ | _ <;> rw [hp] at hph
    · exact hph
    · trivial
    · exact fun pk hx hb => hph pk hx (barred_of_noteAdd hb)
    · trivial
  · obtain ⟨pk, hpk, hb⟩ := hok.kept hs ht x hx
    exact ⟨pk, hpk, fun hb' => hb (barred_of_noteAdd hb')⟩

lemma noteVisibility_eq_true
    (h : noteVisibility chan at' v flag) : flag ∧ (at' = chan → v = "private") := by
  simp only [noteVisibility, Bool.and_eq_true, Bool.not_eq_true', Bool.and_eq_false_iff,
    decide_eq_false_iff_not, not_not] at h
  exact ⟨h.1, fun heq => h.2.resolve_left fun hne => hne heq⟩

lemma isPrivate_insert {flag : Bool}
    (hvis : s'.visibility = s.visibility.insert chan v) (hp : flag → s.isPrivate at')
    (h : noteVisibility chan at' v flag) : s'.isPrivate at' := by
  obtain ⟨hflag, hv⟩ := noteVisibility_eq_true h
  rw [s'.isPrivate_iff, hvis, Table.lookup_insert_if]
  split_ifs with hc
  · rw [hv hc]
  · exact s.isPrivate_iff.mp (hp hflag)

lemma noteVisibility_and {flag flag' : Bool}
    (hstay : flag → flag' ∧ P) (h : noteVisibility chan at' v flag) :
    noteVisibility chan at' v flag' ∧ P := by
  obtain ⟨rfl, -⟩ := noteVisibility_eq_true h
  obtain ⟨rfl, hrow⟩ := hstay rfl
  exact ⟨h, hrow⟩

section

variable (h : PodInv conns s) (chan : ChannelKey) (key : MemberKey)
include h

lemma PodInv.setVisibility (v : String) : PodInv conns (s.step conns (.setVisibility chan v)) := by
  refine ⟨h.cache, h.visibilityCache, forall_map fun id i hi => ?_, forall_map fun id k hk => ?_,
    forall_map fun id f hf => ?_⟩
  · have hok := h.ingests id i hi
    exact ⟨isPrivate_insert rfl hok.priv, fun hs => hok.phase (noteVisibility_eq_true hs).1, hok.fills⟩
  · have hok := h.checks id k hk
    exact ⟨⟨hok.record.barred, isPrivate_insert rfl hok.record.priv⟩, noteVisibility_and hok.ingest,
      fun hs => hok.phase (noteVisibility_eq_true hs).1⟩
  have hok := h.fanouts id f hf
  exact ⟨⟨hok.record.barred, isPrivate_insert rfl hok.record.priv⟩, noteVisibility_and hok.ingest,
    fun hs => hok.phase (noteVisibility_eq_true hs).1,
    fun hs => hok.kept (noteVisibility_eq_true hs).1, hok.fills⟩

lemma PodInv.removeMember : PodInv conns (s.step conns (.removeMember key)) := by
  refine frame (s := s) ?_ rfl ?_ h.visibilityCache h.ingests h.checks h.fanouts
  · rintro key' ⟨hm, hu⟩
    refine ⟨fun hin => hm (mem_of_mem_filter hin), ?_⟩
    simp only [step]
    split
    · rename_i hkey
      rw [mem_cons, not_or]
      exact ⟨fun heq => hm (heq ▸ hkey), hu⟩
    · exact hu
  -- a member that is removed is not settled yet, so nothing new is revoked
  rintro key' ⟨hm, hu⟩
  apply h.cache key'
  simp only [step, mem_filter, decide_eq_true_eq, not_and, not_not] at hm hu
  constructor
  · intro hin
    obtain rfl := hm hin
    rw [if_pos hin] at hu
    exact hu mem_cons_self
  intro hin
  split at hu
  · exact hu (mem_cons_of_mem _ hin)
  · exact hu hin

lemma PodInv.invalidateMembership : PodInv conns (s.step conns (.invalidateMembership key)) := by
  refine frame (s := s) ?_ rfl ?_ h.visibilityCache h.ingests h.checks h.fanouts
  · rintro key' ⟨hm, hu⟩
    exact ⟨hm, fun hin => hu (mem_of_mem_filter hin)⟩
  rintro key' ⟨hm, hu⟩ hca
  obtain ⟨hk, hca⟩ := Table.lookup_erase_eq_some.mp hca
  refine h.cache key' ⟨hm, fun hin => hu ?_⟩ hca
  exact mem_filter.mpr ⟨hin, by simpa using hk⟩

lemma PodInv.evictMembership : PodInv conns (s.step conns (.evictMembership key)) := by
  refine frame (s := s) (fun _ hr => hr) rfl (fun key' hr hca => ?_) h.visibilityCache
    h.ingests h.checks h.fanouts
  exact h.cache key' hr (Table.lookup_erase_eq_some.mp hca).2

lemma PodInv.dropVisibility : PodInv conns (s.step conns (.dropVisibility chan)) := by
  refine frame (s := s) (fun _ hr => hr) rfl h.cache (fun chan' v hv => ?_) h.ingests
    h.checks h.fanouts
  exact h.visibilityCache chan' v (Table.lookup_erase_eq_some.mp hv).2

lemma PodInv.handedOn (source : Option ℕ) (hp : (s.handedOn chan source).2.2) :
    s.isPrivate chan ∧ HandedPrivate (s.handedOn chan source).1 ∧
      HandedPrivate (s.handedOn chan source).2.1 := by
  unfold PodState.handedOn at hp ⊢
  cases hsrc : source.bind s.ingests with
  | none =>
    rw [hsrc] at hp
    exact ⟨hp, inl rfl, inl rfl⟩
  | some i =>
    obtain ⟨id, -, hid⟩ := Option.bind_eq_some_iff.mp hsrc
    have hok := h.ingests id i hid
    rw [hsrc] at hp
    cases hph : i.phase with
    | begun | fetched row lookup =>
      simp only [hph] at hp ⊢
      exact ⟨hp, inl rfl, inl rfl⟩
    | ready row threaded =>
      simp only [hph] at hp ⊢
      split at hp
      · rename_i hc
        rw [if_pos hc]
        have hpr := hok.phase hp
        rw [hph] at hpr
        exact ⟨hc ▸ hok.priv hp, hpr.1, hpr.2⟩
      rename_i hc
      rw [if_neg hc]
      exact ⟨hp, inl rfl, inl rfl⟩

end

variable (chan : ChannelKey)

lemma recordOk_new : RecordOk s chan (s.newRecord chan) :=
  ⟨fun _ hb => ⟨hb.1, hb.2.1⟩, fun hs => hs⟩

variable (h : PodInv conns s)

include h

lemma PodInv.newCheck (key : MemberKey) (source : Option ℕ) :
    CheckOk s (s.beginCheck key source) := by
  refine ⟨recordOk_new _, fun hp => ?_, fun _ _ _ => trivial⟩
  obtain ⟨hpriv, hrow, -⟩ := h.handedOn _ source hp
  refine ⟨hpriv, ?_⟩
  rcases hrow with hrow | hrow
  all_goals exact fun heq => by simp [beginCheck, hrow] at heq

lemma PodInv.newFanout (e : Event) (hits : List (ConnId × SubId)) (source : Option ℕ) :
    FanoutOk conns s (s.beginFanout conns chan e hits source) := by
  refine ⟨recordOk_new _, fun hp => ?_, fun _ ht => ?_, fun _ _ x hx => (by cases hx),
    fun v hv => ?_⟩
  · obtain ⟨hpriv, -, ht⟩ := h.handedOn _ source hp
    exact ⟨hpriv, ht⟩
  · rcases ht with ht | ht
    · simp only [beginFanout] at ht ⊢
      rw [ht]
      exact inl rfl
    simp only [beginFanout] at ht ⊢
    rw [ht]
    rfl
  · simp only [FanoutCall.visibilityFill, beginFanout] at hv
    split at hv <;> cases hv

lemma PodInv.fillMembership {fill : Option (MemberKey × Bool)}
    (hfresh : ∀ key, fill = some (key, true) → ¬ s.Revoked key) (key : MemberKey)
    (hr : s.Revoked key) :
    (Relay.fillMembership s.membershipCache fill).lookup key ≠ some true := by
  rcases fill with _ | ⟨key', value⟩
  · exact h.cache key hr
  intro hca
  rcases Table.lookup_insert_eq_some.mp hca with ⟨rfl, rfl⟩ | ⟨-, hca⟩
  · exact hfresh key rfl hr
  · exact h.cache key hr hca

lemma PodInv.fillVisibility {fill : Option String}
    (hfill : ∀ v, fill = some v → v = "private") (chan' : ChannelKey) (v : String)
    (hv : (Relay.fillVisibility s.channelVisibilityCache chan fill).lookup chan' = some v) :
    v = "private" := by
  cases fill with
  | none => exact h.visibilityCache chan' v hv
  | some w =>
    rcases Table.lookup_insert_eq_some.mp hv with ⟨-, rfl⟩ | ⟨-, hv⟩
    · exact hfill w rfl
    · exact h.visibilityCache chan' v hv

/-- **One step.** Every step that does not fill in a revoked membership keeps the invariant. -/
theorem PodInv.step (a : PodAct) (hfresh : FillsFresh conns s a) :
    PodInv conns (s.step conns a) := by
  cases a with
  | addMember key => exact h.addMember key
  | removeMember key => exact h.removeMember key
  | setVisibility chan v => exact h.setVisibility chan v
  | invalidateMembership key => exact h.invalidateMembership key
  | evictMembership key => exact h.evictMembership key
  | dropVisibility chan => exact h.dropVisibility chan
  | beginIngest id chan =>
    simp only [PodState.step]
    split
    · exact h
    refine frame (s := s) (fun _ hr => hr) rfl h.cache h.visibilityCache
      (forall_update h.ingests ?_) h.checks h.fanouts
    exact ⟨fun hs => hs, fun _ => trivial, fun _ hv => by cases hv⟩
  | stepIngest id dbOk =>
    simp only [PodState.step]
    split
    · exact h
    rename_i i hi
    have hok := h.ingests id i hi
    exact frame (s := s) (fun _ hr => hr) rfl h.cache (h.fillVisibility _ hok.fills)
      (forall_update h.ingests (hok.next h.visibilityCache dbOk)) h.checks h.fanouts
  | beginCheck id key source =>
    simp only [PodState.step]
    split
    · exact h
    · exact frame (s := s) (fun _ hr => hr) rfl h.cache h.visibilityCache h.ingests
        (forall_update h.checks (h.newCheck key source)) h.fanouts
  | stepCheck id dbOk =>
    simp only [PodState.step]
    split
    · exact h
    rename_i k hk
    have hfill : ∀ key, k.fill = some (key, true) → ¬ s.Revoked key := by
      intro key hkey
      exact hfresh key (by simp [pendingFill, hk, hkey])
    exact frame (s := s) (fun _ hr => hr) rfl (h.fillMembership hfill) h.visibilityCache
      h.ingests (forall_update h.checks ((h.checks id k hk).next h.cache dbOk)) h.fanouts
  | beginFanout id chan e hits source =>
    simp only [PodState.step]
    split
    · exact h
    · exact frame (s := s) (fun _ hr => hr) rfl h.cache h.visibilityCache h.ingests h.checks
        (forall_update h.fanouts (h.newFanout chan e hits source))
  | stepFanout id dbOk =>
    simp only [PodState.step]
    split
    · exact h
    rename_i f hf
    have hok := h.fanouts id f hf
    have hfill : ∀ key, f.fill conns = some (key, true) → ¬ s.Revoked key := by
      intro key hkey
      exact hfresh key (by simp [pendingFill, hf, hkey])
    exact frame (s := s) (fun _ hr => hr) rfl (h.fillMembership hfill)
      (h.fillVisibility _ hok.fills) h.ingests h.checks
      (forall_update h.fanouts (hok.next h.cache h.visibilityCache dbOk))

end Preservation

lemma podInv_start (members : List MemberKey)
    (visibility : Table ChannelKey String) : PodInv conns (start members visibility) := by
  refine ⟨fun key _ => ?_, fun chan v hv => ?_, fun id i hi => ?_, fun id k hk => ?_,
    fun id f hf => ?_⟩
  · simp [start]
  · simp [start] at hv
  · cases hi
  · cases hk
  · cases hf

/-- **Revocation takes effect at once.** In every run of a pod from its start in which no step fills
the cache with a `true` for a key that is revoked by then: no guarded check accepts a barred key,
and a guarded fan-out keeps only connections whose key is not barred. -/
theorem revocation_holds (conns : ConnectionManager) (members : List MemberKey)
    (visibility : Table ChannelKey String) (acts : List PodAct)
    (h : AllSteps (step conns) (FillsFresh conns) (start members visibility) acts) :
    RevocationHolds conns
      (acts.foldl (step conns) (start members visibility)) := by
  have hinv : PodInv conns (acts.foldl (step conns) (start members visibility)) :=
    h.invariant (I := PodInv conns) (fun s a hs ha => hs.step a ha)
      (podInv_start conns members visibility)
  exact hinv.revocationHolds

/-! ### Two runs around a removal -/

def exampleMember : MemberKey := ⟨⟨⟨1⟩⟩, ⟨5⟩, ⟨2⟩⟩

def exampleConns : ConnectionManager := AList.insert ⟨20⟩ ⟨⟨⟨1⟩⟩, some ⟨2⟩⟩ ∅

def exampleChannels : Table ChannelKey String := AList.insert (⟨⟨1⟩⟩, ⟨5⟩) "private" ∅

def exampleMessage : Event := ⟨⟨7⟩, ⟨9⟩, 1000, 9, [], "hello"⟩

def exampleFanout : List PodAct :=
  .beginFanout 1 (⟨⟨1⟩⟩, ⟨5⟩) exampleMessage [(⟨20⟩, "s")] none ::
    List.replicate 8 (.stepFanout 1 true)

def promptFill : List PodAct :=
  [.beginCheck 0 exampleMember none, .stepCheck 0 true, .stepCheck 0 true, .stepCheck 0 true,
    .removeMember exampleMember, .invalidateMembership exampleMember] ++ exampleFanout

def lateFill : List PodAct :=
  [.beginCheck 0 exampleMember none, .stepCheck 0 true, .stepCheck 0 true,
    .removeMember exampleMember, .invalidateMembership exampleMember, .stepCheck 0 true] ++
    exampleFanout

theorem promptFill_revocation_holds :
    AllSteps (step exampleConns) (FillsFresh exampleConns)
        (start [exampleMember] exampleChannels) promptFill ∧
      RevocationHolds exampleConns (promptFill.foldl (step exampleConns)
        (start [exampleMember] exampleChannels)) :=
  ⟨by decide, revocation_holds _ _ _ _ (by decide)⟩

/-- **A late fill readmits a removed member.** The fan-out that begins after the removal and its
invalidation keeps the member's connection. -/
theorem lateFill_readmits :
    ¬ RevocationHolds exampleConns (lateFill.foldl (step exampleConns)
      (start [exampleMember] exampleChannels)) := by
  intro h
  obtain ⟨pk, hpk, hnot⟩ := h.fanouts 1 _ rfl (inl ⟨rfl, inl rfl⟩) (⟨20⟩, "s") mem_cons_self
  obtain rfl : (⟨2⟩ : PublicKey) = pk := Option.some.inj hpk
  exact hnot ⟨not_mem_nil, not_mem_nil, not_mem_nil⟩

end Buzz.Relay
