import Buzz.Audio.Media

/-!
The huddles that a relay owns.

The connection that acquired the lease of a huddle installs an entry for its channel, with the
signals that tell everyone on the relay when the lease is lost and when the relay drains.  The signals
are named after the connection that made them.  A renewer keeps the lease and reports its loss.

The registry has one entry for each channel, whatever the community.
-/

namespace Buzz.Audio

open Buzz.Core Lib

/-- A client's connection or another relay's control stream: whom it is for, and which it is. -/
structure Conn where
  communityId : CommunityId
  channelId : Uuid
  serial : ℕ
deriving DecidableEq

/-! ### Signals -/

inductive Renewer
  | idle | running | cancelled | ended

def Renewer.cancel : Renewer → Renewer
  | .running => .cancelled
  | renewer => renewer

/-- A renewer and the signals that it and the registry give. -/
structure HuddleOwnerSignals where
  renewer : Renewer
  lost : Bool
  draining : Bool

inductive HuddleRenewOutcome
  | renewed | lost | failed

inductive HuddleReleaseOutcome
  | released | notOwner | failed

namespace HuddleOwnerSignals

def new : HuddleOwnerSignals := ⟨.idle, false, false⟩

variable (s : HuddleOwnerSignals)

def cancel : HuddleOwnerSignals := { s with renewer := s.renewer.cancel }

def drain : HuddleOwnerSignals := { s.cancel with draining := true }

/-- The renewer hears from the directory; what it then hears of the release changes nothing more. -/
def renew (outcome : HuddleRenewOutcome) : HuddleOwnerSignals :=
  match s.renewer, outcome with
  | .running, .lost | .running, .failed => { s with renewer := .ended, lost := true }
  | _, _ => s

/-- A renewer that was cancelled has released the lease, or tried to. -/
def finish (outcome : HuddleReleaseOutcome) : HuddleOwnerSignals :=
  match s.renewer, outcome with
  | .cancelled, .notOwner => { s with renewer := .ended, lost := true }
  | .cancelled, _ => { s with renewer := .ended }
  | _, _ => s

end HuddleOwnerSignals

/-! ### The registry -/

structure HuddleOwnerEntry where
  installer : Conn
  generation : ℕ

structure HuddleOwnerRegistry where
  entries : Table Uuid HuddleOwnerEntry
  draining : Bool
  signals : Conn → HuddleOwnerSignals

namespace HuddleOwnerRegistry

def new : HuddleOwnerRegistry := ⟨∅, false, fun _ => .new⟩

variable (owners : HuddleOwnerRegistry) (sessionId : Uuid) (generation : ℕ)

def signalsFor : Option Conn :=
  (owners.entries.lookup sessionId).map HuddleOwnerEntry.installer

def modifySignals (c : Conn) (f : HuddleOwnerSignals → HuddleOwnerSignals) : HuddleOwnerRegistry :=
  { owners with signals := Function.update owners.signals c (f (owners.signals c)) }

/-- Install an entry for a lease, unless there is one; and whose signals to watch. -/
def attachSignals (c : Conn) (generation : ℕ) : Conn × HuddleOwnerRegistry :=
  if owners.draining then (c, owners.modifySignals c fun s => { s with draining := true })
  else
    match owners.entries.lookup c.channelId with
    | some existing => (existing.installer, owners)
    | none =>
      let owners := owners.modifySignals c fun s => { s with renewer := .running }
      (c, { owners with entries := owners.entries.insert c.channelId ⟨c, generation⟩ })

/-- Take out the entry of a generation, and tell its signals. -/
def retire (f : HuddleOwnerSignals → HuddleOwnerSignals) : HuddleOwnerRegistry :=
  match owners.entries.lookup sessionId with
  | some entry =>
    if entry.generation = generation then
      { owners.modifySignals entry.installer f with entries := owners.entries.erase sessionId }
    else owners
  | none => owners

def release : HuddleOwnerRegistry :=
  owners.retire sessionId generation HuddleOwnerSignals.cancel

def drain : HuddleOwnerRegistry :=
  owners.retire sessionId generation HuddleOwnerSignals.drain

def drainAll : HuddleOwnerRegistry :=
  owners.entries.entries.foldl (fun owners e => owners.drain e.1 e.2.generation)
    { owners with draining := true }

/-! ### Shutdown -/

section Shutdown

lemma drain_idem (s : HuddleOwnerSignals) : s.drain.drain = s.drain := by
  obtain ⟨renewer, lost, draining⟩ := s
  cases renewer <;> rfl

variable {owners : HuddleOwnerRegistry}

lemma drain_of_lookup {sessionId : Uuid} (hent : owners.entries.lookup sessionId = some entry) :
    owners.drain sessionId entry.generation =
      { owners.modifySignals entry.installer HuddleOwnerSignals.drain with
        entries := owners.entries.erase sessionId } := by
  unfold drain retire
  rw [hent]
  exact if_pos rfl

lemma foldl_drain (es : List (Sigma fun _ : Uuid => HuddleOwnerEntry)) (hnd : es.NodupKeys)
    (hes : ∀ e ∈ es, owners.entries.lookup e.1 = some e.2) :
    let owners' := es.foldl (fun owners e => owners.drain e.1 e.2.generation) owners
    owners'.draining = owners.draining ∧
    (∀ ch, owners'.entries.lookup ch = if ch ∈ es.keys then none else owners.entries.lookup ch) ∧
    ∀ t, owners'.signals t =
      if es.any (fun e => e.2.installer = t) then (owners.signals t).drain else owners.signals t := by
  induction es generalizing owners with
  | nil => simp
  | cons e es ih =>
    obtain ⟨hfr, hnd⟩ := List.nodupKeys_cons.mp hnd
    have hdr := drain_of_lookup (hes e (List.mem_cons_self ..))
    have hrest : ∀ e' ∈ es, (owners.drain e.1 e.2.generation).entries.lookup e'.1 = some e'.2 := by
      intro e' he'
      have hne : e'.1 ≠ e.1 := fun heq => hfr (heq ▸ List.mem_keys_of_mem he')
      rw [hdr]
      exact (AList.lookup_erase_ne hne).trans (hes e' (List.mem_cons_of_mem _ he'))
    obtain ⟨hdraining, hget, hsig⟩ := ih hnd hrest
    refine ⟨?_, ?_, ?_⟩
    · exact hdraining.trans (by rw [hdr]; rfl)
    · intro ch
      refine (hget ch).trans ?_
      rw [hdr]
      by_cases hch : ch = e.1
      · subst hch
        simp [hfr]
      · simp [List.keys_cons, hch]
    intro t
    refine (hsig t).trans ?_
    have hstep : (owners.drain e.1 e.2.generation).signals t =
        if e.2.installer = t then (owners.signals t).drain else owners.signals t := by
      rw [hdr]
      by_cases ht : e.2.installer = t
      · subst ht
        simp [modifySignals]
      · simp [modifySignals, ht, Function.update_of_ne (Ne.symm ht)]
    rw [hstep, List.any_cons]
    by_cases ht : e.2.installer = t
    · simp [ht, drain_idem]
    · rw [if_neg ht, decide_eq_false ht, Bool.false_or]

lemma drainAll_spec (owners : HuddleOwnerRegistry) : owners.drainAll.draining ∧
    (∀ ch, owners.drainAll.entries.lookup ch =
      if ch ∈ owners.entries.entries.keys then none else owners.entries.lookup ch) ∧
    ∀ t, owners.drainAll.signals t =
      if owners.entries.entries.any (fun e => e.2.installer = t) then (owners.signals t).drain
      else owners.signals t :=
  @foldl_drain { owners with draining := true } owners.entries.entries owners.entries.nodupKeys
    fun _ he => AList.mem_lookup_iff.mpr he

lemma drainAll_lookup (owners : HuddleOwnerRegistry) (ch : Uuid) :
    owners.drainAll.entries.lookup ch = none := by
  rw [(drainAll_spec owners).2.1]
  split_ifs with hch
  · rfl
  · exact AList.lookup_eq_none.mpr hch

lemma drainAll_signals_entry (hent : owners.entries.lookup ch = some entry) :
    owners.drainAll.signals entry.installer = (owners.signals entry.installer).drain := by
  rw [(drainAll_spec owners).2.2, if_pos]
  refine List.any_eq_true.mpr ⟨⟨ch, entry⟩, AList.mem_lookup_iff.mp hent, ?_⟩
  exact decide_eq_true rfl

lemma drainAll_signals_other
    (hoth : ∀ ch, ∀ entry ∈ owners.entries.lookup ch, entry.installer ≠ t) :
    owners.drainAll.signals t = owners.signals t := by
  rw [(drainAll_spec owners).2.2, if_neg]
  intro hany
  obtain ⟨e, he, ht⟩ := List.any_eq_true.mp hany
  exact hoth e.1 e.2 (AList.mem_lookup_iff.mpr he) (of_decide_eq_true ht)

end Shutdown

end HuddleOwnerRegistry

end Buzz.Audio
