import Buzz.Acp.Queue

/-!
What the operations of the queue leave alone.

Most operations only move events between the queues and the withheld events: the scopes in flight, the
retries and the cancelled events stay as they are (`QueuesOnly`).  Expiry also releases scopes, and
does so one scope after another.
-/

namespace Buzz.Acp

open Buzz.Core Lib

namespace EventQueue

/-- The two queues differ in queued, withheld and departed events only. -/
def QueuesOnly (q q' : EventQueue) : Prop :=
  q' = { q with
    queues := q'.queues
    withheldNativeSteer := q'.withheldNativeSteer
    gone := q'.gone }

section Frame

variable (eventId : String)

lemma QueuesOnly.refl (q : EventQueue) : QueuesOnly q q := rfl

section

variable (h : QueuesOnly q q')

include h

lemma QueuesOnly.trans (h' : QueuesOnly q' q'') : QueuesOnly q q'' := by
  unfold QueuesOnly at h' ⊢
  rw [h] at h'
  exact h'

lemma QueuesOnly.map {α : Type*} (f : EventQueue → α) (hf : ∀ queues withheld gone, f { q with
      queues := queues, withheldNativeSteer := withheld, gone := gone } = f q) : f q' = f q := by
  unfold QueuesOnly at h
  rw [h]
  exact hf _ _ _

lemma QueuesOnly.inFlightScopes : q'.inFlightScopes = q.inFlightScopes :=
  h.map _ fun _ _ _ => rfl

lemma QueuesOnly.inFlightDeadlines : q'.inFlightDeadlines = q.inFlightDeadlines :=
  h.map _ fun _ _ _ => rfl

lemma QueuesOnly.inFlightBatchSizes : q'.inFlightBatchSizes = q.inFlightBatchSizes :=
  h.map _ fun _ _ _ => rfl

lemma QueuesOnly.retryCounts : q'.retryCounts = q.retryCounts :=
  h.map _ fun _ _ _ => rfl

end

/-! ### Moving events -/

lemma queuesOnly_capLoop (channelId : Uuid) (fuel : ℕ) (q : EventQueue) :
    QueuesOnly q (capLoop o channelId fuel q) := by
  refine capLoop_rel QueuesOnly.refl (fun q q' s _ _ h => ?_) fuel q
  have hpop : QueuesOnly q (q.popFront s) := rfl
  exact hpop.trans h

lemma queuesOnly_putFront (es : List (ScopedEvent s)) : QueuesOnly q (q.putFront o s es) := by
  have htrim : QueuesOnly q (({ q with
      queues := q.queues.insert s ((es ++ listAt q.queues s).take maxPendingPerScope) }).discard
        .evicted (((es ++ listAt q.queues s).drop maxPendingPerScope).map Subtype.val)) := rfl
  exact htrim.trans (queuesOnly_capLoop _ _ _)

lemma queuesOnly_push (e : QueuedEvent) : QueuesOnly q (q.push o e).2 := by
  unfold push
  split_ifs
  · exact .refl q
  · refine QueuesOnly.trans ?_ (queuesOnly_capLoop _ _ _)
    rfl

lemma queuesOnly_recoverWithheld : QueuesOnly q (q.recoverWithheldForExpiredScope o s) := by
  unfold recoverWithheldForExpiredScope
  split
  · exact .refl q
  · refine QueuesOnly.trans ?_ (queuesOnly_putFront _)
    rfl

lemma queuesOnly_markNativeSteerPending : QueuesOnly q (q.markNativeSteerPending s eventId).2 := by
  simp only [markNativeSteerPending]
  split
  · exact .refl q
  · rfl

lemma queuesOnly_releaseNativeSteer : QueuesOnly q (q.releaseNativeSteer o s eventId) := by
  simp only [releaseNativeSteer]
  split
  · exact .refl q
  · refine QueuesOnly.trans ?_ (queuesOnly_putFront _)
    rfl

end Frame

/-! ### Expiry -/

section Expiry

variable (now : ℕ)

def isExpired (now : ℕ) (q : EventQueue) (s : SessionScope) : Bool :=
  (q.inFlightDeadlines.lookup s).any fun deadline => now ≥ deadline

def releaseAll (o : HashOrders) (scopes : List SessionScope) (q : EventQueue) : EventQueue :=
  scopes.foldl (fun q s => (q.release s).recoverWithheldForExpiredScope o s) q

lemma exists_expired (o : HashOrders) (q : EventQueue) :
    ∃ scopes, q.expireInFlight now o = releaseAll o scopes q ∧
      ∀ s, s ∈ scopes ↔ q.isExpired now s := by
  refine ⟨_, rfl, fun s => ?_⟩
  rw [List.mem_map]
  constructor
  · rintro ⟨⟨s', deadline⟩, hmem, rfl⟩
    obtain ⟨hent, hpassed⟩ := List.mem_filter.mp hmem
    have hget := AList.mem_lookup_iff.mpr (mem_iter.mp hent)
    rw [isExpired, Option.mem_def.mp hget]
    exact hpassed
  intro h
  obtain ⟨deadline, hget, hpassed⟩ := (Option.any_eq_true _ _).mp h
  refine ⟨⟨s, deadline⟩, List.mem_filter.mpr ⟨mem_iter.mpr ?_, hpassed⟩, rfl⟩
  exact AList.mem_lookup_iff.mp hget

lemma releaseAll_eq {α : Type*} (f : EventQueue → α) (hrel : ∀ q s, f (q.release s) = f q)
    (hqueues : ∀ q q', QueuesOnly q q' → f q' = f q) (scopes : List SessionScope) (q : EventQueue) :
    f (releaseAll o scopes q) = f q := by
  induction scopes generalizing q with
  | nil => rfl
  | cons s scopes ih =>
    refine (ih _).trans ?_
    rw [hqueues _ _ queuesOnly_recoverWithheld, hrel]

lemma retryCounts_expireInFlight (q : EventQueue) :
    (q.expireInFlight now o).retryCounts = q.retryCounts :=
  releaseAll_eq EventQueue.retryCounts (fun _ _ => rfl) (fun _ _ h => h.retryCounts) _ q

end Expiry

end EventQueue

end Buzz.Acp
