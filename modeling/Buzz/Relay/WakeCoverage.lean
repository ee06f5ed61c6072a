import Buzz.Relay.PushRuntime

/-!
Whether a deduplicated wake is still sent.

A request for an endpoint and an event that already have a job is answered `Duplicate`, and the job
that is there has to do.  But that job can be claimed only under the lease it was made for.  If it
was made for an earlier generation of the lease, or for another author with the same endpoint, it
may never be sent, while the request that was answered is for a lease that is live.

`Op.Unmixed` rules this out: a request meets only jobs that were made for its own lease, or that are
delivered or failed.  Then every answer stays covered.
-/

namespace Buzz.Relay.Push

open Buzz.Core Lib Db.Push List Store Option Function

namespace World

/-! ### The property -/

/-- The outbox holds a job for the endpoint and the event that `claim_due_wakes` can hand out, now or
once its delay has passed. -/
def CanHandOut (w : World) (key : EndpointHash × EventId) : Prop :=
  ∃ o ∈ w.store.outbox, o.wake.key = key ∧ w.store.claimable o ∧
    ∃ later, w.store.now ≤ later ∧ o.due later

/-- Every request that was answered `Enqueued` or `Duplicate` and has not expired is covered, as long
as its installation has a live lease of the endpoint and a request for that lease was answered. -/
def NoWakeLost (w : World) : Prop :=
  ∀ a ∈ w.answered, w.store.seconds < a.request.expiresAt →
    ∀ row, w.store.leases.lookup a.address = some row → row.live w.store.seconds →
      row.endpointHash = some a.endpointHash →
      (∃ b ∈ w.answered, b.key = a.key ∧ b.owner = (a.address, row.generation)) →
      w.CanHandOut a.key ∨ a.key ∈ w.settled

end World

/-- What is enqueued meets only jobs and requests of its own lease under its key, settled jobs apart. -/
def Op.Unmixed (decoder : Decoder) (w : World) : Op → Prop
  | .enqueueWakes batch context clock =>
    ∀ a ∈ w.store.resolved (w.requests decoder batch context clock),
      (∀ o ∈ w.store.outbox, o.wake.key = a.key → o.settled ∨ o.wake.owner = a.owner) ∧
      ∀ b ∈ w.store.resolved (w.requests decoder batch context clock),
        b.key = a.key → b.owner = a.owner
  | _ => True

instance (decoder : Decoder) (w : World) (op : Op) : Decidable (op.Unmixed decoder w) := by
  cases op <;> unfold Op.Unmixed <;> infer_instance

/-! ### The generations of a lease -/

/-- The leases that stand are the last of those that were accepted, and a generation is accepted at
most once. -/
structure Versions (accepted : List (Address × ℤ × ℤ)) (stamp : Address → Option (ℤ × ℤ)) :
    Prop where
  current : ∀ address v, stamp address = some v → (address, v) ∈ accepted
  bounded : ∀ address v, (address, v) ∈ accepted →
    ∃ last, stamp address = some last ∧ v.1 ≤ last.1
  single : ∀ address v v', (address, v) ∈ accepted → (address, v') ∈ accepted → v.1 = v'.1 → v = v'

lemma versions_empty : Versions [] Store.empty.stamp where
  current _ _ h := by cases h
  bounded _ _ h := by cases h
  single _ _ _ h := by cases h

lemma Versions.install {stamp : Address → Option (ℤ × ℤ)} (h : Versions accepted stamp)
    (hnewer : ∀ old ∈ stamp address, old.1 < v.1) :
    Versions ((address, v) :: accepted) (update stamp address (some v)) := by
  have hlt : ∀ v', (address, v') ∈ accepted → v'.1 < v.1 := by
    intro v' hv'
    obtain ⟨last, hlast, hle⟩ := h.bounded address v' hv'
    have := hnewer last hlast
    omega
  refine ⟨?_, ?_, ?_⟩
  · intro other v' hv'
    by_cases hoth : other = address
    · subst hoth
      rw [update_self, some.injEq] at hv'
      subst hv'
      exact mem_cons_self
    · rw [update_of_ne hoth] at hv'
      exact mem_cons_of_mem _ (h.current other v' hv')
  · intro other v' hv'
    rcases mem_cons.mp hv' with heq | hold
    · cases heq
      exact ⟨v, update_self .., le_rfl⟩
    by_cases hoth : other = address
    · subst hoth
      exact ⟨v, update_self .., (hlt v' hold).le⟩
    · rw [update_of_ne hoth]
      exact h.bounded other v' hold
  intro other v₁ v₂ h₁ h₂ hgen
  rcases mem_cons.mp h₁ with heq₁ | hold₁ <;> rcases mem_cons.mp h₂ with heq₂ | hold₂
  · rw [Prod.mk.injEq] at heq₁ heq₂
    rw [heq₁.2, heq₂.2]
  · cases heq₁
    have := hlt v₂ hold₂
    omega
  · cases heq₂
    have := hlt v₁ hold₁
    omega
  · exact h.single other v₁ v₂ hold₁ hold₂ hgen

/-! ### What the matchers know -/

namespace World

variable {w w' : World} {a b : Wake}

/-- The tables are in order, and what the matchers have read is or was there. -/
structure Informed (w : World) : Prop where
  feed : w.store.FeedSound
  versions : Versions w.accepted w.store.stamp
  contexts : ∀ c ∈ w.contexts, ∀ l ∈ c.leases,
    ((l.author, l.installationId), l.generation, l.expiresAt) ∈ w.accepted
  batches : ∀ batch ∈ w.batches, ∀ job ∈ batch,
    ∃ row, w.store.events.lookup job.1.event.id = some row ∧ row.pushed ∧ row.stored = job.1

/-- A wake for a lease that was accepted and an event that is stored, with the expiry that the two
give it. -/
def Backed (w : World) (a : Wake) : Prop :=
  ∃ expiresAt row, (a.address, a.request.leaseGeneration, expiresAt) ∈ w.accepted ∧
    w.store.events.lookup a.request.eventId = some row ∧ row.pushed ∧
    a.request.expiresAt = min expiresAt ((row.stored.event.createdAt : ℤ) + eventUsefulSecs)

lemma Backed.expiresAt_eq (hv : Versions w.accepted w.store.stamp) (ha : w.Backed a)
    (hb : w.Backed b) (hown : a.owner = b.owner) (hkey : a.key = b.key) :
    a.request.expiresAt = b.request.expiresAt := by
  obtain ⟨e, row, hmem, hrow, -, ha⟩ := ha
  obtain ⟨e', row', hmem', hrow', -, hb⟩ := hb
  obtain ⟨haddr, hgen⟩ := Prod.mk.inj hown
  have hev : a.request.eventId = b.request.eventId := congrArg Prod.snd hkey
  rw [haddr, hgen] at hmem
  have hexp := hv.single b.address _ _ hmem hmem' rfl
  rw [hev, hrow'] at hrow
  obtain rfl := some.inj hrow
  rw [ha, hb, (Prod.mk.inj hexp).2]

/-- Push events and accepted leases stay. -/
structure Remembers (w w' : World) : Prop where
  accepted : w.accepted ⊆ w'.accepted
  events : ∀ id row, w.store.events.lookup id = some row → row.pushed →
    w'.store.events.lookup id = some row

lemma Backed.mono (hw : w.Remembers w') (h : w.Backed a) : w'.Backed a := by
  obtain ⟨e, row, hmem, hrow, hpushed, hexp⟩ := h
  exact ⟨e, row, hw.accepted hmem, hw.events _ row hrow hpushed, hpushed, hexp⟩

lemma Informed.mono (h : w.Informed) (hw : w.Remembers w') (hfeed : w'.store.FeedSound)
    (hversions : Versions w'.accepted w'.store.stamp) (hctxs : w'.contexts = w.contexts)
    (hbatches : w'.batches = w.batches) : w'.Informed where
  feed := hfeed
  versions := hversions
  contexts c hc l hl := hw.accepted (h.contexts c (hctxs ▸ hc) l hl)
  batches batch hbatch job hjob := by
    obtain ⟨row, hrow, hpushed, hsto⟩ := h.batches batch (hbatches ▸ hbatch) job hjob
    exact ⟨row, hw.events _ row hrow hpushed, hpushed, hsto⟩

lemma Informed.backed (h : w.Informed)
    (ha : a ∈ w.store.resolved (w.requests decoder batch context clock)) : w.Backed a := by
  obtain ⟨job, hjob, lease, hlease, hmade⟩ := madeFor_of_mem_batchWakes (mem_resolved.mp ha).1
  have hbatch : w.batches.getD batch [] ∈ w.batches := by
    rw [getD_eq_getElem?_getD] at hjob ⊢
    cases hget : w.batches[batch]? with
    | none => simp [hget] at hjob
    | some found => exact mem_of_getElem? hget
  have hcontext : w.contexts.getD context ⟨[], []⟩ ∈ w.contexts := by
    rw [getD_eq_getElem?_getD] at hlease ⊢
    cases hget : w.contexts[context]? with
    | none => simp [hget] at hlease
    | some found => exact mem_of_getElem? hget
  obtain ⟨row, hrow, hpushed, hsto⟩ := h.batches _ hbatch job hjob
  refine ⟨lease.expiresAt, row, ?_, ?_, hpushed, ?_⟩
  · have haddr : a.address = (lease.author, lease.installationId) :=
      Prod.ext hmade.author hmade.installationId
    rw [haddr, hmade.generation]
    exact h.contexts _ hcontext lease hlease
  · rw [hmade.eventId]
    exact hrow
  · rw [hmade.expiresAt, hsto]

/-! ### Answers are covered -/

/-- Every answer has a job of its own lease, unless it has expired or a job was settled; so an answer
for an earlier generation than another one has expired or is settled. -/
structure Covered (w : World) : Prop where
  answered : ∀ a ∈ w.answered, w.Backed a
  jobs : ∀ o ∈ w.store.outbox, w.Backed o.wake
  settled : ∀ o ∈ w.store.outbox, o.settled → o.wake.key ∈ w.settled
  job : ∀ a ∈ w.answered, a.key ∈ w.settled ∨ a.request.expiresAt ≤ w.store.seconds ∨
    ∃ o ∈ w.store.outbox, o.wake.key = a.key ∧ o.settled = false ∧ o.wake.owner = a.owner
  newer : ∀ a ∈ w.answered, ∀ b ∈ w.answered, a.key = b.key → a.address = b.address →
    a.request.leaseGeneration < b.request.leaseGeneration →
    a.key ∈ w.settled ∨ a.request.expiresAt ≤ w.store.seconds

/-- A step that answers nothing, and takes away only jobs that are settled or expired. -/
structure Quiet (w w' : World) : Prop extends Remembers w w' where
  now : w.store.now ≤ w'.store.now
  settled : w.settled ⊆ w'.settled
  answered : w'.answered = w.answered
  kept : ∀ o ∈ w.store.outbox, o.settled = false → o.wake.key ∈ w'.settled ∨
    o.wake.request.expiresAt ≤ w'.store.seconds ∨
    ∃ o' ∈ w'.store.outbox, o'.wake = o.wake ∧ o'.settled = false
  traced : ∀ o' ∈ w'.store.outbox, ∃ o ∈ w.store.outbox, o.wake = o'.wake ∧
    (o'.settled → o.settled ∨ o.wake.key ∈ w'.settled)

lemma seconds_mono {s t : Store} (h : s.now ≤ t.now) : s.seconds ≤ t.seconds := by
  unfold seconds
  exact_mod_cast Nat.div_le_div_right (by omega)

lemma Covered.quiet (h : w.Covered) (hv : Versions w.accepted w.store.stamp) (hq : w.Quiet w') :
    w'.Covered where
  answered a ha := (h.answered a (hq.answered ▸ ha)).mono hq.toRemembers
  jobs o' ho' := by
    obtain ⟨o, ho, hwake, -⟩ := hq.traced o' ho'
    rw [← hwake]
    exact (h.jobs o ho).mono hq.toRemembers
  settled o' ho' hset := by
    obtain ⟨o, ho, hwake, hfrom⟩ := hq.traced o' ho'
    rw [← hwake]
    rcases hfrom hset with hold | hnew
    · exact hq.settled (h.settled o ho hold)
    · exact hnew
  job a ha := by
    have ha := hq.answered ▸ ha
    have hseconds := seconds_mono hq.now
    rcases h.job a ha with hset | hexp | ⟨o, ho, hkey, hopen, hown⟩
    · exact .inl (hq.settled hset)
    · exact .inr (.inl (hexp.trans hseconds))
    rcases hq.kept o ho hopen with hset | hexp | ⟨o', ho', hwake, hopen'⟩
    · exact .inl (hkey ▸ hset)
    · -- the job that has expired has the expiry of the answer
      have hexpiry := (h.jobs o ho).expiresAt_eq hv (h.answered a ha) hown hkey
      exact .inr (.inl (hexpiry ▸ hexp))
    · exact .inr (.inr ⟨o', ho', hwake ▸ hkey, hopen', hwake ▸ hown⟩)
  newer a ha b hb hkey haddr hlt := by
    rcases h.newer a (hq.answered ▸ ha) b (hq.answered ▸ hb) hkey haddr hlt with hs | hexp
    · exact .inl (hq.settled hs)
    · exact .inr (hexp.trans (seconds_mono hq.now))

/-! ### Quiet steps -/

lemma quiet_of_feeds (hfeeds : w.store.Feeds s) (accepted : List (Address × ℤ × ℤ))
    (hacc : w.accepted ⊆ accepted) (batches : List (List (StoredEvent × ℕ)))
    (contexts : List MatchContext) :
    w.Quiet { w with store := s, accepted := accepted, batches := batches, contexts := contexts } where
  accepted := hacc
  events := hfeeds.events
  now := hfeeds.now.ge
  settled := List.Subset.refl _
  answered := rfl
  kept o ho hopen := .inr (.inr ⟨o, hfeeds.outbox ▸ ho, rfl, hopen⟩)
  traced o' ho' := ⟨o', hfeeds.outbox ▸ ho', rfl, .inl⟩

section

variable (w : World)

lemma quiet_of_map (f : WakeRow → WakeRow) (settled : List (EndpointHash × EventId))
    (hset : w.settled ⊆ settled) (hwake : ∀ o, (f o).wake = o.wake)
    (hopen : ∀ o ∈ w.store.outbox, (f o).settled → o.settled ∨ o.wake.key ∈ settled) :
    w.Quiet { w with store := { w.store with outbox := w.store.outbox.map f }, settled := settled } where
  accepted := List.Subset.refl _
  events _ _ h _ := h
  now := le_rfl
  settled := hset
  answered := rfl
  kept o ho ho_open := by
    cases hf : (f o).settled with
    | false => exact .inr (.inr ⟨f o, mem_map_of_mem ho, hwake o, hf⟩)
    | true =>
      rcases hopen o ho hf with hold | hkey
      · rw [ho_open] at hold
        cases hold
      · exact .inl hkey
  traced o' ho' := by
    obtain ⟨o, ho, rfl⟩ := mem_map.mp ho'
    exact ⟨o, ho, (hwake o).symm, hopen o ho⟩

/-- Jobs that are claimed or put off stay open. -/
lemma quiet_reopened [DecidablePred p] {f : WakeRow → WakeRow}
    (hwake : ∀ o, (f o).wake = o.wake) (hopen : ∀ o, (f o).settled = false) : w.Quiet { w with
      store := { w.store with outbox := w.store.outbox.map fun o => if p o then f o else o } } := by
  refine quiet_of_map w _ w.settled (List.Subset.refl _) ?_ ?_
  · intro o
    split
    · exact hwake o
    · rfl
  intro o _ hset
  split at hset
  · cases (hopen o).symm.trans hset
  · exact .inl hset

lemma quiet_updateHeld (id : ℕ) (claimId : Uuid) (f : WakeRow → WakeRow)
    (hwake : ∀ o, (f o).wake = o.wake) : w.Quiet { w with
      store := (w.store.updateHeld id claimId f).1
      settled := w.heldKeys id claimId ++ w.settled } := by
  refine quiet_of_map w _ _ (subset_append_right ..) ?_ ?_
  · intro o
    split
    · exact hwake o
    · rfl
  intro o ho hset
  split at hset
  · next hheld =>
    refine .inr (mem_append_left _ ?_)
    exact mem_map_of_mem (mem_filter.mpr ⟨ho, hheld⟩)
  · exact .inl hset

lemma quiet_pruneOutbox (before : ℕ) :
    w.Quiet { w with store := w.store.pruneWakeOutbox before } where
  accepted := List.Subset.refl _
  events _ _ h _ := h
  now := le_rfl
  settled := List.Subset.refl _
  answered := rfl
  kept o ho hopen := by
    by_cases hexp : o.wake.request.expiresAt ≤ w.store.seconds
    · exact .inr (.inl hexp)
    · refine .inr (.inr ⟨o, mem_filter.mpr ⟨ho, ?_⟩, rfl, hopen⟩)
      simp [hopen, hexp]
  traced o' ho' := ⟨o', (mem_filter.mp ho').1, rfl, .inl⟩

lemma quiet_tick (microseconds : ℕ) :
    w.Quiet { w with store := { w.store with now := w.store.now + microseconds } } where
  accepted := List.Subset.refl _
  events _ _ h _ := h
  now := Nat.le_add_right ..
  settled := List.Subset.refl _
  answered := rfl
  kept o ho hopen := .inr (.inr ⟨o, ho, rfl, hopen⟩)
  traced o' ho' := ⟨o', ho', rfl, .inl⟩

end

/-! ### Enqueueing -/

section Enqueue

variable {decoder : Decoder} {batch context : ℕ} {clock : ℤ} {outbox : List WakeRow} (h : w.Covered)

include h

section

variable (hmixed : (Op.enqueueWakes batch context clock).Unmixed decoder w)

include hmixed

/-- The job that covers a request which meets only jobs of its own lease. -/
lemma covered_new (ha : a ∈ w.store.resolved (w.requests decoder batch context clock))
    (hjobs : ∃ o ∈ outbox, o.wake.key = a.key) (hfrom : ∀ o ∈ outbox, o ∈ w.store.outbox ∨
      o.wake ∈ w.store.resolved (w.requests decoder batch context clock) ∧ o.settled = false) :
    a.key ∈ w.settled ∨
      ∃ o ∈ outbox, o.wake.key = a.key ∧ o.settled = false ∧ o.wake.owner = a.owner := by
  obtain ⟨hold, hnew⟩ := hmixed a ha
  obtain ⟨o, ho, hkey⟩ := hjobs
  rcases hfrom o ho with hpre | ⟨hreq, hopen⟩
  · cases hset : o.settled with
    | true => exact .inl (hkey ▸ h.settled o hpre hset)
    | false =>
      rcases hold o hpre hkey with hs | hown
      · rw [hset] at hs
        cases hs
      · exact .inr ⟨o, ho, hkey, hset, hown⟩
  · exact .inr ⟨o, ho, hkey, hopen, hnew o.wake hreq hkey⟩

/-- An answer for an earlier generation than a request that is enqueued has expired or is settled. -/
lemma newer_new (ha : a ∈ w.answered)
    (hb : b ∈ w.store.resolved (w.requests decoder batch context clock)) (hkey : a.key = b.key)
    (hlt : a.request.leaseGeneration < b.request.leaseGeneration) :
    a.key ∈ w.settled ∨ a.request.expiresAt ≤ w.store.seconds := by
  rcases h.job a ha with hset | hexp | ⟨o, ho, hokey, hopen, hown⟩
  · exact .inl hset
  · exact .inr hexp
  rcases (hmixed b hb).1 o ho (hokey.trans hkey) with hs | howner'
  · rw [hopen] at hs
    cases hs
  have hgen : a.request.leaseGeneration = b.request.leaseGeneration :=
    congrArg Prod.snd (hown.symm.trans howner')
  omega

end

lemma generation_le (hv : Versions w.accepted w.store.stamp) (hb : b ∈ w.answered)
    {requests : List WakeRequest} (ha : a ∈ w.store.resolved requests)
    (haddr : a.address = b.address) : b.request.leaseGeneration ≤ a.request.leaseGeneration := by
  obtain ⟨expiresAt, hstamp⟩ := stamp_of_mem_resolved ha
  obtain ⟨e, -, hmem, -⟩ := h.answered b hb
  obtain ⟨last, hlast, hle⟩ := hv.bounded b.address _ hmem
  rw [← haddr, hstamp] at hlast
  obtain rfl := some.inj hlast
  exact hle

lemma Covered.enqueueWakes (hi : w.Informed)
    (hmixed : (Op.enqueueWakes batch context clock).Unmixed decoder w) (inRange : ℤ → Bool) :
    (w.step inRange decoder (.enqueueWakes batch context clock)).Covered := by
  obtain ⟨outbox, n, heq, hprefix, hjobs, hfrom⟩ :=
    w.store.enqueueWakes_spec (w.requests decoder batch context clock)
  have hans : ∀ {x}, x ∈ answeredWakes w.store (w.requests decoder batch context clock)
        (w.store.enqueueWakes (w.requests decoder batch context clock)).2 ++ w.answered →
      x ∈ w.store.resolved (w.requests decoder batch context clock) ∨ x ∈ w.answered := by
    intro x hx
    rcases mem_append.mp hx with hnew | hold
    · exact .inl (mem_resolved_of_mem_answeredWakes hnew)
    · exact .inr hold
  simp only [step, heq]
  refine ⟨?_, ?_, ?_, ?_, ?_⟩
  · intro a ha
    rcases hans ha with hnew | hold
    · exact hi.backed hnew
    · exact h.answered a hold
  · intro o ho
    rcases hfrom o ho with hold | ⟨hnew, -⟩
    · exact h.jobs o hold
    · exact hi.backed hnew
  · intro o ho hset
    rcases hfrom o ho with hold | ⟨-, hopen⟩
    · exact h.settled o hold hset
    · rw [hopen] at hset
      cases hset
  · intro a ha
    rcases hans ha with hnew | hold
    · rcases covered_new h hmixed hnew (hjobs a hnew) hfrom with hset | hjob
      · exact .inl hset
      · exact .inr (.inr hjob)
    rcases h.job a hold with hset | hexp | ⟨o, ho, hjob⟩
    · exact .inl hset
    · exact .inr (.inl hexp)
    · exact .inr (.inr ⟨o, hprefix.subset ho, hjob⟩)
  intro a ha b hb hkey haddr hlt
  rcases hans ha with hnew | hold
  · -- nothing answered has a later generation than a lease that stands
    exfalso
    rcases hans hb with hnew' | hold'
    · obtain ⟨_, hstamp⟩ := stamp_of_mem_resolved hnew
      obtain ⟨_, hstamp'⟩ := stamp_of_mem_resolved hnew'
      rw [← haddr, hstamp] at hstamp'
      have := (Prod.mk.inj (some.inj hstamp')).1
      omega
    · have := generation_le h hi.versions hold' hnew haddr
      omega
  rcases hans hb with hnew' | hold'
  · exact newer_new (w := w) h hmixed hold hnew' hkey hlt
  · exact h.newer a hold b hold' hkey haddr hlt

end Enqueue

/-! ### One step -/

/-- What holds after every run. -/
structure Sound (w : World) : Prop extends Informed w, Covered w

variable {inRange : ℤ → Bool} {decoder : Decoder}

lemma sound_empty : World.empty.Sound where
  feed.keyed _ _ h := by cases h
  feed.queued _ _ h := by cases h
  versions := versions_empty
  contexts _ h := by cases h
  batches _ h := by cases h
  answered _ h := by cases h
  jobs _ h := by cases h
  settled _ h := by cases h
  job _ h := by cases h
  newer _ h := by cases h

section

variable (h : w.Sound)

include h

lemma Sound.quiet (hq : w.Quiet w') (hfeed : w'.store.FeedSound)
    (hstamp : w'.store.stamp = w.store.stamp) (hacc : w'.accepted = w.accepted)
    (hctxs : w'.contexts = w.contexts) (hbatches : w'.batches = w.batches) : w'.Sound where
  toInformed := h.toInformed.mono hq.toRemembers hfeed (by
    rw [hacc, hstamp]
    exact h.versions) hctxs hbatches
  toCovered := h.toCovered.quiet h.versions hq

lemma Sound.feeds (hfeeds : w.store.Feeds s)
    (hstamp : s.stamp = w.store.stamp) : Sound { w with store := s } :=
  h.quiet (quiet_of_feeds hfeeds _ (List.Subset.refl _) _ _) (hfeeds.sound h.feed) hstamp rfl rfl rfl

lemma Sound.install {version : LeaseVersion}
    (hok : ∀ s, result = .ok s → w.store.Replaces s address version) :
    (w.install address version result).Sound := by
  unfold World.install
  cases result with
  | error e => exact h
  | ok s =>
    have hrepl := hok s rfl
    have hquiet := quiet_of_feeds hrepl.feeds
      ((address, version.generation, version.expiresAt) :: w.accepted)
      (subset_cons_self ..) w.batches w.contexts
    refine ⟨h.toInformed.mono hquiet.toRemembers (hrepl.feeds.sound h.feed) ?_ rfl rfl,
      h.toCovered.quiet h.versions hquiet⟩
    simp only
    rw [hrepl.stamp]
    exact h.versions.install hrepl.newer

lemma Sound.claimMatches (limit : ℕ) (claimId : Uuid) (leaseUntil : ℕ) :
    (w.step inRange decoder (.claimMatches limit claimId leaseUntil)).Sound := by
  have hfeeds := w.store.feeds_claimDueMatchBatch limit claimId leaseUntil
  have hquiet := quiet_of_feeds hfeeds w.accepted (List.Subset.refl _)
    (w.batches ++ [(w.store.claimDueMatchBatch limit claimId leaseUntil).2]) w.contexts
  refine ⟨⟨hfeeds.sound h.feed, h.versions, h.contexts, ?_⟩, h.toCovered.quiet h.versions hquiet⟩
  intro batch hbatch job hjob
  rcases mem_append.mp hbatch with hold | hnew
  · exact h.batches batch hold job hjob
  obtain rfl := mem_singleton.mp hnew
  change job ∈ (w.store.claimDueMatchBatch limit claimId leaseUntil).2 at hjob
  exact pushed_of_mem_claimDueMatchBatch h.feed hjob

lemma Sound.loadContext (memberships : List (Uuid × PublicKey)) :
    (w.step inRange decoder (.loadContext memberships)).Sound := by
  have hquiet := quiet_of_feeds (.refl w.store) w.accepted (List.Subset.refl _) w.batches
    (w.contexts ++ [⟨activeMatchLeases w.store, memberships⟩])
  refine ⟨⟨h.feed, h.versions, ?_, h.batches⟩, h.toCovered.quiet h.versions hquiet⟩
  intro c hc l hl
  rcases mem_append.mp hc with hold | hnew
  · exact h.contexts c hold l hl
  · obtain rfl := mem_singleton.mp hnew
    exact h.versions.current _ _ (stamp_of_mem_activeMatchLeases hl)

lemma Sound.enqueueWakes (hmixed : (Op.enqueueWakes batch context clock).Unmixed decoder w) :
    (w.step inRange decoder (.enqueueWakes batch context clock)).Sound := by
  obtain ⟨outbox, n, heq, -⟩ := w.store.enqueueWakes_spec (w.requests decoder batch context clock)
  refine ⟨h.toInformed.mono ⟨List.Subset.refl _, ?_⟩ ?_ ?_ rfl rfl,
    h.toCovered.enqueueWakes h.toInformed hmixed inRange⟩ <;> simp only [World.step, heq]
  · exact fun id row hrow _ => hrow
  · exact ⟨h.feed.keyed, h.feed.queued⟩
  · exact h.versions

lemma Sound.step {op : Op} (hmixed : op.Unmixed decoder w) : (w.step inRange decoder op).Sound := by
  cases op with
  | acceptLease => exact h.install fun _ hok => replaces_acceptLeaseEvent hok
  | replaceLease => exact h.install fun _ hok => replaces_replaceLease hok
  | disableEndpoint => exact h.feeds (feeds_leases _ _) (stamp_disableEndpointGeneration ..)
  | storeEvent event dTag receivedAt =>
    simp only [World.step]
    cases hins : w.store.insertEvent ⟨event, dTag, receivedAt, false⟩ with
    | none => exact h
    | some s =>
      obtain ⟨hfeeds, hleases⟩ := insertEvent_spec hins
      exact h.feeds hfeeds (stamp_congr hleases)
  | claimMatches limit claimId leaseUntil => exact h.claimMatches limit claimId leaseUntil
  | loadContext memberships => exact h.loadContext memberships
  | enqueueWakes => exact h.enqueueWakes hmixed
  | completeMatches => exact h.feeds (feeds_completeMatchBatch ..) rfl
  | retryMatches => exact h.feeds (feeds_retryMatchBatch ..) rfl
  | reapMatches => exact h.feeds (feeds_reapExhaustedMatches _) rfl
  | claimWakes | retryWake =>
    refine h.quiet (quiet_reopened w ?_ ?_) ⟨h.feed.keyed, h.feed.queued⟩ rfl rfl rfl rfl
    all_goals exact fun _ => rfl
  | completeWake | failWake =>
    exact h.quiet (quiet_updateHeld _ _ _ _ fun _ => rfl) ⟨h.feed.keyed, h.feed.queued⟩ rfl rfl rfl rfl
  | pruneOutbox => exact h.quiet (quiet_pruneOutbox ..) ⟨h.feed.keyed, h.feed.queued⟩ rfl rfl rfl rfl
  | tick => exact h.quiet (quiet_tick ..) ⟨h.feed.keyed, h.feed.queued⟩ rfl rfl rfl rfl

end

/-! ### No wake is lost -/

lemma claimable_of_backed (hbacked : w.Backed o.wake)
    (hrow : w.store.leases.lookup o.wake.address = some row) (hlive : row.live w.store.seconds)
    (hgen : row.generation = o.wake.request.leaseGeneration)
    (hend : row.endpointHash = some o.wake.endpointHash)
    (hexp : w.store.seconds < o.wake.request.expiresAt) : w.store.claimable o := by
  obtain ⟨e, event, -, hev, hpushed, -⟩ := hbacked
  have hvisible : event.deleted = false := by
    simp only [EventRow.pushed, Bool.and_eq_true, Bool.not_eq_true'] at hpushed
    exact hpushed.2
  have hlease : w.store.leaseOf o.wake = some row := by
    unfold leaseOf
    rw [hrow, filter_some, if_pos]
    simp [hgen, hend]
  simp [claimable, hlease, hlive, visibleEvent, hev, hvisible, hexp]

lemma Sound.noWakeLost (h : w.Sound) : w.NoWakeLost := by
  rintro a ha hexpiry row hrow hlive hend ⟨b, hb, hkey, hown⟩
  obtain ⟨haddr, hgen⟩ := Prod.mk.inj hown
  have hbd : a.request.leaseGeneration ≤ row.generation := by
    obtain ⟨e, -, hmem, -⟩ := h.answered a ha
    obtain ⟨last, hlast, hle⟩ := h.versions.bounded a.address _ hmem
    rw [stamp, hrow, map_some, some.injEq] at hlast
    subst hlast
    exact hle
  rcases hbd.lt_or_eq with hlt | heq
  · -- the lease was replaced since, and the request for it has met the job
    rcases h.newer a ha b hb hkey.symm haddr.symm (hgen ▸ hlt) with hset | hexp
    · exact .inr hset
    · omega
  rcases h.job a ha with hset | hexp | ⟨o, ho, hokey, hopen, hoowner⟩
  · exact .inr hset
  · omega
  obtain ⟨hoaddress, hogeneration⟩ := Prod.mk.inj hoowner
  have hoendpoint : o.wake.endpointHash = a.endpointHash := congrArg Prod.fst hokey
  have hoexpiry := (h.jobs o ho).expiresAt_eq h.versions (h.answered a ha) hoowner hokey
  refine .inl ⟨o, ho, hokey, ?_, exists_due hopen w.store.now⟩
  exact claimable_of_backed (h.jobs o ho) (hoaddress ▸ hrow) hlive
    (heq.symm.trans hogeneration.symm) (hoendpoint ▸ hend) (hoexpiry ▸ hexpiry)

/-- **No wake is lost to deduplication**, as long as what is enqueued meets only jobs of its own
lease under its key, settled jobs apart. -/
theorem wake_survives_deduplication (inRange : ℤ → Bool) (decoder : Decoder) (ops : List Op)
    (h : AllSteps (step inRange decoder) (fun w op => op.Unmixed decoder w) .empty ops) :
    (run inRange decoder ops).NoWakeLost :=
  (h.invariant (I := Sound) (fun _ _ hw hmixed => hw.step hmixed) sound_empty).noWakeLost

/-! ### A lease that is replaced -/

def anyDecoder : Decoder := ⟨fun _ => some [⟨.null, .default, [], none⟩], fun _ => some {}⟩

def alice : PublicKey := ⟨7⟩

def message : StoredEvent := ⟨⟨⟨5⟩, ⟨8⟩, 0, 9, [], "hello"⟩, none⟩

def leaseEvent (id : BitVec 256) : Event := ⟨⟨id⟩, alice, 0, 30350, [], ""⟩

def phone : ActiveLease := ⟨"ios", ⟨3⟩, "grant", .default, .null⟩

def acceptPhone (generation : ℕ) : Op :=
  .acceptLease (leaseEvent (.ofNat 256 generation)) "phone"
    ⟨⟨.ofNat 256 generation⟩, generation, generation, 1000⟩ (some phone) 16

def matchOnce (round : ℕ) : List Op :=
  [.claimMatches 64 ⟨.ofNat 128 round⟩ 30000000, .loadContext [], .enqueueWakes round round 0,
    .completeMatches ⟨.ofNat 128 round⟩ [message.event.id]]

def replacedRun : List Op :=
  [acceptPhone 1, .storeEvent message none 0] ++ matchOnce 0 ++ [acceptPhone 2] ++ matchOnce 1

/-- The second request is answered with the job of the first, which can no longer be claimed. -/
theorem replaced_lease_loses_wake : ¬(run (fun _ => true) anyDecoder replacedRun).NoWakeLost := by
  intro h
  have ha : (⟨⟨alice, "phone", 2, ⟨5⟩, .default, 1000⟩, ⟨3⟩⟩ : Wake) ∈
      (run (fun _ => true) anyDecoder replacedRun).answered := by decide +kernel
  have hlease : ((run (fun _ => true) anyDecoder replacedRun).store.leases.lookup
      (alice, "phone")).any (fun row => row.live 0 && decide (row.endpointHash = some ⟨3⟩) &&
        decide (row.generation = 2)) = true := by decide +kernel
  obtain ⟨row, hrow, hfacts⟩ := (any_eq_true _ _).mp hlease
  simp only [Bool.and_eq_true, decide_eq_true_eq] at hfacts
  obtain ⟨⟨hlive, hendpoint⟩, hgeneration⟩ := hfacts
  have hout := h _ ha (by decide +kernel) row hrow hlive hendpoint
    ⟨_, ha, rfl, by rw [hgeneration]; rfl⟩
  rcases hout with ⟨o, ho, -, hclaim, -⟩ | hsettled
  · have hnone : (run (fun _ => true) anyDecoder replacedRun).store.outbox.all (fun o =>
        !(run (fun _ => true) anyDecoder replacedRun).store.claimable o) = true := by
      decide +kernel
    have hno := all_eq_true.mp hnone o ho
    rw [hclaim] at hno
    cases hno
  · exact absurd hsettled (by decide +kernel)

def putOffRun : List Op :=
  [acceptPhone 1, .storeEvent message none 0] ++ matchOnce 0 ++
    [.enqueueWakes 0 0 0, .claimWakes 16 ⟨9⟩ 30000000, .retryWake 0 ⟨9⟩ 2000000, .tick 1000000]

theorem wake_survives_deduplication_putOff :
    AllSteps (step (fun _ => true) anyDecoder) (fun w op => op.Unmixed anyDecoder w) .empty
        putOffRun ∧ (run (fun _ => true) anyDecoder putOffRun).NoWakeLost :=
  ⟨by decide +kernel, wake_survives_deduplication _ _ _ (by decide +kernel)⟩

end World

end Buzz.Relay.Push
