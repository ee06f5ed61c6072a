import Buzz.Db.DeletionRuns
import Mathlib.Data.List.Induction

/-!
No serving write survives the deletion fence.

Three tokens guard the deletion of a community: the claim of an executor, the generation of the
fence, and the lease of a serving writer.  A lease carries the generation that its community had when
it was acquired.  A fence and an abort raise the generation, and nothing lowers it, so an older lease
is refused from then on, also when an abort has made the community active again.  An executor's token
carries the generation of its claim, which each claim raises, so only the latest one is accepted.
-/

namespace Buzz.Db.Deletion

open Buzz.Core Lib Option

/-! ### The property -/

def Entry.Fences (e : Entry) (c : CommunityId) : Prop :=
  e.ok ∧ ∃ t, e.call = .fence t ∧ t.communityId = c

def Entry.Aborts (e : Entry) (c : CommunityId) : Prop := e.ok ∧ e.call.Aborts e.before c

def Entry.Acquires (e : Entry) (l : ServingWriteLease) : Prop :=
  e.reply = some (.lease l) ∧
    ∃ c operation owner duration id, e.call = .acquire c operation owner duration id

def Call.lease? : Call → Option ServingWriteLease
  | .renew l _ | .verify l | .guard l => some l
  | _ => none

/-- The call asks for a serving write in the community, under a new lease or one that is held. -/
def Call.Serves (c : CommunityId) : Call → Prop
  | .acquire c' _ _ _ _ => c' = c
  | .renew l _ | .verify l | .guard l => l.communityId = c
  | _ => False

def latestClaim (h : List Entry) (id : Uuid) : Option LeaseToken :=
  h.foldl (fun latest e =>
    match e.reply with
    | some (.claimed (some t)) => if t.requestId = id then some t else latest
    | _ => latest) none

def StageStep (old new : DeletionStage) : Prop :=
  new = old ∨ old.next = some new ∨ new = .aborted ∧ (old = .approved ∨ old = .fenced)

/-- The properties of a history. -/
structure Safe (h : List Entry) : Prop where
  /-- From a fence until a later abort nothing is served. -/
  fenced : ∀ h₁ e h₂ e' h₃ c, h = h₁ ++ e :: (h₂ ++ e' :: h₃) → e.Fences c →
    (∀ e ∈ h₂, ¬ e.Aborts c) → e'.call.Serves c → e'.ok = false
  /-- A lease from before a fence or an abort is not accepted after it. -/
  stale : ∀ h₁ e h₂ e' h₃ e'' h₄ l time,
    h = h₁ ++ e :: (h₂ ++ e' :: (h₃ ++ e'' :: h₄)) → e.Acquires l →
    e'.Fences l.communityId ∨ e'.Aborts l.communityId →
    e''.call.lease? = some { l with leaseUntil := time } → e''.ok = false
  /-- Requests stay, and their stages go on in the fixed order. -/
  stages : ∀ e ∈ h, ∀ id r, e.before.requests.lookup id = some r →
    ∃ r', e.after.requests.lookup id = some r' ∧ StageStep r.stage r'.stage
  /-- A step forward is made with the token of the latest claim, up to the fence generation that its
  holder has put in, while the claim has not expired and the request is not blocked. -/
  claims : ∀ h₁ e h₂ id r r', h = h₁ ++ e :: h₂ → e.before.requests.lookup id = some r →
    e.after.requests.lookup id = some r' → r.stage.runnable →
    r.stage.next = some r'.stage →
    ∃ t claim, e.call.token? = some t ∧ latestClaim h₁ id = some claim ∧
      t = { claim with fenceGeneration := t.fenceGeneration } ∧
      (∃ time, r.leaseUntil = some time ∧ e.now ≤ time) ∧ r.blocked = false

/-! ### Histories as chains -/

/-- The entries lead from the first tables to the second. -/
def Chain : Store → List Entry → Store → Prop
  | s, [], s' => s = s'
  | s, e :: h, s' => e.before = s ∧ e.result = s.exec e.now e.call ∧ Chain e.after h s'

lemma chain_history (s : Store) (calls : List (ℤ × Call)) : ∃ s', Chain s (history s calls) s' := by
  induction calls generalizing s with
  | nil => exact ⟨s, rfl⟩
  | cons c calls ih =>
    obtain ⟨s', hs'⟩ := ih (Entry.after ⟨c.1, c.2, s, s.exec c.1 c.2⟩)
    exact ⟨s', rfl, rfl, hs'⟩

lemma next_ne_self (stage : DeletionStage) : stage.next ≠ some stage := by
  cases stage <;> decide

lemma next_ne_aborted (stage : DeletionStage) : stage.next ≠ some .aborted := by
  cases stage <;> decide

section Chains

variable {s s' : Store} {h h₁ h₂ : List Entry} {e : Entry} {c : CommunityId} {id : Uuid}

lemma chain_append : Chain s (h₁ ++ h₂) s' ↔ ∃ u, Chain s h₁ u ∧ Chain u h₂ s' := by
  induction h₁ generalizing s with
  | nil => simp [Chain]
  | cons e h₁ ih =>
    simp only [List.cons_append, Chain, ih]
    constructor
    · rintro ⟨hpre, hresult, u, hu, hs'⟩
      exact ⟨u, ⟨hpre, hresult, hu⟩, hs'⟩
    · rintro ⟨u, ⟨hpre, hresult, hu⟩, hs'⟩
      exact ⟨hpre, hresult, u, hu, hs'⟩

lemma Chain.invariant {I : Store → Prop} (hch : Chain s h s')
    (hstep : ∀ e ∈ h, e.result = e.before.exec e.now e.call → I e.before → I e.after)
    (hs : I s) : I s' := by
  induction h generalizing s with
  | nil =>
    obtain rfl : s = s' := hch
    exact hs
  | cons e h ih =>
    obtain ⟨rfl, hresult, hrest⟩ := hch
    refine ih hrest ?_ (hstep e List.mem_cons_self hresult hs)
    intro e' he'
    exact hstep e' (List.mem_cons_of_mem _ he')

variable (hresult : e.result = e.before.exec e.now e.call)

include hresult

/-- An entry that failed left the tables alone, and another had its effect. -/
lemma effect_or_same : (e.ok = false ∧ e.reply = none ∧ e.after = e.before) ∨
      ∃ reply, e.ok ∧ e.reply = some reply ∧ e.before.exec e.now e.call = .ok (reply, e.after) ∧
        Effect e.before e.now e.call reply e.after := by
  unfold Entry.ok Entry.reply Entry.after
  cases hexec : e.before.exec e.now e.call with
  | error err =>
    left
    rw [hresult, hexec]
    exact ⟨rfl, rfl, rfl⟩
  | ok p =>
    right
    rw [hresult, hexec]
    exact ⟨p.1, rfl, rfl, rfl, effect_exec hexec⟩

lemma exec_of_ok (hok : e.ok) : ∃ reply, e.before.exec e.now e.call = .ok (reply, e.after) := by
  rcases effect_or_same hresult with ⟨hfail, -, -⟩ | ⟨reply, -, -, hexec, -⟩
  · exact absurd (hok.symm.trans hfail) (by decide)
  · exact ⟨reply, hexec⟩

/-! ### The fence -/

def Store.Closed (s : Store) (c : CommunityId) : Prop :=
  ∃ row, s.communities.lookup c = some row ∧ row.closed

def Store.Reached (s : Store) (c : CommunityId) (n : ℕ) : Prop :=
  ∃ row, s.communities.lookup c = some row ∧ n ≤ row.fenceGeneration

lemma closed_step (hno : ¬ e.Aborts c) (hcl : e.before.Closed c) : e.after.Closed c := by
  rcases effect_or_same hresult with ⟨-, -, haft⟩ | ⟨reply, hok, -, -, heff⟩
  · rw [haft]
    exact hcl
  obtain ⟨row, hrow, hst⟩ := hcl
  obtain ⟨new, hnew, hstep⟩ := heff.communities c row hrow
  exact ⟨new, hnew, hstep.closed (fun hab => hno ⟨hok, hab⟩) hst⟩

lemma reached_step (hrch : e.before.Reached c n) : e.after.Reached c n := by
  rcases effect_or_same hresult with ⟨-, -, haft⟩ | ⟨reply, -, -, -, heff⟩
  · rw [haft]
    exact hrch
  obtain ⟨row, hrow, hle⟩ := hrch
  obtain ⟨new, hnew, hstep⟩ := heff.communities c row hrow
  exact ⟨new, hnew, hle.trans hstep.generation⟩

lemma after_fence (hfs : e.Fences c) :
    e.after.Closed c ∧ ∃ row, e.before.communities.lookup c = some row ∧
      e.after.Reached c (row.fenceGeneration + 1) := by
  obtain ⟨hok, t, hcall, rfl⟩ := hfs
  obtain ⟨reply, hexec⟩ := exec_of_ok hresult hok
  rw [hcall] at hexec
  obtain ⟨p, hp, heq⟩ := map_eq_ok.mp hexec
  obtain ⟨r, row, -, -, -, hrow, hgen, -, hcomms, -⟩ := fence_eq_ok hp
  obtain ⟨-, haft⟩ : Reply.fenced p.1 = reply ∧ p.2 = e.after := Prod.mk.inj heq
  rw [haft] at hcomms
  unfold Store.Closed Store.Reached
  rw [hcomms, AList.lookup_insert]
  exact ⟨⟨_, rfl, .inl rfl⟩, row, hrow, _, rfl, hgen.ge⟩

lemma after_abort (habs : e.Aborts c) : ∃ row, e.before.communities.lookup c = some row ∧
      e.after.Reached c (row.fenceGeneration + 1) := by
  obtain ⟨hok, habs⟩ := habs
  obtain ⟨reply, hexec⟩ := exec_of_ok hresult hok
  cases hcall : e.call with
  | abort id abortedBy reason =>
    rw [hcall] at hexec habs
    obtain ⟨p, hp, heq⟩ := map_eq_ok.mp hexec
    obtain ⟨-, rfl⟩ : Reply.done = reply ∧ p = e.after := Prod.mk.inj heq
    obtain ⟨r, row, hr, -, hrow, c', r', hcomms, hgen, -⟩ := abort_eq_ok hp
    obtain ⟨r₀, hr₀, rfl⟩ := habs
    obtain rfl := mem_unique hr hr₀
    unfold Store.Reached
    rw [hcomms, AList.lookup_insert]
    exact ⟨row, hrow, _, rfl, hgen.ge⟩
  | _ =>
    rw [hcall] at habs
    exact habs.elim

lemma accepted_lease (hls : e.call.lease? = some l) (hok : e.ok) :
    ∃ row, e.before.communities.lookup l.communityId = some row ∧ ¬ row.closed ∧
      row.fenceGeneration = l.fenceGeneration := by
  obtain ⟨reply, hexec⟩ := exec_of_ok hresult hok
  cases hcall : e.call with
  | renew l' duration =>
    rw [hcall] at hls hexec
    obtain rfl : l' = l := some.inj hls
    obtain ⟨p, hp, -⟩ := map_eq_ok.mp hexec
    obtain ⟨-, -, row, hrow⟩ := renew_eq_ok hp
    exact verifyServing_eq_ok hrow
  | verify l' =>
    rw [hcall] at hls hexec
    obtain rfl : l' = l := some.inj hls
    obtain ⟨row, hrow, -⟩ := map_eq_ok.mp hexec
    exact verifyServing_eq_ok hrow
  | guard l' =>
    rw [hcall] at hls hexec
    obtain rfl : l' = l := some.inj hls
    obtain ⟨_, hguard, -⟩ := map_eq_ok.mp hexec
    obtain ⟨row, hrow, -⟩ := bind_eq_ok.mp hguard
    exact verifyServing_eq_ok hrow
  | _ =>
    rw [hcall] at hls
    cases hls

lemma acquired_lease (hacquires : e.Acquires l) :
    ∃ row, e.before.communities.lookup l.communityId = some row ∧ row.deletionState = .active ∧
      row.fenceGeneration = l.fenceGeneration := by
  obtain ⟨hrep, c, operation, owner, duration, id, hcall⟩ := hacquires
  rcases effect_or_same hresult with ⟨-, hnone, -⟩ | ⟨reply, -, hsome, hexec, -⟩
  · rw [hrep] at hnone
    cases hnone
  obtain rfl : Reply.lease l = reply := some.inj (hrep.symm.trans hsome)
  rw [hcall] at hexec
  obtain ⟨p, hp, heq⟩ := map_eq_ok.mp hexec
  obtain ⟨hl, -⟩ : Reply.lease p.1 = Reply.lease l ∧ p.2 = e.after := Prod.mk.inj heq
  obtain ⟨hc, -, -, row, hrow, hst, hgen⟩ := acquire_eq_ok hp
  rw [Reply.lease.inj hl] at hc hgen
  rw [hc]
  exact ⟨row, hrow, hst, hgen.symm⟩

lemma not_closed_of_serves (hsrv : e.call.Serves c) (hok : e.ok) : ¬ e.before.Closed c := by
  rintro ⟨row, hrow, hcl⟩
  have hls : ∀ l, e.call.lease? = some l → l.communityId = c → False := by
    intro l hl hc
    obtain ⟨row', hrow', hopen, -⟩ := accepted_lease hresult hl hok
    rw [hc] at hrow'
    obtain rfl := mem_unique hrow hrow'
    exact hopen hcl
  cases hcall : e.call with
  | renew l _ | verify l | guard l =>
    rw [hcall] at hsrv
    exact hls l (by rw [hcall]; rfl) hsrv
  | acquire c' operation owner duration id =>
    rw [hcall] at hsrv
    obtain rfl : c' = c := hsrv
    obtain ⟨reply, hexec⟩ := exec_of_ok hresult hok
    rw [hcall] at hexec
    obtain ⟨p, hp, -⟩ := map_eq_ok.mp hexec
    obtain ⟨-, -, -, row', hrow', hst, -⟩ := acquire_eq_ok hp
    obtain rfl := mem_unique hrow hrow'
    rcases hcl with hcl | hcl <;> exact absurd (hst.symm.trans hcl) (by decide)
  | _ =>
    rw [hcall] at hsrv
    exact hsrv.elim

/-! ### The claims -/

/-- The claim of each request is the latest one of the history. -/
def Attributed (h : List Entry) (s : Store) : Prop :=
  ∀ id r owner, s.requests.lookup id = some r → r.leaseOwner = some owner →
    ∃ t, latestClaim h id = some t ∧ t.requestId = id ∧ t.owner = owner ∧
      t.generation = r.leaseGeneration ∧ t.communityId = r.communityId

omit hresult in
lemma latestClaim_append (id : Uuid) : latestClaim (h ++ [e]) id =
    match e.reply with
    | some (.claimed (some t)) => if t.requestId = id then some t else latestClaim h id
    | _ => latestClaim h id := by
  unfold latestClaim
  rw [List.foldl_append]
  rfl

omit hresult in
lemma latestClaim_of_not_claims (hrep : e.reply = some reply)
    (hno : reply.claims id = false) : latestClaim (h ++ [e]) id = latestClaim h id := by
  rw [latestClaim_append, hrep]
  cases reply with
  | claimed claimed =>
    cases claimed with
    | none => rfl
    | some t => exact if_neg (by simpa [Reply.claims] using hno)
  | _ => rfl

lemma attributed_step (hattr : Attributed h e.before) : Attributed (h ++ [e]) e.after := by
  intro id new owner hnew hown
  rcases effect_or_same hresult with ⟨-, hrep, haft⟩ | ⟨reply, -, hrep, -, heff⟩
  · rw [latestClaim_append, hrep]
    rw [haft] at hnew
    exact hattr id new owner hnew hown
  cases hold : e.before.requests.lookup id with
  | none =>
    -- a request that was entered just now has no claim
    obtain ⟨hnone, -⟩ := heff.requests.entered id new hold hnew
    rw [hnone] at hown
    cases hown
  | some old =>
    obtain ⟨new', hnew', hstep⟩ := heff.requests.kept id old hold
    obtain rfl := mem_unique hnew hnew'
    rcases hstep.claim with ⟨t, rfl, rfl, hcomm, ht, hgen⟩ | ⟨hno, hclm⟩
    · refine ⟨t, ?_, rfl, ?_, hgen.symm, hcomm.trans hstep.community.symm⟩
      · rw [latestClaim_append, hrep]
        exact if_pos rfl
      · exact some.inj (ht.symm.trans hown)
    rw [latestClaim_of_not_claims hrep hno]
    rcases hclm with hnone | ⟨hsame, hgen⟩
    · rw [hnone] at hown
      cases hown
    · rw [hgen, hstep.community]
      exact hattr id old owner hold (hsame.symm.trans hown)

omit hresult in
lemma Chain.attributed (hch : Chain .empty h s) : Attributed h s := by
  induction h using List.reverseRecOn generalizing s with
  | nil =>
    obtain rfl : Store.empty = s := hch
    intro id r owner hr
    cases hr
  | append_singleton h e ih =>
    obtain ⟨u, hu, rfl, hresult, hs⟩ := chain_append.mp hch
    obtain rfl : e.after = s := hs
    exact attributed_step hresult (ih hu)

/-! ### Every run -/

lemma stages_step (hr : e.before.requests.lookup id = some r) :
    ∃ r', e.after.requests.lookup id = some r' ∧ StageStep r.stage r'.stage := by
  rcases effect_or_same hresult with ⟨-, -, haft⟩ | ⟨reply, -, -, -, heff⟩
  · rw [haft]
    exact ⟨r, hr, .inl rfl⟩
  obtain ⟨r', hr', hstep⟩ := heff.requests.kept id r hr
  refine ⟨r', hr', ?_⟩
  rcases hstep.stage with hsame | ⟨hnext, -⟩ | hab
  · exact .inl hsame
  · exact .inr (.inl hnext)
  · exact .inr (.inr hab)

lemma claims_step (hattr : Attributed h e.before)
    (hr : e.before.requests.lookup id = some r) (hr' : e.after.requests.lookup id = some r')
    (hrun : r.stage.runnable) (hnext : r.stage.next = some r'.stage) :
    ∃ t claim, e.call.token? = some t ∧ latestClaim h id = some claim ∧
      t = { claim with fenceGeneration := t.fenceGeneration } ∧
      (∃ time, r.leaseUntil = some time ∧ e.now ≤ time) ∧ r.blocked = false := by
  rcases effect_or_same hresult with ⟨-, -, haft⟩ | ⟨reply, -, -, -, heff⟩
  · rw [haft, hr] at hr'
    obtain rfl : r = r' := some.inj hr'
    exact absurd hnext (next_ne_self _)
  obtain ⟨new, hnew, hstep⟩ := heff.requests.kept id r hr
  obtain rfl := mem_unique hr' hnew
  rcases hstep.stage with hsame | ⟨-, hforward⟩ | ⟨hab, -⟩
  · rw [hsame] at hnext
    exact absurd hnext (next_ne_self _)
  · obtain ⟨t, htok, rfl, hheld⟩ := hforward hrun
    obtain ⟨claim, hclm, hid, hown, hgen, hcomm⟩ := hattr t.requestId r t.owner hr hheld.owner
    refine ⟨t, claim, htok, hclm, ?_, hheld.unexpired, hheld.unblocked⟩
    rw [LeaseToken.mk.injEq]
    exact ⟨hid.symm, hown.symm, (hgen.trans hheld.generation).symm,
      (hcomm.trans hheld.community).symm, rfl⟩
  · rw [hab] at hnext
    exact absurd hnext (next_ne_aborted _)

end Chains

/-- **No serving write survives the deletion fence**, and the stages are moved by the latest claim
only, in every run of the store. -/
theorem no_write_survives_fence (calls : List (ℤ × Call)) : Safe (history .empty calls) := by
  obtain ⟨last, hchain⟩ := chain_history .empty calls
  constructor
  · intro h₁ e h₂ e' h₃ c hsplit hfences hno hserves
    rw [hsplit] at hchain
    obtain ⟨_, -, rfl, hresult, hchain⟩ := chain_append.mp hchain
    obtain ⟨_, hbetween, rfl, hresult', -⟩ := chain_append.mp hchain
    have hclosed : e'.before.Closed c := by
      refine hbetween.invariant (I := fun s => s.Closed c) ?_ (after_fence hresult hfences).1
      intro e₂ he₂ hresult₂ h
      exact closed_step hresult₂ (hno e₂ he₂) h
    by_contra hok
    exact not_closed_of_serves hresult' hserves (by simpa using hok) hclosed
  · intro h₁ e h₂ e' h₃ e'' h₄ l time hsplit hacquires hraises hlease
    rw [hsplit] at hchain
    obtain ⟨_, -, rfl, hresult, hchain⟩ := chain_append.mp hchain
    obtain ⟨_, hfirst, rfl, hresult', hchain⟩ := chain_append.mp hchain
    obtain ⟨_, hsecond, rfl, hresult'', -⟩ := chain_append.mp hchain
    -- the generation has passed that of the lease
    obtain ⟨row, hrow, -, hgeneration⟩ := acquired_lease hresult hacquires
    have hreached : e'.before.Reached l.communityId l.fenceGeneration := by
      refine hfirst.invariant (I := fun s => s.Reached l.communityId l.fenceGeneration) ?_ ?_
      · exact fun e₂ _ hresult₂ h => reached_step hresult₂ h
      · exact reached_step hresult ⟨row, hrow, hgeneration.ge⟩
    obtain ⟨row', hrow', hraised⟩ : ∃ row, e'.before.communities.lookup l.communityId = some row ∧
        e'.after.Reached l.communityId (row.fenceGeneration + 1) := by
      rcases hraises with hfences | haborts
      · exact (after_fence hresult' hfences).2
      · exact after_abort hresult' haborts
    have hpassed : e''.before.Reached l.communityId (row'.fenceGeneration + 1) := by
      refine hsecond.invariant
        (I := fun s => s.Reached l.communityId (row'.fenceGeneration + 1)) ?_ hraised
      exact fun e₂ _ hresult₂ h => reached_step hresult₂ h
    by_contra hok
    obtain ⟨last, hlast, -, hsame⟩ := accepted_lease hresult'' hlease (by simpa using hok)
    obtain ⟨r₁, hr₁, hle₁⟩ := hreached
    obtain ⟨r₂, hr₂, hle₂⟩ := hpassed
    obtain rfl := mem_unique hrow' hr₁
    obtain rfl := mem_unique hr₂ hlast
    have hsame : r₂.fenceGeneration = l.fenceGeneration := hsame
    omega
  · intro e he id r hr
    obtain ⟨h₁, h₂, hsplit⟩ := List.append_of_mem he
    rw [hsplit] at hchain
    obtain ⟨_, -, rfl, hresult, -⟩ := chain_append.mp hchain
    exact stages_step hresult hr
  intro h₁ e h₂ id r r' hsplit hr hr' hrun hnext
  rw [hsplit] at hchain
  obtain ⟨_, hbefore, rfl, hresult, -⟩ := chain_append.mp hchain
  exact claims_step hresult hbefore.attributed hr hr' hrun hnext

end Buzz.Db.Deletion
