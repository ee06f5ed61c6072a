import Buzz.Relay.Session

/-!
Whether the commands of a connection take effect in their order.

A task registers its subscription some time after its REQ was received.  If a CLOSE for the id comes
before that, the subscription is registered after it was closed; of two REQs for an id the first may
be the last to register; and a task that registers after the connection was cleaned up leaves a
subscription behind.

`Session.Unhurried` rules this out: a frame for an id is received, and the connection ended, only
when no task for that id, or none at all, is still at work.  It also leaves out the limit on the
number of subscriptions, which is checked long before a subscription is entered.  Then what the tasks
have still to do makes the connection what it would be with the frames handled one after the other.
-/

namespace Buzz.Relay

open Buzz.Core Lib Handler SubscriptionRegistry Conn List

/-! ### The property -/

def Conn.view (c : Conn) (sub : SubId) : Option (List RequestFilter) × Option SubEntry :=
  (c.subscriptions.lookup sub, c.registry.live (c.connId, sub))

namespace Handler

def subId? : Handler → Option SubId
  | .starting r | .resolving r _ | .inserting r _ | .removing r _ | .entering r _ => some r.subId
  | .finished => none

/-- The task has not yet entered the subscription in the connection's list. -/
def waiting : Handler → Bool
  | .starting _ | .resolving _ _ | .inserting _ _ => true
  | .removing _ _ | .entering _ _ | .finished => false

end Handler

open Handler

namespace Session

variable (s : Session)

/-- What the frames that were received would leave if they were handled one after the other. -/
def expected (sub : SubId) : Option (List RequestFilter) × Option SubEntry :=
  (Conn.sequential s.conn.connId s.conn.communityId s.received).view sub

/-- Nothing is left to do for the loop and the tasks. -/
def Settled : Prop := s.closing = none ∧ ∀ h ∈ s.handlers, h.subId? = none

/-- Once nothing is left to do, the subscriptions are those that the frames leave in their order, or
the connection has ended and the registry has none of them. -/
def InOrder : Prop :=
  s.Settled →
    (s.ended = false → ∀ sub, s.conn.view sub = s.expected sub) ∧
    (s.ended → ∀ sub, s.conn.registry.live (s.conn.connId, sub) = none)

def busy (sub : SubId) : Bool := s.handlers.any fun h => h.subId? = some sub

/-- A frame is received while no task for its id is at work, a REQ also only while the subscriptions
and the tasks that are about to enter one are fewer than the limit; the connection ends while no task
is at work. -/
def Unhurried : Move → Prop
  | .receive (.req r) => s.busy r.subId = false ∧
      s.conn.subscriptions.entries.length + s.handlers.countP waiting < maxSubscriptions
  | .receive (.close sub) => s.busy sub = false
  | .finish => ∀ h ∈ s.handlers, h.subId? = none
  | .close | .handler _ | .other _ => True

end Session

instance (s : Session) : ∀ m, Decidable (s.Unhurried m)
  | .receive (.req _) => inferInstanceAs (Decidable (_ ∧ _))
  | .receive (.close _) => inferInstanceAs (Decidable (_ = _))
  | .finish => inferInstanceAs (Decidable (∀ h ∈ _, _))
  | .close | .handler _ | .other _ => inferInstanceAs (Decidable True)

/-! ### What is left of a task -/

def ReqFrame.granted (r : ReqFrame) : Option SubscriptionScope :=
  match r.auth with
  | .authenticated ctx =>
    if !ctx.scopes.isEmpty && !ctx.scopes.contains .messagesRead then none
    else match reqScope r.access ctx r.filters with
      | .ok (some scope) => some scope
      | .ok none | .error _ => none
  | .pending | .failed => none

/-- What a task makes of what the connection has under its id, given room. -/
def Handler.outcome (communityId : CommunityId)
    (v : Option (List RequestFilter) × Option SubEntry) :
    Handler → Option (List RequestFilter) × Option SubEntry
  | .starting r =>
    match r.granted with
    | some scope => (some r.filters, some (r.entry communityId scope))
    | none => v
  | .resolving r ctx =>
    match reqScope r.access ctx r.filters with
    | .ok (some scope) => (some r.filters, some (r.entry communityId scope))
    | .ok none | .error _ => v
  | .inserting r scope => (some r.filters, some (r.entry communityId scope))
  | .removing r scope | .entering r scope => (v.1, some (r.entry communityId scope))
  | .finished => v

section View

variable (c : Conn) (r : ReqFrame) (scope : SubscriptionScope) (sub sub' : SubId)

namespace Conn

lemma view_insertSub : (c.insertSub r).view sub =
    if sub = r.subId then (some r.filters, (c.view sub).2) else c.view sub := by
  unfold view insertSub
  by_cases h : sub = r.subId
  · subst h
    simp
  · simp [h]

lemma view_eraseSub : (c.eraseSub sub').view sub =
    if sub = sub' then (none, (c.view sub).2) else c.view sub := by
  unfold view eraseSub
  by_cases h : sub = sub'
  · subst h
    simp
  · simp [h]

lemma view_removeSubscription : (c.removeSubscription sub').view sub =
    if sub = sub' then ((c.view sub).1, none) else c.view sub := by
  unfold view removeSubscription
  rw [removeSubscription_live]
  by_cases h : sub = sub'
  · subst h
    simp
  · simp [h]

lemma view_enter : (c.enter r scope).view sub =
    if sub = r.subId then ((c.view sub).1, some (r.entry c.communityId scope)) else c.view sub := by
  unfold view enter SubscriptionRegistry.enter
  rw [live_insertIntoIndex, live_insert_entry]
  by_cases h : sub = r.subId
  · subst h
    simp
  · simp [h]

lemma length_insertSub :
    (c.insertSub r).subscriptions.entries.length ≤ c.subscriptions.entries.length + 1 := by
  unfold insertSub
  rw [AList.entries_insert, length_cons]
  have := (kerase_sublist r.subId c.subscriptions.entries).length_le
  omega

end Conn

end View

/-! ### One step of a task -/

/-- What a step of a task does: nothing under other ids, and nothing to what will be under its own. -/
structure Advances (c c' : Conn) (h h' : Handler) : Prop where
  connId : c'.connId = c.connId
  communityId : c'.communityId = c.communityId
  subId : h'.subId? = h.subId? ∨ h'.subId? = none
  view : ∀ sub, h.subId? ≠ some sub → c'.view sub = c.view sub
  outcome : ∀ sub, h.subId? = some sub →
    h'.outcome c.communityId (c'.view sub) = h.outcome c.communityId (c.view sub)
  length : c'.subscriptions.entries.length + (if h'.waiting then 1 else 0) ≤
    c.subscriptions.entries.length + (if h.waiting then 1 else 0)

section Advances

variable {c : Conn} {r : ReqFrame} (scope : SubscriptionScope)

lemma advances_finished
    (hnone : ∀ sub, h.subId? = some sub → h.outcome c.communityId (c.view sub) = c.view sub) :
    Advances c c h .finished where
  connId := rfl
  communityId := rfl
  subId := .inr rfl
  view _ _ := rfl
  outcome sub hsub := (hnone sub hsub).symm
  length := by simp [waiting]

lemma advances_starting (hroom : c.hasRoom r.subId) :
    Advances c ((starting r).step c).1 (.starting r) ((starting r).step c).2 := by
  simp only [step]
  cases hauth : r.auth with
  | authenticated ctx =>
    simp only
    split
    · next hsc =>
      refine advances_finished ?_
      intro sub _
      simp only [outcome, ReqFrame.granted, hauth, hsc, if_true]
    next hsc =>
    refine ⟨rfl, rfl, .inl rfl, fun _ _ => rfl, ?_, le_rfl⟩
    intro sub _
    simp only [outcome, ReqFrame.granted, hauth, hsc, if_false, Bool.false_eq_true]
    cases reqScope r.access ctx r.filters with
    | error e => rfl
    | ok found => cases found <;> rfl
  | pending | failed =>
    refine advances_finished ?_
    intro sub _
    simp only [outcome, ReqFrame.granted, hauth]

lemma advances_resolving (ctx : AuthContext) :
    Advances c ((resolving r ctx).step c).1 (.resolving r ctx) ((resolving r ctx).step c).2 := by
  simp only [step]
  cases hsc : reqScope r.access ctx r.filters with
  | error e =>
    refine advances_finished ?_
    intro sub _
    simp only [outcome, hsc]
  | ok found =>
    cases found with
    | none =>
      refine advances_finished ?_
      intro sub _
      simp only [outcome, hsc]
    | some scope =>
      refine ⟨rfl, rfl, .inl rfl, fun _ _ => rfl, ?_, le_rfl⟩
      intro sub _
      simp only [outcome, hsc]

/-- A step that changes what is under the id of its task. -/
lemma advances_at {c' : Conn} {h h' : Handler}
    {v : SubId → Option (List RequestFilter) × Option SubEntry}
    (hids : c'.connId = c.connId ∧ c'.communityId = c.communityId)
    (hsub : h.subId? = some r.subId) (hsub' : h'.subId? = h.subId? ∨ h'.subId? = none)
    (hview : ∀ sub, c'.view sub = if sub = r.subId then v sub else c.view sub)
    (hout : h'.outcome c.communityId (v r.subId) = h.outcome c.communityId (c.view r.subId))
    (hlen : c'.subscriptions.entries.length + (if h'.waiting then 1 else 0) ≤
      c.subscriptions.entries.length + (if h.waiting then 1 else 0)) : Advances c c' h h' := by
  refine ⟨hids.1, hids.2, hsub', fun sub hne => ?_, fun sub heq => ?_, hlen⟩
  · rw [hview, if_neg]
    rintro rfl
    exact hne hsub
  · obtain rfl : r.subId = sub := Option.some.inj (hsub.symm.trans heq)
    rw [hview, if_pos rfl, hout]

lemma advances_inserting : Advances c (c.insertSub r) (.inserting r scope) (.removing r scope) := by
  refine advances_at ⟨rfl, rfl⟩ rfl (.inl rfl) (view_insertSub c r) rfl ?_
  have := c.length_insertSub r
  simpa [waiting] using this

lemma advances_removing :
    Advances c (c.removeSubscription r.subId) (.removing r scope) (.entering r scope) :=
  advances_at ⟨rfl, rfl⟩ rfl (.inl rfl) (view_removeSubscription c · r.subId) rfl le_rfl

lemma advances_entering : Advances c (c.enter r scope) (.entering r scope) .finished :=
  advances_at ⟨rfl, rfl⟩ rfl (.inr rfl) (view_enter c r scope) rfl le_rfl

/-- There is room for the subscription of a task, if the task has not entered it yet. -/
def Room (c : Conn) (h : Handler) : Prop :=
  c.subscriptions.entries.length + (if h.waiting then 1 else 0) ≤ maxSubscriptions

lemma advances_step (h : Handler) (hroom : Room c h) : Advances c (h.step c).1 h (h.step c).2 := by
  cases h with
  | starting r =>
    refine advances_starting ?_
    have hlt : c.subscriptions.entries.length < maxSubscriptions := hroom
    simp [hasRoom, hlt]
  | resolving r ctx => exact advances_resolving ctx
  | inserting r scope => exact advances_inserting scope
  | removing r scope => exact advances_removing scope
  | entering r scope => exact advances_entering scope
  | finished => exact advances_finished fun _ hsub => (nomatch hsub)

end Advances

/-! ### A REQ alone -/

namespace Conn

variable (c : Conn) (r : ReqFrame)

lemma handleReq_eq : c.handleReq r =
    match r.granted with
    | some scope =>
      if c.hasRoom r.subId then ((c.insertSub r).removeSubscription r.subId).enter r scope else c
    | none => c := by
  let next (p : Conn × Handler) := p.2.step p.1
  have hfive : c.handleReq r = (next (next (next (next (next (c, .starting r)))))).1 := rfl
  rw [hfive]
  unfold ReqFrame.granted
  cases hauth : r.auth with
  | authenticated ctx =>
    by_cases hsc : (!ctx.scopes.isEmpty && !ctx.scopes.contains .messagesRead)
    · simp only [next, step, hauth, hsc, if_true]
    by_cases hroom : c.hasRoom r.subId <;>
      rcases hfound : reqScope r.access ctx r.filters with e | _ | scope <;>
      simp only [next, step, hauth, hsc, hroom, hfound, if_true, if_false, Bool.false_eq_true]
  | pending | failed => simp only [next, step, hauth]

lemma view_handleReq (hroom : c.subscriptions.entries.length < maxSubscriptions) (sub : SubId) :
    (c.handleReq r).view sub = if sub = r.subId then (starting r).outcome c.communityId (c.view sub)
      else c.view sub := by
  have hfree : c.hasRoom r.subId := by simp [hasRoom, hroom]
  rw [handleReq_eq]
  simp only [hfree, if_true, outcome]
  cases r.granted with
  | none => exact (ite_self _).symm
  | some scope =>
    simp only [view_enter, view_removeSubscription, view_insertSub]
    split
    · rfl
    · rfl

lemma ids_sequential (connId : ConnId) (communityId : CommunityId) (frames : List Frame) :
    (sequential connId communityId frames).connId = connId ∧
      (sequential connId communityId frames).communityId = communityId := by
  unfold sequential
  apply foldlRecOn (motive := fun c : Conn =>
    c.connId = connId ∧ c.communityId = communityId) frames handleFrame
  · exact ⟨rfl, rfl⟩
  intro c hc f _
  cases f with
  | req r =>
    simp only [handleFrame, handleReq_eq]
    repeat' split
    all_goals exact hc
  | close sub => exact hc

end Conn

/-! ### The invariant -/

namespace Session

variable {s : Session}

/-- What the tasks have still to do makes the connection what it would be with the frames handled one
after the other.  At most one task is at work for an id. -/
structure Orderly (s : Session) : Prop where
  apart : (s.handlers.filterMap subId?).Nodup
  idle : ∀ sub, s.busy sub = false → s.closing ≠ some sub → s.conn.view sub = s.expected sub
  working : ∀ h ∈ s.handlers, ∀ sub, h.subId? = some sub →
    h.outcome s.conn.communityId (s.conn.view sub) = s.expected sub
  closing : ∀ sub, s.closing = some sub →
    s.busy sub = false ∧ (s.conn.view sub).1 = none ∧ s.expected sub = (none, none)
  room : s.conn.subscriptions.entries.length + s.handlers.countP waiting ≤ maxSubscriptions

/-- The connection was cleaned up after all tasks had ended. -/
structure Over (s : Session) : Prop where
  finished : ∀ h ∈ s.handlers, h.subId? = none
  empty : ∀ sub, s.conn.registry.live (s.conn.connId, sub) = none

variable {sub : SubId} {op : SubOp}

lemma busy_eq_false : s.busy sub = false ↔ ∀ h ∈ s.handlers, h.subId? ≠ some sub := by
  simp [busy]

lemma eq_finished {h : Handler} (hnone : h.subId? = none) : h = .finished := by
  cases h with
  | finished => rfl
  | _ => cases hnone

lemma mem_middle : h' ∈ l₁ ++ h :: l₂ ↔ h' = h ∨ h' ∈ l₁ ++ l₂ := perm_middle.mem_iff.trans mem_cons

lemma subId_ne_of_nodup
    (hnd : ((l₁ ++ h :: l₂).filterMap subId?).Nodup) (hsub : h.subId? = some sub) :
    ∀ h' ∈ l₁ ++ l₂, h'.subId? ≠ some sub := by
  rw [filterMap_append, filterMap_cons_some hsub, nodup_middle, nodup_cons,
    ← filterMap_append] at hnd
  intro h' hh' heq
  exact hnd.1 (mem_filterMap.mpr ⟨h', hh', heq⟩)

lemma Orderly.handler (ho : s.Orderly)
    (hlist : s.handlers = l₁ ++ h :: l₂) (hadv : Advances s.conn c h h') :
    Orderly { s with conn := c, handlers := l₁ ++ h' :: l₂ } := by
  have hwant : ∀ sub, Session.expected { s with conn := c, handlers := l₁ ++ h' :: l₂ } sub =
      s.expected sub := by
    intro sub
    unfold Session.expected
    rw [hadv.connId, hadv.communityId]
  have happart := ho.apart
  have hroom := ho.room
  rw [hlist] at happart hroom
  -- the other tasks are for other ids, where the step does nothing
  have hothers : ∀ h₂ ∈ l₁ ++ l₂, ∀ sub, h₂.subId? = some sub → h.subId? ≠ some sub := by
    intro h₂ hh₂ sub hsub hsame
    exact subId_ne_of_nodup happart hsame h₂ hh₂ hsub
  have hbusy : ∀ sub, s.busy sub = false ↔
      h.subId? ≠ some sub ∧ ∀ h₂ ∈ l₁ ++ l₂, h₂.subId? ≠ some sub := by
    intro sub
    rw [busy_eq_false, hlist]
    simp only [mem_middle, forall_eq_or_imp]
  refine ⟨?_, ?_, ?_, ?_, ?_⟩
  · rw [filterMap_append, filterMap_cons] at happart ⊢
    rcases hadv.subId with heq | hnone
    · rw [heq]
      exact happart
    rw [hnone]
    refine happart.sublist (List.Sublist.append_left ?_ _)
    cases h.subId? with
    | none => exact List.Sublist.refl _
    | some sub => exact sublist_cons_self _ _
  · intro sub hidle hshut
    rw [hwant]
    have hall := busy_eq_false.mp hidle
    simp only [mem_middle, forall_eq_or_imp] at hall
    by_cases hsub : h.subId? = some sub
    · -- the task has come to its end, with its outcome
      have hdone : h' = .finished := by
        rcases hadv.subId with heq | hnone
        · exact absurd (heq.trans hsub) hall.1
        · exact eq_finished hnone
      have hout := hadv.outcome sub hsub
      rw [hdone] at hout
      rw [← ho.working h (by simp [hlist]) sub hsub, ← hout]
      rfl
    · exact (hadv.view sub hsub).trans (ho.idle sub ((hbusy sub).mpr ⟨hsub, hall.2⟩) hshut)
  · intro h₂ hh₂ sub hsub
    rw [hwant]
    simp only
    rw [hadv.communityId]
    rcases mem_middle.mp hh₂ with rfl | hmem
    · have hsub' : h.subId? = some sub := by
        rcases hadv.subId with heq | hnone
        · exact heq.symm.trans hsub
        · rw [hnone] at hsub
          cases hsub
      rw [hadv.outcome sub hsub']
      exact ho.working h (by simp [hlist]) sub hsub'
    · rw [hadv.view sub (hothers h₂ hmem sub hsub)]
      exact ho.working h₂ (hlist ▸ mem_middle.mpr (.inr hmem)) sub hsub
  · intro sub hshut
    rw [hwant]
    obtain ⟨hfree, hview, hnone⟩ := ho.closing sub hshut
    obtain ⟨hne, hall⟩ := (hbusy sub).mp hfree
    refine ⟨busy_eq_false.mpr ?_, ?_, hnone⟩
    · simp only [mem_middle, forall_eq_or_imp]
      refine ⟨?_, hall⟩
      rcases hadv.subId with heq | hnone'
      · rw [heq]
        exact hne
      · simp [hnone']
    simp only
    rw [hadv.view sub hne]
    exact hview
  have hlen := hadv.length
  simp only [countP_append, countP_cons] at hroom ⊢
  omega

/-! ### Receiving frames -/

lemma length_le_of_subset {α : Type} [DecidableEq α] {V : Type} (t : Table α V) (ids : List α)
    (h : ∀ k, (t.lookup k).isSome → k ∈ ids) : t.entries.length ≤ ids.length := by
  have hkeys : t.keys ⊆ ids := by
    intro k hk
    exact h k (AList.lookup_isSome.mpr hk)
  have := (subperm_of_subset t.keys_nodup hkeys).length_le
  rwa [AList.keys, keys, length_map] at this

lemma Orderly.length_sequential (ho : s.Orderly) :
    (Conn.sequential s.conn.connId s.conn.communityId s.received).subscriptions.entries.length ≤
      s.conn.subscriptions.entries.length + s.handlers.countP waiting := by
  have hle := length_le_of_subset
    (sequential s.conn.connId s.conn.communityId s.received).subscriptions
    (s.conn.subscriptions.keys ++ (s.handlers.filter waiting).filterMap subId?) ?_
  · refine hle.trans ?_
    rw [length_append, AList.keys, keys, length_map, countP_eq_length_filter]
    exact Nat.add_le_add_left (length_filterMap_le ..) _
  intro sub hsub
  have hwant : (s.expected sub).1.isSome := hsub
  rw [mem_append]
  by_cases hbusy : s.busy sub
  · simp only [busy, any_eq_true, decide_eq_true_eq] at hbusy
    obtain ⟨h, hh, hid⟩ := hbusy
    have hout := ho.working h hh sub hid
    cases hwait : h.waiting with
    | true =>
      exact .inr (mem_filterMap.mpr ⟨h, mem_filter.mpr ⟨hh, hwait⟩, hid⟩)
    | false =>
      -- a task that has entered its subscription leaves the list as it is
      refine .inl (AList.lookup_isSome.mp ?_)
      rw [← hout] at hwant
      cases h with
      | removing r scope | entering r scope | finished => exact hwant
      | _ => cases hwait
  have hfree : s.busy sub = false := by simpa using hbusy
  by_cases hshut : s.closing = some sub
  · rw [(ho.closing sub hshut).2.2] at hwant
    cases hwant
  · rw [← ho.idle sub hfree hshut] at hwant
    exact .inl (AList.lookup_isSome.mp hwant)

lemma sequential_append (s : Session) (f : Frame) :
    Conn.sequential s.conn.connId s.conn.communityId (s.received ++ [f]) =
      (Conn.sequential s.conn.connId s.conn.communityId s.received).handleFrame f := by
  unfold sequential
  rw [foldl_append]
  rfl

lemma Orderly.receiveReq (ho : s.Orderly) (hshut : s.closing = none)
    (hfree : s.busy r.subId = false)
    (hroom : s.conn.subscriptions.entries.length + s.handlers.countP waiting <
      maxSubscriptions) : (s.receive (.req r)).Orderly := by
  have hwant : ∀ sub, (s.receive (.req r)).expected sub =
      if sub = r.subId then (starting r).outcome s.conn.communityId (s.expected sub)
      else s.expected sub := by
    intro sub
    have hview := view_handleReq _ r (ho.length_sequential.trans_lt hroom) sub
    rw [(ids_sequential ..).2] at hview
    unfold Session.expected
    rw [← hview]
    exact congrArg (fun c => view c sub) (sequential_append s (.req r))
  have hall := busy_eq_false.mp hfree
  refine ⟨?_, ?_, ?_, ?_, ?_⟩
  · simp only [receive, filterMap_append, filterMap_cons, filterMap_nil,
      subId?]
    refine List.Nodup.append ho.apart (nodup_singleton _) ?_
    rw [disjoint_singleton]
    intro hmem
    obtain ⟨h, hh, hid⟩ := mem_filterMap.mp hmem
    exact hall h hh hid
  · intro sub hidle _
    have hidle := busy_eq_false.mp hidle
    simp only [receive, mem_append, mem_singleton] at hidle
    have hne : sub ≠ r.subId := by
      rintro rfl
      exact hidle (.starting r) (.inr rfl) rfl
    rw [hwant, if_neg hne]
    exact ho.idle sub (busy_eq_false.mpr fun h hh => hidle h (.inl hh)) (by simp [hshut])
  · intro h hh sub hsub
    rw [hwant]
    rcases mem_append.mp hh with hold | hnew
    · have hne : sub ≠ r.subId := by
        rintro rfl
        exact hall h hold hsub
      rw [if_neg hne]
      exact ho.working h hold sub hsub
    obtain rfl := mem_singleton.mp hnew
    have heq : sub = r.subId := (Option.some.inj hsub).symm
    subst heq
    rw [if_pos rfl, ← ho.idle r.subId hfree (by simp [hshut])]
    rfl
  · intro sub hsub
    exact absurd hsub (by simp [receive, hshut])
  simp only [receive, countP_append, countP_singleton, waiting]
  simp only [if_true]
  omega

lemma Orderly.receiveClose (ho : s.Orderly) (hshut : s.closing = none)
    (hfree : s.busy sub = false) : (s.receive (.close sub)).Orderly := by
  have hwant : ∀ sub', (s.receive (.close sub)).expected sub' =
      if sub' = sub then (none, none) else s.expected sub' := by
    intro sub'
    have happend := congrArg (fun c => view c sub') (sequential_append s (.close sub))
    refine happend.trans ?_
    simp only [handleFrame]
    rw [view_removeSubscription, view_eraseSub]
    split
    · rfl
    · rfl
  have hall := busy_eq_false.mp hfree
  have hview : ∀ sub', (s.receive (.close sub)).conn.view sub' =
      if sub' = sub then (none, (s.conn.view sub').2) else s.conn.view sub' :=
    fun sub' => view_eraseSub s.conn sub' sub
  refine ⟨ho.apart, ?_, ?_, ?_, ?_⟩
  · intro sub' hidle hne
    have hne : sub' ≠ sub := fun h => hne (congrArg some h.symm)
    rw [hwant, hview, if_neg hne, if_neg hne]
    exact ho.idle sub' hidle (by simp [hshut])
  · intro h hh sub' hsub
    have hne : sub' ≠ sub := by
      rintro rfl
      exact hall h hh hsub
    rw [hwant, hview, if_neg hne, if_neg hne]
    exact ho.working h hh sub' hsub
  · intro sub' hsub
    obtain rfl : sub = sub' := Option.some.inj hsub
    rw [hwant, hview, if_pos rfl, if_pos rfl]
    exact ⟨hfree, rfl, rfl⟩
  have hlen : (s.conn.eraseSub sub).subscriptions.entries.length ≤
      s.conn.subscriptions.entries.length :=
    (kerase_sublist sub s.conn.subscriptions.entries).length_le
  exact (Nat.add_le_add_right hlen _).trans ho.room

lemma Orderly.close (ho : s.Orderly) (hshut : s.closing = some sub) :
    Orderly { s with conn := s.conn.removeSubscription sub, closing := none } := by
  obtain ⟨hfree, hnone, hwant⟩ := ho.closing sub hshut
  have hall := busy_eq_false.mp hfree
  refine ⟨ho.apart, ?_, ?_, fun _ h => (nomatch h), ho.room⟩
  · intro sub' hidle _
    simp only
    rw [view_removeSubscription]
    by_cases heq : sub' = sub
    · subst heq
      rw [if_pos rfl, hnone]
      exact hwant.symm
    · rw [if_neg heq]
      exact ho.idle sub' hidle (by rw [hshut]; simpa using Ne.symm heq)
  intro h hh sub' hsub
  have hne : sub' ≠ sub := by
    rintro rfl
    exact hall h hh hsub
  simp only
  rw [view_removeSubscription, if_neg hne]
  exact ho.working h hh sub' hsub

/-! ### Other connections -/

lemma live_exec_of_ne {conn : ConnId} (hne : op.conn ≠ conn)
    (r : SubscriptionRegistry) (sub : SubId) :
    (op.exec r).live (conn, sub) = r.live (conn, sub) := by
  have hkey : ∀ sub', (conn, sub) ≠ (op.conn, sub') := fun sub' h => hne (congrArg Prod.fst h).symm
  cases op with
  | registerScoped c conn' sub' filters channelId =>
    have hlive := r.registerWithScope_live c conn' sub' filters
      ((channelId.map fun ch => SubscriptionScope.channels [ch]).getD .global)
    exact (congrFun hlive _).trans (Function.update_of_ne (hkey sub') ..)
  | registerChannelsScoped c conn' sub' filters channelIds =>
    have hlive := r.registerWithScope_live c conn' sub' filters (.channels channelIds)
    exact (congrFun hlive _).trans (Function.update_of_ne (hkey sub') ..)
  | removeSubscription conn' sub' =>
    exact (congrFun (r.removeSubscription_live conn' sub') _).trans
      (Function.update_of_ne (hkey sub') ..)
  | removeConnection conn' =>
    exact (r.removeConnection_live conn' _).trans (if_neg (Ne.symm hne))
  | removeChannelSubscriptionsScoped c conn' ch =>
    have hsubs : (r.removeChannelSubscriptionsScoped c conn' ch).1.subs.lookup conn =
        r.subs.lookup conn := by
      unfold removeChannelSubscriptionsScoped
      refine foldlRecOn (motive := fun st : SubscriptionRegistry × _ =>
        st.1.subs.lookup conn = r.subs.lookup conn) _ _ rfl ?_
      intro st ih sub' _
      unfold removeChannelOf
      dsimp only
      repeat' split
      all_goals first
        | exact ih
        | rw [removeFromIndex_subs]
          exact (AList.lookup_insert_ne (Ne.symm hne)).trans ih
    simp [SubOp.exec, live, hsubs]

/-! ### One step, and every run -/

lemma view_other (hne : op.conn ≠ s.conn.connId) (sub : SubId) :
    Conn.view { s.conn with registry := op.exec s.conn.registry } sub = s.conn.view sub :=
  Prod.ext rfl (live_exec_of_ne hne s.conn.registry sub)

lemma Orderly.other (ho : s.Orderly) (hne : op.conn ≠ s.conn.connId) :
    Orderly { s with conn := { s.conn with registry := op.exec s.conn.registry } } where
  apart := ho.apart
  idle sub hidle hshut := (view_other hne sub).trans (ho.idle sub hidle hshut)
  working h hh sub hsub := by
    simp only
    rw [view_other hne]
    exact ho.working h hh sub hsub
  closing sub hsub := by
    simp only
    rw [view_other hne]
    exact ho.closing sub hsub
  room := ho.room

/-- What holds before the end, and after it. -/
structure Sound (s : Session) : Prop where
  orderly : s.ended = false → s.Orderly
  isOver : s.ended → s.Over

section

variable (h : s.Sound)

include h

lemma Sound.handler (i : ℕ) : (s.step (.handler i)).Sound := by
  simp only [step]
  cases hi : s.handlers[i]? with
  | none => exact h
  | some task =>
    obtain ⟨hlt, htask⟩ := List.getElem?_eq_some_iff.mp hi
    obtain ⟨l₁, l₂, hlist, -, hset⟩ : ∃ l₁ l₂, s.handlers = l₁ ++ s.handlers[i] :: l₂ ∧
        l₁.length = i ∧ s.handlers.set i (task.step s.conn).2 =
          l₁ ++ (task.step s.conn).2 :: l₂ := exists_of_set hlt
    rw [htask] at hlist
    simp only [hset]
    constructor
    · intro hended
      have ho := h.orderly hended
      refine ho.handler hlist (advances_step task ?_)
      have hroom := ho.room
      rw [hlist, countP_append, countP_cons] at hroom
      unfold Room
      omega
    intro hended
    -- all tasks have ended, and the step does nothing
    have hover := h.isOver hended
    have hdone : task = .finished := eq_finished (hover.finished task (by simp [hlist]))
    subst hdone
    exact ⟨fun h₂ hh₂ => hover.finished h₂ (hlist ▸ hh₂), hover.empty⟩

lemma Sound.receive (hquiet : s.Unhurried (.receive f)) : (s.step (.receive f)).Sound := by
  simp only [step]
  split
  · next hidle =>
    simp only [Session.idle, Bool.and_eq_true, Option.isNone_iff_eq_none, Bool.not_eq_true'] at hidle
    have ho := h.orderly hidle.2
    cases f with
    | req r =>
      exact ⟨fun _ => ho.receiveReq hidle.1 hquiet.1 hquiet.2,
        fun hended => absurd (hidle.2.symm.trans hended) (by simp)⟩
    | close sub =>
      exact ⟨fun _ => ho.receiveClose hidle.1 hquiet,
        fun hended => absurd (hidle.2.symm.trans hended) (by simp)⟩
  · exact h

lemma Sound.close : (s.step .close).Sound := by
  simp only [step]
  cases hshut : s.closing with
  | none => exact h
  | some sub =>
    refine ⟨fun hended => (h.orderly hended).close hshut, fun hended => ?_⟩
    have hover := h.isOver hended
    refine ⟨hover.finished, ?_⟩
    intro sub'
    have hview := congrArg Prod.snd (view_removeSubscription s.conn sub' sub)
    refine hview.trans ?_
    split
    · rfl
    · exact hover.empty sub'

lemma Sound.finish (hquiet : s.Unhurried .finish) : (s.step .finish).Sound := by
  simp only [step]
  split
  · refine ⟨fun hended => (nomatch hended), fun _ => ⟨hquiet, ?_⟩⟩
    intro sub
    exact (s.conn.registry.removeConnection_live s.conn.connId _).trans (if_pos rfl)
  · exact h

lemma Sound.other (op : SubOp) : (s.step (.other op)).Sound := by
  simp only [step]
  split
  · exact h
  next hne =>
  refine ⟨fun hended => (h.orderly hended).other hne, fun hended => ?_⟩
  have hover := h.isOver hended
  exact ⟨hover.finished, fun sub => (live_exec_of_ne hne _ sub).trans (hover.empty sub)⟩

lemma Sound.step (hquiet : s.Unhurried m) : (s.step m).Sound := by
  cases m with
  | receive f => exact h.receive hquiet
  | close => exact h.close
  | handler i => exact h.handler i
  | finish => exact h.finish hquiet
  | other op => exact h.other op

end

lemma sound_start (connId : ConnId) (communityId : CommunityId) : (start connId communityId).Sound where
  orderly _ :=
    { apart := nodup_nil
      idle := fun _ _ _ => rfl
      working := fun _ h => (nomatch h)
      closing := fun _ h => (nomatch h)
      room := Nat.zero_le _ }
  isOver h := by cases h

lemma Sound.inOrder (h : s.Sound) : s.InOrder := by
  rintro ⟨hshut, hdone⟩
  refine ⟨fun hended sub => ?_, fun hended => (h.isOver hended).empty⟩
  refine (h.orderly hended).idle sub (busy_eq_false.mpr ?_) (by simp [hshut])
  intro task htask
  rw [hdone task htask]
  simp

/-- **Commands take effect in their order**, in every interleaving in which frames and the end of the
connection wait for the tasks they would overtake. -/
theorem commands_in_order (connId : ConnId) (communityId : CommunityId) (moves : List Move)
    (h : AllSteps step Unhurried (start connId communityId) moves) :
    (run connId communityId moves).InOrder :=
  (h.invariant (I := Sound) (fun _ _ hs hm => hs.step hm) (sound_start connId communityId)).inOrder

def notesReq (sub : SubId) : ReqFrame where
  subId := sub
  filters := [{ kinds := some [1] }]
  auth := .authenticated ⟨⟨1⟩, [], none⟩
  access := ⟨.ok [], fun _ => .ok false⟩

/-- The CLOSE is carried out before the task of the REQ has registered the subscription, which then
stays. -/
theorem closed_subscription_stays : ¬ (run ⟨1⟩ ⟨⟨2⟩⟩ [.receive (.req (notesReq "a")),
    .receive (.close "a"), .close, .handler 0, .handler 0, .handler 0, .handler 0,
    .handler 0]).InOrder := by
  intro h
  refine absurd (congrArg (fun v => v.2.isSome) ((h ?_).1 (by decide +kernel) "a")) (by decide +kernel)
  unfold Settled
  decide +kernel

/-- Two tasks at a time, a CLOSE after the first of them, and a REQ that replaces the second. -/
theorem commands_in_order_two : (run ⟨1⟩ ⟨⟨2⟩⟩ [.receive (.req (notesReq "a")),
    .receive (.req (notesReq "b")), .handler 1, .handler 0, .handler 0, .handler 1, .handler 0,
    .handler 0, .handler 0, .receive (.close "a"), .handler 1, .close, .handler 1, .handler 1,
    .receive (.req (notesReq "b")), .handler 2, .handler 2, .handler 2, .handler 2,
    .handler 2, .finish]).InOrder :=
  commands_in_order _ _ _ (by decide +kernel)

end Session

end Buzz.Relay
