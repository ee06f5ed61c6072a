import Buzz.Acp.RelayTask
import Buzz.Lib.Obligation

/-!
What becomes of dropped events.

An event that the full channel could not take is an obligation.  The state vouches for it as long as
the loss cursor of its subscription stands at or before its time and the dedup set does not know its
id.  It is settled once the event is handed on, its channel is given up, or a `REQ` that reaches back
to it is written.  No path drops an obligation (`keeps_step`).

The write settles it, not the answer: a `REQ` that the relay refuses afterwards has retired the cursor
all the same, and the next one starts at the last event seen.
-/

namespace Buzz.Acp.RelayTask

open Buzz.Core Lib

/-! ### The obligations -/

namespace BgState

def droppedSince (st : BgState) : Sub → Option ℕ
  | .membership => st.membershipDroppedSince
  | .channel channelId => st.channelDroppedSince.lookup channelId

def since (st : BgState) : Sub → Option ℕ
  | .membership => st.membershipSince
  | .channel channelId => st.channelSince channelId

/-- The `since` of the next `REQ` that repeats a subscription. -/
def nextReqSince (st : BgState) (unixNow : ℕ) (sub : Sub) : ℕ := reqSince unixNow (st.since sub)

lemma nextReqSince_le {st : BgState} (h : st.droppedSince sub = some d)
    (unixNow : ℕ) : st.nextReqSince unixNow sub ≤ d := by
  have hsince : ∃ c, st.since sub = some c ∧ c ≤ d := by
    cases sub with
    | membership =>
      change st.membershipDroppedSince = some d at h
      simp only [since, membershipSince, h]
      cases st.membershipLastSeen with
      | none => exact ⟨d, rfl, le_rfl⟩
      | some l => exact ⟨min d l, rfl, min_le_left d l⟩
    | channel channelId =>
      change st.channelDroppedSince.lookup channelId = some d at h
      simp only [since, channelSince, h]
      cases st.lastSeen.lookup channelId with
      | none => exact ⟨d, rfl, le_rfl⟩
      | some l => exact ⟨min l d, rfl, min_le_right l d⟩
  obtain ⟨c, hc, hle⟩ := hsince
  unfold nextReqSince
  rw [hc]
  exact (Nat.sub_le c sinceSkewSecs).trans hle

/-- The two states agree on losses and seen ids. -/
structure SameLoss (s t : BgState) : Prop where
  channel : t.channelDroppedSince = s.channelDroppedSince
  membership : t.membershipDroppedSince = s.membershipDroppedSince
  seen : t.seenIds = s.seenIds

namespace SameLoss

variable {s t u : BgState}

lemma trans (h : SameLoss s t) (h' : SameLoss t u) : SameLoss s u :=
  ⟨h'.channel.trans h.channel, h'.membership.trans h.membership, h'.seen.trans h.seen⟩

lemma droppedSince_eq (h : SameLoss s t) (sub : Sub) : t.droppedSince sub = s.droppedSince sub := by
  cases sub with
  | membership => exact h.membership
  | channel channelId => exact congrArg (AList.lookup channelId) h.channel

end SameLoss

variable (st : BgState)

lemma sameLoss_checkRateGate (now : ℕ) : SameLoss st (st.checkRateGate now).2 := by
  unfold checkRateGate
  split
  · exact ⟨rfl, rfl, rfl⟩
  · split_ifs <;> exact ⟨rfl, rfl, rfl⟩

lemma sameLoss_armGate (r : Reading) (message : String) : SameLoss st (st.armGate r message).2 :=
  ⟨rfl, rfl, rfl⟩

lemma sameLoss_seedSubscribeSince (unixNow : ℕ) (channelId : Uuid) (replaySince : Option ℕ) :
    SameLoss st (st.seedSubscribeSince unixNow channelId replaySince) := by
  unfold seedSubscribeSince
  split <;> exact ⟨rfl, rfl, rfl⟩

end BgState

open BgState

def lossLedger : Ledger Task Entry (Sub × Event) where
  log := Task.log
  raises o b := o = .dropped b.1 b.2
  settles o b :=
    (∃ event, o = .forwarded event ∧ event.id = b.2.id) ∨
    (∃ channelId, b.1 = .channel channelId ∧ o = .unsubscribed channelId) ∨
    ∃ req, o = .wrote b.1 req ∧ req.since ≤ b.2.createdAt
  vouches t b :=
    (∃ d, t.st.droppedSince b.1 = some d ∧ d ≤ b.2.createdAt) ∧
      (t.receiverOpen → t.st.seenIds.contains b.2.id = false)

/-- No obligation is dropped between the two states. -/
abbrev Keeps (t t' : Task) : Prop := lossLedger.Extends t t'

/-! ### Quiet pieces -/

namespace Task

variable {t : Task} {t' : Task} {st : BgState} {event : Event} {r : Reading} (i : Input)

lemma vouches_congr (h : SameLoss t.st t'.st)
    (hopen : t'.receiverOpen → t.receiverOpen) (hb : lossLedger.vouches t b) :
    lossLedger.vouches t' b := by
  obtain ⟨⟨d, hd, hle⟩, hseen⟩ := hb
  refine ⟨⟨d, ?_, hle⟩, ?_⟩
  · rw [h.droppedSince_eq]
    exact hd
  intro hopen'
  rw [h.seen]
  exact hseen (hopen hopen')

lemma keeps_of_sameLoss (h : SameLoss t.st t'.st) (hlog : t'.log = t.log)
    (hopen : t'.receiverOpen → t.receiverOpen) : Keeps t t' :=
  .of_quiet hlog fun _ hb => vouches_congr h hopen hb

lemma keeps_setSt (h : SameLoss t.st st) : Keeps t (t.setSt st) :=
  keeps_of_sameLoss h rfl id

lemma keeps_same (h : (st.channelDroppedSince, st.membershipDroppedSince, st.seenIds) =
    (t.st.channelDroppedSince, t.st.membershipDroppedSince, t.st.seenIds)) : Keeps t (t.setSt st) := by
  obtain ⟨hchan, hrest⟩ := Prod.mk.inj h
  exact keeps_setSt ⟨hchan, congrArg Prod.fst hrest, congrArg Prod.snd hrest⟩

lemma keeps_wrote (h : SameLoss t.st st) (sub : Sub) (req : Req) :
    Keeps t ((t.setSt st).note (.wrote sub req)) := by
  refine .of_entry rfl ?_ ?_
  · intro b hb
    exact .inr (vouches_congr h id hb)
  · rintro b ⟨⟩

lemma keeps_of_eq {α : Type} {x : α × Task} {a : α} (hx : x = (a, t'))
    (h : Keeps t x.2) : Keeps t t' := by
  subst hx
  exact h

/-! ### The entries -/

lemma keeps_retire {req : Req} (sub : Sub) (unixNow : ℕ)
    (hreq : req.since = t.st.nextReqSince unixNow sub)
    (hoth : ∀ sub' ≠ sub, st.droppedSince sub' = t.st.droppedSince sub')
    (hseen : st.seenIds = t.st.seenIds) : Keeps t ((t.setSt st).note (.wrote sub req)) := by
  refine .of_entry rfl ?_ ?_
  · rintro ⟨sub', event⟩ ⟨⟨d, hd, hle⟩, hnew⟩
    by_cases hsub : sub' = sub
    · subst hsub
      left
      refine .inr (.inr ⟨req, rfl, ?_⟩)
      rw [hreq]
      exact (nextReqSince_le hd unixNow).trans hle
    right
    refine ⟨⟨d, ?_, hle⟩, ?_⟩
    · exact (hoth sub' hsub).trans hd
    intro hopen
    change st.seenIds.contains event.id = false
    rw [hseen]
    exact hnew hopen
  · rintro b ⟨⟩

lemma keeps_replayChannel (r : Reading) (channelId : Uuid) (filter : ChannelFilter) :
    Keeps t (t.replayChannel r channelId filter).2 := by
  unfold replayChannel
  split_ifs
  · refine keeps_retire (.channel channelId) r.unixNow rfl ?_ rfl
    intro sub hne
    cases sub with
    | membership => rfl
    | channel channelId' =>
      refine AList.lookup_erase_ne ?_
      rintro rfl
      exact hne rfl
  · exact .refl t

lemma keeps_replayMembership (r : Reading) : Keeps t (t.replayMembership r).2 := by
  unfold replayMembership
  split_ifs
  · refine keeps_retire .membership r.unixNow rfl ?_ rfl
    intro sub hne
    cases sub with
    | membership => exact absurd rfl hne
    | channel channelId => rfl
  · exact .refl t

lemma keeps_dropChannel (channelId : Uuid) : Keeps t (t.dropChannel channelId) := by
  refine .of_entry rfl ?_ ?_
  · rintro ⟨sub, event⟩ ⟨⟨d, hd, hle⟩, hnew⟩
    by_cases hsub : sub = .channel channelId
    · exact .inl (.inr (.inl ⟨channelId, hsub, rfl⟩))
    right
    refine ⟨⟨d, ?_, hle⟩, hnew⟩
    rw [← hd]
    cases sub with
    | membership => rfl
    | channel channelId' =>
      refine AList.lookup_erase_ne ?_
      rintro rfl
      exact hsub rfl
  · rintro b ⟨⟩

lemma keeps_forwarded (hlog : t'.log = t.log ++ [.forwarded event])
    (hloss : ∀ sub, t'.st.droppedSince sub = t.st.droppedSince sub)
    (hseen : t'.st.seenIds = (t.st.seenIds.insert event.id).2)
    (hopen : t'.receiverOpen = t.receiverOpen) : Keeps t t' := by
  refine .of_entry hlog ?_ ?_
  · rintro ⟨sub, lost⟩ ⟨⟨d, hd, hle⟩, hnew⟩
    by_cases hid : lost.id = event.id
    · exact .inl (.inl ⟨event, rfl, hid.symm⟩)
    right
    refine ⟨⟨d, (hloss sub).trans hd, hle⟩, ?_⟩
    intro hopen'
    rw [hseen]
    exact TwoGenDedup.contains_insert hid (hnew (hopen ▸ hopen'))
  · rintro b ⟨⟩

/-- An event dropped moves the cursor of its subscription back, if at all, and is unknown again. -/
lemma keeps_dropped (hlog : t'.log = t.log ++ [.dropped sub event])
    (hself : ∃ d, t'.st.droppedSince sub = some d ∧ d ≤ event.createdAt ∧
      ∀ d', t.st.droppedSince sub = some d' → d ≤ d')
    (hoth : ∀ sub' ≠ sub, t'.st.droppedSince sub' = t.st.droppedSince sub')
    (hseen : t'.st.seenIds = ((t.st.seenIds.insert event.id).2).remove event.id)
    (hopen : t'.receiverOpen = t.receiverOpen) : Keeps t t' := by
  obtain ⟨c, hc, hcle, hcmin⟩ := hself
  refine .of_entry hlog ?_ ?_
  · rintro ⟨sub', lost⟩ ⟨⟨d, hd, hle⟩, hnew⟩
    right
    refine ⟨?_, ?_⟩
    · by_cases hsub : sub' = sub
      · subst hsub
        exact ⟨c, hc, (hcmin d hd).trans hle⟩
      · exact ⟨d, (hoth sub' hsub).trans hd, hle⟩
    intro hopen'
    rw [hseen, TwoGenDedup.contains_remove]
    by_cases hid : lost.id = event.id
    · simp [hid]
    · simp [TwoGenDedup.contains_insert hid (hnew (hopen ▸ hopen'))]
  rintro ⟨sub', lost⟩ heq
  obtain ⟨rfl, rfl⟩ : sub = sub' ∧ event = lost := by simpa [lossLedger] using heq
  refine ⟨⟨c, hc, hcle⟩, ?_⟩
  intro _
  rw [hseen, TwoGenDedup.contains_remove]
  simp

/-! ### Commands -/

lemma keeps_applyCommandToState (r : Reading) (cmd : RelayCommand) :
    Keeps t (t.applyCommandToState r cmd) := by
  cases cmd with
  | subscribe channelId filter replaySince =>
    refine keeps_setSt (SameLoss.trans ?_ (sameLoss_seedSubscribeSince _ _ channelId replaySince))
    exact ⟨rfl, rfl, rfl⟩
  | unsubscribe channelId => exact keeps_dropChannel channelId
  | subscribeMembership | subscribeObserverControls | setStartupWatermark ts =>
    exact keeps_same rfl
  | publishEvent | reconnect | shutdown => exact .refl t

lemma keeps_subscribeLive (r : Reading) (channelId : Uuid) (filter : ChannelFilter)
    (replaySince : Option ℕ) : Keeps t (t.subscribeLive r channelId filter replaySince).2 := by
  have hseed := sameLoss_seedSubscribeSince t.st r.unixNow channelId replaySince
  unfold subscribeLive
  split_ifs
  · exact keeps_wrote (hseed.trans ⟨rfl, rfl, rfl⟩) (.channel channelId) _
  · exact (keeps_setSt hseed).trans (keeps_applyCommandToState r _)

lemma keeps_subscribeMembershipLive (r : Reading) : Keeps t (t.subscribeMembershipLive r).2 := by
  unfold subscribeMembershipLive
  split_ifs
  · exact keeps_wrote ⟨rfl, rfl, rfl⟩ .membership _
  · exact keeps_same rfl

lemma keeps_checkRateGate (h : t.st.checkRateGate now = (gate, st)) : Keeps t (t.setSt st) := by
  have hst : st = (t.st.checkRateGate now).2 := by rw [h]
  rw [hst]
  exact keeps_setSt (sameLoss_checkRateGate t.st now)

lemma keeps_gated {β : Type} {closed : ℕ → BgState → β × Task}
    {opened : BgState → β × Task} (hclosed : ∀ retryAfter st, Keeps (t.setSt st) (closed retryAfter st).2)
    (hopened : ∀ st, Keeps (t.setSt st) (opened st).2) :
    Keeps t (match t.st.checkRateGate now with
      | (some retryAfter, st) => closed retryAfter st
      | (none, st) => opened st).2 := by
  split
  · next hgate => exact (keeps_checkRateGate hgate).trans (hclosed _ _)
  · next hgate => exact (keeps_checkRateGate hgate).trans (hopened _)

lemma keeps_sent {β : Type} {p : Bool × Task} {done failed : Task → β × Task} (hp : Keeps t p.2)
    (hdone : ∀ t, Keeps t (done t).2) (hfail : ∀ t, Keeps t (failed t).2) :
    Keeps t (match p with
      | (true, t) => done t
      | (false, t) => failed t).2 := by
  split
  · exact hp.trans (hdone _)
  · exact hp.trans (hfail _)

lemma keeps_executeConnectedCommand (r : Reading) (cmd : RelayCommand) :
    Keeps t (t.executeConnectedCommand r cmd).2 := by
  cases cmd with
  | subscribe channelId filter replaySince =>
    refine keeps_gated (fun _ _ => ?_) fun _ => keeps_subscribeLive r _ _ _
    exact (keeps_applyCommandToState r _).trans (keeps_same rfl)
  | unsubscribe channelId => exact keeps_dropChannel channelId
  | subscribeMembership =>
    have hact : Keeps t (t.setSt { t.st with membershipSubActive := true }) := keeps_same rfl
    refine hact.trans (keeps_gated (fun _ _ => ?_) fun _ => keeps_subscribeMembershipLive r)
    exact keeps_same rfl
  | subscribeObserverControls =>
    have hact : Keeps t (t.setSt { t.st with observerControlSubActive := true }) := keeps_same rfl
    refine hact.trans (keeps_gated (fun _ _ => ?_) fun _ => ?_)
    all_goals exact keeps_same rfl
  | publishEvent => exact keeps_setSt (sameLoss_checkRateGate t.st r.now)
  | setStartupWatermark ts => exact keeps_same rfl
  | reconnect | shutdown => exact .refl t

/-! ### Frames -/

lemma recordEvent_eq_true (h : st.recordEvent channelId event = (true, st')) :
    st'.seenIds = (st.seenIds.insert event.id).2 ∧
      st'.channelDroppedSince = st.channelDroppedSince ∧
      st'.membershipDroppedSince = st.membershipDroppedSince := by
  unfold BgState.recordEvent at h
  split at h
  · cases h
  next seenIds hseen =>
  cases h
  exact ⟨by rw [hseen], rfl, rfl⟩

lemma keeps_closed (hclosed : t.sendOutcome = .closed)
    (hloss : ∀ sub, st.droppedSince sub = t.st.droppedSince sub) : Keeps t (t.setSt st) := by
  have hopen : t.receiverOpen = false := by
    by_contra h
    simp only [sendOutcome, h, if_false] at hclosed
    split_ifs at hclosed
  refine .of_quiet rfl ?_
  rintro ⟨sub, lost⟩ ⟨⟨d, hd, hle⟩, -⟩
  refine ⟨⟨d, (hloss sub).trans hd, hle⟩, ?_⟩
  intro h
  exact absurd h (by simp [setSt, hopen])

lemma cursor_le (cursor : Option ℕ) (ts : ℕ) : (cursor.elim ts fun d => min d ts) ≤ ts ∧
      ∀ d, cursor = some d → (cursor.elim ts fun d => min d ts) ≤ d := by
  cases cursor with
  | none => exact ⟨le_rfl, fun _ h => nomatch h⟩
  | some d =>
    refine ⟨min_le_right d ts, ?_⟩
    rintro _ ⟨⟩
    exact min_le_left d ts

lemma keeps_handleChannelEvent (channelId : Uuid) (event : Event) :
    Keeps t (t.handleChannelEvent channelId event).2 := by
  unfold handleChannelEvent
  split
  · exact .refl t
  next st hrecord =>
  obtain ⟨hseen, hchan, hmem⟩ := recordEvent_eq_true hrecord
  have hloss : ∀ sub, st.droppedSince sub = t.st.droppedSince sub := by
    intro sub
    cases sub with
    | membership => exact hmem
    | channel channelId => exact congrArg (AList.lookup channelId) hchan
  split
  · exact keeps_forwarded rfl hloss hseen rfl
  · refine keeps_dropped rfl ?_ ?_ ?_ rfl
    · rw [← hloss]
      refine ⟨_, AList.lookup_insert _, ?_⟩
      exact cursor_le (st.channelDroppedSince.lookup channelId) event.createdAt
    · intro sub hne
      rw [← hloss]
      cases sub with
      | membership => rfl
      | channel channelId' =>
        refine AList.lookup_insert_ne ?_
        rintro rfl
        exact hne rfl
    · rw [← hseen]
      rfl
  · next hclosed => exact keeps_closed hclosed hloss

lemma keeps_handleMembershipEvent (event : Event) : Keeps t (t.handleMembershipEvent event).2 := by
  unfold handleMembershipEvent
  split
  · exact .refl t
  split
  · exact .refl t
  next seenIds hins =>
  have hseen : seenIds = (t.st.seenIds.insert event.id).2 := by rw [hins]
  split
  · refine keeps_forwarded rfl ?_ hseen rfl
    intro sub
    cases sub <;> rfl
  · refine keeps_dropped rfl ?_ ?_ ?_ rfl
    · exact ⟨_, rfl, cursor_le t.st.membershipDroppedSince event.createdAt⟩
    · intro sub hne
      cases sub with
      | membership => exact absurd rfl hne
      | channel channelId => rfl
    · rw [← hseen]
      rfl
  next hclosed =>
  refine keeps_closed hclosed ?_
  intro sub
  cases sub <;> rfl

section

variable (r : Reading)

lemma keeps_parkRateLimited (subscriptionId message : String) :
    Keeps t (t.parkRateLimited r subscriptionId message) := by
  have harmed := sameLoss_armGate t.st r message
  simp only [parkRateLimited]
  split
  · exact keeps_setSt (harmed.trans ⟨rfl, rfl, rfl⟩)
  split_ifs
  · exact keeps_setSt (harmed.trans ⟨rfl, rfl, rfl⟩)
  · exact keeps_setSt (harmed.trans ⟨rfl, rfl, rfl⟩)
  · exact keeps_setSt harmed

lemma keeps_resubscribeClosed (subscriptionId : String) :
    Keeps t (t.resubscribeClosed r subscriptionId).2 := by
  unfold resubscribeClosed
  split_ifs
  · exact keeps_same rfl
  · exact .refl t
  · exact keeps_replayMembership r
  split
  · exact .refl t
  split_ifs
  · exact .refl t
  split
  · exact .refl t
  · exact keeps_sent (keeps_replayChannel r _ _) (fun _ => keeps_same rfl) .refl

lemma keeps_handleClosed (subscriptionId message : String) :
    Keeps t (t.handleClosed r subscriptionId message).2 := by
  unfold handleClosed
  split
  · exact keeps_dropChannel _
  split_ifs
  · exact keeps_parkRateLimited r subscriptionId message
  · exact .refl t
  · exact keeps_resubscribeClosed r subscriptionId

lemma keeps_handleMessage (msg : RelayMessage) : Keeps t (t.handleMessage r msg).2 := by
  cases msg with
  | event subscriptionId event verified =>
    simp only [handleMessage, handleEvent]
    split_ifs
    · exact .refl t
    · exact keeps_handleMembershipEvent event
    · split
      · exact keeps_handleChannelEvent _ event
      · exact .refl t
    · exact .refl t
  | eose | auth => exact .refl t
  | notice message =>
    simp only [handleMessage]
    split_ifs
    · exact keeps_setSt (sameLoss_armGate t.st r message)
    · exact .refl t
  | closed subscriptionId message => exact keeps_handleClosed r subscriptionId message
  | ok eventId accepted message =>
    simp only [handleMessage]
    split_ifs
    · exact .refl t
    · exact keeps_setSt (sameLoss_armGate t.st r message)
    · exact .refl t

lemma keeps_handleWsMessage (f : WsFrame) : Keeps t (t.handleWsMessage r f).2 := by
  cases f with
  | text msg => exact keeps_handleMessage r msg
  | ping | pong | close | ignored => exact .refl t

end

lemma keeps_around (hst : t'.st = t.st) (hlog : t'.log = t.log)
    (hopen : t'.receiverOpen → t.receiverOpen) : Keeps t t' := by
  refine keeps_of_sameLoss ?_ hlog hopen
  rw [hst]
  exact ⟨rfl, rfl, rfl⟩

lemma keeps_handleBuffered (r : Reading) (msg : RelayMessage) :
    Keeps t (t.handleBuffered r msg).2 := by
  unfold handleBuffered
  split
  · exact .refl t
  · exact keeps_handleMessage r msg

lemma keeps_processHandshakeBuffer (buffer : List (RelayMessage × Reading × ℕ)) :
    Keeps t (t.processHandshakeBuffer buffer).2 := by
  induction buffer generalizing t with
  | nil => exact .refl t
  | cons entry rest ih =>
    obtain ⟨msg, r, taken⟩ := entry
    have htaken : Keeps t (t.take taken) := keeps_around rfl rfl id
    have hmsg := htaken.trans (keeps_handleBuffered r msg)
    rw [processHandshakeBuffer]
    split
    · next hhandled => exact (keeps_of_eq hhandled hmsg).trans ih
    · next hhandled => exact keeps_of_eq hhandled hmsg

/-! ### Parked requests and recovery -/

lemma keeps_drainPendingChannel (r : Reading) (channelId : Uuid) :
    Keeps t (t.drainPendingChannel r channelId).2 := by
  refine keeps_gated (fun _ _ => keeps_same rfl) fun st => ?_
  dsimp only
  split
  · exact keeps_same rfl
  · exact keeps_sent (keeps_replayChannel r _ _) (fun _ => keeps_same rfl) fun _ => keeps_same rfl

lemma keeps_drainRetryChannel (r : Reading) (channelId : Uuid) :
    Keeps t (t.drainRetryChannel r channelId).2 := by
  refine keeps_gated (fun _ _ => keeps_same rfl) fun st => ?_
  dsimp only
  split
  · exact keeps_same rfl
  · exact keeps_sent (keeps_replayChannel r _ _) (fun _ => keeps_same rfl) .refl

lemma keeps_drainChannels {drain : Task → Reading → Uuid → Bool × Task} {r : Uuid → Reading}
    (hdrain : ∀ t r channelId, Keeps t (drain t r channelId).2) (channels : List Uuid) :
    Keeps t (drainChannels drain r t channels).2 := by
  induction channels generalizing t with
  | nil => exact .refl t
  | cons channelId rest ih => exact (hdrain t (r channelId) channelId).trans ih

lemma keeps_drainMembership (r : Reading) (budget : ℕ) :
    Keeps t (t.drainMembership r budget).2 := by
  unfold drainMembership
  split_ifs
  · exact keeps_sent (keeps_replayMembership r) (fun _ => keeps_same rfl) .refl
  · exact .refl t

lemma keeps_drainObserver (r : Reading) (budget : ℕ) : Keeps t (t.drainObserver r budget).2 := by
  unfold drainObserver
  split_ifs
  · exact keeps_same rfl
  · exact .refl t

lemma keeps_drainControl (i : DrainReadings) : Keeps t (t.drainControl i).2 := by
  refine keeps_gated (fun _ _ => .refl _) fun _ => ?_
  exact (keeps_drainMembership i.membership drainBudgetPerIter).trans
    (keeps_drainObserver i.observer _)

lemma keeps_drain (i : DrainReadings) : Keeps t (t.drain i) := by
  refine (keeps_drainControl i).trans ?_
  refine Ledger.Extends.trans ?_
    (keeps_drainChannels (fun _ r channelId => keeps_drainRetryChannel r channelId) _)
  exact keeps_drainChannels (fun _ r channelId => keeps_drainPendingChannel r channelId) _

lemma keeps_recoverSub (r : Reading) (sub : Sub) : Keeps t (t.recoverSub r sub) := by
  cases sub with
  | membership => exact keeps_replayMembership r
  | channel channelId =>
    simp only [recoverSub]
    split
    · exact .refl t
    · exact keeps_replayChannel r channelId _

lemma keeps_recoverOne (r : Reading) : Keeps t (t.recoverOne r) := by
  unfold recoverOne
  split
  · split
    · next hgate => exact keeps_checkRateGate hgate
    next st hgate =>
    split
    · exact keeps_checkRateGate hgate
    next sub hnext =>
    have hnoted : Keeps (t.setSt st) (t.setSt (st.noteAttempt sub r.now)) := keeps_same rfl
    refine ((keeps_checkRateGate hgate).trans hnoted).trans ?_
    exact (keeps_recoverSub r sub).trans (keeps_same rfl)
  · exact .refl t

/-! ### Reconnecting -/

lemma keeps_retainDeferred (deferred : List (RelayCommand × Reading)) :
    Keeps t (t.retainDeferred deferred) := by
  refine Ledger.Extends.foldl ?_ t deferred
  intro t c
  exact keeps_applyCommandToState c.2 c.1

lemma keeps_of_paceCommand (h : t.paceCommand r cmd = (paced, t')) : Keeps t t' := by
  unfold paceCommand at h
  split at h
  · cases h
    exact keeps_checkRateGate rfl
  · cases h
    exact .refl t

lemma keeps_of_executed {cmd : RelayCommand} {ok : Bool}
    (h : t.executeConnectedCommand r cmd = (ok, t')) : Keeps t t' :=
  keeps_of_eq h (keeps_executeConnectedCommand r cmd)

lemma keeps_drainCommands (sendFailed : Bool) (cmds : List (RelayCommand × Reading)) :
    Keeps t (t.drainCommands sendFailed cmds).2 := by
  fun_induction drainCommands t sendFailed cmds with
  | case1 | case2 => exact .refl _
  | case3 _ _ _ _ ih => exact ih
  | case4 t cmd r rest _ _ ih => exact (keeps_applyCommandToState r cmd).trans ih
  | case5 t _ cmd r rest _ _ _ _ _ hpace _ hexec ih =>
    exact ((keeps_of_paceCommand hpace).trans (keeps_of_executed hexec)).trans ih
  | case6 t _ cmd r rest _ _ _ _ _ hpace _ hexec =>
    exact (keeps_of_paceCommand hpace).trans (keeps_of_executed hexec)
  | case7 t _ cmd r rest _ _ _ _ _ hpace _ hexec _ ih =>
    exact ((keeps_of_paceCommand hpace).trans (keeps_of_executed hexec)).trans ih

lemma keeps_resubscribeChannel (r : Reading) (channelId : Uuid) :
    Keeps t (t.resubscribeChannel r channelId).2 := by
  refine keeps_gated (fun _ _ => keeps_same rfl) fun st => ?_
  dsimp only
  split
  · exact keeps_same rfl
  · exact keeps_sent (keeps_replayChannel r _ _) .refl fun _ => keeps_same rfl

lemma keeps_resubscribeChannels (r : Uuid → Reading) (channels : List Uuid) :
    Keeps t (resubscribeChannels r t channels).2 := by
  induction channels generalizing t with
  | nil => exact .refl t
  | cons channelId rest ih =>
    refine (keeps_resubscribeChannel (r channelId) channelId).trans ?_
    rw [resubscribeChannels]
    split_ifs
    · exact .refl _
    · exact ih

lemma keeps_resubscribeMembership (r : Reading) (deferred : List (RelayCommand × Reading)) :
    Keeps t (t.resubscribeMembership r deferred).2 := by
  unfold resubscribeMembership
  split_ifs
  · refine keeps_gated (fun _ _ => keeps_same rfl) fun st => ?_
    dsimp only
    split_ifs
    · exact .refl _
    · exact keeps_sent (keeps_replayMembership r) (fun _ => keeps_same rfl)
        fun _ => keeps_retainDeferred deferred
  · exact .refl t

lemma keeps_resubscribeObserver (r : Reading) (deferred : List (RelayCommand × Reading)) :
    Keeps t (t.resubscribeObserver r deferred).2 := by
  unfold resubscribeObserver
  split
  · refine keeps_gated (fun _ _ => keeps_same rfl) fun st => ?_
    split_ifs
    · exact .refl _
    · exact keeps_same rfl
    · exact keeps_retainDeferred deferred
  · exact .refl t

lemma keeps_andThen (hx : Keeps t x.2) (hf : ∀ t, Keeps t (f t).2) : Keeps t (andThen x f).2 := by
  unfold andThen
  split
  · exact hx.trans (hf _)
  · exact hx

lemma keeps_resubscribeAfterReconnect (i : ResubscribeReadings) :
    Keeps t (t.resubscribeAfterReconnect i).2 := by
  have hclear : Keeps t (t.setSt { t.st with rateLimitedPending := ∅, resubscribeRetry := ∅ }) :=
    keeps_same rfl
  refine hclear.trans ?_
  unfold resubscribeAfterReconnect
  dsimp only
  split
  · next hloop => exact keeps_of_eq hloop (keeps_resubscribeChannels i.channels _)
  next hloop =>
  refine (keeps_of_eq hloop (keeps_resubscribeChannels i.channels _)).trans ?_
  refine keeps_andThen (keeps_resubscribeMembership i.membership i.deferred) ?_
  intro t
  refine keeps_andThen (keeps_resubscribeObserver i.observer i.deferred) ?_
  intro t
  exact keeps_drainCommands false i.deferred

lemma keeps_phase (phase : Phase) : Keeps t { t with phase := phase } := keeps_around rfl rfl id

lemma keeps_connected (c : Connection) : Keeps t (t.connected c) := by
  have hgen : Keeps t
      (t.setSt { t.st with connectionGeneration := t.st.connectionGeneration + 1 }) := keeps_same rfl
  refine hgen.trans ?_
  unfold connected
  dsimp only
  split
  · next hbuf => exact keeps_of_eq hbuf (keeps_processHandshakeBuffer c.handshake)
  next hbuf =>
  refine (keeps_of_eq hbuf (keeps_processHandshakeBuffer c.handshake)).trans ?_
  split
  · next hresub => exact keeps_of_eq hresub (keeps_resubscribeAfterReconnect c.resubscribe)
  · next hresub =>
    exact (keeps_of_eq hresub (keeps_resubscribeAfterReconnect c.resubscribe)).trans (keeps_phase _)
  next hresub =>
  refine (keeps_of_eq hresub (keeps_resubscribeAfterReconnect c.resubscribe)).trans ?_
  split
  all_goals next hdrain => exact (keeps_of_eq hdrain (keeps_drainCommands false c.commands)).trans (keeps_phase _)

/-! ### Runs -/

lemma keeps_socketLost : Keeps t t.socketLost := by
  unfold socketLost signalLoss
  split_ifs
  all_goals exact keeps_around rfl rfl id

lemma keeps_stepUp : Keeps t (t.stepUp i) := by
  unfold stepUp
  split
  · exact keeps_drain _
  · exact keeps_recoverOne _
  · next f r =>
    split
    · next hframe => exact keeps_of_eq hframe (keeps_handleWsMessage r f)
    · next hframe => exact (keeps_of_eq hframe (keeps_handleWsMessage r f)).trans keeps_socketLost
  · exact keeps_phase _
  · exact keeps_phase _
  · split
    · next hexec => exact keeps_of_executed hexec
    · next hexec => exact (keeps_of_executed hexec).trans keeps_socketLost
  · exact keeps_socketLost
  all_goals exact .refl t

lemma keeps_stepDown : Keeps t (t.stepDown i) := by
  unfold stepDown
  split
  · exact keeps_phase _
  · exact keeps_applyCommandToState _ _
  · exact keeps_connected _
  all_goals exact .refl t

lemma keeps_step : Keeps t (t.step i) := by
  unfold step
  split
  · exact keeps_around rfl rfl id
  · exact keeps_around rfl rfl fun h => nomatch h
  split
  · exact keeps_stepUp _
  · exact keeps_stepDown _
  · exact .refl t

lemma keeps_start (agentPubkeyHex : String) (maxCapacity : ℕ)
    (handshake : List (RelayMessage × Reading × ℕ)) :
    Keeps (fresh agentPubkeyHex maxCapacity) (start agentPubkeyHex maxCapacity handshake) := by
  unfold start
  split
  · next hbuf => exact keeps_of_eq hbuf (keeps_processHandshakeBuffer handshake)
  · next hbuf =>
    exact (keeps_of_eq hbuf (keeps_processHandshakeBuffer handshake)).trans keeps_socketLost

/-! ### What becomes of a dropped event -/

/-- The next `REQ` of the subscription reaches back to the event, and the dedup set lets it through
as long as there is a receiver. -/
structure Replayable (t : Task) (sub : Sub) (event : Event) : Prop where
  since : ∀ unixNow, t.st.nextReqSince unixNow sub ≤ event.createdAt
  unseen : t.receiverOpen → t.st.seenIds.contains event.id = false

/-- Since it was dropped the event has been handed on, or its channel given up. -/
def Resolved (sub : Sub) (event : Event) (after : List Entry) : Prop :=
  (∃ e, .forwarded e ∈ after ∧ e.id = event.id) ∨
    ∃ channelId, sub = .channel channelId ∧ .unsubscribed channelId ∈ after

/-- A `REQ` that reaches back to the event has been written since it was dropped. -/
def Attempted (sub : Sub) (event : Event) (after : List Entry) : Prop :=
  ∃ req, .wrote sub req ∈ after ∧ req.since ≤ event.createdAt

/-- Every dropped event is resolved or replayable. -/
def NeverLost (t : Task) : Prop :=
  ∀ before sub event after, t.log = before ++ .dropped sub event :: after →
    Resolved sub event after ∨ t.Replayable sub event

/-- Every dropped event is resolved or replayable, or its replay has been attempted. -/
def NeverForgotten (t : Task) : Prop :=
  ∀ before sub event after, t.log = before ++ .dropped sub event :: after →
    Resolved sub event after ∨ Attempted sub event after ∨ t.Replayable sub event

/-- **No loss is forgotten.** In every run, an event dropped for want of space is at each later
moment handed on, or its channel given up, or a `REQ` that reaches back to it has been written, or
the next one will reach back to it and the dedup set lets it through. -/
theorem drop_never_forgotten (agentPubkeyHex : String) (maxCapacity : ℕ)
    (handshake : List (RelayMessage × Reading × ℕ)) (inputs : List Input) :
    ((start agentPubkeyHex maxCapacity handshake).run inputs).NeverForgotten := by
  have hrun : Keeps (fresh agentPubkeyHex maxCapacity)
      ((start agentPubkeyHex maxCapacity handshake).run inputs) :=
    (keeps_start agentPubkeyHex maxCapacity handshake).trans
      (.foldl (fun _ i => keeps_step i) _ inputs)
  have hnone : lossLedger.Met (lossLedger.log (fresh agentPubkeyHex maxCapacity))
      (fresh agentPubkeyHex maxCapacity) := by
    intro before o after b heq
    have hlength := congrArg List.length heq
    simp [lossLedger, fresh] at hlength
  intro before sub event after heq
  rcases hrun.met hnone before (.dropped sub event) after (sub, event) heq rfl with
    ⟨o, ho, hsettled⟩ | ⟨⟨d, hd, hle⟩, hunseen⟩
  · obtain ⟨e, rfl, hid⟩ | ⟨channelId, hsub, rfl⟩ | ⟨req, rfl, hsince⟩ := hsettled
    · exact .inl (.inl ⟨e, ho, hid⟩)
    · exact .inl (.inr ⟨channelId, hsub, ho⟩)
    · exact .inr (.inl ⟨req, ho, hsince⟩)
  · exact .inr (.inr ⟨fun unixNow => (nextReqSince_le hd unixNow).trans hle, hunseen⟩)

/-! ### A replay that is refused -/

def news : Uuid := ⟨7⟩

def newsFilter : ChannelFilter := ⟨none, false⟩

def newsEvent (id : ℕ) (createdAt : ℕ) : Event := ⟨⟨BitVec.ofNat 256 id⟩, ⟨1⟩, createdAt, 9, [], ""⟩

def reading (now : ℕ) : Reading := ⟨now, now, 2000, id, true, true, false⟩

def refusedReplay : List Input :=
  [.command (.subscribe news newsFilter (some 500)) (reading 0),
   .frame (.text (.event (channelSubId news) (newsEvent 1 1000) true)) (reading 1),
   .frame (.text (.event (channelSubId news) (newsEvent 2 900) true)) (reading 2),
   .receive,
   .recover (reading 3),
   .frame (.text (.closed (channelSubId news) "rate-limited: retry in 30s")) (reading 4)]

/-- The dropped event is of the time 900.  The refused `REQ` reached back to it, the next one starts
at 995. -/
theorem refused_replay_forgets :
    ¬ ((start "agent" 1 []).run refusedReplay).NeverLost := by
  intro hnever
  have hlog : ((start "agent" 1 []).run refusedReplay).log =
      [.wrote (.channel news) (channelReq "agent" 2000 news (some 500) newsFilter),
       .forwarded (newsEvent 1 1000)] ++ .dropped (.channel news) (newsEvent 2 900) ::
      [.wrote (.channel news) (channelReq "agent" 2000 news (some 900) newsFilter)] := by
    decide +kernel
  have hnext : ((start "agent" 1 []).run refusedReplay).st.nextReqSince 0 (.channel news) = 995 := by
    decide +kernel
  rcases hnever _ _ _ _ hlog with (⟨e, he, _⟩ | ⟨channelId, _, hgone⟩) | hreplay
  · simp at he
  · simp at hgone
  have hsince := hreplay.since 0
  exact absurd hsince (by decide)

end Task

end Buzz.Acp.RelayTask
