import Buzz.Core.Kind
import Buzz.Relay.FanOutIndex

/-!
Live delivery of events.

Three paths deliver an event to the connections of a pod: the dispatch of an event the pod has
stored, the fan-out of a relay-local event, and the fan-out of an event another pod has published.
All three take the subscriptions the registry selects and pass them through
`filterFanoutByAccess`; the dispatch path alone adds a gate for events that are private to one
owner.  For channel-less events the module compares what each path sends with what a stored read
would show (`eventVisibleToReader`), and states exactly when the two agree (`GatesAgree`).
-/

namespace Buzz.Relay

open Buzz.Core Lib

/-! ### Connections and look-ups -/

/-- What the connection manager keeps of a connection. -/
structure ConnEntry where
  communityId : CommunityId
  authenticatedPubkey : Option PublicKey

abbrev ConnectionManager := Table ConnId ConnEntry

variable (m : ConnectionManager) (st : FanOutState) (reads : AccessReads) (c : CommunityId)

def communityForConn (conn : ConnId) : Option CommunityId :=
  (m.lookup conn).map ConnEntry.communityId

def pubkeyForConn (conn : ConnId) : Option PublicKey :=
  (m.lookup conn).bind ConnEntry.authenticatedPubkey

/-- A visibility that was read earlier in the request, with the channel it was read for. -/
structure ThreadedChannelVisibility where
  communityId : CommunityId
  channelId : Uuid
  visibility : String

/-- The answers of the look-ups a fan-out awaits. -/
structure AccessReads where
  channelVisibility : CommunityId → Uuid → Except String String
  isMember : CommunityId → Uuid → PublicKey → Except String Bool

/-! ### The access filter -/

/-- The visibility a fan-out goes by: the threaded one, if it is of this channel. -/
def fanoutVisibility (ch : Uuid)
    (threaded : Option ThreadedChannelVisibility) : Except String String :=
  match threaded with
  | some t =>
    if t.communityId = c ∧ t.channelId = ch then .ok t.visibility else reads.channelVisibility c ch
  | none => reads.channelVisibility c ch

/-- The answer of a membership look-up keeps a recipient; an error does not. -/
def keepsMember (answer : Except String Bool) : Bool :=
  match answer with
  | .ok member => member
  | .error _ => false

def filterFanoutByAccess (ev : StoredEvent) (hits : List (ConnId × SubId))
    (threaded : Option ThreadedChannelVisibility) : List (ConnId × SubId) :=
  let author := ev.event.pubkey
  let hits := hits.filter fun x => communityForConn m x.1 = some c
  let hits :=
    if authorOnlyKinds.contains (eventKindU32 ev.event) then
      hits.filter fun x => (pubkeyForConn m x.1).any fun pk => pk = author
    else hits
  let hits :=
    if isSharedGatedKind (eventKindU32 ev.event) then
      hits.filter fun x =>
        match pubkeyForConn m x.1 with
        | none => false
        | some pk => if pk = author then true else !isUnsharedGatedEvent ev.event pk
    else hits
  match ev.channelId with
  | none => hits
  | some ch =>
    match fanoutVisibility reads c ch threaded with
    | .error _ => []
    | .ok v =>
      if v ≠ "private" then hits
      else
        hits.filter fun x =>
          match pubkeyForConn m x.1 with
          | none => false
          | some pk => keepsMember (reads.isMember c ch pk)

/-! ### The three paths -/

/-- The pod's state that live delivery reads: the registry, the connections and the events this pod
has delivered in-process and will see again. -/
structure FanOutState where
  registry : SubscriptionRegistry
  conns : ConnectionManager
  localEventIds : List (CommunityId × EventId)

def fanOutEventToLocalSubscribers (ev : StoredEvent) : List (ConnId × SubId) :=
  filterFanoutByAccess st.conns reads c ev (st.registry.fanOutScoped c ev) none

inductive EventTopic
  | channel (id : Uuid)
  | global

def EventTopic.channelId : EventTopic → Option Uuid
  | channel id => some id
  | global => none

/-- Deliver an event received from another pod; `none` when it is an echo of a local delivery. -/
def fanOutPubsubEvent
    (topic : EventTopic) (e : Event) : FanOutState × Option (List (ConnId × SubId)) :=
  let ev : StoredEvent := ⟨e, topic.channelId⟩
  if (c, e.id) ∈ st.localEventIds then
    ({ st with localEventIds := st.localEventIds.filter fun k => ¬ k = (c, e.id) }, none)
  else
    (st, some (filterFanoutByAccess st.conns reads c ev (st.registry.fanOutScoped c ev) none))

/-- The owner an owner-only event is delivered to: the content of its first `p` tag with one. -/
def privateEventOwner (kindU32 : ℕ) (e : Event) : Option String :=
  if isOwnerOnlyKind kindU32 then (e.tagContents "p").head? else none

def ownerGate (owner : Option String) (conn : ConnId) : Bool :=
  match owner with
  | none => true
  | some ownerHex => (pubkeyForConn m conn).any fun pk => pk.toHex = ownerHex

/-- Deliver an event this pod has stored; `published` is the outcome of the publication to the
other pods, which a failure takes back from the echo list. -/
def dispatchPersistentEventInner (published : Bool)
    (c : CommunityId) (ev : StoredEvent) (kindU32 : ℕ)
    (threaded : Option ThreadedChannelVisibility) : FanOutState × List (ConnId × SubId) :=
  let marked := pushNew st.localEventIds (c, ev.event.id)
  let localEventIds :=
    if published then marked else marked.filter fun k => ¬ k = (c, ev.event.id)
  let hits := filterFanoutByAccess st.conns reads c ev (st.registry.fanOutScoped c ev) threaded
  let owner := privateEventOwner kindU32 ev.event
  ({ st with localEventIds := localEventIds }, hits.filter fun x => ownerGate st.conns owner x.1)

/-! ### What a stored read would show -/

/-- The connection is of the community and its authenticated key may read the event. -/
def Entitled (e : Event) (conn : ConnId) : Prop :=
  communityForConn m conn = some c ∧
    ∃ pk, pubkeyForConn m conn = some pk ∧ eventVisibleToReader e pk

inductive LivePath
  | dispatchPersistent | localSubscribers | pubsub
deriving DecidableEq

/-- What the outside world supplies to one delivery. -/
structure DeliveryInput where
  reads : AccessReads
  published : Bool
  threaded : Option ThreadedChannelVisibility

/-- The recipients of the delivery a path makes of a channel-less event; `none` when it makes none,
the event being an echo. -/
def attempt (path : LivePath) (st : FanOutState) (inp : DeliveryInput) (c : CommunityId)
    (e : Event) : Option (List (ConnId × SubId)) :=
  match path with
  | .dispatchPersistent =>
    some (dispatchPersistentEventInner st inp.reads inp.published c ⟨e, none⟩ (eventKindU32 e)
      inp.threaded).2
  | .localSubscribers => some (fanOutEventToLocalSubscribers st inp.reads c ⟨e, none⟩)
  | .pubsub => (fanOutPubsubEvent st inp.reads c .global e).2

/-- A delivery reaches exactly the connections of the selected subscriptions that are entitled. -/
def MatchesStoredReads (e : Event) (delivery : Option (List (ConnId × SubId))) : Prop :=
  ∀ out, delivery = some out → ∀ conn, (∃ sub, (conn, sub) ∈ out) ↔
    (∃ sub, (conn, sub) ∈ st.registry.fanOutScoped c ⟨e, none⟩) ∧ Entitled st.conns c e conn

def Selected (e : Event) (conn : ConnId) : Prop :=
  (∃ sub, (conn, sub) ∈ st.registry.fanOutScoped c ⟨e, none⟩) ∧
    communityForConn st.conns conn = some c

/-- **When a path agrees with the stored reads.** Author-only and share-gated kinds: always.
Owner-only kinds: on the dispatch path, when no selected reader is named by a `p` tag other than the
first (and nobody is selected if there is none); on the other two, when every selected connection is
that of a named reader.  Other kinds: when every selected connection is authenticated.  An echo is
not delivered at all. -/
def GatesAgree (path : LivePath) (st : FanOutState) (c : CommunityId) (e : Event) : Prop :=
  (path = .pubsub ∧ (c, e.id) ∈ st.localEventIds) ∨
  authorOnlyKinds.contains (eventKindU32 e) ∨ isSharedGatedKind (eventKindU32 e) ∨
  if isOwnerOnlyKind (eventKindU32 e) then
    if path = .dispatchPersistent then
      match (e.tagContents "p").head? with
      | some owner => ∀ conn pk, Selected st c e conn → pubkeyForConn st.conns conn = some pk →
          pk.toHex ∈ e.tagContents "p" → pk.toHex = owner
      | none => ∀ conn, ¬ Selected st c e conn
    else
      ∀ conn, Selected st c e conn →
        ∃ pk, pubkeyForConn st.conns conn = some pk ∧ pk.toHex ∈ e.tagContents "p"
  else
    ∀ conn, Selected st c e conn → ∃ pk, pubkeyForConn st.conns conn = some pk

/-! ### Each path as one gate on the connection -/

section Gates

variable (m : ConnectionManager) (c : CommunityId) (e : Event) (conn : ConnId)

/-- What `filterFanoutByAccess` asks of a recipient of a channel-less event. -/
def accessGate : Bool :=
  decide (communityForConn m conn = some c) &&
  (if authorOnlyKinds.contains (eventKindU32 e) then
    (pubkeyForConn m conn).any fun pk => pk = e.pubkey
  else true) &&
  (if isSharedGatedKind (eventKindU32 e) then
    match pubkeyForConn m conn with
    | none => false
    | some pk => if pk = e.pubkey then true else !isUnsharedGatedEvent e pk
  else true)

omit m c e conn in
lemma filter_ite {α : Type*} (b : Bool) (p : α → Bool) (l : List α) :
    (if b then l.filter p else l) = l.filter fun x => if b then p x else true := by
  cases b <;> simp

lemma filterFanoutByAccess_channelless (reads : AccessReads) (hits : List (ConnId × SubId))
    (threaded : Option ThreadedChannelVisibility) :
    filterFanoutByAccess m reads c ⟨e, none⟩ hits threaded =
      hits.filter fun x => accessGate m c e x.1 := by
  simp only [filterFanoutByAccess, filter_ite]
  rw [List.filter_filter, List.filter_filter]
  refine List.filter_congr fun x _ => ?_
  unfold accessGate
  ac_rfl

def pathGate (path : LivePath) : Bool :=
  accessGate m c e conn &&
    if path = .dispatchPersistent then ownerGate m (privateEventOwner (eventKindU32 e) e) conn
    else true

lemma attempt_eq_filter {path : LivePath} {st : FanOutState} (inp : DeliveryInput)
    (hecho : ¬ (path = .pubsub ∧ (c, e.id) ∈ st.localEventIds)) :
    attempt path st inp c e = some ((st.registry.fanOutScoped c ⟨e, none⟩).filter
      fun x => pathGate st.conns c e x.1 path) := by
  cases path with
  | dispatchPersistent =>
    simp [attempt, dispatchPersistentEventInner, filterFanoutByAccess_channelless, pathGate,
      Bool.and_comm]
  | localSubscribers =>
    simp [attempt, fanOutEventToLocalSubscribers, filterFanoutByAccess_channelless, pathGate]
  | pubsub =>
    have hnot : (c, e.id) ∉ st.localEventIds := fun h => hecho ⟨rfl, h⟩
    simp [attempt, fanOutPubsubEvent, hnot, EventTopic.channelId, filterFanoutByAccess_channelless,
      pathGate]

variable {m c e conn}

lemma accessGate_iff_entitled (h : authorOnlyKinds.contains (eventKindU32 e) ∨
      isSharedGatedKind (eventKindU32 e)) : accessGate m c e conn ↔ Entitled m c e conn := by
  unfold accessGate Entitled
  by_cases ha : authorOnlyKinds.contains (eventKindU32 e)
  · obtain ⟨hs, -⟩ := not_ownerOnly_of_authorOnly ha
    simp only [ha, hs, if_true, Bool.and_eq_true, decide_eq_true_eq, Option.any_eq_true,
      eventVisibleToReader_authorOnly ha]
    simp
  have hs : isSharedGatedKind (eventKindU32 e) := h.resolve_left ha
  rw [Bool.not_eq_true] at ha
  simp only [ha, hs, if_true, Bool.and_eq_true, decide_eq_true_eq,
    eventVisibleToReader_sharedGated hs ha]
  cases hk : pubkeyForConn m conn with
  | none => simp
  | some pk =>
    by_cases hp : pk = e.pubkey
    · subst hp
      simp [isUnsharedGatedEvent]
    · simp [hp]

lemma accessGate_other (ha : authorOnlyKinds.contains (eventKindU32 e) = false)
    (hs : isSharedGatedKind (eventKindU32 e) = false) :
    accessGate m c e conn = decide (communityForConn m conn = some c) := by
  unfold accessGate
  rw [ha, hs]
  simp

lemma entitled_other (ha : authorOnlyKinds.contains (eventKindU32 e) = false)
    (hs : isSharedGatedKind (eventKindU32 e) = false) :
    Entitled m c e conn ↔ communityForConn m conn = some c ∧
      ∃ pk, pubkeyForConn m conn = some pk ∧ readerAuthorizedForEvent e pk.toHex := by
  unfold Entitled
  simp only [eventVisibleToReader_other ha hs]

lemma readerAuthorizedForEvent_ownerOnly (ho : isOwnerOnlyKind (eventKindU32 e))
    (hex : String) : readerAuthorizedForEvent e hex ↔ hex ∈ e.tagContents "p" := by
  simp [readerAuthorizedForEvent, ho]

end Gates

/-- A delivery that gates the connections of the selected subscriptions by `gate` matches the stored
reads exactly when `gate` decides every such connection as they do. -/
lemma matchesStoredReads_filter {st : FanOutState} {c : CommunityId}
    (gate : ConnId → Bool) : MatchesStoredReads st c e
        (some ((st.registry.fanOutScoped c ⟨e, none⟩).filter fun x => gate x.1)) ↔
      ∀ conn, (∃ sub, (conn, sub) ∈ st.registry.fanOutScoped c ⟨e, none⟩) →
        (gate conn ↔ Entitled st.conns c e conn) := by
  have hmem : ∀ conn, (∃ sub, (conn, sub) ∈
      (st.registry.fanOutScoped c ⟨e, none⟩).filter fun x => gate x.1) ↔
        (∃ sub, (conn, sub) ∈ st.registry.fanOutScoped c ⟨e, none⟩) ∧ gate conn := by
    intro conn
    simp [List.mem_filter]
  constructor
  · intro h conn hsel
    have hc := h _ rfl conn
    rw [hmem] at hc
    exact ⟨fun hg => (hc.mp ⟨hsel, hg⟩).2, fun he => (hc.mpr ⟨hsel, he⟩).2⟩
  rintro h out hout conn
  cases hout
  rw [hmem]
  exact and_congr_right (h conn)

section Agreement

variable {st : FanOutState} {c : CommunityId} {e : Event} {path : LivePath}

lemma pathGate_not_ownerOnly {m : ConnectionManager} {conn : ConnId}
    (ho : isOwnerOnlyKind (eventKindU32 e) = false) :
    pathGate m c e conn path = accessGate m c e conn := by
  simp [pathGate, privateEventOwner, ho, ownerGate]

lemma agree_gated (h : authorOnlyKinds.contains (eventKindU32 e) ∨
      isSharedGatedKind (eventKindU32 e)) (conn : ConnId) :
    pathGate st.conns c e conn path ↔ Entitled st.conns c e conn := by
  have ho : isOwnerOnlyKind (eventKindU32 e) = false := by
    rcases h with ha | hs
    · exact (not_ownerOnly_of_authorOnly ha).2
    · exact not_ownerOnly_of_sharedGated hs
  rw [pathGate_not_ownerOnly ho, accessGate_iff_entitled h]

variable (ha : authorOnlyKinds.contains (eventKindU32 e) = false)
  (hs : isSharedGatedKind (eventKindU32 e) = false)

include ha hs

variable {conn : ConnId}

/-- Where the path asks for the community only, it agrees with the stored reads if every selected
connection of the community is that of a reader the event is for. -/
lemma agree_community_iff
    (hgate : pathGate st.conns c e conn path ↔ communityForConn st.conns conn = some c)
    (hP : P ↔ ∃ pk, pubkeyForConn st.conns conn = some pk ∧ readerAuthorizedForEvent e pk.toHex) :
    (pathGate st.conns c e conn path ↔ Entitled st.conns c e conn) ↔
      (communityForConn st.conns conn = some c → P) := by
  rw [hgate, entitled_other ha hs, ← hP]
  tauto

lemma agree_other (ho : isOwnerOnlyKind (eventKindU32 e) = false) (conn : ConnId) :
    (pathGate st.conns c e conn path ↔ Entitled st.conns c e conn) ↔
      (communityForConn st.conns conn = some c → ∃ pk, pubkeyForConn st.conns conn = some pk) := by
  refine agree_community_iff ha hs ?_ ?_
  · rw [pathGate_not_ownerOnly ho, accessGate_other ha hs, decide_eq_true_eq]
  · simp [readerAuthorizedForEvent, ho]

variable (ho : isOwnerOnlyKind (eventKindU32 e))

include ho

lemma agree_ownerOnly_ungated (hpath : path ≠ .dispatchPersistent) (conn : ConnId) :
    (pathGate st.conns c e conn path ↔ Entitled st.conns c e conn) ↔
      (communityForConn st.conns conn = some c →
        ∃ pk, pubkeyForConn st.conns conn = some pk ∧ pk.toHex ∈ e.tagContents "p") := by
  refine agree_community_iff ha hs ?_ ?_
  · simp [pathGate, hpath, accessGate_other ha hs]
  · simp only [readerAuthorizedForEvent_ownerOnly ho]

lemma agree_ownerOnly_ownerless (hp : (e.tagContents "p").head? = none) (conn : ConnId) :
    (pathGate st.conns c e conn .dispatchPersistent ↔ Entitled st.conns c e conn) ↔
      ¬ communityForConn st.conns conn = some c := by
  have hnil : e.tagContents "p" = [] := List.head?_eq_none_iff.mp hp
  refine agree_community_iff ha hs ?_ ?_
  · simp [pathGate, privateEventOwner, ho, hp, ownerGate, accessGate_other ha hs]
  · simp only [readerAuthorizedForEvent_ownerOnly ho, hnil]
    simp

variable {owner : String}

lemma agree_ownerOnly_owner (hp : (e.tagContents "p").head? = some owner) (conn : ConnId) :
    (pathGate st.conns c e conn .dispatchPersistent ↔ Entitled st.conns c e conn) ↔
      (communityForConn st.conns conn = some c → ∀ pk, pubkeyForConn st.conns conn = some pk →
        pk.toHex ∈ e.tagContents "p" → pk.toHex = owner) := by
  have hmem : owner ∈ e.tagContents "p" := List.mem_of_head? hp
  have hgate : pathGate st.conns c e conn .dispatchPersistent ↔
      communityForConn st.conns conn = some c ∧
        ∃ pk, pubkeyForConn st.conns conn = some pk ∧ pk.toHex = owner := by
    simp [pathGate, privateEventOwner, ho, hp, ownerGate, accessGate_other ha hs,
      Option.any_eq_true]
  rw [hgate, entitled_other ha hs]
  simp only [readerAuthorizedForEvent_ownerOnly ho]
  constructor
  · intro h hc pk hpk hin
    obtain ⟨-, pk', hpk', heq⟩ := h.mpr ⟨hc, pk, hpk, hin⟩
    rw [hpk] at hpk'
    cases hpk'
    exact heq
  intro h
  constructor
  · rintro ⟨hc, pk, hpk, rfl⟩
    exact ⟨hc, pk, hpk, hmem⟩
  · rintro ⟨hc, pk, hpk, hin⟩
    exact ⟨hc, pk, hpk, h hc pk hpk hin⟩

end Agreement

/-- **Live delivery against the stored reads.** On every path, for every pod state and every
channel-less event, the delivery reaches exactly the selected connections that a stored read would
show the event to if and only if the gates agree. -/
theorem attempt_matchesStoredReads_iff (path : LivePath) (st : FanOutState) (inp : DeliveryInput)
    (c : CommunityId) (e : Event) :
    MatchesStoredReads st c e (attempt path st inp c e) ↔ GatesAgree path st c e := by
  by_cases hecho : path = .pubsub ∧ (c, e.id) ∈ st.localEventIds
  · have hnone : attempt path st inp c e = none := by
      obtain ⟨rfl, hmem⟩ := hecho
      simp [attempt, fanOutPubsubEvent, hmem]
    rw [hnone]
    exact ⟨fun _ => Or.inl hecho, fun _ out hout => by cases hout⟩
  rw [attempt_eq_filter c e inp hecho,
    matchesStoredReads_filter fun conn => pathGate st.conns c e conn path]
  unfold GatesAgree Selected
  rw [or_iff_right hecho]
  by_cases hgated : authorOnlyKinds.contains (eventKindU32 e) = true ∨
      isSharedGatedKind (eventKindU32 e) = true
  · rw [← or_assoc]
    exact ⟨fun _ => Or.inl hgated, fun _ conn _ => agree_gated hgated conn⟩
  rw [← or_assoc, or_iff_right hgated]
  rw [not_or, Bool.not_eq_true, Bool.not_eq_true] at hgated
  obtain ⟨ha, hs⟩ := hgated
  -- what is left is one gate per path and kind
  cases ho : isOwnerOnlyKind (eventKindU32 e) with
  | false =>
    simp [agree_other ha hs ho]
  | true =>
    by_cases hpath : path = .dispatchPersistent
    · subst hpath
      simp only [if_true]
      cases hp : (e.tagContents "p").head? with
      | none => simp [agree_ownerOnly_ownerless ha hs ho hp]
      | some owner =>
        simp only [agree_ownerOnly_owner ha hs ho hp, and_imp]
        exact ⟨fun h conn pk hsel hc => h conn hsel hc pk,
          fun h conn hsel hc pk => h conn pk hsel hc⟩
    · simp [if_neg hpath, agree_ownerOnly_ungated ha hs ho hpath]

/-! ### A delivery that shows too much -/

def dmSnapshot : Event where
  id := ⟨7⟩
  pubkey := ⟨9⟩
  createdAt := 1000
  kind := 30622
  tags := [⟨"p", [(⟨1⟩ : PublicKey).toHex]⟩]
  content := ""

def bystanderPod : FanOutState where
  registry := runOps [.registerScoped ⟨⟨1⟩⟩ ⟨20⟩ "s" [{ ids := some [⟨7⟩] }] none]
  conns := AList.insert ⟨20⟩ ⟨⟨⟨1⟩⟩, some ⟨2⟩⟩ ∅
  localEventIds := []

/-- **The owner-only rule is not applied to events from other pods.** The snapshot reaches the
bystander, from whom a stored read hides it. -/
theorem pubsub_shows_dmSnapshot :
    ¬ MatchesStoredReads bystanderPod ⟨⟨1⟩⟩ dmSnapshot
      (attempt .pubsub bystanderPod ⟨⟨fun _ _ => .ok "open", fun _ _ _ => .ok false⟩, true, none⟩
        ⟨⟨1⟩⟩ dmSnapshot) := by
  intro h
  have hsent : ((⟨20⟩ : ConnId), "s") ∈ filterFanoutByAccess bystanderPod.conns
        ⟨fun _ _ => .ok "open", fun _ _ _ => .ok false⟩ ⟨⟨1⟩⟩ ⟨dmSnapshot, none⟩
        (bystanderPod.registry.fanOutScoped ⟨⟨1⟩⟩ ⟨dmSnapshot, none⟩) none := by
    decide
  obtain ⟨-, -, pk, hpk, hvis⟩ := (h _ rfl ⟨20⟩).mp ⟨"s", hsent⟩
  obtain rfl : (⟨2⟩ : PublicKey) = pk := Option.some.inj hpk
  have hhidden : eventVisibleToReader dmSnapshot ⟨2⟩ = false := by decide
  rw [hhidden] at hvis
  cases hvis

end Buzz.Relay
