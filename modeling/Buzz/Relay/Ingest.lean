import Buzz.Core.WriteKind
import Buzz.Lib.Guard

/-!
The write path: `handle_event` and `ingest_event`.

An event enters over a WebSocket (`handleEvent`) or over the shared seam below it (`ingestEvent`,
which the HTTP bridge calls directly).  The model keeps every early exit of both functions, in their
order and with their texts, and the restriction checks of the handlers that owe one.  What a handler
does after its own checks (executing a command, storing an event) is a parameter, `Handlers`.
-/

namespace Buzz.Relay

open Buzz.Core Lib

/-! ### What a request reads -/

/-- The moderation state of one key in one community; times are nanoseconds since the epoch. -/
structure RestrictionState where
  banned : Bool
  mutedUntil : Option ℤ

/-- The outcome of the blocking task that verifies id and signature. -/
inductive Verification
  | valid
  | invalid (reason : String)
  | panicked

/-- The clock readings of one request, one for each place that reads the time: seconds, except for
the gate, which compares full timestamps. -/
structure Clock where
  ingest : Int64
  command : Int64
  observer : Int64
  gate : ℤ

/-- What the services of the request's community answer. -/
structure Backend where
  isServingActive : Except String Bool
  verifyEvent : Event → Verification
  moderationRestrictionState : PublicKey → Except String RestrictionState
  clock : Clock

/-- How the submitting party was authenticated. -/
inductive IngestAuth
  | nip42 (pubkey : PublicKey) (scopes : List Scope) (channelIds : Option (List Uuid))
      (connId : Uuid)
  | http (pubkey : PublicKey) (scopes : List Scope)

namespace IngestAuth

def pubkey : IngestAuth → PublicKey
  | nip42 pubkey _ _ _ => pubkey
  | http pubkey _ => pubkey

def scopes : IngestAuth → List Scope
  | nip42 _ scopes _ _ => scopes
  | http _ scopes => scopes

def channelIds : IngestAuth → Option (List Uuid)
  | nip42 _ _ channelIds _ => channelIds
  | http _ _ => none

def isHttp : IngestAuth → Bool
  | nip42 _ _ _ _ => false
  | http _ _ => true

end IngestAuth

inductive IngestError
  | rejected (message : String)
  | canvasConflict (message : String)
  | authFailed (message : String)
  | internal (message : String)

def IngestError.message : IngestError → String
  | rejected m => m
  | canvasConflict m => m
  | authFailed m => m
  | internal m => m

structure IngestResult where
  eventId : String
  accepted : Bool
  message : String

open IngestResult

/-- The bodies of the handlers, after the checks that the model spells out. -/
structure Handlers where
  /-- The executor of command kinds. -/
  command : Event → IngestAuth → Except IngestError IngestResult
  productFeedback : Event → Except String Unit
  report : Event → Except String Unit
  /-- A moderation command that passed the ban check and the freshness check. -/
  moderation : Event → Except String Unit
  /-- The channel, token and membership checks between the gate and the handlers after it. -/
  channelChecks : Event → IngestAuth → Except IngestError Unit
  /-- A relay-admin command that passed the ban check. -/
  relayAdmin : Event → Except String Unit
  /-- Every kind the model does not route elsewhere: validation, storage and fan-out. -/
  persist : Event → IngestAuth → Except IngestError IngestResult
  /-- Presence storage, channel membership and fan-out of a verified ephemeral event. -/
  ephemeral : Event → Except IngestError Unit
  /-- The answer to a verified and fresh observer frame. -/
  observer : Event → Bool × String

/-! ### The checks before routing -/

def maxTimestampDriftSecs : Int64 := 900
def canvasMaxIngestFutureSecs : Int64 := 300
def maxEventContentBytes : ℕ := 256 * 1024
def maxCommandSkewSecs : Int64 := 120

variable (e : Event) (kind : ℕ) (auth : IngestAuth)

def eventTs : Int64 := Int64.ofNat e.createdAt

def mapServingFenceState : Except String Bool → Except IngestError Unit
  | .ok true => .ok ()
  | .ok false => .error (.rejected "restricted: community writes are fenced")
  | .error err => .error (.internal ("error: checking community write fence: " ++ err))

def checkKind : Except IngestError Unit := do
  refuseIf (kind = kindAuth) (.rejected "invalid: AUTH events cannot be submitted")
  refuseIf (kind = kindMemberAddedNotification ∨ kind = kindMemberRemovedNotification)
    (.rejected "invalid: membership notifications are relay-signed only")
  refuseIf (auth.isHttp ∧ (kind = kindGiftWrap ∨ kind = kindPresenceUpdate))
    (.rejected ("invalid: kind " ++ toString kind ++ " is only accepted via WebSocket"))
  refuseIf (isRelayOnlyKind kind) (.rejected "restricted: relay-only kind")

def checkVerification : Verification → Except IngestError Unit
  | .valid => .ok ()
  | .invalid reason => .error (.rejected ("invalid: " ++ reason))
  | .panicked => .error (.internal "error: internal verification error")

def checkTimestamp (ts now : Int64) : Except IngestError Unit := do
  refuseIf ((ts - now).abs > maxTimestampDriftSecs)
    (.rejected "invalid: event timestamp too far from server time")
  refuseIf (kind = kindCanvas ∧ ts - now > canvasMaxIngestFutureSecs)
    (.rejected "invalid: canvas event timestamp too far in the future")

def checkContent : Except IngestError Unit :=
  refuseIf (e.content.utf8ByteSize > maxEventContentBytes)
    (.rejected ("invalid: content exceeds maximum size of " ++ toString maxEventContentBytes ++
      " bytes (got " ++ toString e.content.utf8ByteSize ++ ")"))

/-- The event is signed by the key that submits it; a gift wrap has a key of its own. -/
def checkAuthor : Except IngestError Unit :=
  refuseIf (e.pubkey ≠ auth.pubkey ∧ eventKindU32 e ≠ kindGiftWrap)
    (.authFailed "invalid: event pubkey does not match authenticated identity")

def checkScope : Except IngestError Unit := do
  let kind := eventKindU32 e
  let required ← (requiredScopeForKind kind e).mapError .rejected
  refuseIf (isRelayAdminKind kind ∧ auth.channelIds.isSome)
    (.authFailed
      "restricted: relay admin commands require a global token, not a channel-scoped token")
  refuseIf (kind = kindNip43LeaveRequest ∧ auth.channelIds.isSome)
    (.authFailed "restricted: leave requests require a global token")
  refuseIf (required ∉ auth.scopes)
    (.authFailed ("restricted: insufficient scope (need " ++ required.asStr ++ ")"))

variable (b : Backend) (r : RestrictionState)

def ingestChecks (e : Event) (auth : IngestAuth) : Except IngestError Unit := do
  mapServingFenceState b.isServingActive
  checkKind (eventKindU32 e) auth
  checkVerification (b.verifyEvent e)
  checkTimestamp (eventKindU32 e) (eventTs e) b.clock.ingest
  checkContent e
  checkAuthor e auth
  checkScope e auth

/-! ### The handlers' own restriction checks -/

def bannedText : String := "blocked: you are banned from this community"

def ensureActorNotBanned : Except String Unit :=
  refuseIf (r.banned) bannedText

variable (H : Handlers) (b : Backend)

def handleModerationCommand (e : Event) : Except String Unit := do
  let restriction ← (b.moderationRestrictionState e.pubkey).mapError fun err =>
    "error: database error checking restriction state: " ++ err
  ensureActorNotBanned restriction
  let now := b.clock.command
  refuseIf ((eventTs e - now).abs > maxCommandSkewSecs)
    ("invalid: event timestamp out of range: created_at=" ++ toString (eventTs e) ++ ", now=" ++
      toString now ++ ", delta=" ++ toString (eventTs e - now) ++ "s (max ±" ++
      toString maxCommandSkewSecs ++ "s)")
  H.moderation e

inductive RelayAdminError
  | banned
  | rejected (reason : String)
  | internal (reason : String)

def mapRelayAdminError : RelayAdminError → IngestError
  | .banned => .authFailed bannedText
  | .rejected reason => .rejected ("invalid: " ++ reason)
  | .internal reason => .internal ("error: " ++ reason)

def admitsRelayAdminCommand : Except RelayAdminError Unit :=
  refuseIf (r.banned) .banned

def handleRelayAdminEvent (e : Event) : Except RelayAdminError Unit := do
  let restriction ← (b.moderationRestrictionState e.pubkey).mapError fun err =>
    .internal ("internal error checking restriction state: " ++ err)
  admitsRelayAdminCommand restriction
  (H.relayAdmin e).mapError .rejected

/-- A timeout that has not expired at `now`. -/
def RestrictionState.timedOut (now : ℤ) : Bool :=
  match r.mutedUntil with
  | some «until» => decide («until» > now)
  | none => false

def wholeSeconds (t : ℤ) : ℤ := t / 1000000000

/-- The write gate: bans and unexpired timeouts of the authenticated key. -/
def restrictionGate (kind : ℕ) (auth : IngestAuth) : Except IngestError Unit :=
  if isModerationCommandKind kind ∨ isRelayAdminKind kind then .ok ()
  else do
    let r ← (b.moderationRestrictionState auth.pubkey).mapError fun err =>
      .internal ("error: internal error checking restriction state: " ++ err)
    refuseIf (r.banned) (.authFailed bannedText)
    refuseIf (r.timedOut b.clock.gate)
      (.authFailed ("restricted: you are timed out until " ++
        toString (wholeSeconds (r.mutedUntil.getD 0))))

/-! ### Routing -/

def IngestResult.done : IngestResult := ⟨e.id.toHex, true, ""⟩

def ingestEvent (e : Event) (auth : IngestAuth) : Except IngestError IngestResult := do
  ingestChecks b e auth
  let kind := eventKindU32 e
  if isCommandKind kind then H.command e auth
  else if kind = kindProductFeedback then
    ((H.productFeedback e).mapError .rejected).map fun _ => done e
  else if kind = kindReport then
    ((H.report e).mapError .rejected).map fun _ => done e
  else if isModerationCommandKind kind then
    ((handleModerationCommand H b e).mapError .rejected).map fun _ => done e
  else do
    restrictionGate b kind auth
    H.channelChecks e auth
    if isRelayAdminKind kind then
      ((handleRelayAdminEvent H b e).mapError mapRelayAdminError).map fun _ => done e
    else H.persist e auth

/-- The authentication of a WebSocket connection. -/
structure AuthContext where
  pubkey : PublicKey
  scopes : List Scope
  channelIds : Option (List Uuid)

inductive AuthState
  | pending
  | authenticated (ctx : AuthContext)
  | failed

/-- The `OK` frame sent back to the client. -/
structure OkMessage where
  eventId : String
  accepted : Bool
  message : String

def OkMessage.refuse (message : String) : OkMessage := ⟨e.id.toHex, false, message⟩

def handleEphemeralEvent (e : Event) : Except IngestError Unit :=
  match b.verifyEvent e with
  | .valid => H.ephemeral e
  | .invalid reason => .error (.rejected ("invalid: " ++ reason))
  | .panicked => .error (.internal "error: internal error")

def observerFresh (e : Event) : Bool :=
  (eventTs e - b.clock.observer).toInt.natAbs ≤ 300

def handleAgentObserverEvent (e : Event) : OkMessage :=
  match b.verifyEvent e with
  | .valid =>
    if observerFresh b e then ⟨e.id.toHex, (H.observer e).1, (H.observer e).2⟩
    else .refuse e "invalid: observer frame timestamp outside ±5 minute freshness window"
  | .invalid reason => .refuse e ("invalid: " ++ reason)
  | .panicked => .refuse e "error: internal error"

/-- The scope rule of events that never reach `ingestEvent`: a token without scopes is not scoped. -/
def AuthContext.mayMessage (ctx : AuthContext) : Bool :=
  ctx.scopes = [] || ctx.scopes.contains .messagesWrite

def AuthContext.ingestAuth (ctx : AuthContext) (connId : Uuid) : IngestAuth :=
  .nip42 ctx.pubkey ctx.scopes ctx.channelIds connId

/-- The text of an ingest error over a WebSocket; internal ones are not shown. -/
def IngestError.wsMessage : IngestError → String
  | .internal _ => "error: internal server error"
  | err => err.message

def handleEvent (e : Event) (connId : Uuid) : AuthState → OkMessage
  | .authenticated ctx =>
    let kind := eventKindU32 e
    if e.pubkey ≠ ctx.pubkey ∧ kind ≠ kindGiftWrap then
      .refuse e "invalid: event pubkey does not match authenticated identity"
    else if kind = kindAuth then
      .refuse e "invalid: AUTH events cannot be submitted via EVENT"
    else if kind = kindAgentObserverFrame then
      if ctx.mayMessage then handleAgentObserverEvent H b e
      else .refuse e "restricted: insufficient scope for agent observer frames"
    else if isEphemeral kind then
      if ctx.mayMessage then
        match b.isServingActive with
        | .ok true =>
          match handleEphemeralEvent H b e with
          | .ok () => ⟨e.id.toHex, true, ""⟩
          | .error err => .refuse e err.message
        | .ok false => .refuse e "restricted: community writes are fenced"
        | .error _ => .refuse e "error: internal server error"
      else .refuse e "restricted: insufficient scope for ephemeral events"
    else
      match ingestEvent H b e (ctx.ingestAuth connId) with
      | .ok r => ⟨r.eventId, r.accepted, r.message⟩
      | .error err => .refuse e err.wsMessage
  | _ => .refuse e "auth-required: not authenticated"

/-! ### The rule for restricted actors -/

inductive Entry
  | websocket (connId : Uuid) (authState : AuthState)
  | ingest (auth : IngestAuth)

namespace Entry

def actor : Entry → Option PublicKey
  | websocket _ (.authenticated ctx) => some ctx.pubkey
  | websocket _ _ => none
  | ingest auth => some auth.pubkey

def accepts (H : Handlers) (b : Backend) (e : Event) : Entry → Bool
  | websocket connId authState => (handleEvent H b e connId authState).accepted
  | ingest auth =>
    match ingestEvent H b e auth with
    | .ok r => r.accepted
    | .error _ => false

end Entry

/-- Reports and product feedback stay open to restricted actors. -/
def isOpenKind : Bool := kind = kindReport || kind = kindProductFeedback

/-- The kinds a timeout leaves open besides those: commands of moderators and administrators, and
what is never stored. -/
def isOpenInTimeout : Bool :=
  isModerationCommandKind kind || isRelayAdminKind kind || isEphemeral kind

/-- A key in this state must not write an event of this kind.  A state that cannot be read counts
as a ban. -/
def Restricts (now : ℤ) (kind : ℕ) : Except String RestrictionState → Prop
  | .error _ => isOpenKind kind = false
  | .ok r => isOpenKind kind = false ∧
      (r.banned ∨ r.timedOut now ∧ isOpenInTimeout kind = false)

/-- The entry's actor must not write the event. -/
def MustRefuse (e : Event) (n : Entry) : Prop :=
  ∃ pk, n.actor = some pk ∧
    Restricts b.clock.gate (eventKindU32 e) (b.moderationRestrictionState pk)

/-- What the rule asks of one submission: no handler gets to accept it. -/
def RefusesRestricted (e : Event) (n : Entry) : Prop :=
  MustRefuse b e n → ∀ H, n.accepts H b e = false

/-- The routes that read no restriction state: command kinds, and over a WebSocket everything in the
ephemeral range.  The conditions are the checks that stand before the handler. -/
def Ungated (e : Event) : Entry → Prop
  | .ingest auth => isCommandKind (eventKindU32 e) ∧ ingestChecks b e auth = .ok ()
  | .websocket connId (.authenticated ctx) =>
    (e.pubkey = ctx.pubkey ∨ eventKindU32 e = kindGiftWrap) ∧ eventKindU32 e ≠ kindAuth ∧
      if isEphemeral (eventKindU32 e) then
        ctx.mayMessage ∧ b.verifyEvent e = .valid ∧
          if eventKindU32 e = kindAgentObserverFrame then observerFresh b e = true
          else b.isServingActive = .ok true
      else
        isCommandKind (eventKindU32 e) = true ∧
          ingestChecks b e (ctx.ingestAuth connId) = .ok ()
  | .websocket _ _ => False

/-! ### What a success has passed -/

section Inversion

variable {H : Handlers} {b : Backend} {e : Event} {auth : IngestAuth} {r : IngestResult}

lemma author_of_ingestChecks (h : ingestChecks b e auth = .ok ()) :
    e.pubkey = auth.pubkey ∨ eventKindU32 e = kindGiftWrap := by
  simp only [ingestChecks, bind_eq_ok, checkAuthor, refuseIf_eq_ok] at h
  obtain ⟨_, _, _, _, _, _, _, _, _, _, _, hauthor, _⟩ := h
  by_contra hne
  push Not at hne
  exact hauthor hne

/-- A restriction state was read for `pk`, and it holds no ban. -/
def ReadUnbanned (b : Backend) (pk : PublicKey) : Prop :=
  ∃ r, b.moderationRestrictionState pk = .ok r ∧ r.banned = false

lemma readUnbanned_of_moderation (h : handleModerationCommand H b e = .ok ()) :
    ReadUnbanned b e.pubkey := by
  simp only [handleModerationCommand, bind_eq_ok, mapError_eq_ok, ensureActorNotBanned,
    refuseIf_eq_ok] at h
  obtain ⟨r, hr, _, hban, _⟩ := h
  exact ⟨r, hr, by simpa using hban⟩

lemma readUnbanned_of_relayAdmin (h : handleRelayAdminEvent H b e = .ok ()) :
    ReadUnbanned b e.pubkey := by
  simp only [handleRelayAdminEvent, bind_eq_ok, mapError_eq_ok, admitsRelayAdminCommand,
    refuseIf_eq_ok] at h
  obtain ⟨r, hr, _, hban, _⟩ := h
  exact ⟨r, hr, by simpa using hban⟩

lemma restrictionGate_ok {kind : ℕ} (hm : isModerationCommandKind kind = false)
    (ha : isRelayAdminKind kind = false) (h : restrictionGate b kind auth = .ok ()) :
    ∃ r, b.moderationRestrictionState auth.pubkey = .ok r ∧ r.banned = false ∧
      r.timedOut b.clock.gate = false := by
  simp only [restrictionGate, hm, ha, Bool.false_eq_true, or_self, if_false, bind_eq_ok,
    mapError_eq_ok, refuseIf_eq_ok] at h
  obtain ⟨r, hr, _, hban, htime⟩ := h
  exact ⟨r, hr, by simpa using hban, by simpa using htime⟩

lemma actor_eq_of_admin (h : ingestChecks b e auth = .ok ())
    (hk : isModerationCommandKind (eventKindU32 e) ∨
      isRelayAdminKind (eventKindU32 e)) : e.pubkey = auth.pubkey := by
  rcases author_of_ingestChecks h with hpk | hgift
  · exact hpk
  · rw [hgift] at hk
    exact absurd hk (by decide)

/-- **What success means.** An `ingestEvent` that returns success passed the checks, and then either
took a route without a restriction check, or read a restriction state without a ban, and without an
unexpired timeout unless the kind is an administrative command. -/
theorem ingestEvent_ok_cases (h : ingestEvent H b e auth = .ok r) : ingestChecks b e auth = .ok () ∧
      (isCommandKind (eventKindU32 e) = true ∨ isOpenKind (eventKindU32 e) = true ∨
        ∃ rs, b.moderationRestrictionState auth.pubkey = .ok rs ∧ rs.banned = false ∧
          (isOpenInTimeout (eventKindU32 e) = true ∨ rs.timedOut b.clock.gate = false)) := by
  simp only [ingestEvent, bind_eq_ok] at h
  obtain ⟨_, hchk, h⟩ := h
  refine ⟨hchk, ?_⟩
  split_ifs at h with hcmd hfeed hrep hmod hadmin
  · exact .inl hcmd
  · exact .inr (.inl (by simp [isOpenKind, hfeed]))
  · exact .inr (.inl (by simp [isOpenKind, hrep]))
  · simp only [map_eq_ok, mapError_eq_ok] at h
    obtain ⟨_, hbody, _⟩ := h
    obtain ⟨rs, hread, hban⟩ := readUnbanned_of_moderation hbody
    rw [actor_eq_of_admin hchk (.inl hmod)] at hread
    exact .inr (.inr ⟨rs, hread, hban, .inl (by simp [isOpenInTimeout, hmod])⟩)
  · -- the gate lets relay-admin kinds through, their handler reads the state
    simp only [bind_eq_ok, map_eq_ok, mapError_eq_ok] at h
    obtain ⟨_, _, _, _, _, hbody, _⟩ := h
    obtain ⟨rs, hread, hban⟩ := readUnbanned_of_relayAdmin hbody
    rw [actor_eq_of_admin hchk (.inr hadmin)] at hread
    exact .inr (.inr ⟨rs, hread, hban, .inl (by simp [isOpenInTimeout, hadmin])⟩)
  simp only [bind_eq_ok] at h
  obtain ⟨_, hgate, _, _, _⟩ := h
  obtain ⟨rs, hread, hban, htime⟩ :=
    restrictionGate_ok (by simpa using hmod) (by simpa using hadmin) hgate
  exact .inr (.inr ⟨rs, hread, hban, .inr htime⟩)

/-- A restricted actor gets past `ingestEvent` with command kinds only. -/
lemma command_of_ingestEvent_ok (h : ingestEvent H b e auth = .ok r)
    (hr : Restricts b.clock.gate (eventKindU32 e) (b.moderationRestrictionState auth.pubkey)) :
    isCommandKind (eventKindU32 e) = true ∧ ingestChecks b e auth = .ok () := by
  obtain ⟨hchk, hcmd | hopen | ⟨rs, hread, hban, hrest⟩⟩ := ingestEvent_ok_cases h
  · exact ⟨hcmd, hchk⟩
  · -- reports and product feedback are not restricted
    cases hread : b.moderationRestrictionState auth.pubkey with
    | error err | ok rs =>
      rw [hread] at hr
      simp [Restricts, hopen] at hr
  rw [hread] at hr
  obtain ⟨_, hbanned | ⟨htimed, hclosed⟩⟩ := hr
  · simp [hban] at hbanned
  rcases hrest with hopen | htime
  · simp [hopen] at hclosed
  · simp [htime] at htimed

lemma ingestEvent_command (hc : isCommandKind (eventKindU32 e))
    (h : ingestChecks b e auth = .ok ()) : ingestEvent H b e auth = H.command e auth := by
  simp only [ingestEvent, h, hc]
  rfl

end Inversion

/-! ### Both entries -/

section Entries

variable {H : Handlers} {b : Backend} {e : Event} {n : Entry}

/-- The handlers that accept whatever reaches them. -/
def Handlers.acceptAll : Handlers where
  command e _ := .ok (.done e)
  productFeedback _ := .ok ()
  report _ := .ok ()
  moderation _ := .ok ()
  channelChecks _ _ := .ok ()
  relayAdmin _ := .ok ()
  persist e _ := .ok (.done e)
  ephemeral _ := .ok ()
  observer _ := (true, "")

lemma isEphemeral_observerFrame : isEphemeral kindAgentObserverFrame := by decide

lemma observer_accepted (h : (handleAgentObserverEvent H b e).accepted) :
    b.verifyEvent e = .valid ∧ observerFresh b e := by
  unfold handleAgentObserverEvent at h
  cases hv : b.verifyEvent e with
  | valid =>
    simp only [hv] at h
    split_ifs at h with hfresh
    · exact ⟨rfl, hfresh⟩
    · cases h
  | invalid reason | panicked => simp [hv, OkMessage.refuse] at h

lemma verified_of_ephemeral_ok (h : handleEphemeralEvent H b e = .ok u) :
    b.verifyEvent e = .valid := by
  unfold handleEphemeralEvent at h
  cases hv : b.verifyEvent e with
  | valid => rfl
  | invalid reason => simp [hv] at h
  | panicked => simp [hv] at h

variable {connId : Uuid} {ctx : AuthContext}

/-- What an accepted WebSocket event has passed: its author is the connection's key, and it either
was ephemeral and met the conditions of the ephemeral routes, or went through `ingestEvent`. -/
lemma handleEvent_accepted (h : (handleEvent H b e connId (.authenticated ctx)).accepted = true) :
    (e.pubkey = ctx.pubkey ∨ eventKindU32 e = kindGiftWrap) ∧ eventKindU32 e ≠ kindAuth ∧
      if isEphemeral (eventKindU32 e) then ctx.mayMessage = true ∧ b.verifyEvent e = .valid ∧
          if eventKindU32 e = kindAgentObserverFrame then observerFresh b e = true
          else b.isServingActive = .ok true
      else ∃ r, ingestEvent H b e (ctx.ingestAuth connId) = .ok r := by
  simp only [handleEvent] at h
  split_ifs at h with hkey hauth hobs hmay heph hmay
  · cases h
  · cases h
  · have hpk : e.pubkey = ctx.pubkey ∨ eventKindU32 e = kindGiftWrap := by tauto
    obtain ⟨hv, hfresh⟩ := observer_accepted h
    rw [if_pos (hobs ▸ isEphemeral_observerFrame), if_pos hobs]
    exact ⟨hpk, hauth, hmay, hv, hfresh⟩
  · cases h
  · have hpk : e.pubkey = ctx.pubkey ∨ eventKindU32 e = kindGiftWrap := by tauto
    rw [if_pos heph, if_neg hobs]
    rcases hserving : b.isServingActive with err | active
    · simp [hserving, OkMessage.refuse] at h
    cases active with
    | false => simp [hserving, OkMessage.refuse] at h
    | true =>
      rcases hbody : handleEphemeralEvent H b e with err | u
      · simp [hserving, hbody, OkMessage.refuse] at h
      · exact ⟨hpk, hauth, hmay, verified_of_ephemeral_ok hbody, rfl⟩
  · cases h
  have hpk : e.pubkey = ctx.pubkey ∨ eventKindU32 e = kindGiftWrap := by tauto
  rw [if_neg heph]
  rcases hing : ingestEvent H b e (ctx.ingestAuth connId) with err | r
  · simp [hing, OkMessage.refuse] at h
  · exact ⟨hpk, hauth, r, rfl⟩

lemma ungated_of_accepts (hr : MustRefuse b e n) (h : n.accepts H b e = true) : Ungated b e n := by
  obtain ⟨pk, hact, hr⟩ := hr
  match n with
  | .ingest auth =>
    obtain rfl : auth.pubkey = pk := Option.some.inj hact
    simp only [Entry.accepts] at h
    rcases hing : ingestEvent H b e auth with err | r
    · simp [hing] at h
    · exact command_of_ingestEvent_ok hing hr
  | .websocket connId (.authenticated ctx) =>
    obtain rfl : ctx.pubkey = pk := Option.some.inj hact
    obtain ⟨hpk, hauth, hroute⟩ := handleEvent_accepted h
    refine ⟨hpk, hauth, ?_⟩
    split_ifs at hroute ⊢ with heph hobs
    · exact hroute
    · exact hroute
    · obtain ⟨r, hing⟩ := hroute
      exact command_of_ingestEvent_ok hing hr
  | .websocket _ .pending => cases hact
  | .websocket _ .failed => cases hact

lemma accepts_of_ungated (h : Ungated b e n) : n.accepts .acceptAll b e := by
  match n, h with
  | .ingest auth, ⟨hc, hchk⟩ =>
    simp only [Entry.accepts, ingestEvent_command hc hchk]
    rfl
  | .websocket connId (.authenticated ctx), ⟨hpk, hauth, hroute⟩ =>
    have hkey : ¬(e.pubkey ≠ ctx.pubkey ∧ eventKindU32 e ≠ kindGiftWrap) := by tauto
    simp only [Entry.accepts, handleEvent, if_neg hkey, if_neg hauth]
    by_cases heph : isEphemeral (eventKindU32 e) = true
    · rw [if_pos heph] at hroute
      obtain ⟨hmay, hv, hroute⟩ := hroute
      by_cases hobs : eventKindU32 e = kindAgentObserverFrame
      · rw [if_pos hobs] at hroute
        simp [hobs, hmay, handleAgentObserverEvent, hv, hroute, Handlers.acceptAll]
      · rw [if_neg hobs] at hroute
        simp [hobs, heph, hmay, hroute, handleEphemeralEvent, hv, Handlers.acceptAll]
    rw [if_neg heph] at hroute
    obtain ⟨hc, hchk⟩ := hroute
    have hobs : eventKindU32 e ≠ kindAgentObserverFrame := by
      intro hobs
      exact heph (hobs ▸ isEphemeral_observerFrame)
    simp [hobs, heph, ingestEvent_command hc hchk, Handlers.acceptAll, done]

/-- **Restricted actors.** A submission by an actor that must be refused is refused whatever the
handlers do, exactly when it is not on a route that reads no restriction state. -/
theorem refusesRestricted_iff (b : Backend) (e : Event) (n : Entry) :
    RefusesRestricted b e n ↔ ¬(MustRefuse b e n ∧ Ungated b e n) := by
  constructor
  · rintro hall ⟨hr, hu⟩
    have hrefused := hall hr .acceptAll
    rw [accepts_of_ungated hu] at hrefused
    cases hrefused
  intro hroute hr H
  by_contra hacc
  exact hroute ⟨hr, ungated_of_accepts hr (by simpa using hacc)⟩

end Entries

/-! ### A banned member on each ungated route -/

def bannedBackend : Backend where
  isServingActive := .ok true
  verifyEvent _ := .valid
  moderationRestrictionState pk := .ok ⟨pk = ⟨1⟩, none⟩
  clock := ⟨1000, 1000, 1000, 1000000000000⟩

def bannedEvent (kind : Kind) : Event := ⟨⟨7⟩, ⟨1⟩, 1000, kind, [], ""⟩

def bannedOverHttp : Entry := .ingest (.http ⟨1⟩ [.messagesWrite])

def bannedOverWebsocket : Entry :=
  .websocket ⟨5⟩ (.authenticated ⟨⟨1⟩, [.messagesWrite], none⟩)

/-- The banned member opens a direct message, publishes a typing indicator and an observer frame;
an ordinary message of theirs is refused on both entries. -/
theorem bannedMember_writes :
    MustRefuse bannedBackend (bannedEvent 41010) bannedOverHttp ∧
    bannedOverHttp.accepts .acceptAll bannedBackend (bannedEvent 41010) = true ∧
    MustRefuse bannedBackend (bannedEvent 20002) bannedOverWebsocket ∧
    bannedOverWebsocket.accepts .acceptAll bannedBackend (bannedEvent 20002) = true ∧
    MustRefuse bannedBackend (bannedEvent 24200) bannedOverWebsocket ∧
    bannedOverWebsocket.accepts .acceptAll bannedBackend (bannedEvent 24200) = true ∧
    bannedOverHttp.accepts .acceptAll bannedBackend (bannedEvent 9) = false ∧
    bannedOverWebsocket.accepts .acceptAll bannedBackend (bannedEvent 9) = false := by
  refine ⟨⟨⟨1⟩, rfl, by decide, .inl rfl⟩, by decide, ⟨⟨1⟩, rfl, by decide, .inl rfl⟩, by decide,
    ⟨⟨1⟩, rfl, by decide, .inl rfl⟩, by decide, by decide, by decide⟩

end Buzz.Relay
