import Buzz.Pairing.Session

/-!
What a call can do to a pairing session.

`Call` has all methods of a session, and `step` is one call.  `Effect` lists what a call can do, with
what it has checked by then: most calls refuse and leave the session alone, and each of the others
changes the state in one way.  Every invariant of a session is read off this list
(`PairingSession.effect_step`).
-/

namespace Buzz.Pairing

open Lib

variable {C : Crypto}

/-! ### Calls -/

inductive Call (C : Crypto)
  | handleOffer (event : C.Event)
  | confirmSas (draw : Draw C)
  | handleReturnPayload (event : C.Event)
  | sendSourceComplete (success : Bool) (draw : Draw C)
  | sendPayload (payloadType : PayloadType) (payload : C.Text) (draw : Draw C)
  | handleComplete (event : C.Event)
  | handleSasConfirm (event : C.Event)
  | confirmTargetSas
  | handlePayload (event : C.Event)
  | sendComplete (draw : Draw C)
  | abort (reason : AbortReason) (draw : Draw C)
  | handleAbort (event : C.Event)
  | signEvent (builder : EventBuilder C.Content)

/-- What a call that succeeds returns. -/
inductive Reply (C : Crypto)
  | done
  | sas (code : String)
  | publish (event : C.Event)
  | payload (payloadType : PayloadType) (payload : C.Text)
  | reason (reason : AbortReason)

namespace PairingSession

def reply {α : Type} (f : α → Reply C) (r : Except PairingError α × PairingSession C) :
    Except PairingError (Reply C) × PairingSession C :=
  (r.1.map f, r.2)

def step (now : ℕ) (call : Call C) (s : PairingSession C) :
    Except PairingError (Reply C) × PairingSession C :=
  match call with
  | .handleOffer event => reply .sas (s.handleOffer now event)
  | .confirmSas draw => reply .publish (s.confirmSas now draw)
  | .handleReturnPayload event => reply (fun p => .payload p.1 p.2) (s.handleReturnPayload now event)
  | .sendSourceComplete success draw => reply .publish (s.sendSourceComplete now success draw)
  | .sendPayload payloadType payload draw =>
    reply .publish (s.sendPayload now payloadType payload draw)
  | .handleComplete event => reply (fun _ => .done) (s.handleComplete now event)
  | .handleSasConfirm event => reply .sas (s.handleSasConfirm now event)
  | .confirmTargetSas => reply (fun _ => .done) (s.confirmTargetSas now)
  | .handlePayload event => reply (fun p => .payload p.1 p.2) (s.handlePayload now event)
  | .sendComplete draw => reply .publish (s.sendComplete now draw)
  | .abort reason draw => reply (fun event => event.elim .done .publish) (s.abort reason draw)
  | .handleAbort event => reply .reason (s.handleAbort event)
  | .signEvent builder => reply .publish (s.signEvent builder, s)

/-! ### Effects -/

/-- The session is in the state and the role, and has not expired. -/
structure Ready (now : ℕ) (state : SessionState) (role : Role) (s : PairingSession C) : Prop where
  fresh : s.isExpired now = false
  state_eq : s.state = state
  role_eq : s.role = role

/-- The event is a valid one from the peer with this message. -/
structure FromPeer (event : C.Event) (message : PairingMessage C.Text) (s : PairingSession C) : Prop where
  valid : s.validateEventFromPeer event = .ok ()
  opens : s.decryptMessage event = .ok message

/-- What a call can do, and what it has checked by then. -/
inductive Effect (now : ℕ) (s : PairingSession C) :
    Call C → Except PairingError (Reply C) → PairingSession C → Prop where
  | refused (call : Call C) (err : PairingError) : Effect now s call (.error err) s
  | offerAccepted (event : C.Event) (sessionId : C.Text) (ecdh : C.Word)
      (ready : s.Ready now .waiting .source) (valid : s.validateEventBasics event = .ok ())
      (opens : s.decryptMessage event = .ok (.offer sessionId 1))
      (id : C.decodeHex sessionId = some s.sessionId)
      (shared : C.generateSharedKey s.secretKey event.pubkey = .ok ecdh) :
      Effect now s (.handleOffer event)
        (.ok (.sas (formatSas (C.deriveSas ecdh s.sessionSecret).1)))
        (recordEvent event { s with
          peerPubkey := some event.pubkey
          sasCode := some (C.deriveSas ecdh s.sessionSecret).1
          sasInput := some (C.deriveSas ecdh s.sessionSecret).2
          state := .confirming })
  | sasConfirmed (draw : Draw C) (sasInput : C.Word) (peer : C.PublicKey) (event : C.Event)
      (ready : s.Ready now .confirming .source) (input : s.sasInput = some sasInput)
      (known : s.peerPubkey = some peer)
      (built : s.buildEvent draw
        (.sasConfirm (C.encodeHex (s.transcriptHash s.pubkey peer sasInput))) = .ok event) :
      Effect now s (.confirmSas draw) (.ok (.publish event)) { s with state := .transferring }
  | payloadReturned (event : C.Event) (payloadType : PayloadType) (payload : C.Text)
      (ready : s.Ready now .transferring .source)
      (opens : s.FromPeer event (.payload payloadType payload)) :
      Effect now s (.handleReturnPayload event) (.ok (.payload payloadType payload))
        (recordEvent event { s with state := .payloadExchanged })
  | sourceCompleted (success : Bool) (draw : Draw C) (event : C.Event)
      (ready : s.Ready now .payloadExchanged .source)
      (built : s.buildEvent draw (.complete success) = .ok event) :
      Effect now s (.sendSourceComplete success draw) (.ok (.publish event))
        { s with state := if success then .completed else .aborted }
  | payloadSent (payloadType : PayloadType) (payload : C.Text) (draw : Draw C) (event : C.Event)
      (ready : s.Ready now .transferring .source)
      (built : s.buildEvent draw (.payload payloadType payload) = .ok event) :
      Effect now s (.sendPayload payloadType payload draw) (.ok (.publish event))
        { s with state := .payloadExchanged }
  | completeAccepted (event : C.Event) (ready : s.Ready now .payloadExchanged .source)
      (opens : s.FromPeer event (.complete true)) :
      Effect now s (.handleComplete event) (.ok .done) (recordEvent event { s with state := .completed })
  | completeFailed (event : C.Event) (err : PairingError) (ready : s.Ready now .payloadExchanged .source)
      (opens : s.FromPeer event (.complete false)) :
      Effect now s (.handleComplete event) (.error err) { s with state := .aborted }
  | transcriptMatched (event : C.Event) (received : C.Text) (sasInput : C.Word) (peer : C.PublicKey)
      (result : Except PairingError (Reply C)) (ready : s.Ready now .confirming .target)
      (opens : s.FromPeer event (.sasConfirm received)) (input : s.sasInput = some sasInput)
      (known : s.peerPubkey = some peer)
      (hash : C.decodeHex received = some (s.transcriptHash peer s.pubkey sasInput))
      (code : ∀ r, result = .ok r → ∃ sas, r = .sas sas) :
      Effect now s (.handleSasConfirm event) result
        (recordEvent event { s with state := .awaitingConfirmation })
  | transcriptMismatched (event : C.Event) (err : PairingError)
      (ready : s.Ready now .confirming .target) :
      Effect now s (.handleSasConfirm event) (.error err) { s with state := .aborted }
  | targetConfirmed (ready : s.Ready now .awaitingConfirmation .target) :
      Effect now s .confirmTargetSas (.ok .done) { s with state := .transferring }
  | payloadTaken (event : C.Event) (payloadType : PayloadType) (payload : C.Text)
      (ready : s.Ready now .transferring .target)
      (opens : s.FromPeer event (.payload payloadType payload)) :
      Effect now s (.handlePayload event) (.ok (.payload payloadType payload))
        (recordEvent event { s with state := .payloadExchanged })
  | completeSent (draw : Draw C) (event : C.Event) (ready : s.Ready now .payloadExchanged .target)
      (built : s.buildEvent draw (.complete true) = .ok event) :
      Effect now s (.sendComplete draw) (.ok (.publish event)) { s with state := .completed }
  | abortedAlone (reason : AbortReason) (draw : Draw C) (open_ : s.state.isTerminal = false) :
      Effect now s (.abort reason draw) (.ok .done) { s with state := .aborted }
  | abortSent (reason : AbortReason) (draw : Draw C) (event : C.Event)
      (open_ : s.state.isTerminal = false) (built : s.buildEvent draw (.abort reason) = .ok event) :
      Effect now s (.abort reason draw) (.ok (.publish event)) { s with state := .aborted }
  | abortAccepted (event : C.Event) (reason : AbortReason) (open_ : s.state.isTerminal = false)
      (opens : s.FromPeer event (.abort reason)) :
      Effect now s (.handleAbort event) (.ok (.reason reason))
        (recordEvent event { s with state := .aborted })
  | signed (builder : EventBuilder C.Content) (event : C.Event)
      (built : C.signWithKeys s.secretKey builder = .ok event) :
      Effect now s (.signEvent builder) (.ok (.publish event)) s

section Inversion

variable {now : ℕ} {s : PairingSession C}

lemma ready_of_expect {state : SessionState} {role : Role} (h : s.expect now state role = .ok ()) :
    s.Ready now state role := by
  simp only [expect, checkExpired, expectState, expectRole, bind_eq_ok, refuseIf_eq_ok] at h
  obtain ⟨-, hfr, -, hst, hrole⟩ := h
  exact ⟨Bool.eq_false_iff.mpr hfr, not_not.mp hst, not_not.mp hrole⟩

variable {event : C.Event} {message : PairingMessage C.Text}

lemma fromPeer_of_peerMessage
    (h : s.peerMessage event = .ok message) : s.FromPeer event message := by
  simp only [peerMessage, bind_eq_ok] at h
  obtain ⟨_, hval, hop⟩ := h
  exact ⟨hval, hop⟩

lemma opened_of_decryptMessage (h : s.decryptMessage event = .ok message) :
    ∃ ecdh text, C.generateSharedKey s.secretKey event.pubkey = .ok ecdh ∧
      C.decryptShared ecdh event.content = .ok text ∧ C.fromJson text = .ok message := by
  simp only [decryptMessage, Crypto.decrypt, bind_eq_ok, mapError_eq_ok] at h
  obtain ⟨-, -, text, ⟨ecdh, hecdh, hop⟩, -, -, hjson⟩ := h
  exact ⟨ecdh, text, hecdh, hop, hjson⟩

variable {draw : Draw C}

lemma built_of_buildEvent (h : s.buildEvent draw message = .ok event) :
    ∃ peer text ecdh builder, s.peerPubkey = some peer ∧ C.toJson message = .ok text ∧
      C.generateSharedKey s.secretKey peer = .ok ecdh ∧
      C.encryptShared ecdh draw.nonce text = .ok (EventBuilder.content builder) ∧
      C.signWithKeys s.secretKey builder = .ok event := by
  simp only [buildEvent, Crypto.encrypt, bind_eq_ok, mapError_eq_ok, okOr_eq_ok] at h
  obtain ⟨peer, hpeer, text, hjson, encrypted, ⟨ecdh, hecdh, henc⟩, hsigned⟩ := h
  exact ⟨peer, text, ecdh, _, hpeer, hjson, hecdh, henc, hsigned⟩

lemma FromPeer.verified (h : s.FromPeer event message) : C.verify event = .ok () := by
  obtain ⟨_, hbasics, -⟩ := bind_eq_ok.mp h.valid
  simp only [validateEventBasics, bind_eq_ok, mapError_eq_ok] at hbasics
  obtain ⟨_, hvf, -⟩ := hbasics
  exact hvf

variable {peer : C.PublicKey}

lemma FromPeer.pubkey_eq
    (h : s.FromPeer event message) (hpeer : s.peerPubkey = some peer) : event.pubkey = peer := by
  obtain ⟨_, -, hpk⟩ := bind_eq_ok.mp h.valid
  rw [hpeer] at hpk
  exact not_not.mp (refuseIf_eq_ok.mp hpk)

variable {call : Call C}

lemma effect_after {α β : Type} {f : β → Reply C} {checks : Except PairingError α}
    {act : α → Except PairingError β × PairingSession C}
    (h : ∀ a, checks = .ok a → Effect now s call ((act a).1.map f) (act a).2) :
    Effect now s call (reply f (s.after checks act)).1 (reply f (s.after checks act)).2 := by
  unfold after
  cases hchk : checks with
  | error err => exact .refused call err
  | ok a => exact h a hchk

lemma effect_ready {α β : Type} {call : Call C} {f : β → Reply C} {state : SessionState}
    {role : Role} {next : Except PairingError α} {act : α → Except PairingError β × PairingSession C}
    (h : ∀ a, s.Ready now state role → next = .ok a →
      Effect now s call ((act a).1.map f) (act a).2) :
    Effect now s call (reply f (s.after (do s.expect now state role; next) act)).1
      (reply f (s.after (do s.expect now state role; next) act)).2 := by
  refine effect_after fun a hchk => ?_
  obtain ⟨_, hrdy, hnext⟩ := bind_eq_ok.mp hchk
  exact h a (ready_of_expect hrdy) hnext

/-- What the call does to the session is one of the effects. -/
abbrev Inverted (now : ℕ) (s : PairingSession C) (call : Call C) : Prop :=
  Effect now s call (s.step now call).1 (s.step now call).2

variable (event : C.Event)

lemma effect_handleOffer : Inverted now s (.handleOffer event) := by
  refine effect_ready fun _ hrdy hchk => ?_
  obtain ⟨_, hval, hchk⟩ := bind_eq_ok.mp hchk
  obtain ⟨message, hop, hchk⟩ := bind_eq_ok.mp hchk
  cases message with
  | offer sessionId version =>
    simp only [bind_eq_ok, refuseIf_eq_ok, not_not] at hchk
    obtain ⟨-, rfl, hid⟩ := hchk
    obtain ⟨ecdh, -, hecdh, -⟩ := opened_of_decryptMessage hop
    simp only [hecdh]
    exact .offerAccepted event sessionId ecdh hrdy hval hop hid hecdh
  | _ => cases hchk

lemma effect_confirmSas (draw : Draw C) : Inverted now s (.confirmSas draw) := by
  refine effect_ready fun event hrdy hchk => ?_
  obtain ⟨sasInput, hin, hchk⟩ := bind_eq_ok.mp hchk
  obtain ⟨peer, hpeer, hblt⟩ := bind_eq_ok.mp hchk
  exact .sasConfirmed draw sasInput peer event hrdy (okOr_eq_ok.mp hin) (okOr_eq_ok.mp hpeer) hblt

lemma effect_handleReturnPayload : Inverted now s (.handleReturnPayload event) := by
  refine effect_ready fun message hrdy hchk => ?_
  have hop := fromPeer_of_peerMessage hchk
  cases message with
  | payload payloadType payload => exact .payloadReturned event payloadType payload hrdy hop
  | _ => exact .refused _ _

lemma effect_handleComplete : Inverted now s (.handleComplete event) := by
  refine effect_ready fun message hrdy hchk => ?_
  have hop := fromPeer_of_peerMessage hchk
  cases message with
  | complete success =>
    cases success with
    | true => exact .completeAccepted event hrdy hop
    | false => exact .completeFailed event _ hrdy hop
  | _ => exact .refused _ _

lemma effect_handleSasConfirm : Inverted now s (.handleSasConfirm event) := by
  refine effect_ready fun ⟨received, expected⟩ hrdy hchk => ?_
  obtain ⟨message, hmessage, hchk⟩ := bind_eq_ok.mp hchk
  have hop := fromPeer_of_peerMessage hmessage
  cases message with
  | sasConfirm text =>
    obtain ⟨sasInput, hin, hchk⟩ := bind_eq_ok.mp hchk
    obtain ⟨peer, hpeer, hchk⟩ := bind_eq_ok.mp hchk
    cases hchk
    have hin := okOr_eq_ok.mp hin
    have hpeer := okOr_eq_ok.mp hpeer
    by_cases hhash : C.decodeHex text = some (s.transcriptHash peer s.pubkey sasInput)
    · simp only [hhash, if_true]
      refine .transcriptMatched event text sasInput peer _ hrdy hop hin hpeer hhash ?_
      intro r hr
      obtain ⟨code, -, rfl⟩ := map_eq_ok.mp hr
      exact ⟨code, rfl⟩
    · simp only [hhash, if_false]
      exact .transcriptMismatched event _ hrdy
  | _ => cases hchk

lemma effect_handlePayload : Inverted now s (.handlePayload event) := by
  refine effect_ready fun message hrdy hchk => ?_
  have hop := fromPeer_of_peerMessage hchk
  cases message with
  | payload payloadType payload => exact .payloadTaken event payloadType payload hrdy hop
  | _ => exact .refused _ _

lemma effect_abort (reason : AbortReason) (draw : Draw C) :
    Inverted now s (.abort reason draw) := by
  refine effect_after fun event hchk => ?_
  obtain ⟨_, hopen, hchk⟩ := bind_eq_ok.mp hchk
  have hopen := Bool.eq_false_iff.mpr (refuseIf_eq_ok.mp hopen)
  by_cases hpeer : s.peerPubkey = none
  · rw [if_pos hpeer] at hchk
    cases hchk
    exact .abortedAlone reason draw hopen
  rw [if_neg hpeer] at hchk
  obtain ⟨sent, hblt, hchk⟩ := bind_eq_ok.mp hchk
  cases hchk
  exact .abortSent reason draw sent hopen hblt

lemma effect_handleAbort : Inverted now s (.handleAbort event) := by
  refine effect_after fun message hchk => ?_
  obtain ⟨_, hopen, hchk⟩ := bind_eq_ok.mp hchk
  have hopen := Bool.eq_false_iff.mpr (refuseIf_eq_ok.mp hopen)
  obtain ⟨_, -, hchk⟩ := bind_eq_ok.mp hchk
  have hop := fromPeer_of_peerMessage hchk
  cases message with
  | abort reason => exact .abortAccepted event reason hopen hop
  | _ => exact .refused _ _

lemma effect_signEvent (builder : EventBuilder C.Content) :
    Inverted now s (.signEvent builder) := by
  show Effect now s _ ((s.signEvent builder).map Reply.publish) s
  unfold signEvent
  cases hblt : C.signWithKeys s.secretKey builder with
  | error err => exact .refused _ _
  | ok event => exact .signed builder event hblt

end Inversion

theorem effect_step (now : ℕ) (call : Call C) (s : PairingSession C) :
    Effect now s call (s.step now call).1 (s.step now call).2 := by
  cases call with
  | handleOffer event => exact effect_handleOffer event
  | confirmSas draw => exact effect_confirmSas draw
  | handleReturnPayload event => exact effect_handleReturnPayload event
  | sendSourceComplete success draw =>
    refine effect_ready fun event hrdy hblt => ?_
    exact .sourceCompleted success draw event hrdy hblt
  | sendPayload payloadType payload draw =>
    refine effect_ready fun event hrdy hblt => ?_
    exact .payloadSent payloadType payload draw event hrdy hblt
  | handleComplete event => exact effect_handleComplete event
  | handleSasConfirm event => exact effect_handleSasConfirm event
  | confirmTargetSas =>
    refine effect_after fun _ hchk => ?_
    exact .targetConfirmed (ready_of_expect hchk)
  | handlePayload event => exact effect_handlePayload event
  | sendComplete draw =>
    refine effect_ready fun event hrdy hblt => ?_
    exact .completeSent draw event hrdy hblt
  | abort reason draw => exact effect_abort reason draw
  | handleAbort event => exact effect_handleAbort event
  | signEvent builder => exact effect_signEvent builder

end PairingSession

end Buzz.Pairing
