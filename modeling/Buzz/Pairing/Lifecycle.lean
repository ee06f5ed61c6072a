import Buzz.Lib.Run
import Buzz.Pairing.Symbolic

/-!
The life of a pairing session.

Along a run of calls, `Watched` records whether the source has sent its payload, and which `complete`
message of the peer it has accepted.
-/

namespace Buzz.Pairing

open Lib Or

variable {C : Crypto} {now : ℕ} {call : Call C} {s s' : PairingSession C}
  {result : Except PairingError (Reply C)}

/-! ### The diagram -/

namespace Role

def next : Role → SessionState → List SessionState
  | source, .waiting => [.confirming, .aborted]
  | source, .confirming => [.transferring, .aborted]
  | target, .confirming => [.awaitingConfirmation, .aborted]
  | target, .awaitingConfirmation => [.transferring, .aborted]
  | _, .transferring => [.payloadExchanged, .aborted]
  | _, .payloadExchanged => [.completed, .aborted]
  | _, .completed => []
  | _, .aborted => []
  | target, .waiting => [.aborted]
  | source, .awaitingConfirmation => [.aborted]

lemma aborted_mem_next {role : Role} (h : state.isTerminal = false) :
    .aborted ∈ role.next state := by
  cases role <;> cases state <;> first | decide | cases h

lemma next_terminal {role : Role} (h : state.isTerminal) : role.next state = [] := by
  cases role <;> cases state <;> first | rfl | cases h

lemma waiting_notMem_next (role : Role) (state : SessionState) : .waiting ∉ role.next state := by
  cases role <;> cases state <;> decide

end Role

/-! ### One call -/

namespace PairingSession

lemma Ready.mem_next {state next : SessionState} {role : Role} (h : s.Ready now state role)
    (hnext : next ∈ role.next state) : next ∈ s.role.next s.state := by
  rw [h.state_eq, h.role_eq]
  exact hnext

section

variable (h : Effect now s call result s')

include h

/-- Every call follows the diagram or leaves the session as it is. -/
theorem Effect.moves : s' = s ∨ s'.state ∈ s.role.next s.state := by
  cases h with
  | refused => exact inl rfl
  | signed => exact inl rfl
  | offerAccepted _ _ _ ready | sasConfirmed _ _ _ _ ready | payloadReturned _ _ _ ready
  | payloadSent _ _ _ _ ready | completeAccepted _ ready | transcriptMatched _ _ _ _ _ ready
  | targetConfirmed ready | payloadTaken _ _ _ ready | completeSent _ _ ready =>
    exact inr (ready.mem_next List.mem_cons_self)
  | sourceCompleted success _ _ ready =>
    cases success with
    | true => exact inr (ready.mem_next List.mem_cons_self)
    | false => exact inr (ready.mem_next (Role.aborted_mem_next rfl))
  | completeFailed _ _ ready | transcriptMismatched _ _ ready =>
    exact inr (ready.mem_next (Role.aborted_mem_next rfl))
  | abortedAlone _ _ hopen | abortSent _ _ _ hopen | abortAccepted _ _ hopen =>
    exact inr (Role.aborted_mem_next hopen)

lemma Effect.eq_of_terminal (hs : s.state.isTerminal) : s' = s := by
  rcases h.moves with heq | hnext
  · exact heq
  · rw [Role.next_terminal hs] at hnext
    cases hnext

/-- What no call changes. -/
structure SameKeys (s s' : PairingSession C) : Prop where
  role : s'.role = s.role
  secretKey : s'.secretKey = s.secretKey
  sessionSecret : s'.sessionSecret = s.sessionSecret
  sessionId : s'.sessionId = s.sessionId

lemma Effect.sameKeys : SameKeys s s' := by
  cases h <;> exact ⟨rfl, rfl, rfl, rfl⟩

end

/-- The peer's key is unknown while the session waits, and known from then on. -/
structure PeerSet (s : PairingSession C) : Prop where
  alone : s.state = .waiting → s.peerPubkey = none
  known : s.state ≠ .waiting → s.state ≠ .aborted → s.peerPubkey.isSome

lemma PeerSet.of_ready {state : SessionState} {role : Role} (hs : s.PeerSet)
    (hrdy : s.Ready now state role) (hwait : state ≠ .waiting) (hab : state ≠ .aborted) :
    s.peerPubkey.isSome := by
  refine hs.known ?_ ?_
  · rw [hrdy.state_eq]
    exact hwait
  · rw [hrdy.state_eq]
    exact hab

lemma Effect.peerSet (h : Effect now s call result s') (hs : s.PeerSet) : s'.PeerSet := by
  rcases h.moves with rfl | hnext
  · exact hs
  refine ⟨fun hwait => ?_, fun _ hab => ?_⟩
  · rw [hwait] at hnext
    exact absurd hnext (Role.waiting_notMem_next _ _)
  -- only an offer is accepted without knowing the peer
  cases h with
  | refused _ _ | signed _ _ => exact hs.known ‹_› hab
  | offerAccepted => rfl
  | sasConfirmed _ _ _ _ ready | payloadReturned _ _ _ ready | sourceCompleted _ _ _ ready
  | payloadSent _ _ _ _ ready | completeAccepted _ ready | completeFailed _ _ ready
  | transcriptMatched _ _ _ _ _ ready | transcriptMismatched _ _ ready | targetConfirmed ready
  | payloadTaken _ _ _ ready | completeSent _ _ ready =>
    exact hs.of_ready ready (by decide) (by decide)
  | abortedAlone | abortSent | abortAccepted => exact absurd rfl hab

lemma Effect.peerPubkey_eq (h : Effect now s call result s') (hs : s.PeerSet)
    (hkey : s.peerPubkey = some key) : s'.peerPubkey = some key := by
  cases h with
  | offerAccepted event sessionId ecdh ready =>
    rw [hs.alone ready.state_eq] at hkey
    cases hkey
  | _ => exact hkey

/-- A session as one of the constructors returns it. -/
inductive Starts : PairingSession C → Prop
  | source (secretKey : C.SecretKey) (sessionSecret : C.Word) (relayUrl : String) (now : ℕ) :
      Starts (newSource secretKey sessionSecret relayUrl now).1
  | target (qr : QrPayload C) (secretKey : C.SecretKey) (draw : Draw C) (now : ℕ)
      (s : PairingSession C) (offer : C.Event) (h : newTarget qr secretKey draw now = .ok (s, offer)) :
      Starts s

lemma newTarget_eq_ok {secretKey : C.SecretKey}
    (h : newTarget qr secretKey draw now = .ok (s, offer)) :
    s.state = .confirming ∧ s.role = .target ∧ s.secretKey = secretKey ∧
      s.peerPubkey = some qr.sourcePubkey ∧ s.sessionSecret = qr.sessionSecret ∧
      { s with state := .waiting }.buildEvent draw
        (.offer (C.encodeHex (C.deriveSessionId qr.sessionSecret)) 1) = .ok offer := by
  simp only [newTarget, bind_eq_ok, mapError_eq_ok] at h
  obtain ⟨ecdh, -, event, hblt, hret⟩ := h
  cases hret
  exact ⟨rfl, rfl, rfl, rfl, rfl, hblt⟩

lemma Starts.peerSet (h : s.Starts) : s.PeerSet := by
  cases h with
  | source => exact ⟨fun _ => rfl, fun h => absurd rfl h⟩
  | target qr secretKey draw now _ offer h =>
    obtain ⟨hst, -, -, hpeer, -⟩ := newTarget_eq_ok h
    refine ⟨fun hwait => ?_, fun _ _ => ?_⟩
    · rw [hst] at hwait
      cases hwait
    · rw [hpeer]
      rfl

/-! ### Failed calls -/

/-- The code and the input of the authentication string are set together. -/
def SasSet (s : PairingSession C) : Prop := s.sasCode.isSome = s.sasInput.isSome

lemma Effect.sasSet (h : Effect now s call result s') (hs : s.SasSet) : s'.SasSet := by
  cases h with
  | offerAccepted => rfl
  | _ => exact hs

lemma Starts.sasSet (h : s.Starts) : s.SasSet := by
  cases h with
  | source => rfl
  | target qr secretKey draw now _ offer h =>
    simp only [newTarget, bind_eq_ok] at h
    obtain ⟨_, -, _, -, hret⟩ := h
    cases hret
    rfl

/-- The failures that end a session. -/
inductive EndsSession (s : PairingSession C) : Call C → PairingError → Prop
  | mismatch (event : C.Event) : EndsSession s (.handleSasConfirm event) .transcriptMismatch
  | incomplete (event : C.Event) (err : PairingError)
      (opens : s.decryptMessage event = .ok (.complete false)) :
      EndsSession s (.handleComplete event) err

lemma failed_handleSasConfirm (hs : s.SasSet)
    (h : (s.step now (.handleSasConfirm event)).1 = .error err) :
    (s.step now (.handleSasConfirm event)).2 = s ∨ err = .transcriptMismatch ∧
        (s.step now (.handleSasConfirm event)).2 = { s with state := .aborted } := by
  simp only [step, reply, handleSasConfirm, after] at h ⊢
  cases hchk : s.checkSasConfirm now event with
  | error err => exact .inl rfl
  | ok hashes =>
    simp only [hchk] at h ⊢
    split_ifs at h ⊢ with hmt
    · -- the input was there, so the code is
      obtain ⟨_, -, hchk⟩ := bind_eq_ok.mp hchk
      obtain ⟨message, -, hchk⟩ := bind_eq_ok.mp hchk
      cases message with
      | sasConfirm text =>
        obtain ⟨sasInput, hin, -⟩ := bind_eq_ok.mp hchk
        rw [SasSet, okOr_eq_ok.mp hin] at hs
        obtain ⟨code, hcode⟩ := Option.isSome_iff_exists.mp hs
        rw [hcode] at h
        cases h
      | _ => cases hchk
    · cases h
      exact .inr ⟨rfl, rfl⟩

/-- A call that fails leaves the session as it was, or ends it. -/
lemma failed_step (hs : s.SasSet) (h : (s.step now call).1 = .error err) : (s.step now call).2 = s ∨
      EndsSession s call err ∧ (s.step now call).2 = { s with state := .aborted } := by
  have heff := effect_step now call s
  rw [h] at heff
  generalize hs' : (s.step now call).2 = s' at heff ⊢
  cases heff with
  | refused => exact .inl rfl
  | completeFailed event _ _ opens => exact .inr ⟨.incomplete event err opens.opens, rfl⟩
  | _ =>
    have hfail := failed_handleSasConfirm hs h
    rw [hs'] at hfail
    refine hfail.imp id ?_
    rintro ⟨rfl, hab⟩
    exact ⟨.mismatch _, hab⟩

lemma Effect.processedIds_subset (h : Effect now s call result s') :
    s.processedIds ⊆ s'.processedIds := by
  cases h <;> first | exact Finset.Subset.refl _ | exact Finset.subset_insert _ _

lemma handleAbort_of_not_abort (h : ∀ reason, s.decryptMessage event ≠ .ok (.abort reason)) :
    (s.step now (.handleAbort event)).2 = s := by
  have heff := effect_step now (.handleAbort event) s
  generalize (s.step now (.handleAbort event)).1 = result,
    (s.step now (.handleAbort event)).2 = s' at heff ⊢
  cases heff with
  | refused => rfl
  | abortAccepted _ reason _ opens => exact absurd opens.opens (h reason)

end PairingSession

/-! ### Runs -/

/-- A session, whether it has sent its payload, and the `complete` message it has accepted. -/
structure Watched (C : Crypto) where
  session : PairingSession C
  sent : Bool
  confirmation : Option C.Event

namespace Watched

open PairingSession

def hasSent (call : Call C) (result : Except PairingError (Reply C)) : Bool :=
  match call, result with
  | .sendPayload _ _ _, .ok _ => true
  | _, _ => false

def confirmationOf (call : Call C) (result : Except PairingError (Reply C)) : Option C.Event :=
  match call, result with
  | .handleComplete event, .ok _ => some event
  | _, _ => none

def step (w : Watched C) (act : ℕ × Call C) : Watched C :=
  let r := w.session.step act.1 act.2
  ⟨r.2, w.sent || hasSent act.2 r.1, (confirmationOf act.2 r.1).or w.confirmation⟩

def run (s : PairingSession C) (acts : List (ℕ × Call C)) : Watched C :=
  acts.foldl step ⟨s, false, none⟩

/-- What a run promises up to here: a terminal state stays, the peer's key stays, and a source that has
sent its payload is completed only if it has accepted a valid `complete` message of its peer. -/
structure Proper (s : PairingSession C) (acts : List (ℕ × Call C)) : Prop where
  absorbing : ∀ past, past <+: acts → (run s past).session.state.isTerminal →
    (run s acts).session.state = (run s past).session.state
  peer : ∀ past key, past <+: acts → (run s past).session.peerPubkey = some key →
    (run s acts).session.peerPubkey = some key
  confirmed : (run s acts).sent → (run s acts).session.state = .completed →
    ∃ event, (run s acts).confirmation = some event ∧ C.verify event = .ok () ∧
      (run s acts).session.peerPubkey = some event.pubkey ∧
      (run s acts).session.decryptMessage event = .ok (.complete true)

/-- The step does not report the import of a returned payload for a session that has sent one. -/
def ReportsOwnImport (w : Watched C) (act : ℕ × Call C) : Prop :=
  match act.2 with
  | .sendSourceComplete true _ =>
    w.sent → w.session.state = .payloadExchanged → w.session.isExpired act.1
  | _ => True

/-- What the runs preserve. -/
structure Inv (w : Watched C) : Prop where
  peer : w.session.PeerSet
  role : w.sent → w.session.role = .source
  confirmed : w.sent → w.session.state = .completed → ∃ event, w.confirmation = some event
  genuine : ∀ event, w.confirmation = some event → C.verify event = .ok () ∧
    w.session.peerPubkey = some event.pubkey ∧ w.session.decryptMessage event = .ok (.complete true)

section Steps

variable {w : Watched C}

lemma decryptMessage_eq (h : s'.secretKey = s.secretKey) (event : C.Event) :
    s'.decryptMessage event = s.decryptMessage event := by
  unfold decryptMessage
  rw [h]

section Effects

variable (h : Effect now s call result s')

include h

lemma accepted_of_confirmationOf (hev : confirmationOf call result = some event) :
    s.Ready now .payloadExchanged .source ∧ s.FromPeer event (.complete true) := by
  cases h with
  | completeAccepted accepted ready opens =>
    cases hev
    exact ⟨ready, opens⟩
  | refused call err => cases call <;> cases hev
  | _ => cases hev

lemma ready_of_hasSent (hsent : hasSent call result) :
    s.Ready now .transferring .source ∧ s'.state = .payloadExchanged := by
  cases h with
  | payloadSent payloadType payload draw event ready => exact ⟨ready, rfl⟩
  | refused call err => cases call <;> cases hsent
  | _ => cases hsent

lemma completed_cases (hs : s'.state = .completed) : s' = s ∨ s.role = .target ∨
      (∃ draw, call = .sendSourceComplete true draw ∧ s.Ready now .payloadExchanged .source) ∨
      ∃ event, call = .handleComplete event ∧ result = .ok .done := by
  cases h with
  | refused => exact inl rfl
  | signed => exact inl rfl
  | completeAccepted event => exact inr (inr (inr ⟨event, rfl, rfl⟩))
  | completeSent draw event ready => exact inr (inl ready.role_eq)
  | sourceCompleted success draw event ready =>
    cases success with
    | true => exact inr (inr (inl ⟨draw, rfl, ready⟩))
    | false => cases hs
  | _ => cases hs

end Effects

lemma Inv.genuine_step (h : w.Inv) (act : ℕ × Call C) (event : C.Event)
    (hev : (w.step act).confirmation = some event) : C.verify event = .ok () ∧
      (w.step act).session.peerPubkey = some event.pubkey ∧
      (w.step act).session.decryptMessage event = .ok (.complete true) := by
  have heff := effect_step act.1 act.2 w.session
  have hkey := decryptMessage_eq heff.sameKeys.secretKey event
  rcases Option.or_eq_some_iff.mp hev with hnew | ⟨-, hold⟩
  · -- the message accepted by this call
    obtain ⟨hrdy, hop⟩ := accepted_of_confirmationOf heff hnew
    obtain ⟨key, hpeer⟩ := Option.isSome_iff_exists.mp
      (h.peer.of_ready hrdy (by decide) (by decide))
    have hpk := hop.pubkey_eq hpeer
    refine ⟨hop.verified, heff.peerPubkey_eq h.peer ?_, hkey.trans hop.opens⟩
    rw [hpeer, hpk]
  · obtain ⟨hvf, hpeer, hop⟩ := h.genuine event hold
    exact ⟨hvf, heff.peerPubkey_eq h.peer hpeer, hkey.trans hop⟩

lemma Inv.role_step (h : w.Inv) (act : ℕ × Call C) (hsent : (w.step act).sent) :
    (w.step act).session.role = .source := by
  have heff := effect_step act.1 act.2 w.session
  refine heff.sameKeys.role.trans ?_
  rcases (Bool.or_eq_true _ _).mp hsent with hold | hnew
  · exact h.role hold
  · exact (ready_of_hasSent heff hnew).1.role_eq

lemma Inv.confirmed_step (h : w.Inv) (hact : w.ReportsOwnImport act)
    (hsent : (w.step act).sent) (hst : (w.step act).session.state = .completed) :
    ∃ event, (w.step act).confirmation = some event := by
  have heff := effect_step act.1 act.2 w.session
  have hold : w.sent := by
    rcases (Bool.or_eq_true _ _).mp hsent with hold | hnew
    · exact hold
    have hexchanged : (w.step act).session.state = .payloadExchanged :=
      (ready_of_hasSent heff hnew).2
    rw [hexchanged] at hst
    cases hst
  rcases completed_cases heff hst with hsame | htgt | ⟨draw, hcall, hrdy⟩ | ⟨event, hcall, hres⟩
  · -- it was completed before
    have hpre : w.session.state = .completed := hsame ▸ hst
    obtain ⟨event, hev⟩ := h.confirmed hold hpre
    show ∃ event, (confirmationOf act.2 _).or w.confirmation = some event
    rw [hev]
    cases confirmationOf act.2 (w.session.step act.1 act.2).1 with
    | none => exact ⟨event, rfl⟩
    | some accepted => exact ⟨accepted, rfl⟩
  · rw [h.role hold] at htgt
    cases htgt
  · -- the run reports no import of its own
    unfold ReportsOwnImport at hact
    rw [hcall] at hact
    have hexp := hact hold hrdy.state_eq
    rw [hrdy.fresh] at hexp
    cases hexp
  refine ⟨event, ?_⟩
  show (confirmationOf act.2 (w.session.step act.1 act.2).1).or w.confirmation = some event
  rw [hres, hcall]
  rfl

theorem Inv.step (h : w.Inv) (hact : w.ReportsOwnImport act) : (w.step act).Inv where
  peer := (effect_step act.1 act.2 w.session).peerSet h.peer
  role := h.role_step act
  confirmed := h.confirmed_step hact
  genuine := h.genuine_step act

lemma inv_run (hs : s.Starts)
    (h : AllSteps step ReportsOwnImport ⟨s, false, none⟩ acts) : (run s acts).Inv := by
  refine h.invariant (I := Inv) (fun w act hw hact => hw.step hact) ?_
  refine ⟨hs.peerSet, fun h => ?_, fun h => ?_, fun _ h => ?_⟩
  · cases h
  · cases h
  · cases h

end Steps

/-! ### Whole runs -/

lemma run_append (past rest : List (ℕ × Call C)) :
    run s (past ++ rest) = rest.foldl step (run s past) := List.foldl_append

lemma terminal_foldl (acts : List (ℕ × Call C))
    (h : w.session.state.isTerminal) : (acts.foldl step w).session = w.session := by
  induction acts generalizing w with
  | nil => rfl
  | cons act acts ih =>
    have hstep : (w.step act).session = w.session :=
      (effect_step act.1 act.2 w.session).eq_of_terminal h
    refine (ih ?_).trans hstep
    rw [hstep]
    exact h

lemma peerPubkey_foldl (acts : List (ℕ × Call C)) (hw : w.session.PeerSet)
    (h : w.session.peerPubkey = some key) : (acts.foldl step w).session.peerPubkey = some key := by
  induction acts generalizing w with
  | nil => exact h
  | cons act acts ih =>
    have heff := effect_step act.1 act.2 w.session
    exact ih (heff.peerSet hw) (heff.peerPubkey_eq hw h)

lemma session_run {I : PairingSession C → Prop}
    (hstep : ∀ {now call result s s'}, Effect now s call result s' → I s → I s') (h : I s)
    (acts : List (ℕ × Call C)) : I (run s acts).session := by
  refine List.foldlRecOn (motive := fun w : Watched C => I w.session) acts step h ?_
  intro w hw act _
  exact hstep (effect_step act.1 act.2 w.session) hw

/-- In every run that does not report an import of its own once it has sent a payload, terminal states
stay, the peer's key stays, and a source that has sent its payload completes only with the peer's
confirmation. -/
theorem proper_run {acts : List (ℕ × Call C)} (hs : s.Starts)
    (h : AllSteps step ReportsOwnImport ⟨s, false, none⟩ acts) (past : List (ℕ × Call C))
    (hpast : past <+: acts) : Proper s past := by
  obtain ⟨rest, rfl⟩ := hpast
  have hinv := inv_run hs (allSteps_append.mp h).1
  refine ⟨?_, ?_, ?_⟩
  · rintro before ⟨after, rfl⟩ hterminal
    rw [run_append, terminal_foldl after hterminal]
  · rintro before key ⟨after, rfl⟩ hkey
    rw [run_append]
    exact peerPubkey_foldl after (session_run (·.peerSet) hs.peerSet before) hkey
  intro hsent hstate
  obtain ⟨event, hevent⟩ := hinv.confirmed hsent hstate
  exact ⟨event, hevent, hinv.genuine event hevent⟩

/-- **Failed calls.** At any point of a session's life, a call that fails leaves the session as it was,
but for the two failures that end it; only a call that succeeds adds to the processed events; and an
event that is no abort can be offered to `handleAbort` first, which leaves the session alone. -/
theorem failed_call_keeps (hs : s.Starts) (acts : List (ℕ × Call C)) (now : ℕ) (call : Call C) :
    let s' := (run s acts).session
    let r := s'.step now call
    (∀ err, r.1 = .error err →
      r.2 = s' ∨ EndsSession s' call err ∧ r.2 = { s' with state := .aborted }) ∧
    s'.processedIds ⊆ r.2.processedIds ∧
    (r.2.processedIds ≠ s'.processedIds → ∃ reply, r.1 = .ok reply) ∧
    ∀ event, (∀ reason, s'.decryptMessage event ≠ .ok (.abort reason)) →
      (s'.step now (.handleAbort event)).2 = s' := by
  intro s' r
  have hfailed : ∀ err, r.1 = .error err →
      r.2 = s' ∨ EndsSession s' call err ∧ r.2 = { s' with state := .aborted } :=
    fun err => failed_step (session_run (fun heffect => heffect.sasSet) hs.sasSet acts)
  refine ⟨hfailed, (effect_step now call s').processedIds_subset, fun hgrown => ?_,
    fun event => handleAbort_of_not_abort⟩
  cases hresult : r.1 with
  | ok reply => exact ⟨reply, rfl⟩
  | error err =>
    -- neither kind of failure records the event
    rcases hfailed err hresult with hsame | ⟨-, haborted⟩
    · exact absurd (congrArg processedIds hsame) hgrown
    · exact absurd (congrArg processedIds haborted) hgrown

/-! ### A pairing -/

def message (sender peer : Agent) (n : ℕ) (m : PairingMessage FreeText) :
    (symbolic freeCodec).Event :=
  let builder : EventBuilder (Content FreeText) := ⟨pairingKind, [⟨"p", [freeCodec.toHex peer]⟩],
    .sealed (sharedKey sender peer) (.random n) (FreeText.toJson m), 100⟩
  { toEventBuilder := builder, pubkey := sender, id := (sender, builder),
    sig := .made sender (sender, builder) }

def draw (n : ℕ) : Draw (symbolic freeCodec) := ⟨.random n, 100, 31⟩

def pairedSource : PairingSession (symbolic freeCodec) :=
  (newSource (C := symbolic freeCodec) .source (.random 0) "wss://relay.test" 0).1

def payloadRun : List (ℕ × Call (symbolic freeCodec)) :=
  [(1, .handleOffer (message .target .source 1 (.offer (.hex pairedSource.sessionId) 1))),
    (2, .confirmSas (draw 2)),
    (3, .sendPayload .nsec (.chars "nsec1") (draw 3))]

def confirmedRun : List (ℕ × Call (symbolic freeCodec)) :=
  payloadRun ++ [(4, .handleComplete (message .target .source 4 (.complete true)))]

def unconfirmedRun : List (ℕ × Call (symbolic freeCodec)) :=
  payloadRun ++ [(4, .sendSourceComplete true (draw 4))]

lemma pairedSource_starts : pairedSource.Starts := .source _ _ _ _

theorem proper_confirmedRun :
    ((run pairedSource confirmedRun).sent = true ∧
      (run pairedSource confirmedRun).session.state = .completed) ∧
    Proper pairedSource confirmedRun :=
  have hsteps : AllSteps step ReportsOwnImport ⟨pairedSource, false, none⟩ confirmedRun :=
    ⟨trivial, trivial, trivial, trivial, trivial⟩
  ⟨⟨by decide +kernel, by decide +kernel⟩, proper_run pairedSource_starts hsteps confirmedRun
    (List.prefix_refl _)⟩

theorem failed_call_keeps_refusal :
    let s := (run pairedSource payloadRun).session
    let r := s.step 4 (.handleComplete (message .target .source 4 (.complete false)))
    s.state = .payloadExchanged ∧ r.2.state = .aborted ∧ r.2.processedIds = s.processedIds ∧
      pairedSource.Starts ∧ s.processedIds ⊆ r.2.processedIds :=
  ⟨by decide +kernel, by decide +kernel, by decide +kernel, pairedSource_starts,
    (failed_call_keeps pairedSource_starts payloadRun 4
      (.handleComplete (message .target .source 4 (.complete false)))).2.1⟩

/-- After sending its payload, a source is completed by its own call. -/
theorem unconfirmed_completion :
    pairedSource.Starts ∧ ((run pairedSource unconfirmedRun).sent = true ∧
      (run pairedSource unconfirmedRun).session.state = .completed ∧
      (run pairedSource unconfirmedRun).confirmation.isNone = true) ∧
    ¬Proper pairedSource unconfirmedRun := by
  have hsent : (run pairedSource unconfirmedRun).sent := by decide +kernel
  have hstate : (run pairedSource unconfirmedRun).session.state = .completed := by decide +kernel
  have hnone : (run pairedSource unconfirmedRun).confirmation.isNone := by decide +kernel
  refine ⟨pairedSource_starts, ⟨hsent, hstate, hnone⟩, fun hproper => ?_⟩
  obtain ⟨event, hevent, -⟩ := hproper.confirmed hsent hstate
  rw [hevent] at hnone
  cases hnone

end Watched

end Buzz.Pairing
