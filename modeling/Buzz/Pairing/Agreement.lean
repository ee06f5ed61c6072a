import Buzz.Pairing.Lifecycle

/-!
Agreement of the two sides under an adversarial relay.

A source and a target that has scanned a code with the source's key, and a relay that hands them
whatever it can make: it sees every event, knows all keys but those of the two parties and all secrets
and texts, and can replay, alter and sign as it likes.  What it cannot make is the encryption of a text
under a key of the two parties.
-/

namespace Buzz.Pairing

open Lib PairingSession List Watched Or

variable {k : Codec} (sessionSecret : Word)

/-! ### The parties and the relay -/

/-- Both sessions, the published events, and a record of what the users and the sessions did. -/
structure World (k : Codec) where
  source : PairingSession (symbolic k)
  target : PairingSession (symbolic k)
  published : List (symbolic k).Event
  /-- The peers for which the source's user has confirmed the authentication string. -/
  sourceConfirmed : List Agent
  targetConfirmed : Bool
  sent : List (PayloadType × k.Text)
  sourceTook : List (PayloadType × k.Text)
  targetTook : List (PayloadType × k.Text)

/-- A call of one side, with the clock it reads. -/
inductive Act (k : Codec)
  | source (now : ℕ) (call : Call (symbolic k))
  | target (now : ℕ) (call : Call (symbolic k))

def Act.call : Act k → Call (symbolic k)
  | source _ call => call
  | target _ call => call

namespace World

def publishedBy (result : Except PairingError (Reply (symbolic k))) : List (symbolic k).Event :=
  match result with
  | .ok (.publish event) => [event]
  | _ => []

def takenBy (result : Except PairingError (Reply (symbolic k))) : List (PayloadType × k.Text) :=
  match result with
  | .ok (.payload payloadType payload) => [(payloadType, payload)]
  | _ => []

def sentBy (call : Call (symbolic k)) (result : Except PairingError (Reply (symbolic k))) :
    List (PayloadType × k.Text) :=
  match call, result with
  | .sendPayload payloadType payload _, .ok _ => [(payloadType, payload)]
  | _, _ => []

def confirmedBy (peer : Option Agent) (call : Call (symbolic k))
    (result : Except PairingError (Reply (symbolic k))) : List Agent :=
  match call, result with
  | .confirmSas _, .ok _ => peer.toList
  | _, _ => []

def isTargetConfirmation (call : Call (symbolic k))
    (result : Except PairingError (Reply (symbolic k))) : Bool :=
  match call, result with
  | .confirmTargetSas, .ok _ => true
  | _, _ => false

variable (w : World k)

def step : Act k → World k
  | .source now call =>
    let r := w.source.step now call
    { w with
      source := r.2
      published := w.published ++ publishedBy r.1
      sourceConfirmed := w.sourceConfirmed ++ confirmedBy w.source.peerPubkey call r.1
      sent := w.sent ++ sentBy call r.1
      sourceTook := w.sourceTook ++ takenBy r.1 }
  | .target now call =>
    let r := w.target.step now call
    { w with
      target := r.2
      published := w.published ++ publishedBy r.1
      targetConfirmed := w.targetConfirmed || isTargetConfirmation call r.1
      targetTook := w.targetTook ++ takenBy r.1 }

def isPrivate (key : Word) : Bool :=
  key = sharedKey .source .target ∨ key = sharedKey .source .source ∨
    key = sharedKey .target .target

def contents : List (Content k.Text) := w.published.map fun event => event.content

/-- The relay can make the content: it has seen it, or it knows the key. -/
def CanMake (content : Content k.Text) : Prop :=
  match content with
  | .plain _ => True
  | .sealed key nonce text => isPrivate key = false ∨ .sealed key nonce text ∈ w.contents

instance (w : World k) (content : Content k.Text) : Decidable (w.CanMake content) :=
  match content with
  | .plain _ => inferInstanceAs (Decidable True)
  | .sealed _ _ _ => inferInstanceAs (Decidable (_ ∨ _))

def handed : Call (symbolic k) → Option (Content k.Text)
  | .handleOffer event => some event.content
  | .handleReturnPayload event => some event.content
  | .handleComplete event => some event.content
  | .handleSasConfirm event => some event.content
  | .handlePayload event => some event.content
  | .handleAbort event => some event.content
  | .signEvent builder => some builder.content
  | _ => none

/-- The relay can make what the call is handed. -/
def Possible (act : Act k) : Prop := (handed act.call).elim True w.CanMake

instance (w : World k) (act : Act k) : Decidable (w.Possible act) :=
  match h : handed act.call with
  | none => isTrue (by simp [Possible, h])
  | some content => decidable_of_iff (w.CanMake content) (by simp [Possible, h])

end World

open World

/-! ### The start -/

/-- The source shows its code, and the target scans one with the source's key. -/
inductive World.Init (sessionSecret qrSecret : Word) : World k → Prop
  | intro (relayUrl : String) (now : ℕ) (qr : QrPayload (symbolic k)) (draw : Draw (symbolic k))
      (now' : ℕ) (target : PairingSession (symbolic k)) (offer : (symbolic k).Event)
      (hkey : qr.sourcePubkey = .source) (hsecret : qr.sessionSecret = qrSecret)
      (htarget : newTarget qr .target draw now' = .ok (target, offer)) :
      Init sessionSecret qrSecret
        { source := (newSource (C := symbolic k) .source sessionSecret relayUrl now).1
          target := target
          published := [offer]
          sourceConfirmed := []
          targetConfirmed := false
          sent := []
          sourceTook := []
          targetTook := [] }

/-! ### One payload at most -/

variable {s s' : PairingSession (symbolic k)} {now : ℕ} {call : Call (symbolic k)}
  {result : Except PairingError (Reply (symbolic k))}

section Once

variable {took : List (PayloadType × k.Text)}

def SessionState.isPast : SessionState → Bool
  | payloadExchanged => true
  | completed => true
  | aborted => true
  | _ => false

/-- A session has yielded nothing, or one payload and is past that. -/
def Once (s : PairingSession (symbolic k)) (took : List (PayloadType × k.Text)) : Prop :=
  took = [] ∨ took.length = 1 ∧ s.state.isPast

lemma isPast_of_mem_next {role : Role} {state state' : SessionState} (h : state.isPast)
    (hnext : state' ∈ role.next state) : state'.isPast := by
  cases role <;> cases state <;> cases state' <;> simp_all [SessionState.isPast, Role.next]

/-- A code is neither published nor taken. -/
lemma silent_of_code (hcode : ∀ r, result = .ok r → ∃ sas, r = .sas sas) :
    publishedBy result = [] ∧ takenBy result = [] := by
  cases hres : result with
  | error err => exact ⟨rfl, rfl⟩
  | ok r =>
    obtain ⟨sas, rfl⟩ := hcode r hres
    exact ⟨rfl, rfl⟩

lemma taken_cases (h : Effect now s call result s') : takenBy result = [] ∨
    (takenBy result).length = 1 ∧ s.state = .transferring ∧ s'.state.isPast := by
  cases h with
  | payloadReturned event payloadType payload ready
  | payloadTaken event payloadType payload ready =>
    exact inr ⟨rfl, ready.state_eq, rfl⟩
  | transcriptMatched event received sasInput peer result ready opens input known hash code =>
    exact inl (silent_of_code code).2
  | _ => exact inl rfl

lemma Once.step (h : Once s took) (heff : Effect now s call result s') :
    Once s' (took ++ takenBy result) := by
  rcases taken_cases heff with hnone | ⟨hone, hst, hpast⟩
  · rw [hnone, append_nil]
    rcases h with hnil | ⟨hlen, hpast⟩
    · exact inl hnil
    refine inr ⟨hlen, ?_⟩
    rcases heff.moves with hsame | hnext
    · rw [hsame]
      exact hpast
    · exact isPast_of_mem_next hpast hnext
  rcases h with hnil | ⟨-, hpre⟩
  · rw [hnil]
    exact inr ⟨hone, hpast⟩
  · rw [hst] at hpre
    cases hpre

end Once

/-! ### What the ciphertexts say -/

/-- The record backs the message: a source that confirms has confirmed the target's key and knows the
secret, and a payload was sent. -/
def Backed (confirmed : List Agent) (sent : List (PayloadType × k.Text)) :
    PairingMessage k.Text → Prop
  | .sasConfirm hash => .target ∈ confirmed ∧
      ∃ ikm info, k.decodeHex hash = some (.hkdf (Word.concat [sessionSecret]) ikm info)
  | .payload payloadType payload => (payloadType, payload) ∈ sent
  | _ => True

lemma Backed.mono {sessionSecret : Word} {sent sent' : List (PayloadType × k.Text)}
    (h : Backed sessionSecret confirmed sent m) (hconf : confirmed ⊆ confirmed')
    (hsent : sent ⊆ sent') : Backed sessionSecret confirmed' sent' m := by
  cases m with
  | sasConfirm hash => exact ⟨hconf h.1, h.2⟩
  | payload payloadType payload => exact hsent h
  | _ => trivial

/-- Content that only the two parties can have encrypted has a message that the record backs. -/
def Authentic (confirmed : List Agent) (sent : List (PayloadType × k.Text))
    (content : Content k.Text) : Prop :=
  ∀ nonce text, content = .sealed (sharedKey .source .target) nonce text →
    ∀ m, k.fromJson text = .ok m → Backed sessionSecret confirmed sent m

variable {sent : List (PayloadType × k.Text)} {event : (symbolic k).Event} {confirmed : List Agent}

section Contents

variable {draw : Draw (symbolic k)} {m : PairingMessage k.Text} {sessionSecret : Word}

lemma Authentic.mono
    {sent' : List (PayloadType × k.Text)} (h : Authentic sessionSecret confirmed sent content)
    (hconf : confirmed ⊆ confirmed') (hsent : sent ⊆ sent') :
    Authentic sessionSecret confirmed' sent' content :=
  fun nonce text hcont m hm => (h nonce text hcont m hm).mono hconf hsent

lemma authentic_of_built (hblt : s.buildEvent draw m = .ok event)
    (hm : (s.secretKey = .source → s.peerPubkey = some .target) →
      Backed sessionSecret confirmed sent m) : Authentic sessionSecret confirmed sent event.content := by
  obtain ⟨peer, nonce', hpeer, hcontent'⟩ := sealed_of_buildEvent hblt
  intro nonce text hcont m' hm'
  rw [hcontent'] at hcont
  injection hcont with hkey hnonce htext
  rw [← htext, k.fromJson_toJson] at hm'
  cases hm'
  refine hm fun hsrc => ?_
  rw [hsrc] at hkey
  rw [hpeer, sharedKey_right_inj.mp hkey]

lemma World.CanMake.authentic {w : World k} (h : w.CanMake content)
    (hall : ∀ event ∈ w.published, Authentic sessionSecret confirmed sent event.content) :
    Authentic sessionSecret confirmed sent content := by
  intro nonce text hcont
  subst hcont
  rcases h with hkey | hseen
  · exact absurd hkey (by decide)
  · obtain ⟨event, hev, hsame⟩ := mem_map.mp hseen
    exact hall event hev nonce text hsame

lemma backed_of_fromPeer (hkey : s.secretKey = .target) (hpeer : s.peerPubkey = some .source)
    (hop : s.FromPeer event m) (hev : Authentic sessionSecret confirmed sent event.content) :
    Backed sessionSecret confirmed sent m := by
  obtain ⟨nonce, text, hcont, hjson⟩ := sealed_of_decryptMessage hop.opens
  have hpk : event.pubkey = .source := hop.pubkey_eq hpeer
  rw [hkey, hpk, sharedKey_comm] at hcont
  exact hev nonce text hcont m hjson

end Contents

/-! ### What is published -/

/-- The message that a call of the session encrypts. -/
inductive Builds (s : PairingSession (symbolic k)) :
    Call (symbolic k) → PairingMessage k.Text → Prop where
  | sasConfirm (draw : Draw (symbolic k)) (peer : Agent) (sasInput : Word) (hrole : s.role = .source)
      (hpeer : s.peerPubkey = some peer) :
      Builds s (.confirmSas draw) (.sasConfirm (k.encodeHex (s.transcriptHash s.pubkey peer sasInput)))
  | payload (payloadType : PayloadType) (text : k.Text) (draw : Draw (symbolic k))
      (hrole : s.role = .source) :
      Builds s (.sendPayload payloadType text draw) (.payload payloadType text)
  | complete (call : Call (symbolic k)) (success : Bool) : Builds s call (.complete success)
  | abort (call : Call (symbolic k)) (reason : AbortReason) : Builds s call (.abort reason)

section Published

lemma published_cases (h : Effect now s call result s') (hev : event ∈ publishedBy result) :
    (∃ builder, call = .signEvent builder ∧ event.content = builder.content) ∨
      ∃ draw m r, result = .ok r ∧ s.buildEvent draw m = .ok event ∧ Builds s call m := by
  cases h with
  | sasConfirmed draw sasInput peer event' ready input known built =>
    cases mem_singleton.mp hev
    exact inr ⟨draw, _, _, rfl, built, .sasConfirm draw peer sasInput ready.role_eq known⟩
  | payloadSent payloadType payload draw event' ready built =>
    cases mem_singleton.mp hev
    exact inr ⟨draw, _, _, rfl, built, .payload payloadType payload draw ready.role_eq⟩
  | sourceCompleted success draw event' ready built =>
    cases mem_singleton.mp hev
    exact inr ⟨draw, _, _, rfl, built, .complete _ success⟩
  | completeSent draw event' ready built =>
    cases mem_singleton.mp hev
    exact inr ⟨draw, _, _, rfl, built, .complete _ true⟩
  | abortSent reason draw event' hopen built =>
    cases mem_singleton.mp hev
    exact inr ⟨draw, _, _, rfl, built, .abort _ reason⟩
  | signed builder event' built =>
    cases mem_singleton.mp hev
    cases built
    exact inl ⟨builder, rfl, rfl⟩
  | transcriptMatched event' received sasInput peer result ready opens input known hash code =>
    rw [(silent_of_code code).1] at hev
    cases hev
  | _ => cases hev

variable {sessionSecret : Word}

lemma authentic_source (hkey : s.secretKey = .source) (hsec : s.sessionSecret = sessionSecret)
    (h : Effect now s call result s') (hev : event ∈ publishedBy result)
    (hgiven : ∀ builder, call = .signEvent builder →
      Authentic sessionSecret confirmed sent builder.content) :
    Authentic sessionSecret (confirmed ++ confirmedBy s.peerPubkey call result)
      (sent ++ sentBy call result) event.content := by
  rcases published_cases h hev with ⟨builder, hcall, hcont⟩ | ⟨draw, m, r, rfl, hblt, hm⟩
  · rw [hcont]
    exact (hgiven builder hcall).mono (subset_append_left _ _) (subset_append_left _ _)
  refine authentic_of_built hblt fun hpeer => ?_
  cases hm with
  | sasConfirm draw' peer sasInput hrole hpeer' =>
    refine ⟨mem_append_right _ ?_, ?_⟩
    · show Agent.target ∈ s.peerPubkey.toList
      rw [hpeer hkey]
      exact mem_singleton_self _
    · rw [← hsec]
      exact ⟨_, _, k.decodeHex_encodeHex _⟩
  | payload payloadType text draw' hrole =>
    exact mem_append_right _ (mem_singleton_self _)
  | complete => trivial
  | abort => trivial

lemma authentic_target (hrole : s.role = .target) (h : Effect now s call result s')
    (hev : event ∈ publishedBy result) (hgiven : ∀ builder, call = .signEvent builder →
      Authentic sessionSecret confirmed sent builder.content) :
    Authentic sessionSecret confirmed sent event.content := by
  rcases published_cases h hev with ⟨builder, hcall, hcont⟩ | ⟨draw, m, r, -, hblt, hm⟩
  · rw [hcont]
    exact hgiven builder hcall
  refine authentic_of_built hblt fun _ => ?_
  cases hm with
  | sasConfirm draw' peer sasInput hsrc | payload payloadType text draw' hsrc =>
    rw [hrole] at hsrc
    cases hsrc
  | complete => trivial
  | abort => trivial

end Published

/-! ### The invariant -/

/-- The states of a target behind a `sas-confirm` message, and behind its user's confirmation. -/
def SessionState.hasAgreed : SessionState → Bool
  | awaitingConfirmation => true
  | transferring => true
  | payloadExchanged => true
  | completed => true
  | _ => false

def SessionState.hasConfirmed : SessionState → Bool
  | transferring => true
  | payloadExchanged => true
  | completed => true
  | _ => false

/-- The source's user has confirmed the target's key, in the session of the target's code. -/
def World.Agreed (qrSecret : Word) (w : World k) : Prop :=
  .target ∈ w.sourceConfirmed ∧ qrSecret = sessionSecret

structure World.Inv (sessionSecret qrSecret : Word) (w : World k) : Prop where
  sourceRole : w.source.role = .source
  sourceKey : w.source.secretKey = .source
  sourceSecret : w.source.sessionSecret = sessionSecret
  targetRole : w.target.role = .target
  targetKey : w.target.secretKey = .target
  targetSecret : w.target.sessionSecret = qrSecret
  targetPeer : w.target.peerPubkey = some .source
  targetPeerSet : w.target.PeerSet
  authentic : ∀ event ∈ w.published,
    Authentic sessionSecret w.sourceConfirmed w.sent event.content
  agreed : w.target.state.hasAgreed → w.Agreed sessionSecret qrSecret
  confirmed : w.target.state.hasConfirmed → w.targetConfirmed
  took : ∀ p ∈ w.targetTook, p ∈ w.sent ∧ w.Agreed sessionSecret qrSecret ∧ w.targetConfirmed
  sourceOnce : Once w.source w.sourceTook
  targetOnce : Once w.target w.targetTook

section Target

variable (hrole : s.role = .target)

include hrole

lemma not_ready_source {state : SessionState} : ¬s.Ready now state .source := by
  intro hrdy
  cases hrole.symm.trans hrdy.role_eq

variable (h : Effect now s call result s')

include h

/-- A target agrees by a `sas-confirm` message whose hash is its own. -/
lemma agreed_cases (hs : s'.state.hasAgreed) : s.state.hasAgreed ∨
      ∃ event received peer sasInput, call = .handleSasConfirm event ∧
        s.FromPeer event (.sasConfirm received) ∧
        k.decodeHex received = some (s.transcriptHash peer s.pubkey sasInput) := by
  cases h with
  | refused => exact inl hs
  | signed => exact inl hs
  | transcriptMatched event received sasInput peer result ready opens input known hash code =>
    exact inr ⟨event, received, peer, sasInput, rfl, opens, hash⟩
  | targetConfirmed ready | payloadTaken _ _ _ ready | completeSent _ _ ready =>
    rw [ready.state_eq]
    exact inl rfl
  | offerAccepted _ _ _ ready | sasConfirmed _ _ _ _ ready | payloadReturned _ _ _ ready
  | sourceCompleted _ _ _ ready | payloadSent _ _ _ _ ready | completeAccepted _ ready =>
    exact absurd ready (not_ready_source hrole)
  | _ => cases hs

lemma confirmed_cases (hs : s'.state.hasConfirmed) : s.state.hasConfirmed ∨
      call = .confirmTargetSas ∧ result = .ok .done := by
  cases h with
  | refused => exact inl hs
  | signed => exact inl hs
  | targetConfirmed ready => exact inr ⟨rfl, rfl⟩
  | payloadTaken _ _ _ ready | completeSent _ _ ready =>
    rw [ready.state_eq]
    exact inl rfl
  | offerAccepted _ _ _ ready | sasConfirmed _ _ _ _ ready | payloadReturned _ _ _ ready
  | sourceCompleted _ _ _ ready | payloadSent _ _ _ _ ready | completeAccepted _ ready =>
    exact absurd ready (not_ready_source hrole)
  | _ => cases hs

lemma taken_of_target {p : PayloadType × k.Text} (hp : p ∈ takenBy result) :
    ∃ event, call = .handlePayload event ∧ s.FromPeer event (.payload p.1 p.2) ∧
      s.state = .transferring := by
  cases h with
  | payloadTaken event payloadType payload ready opens =>
    cases mem_singleton.mp hp
    exact ⟨event, rfl, opens, ready.state_eq⟩
  | payloadReturned event payloadType payload ready opens =>
    exact absurd ready (not_ready_source hrole)
  | transcriptMatched event received sasInput peer result ready opens input known hash code =>
    rw [(silent_of_code code).2] at hp
    cases hp
  | _ => cases hp

end Target

namespace World

variable {sessionSecret qrSecret : Word} {w : World k}

lemma Agreed.mono {w' : World k} (h : w.Agreed sessionSecret qrSecret)
    (hsub : w.sourceConfirmed ⊆ w'.sourceConfirmed) : w'.Agreed sessionSecret qrSecret :=
  ⟨hsub h.1, h.2⟩

section

variable (h : w.Inv sessionSecret qrSecret)
include h

lemma Inv.step_source (now : ℕ) (call : Call (symbolic k)) (hposs : w.Possible (.source now call)) :
    (w.step (.source now call)).Inv sessionSecret qrSecret := by
  have heff := effect_step now call w.source
  have hkeys := heff.sameKeys
  have hagr : w.Agreed sessionSecret qrSecret →
      (w.step (.source now call)).Agreed sessionSecret qrSecret :=
    fun hold => hold.mono (subset_append_left _ _)
  refine ⟨hkeys.role.trans h.sourceRole, hkeys.secretKey.trans h.sourceKey,
    hkeys.sessionSecret.trans h.sourceSecret, h.targetRole, h.targetKey, h.targetSecret, h.targetPeer,
    h.targetPeerSet, ?_, ?_, h.confirmed, ?_, h.sourceOnce.step heff, h.targetOnce⟩
  · intro event hev
    rcases mem_append.mp hev with hold | hnew
    · exact (h.authentic event hold).mono (subset_append_left _ _) (subset_append_left _ _)
    refine authentic_source h.sourceKey h.sourceSecret heff hnew ?_
    rintro builder rfl
    exact CanMake.authentic (w := w) hposs h.authentic
  · exact fun hst => hagr (h.agreed hst)
  intro p hp
  obtain ⟨hsent, hold, hconf⟩ := h.took p hp
  exact ⟨mem_append_left _ hsent, hagr hold, hconf⟩

/-- The target's hash is the source's only if the secrets are the same. -/
lemma Inv.agreed_target {event : (symbolic k).Event}
    {received : k.Text} {peer : Agent} {sasInput : Word} (hmake : w.CanMake event.content)
    (hop : w.target.FromPeer event (.sasConfirm received))
    (hhash : k.decodeHex received = some (w.target.transcriptHash peer w.target.pubkey sasInput)) :
    w.Agreed sessionSecret qrSecret := by
  have hev := CanMake.authentic hmake h.authentic
  obtain ⟨hconf, ikm, info, hsrc⟩ := backed_of_fromPeer h.targetKey h.targetPeer hop hev
  refine ⟨hconf, ?_⟩
  have hwords : Word.hkdf (Word.concat [w.target.sessionSecret]) _ _ =
      Word.hkdf (Word.concat [sessionSecret]) ikm info :=
    Option.some.inj (hhash.symm.trans hsrc)
  injection hwords with hsalt
  have hlist := Word.concat_injective hsalt
  rw [← h.targetSecret]
  exact (cons.inj hlist).1

lemma Inv.step_target (now : ℕ) (call : Call (symbolic k)) (hposs : w.Possible (.target now call)) :
    (w.step (.target now call)).Inv sessionSecret qrSecret := by
  have heff := effect_step now call w.target
  have hkeys := heff.sameKeys
  have hsty : w.targetConfirmed → (w.step (.target now call)).targetConfirmed :=
    fun hold => (Bool.or_eq_true _ _).mpr (inl hold)
  refine ⟨h.sourceRole, h.sourceKey, h.sourceSecret, hkeys.role.trans h.targetRole,
    hkeys.secretKey.trans h.targetKey, hkeys.sessionSecret.trans h.targetSecret,
    heff.peerPubkey_eq h.targetPeerSet h.targetPeer, heff.peerSet h.targetPeerSet, ?_, ?_, ?_, ?_,
    h.sourceOnce, h.targetOnce.step heff⟩
  · intro event hev
    rcases mem_append.mp hev with hold | hnew
    · exact h.authentic event hold
    refine authentic_target h.targetRole heff hnew ?_
    rintro builder rfl
    exact CanMake.authentic (w := w) hposs h.authentic
  · intro hst
    rcases agreed_cases h.targetRole heff hst with hold |
      ⟨event, received, peer, sasInput, rfl, hop, hhash⟩
    · exact h.agreed hold
    · exact h.agreed_target hposs hop hhash
  · intro hst
    rcases confirmed_cases h.targetRole heff hst with hold | ⟨rfl, hres⟩
    · exact hsty (h.confirmed hold)
    refine (Bool.or_eq_true _ _).mpr (inr ?_)
    rw [hres]
    rfl
  intro p hp
  rcases mem_append.mp hp with hold | hnew
  · obtain ⟨hsent, hagr, hconf⟩ := h.took p hold
    exact ⟨hsent, hagr, hsty hconf⟩
  obtain ⟨event, rfl, hop, hst⟩ := taken_of_target h.targetRole heff hnew
  have hev := CanMake.authentic hposs h.authentic
  have hbacked := backed_of_fromPeer h.targetKey h.targetPeer hop hev
  refine ⟨hbacked, h.agreed ?_, hsty (h.confirmed ?_)⟩
  all_goals
    rw [hst]
    rfl

/-- **One step** of either side keeps the invariant, whatever the relay hands over. -/
theorem Inv.step (hposs : w.Possible act) : (w.step act).Inv sessionSecret qrSecret := by
  cases act with
  | source now call => exact h.step_source now call hposs
  | target now call => exact h.step_target now call hposs

end

lemma Init.inv (h : Init sessionSecret qrSecret w) : w.Inv sessionSecret qrSecret := by
  cases h with
  | intro relayUrl now qr draw now' target offer hkey hsec htgt =>
    have hpeerSet := (Starts.target qr _ draw now' target offer htgt).peerSet
    obtain ⟨hst, hrole, hsecretKey, hpeer, hqr, hblt⟩ := newTarget_eq_ok htgt
    refine ⟨rfl, rfl, rfl, hrole, hsecretKey, hqr.trans hsec, ?_, hpeerSet, ?_, ?_, ?_, ?_,
      inl rfl, inl rfl⟩
    · rw [hpeer, hkey]
    · intro event hev
      cases mem_singleton.mp hev
      exact authentic_of_built hblt fun _ => trivial
    · intro hagr
      rw [hst] at hagr
      cases hagr
    · intro hconf
      rw [hst] at hconf
      cases hconf
    · intro p hp
      cases hp

/-- What a pairing promises: the target took only payloads that the source has sent, after its own user
has confirmed, and after the source's user has confirmed the target's key in the session of the target's
code; and neither side took two. -/
structure Agreement (sessionSecret qrSecret : Word) (w : World k) : Prop where
  took : ∀ p ∈ w.targetTook, w.targetConfirmed ∧ .target ∈ w.sourceConfirmed ∧
    qrSecret = sessionSecret ∧ p ∈ w.sent
  targetOnce : w.targetTook.length ≤ 1
  sourceOnce : w.sourceTook.length ≤ 1

lemma Once.length_le {took : List (PayloadType × k.Text)} (h : Once s took) : took.length ≤ 1 := by
  rcases h with rfl | ⟨hlen, -⟩
  · exact Nat.zero_le 1
  · exact hlen.le

/-- In every run of the two parties with an adversarial relay they agree on the payload. -/
theorem agreement_run {acts : List (Act k)} (hinit : Init sessionSecret qrSecret w)
    (hpossible : AllSteps World.step World.Possible w acts) :
    (acts.foldl World.step w).Agreement sessionSecret qrSecret := by
  have hinv := hpossible.invariant (I := Inv sessionSecret qrSecret)
    (fun w act hw hact => hw.step hact) hinit.inv
  refine ⟨?_, Once.length_le hinv.targetOnce, Once.length_le hinv.sourceOnce⟩
  intro p hp
  obtain ⟨hsent, hagreed, hconfirmed⟩ := hinv.took p hp
  exact ⟨hconfirmed, hagreed.1, hagreed.2, hsent⟩

/-! ### A pairing -/

def exampleTarget : PairingSession (symbolic freeCodec) :=
  { role := .target
    state := .confirming
    secretKey := .target
    sessionSecret := .random 0
    relayUrls := ["wss://relay.test"]
    peerPubkey := some .source
    sessionId := pairedSource.sessionId
    sasCode := some 0
    sasInput := some ((symbolic freeCodec).deriveSas (sharedKey .source .target) (.random 0)).2
    processedIds := ∅
    createdAt := 0
    timeout := defaultTimeout }

def exampleOffer : (symbolic freeCodec).Event :=
  message .target .source 1 (.offer (.hex pairedSource.sessionId) 1)

def exampleWorld : World freeCodec :=
  { source := pairedSource
    target := exampleTarget
    published := [exampleOffer]
    sourceConfirmed := []
    targetConfirmed := false
    sent := []
    sourceTook := []
    targetTook := [] }

def exampleActs : List (Act freeCodec) :=
  [.source 1 (.handleOffer exampleOffer), .source 2 (.confirmSas (draw 2)),
    .target 3 (.handleSasConfirm (message .source .target 2 (.sasConfirm (.hex
      (exampleTarget.transcriptHash Agent.source Agent.target (exampleTarget.sasInput.getD Word.empty)))))),
    .target 4 .confirmTargetSas,
    .source 5 (.sendPayload .nsec (.chars "nsec1") (draw 3)),
    .target 6 (.handlePayload (message .source .target 3 (.payload .nsec (.chars "nsec1"))))]

lemma exampleWorld_init : Init (.random 0) (.random 0) exampleWorld :=
  .intro "wss://relay.test" 0 (newSource (C := symbolic freeCodec) .source (.random 0) "wss://relay.test" 0).2
    (draw 1) 0 exampleTarget exampleOffer rfl rfl rfl

theorem exampleActs_agree :
    (exampleActs.foldl World.step exampleWorld).targetTook = [(.nsec, .chars "nsec1")] ∧
      (exampleActs.foldl World.step exampleWorld).Agreement (.random 0) (.random 0) :=
  ⟨by decide +kernel, agreement_run exampleWorld_init (by decide +kernel)⟩

end World

end Buzz.Pairing
