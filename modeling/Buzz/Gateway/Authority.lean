import Buzz.Gateway.Store
import Buzz.Lib.Run

/-!
Delivery authority.

What the operations of the store mean to a device, apart from tables: an enrolment has the token put
in last, how long it lives and whether it was revoked; a relay holds the grant accepted for it last.
Rotating the endpoint retires every grant of the enrolment.  Nothing is ever forgotten here, and the
store, which deletes rows, refines it: each row it has agrees with the account.

A grant that is live after an operation was live before it, unless the operation accepted it.  So
authority that is lost stays lost.
-/

namespace Buzz.Gateway

open Buzz.Core Lib Function Option

/-! ### The account -/

structure Enrolment where
  token : Bytes
  expiresAt : ℤ
  revoked : Bool

structure Grant where
  id : Uuid
  expiresAt : ℤ
  revoked : Bool
  /-- The endpoint was rotated since the grant was accepted. -/
  rotated : Bool

structure Authority where
  enrolment : Uuid → Option Enrolment
  /-- The grant accepted last, for an installation and a relay. -/
  grant : Uuid → Bytes → Option Grant
  accepted : List Uuid

namespace Authority

def none : Authority := ⟨fun _ => .none, fun _ _ => .none, []⟩

variable (A : Authority) (id : Uuid)

def enrol (token : Bytes) (expiresAt : ℤ) : Authority :=
  { A with
    enrolment := update A.enrolment id (some ⟨token, expiresAt, false⟩)
    grant := update A.grant id fun _ => .none }

def accept (d : Delegation) (relay : Bytes) : Authority where
  enrolment := update A.enrolment d.installationId
    ((A.enrolment d.installationId).map fun e => { e with expiresAt := max e.expiresAt d.expiresAt })
  grant := update A.grant d.installationId
    (update (A.grant d.installationId) relay (some ⟨d.id, d.expiresAt, false, false⟩))
  accepted := d.id :: A.accepted

def rotate (token : Bytes) : Authority :=
  { A with
    enrolment := update A.enrolment id
      ((A.enrolment id).map fun e => { e with token })
    grant := update A.grant id fun relay =>
      (A.grant id relay).map fun g => { g with rotated := true } }

def revokeGrant (relay : Bytes) : Authority :=
  { A with
    grant := update A.grant id (update (A.grant id) relay
      ((A.grant id relay).map fun g => { g with revoked := true })) }

def revokeEnrolment : Authority :=
  { A with
    enrolment := update A.enrolment id
      ((A.enrolment id).map fun e => { e with revoked := true }) }

/-- A relay may have a wake delivered to `token`: its grant is the last one accepted, neither the
grant nor the enrolment is revoked or expired, and the endpoint was not rotated since. -/
structure Allows (A : Authority) (did : Uuid) (now : ℤ) (installation : Uuid) (relay token : Bytes) :
    Prop where
  exists_live : ∃ g e, A.grant installation relay = some g ∧ A.enrolment installation = some e ∧
    g.id = did ∧ g.revoked = false ∧ g.rotated = false ∧ now ≤ g.expiresAt ∧
    e.revoked = false ∧ now ≤ e.expiresAt ∧ e.token = token

def Live (did : Uuid) (now : ℤ) : Prop :=
  ∃ installation relay token, A.Allows did now installation relay token

def Covered : Prop :=
  ∀ installation relay g, A.grant installation relay = some g →
    ∃ e, A.enrolment installation = some e ∧ g.expiresAt ≤ e.expiresAt

end Authority

/-! ### Operations -/

inductive Op
  | createInstallation (n : NewInstallation) (now : ℤ)
  | upsertDelegation (d : Delegation)
  | rotateEndpoint (id : Uuid) (expected new : ℤ) (ciphertext fingerprint : Bytes)
  | revokeDelegation (id : Uuid) (relay : String) (expectedGeneration : ℤ)
  | revokeInstallation (id : Uuid) (expected new : ℤ)
  | authorizeDelivery (c : Store.DeliveryCall)
  | finishDelivery (permit : DeliveryPermit) (disposition : DeliveryDisposition)
  | reapExpired (now : ℤ)

variable (inRange : ℤ → Bool)

def Op.body : Op → Tx AuthorityError Store Unit
  | .createInstallation n now => .write (·.createInstallation inRange n now)
  | .upsertDelegation d => .write (·.upsertDelegation inRange d)
  | .rotateEndpoint id expected new ciphertext fingerprint =>
    .write (·.rotateEndpoint id expected new ciphertext fingerprint)
  | .revokeDelegation id relay generation => .write (·.revokeDelegation id relay generation)
  | .revokeInstallation id expected new => .write (·.revokeInstallation id expected new)
  | .authorizeDelivery c => do
    let _ ← Store.authorizeDelivery inRange c
    pure ()
  | .finishDelivery permit disposition => .write (·.finishDelivery permit disposition)
  | .reapExpired now => .write (·.reapExpired inRange now)

def Store.apply (s : Store) (op : Op) : Except AuthorityError Unit × Store :=
  transact (op.body inRange) s

def relayOf (relay : String) : Bytes := (hexDecode relay.toList).getD []

def Authority.after (A : Authority) : Op → Authority
  | .createInstallation n _ => A.enrol n.id n.tokenCiphertext n.expiresAt
  | .upsertDelegation d => A.accept d (relayOf d.relayPubkey)
  | .rotateEndpoint id _ _ ciphertext _ => A.rotate id ciphertext
  | .revokeDelegation id relay _ => A.revokeGrant id (relayOf relay)
  | .revokeInstallation id _ _ => A.revokeEnrolment id
  | .authorizeDelivery _ | .finishDelivery _ _ | .reapExpired _ => A

/-- The store, with the account of what succeeded. -/
structure World where
  store : Store
  authority : Authority

namespace World

def init : World := ⟨.empty, .none⟩

def step (w : World) (op : Op) : World :=
  match w.store.apply inRange op with
  | (.ok _, s) => ⟨s, w.authority.after op⟩
  | (.error _, s) => ⟨s, w.authority⟩

def run (ops : List Op) : World := ops.foldl (step inRange) init

/-- The id of a delegation is not one that was accepted before. -/
def NotReused (w : World) : Op → Prop
  | .upsertDelegation d => d.id ∉ w.authority.accepted
  | _ => True

end World

/-! ### Authority that is lost stays lost -/

namespace Authority

variable {A : Authority}

def NotAccepting (did : Uuid) : Op → Prop
  | .upsertDelegation d => d.id ≠ did
  | _ => True

/-- The second grant is the first one, perhaps revoked or rotated since. -/
structure Stems (g g' : Grant) : Prop where
  id : g.id = g'.id
  expiresAt : g.expiresAt = g'.expiresAt
  revoked : g'.revoked = false → g.revoked = false
  rotated : g'.rotated = false → g.rotated = false

lemma Stems.refl (g : Grant) : Stems g g := ⟨rfl, rfl, fun h => h, fun h => h⟩

variable {relay : Bytes}

lemma update_pair (f : Uuid → Bytes → Option Grant) (id id' : Uuid) (relay relay' : Bytes)
    (v : Option Grant) : update f id (update (f id) relay v) id' relay' =
      if (id', relay') = (id, relay) then v else f id' relay' := by
  by_cases hid : id' = id
  · subst hid
    simp [update_apply]
  · simp [hid]

variable {id : Uuid} {token : Bytes} {installation : Uuid}

lemma grant_rotate (hg : (A.rotate id token).grant installation relay = some g') :
    ∃ g, A.grant installation relay = some g ∧ Stems g g' := by
  by_cases hid : installation = id
  · subst hid
    simp only [rotate, update_self, map_eq_some_iff] at hg
    obtain ⟨g, hg, rfl⟩ := hg
    exact ⟨g, hg, rfl, rfl, fun h => h, fun h => (nomatch h)⟩
  · simp only [rotate, update_of_ne hid] at hg
    exact ⟨g', hg, .refl g'⟩

variable {relay₀ : Bytes}

lemma grant_revokeGrant (hg : (A.revokeGrant id relay₀).grant installation relay = some g') :
    ∃ g, A.grant installation relay = some g ∧ Stems g g' := by
  simp only [revokeGrant, update_pair] at hg
  split_ifs at hg with hkey
  · obtain ⟨rfl, rfl⟩ := Prod.mk.inj hkey
    obtain ⟨g, hold, rfl⟩ := map_eq_some_iff.mp hg
    exact ⟨g, hold, rfl, rfl, fun h => (nomatch h), fun h => h⟩
  · exact ⟨g', hg, .refl g'⟩

lemma grant_accept (hg : (A.accept d relay₀).grant installation relay = some g) :
    installation = d.installationId ∧ relay = relay₀ ∧ g = ⟨d.id, d.expiresAt, false, false⟩ ∨
      A.grant installation relay = some g := by
  simp only [accept, update_pair] at hg
  split_ifs at hg with hkey
  · obtain ⟨rfl, rfl⟩ := Prod.mk.inj hkey
    exact .inl ⟨rfl, rfl, (some.inj hg).symm⟩
  · exact .inr hg

variable {expiresAt : ℤ}

lemma ne_of_grant_enrol
    (hg : (A.enrol id token expiresAt).grant installation relay = some g) : installation ≠ id := by
  rintro rfl
  simp [enrol] at hg

variable {did : Uuid} {op : Op}

/-- A grant after an operation that did not accept it was there before. -/
lemma exists_grant_of_after (hop : NotAccepting did op)
    (hg : (A.after op).grant installation relay = some g') (hid : g'.id = did) :
    ∃ g, A.grant installation relay = some g ∧ Stems g g' := by
  cases op with
  | createInstallation n now =>
    have hne := ne_of_grant_enrol hg
    simp only [after, enrol, update_of_ne hne] at hg
    exact ⟨g', hg, .refl g'⟩
  | upsertDelegation d =>
    obtain ⟨-, -, rfl⟩ | hg := grant_accept hg
    · exact absurd hid hop
    · exact ⟨g', hg, .refl g'⟩
  | rotateEndpoint => exact grant_rotate hg
  | revokeDelegation => exact grant_revokeGrant hg
  | revokeInstallation | authorizeDelivery | finishDelivery | reapExpired =>
    exact ⟨g', hg, .refl g'⟩

lemma enrolment_of_update (he : A.enrolment installation = some e)
    (he' : update A.enrolment id ((A.enrolment id).map f) installation = some e') :
    e' = e ∨ e' = f e := by
  by_cases hid : installation = id
  · subst hid
    rw [update_self, he] at he'
    exact .inr (some.inj he').symm
  · rw [update_of_ne hid] at he'
    exact .inl (mem_unique he' he)

lemma revoked_of_after
    (hg : (A.after op).grant installation relay = some g') (he : A.enrolment installation = some e)
    (he' : (A.after op).enrolment installation = some e') (hrev : e'.revoked = false) :
    e.revoked = false := by
  cases op with
  | createInstallation n now =>
    have hne := ne_of_grant_enrol hg
    simp only [after, enrol, update_of_ne hne, he, some.injEq] at he'
    subst he'
    exact hrev
  | upsertDelegation d | rotateEndpoint id =>
    obtain rfl | rfl := enrolment_of_update he he'
    · exact hrev
    · exact hrev
  | revokeInstallation id =>
    obtain rfl | rfl := enrolment_of_update he he'
    · exact hrev
    · cases hrev
  | revokeDelegation | authorizeDelivery | finishDelivery | reapExpired =>
    exact some.inj (he.symm.trans he') ▸ hrev

lemma Covered.mono {B : Authority} (h : A.Covered)
    (hgr : ∀ installation relay g', B.grant installation relay = some g' →
      ∃ g, A.grant installation relay = some g ∧ g.expiresAt = g'.expiresAt)
    (henrolment : ∀ installation e, A.enrolment installation = some e →
      ∃ e', B.enrolment installation = some e' ∧ e.expiresAt ≤ e'.expiresAt) : B.Covered := by
  intro installation relay g' hg'
  obtain ⟨g, hg, hexp⟩ := hgr installation relay g' hg'
  obtain ⟨e, he, hcov⟩ := h installation relay g hg
  obtain ⟨e', he', hle⟩ := henrolment installation e he
  exact ⟨e', he', by omega⟩

lemma exists_enrolment_update
    (hf : ∀ e, e.expiresAt ≤ (f e).expiresAt) (id : Uuid) (he : A.enrolment installation = some e) :
    ∃ e', update A.enrolment id ((A.enrolment id).map f) installation = some e' ∧
      e.expiresAt ≤ e'.expiresAt := by
  by_cases hid : installation = id
  · subst hid
    rw [update_self, he]
    exact ⟨f e, rfl, hf e⟩
  · rw [update_of_ne hid]
    exact ⟨e, he, le_rfl⟩

section

variable (h : A.Covered)

include h

lemma Covered.enrol (id : Uuid) (token : Bytes) (expiresAt : ℤ) :
    (A.enrol id token expiresAt).Covered := by
  intro installation relay g hg
  have hne := ne_of_grant_enrol hg
  simp only [Authority.enrol, update_of_ne hne] at hg ⊢
  exact h installation relay g hg

lemma Covered.accept
    (he : A.enrolment d.installationId = some e) : (A.accept d relay₀).Covered := by
  intro installation relay g hg
  obtain ⟨rfl, rfl, rfl⟩ | hg := grant_accept hg
  · refine ⟨{ e with expiresAt := max e.expiresAt d.expiresAt }, ?_, le_max_right _ _⟩
    simp [Authority.accept, he]
  obtain ⟨e, he, hcov⟩ := h installation relay g hg
  obtain ⟨e', he', hle⟩ := exists_enrolment_update
    (f := fun e => { e with expiresAt := max e.expiresAt d.expiresAt })
    (fun _ => le_max_left _ _) d.installationId he
  exact ⟨e', he', by omega⟩

lemma Covered.rotate (id : Uuid) (token : Bytes) : (A.rotate id token).Covered := by
  refine h.mono ?_ fun _ _ he =>
    exists_enrolment_update (f := fun e => { e with token }) (fun _ => le_rfl) id he
  intro installation relay g' hg'
  obtain ⟨g, hg, hstm⟩ := grant_rotate hg'
  exact ⟨g, hg, hstm.expiresAt⟩

lemma Covered.revokeGrant (id : Uuid) (relay₀ : Bytes) : (A.revokeGrant id relay₀).Covered := by
  refine h.mono ?_ fun _ e he => ⟨e, he, le_rfl⟩
  intro installation relay g' hg'
  obtain ⟨g, hg, hstm⟩ := grant_revokeGrant hg'
  exact ⟨g, hg, hstm.expiresAt⟩

lemma Covered.revokeEnrolment (id : Uuid) : (A.revokeEnrolment id).Covered :=
  h.mono (fun _ _ g hg => ⟨g, hg, rfl⟩) fun _ _ he =>
    exists_enrolment_update (f := fun e => { e with revoked := true }) (fun _ => le_rfl) id he

end

/-- **Finality.** A grant that is live after an operation was live before, unless it was accepted.
-/
lemma Live.of_after (hop : NotAccepting did op) (hcov : A.Covered) (hle : t ≤ t')
    (h : (A.after op).Live did t') : A.Live did t := by
  obtain ⟨installation, relay, -, ⟨g', e', hg', he', hid, hrev, hrot, hexp, herev, -, -⟩⟩ := h
  obtain ⟨g, hg, hstm⟩ := exists_grant_of_after hop hg' hid
  obtain ⟨e, he, hcover⟩ := hcov installation relay g hg
  have hgexp := hstm.expiresAt
  refine ⟨installation, relay, e.token, ⟨g, e, hg, he, ?_⟩⟩
  exact ⟨hstm.id.trans hid, hstm.revoked hrev, hstm.rotated hrot, by omega,
    revoked_of_after hg' he he' herev, by omega, rfl⟩

end Authority

/-! ### The store refines the account -/

namespace World

/-- Each row agrees with the account, and its epoch tells what was rotated. -/
structure Refines (w : World) : Prop where
  installation : ∀ id i, w.store.installations.lookup id = some i →
    w.authority.enrolment id = some ⟨i.tokenCiphertext, i.expiresAt, i.revoked⟩
  delegation : ∀ id relay d, w.store.delegations.lookup (id, relay) = some d →
    ∃ g i, w.authority.grant id relay = some g ∧ w.store.installations.lookup id = some i ∧
      g.id = d.id ∧ g.expiresAt = d.expiresAt ∧ g.revoked = d.revoked ∧
      d.endpointEpoch ≤ i.endpointEpoch ∧ (g.rotated → d.endpointEpoch < i.endpointEpoch)
  covered : w.authority.Covered

namespace Refines

variable {s : Store} {A : Authority} (h : Refines ⟨s, A⟩)

include h

lemma of_tables (hi : s'.installations = s.installations)
    (hd : s'.delegations = s.delegations) : Refines ⟨s', A⟩ where
  installation := by
    show ∀ id i, s'.installations.lookup id = some i → _
    rw [hi]
    exact h.installation
  delegation := by
    show ∀ id relay d, s'.delegations.lookup (id, relay) = some d →
      ∃ g i, A.grant id relay = some g ∧ s'.installations.lookup id = some i ∧ _
    rw [hi, hd]
    exact h.delegation
  covered := h.covered

lemma selectDelegations (p : Uuid × Bytes → DelegationRow → Bool) :
    Refines ⟨{ s with delegations := s.delegations.select p }, A⟩ where
  installation := h.installation
  delegation := by
    intro id relay d hd
    exact h.delegation id relay d (Table.lookup_select_eq_some.mp hd).1
  covered := h.covered

lemma dropInstallations (expired : InstallationRow → Bool) :
    Refines ⟨s.dropInstallations expired, A⟩ where
  installation := by
    intro id i hi
    exact h.installation id i (Table.lookup_select_eq_some.mp hi).1
  delegation := by
    intro id relay d hd
    obtain ⟨hd, hkept⟩ := Table.lookup_select_eq_some.mp hd
    obtain ⟨g, i, hg, hi, hrest⟩ := h.delegation id relay d hd
    refine ⟨g, i, hg, Table.lookup_select_eq_some.mpr ⟨hi, ?_⟩, hrest⟩
    have hi' : s.installations.lookup id = some i := hi
    simpa [hi'] using hkept
  covered := h.covered

lemma insertInstallation {id : Uuid} (hi : s.installations.lookup id = some i)
    (hep : i.endpointEpoch ≤ i'.endpointEpoch)
    (hself : B.enrolment id = some ⟨i'.tokenCiphertext, i'.expiresAt, i'.revoked⟩)
    (hoth : ∀ id', id' ≠ id → B.enrolment id' = A.enrolment id')
    (hgr : ∀ id' relay g, A.grant id' relay = some g →
      ∃ g', B.grant id' relay = some g' ∧ g'.id = g.id ∧ g'.expiresAt = g.expiresAt ∧
        g'.revoked = g.revoked ∧
        (g'.rotated → g.rotated ∨ id' = id ∧ i.endpointEpoch < i'.endpointEpoch))
    (hcov : B.Covered) : Refines ⟨{ s with installations := s.installations.insert id i' }, B⟩ where
  installation := by
    intro id' j hj
    obtain ⟨rfl, rfl⟩ | ⟨hne, hj⟩ := Table.lookup_insert_eq_some.mp hj
    · exact hself
    · exact (hoth id' hne).trans (h.installation id' j hj)
  delegation := by
    intro id' relay d hd
    obtain ⟨g, j, hg, hj, hid, hexp, hrev, hle, hrot⟩ := h.delegation id' relay d hd
    obtain ⟨g', hg', hid', hexp', hrev', hrot'⟩ := hgr id' relay g hg
    by_cases hne : id' = id
    · subst hne
      obtain rfl := mem_unique hi hj
      refine ⟨g', i', hg', AList.lookup_insert _, hid'.trans hid, hexp'.trans hexp,
        hrev'.trans hrev, by omega, ?_⟩
      intro hrotated
      obtain hpre | ⟨-, hlt⟩ := hrot' hrotated
      · have := hrot hpre
        omega
      · omega
    refine ⟨g', j, hg', (AList.lookup_insert_ne hne).trans hj, hid'.trans hid, hexp'.trans hexp,
      hrev'.trans hrev, hle, ?_⟩
    intro hrotated
    obtain hpre | ⟨heq, -⟩ := hrot' hrotated
    · exact hrot hpre
    · exact absurd heq hne
  covered := hcov

end Refines

end World

end Buzz.Gateway
