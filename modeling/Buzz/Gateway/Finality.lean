import Buzz.Gateway.Authority

/-!
Authority is final.

Each operation that succeeds keeps the store in agreement with the account.  A delivery that is
authorised is therefore one the account allows, and what the account no longer allows is never
authorised again.
-/

namespace Buzz.Gateway

open Buzz.Core Lib Function Store Except

variable {inRange : ℤ → Bool} {s s' : Store} {A : Authority}

/-! ### What an operation that succeeds has done -/

lemma nextEpoch_eq_ok (h : nextEpoch expected = .ok next) : next = expected + 1 := by
  obtain ⟨-, -, h⟩ := bind_eq_ok.mp h
  exact (ok.inj h).symm

lemma relayBytes_eq_ok (h : relayBytes relay = .ok bytes) : relayOf relay = bytes := by
  unfold relayOf
  rw [okOr_eq_ok.mp h]
  rfl

namespace Store

lemma createInstallation_eq_ok (h : s.createInstallation inRange n now = .ok s') :
    ∃ expired, (s.dropInstallations expired).installations.lookup n.id = none ∧
      s' = { s.dropInstallations expired with
        installations := (s.dropInstallations expired).installations.insert n.id (newRow n) } := by
  unfold createInstallation at h
  simp only [chain_eq_ok] at h
  obtain ⟨now', -, -, _, -, -, hfree, rfl⟩ := h
  refine ⟨_, ?_, rfl⟩
  by_contra hsome
  obtain ⟨i, hi⟩ := Option.ne_none_iff_exists'.mp hsome
  have hnone := Table.find_eq_none (Option.not_isSome_iff_eq_none.mp hfree) hi
  simp at hnone

lemma rotateEndpoint_eq_ok {id : Uuid}
    (h : s.rotateEndpoint id expected new ciphertext fingerprint = .ok s') :
    ∃ i, s.installations.lookup id = some i ∧ i.revoked = false ∧ i.endpointEpoch < new ∧
      s' = { s with installations := s.installations.insert id { i with
        endpointEpoch := new, tokenCiphertext := ciphertext, tokenFingerprint := fingerprint } } := by
  unfold rotateEndpoint at h
  simp only [bind_eq_ok, refuseIf_eq_ok, okOr_eq_ok, exists_const, pure, Except.pure,
    Except.ok.injEq] at h
  obtain ⟨next, hnext, hnew, i, hi, hcur, -, -, rfl⟩ := h
  have hnext := nextEpoch_eq_ok hnext
  push Not at hnew hcur
  exact ⟨i, hi, by simpa using hcur.2, by omega, rfl⟩

lemma revokeInstallation_eq_ok {id : Uuid} (h : s.revokeInstallation id expected new = .ok s') :
    ∃ i i', s.installations.lookup id = some i ∧ i.endpointEpoch ≤ i'.endpointEpoch ∧
      i' = { i with endpointEpoch := i'.endpointEpoch, revoked := true } ∧
      (s' = { s with installations := s.installations.insert id i' } ∨ s' = s ∧ i' = i) := by
  unfold revokeInstallation at h
  simp only [bind_eq_ok, refuseIf_eq_ok, okOr_eq_ok, exists_const] at h
  obtain ⟨next, hnext, hnew, i, hi, h⟩ := h
  have hnext := nextEpoch_eq_ok hnext
  push Not at hnew
  split at h
  case isTrue hcur =>
    simp only [chain_eq_ok] at h
    obtain ⟨-, rfl⟩ := h
    have hep := hcur.1
    refine ⟨i, { i with endpointEpoch := new, revoked := true }, hi, ?_, rfl, .inl rfl⟩
    show i.endpointEpoch ≤ new
    omega
  case isFalse =>
    simp only [chain_eq_ok] at h
    obtain ⟨⟨-, hrev⟩, rfl⟩ := h
    refine ⟨i, i, hi, le_rfl, ?_, .inr ⟨rfl, rfl⟩⟩
    rw [← hrev]

lemma revokeDelegation_eq_ok {id : Uuid} (h : s.revokeDelegation id relay generation = .ok s') :
    ∃ d, s.delegations.lookup (id, relayOf relay) = some d ∧ (s' = { s with
        delegations := s.delegations.insert (id, relayOf relay) { d with revoked := true } } ∨
      s' = s ∧ d.revoked) := by
  unfold revokeDelegation at h
  simp only [chain_eq_ok] at h
  obtain ⟨bytes, hby, d, hd, -, h⟩ := h
  rw [relayBytes_eq_ok hby]
  refine ⟨d, hd, ?_⟩
  split at h
  case isTrue hrev => exact .inr ⟨(ok.inj h).symm, hrev⟩
  case isFalse => exact .inl (ok.inj h).symm

lemma checkAuthority_eq_ok (h : s.checkAuthority c relay now = .ok r) :
    ∃ installation i d, s.delegations.lookup (installation, relay) = some d ∧
      s.installations.lookup installation = some i ∧ d.id = c.delegationId ∧
      i.revoked = false ∧ i.endpointEpoch = d.endpointEpoch ∧ now ≤ i.expiresAt ∧
      d.revoked = false ∧ now ≤ d.expiresAt ∧ r.1.installationId = installation ∧
      r.1.tokenCiphertext = i.tokenCiphertext := by
  unfold checkAuthority at h
  simp only [chain_eq_ok] at h
  obtain ⟨⟨⟨installation, relay'⟩, d⟩, hfnd, i, hi, hinst, hdel, rfl⟩ := h
  obtain ⟨rfl, hep, -, hrev, -, hexp⟩ := hdel
  obtain ⟨hd, hid⟩ := Table.find_eq_some hfnd
  push Not at hinst
  obtain ⟨hirev, hiepoch, hiexp⟩ := hinst
  exact ⟨installation, i, d, hd, hi, by simpa using hid, by simpa using hirev,
    hiepoch.trans hep.symm, hiexp, hrev, hexp, rfl, rfl⟩

/-- What a delivery that is authorised has read and written. -/
lemma authorizeDelivery_ends (h : (authorizeDelivery inRange c).Ends s permit s') :
    s'.installations = s.installations ∧ s'.delegations = s.delegations ∧
      ∃ fingerprint, s.checkAuthority c (relayOf c.relay) c.now = .ok (permit.authority, fingerprint) ∧
        ∃ quota, admitQuota (s.endpointQuotas.lookup fingerprint) c = some quota ∧
          s'.endpointQuotas = s.endpointQuotas.insert fingerprint quota := by
  unfold authorizeDelivery at h
  simp only [ends_bind, ends_check, ends_query, ends_write, ends_update, ends_pure, chain_eq_ok,
    and_assoc, ↓existsAndEq, true_and] at h
  obtain ⟨relay, hrelay, event, -, -, now, hnow, ⟨authority, fingerprint⟩, hchk, -, -, quota, hquota,
    expires, -, hnew, rfl, rfl⟩ := h
  obtain ⟨hauth, hrequest⟩ := not_or.mp hnew
  rw [if_neg hauth] at hrequest ⊢
  rw [if_neg hrequest, relayBytes_eq_ok hrelay]
  obtain ⟨-, -, hnow⟩ := bind_eq_ok.mp hnow
  obtain rfl := ok.inj hnow
  exact ⟨rfl, rfl, fingerprint, hchk, quota, hquota, rfl⟩

end Store

/-! ### One operation -/

namespace World.Refines

section

variable (h : Refines ⟨s, A⟩) {id : Uuid}
include h

lemma createInstallation (hok : s.createInstallation inRange n now = .ok s') :
    Refines ⟨s', A.enrol n.id n.tokenCiphertext n.expiresAt⟩ := by
  obtain ⟨expired, hfree, rfl⟩ := createInstallation_eq_ok hok
  have hkept := h.dropInstallations expired
  refine ⟨?_, ?_, h.covered.enrol _ _ _⟩
  · intro id i hi
    obtain ⟨rfl, rfl⟩ | ⟨hne, hi⟩ := Table.lookup_insert_eq_some.mp hi
    · simp [Authority.enrol, newRow]
    · simp only [Authority.enrol, update_of_ne hne]
      exact hkept.installation id i hi
  intro id relay d hd
  obtain ⟨g, i, hg, hi, hrest⟩ := hkept.delegation id relay d hd
  have hne : id ≠ n.id := by
    rintro rfl
    rw [hfree] at hi
    cases hi
  refine ⟨g, i, ?_, (AList.lookup_insert_ne hne).trans hi, hrest⟩
  simp only [Authority.enrol, update_of_ne hne]
  exact hg

lemma rotateEndpoint {expected new : ℤ}
    (hok : s.rotateEndpoint id expected new ciphertext fingerprint = .ok s') :
    Refines ⟨s', A.rotate id ciphertext⟩ := by
  obtain ⟨i, hi, hrev, hlt, rfl⟩ := rotateEndpoint_eq_ok hok
  have he := h.installation id i hi
  refine h.insertInstallation hi hlt.le ?_ ?_ ?_ (h.covered.rotate _ _)
  · simp only [Authority.rotate, update_self]
    rw [he]
    rfl
  · intro id' hne
    simp only [Authority.rotate, update_of_ne hne]
  intro id' relay g hg
  by_cases hid : id' = id
  · subst hid
    refine ⟨{ g with rotated := true }, ?_, rfl, rfl, rfl, fun _ => .inr ⟨rfl, hlt⟩⟩
    simp [Authority.rotate, hg]
  · refine ⟨g, ?_, rfl, rfl, rfl, .inl⟩
    simp only [Authority.rotate, update_of_ne hid, hg]

lemma revokeInstallation {expected new : ℤ}
    (hok : s.revokeInstallation id expected new = .ok s') : Refines ⟨s', A.revokeEnrolment id⟩ := by
  obtain ⟨i, i', hi, hle, heq, hs'⟩ := revokeInstallation_eq_ok hok
  have he := h.installation id i hi
  have hself : (A.revokeEnrolment id).enrolment id =
      some ⟨i'.tokenCiphertext, i'.expiresAt, i'.revoked⟩ := by
    simp only [Authority.revokeEnrolment, update_self]
    rw [he, heq]
    rfl
  have hoth : ∀ id', id' ≠ id → (A.revokeEnrolment id).enrolment id' = A.enrolment id' := by
    intro id' hne
    simp only [Authority.revokeEnrolment, update_of_ne hne]
  obtain rfl | ⟨rfl, rfl⟩ := hs'
  · exact h.insertInstallation hi hle hself hoth
      (fun _ _ g hg => ⟨g, hg, rfl, rfl, rfl, .inl⟩) (h.covered.revokeEnrolment id)
  refine ⟨?_, h.delegation, h.covered.revokeEnrolment id⟩
  intro id' j hj
  by_cases hid : id' = id
  · subst hid
    obtain rfl := Option.mem_unique hi hj
    exact hself
  · exact (hoth id' hid).trans (h.installation id' j hj)

lemma upsertDelegation (hok : s.upsertDelegation inRange d = .ok s') :
    Refines ⟨s', A.accept d (relayOf d.relayPubkey)⟩ := by
  unfold Store.upsertDelegation at hok
  simp only [chain_eq_ok] at hok
  obtain ⟨i, hi, hlive, relay, hrelay, _, -, _, -, -, -, -, rfl⟩ := hok
  obtain rfl := relayBytes_eq_ok hrelay
  push Not at hlive
  rw [ne_eq, Bool.not_eq_true] at hlive
  obtain ⟨hrev, hep⟩ := hlive
  have he := h.installation d.installationId i hi
  refine ⟨?_, ?_, h.covered.accept he⟩
  · intro id j hj
    obtain ⟨rfl, rfl⟩ | ⟨hne, hj⟩ := Table.lookup_insert_eq_some.mp hj
    · simp only [Authority.accept, update_self]
      rw [he]
      rfl
    · simp only [Authority.accept, update_of_ne hne]
      exact h.installation id j hj
  intro id relay row hrow
  obtain ⟨hkey, rfl⟩ | ⟨hne, hrow⟩ := Table.lookup_insert_eq_some.mp hrow
  · obtain ⟨rfl, rfl⟩ := Prod.mk.inj hkey
    refine ⟨⟨d.id, d.expiresAt, false, false⟩, _, ?_, AList.lookup_insert _, rfl, rfl, rfl, ?_, ?_⟩
    · simp [Authority.accept]
    · exact hep.ge
    · rintro ⟨⟩
  obtain ⟨g, j, hg, hj, hid, hexp, hrevoked, hle, hrot⟩ := h.delegation id relay row hrow
  have hg' : (A.accept d (relayOf d.relayPubkey)).grant id relay = some g := by
    simp only [Authority.accept, Authority.update_pair, if_neg hne]
    exact hg
  by_cases hinst : id = d.installationId
  · subst hinst
    obtain rfl := Option.mem_unique hi hj
    exact ⟨g, _, hg', AList.lookup_insert _, hid, hexp, hrevoked, hle, hrot⟩
  · exact ⟨g, j, hg', (AList.lookup_insert_ne hinst).trans hj, hid, hexp, hrevoked, hle, hrot⟩

lemma revokeDelegation {relay : String} (hok : s.revokeDelegation id relay generation = .ok s') :
    Refines ⟨s', A.revokeGrant id (relayOf relay)⟩ := by
  obtain ⟨d, hd, hs'⟩ := revokeDelegation_eq_ok hok
  obtain ⟨g, i, hg, hi, hid, hexp, hrev, hle, hrot⟩ := h.delegation id (relayOf relay) d hd
  have hself : (A.revokeGrant id (relayOf relay)).grant id (relayOf relay) =
      some { g with revoked := true } := by
    simp only [Authority.revokeGrant, update_self]
    rw [show A.grant id (relayOf relay) = some g from hg]
    rfl
  have hoth : ∀ id' relay', (id', relay') ≠ (id, relayOf relay) →
      (A.revokeGrant id (relayOf relay)).grant id' relay' = A.grant id' relay' := by
    intro id' relay' hne
    simp only [Authority.revokeGrant, Authority.update_pair, if_neg hne]
  have hcov := h.covered.revokeGrant id (relayOf relay)
  obtain rfl | ⟨rfl, hdrev⟩ := hs'
  · refine ⟨h.installation, ?_, hcov⟩
    intro id' relay' row hrow
    obtain ⟨hkey, rfl⟩ | ⟨hne, hrow⟩ := Table.lookup_insert_eq_some.mp hrow
    · obtain ⟨rfl, rfl⟩ := Prod.mk.inj hkey
      exact ⟨_, i, hself, hi, hid, hexp, rfl, hle, hrot⟩
    · obtain ⟨g', hg'⟩ := h.delegation id' relay' row hrow
      exact ⟨g', (hoth id' relay' hne).symm ▸ hg'⟩
  refine ⟨h.installation, ?_, hcov⟩
  intro id' relay' row hrow
  by_cases hkey : (id', relay') = (id, relayOf relay)
  · obtain ⟨rfl, rfl⟩ := Prod.mk.inj hkey
    obtain rfl := Option.mem_unique hd hrow
    exact ⟨_, i, hself, hi, hid, hexp, hdrev.symm, hle, hrot⟩
  · obtain ⟨g', hg'⟩ := h.delegation id' relay' row hrow
    exact ⟨g', (hoth id' relay' hkey).symm ▸ hg'⟩

lemma finishDelivery (hok : s.finishDelivery permit disposition = .ok s') : Refines ⟨s', A⟩ := by
  cases disposition with
  | terminal =>
    obtain rfl := ok.inj hok
    exact h
  | retryable =>
    obtain ⟨relay, -, hok⟩ := bind_eq_ok.mp hok
    obtain rfl := ok.inj hok
    exact h.of_tables rfl rfl

lemma reapExpired (hok : s.reapExpired inRange now = .ok s') : Refines ⟨s', A⟩ := by
  obtain ⟨now, -, hok⟩ := bind_eq_ok.mp hok
  obtain rfl := ok.inj hok
  refine dropInstallations ?_ _
  exact (h.selectDelegations fun _ d => now ≤ d.expiresAt).of_tables rfl rfl

lemma body (hok : (op.body inRange).Ends s () s') : Refines ⟨s', A.after op⟩ := by
  cases op with
  | createInstallation n now => exact h.createInstallation (ends_write.mp hok)
  | upsertDelegation d => exact h.upsertDelegation (ends_write.mp hok)
  | rotateEndpoint id expected new ciphertext fingerprint => exact h.rotateEndpoint (ends_write.mp hok)
  | revokeDelegation id relay generation => exact h.revokeDelegation (ends_write.mp hok)
  | revokeInstallation id expected new => exact h.revokeInstallation (ends_write.mp hok)
  | authorizeDelivery c =>
    obtain ⟨permit, t, hends, hret⟩ := ends_bind.mp hok
    obtain ⟨-, rfl⟩ := ends_pure.mp hret
    obtain ⟨hi, hd, -⟩ := authorizeDelivery_ends hends
    exact h.of_tables hi hd
  | finishDelivery permit disposition => exact h.finishDelivery (ends_write.mp hok)
  | reapExpired now => exact h.reapExpired (ends_write.mp hok)

end

lemma step {w : World} (h : w.Refines) (op : Op) : (w.step inRange op).Refines := by
  unfold World.step Store.apply
  rcases transact_cases (op.body inRange) w.store with ⟨_, s', hends, heq⟩ | ⟨e, heq⟩
  · rw [heq]
    exact h.body hends
  · rw [heq]
    exact h

lemma allows {w : World} (h : w.Refines) 
    (hok : (transact (authorizeDelivery inRange c) w.store).1 = .ok permit) :
    w.authority.Allows c.delegationId c.now permit.authority.installationId (relayOf c.relay)
      permit.authority.tokenCiphertext := by
  obtain ⟨s', hends⟩ := ends_of_transact hok
  obtain ⟨-, -, fingerprint, hchk, -⟩ := authorizeDelivery_ends hends
  obtain ⟨installation, i, d, hd, hi, hid, hirev, hep, hiexp, hdrev, hdexp, rfl, htok⟩ :=
    checkAuthority_eq_ok hchk
  obtain ⟨g, j, hg, hj, hgid, hgexp, hgrev, hle, hrot⟩ := h.delegation _ _ d hd
  obtain rfl := Option.mem_unique hi hj
  have hnotRotated : g.rotated = false := by
    by_contra hrotated
    have := hrot (by simpa using hrotated)
    omega
  refine ⟨g, _, hg, h.installation _ i hi, hgid.trans hid, hgrev.trans hdrev, hnotRotated, ?_, hirev,
    hiexp, htok.symm⟩
  omega

end World.Refines

/-! ### Runs -/

namespace World

lemma refines_init : init.Refines where
  installation := fun _ _ h => (nomatch h)
  delegation := fun _ _ _ h => (nomatch h)
  covered := fun _ _ _ h => (nomatch h)

lemma refines_foldl {w : World} (h : w.Refines) (ops : List Op) :
    (ops.foldl (step inRange) w).Refines := by
  induction ops generalizing w with
  | nil => exact h
  | cons op ops ih => exact ih (h.step op)

lemma accepted_step (w : World) (op : Op) (h : did ∈ w.authority.accepted) :
    did ∈ (w.step inRange op).authority.accepted := by
  unfold step
  split
  · cases op with
    | upsertDelegation d => exact List.mem_cons_of_mem _ h
    | _ => exact h
  · exact h

lemma live_of_foldl (hw : w.Refines) (hfr : AllSteps (step inRange) NotReused w ops)
    (hacc : did ∈ w.authority.accepted) (hle : t ≤ t')
    (h : (ops.foldl (step inRange) w).authority.Live did t') : w.authority.Live did t := by
  induction ops generalizing w with
  | nil =>
    obtain ⟨installation, relay, token, g, e, hg, he, hid, hrev, hrot, hexp, herev, heexp, htok⟩ := h
    exact ⟨installation, relay, token,
      ⟨g, e, hg, he, hid, hrev, hrot, by omega, herev, by omega, htok⟩⟩
  | cons op ops ih =>
    obtain ⟨hop, hrest⟩ := hfr
    have hstep := ih (hw.step op) hrest (accepted_step w op hacc) h
    have hnot : Authority.NotAccepting did op := by
      cases op with
      | upsertDelegation d =>
        rintro rfl
        exact hop hacc
      | _ => trivial
    unfold step at hstep
    split at hstep
    · exact hstep.of_after hnot hw.covered le_rfl
    · exact hstep

/-- **Authority is final.** A delivery is authorised only for the grant accepted last, while neither
it nor its installation is revoked or expired and the endpoint was not rotated since, and to the
token put in last.  A grant that was accepted and has lost its authority never has a delivery
authorised again. -/
theorem delivery_authority_final (ops : List Op)
    (hfresh : AllSteps (step inRange) NotReused init ops) :
    (∀ c permit, (transact (authorizeDelivery inRange c) (run inRange ops).store).1 = .ok permit →
      (run inRange ops).authority.Allows c.delegationId c.now permit.authority.installationId
        (relayOf c.relay) permit.authority.tokenCiphertext) ∧
    ∀ before after, ops = before ++ after → ∀ did t,
      did ∈ (run inRange before).authority.accepted →
      ¬(run inRange before).authority.Live did t → ∀ c : Store.DeliveryCall,
      c.delegationId = did → t ≤ c.now → ∀ permit,
      (transact (authorizeDelivery inRange c) (run inRange ops).store).1 ≠ .ok permit := by
  have hrefines : (run inRange ops).Refines := refines_foldl refines_init ops
  refine ⟨fun c permit hok => hrefines.allows hok, ?_⟩
  rintro before after rfl did t hacc hdead c rfl hle permit hok
  have hlive : (run inRange (before ++ after)).authority.Live c.delegationId c.now :=
    ⟨_, _, _, hrefines.allows hok⟩
  have hbefore : (run inRange before).Refines := refines_foldl refines_init before
  unfold run at hlive
  rw [List.foldl_append] at hlive
  exact hdead (live_of_foldl hbefore (allSteps_append.mp hfresh).2 hacc hle hlive)

/-! A device that enrols and delegates to one relay. -/

def relayHex : String :=
  "0101010101010101010101010101010101010101010101010101010101010101"

def device : NewInstallation where
  id := ⟨1⟩
  appAttestKeyId := [1]
  appAttestPublicKey := List.replicate 33 1
  profile := .buzzIosDogfood
  tokenCiphertext := [7]
  tokenFingerprint := List.replicate 32 7
  endpointEpoch := 1
  expiresAt := 100

def grantToRelay : Delegation where
  id := ⟨2⟩
  installationId := ⟨1⟩
  relayPubkey := relayHex
  endpointEpoch := 1
  generation := 1
  notBefore := 0
  expiresAt := 50

def enrolled : List Op := [.createInstallation device 0, .upsertDelegation grantToRelay]

def delivery : Store.DeliveryCall where
  delegationId := ⟨2⟩
  relay := relayHex
  epoch := 1
  generation := 1
  eventId := relayHex
  requestId := ⟨3⟩
  requestExpiresAt := 20
  quotaWindowSeconds := 60
  quotaMaxDeliveries := 10
  now := 10
  dbNow := 10

/-- The endpoint is rotated to another token, and delegates to the relay again. -/
def rotated : List Op :=
  enrolled ++ [.rotateEndpoint ⟨1⟩ 1 2 [8] (List.replicate 32 8), .upsertDelegation
    { grantToRelay with id := ⟨4⟩, endpointEpoch := 2, generation := 2 }]

def newDelivery : Store.DeliveryCall :=
  { delivery with delegationId := ⟨4⟩, epoch := 2, generation := 2 }

theorem delivery_authority_final_rotated :
    (run (fun _ => true) rotated).authority.Allows ⟨4⟩ 10 ⟨1⟩ (relayOf relayHex) [8] ∧
    ∀ permit, (transact (authorizeDelivery (fun _ => true) delivery)
      (run (fun _ => true) rotated).store).1 ≠ .ok permit := by
  have hfresh : AllSteps (step fun _ => true) NotReused init rotated :=
    ⟨trivial, fun h => (nomatch h), trivial, show (⟨4⟩ : Uuid) ∉ _ by decide +kernel, trivial⟩
  obtain ⟨hallows, hfinal⟩ := delivery_authority_final rotated hfresh
  refine ⟨hallows newDelivery _ rfl, ?_⟩
  refine hfinal (rotated.take 3) (rotated.drop 3) rfl ⟨2⟩ 10 (by decide +kernel) ?_ delivery rfl le_rfl
  have hauth : (run (fun _ => true) (rotated.take 3)).authority =
      ((Authority.none.enrol ⟨1⟩ [7] 100).accept grantToRelay (relayOf relayHex)).rotate ⟨1⟩ [8] := rfl
  rw [hauth]
  rintro ⟨installation, relay, token, g, -, hg, -, -, -, hrot, -⟩
  simp only [Authority.rotate, update_apply] at hg
  split_ifs at hg with hinst
  · obtain ⟨_, -, rfl⟩ := Option.map_eq_some_iff.mp hg
    cases hrot
  · simp only [Authority.accept, Authority.enrol, Authority.none, update_apply, grantToRelay,
      if_neg hinst, reduceCtorEq] at hg

end World

end Buzz.Gateway
