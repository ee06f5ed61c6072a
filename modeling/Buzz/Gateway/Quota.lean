import Buzz.Gateway.Finality

/-!
The quota of an endpoint: the windows of a token begin at least `W` seconds apart and admit at most
`Q` deliveries each, and a period of `W` seconds meets two at most.
-/

namespace Buzz.Gateway

open Buzz.Core Lib List World Store

variable {W Q t now : ℤ} {times : List ℤ} {q q' : QuotaRow} {row : Option QuotaRow}

/-! ### Windows -/

/-- What the row of a token says of the times that were admitted. -/
structure Paced (W Q : ℤ) (q : QuotaRow) (times : List ℤ) : Prop where
  admitted : q.admitted ≤ Q
  before : ∀ t ∈ times, t < q.windowStartedAt + W
  latest : times.countP (q.windowStartedAt ≤ ·) ≤ q.admitted
  recent : times.countP (q.windowStartedAt - W ≤ ·) ≤ q.admitted + Q
  period : ∀ a, times.countP (fun t => a ≤ t ∧ t ≤ a + W) ≤ 2 * Q

lemma countP_period (times : List ℤ) (W a b : ℤ) (hb : b ≤ a) :
    times.countP (fun t => a ≤ t ∧ t ≤ a + W) ≤ times.countP (b ≤ ·) :=
  countP_mono_left fun t _ ht => by grind

namespace Paced

variable (h : Paced W Q q times)
include h

lemma grant (hlo : q.windowStartedAt ≤ t) (hhi : t < q.windowStartedAt + W)
    (hless : q.admitted < Q) :
    Paced W Q ⟨q.windowStartedAt, q.admitted + 1, t⟩ (t :: times) where
  admitted := hless
  before := forall_mem_cons.mpr ⟨hhi, h.before⟩
  latest := by grind [h.latest]
  recent := by grind [h.recent]
  period a := by
    have hperiod := h.period a
    have hrecent := h.recent
    have hmono (ht : t ≤ a + W) :=
      countP_period times W a (q.windowStartedAt - W) (by omega)
    grind

lemma reset (hW : 1 ≤ W) (hQ : 1 ≤ Q) (ht : q.windowStartedAt ≤ t - W) :
    Paced W Q ⟨t, 1, t⟩ (t :: times) := by
  have hbefore : ∀ x ∈ times, x < t := fun x hx => by grind [h.before x hx]
  -- what the last `W` seconds admitted was in the window before
  have hlast : times.countP (t - W ≤ ·) ≤ Q := by
    have hle : times.countP (t - W ≤ ·) ≤ times.countP (q.windowStartedAt ≤ ·) :=
      countP_mono_left fun x _ hx => by grind
    grind [h.latest, h.admitted]
  refine ⟨hQ, by grind, ?_, by grind, fun a => ?_⟩
  · have hnone : times.countP (t ≤ ·) = 0 := countP_eq_zero.mpr (by grind)
    grind
  · have hperiod := h.period a
    have hmono (ht : t ≤ a + W) := countP_period times W a (t - W) (by omega)
    grind

end Paced

/-! ### A run -/

section

variable (inRange : ℤ → Bool)

/-- When an operation admits a delivery to the token of this fingerprint. -/
def Store.admits (s : Store) (token : Bytes) : Op → List ℤ
  | .authorizeDelivery c =>
    match (transact (authorizeDelivery inRange c) s).1 with
    | .ok permit =>
      if (s.installations.lookup permit.authority.installationId).any (·.tokenFingerprint = token) then
        [c.now]
      else []
    | .error _ => []
  | _ => []

/-- The times of the deliveries to a token, the latest first. -/
def Store.deliveries (token : Bytes) : Store → List Op → List ℤ
  | _, [] => []
  | s, op :: ops => deliveries token (s.apply inRange op).2 ops ++ s.admits inRange token op

end

def Op.time? : Op → Option ℤ
  | .authorizeDelivery c => some c.now
  | .reapExpired now => some now
  | _ => none

/-- The quota of every delivery, on the clock of the database. -/
def Op.Limited (W Q : ℤ) : Op → Prop
  | .authorizeDelivery c => c.quotaWindowSeconds = W ∧ c.quotaMaxDeliveries = Q ∧ c.dbNow = c.now
  | _ => True

/-- A row that is gone belonged to a window that has ended. -/
def Kept (W Q : ℤ) (now : ℤ) (row : Option QuotaRow) (times : List ℤ) : Prop :=
  ∃ q, Paced W Q q times ∧ q.windowStartedAt ≤ q.updatedAt ∧ q.updatedAt ≤ now ∧
    (row = some q ∨ row = none ∧ q.windowStartedAt + W ≤ now)

variable {s s' : Store} {inRange : ℤ → Bool} {op : Op} {ops : List Op} {c : DeliveryCall}
  {permit : DeliveryPermit} {token : Bytes}

lemma admitQuota_paced (hp : Paced W Q q times) (hW : 1 ≤ W) (hQ : 1 ≤ Q)
    (hc : (Op.authorizeDelivery c).Limited W Q) (hnow : q.windowStartedAt ≤ c.now)
    (hrow : row = some q ∨ row = none ∧ q.windowStartedAt + W ≤ c.now)
    (h : admitQuota row c = some q') :
    Paced W Q q' (c.now :: times) ∧ q'.windowStartedAt ≤ c.now ∧ q'.updatedAt = c.now := by
  obtain ⟨rfl, rfl, hdb⟩ := hc
  have hreset := hp.reset (t := c.now) hW hQ
  have hgrant := hp.grant hnow
  unfold admitQuota at h
  grind

/-- The row that is written is that of the token the delivery goes to. -/
lemma authorizeDelivery_quota (h : (authorizeDelivery inRange c).Ends s permit s') :
    ∃ i quota, s.installations.lookup permit.authority.installationId = some i ∧
      admitQuota (s.endpointQuotas.lookup i.tokenFingerprint) c = some quota ∧
      s'.endpointQuotas = s.endpointQuotas.insert i.tokenFingerprint quota := by
  obtain ⟨-, -, fingerprint, hchk, quota, hquota, hset⟩ := authorizeDelivery_ends h
  unfold checkAuthority at hchk
  simp only [chain_eq_ok, Prod.mk.injEq] at hchk
  obtain ⟨_, -, i, hi, -, -, hauthority, rfl⟩ := hchk
  rw [← hauthority]
  exact ⟨i, quota, hi, hquota, hset⟩

lemma quotas_body (hop : op.time? = none) (h : (op.body inRange).Ends s () s') :
    s'.endpointQuotas = s.endpointQuotas := by
  cases op <;> simp only [Op.time?, reduceCtorEq] at hop <;>
    simp only [Op.body, ends_write, createInstallation, upsertDelegation, rotateEndpoint,
      revokeDelegation, revokeInstallation, finishDelivery, chain_eq_ok] at h <;>
    grind [dropInstallations, pure_eq_ok, bind_eq_ok]

lemma admits_of_error (h : transact (op.body inRange) s = (.error e, s')) :
    s.admits inRange token op = [] := by
  cases op with
  | authorizeDelivery c =>
    simp only [admits]
    cases hok : (transact (authorizeDelivery inRange c) s).1 with
    | error => rfl
    | ok permit =>
      obtain ⟨t, ht⟩ := ends_of_transact hok
      have hends : (Op.body inRange (.authorizeDelivery c)).Ends s () t := ht.bind rfl
      cases h.symm.trans (transact_of_ends hends)
  | _ => rfl

section

variable (hW : 1 ≤ W) (hday : W ≤ 86400) (hQ : 1 ≤ Q)
include hW hday hQ

lemma Kept.step (h : Kept W Q now (s.endpointQuotas.lookup token) times)
    (hop : op.Limited W Q) (hnow : ∀ t ∈ op.time?, now ≤ t) :
    Kept W Q (op.time?.getD now) ((s.apply inRange op).2.endpointQuotas.lookup token)
      (s.admits inRange token op ++ times) := by
  obtain ⟨q, hp, hupd, hle, hrow⟩ := h
  have hkeep (t : ℤ) (ht : now ≤ t) : Kept W Q t (s.endpointQuotas.lookup token) times :=
    ⟨q, hp, hupd, hle.trans ht, by grind⟩
  unfold Store.apply
  rcases transact_cases (op.body inRange) s with ⟨_, s', hends, heq⟩ | ⟨e, heq⟩ <;> rw [heq]
  · cases op with
    | authorizeDelivery c =>
      obtain ⟨permit, _, hpermit, hret⟩ := ends_bind.mp hends
      obtain ⟨-, rfl⟩ := ends_pure.mp hret
      obtain ⟨i, quota, hi, hquota, hset⟩ := authorizeDelivery_quota hpermit
      have hnow : now ≤ c.now := hnow _ rfl
      simp only [admits, transact_of_ends hpermit, hi, Option.any_some, decide_eq_true_eq, hset,
        Table.lookup_insert_if]
      by_cases hf : i.tokenFingerprint = token
      · subst hf
        obtain ⟨hp', hle', heq⟩ := admitQuota_paced hp hW hQ hop (by omega) (by grind) hquota
        rw [if_pos rfl, if_pos rfl]
        exact ⟨quota, hp', by omega, heq.le, .inl rfl⟩
      · rw [if_neg hf, if_neg (Ne.symm hf)]
        exact hkeep _ hnow
    | reapExpired t =>
      have hnow : now ≤ t := hnow _ rfl
      simp only [Op.body, ends_write, reapExpired, timeAt, chain_eq_ok] at hends
      obtain ⟨_, ⟨-, rfl⟩, rfl⟩ := hends
      change Kept W Q t
        ((s.endpointQuotas.select fun _ q => t - 86400 ≤ q.updatedAt).lookup token) _
      refine ⟨q, hp, hupd, hle.trans hnow, ?_⟩
      cases h : AList.lookup token _ <;> grind [Table.lookup_select_eq_some]
    | _ =>
      rw [quotas_body rfl hends]
      exact hkeep _ le_rfl
  · -- what was refused is rolled back
    rw [admits_of_error heq]
    refine hkeep _ ?_
    cases ht : op.time? with
    | none => exact le_rfl
    | some t => exact hnow t ht

lemma Kept.run (h : Kept W Q now (s.endpointQuotas.lookup token) times)
    (hops : ∀ op ∈ ops, op.Limited W Q)
    (hclock : (now :: ops.filterMap Op.time?).Pairwise (· ≤ ·)) :
    ∃ now' row, Kept W Q now' row (s.deliveries inRange token ops ++ times) := by
  induction ops generalizing s now times with
  | nil => exact ⟨_, _, h⟩
  | cons op ops ih =>
    rw [deliveries, append_assoc]
    obtain ⟨hop, hops⟩ := forall_mem_cons.mp hops
    refine ih (h.step hW hday hQ hop ?_) hops ?_
    · grind
    · cases ht : op.time? <;> grind

end

/-- **The quota of an endpoint.** In any period of `W` seconds at most `2 * Q` deliveries to a token are
admitted, and an attempt that is refused leaves the store, and the quota in it, as it was. -/
theorem endpoint_quota (hW : 1 ≤ W) (hday : W ≤ 86400) (hQ : 1 ≤ Q)
    (hops : ∀ op ∈ ops, op.Limited W Q) (hclock : (ops.filterMap Op.time?).Pairwise (· ≤ ·)) :
    (∀ token a, (Store.empty.deliveries inRange token ops).countP
        (fun t => a ≤ t ∧ t ≤ a + W) ≤ 2 * Q) ∧
      ∀ s c e s', Store.apply inRange s (.authorizeDelivery c) = (.error e, s') → s' = s := by
  refine ⟨fun token a => ?_, fun s c e s' h => ?_⟩
  · obtain ⟨now, hnow⟩ : ∃ now, (now :: ops.filterMap Op.time?).Pairwise (· ≤ ·) :=
      ⟨(ops.filterMap Op.time?).headD 0, by cases h : ops.filterMap Op.time? <;> grind⟩
    have hstart : Kept W Q now (Store.empty.endpointQuotas.lookup token) [] :=
      ⟨⟨now - W, 0, now⟩, ⟨by grind, by simp, by simp, by simp; omega, by simp; omega⟩, by grind,
        le_rfl, .inr ⟨rfl, by grind⟩⟩
    obtain ⟨_, _, _, hp, -⟩ := hstart.run hW hday hQ hops hnow
    simpa using hp.period a
  · rcases transact_cases (Op.body inRange (.authorizeDelivery c)) s with ⟨_, _, -, heq⟩ | ⟨_, heq⟩
    · cases heq.symm.trans h
    · cases heq.symm.trans h
      rfl

/-- A delivery of a device with two deliveries in five seconds; the digit is that of the event's id. -/
def attempt (now : ℤ) (event : Char) (request : ℕ) : Op :=
  .authorizeDelivery { delivery with
    now, dbNow := now, eventId := String.ofList (replicate 64 event), requestId := ⟨request⟩,
    quotaWindowSeconds := 5, quotaMaxDeliveries := 2 }

/-- One is refused as a replay, after the quota was written, and one for want of quota; then a new window
begins. -/
def attempts : List Op :=
  enrolled ++ [attempt 10 '1' 1, attempt 11 '1' 2, attempt 12 '2' 3, attempt 13 '3' 4, attempt 15 '4' 5]

theorem endpoint_quota_attempts :
    Store.empty.deliveries (fun _ => true) device.tokenFingerprint attempts = [15, 12, 10] ∧
      (Store.empty.deliveries (fun _ => true) device.tokenFingerprint attempts).countP
        (fun t => 10 ≤ t ∧ t ≤ 10 + 5) ≤ 2 * (2 : ℤ) :=
  ⟨by decide +kernel, (endpoint_quota (by decide) (by decide) (by decide)
    (by simp [attempts, enrolled, attempt, Op.Limited]) (by decide)).1 _ 10⟩

end Buzz.Gateway
