import Buzz.Git.RefPattern
import Mathlib.Data.List.Induction

/-!
Protection of refs.

A push updates refs, and each update is judged by the pusher's role and the union of the rules whose
pattern matches the ref.  The union is a fold over the list of rules, and `evaluateRefUpdate_eq_ok_iff`
says what comes of it: the role reaches the built-in default, and every matching rule permits the
update on its own.
-/

namespace Buzz.Git

open Lib List MemberRole

/-! ### Updates -/

inductive UpdateKind
  | create | fastForward | nonFastForward | delete
deriving DecidableEq

structure RefUpdate where
  refName : String
  kind : UpdateKind
  oldOid : String
  newOid : String

def defaultMinRole (refName : String) (kind : UpdateKind) : MemberRole :=
  let isBranch := startsWith refName "refs/heads/"
  let isTag := startsWith refName "refs/tags/"
  match kind with
  | .create => if isBranch || isTag then .member else .admin
  | .fastForward => if isBranch then .member else if isTag then .admin else .admin
  | .nonFastForward => .admin
  | .delete => .admin

/-! ### The rules of a ref -/

/-- The union of the rules that match a ref. -/
structure EffectiveRules where
  pushRole : Option MemberRole
  noForcePush : Bool
  noDelete : Bool
  requirePatch : Bool
  hasExplicitMatch : Bool

namespace EffectiveRules

def none : EffectiveRules := ⟨.none, false, false, false, false⟩

def add (refName : String) (acc : EffectiveRules) (rule : ProtectionRule) : EffectiveRules :=
  if !rule.pattern.matchesRef refName then acc
  else
    { pushRole := match rule.pushRole with
        | .none => acc.pushRole
        | some role => some (.strictest acc.pushRole role)
      noForcePush := acc.noForcePush || rule.noForcePush
      noDelete := acc.noDelete || rule.noDelete
      requirePatch := acc.requirePatch || rule.requirePatch
      hasExplicitMatch := true }

def forRef (refName : String) (rules : List ProtectionRule) : EffectiveRules :=
  rules.foldl (add refName) none

end EffectiveRules

structure Denial where
  refName : String
  reason : String

def atLeastDefault (explicit : Option MemberRole) (default : MemberRole) : MemberRole :=
  match explicit with
  | none => default
  | some explicit =>
    if explicit.permissionLevel ≥ default.permissionLevel then explicit else default

def evaluateRefUpdate (update : RefUpdate) (role : MemberRole) (rules : List ProtectionRule) :
    Except Denial Unit :=
  let effective := EffectiveRules.forRef update.refName rules
  if !effective.hasExplicitMatch then
    let minRole := defaultMinRole update.refName update.kind
    refuseIf (role.hasAtLeast minRole = false) ⟨update.refName,
      "requires " ++ minRole.asStr ++ " role (you have " ++ role.asStr ++ "), using built-in defaults"⟩
  else do
    refuseIf (effective.requirePatch)
      ⟨update.refName, "direct push denied: require-patch is set, submit a NIP-34 patch"⟩
    -- an explicit role never weakens the default
    let minRole := atLeastDefault effective.pushRole (defaultMinRole update.refName update.kind)
    refuseIf (role.hasAtLeast minRole = false) ⟨update.refName,
      "requires " ++ minRole.asStr ++ " role (you have " ++ role.asStr ++ ")"⟩
    refuseIf (effective.noForcePush ∧ update.kind = .nonFastForward)
      ⟨update.refName, "non-fast-forward update denied: no-force-push is set"⟩
    refuseIf (effective.noDelete ∧ update.kind = .delete)
      ⟨update.refName, "ref deletion denied: no-delete is set"⟩

def denialOf (update : RefUpdate) (role : MemberRole) (rules : List ProtectionRule) :
    Option Denial :=
  match evaluateRefUpdate update role rules with
  | .ok _ => none
  | .error denial => some denial

def evaluatePush (updates : List RefUpdate) (role : MemberRole) (rules : List ProtectionRule) :
    Except (List Denial) Unit :=
  let denials := updates.filterMap fun update => denialOf update role rules
  if denials = [] then .ok () else .error denials

/-! ### What the fold computes -/

namespace EffectiveRules

variable {refName : String} (rules : List ProtectionRule)

lemma flag_forRef (flag : EffectiveRules → Bool) (sets : ProtectionRule → Bool)
    (hnone : flag none = false) (hadd : ∀ acc rule, flag (add refName acc rule) =
      (flag acc || (rule.pattern.matchesRef refName && sets rule)))
    (rules : List ProtectionRule) : flag (forRef refName rules) ↔
      ∃ rule ∈ rules, rule.pattern.matchesRef refName ∧ sets rule := by
  have hfold : ∀ acc, flag (rules.foldl (add refName) acc) ↔ flag acc ∨
      ∃ rule ∈ rules, rule.pattern.matchesRef refName ∧ sets rule := by
    induction rules with
    | nil => simp
    | cons rule rules ih =>
      intro acc
      rw [foldl_cons, ih, hadd, Bool.or_eq_true, Bool.and_eq_true, exists_mem_cons_iff, or_assoc]
  refine (hfold none).trans ?_
  rw [hnone]
  exact or_iff_right (by decide)

lemma hasExplicitMatch_forRef : (forRef refName rules).hasExplicitMatch ↔
      ∃ rule ∈ rules, rule.pattern.matchesRef refName := by
  refine (flag_forRef hasExplicitMatch (fun _ => true) rfl (fun acc rule => ?_) rules).trans ?_
  · cases hmt : rule.pattern.matchesRef refName <;> simp [add, hmt]
  · simp

lemma requirePatch_forRef : (forRef refName rules).requirePatch ↔
      ∃ rule ∈ rules, rule.pattern.matchesRef refName ∧ rule.requirePatch := by
  refine flag_forRef requirePatch ProtectionRule.requirePatch rfl (fun acc rule => ?_) rules
  cases hmt : rule.pattern.matchesRef refName <;> simp [add, hmt]

lemma noForcePush_forRef : (forRef refName rules).noForcePush ↔
      ∃ rule ∈ rules, rule.pattern.matchesRef refName ∧ rule.noForcePush := by
  refine flag_forRef noForcePush ProtectionRule.noForcePush rfl (fun acc rule => ?_) rules
  cases hmt : rule.pattern.matchesRef refName <;> simp [add, hmt]

lemma noDelete_forRef : (forRef refName rules).noDelete ↔
      ∃ rule ∈ rules, rule.pattern.matchesRef refName ∧ rule.noDelete := by
  refine flag_forRef noDelete ProtectionRule.noDelete rfl (fun acc rule => ?_) rules
  cases hmt : rule.pattern.matchesRef refName <;> simp [add, hmt]

def demand (refName : String) (rule : ProtectionRule) : Option MemberRole :=
  if rule.pattern.matchesRef refName then rule.pushRole else .none

lemma demand_eq_some : demand refName rule = some role ↔
      rule.pattern.matchesRef refName ∧ rule.pushRole = some role := by
  unfold demand
  split_ifs with hmt <;> simp [hmt]

lemma pushRole_add (acc : EffectiveRules) (rule : ProtectionRule) :
    (add refName acc rule).pushRole =
      (demand refName rule).elim acc.pushRole fun role => some (.strictest acc.pushRole role) := by
  cases hmt : rule.pattern.matchesRef refName with
  | false => simp [add, demand, hmt]
  | true =>
    cases hrole : rule.pushRole with
    | none | some role => simp [add, demand, hmt, hrole]

def strictestOf (roles : List MemberRole) : Option MemberRole :=
  roles.foldl (fun acc role => some (.strictest acc role)) .none

lemma pushRole_forRef :
    (forRef refName rules).pushRole = strictestOf (rules.filterMap (demand refName)) := by
  have hfold : ∀ acc, (rules.foldl (add refName) acc).pushRole =
      (rules.filterMap (demand refName)).foldl (fun acc role => some (.strictest acc role))
        acc.pushRole := by
    induction rules with
    | nil => exact fun _ => rfl
    | cons rule rules ih =>
      intro acc
      rw [foldl_cons, ih, pushRole_add]
      cases hdem : demand refName rule with
      | none => rw [filterMap_cons_none hdem]; rfl
      | some role => rw [filterMap_cons_some hdem]; rfl
  exact hfold none

lemma strictest_spec (existing : Option MemberRole) (role : MemberRole) :
    (strictest existing role = role ∨ some (strictest existing role) = existing) ∧
      role.permissionLevel ≤ (strictest existing role).permissionLevel ∧ ∀ r, existing = some r →
        r.permissionLevel ≤ (strictest existing role).permissionLevel := by
  cases existing with
  | none => exact ⟨Or.inl rfl, le_rfl, fun r h => by cases h⟩
  | some existing =>
    simp only [strictest]
    split_ifs with hlevel
    · refine ⟨Or.inl rfl, le_rfl, ?_⟩
      rintro r ⟨⟩
      omega
    refine ⟨Or.inr rfl, by omega, ?_⟩
    rintro r ⟨⟩
    exact le_rfl

lemma strictestOf_spec (roles : List MemberRole) : (∀ r, strictestOf roles = some r → r ∈ roles) ∧
      ∀ r ∈ roles, ∃ strict, strictestOf roles = some strict ∧
        r.permissionLevel ≤ strict.permissionLevel := by
  induction roles using reverseRecOn with
  | nil =>
    refine ⟨fun r h => ?_, fun r h => ?_⟩
    · cases h
    · cases h
  | append_singleton roles role ih =>
    obtain ⟨hmem, hbd⟩ := ih
    have hlast : strictestOf (roles ++ [role]) =
        some (.strictest (strictestOf roles) role) := foldl_concat ..
    obtain ⟨hcho, hrole, hold⟩ := strictest_spec (strictestOf roles) role
    rw [hlast]
    constructor
    · rintro r ⟨⟩
      rcases hcho with hcho | hcho
      · rw [hcho]
        exact mem_append_right _ (mem_singleton_self _)
      · exact mem_append_left _ (hmem _ hcho.symm)
    intro r hr
    refine ⟨_, rfl, ?_⟩
    rcases mem_append.mp hr with hr | hr
    · obtain ⟨strict, hstr, hle⟩ := hbd r hr
      exact hle.trans (hold strict hstr)
    · rw [mem_singleton.mp hr]
      exact hrole

lemma strictestOf_congr (h : ∀ r, r ∈ roles ↔ r ∈ roles') :
    strictestOf roles = strictestOf roles' := by
  obtain ⟨hmem, hbd⟩ := strictestOf_spec roles
  obtain ⟨hmem', hbound'⟩ := strictestOf_spec roles'
  cases hstr : strictestOf roles with
  | none =>
    cases hstrict' : strictestOf roles' with
    | none => rfl
    | some r' =>
      obtain ⟨strict, hsome, -⟩ := hbd r' ((h r').mpr (hmem' r' hstrict'))
      rw [hstr] at hsome
      cases hsome
  | some r =>
    obtain ⟨strict', hstrict', hle⟩ := hbound' r ((h r).mp (hmem r hstr))
    obtain ⟨strict, hsome, hle'⟩ := hbd strict' ((h strict').mpr (hmem' strict' hstrict'))
    rw [hstr] at hsome
    cases hsome
    rw [hstrict', permissionLevel_injective (le_antisymm hle hle')]

/-- **The union depends on the set of rules only.** -/
theorem forRef_congr {rules rules' : List ProtectionRule} (h : ∀ rule, rule ∈ rules ↔ rule ∈ rules') :
    forRef refName rules = forRef refName rules' := by
  have hex : ∀ P : ProtectionRule → Prop, (∃ rule ∈ rules, P rule) ↔ ∃ rule ∈ rules', P rule :=
    fun P => exists_congr fun rule => and_congr_left fun _ => h rule
  have hrole : (forRef refName rules).pushRole = (forRef refName rules').pushRole := by
    rw [pushRole_forRef, pushRole_forRef]
    refine strictestOf_congr fun r => ?_
    rw [mem_filterMap, mem_filterMap]
    exact hex _
  have hfor : (forRef refName rules).noForcePush = (forRef refName rules').noForcePush :=
    Bool.eq_iff_iff.mpr (by rw [noForcePush_forRef, noForcePush_forRef]; exact hex _)
  have hdel : (forRef refName rules).noDelete = (forRef refName rules').noDelete :=
    Bool.eq_iff_iff.mpr (by rw [noDelete_forRef, noDelete_forRef]; exact hex _)
  have hpatch : (forRef refName rules).requirePatch = (forRef refName rules').requirePatch :=
    Bool.eq_iff_iff.mpr (by rw [requirePatch_forRef, requirePatch_forRef]; exact hex _)
  have hmt : (forRef refName rules).hasExplicitMatch = (forRef refName rules').hasExplicitMatch :=
    Bool.eq_iff_iff.mpr (by rw [hasExplicitMatch_forRef, hasExplicitMatch_forRef]; exact hex _)
  cases heq : forRef refName rules
  cases heq' : forRef refName rules'
  rw [heq, heq'] at hrole hfor hdel hpatch hmt
  simp only at hrole hfor hdel hpatch hmt
  rw [hrole, hfor, hdel, hpatch, hmt]

end EffectiveRules

/-! ### Verdicts -/

/-- A rule on its own lets the role make the update. -/
structure ProtectionRule.Permits (rule : ProtectionRule) (update : RefUpdate) (role : MemberRole) :
    Prop where
  patch : rule.requirePatch = false
  role : ∀ required, rule.pushRole = some required → role.hasAtLeast required
  force : rule.noForcePush → update.kind ≠ .nonFastForward
  delete : rule.noDelete → update.kind ≠ .delete

variable {rules : List ProtectionRule}

section Verdict

variable {update : RefUpdate} {role : MemberRole}

lemma hasAtLeast_atLeastDefault {default : MemberRole} :
    role.hasAtLeast (atLeastDefault explicit default) ↔ role.hasAtLeast default ∧
      ∀ required, explicit = some required → role.hasAtLeast required := by
  cases explicit with
  | none => simp [atLeastDefault]
  | some required =>
    simp only [atLeastDefault, hasAtLeast, decide_eq_true_eq, Option.some.injEq, forall_eq']
    split_ifs with hlevel
    all_goals
      simp only [decide_eq_true_eq]
      omega

lemma reaches_pushRole :
    (∀ required, (EffectiveRules.forRef refName rules).pushRole = some required →
      role.hasAtLeast required) ↔ ∀ rule ∈ rules, rule.pattern.matchesRef refName →
      ∀ required, rule.pushRole = some required → role.hasAtLeast required := by
  rw [EffectiveRules.pushRole_forRef]
  obtain ⟨hmem, hbd⟩ := EffectiveRules.strictestOf_spec
    (rules.filterMap (EffectiveRules.demand refName))
  constructor
  · intro h rule hrule hmt required hreq
    have hdem := mem_filterMap.mpr
      ⟨rule, hrule, EffectiveRules.demand_eq_some.mpr ⟨hmt, hreq⟩⟩
    obtain ⟨strict, hstr, hle⟩ := hbd required hdem
    have hrch := of_decide_eq_true (h strict hstr)
    exact decide_eq_true (hle.trans hrch)
  intro h required hreq
  obtain ⟨rule, hrule, hdem⟩ := mem_filterMap.mp (hmem required hreq)
  obtain ⟨hmt, hpush⟩ := EffectiveRules.demand_eq_some.mp hdem
  exact h rule hrule hmt required hpush

/-- **The verdict, rule by rule.** -/
theorem evaluateRefUpdate_eq_ok_iff : evaluateRefUpdate update role rules = .ok () ↔
      role.hasAtLeast (defaultMinRole update.refName update.kind) = true ∧
      ∀ rule ∈ rules, rule.pattern.matchesRef update.refName = true → rule.Permits update role := by
  unfold evaluateRefUpdate
  simp only
  cases hmt : (EffectiveRules.forRef update.refName rules).hasExplicitMatch with
  | false =>
    -- no rule matches, so the default decides
    have hnone : ∀ rule ∈ rules, ¬rule.pattern.matchesRef update.refName := by
      intro rule hrule hrm
      have := (EffectiveRules.hasExplicitMatch_forRef rules).mpr ⟨rule, hrule, hrm⟩
      rw [hmt] at this
      cases this
    simp only [Bool.not_false, if_true, refuseIf_eq_ok, Bool.not_eq_false]
    constructor
    · intro h
      exact ⟨h, fun rule hrule hrm => absurd hrm (hnone rule hrule)⟩
    · exact And.left
  | true =>
    simp only [Bool.not_true, Bool.false_eq_true, if_false, bind_eq_ok, refuseIf_eq_ok,
      Bool.not_eq_false, hasAtLeast_atLeastDefault, reaches_pushRole]
    constructor
    · rintro ⟨-, hpatch, -, ⟨hdef, hroles⟩, -, hfor, hdel⟩
      refine ⟨hdef, fun rule hrule hrm => ⟨?_, hroles rule hrule hrm, ?_, ?_⟩⟩
      · refine Bool.eq_false_iff.mpr fun hset => hpatch ?_
        exact (EffectiveRules.requirePatch_forRef rules).mpr ⟨rule, hrule, hrm, hset⟩
      · intro hset hkind
        exact hfor ⟨(EffectiveRules.noForcePush_forRef rules).mpr
          ⟨rule, hrule, hrm, hset⟩, hkind⟩
      intro hset hkind
      exact hdel ⟨(EffectiveRules.noDelete_forRef rules).mpr ⟨rule, hrule, hrm, hset⟩, hkind⟩
    rintro ⟨hdef, hperm⟩
    refine ⟨(), ?_, (), ⟨hdef, fun rule hrule hrm =>
      (hperm rule hrule hrm).role⟩, (), ?_, ?_⟩
    · intro hset
      obtain ⟨rule, hrule, hrm, hset⟩ := (EffectiveRules.requirePatch_forRef rules).mp hset
      rw [(hperm rule hrule hrm).patch] at hset
      cases hset
    · rintro ⟨hset, hkind⟩
      obtain ⟨rule, hrule, hrm, hset⟩ := (EffectiveRules.noForcePush_forRef rules).mp hset
      exact (hperm rule hrule hrm).force hset hkind
    rintro ⟨hset, hkind⟩
    obtain ⟨rule, hrule, hrm, hset⟩ := (EffectiveRules.noDelete_forRef rules).mp hset
    exact (hperm rule hrule hrm).delete hset hkind

lemma evaluateRefUpdate_mono (hle : role.permissionLevel ≤ role'.permissionLevel)
    (h : evaluateRefUpdate update role rules = .ok ()) :
    evaluateRefUpdate update role' rules = .ok () := by
  have hrch : ∀ required, role.hasAtLeast required → role'.hasAtLeast required :=
    fun required hrole => decide_eq_true ((of_decide_eq_true hrole).trans hle)
  obtain ⟨hdef, hperm⟩ := evaluateRefUpdate_eq_ok_iff.mp h
  refine evaluateRefUpdate_eq_ok_iff.mpr ⟨hrch _ hdef, fun rule hrule hmt => ?_⟩
  have hrule := hperm rule hrule hmt
  exact ⟨hrule.patch, fun required hreq => hrch _ (hrule.role required hreq), hrule.force,
    hrule.delete⟩

lemma denialOf_eq_none : denialOf update role rules = none ↔
    evaluateRefUpdate update role rules = .ok () := by
  unfold denialOf
  cases evaluateRefUpdate update role rules <;> simp

lemma denialOf_eq_some : denialOf update role rules = some denial ↔
    evaluateRefUpdate update role rules = .error denial := by
  unfold denialOf
  cases evaluateRefUpdate update role rules <;> simp

lemma refName_of_denial (h : evaluateRefUpdate update role rules = .error denial) :
    denial.refName = update.refName := by
  unfold evaluateRefUpdate at h
  simp only at h
  split_ifs at h
  · obtain ⟨-, rfl⟩ := refuseIf_eq_error.mp h
    rfl
  simp only [bind_eq_error, refuseIf_eq_error] at h
  rcases h with ⟨-, rfl⟩ | ⟨-, -, ⟨-, rfl⟩ | ⟨-, -, ⟨-, rfl⟩ | ⟨-, -, -, rfl⟩⟩⟩
  all_goals rfl

end Verdict

/-! ### Pushes -/

section Push

lemma evaluatePush_eq_ok_iff : evaluatePush updates role rules = .ok () ↔
    ∀ update ∈ updates, evaluateRefUpdate update role rules = .ok () := by
  have hnil : (updates.filterMap fun update => denialOf update role rules) = [] ↔
      ∀ update ∈ updates, evaluateRefUpdate update role rules = .ok () := by
    rw [filterMap_eq_nil_iff]
    exact forall₂_congr fun _ _ => denialOf_eq_none
  unfold evaluatePush
  rw [← hnil]
  simp only
  split_ifs with h <;> simp [h]

lemma denials_forall₂ (updates : List RefUpdate) :
    List.Forall₂ (fun update denial => evaluateRefUpdate update role rules = .error denial ∧
        denial.refName = update.refName)
      (updates.filter fun update => (denialOf update role rules).isSome)
      (updates.filterMap fun update => denialOf update role rules) := by
  induction updates with
  | nil => exact .nil
  | cons update updates ih =>
    cases hden : denialOf update role rules with
    | none =>
      rw [filterMap_cons, filter_cons]
      simp only [hden, Option.isSome_none, Bool.false_eq_true, if_false]
      exact ih
    | some denial =>
      rw [filterMap_cons, filter_cons]
      simp only [hden, Option.isSome_some, if_true]
      have herr := denialOf_eq_some.mp hden
      exact .cons ⟨herr, refName_of_denial herr⟩ ih

/-- What protection rules do to a push: more rules deny more; their order and repetitions change
nothing; none admits a role below the default; a higher role may do more; and a push is allowed if all
its updates are, the denials being those of the others. -/
structure OnlyRestricts (updates : List RefUpdate) (role : MemberRole) (rules : List ProtectionRule) :
    Prop where
  more : ∀ rules', rules.Sublist rules' → evaluatePush updates role rules ≠ .ok () →
    evaluatePush updates role rules' ≠ .ok ()
  order : ∀ rules', (∀ rule, rule ∈ rules ↔ rule ∈ rules') →
    evaluatePush updates role rules' = evaluatePush updates role rules
  atLeast : ∀ update, evaluateRefUpdate update role rules = .ok () →
    role.hasAtLeast (defaultMinRole update.refName update.kind)
  higher : ∀ update role', role.permissionLevel ≤ role'.permissionLevel →
    evaluateRefUpdate update role rules = .ok () → evaluateRefUpdate update role' rules = .ok ()
  allowed : evaluatePush updates role rules = .ok () ↔
    ∀ update ∈ updates, evaluateRefUpdate update role rules = .ok ()
  denied : ∀ denials, evaluatePush updates role rules = .error denials →
    List.Forall₂ (fun update denial => evaluateRefUpdate update role rules = .error denial ∧
        denial.refName = update.refName)
      (updates.filter fun update => (denialOf update role rules).isSome) denials

/-- Protection rules only restrict. -/
theorem onlyRestricts (updates : List RefUpdate) (role : MemberRole) (rules : List ProtectionRule) :
    OnlyRestricts updates role rules where
  more rules' hsub hdenied hallowed := by
    refine hdenied (evaluatePush_eq_ok_iff.mpr fun update hupdate => ?_)
    obtain ⟨hdefault, hpermits⟩ :=
      evaluateRefUpdate_eq_ok_iff.mp (evaluatePush_eq_ok_iff.mp hallowed update hupdate)
    exact evaluateRefUpdate_eq_ok_iff.mpr ⟨hdefault, fun rule h => hpermits rule (hsub.subset h)⟩
  order rules' h := by
    have hdenial : ∀ update, denialOf update role rules' = denialOf update role rules := by
      intro update
      unfold denialOf evaluateRefUpdate
      rw [EffectiveRules.forRef_congr h]
    unfold evaluatePush
    simp only [hdenial]
  atLeast update h := (evaluateRefUpdate_eq_ok_iff.mp h).1
  higher update role' hle h := evaluateRefUpdate_mono hle h
  allowed := evaluatePush_eq_ok_iff
  denied denials h := by
    unfold evaluatePush at h
    simp only at h
    split_ifs at h
    cases h
    exact denials_forall₂ updates

end Push

end Buzz.Git
