import Buzz.Relay.Auth

/-!
Whether a ban ends the sessions of a principal.

A run of `handle_auth` looks at the bans long before its key can be found by `disconnect_pubkey`.  If
the ban and its disconnect fall between, the connection becomes authenticated after all, and stays.
And the disconnect looks for the banned key alone: an agent that proved the banned key as its owner
keeps its connection.

`World.Unraced` rules this out: when a disconnect is applied on a pod for a ban that is in force, no
run there has passed the check of the key and is still at work, and the sessions of the key and of
its agents are all entered under the key.  Then the disconnect leaves none of them, and later runs
find the ban.
-/

namespace Buzz.Relay.Auth

open Buzz.Core Lib Table

/-! ### The property -/

def AuthRun.isEnded (r : AuthRun) : Bool :=
  match r.stage with
  | .ended _ => true
  | _ => false

open AuthRun

/-- The connection is authenticated as the key, or as an agent that proved it as its owner. -/
def Connection.authenticatedAs (c : Connection) (k : PublicKey) : Bool :=
  match c.auth with
  | .authenticated pubkey _ proved => pubkey = k || proved = some k
  | .pending | .failed => false

/-- The run has found the key, its own or its owner's, not banned, and is still at work. -/
def AuthRun.cleared (r : AuthRun) (k : PublicKey) : Bool :=
  match r.stage with
  | .verifying | .checkingBan | .ended _ => false
  | .checkingOwner => r.message.pubkey = k
  | .checkingAllowlist | .checkingMembership | .materializing _ | .authenticating _
  | .registering => r.message.pubkey = k || r.message.owner = some k

namespace World

/-- Once a disconnect was applied on a pod for a ban that has been in force since, and the runs that
had begun there before have ended, no connection there is authenticated as the banned key or as an
agent of it. -/
def Enforced (w : World) : Prop :=
  ∀ pod c k n, w.applied.lookup (pod, c, k) = some n →
    (∀ i r, i < n → w.runs[i]? = some r → r.pod = pod → r.isEnded) →
    ∀ id conn, w.connections.lookup (pod, id) = some conn → conn.communityId = c →
      conn.cancelled = false → conn.authenticatedAs k = false

/-- Nothing escapes the disconnect of a key on a pod. -/
def Quiet (w : World) (pod : PodId) (c : CommunityId) (k : PublicKey) : Prop :=
  w.banned c k →
    (∀ r ∈ w.runs, r.pod = pod → r.communityId = c → r.cleared k = false) ∧
    ∀ e ∈ w.connections.entries, e.1.1 = pod → e.2.communityId = c → e.2.cancelled = false →
      e.2.authenticatedAs k → e.2.authenticatedPubkey = some k

instance (w : World) (pod : PodId) (c : CommunityId) (k : PublicKey) :
    Decidable (w.Quiet pod c k) :=
  inferInstanceAs (Decidable (_ → _ ∧ _))

/-- When a disconnect is applied on a pod, nothing escapes it. -/
def Unraced (w : World) : Move → Prop
  | .enforce j => ∀ b ∈ w.unenforced[j]?, w.Quiet b.1 b.2.1 b.2.2
  | .receive pod j => ∀ b ∈ w.commands[j]?, w.Quiet pod b.1 b.2
  | _ => True

instance (w : World) : ∀ m, Decidable (w.Unraced m)
  | .enforce _ | .receive _ _ => inferInstanceAs (Decidable (∀ b ∈ _, _))
  | .connect _ _ _ | .cancel _ _ | .authTimeout _ _ | .cancelWatcher _ _ | .close _ _
  | .auth _ _ _ _ | .run _ | .abandon _ | .ban _ _ _ _ | .unban _ _ | .tick _ =>
    inferInstanceAs (Decidable True)

end World

/-! ### One step of a run -/

/-- A connection that becomes another: it may be cancelled, and it is authenticated as nobody new but
those that `may` has. -/
structure Follows (may : PublicKey → Bool) (c c' : Connection) : Prop where
  community : c'.communityId = c.communityId
  cancelled : c.cancelled → c'.cancelled
  auth : ∀ k, c'.authenticatedAs k → c.authenticatedAs k ∨ may k

section Next

variable {config : Config} {banned may : PublicKey → Bool} {r : AuthRun} {conn : Option Connection}
  {c c' : Connection}

lemma Follows.refl (c : Connection) : Follows may c c := ⟨rfl, id, fun _ => .inl⟩

lemma Follows.of_auth (hcomm : c'.communityId = c.communityId) (hcanc : c.cancelled → c'.cancelled)
    (hauth : c'.auth = c.auth ∨ c'.auth = .failed) : Follows may c c' := by
  refine ⟨hcomm, hcanc, fun k hk => .inl ?_⟩
  unfold Connection.authenticatedAs at hk ⊢
  rcases hauth with hauth | hauth
  · rwa [hauth] at hk
  · rw [hauth] at hk
    cases hk

/-- The outcome of a step: what happens to the connection, and what is newly cleared. -/
structure Outcome (banned : PublicKey → Bool) (r : AuthRun) (conn : Option Connection)
    (next : Option Connection × Stage) : Prop where
  none : conn = none → next.1 = none
  some : ∀ c, conn = some c → ∃ c', next.1 = some c' ∧ Follows r.cleared c c'
  cleared : ∀ k, banned k → ({ r with stage := next.2 } : AuthRun).cleared k →
    r.cleared k

lemma outcome_stay {stage : Stage}
    (hclear : ∀ k, banned k → ({ r with stage := stage } : AuthRun).cleared k →
      r.cleared k) : Outcome banned r conn (conn, stage) :=
  ⟨id, fun c hc => ⟨c, hc, .refl c⟩, hclear⟩

lemma outcome_reject (cancel : Bool) (reason : String) :
    Outcome banned r conn (reject conn cancel reason) := by
  cases conn with
  | none => exact ⟨fun _ => rfl, fun c hc => (nomatch hc), fun k _ h => (nomatch h)⟩
  | some c =>
    unfold reject
    simp only
    split
    · refine ⟨fun h => (nomatch h), ?_, fun k _ h => (nomatch h)⟩
      rintro c₀ ⟨⟩
      exact ⟨_, rfl, .of_auth rfl (fun h => by simp [h]) (.inr rfl)⟩
    · exact outcome_stay fun k _ h => (nomatch h)

lemma banDenial_of (h : banDenial (.of answers isBanned) = none) : isBanned = false := by
  cases answers <;> cases isBanned <;> first | rfl | cases h

lemma outcome_afterBanCheck {stage : Stage} (hclear : isBanned = false → ∀ k, banned k →
      ({ r with stage := stage } : AuthRun).cleared k → r.cleared k) :
    Outcome banned r conn (afterBanCheck (.of answers isBanned) conn stage) := by
  unfold afterBanCheck
  split
  · exact outcome_reject _ _
  · next h => exact outcome_stay (hclear (banDenial_of h))

lemma outcome_next : Outcome banned r conn (r.next config banned conn) := by
  obtain ⟨pod, connId, communityId, message, lookups, stage⟩ := r
  cases stage with
  | verifying =>
    simp only [next]
    split
    · exact outcome_stay fun k _ h => by cases h
    · exact outcome_reject _ _
  | checkingBan =>
    simp only [next]
    refine outcome_afterBanCheck fun hclear k hk hcleared => ?_
    -- the key is not banned, so it is not `k`; with an owner, that check is still to come
    have hne : message.pubkey ≠ k := by
      rintro rfl
      rw [hk] at hclear
      cases hclear
    cases hown : message.owner with
    | some owner | none => simp [cleared, hown, hne] at hcleared
  | checkingOwner =>
    simp only [next]
    refine outcome_afterBanCheck fun hclear k hk hcleared => ?_
    have hne : message.owner ≠ some k := by
      intro hown
      simp [hown, hk] at hclear
    simpa [cleared, hne] using hcleared
  | checkingAllowlist =>
    simp only [next]
    split
    · split
      · exact outcome_stay fun k _ h => h
      all_goals exact outcome_reject _ _
    · exact outcome_stay fun k _ h => h
  | checkingMembership =>
    simp only [next]
    split
    · split <;> exact outcome_stay fun k _ h => h
    · split <;> exact outcome_stay fun k _ h => h
    · exact outcome_stay fun k _ h => h
    all_goals exact outcome_reject _ _
  | materializing owner | ended reply => exact outcome_stay fun k _ h => h
  | authenticating agentOwner =>
    cases conn with
    | none => exact ⟨fun _ => rfl, fun c hc => (by cases hc), fun k _ h => by cases h⟩
    | some c =>
      simp only [next]
      split
      · refine ⟨fun h => (by cases h), ?_, fun k _ h => h⟩
        rintro c₀ ⟨⟩
        -- whom the run authenticates it has cleared
        exact ⟨_, rfl, rfl, id, fun k hk => .inr hk⟩
      · exact outcome_stay fun k _ h => by cases h
  | registering =>
    refine ⟨fun h => by rw [h]; rfl, ?_, fun k _ h => by cases h⟩
    rintro c rfl
    exact ⟨_, rfl, .of_auth rfl id (.inl rfl)⟩

end Next

/-! ### The invariant -/

namespace World

variable {w w' : World} {pod : PodId} {c : CommunityId} {k : PublicKey}

/-- On the pod nobody is authenticated, or about to be, as the key or as an agent of it. -/
structure Clean (w : World) (pod : PodId) (c : CommunityId) (k : PublicKey) : Prop where
  runs : ∀ r ∈ w.runs, r.pod = pod → r.communityId = c → r.cleared k = false
  connections : ∀ id conn, w.connections.lookup (pod, id) = some conn → conn.communityId = c →
    conn.cancelled = false → conn.authenticatedAs k = false

/-- A run has the community of its connection. -/
def Matched (w : World) : Prop :=
  ∀ r ∈ w.runs, ∀ conn, w.connOf r = some conn → conn.communityId = r.communityId

/-- What a move may do.  A run is an old one that has cleared no banned key since, or a new one on a
connection that is there; a connection is a new one without runs, or follows an old one, and who is
newly authenticated was cleared by a run of it. -/
structure Effect (w w' : World) : Prop where
  run : ∀ x ∈ w'.runs,
    (∃ r ∈ w.runs, r.pod = x.pod ∧ r.connId = x.connId ∧ r.communityId = x.communityId ∧
      ∀ k, w.banned x.communityId k → x.cleared k → r.cleared k) ∨
    (∃ conn, w.connOf x = some conn ∧ conn.communityId = x.communityId) ∧
      ∀ k, x.cleared k = false
  conn : ∀ pod id conn', w'.connections.lookup (pod, id) = some conn' →
    (conn'.auth = .pending ∧ ∀ r ∈ w'.runs, ¬(r.pod = pod ∧ r.connId = id)) ∨
    ∃ conn may, w.connections.lookup (pod, id) = some conn ∧ Follows may conn conn' ∧
      ∀ k, may k → ∃ r ∈ w.runs, r.pod = pod ∧ r.connId = id ∧ r.cleared k

lemma Matched.after (h : w.Matched) (heff : Effect w w') : w'.Matched := by
  intro x hx conn' hconn'
  rcases heff.conn _ _ conn' hconn' with ⟨-, hnone⟩ | ⟨conn, _, hconn, hfol, -⟩
  · exact absurd ⟨rfl, rfl⟩ (hnone x hx)
  rw [hfol.community]
  rcases heff.run x hx with ⟨r, hr, hpod, hid, hcomm, -⟩ | ⟨⟨conn₀, hconn₀, hcomm⟩, -⟩
  · rw [← hcomm]
    exact h r hr conn (by rw [connOf, hpod, hid]; exact hconn)
  · cases hconn.symm.trans hconn₀
    exact hcomm

lemma Clean.after (h : w.Clean pod c k) (hmatched : w.Matched) (hbanned : w.banned c k)
    (heff : Effect w w') : w'.Clean pod c k := by
  constructor
  · rintro x hx rfl rfl
    rcases heff.run x hx with ⟨r, hr, hpod, -, hcomm, hclear⟩ | ⟨-, hnone⟩
    · have hpre := h.runs r hr hpod hcomm
      by_contra hx
      rw [hclear k hbanned (Bool.not_eq_false _ ▸ hx)] at hpre
      cases hpre
    · exact hnone k
  intro id conn' hconn' hcomm hcanc
  rcases heff.conn _ _ conn' hconn' with ⟨hpend, -⟩ | ⟨conn, may, hconn, hfol, hmay⟩
  · simp [Connection.authenticatedAs, hpend]
  have hcomm : conn.communityId = c := hfol.community.symm.trans hcomm
  have hlive : conn.cancelled = false := by
    by_contra hdone
    rw [hfol.cancelled (Bool.not_eq_false _ ▸ hdone)] at hcanc
    cases hcanc
  by_contra has
  rcases hfol.auth k (Bool.not_eq_false _ ▸ has) with hold | hnew
  · rw [h.connections id conn hconn hcomm hlive] at hold
    cases hold
  obtain ⟨r, hr, rfl, rfl, hclear⟩ := hmay k hnew
  rw [h.runs r hr rfl ((hmatched r hr conn hconn).symm.trans hcomm)] at hclear
  cases hclear

lemma run_same (h : x ∈ w.runs) :
    ∃ r ∈ w.runs, r.pod = x.pod ∧ r.connId = x.connId ∧ r.communityId = x.communityId ∧
      ∀ k, w.banned x.communityId k → x.cleared k → r.cleared k :=
  ⟨x, h, rfl, rfl, rfl, fun _ _ h => h⟩

lemma effect_weaken (hruns : w'.runs = w.runs)
    (hconns : ∀ key conn', w'.connections.lookup key = some conn' →
      ∃ conn, w.connections.lookup key = some conn ∧ Follows (fun _ => false) conn conn') :
    Effect w w' := by
  refine ⟨fun x hx => .inl (run_same (hruns ▸ hx)), ?_⟩
  intro pod id conn' hconn'
  obtain ⟨conn, hconn, hfol⟩ := hconns _ conn' hconn'
  exact .inr ⟨conn, _, hconn, hfol, fun k h => (nomatch h)⟩

lemma effect_same (hruns : w'.runs = w.runs) (hconns : w'.connections = w.connections) :
    Effect w w' :=
  effect_weaken hruns fun _ conn hconn => ⟨conn, hconns ▸ hconn, .refl conn⟩

lemma effect_updateConnection (key : PodId × ConnId)
    (hf : ∀ conn, Follows (fun _ => false) conn (f conn)) : Effect w (w.updateConnection key f) := by
  unfold World.updateConnection
  split
  · next conn hconn =>
    refine effect_weaken rfl ?_
    intro key' conn' hconn'
    rcases lookup_insert_eq_some.mp hconn' with ⟨rfl, rfl⟩ | ⟨-, hold⟩
    · exact ⟨conn, hconn, hf conn⟩
    · exact ⟨conn', hold, .refl conn'⟩
  · exact effect_same rfl rfl

lemma effect_connect (pod : PodId) (id : ConnId) (c : CommunityId) :
    Effect w (w.act (.connect pod id c)) := by
  simp only [act]
  split_ifs with hused
  · exact effect_same rfl rfl
  refine ⟨fun x hx => .inl (run_same hx), ?_⟩
  intro pod' id' conn' hconn'
  rcases lookup_insert_eq_some.mp hconn' with ⟨hkey, rfl⟩ | ⟨-, hold⟩
  · cases hkey
    refine .inl ⟨rfl, fun r hr hrun => (not_or.mp hused).2 ?_⟩
    exact List.any_eq_true.mpr ⟨r, hr, decide_eq_true hrun⟩
  · exact .inr ⟨conn', fun _ => false, hold, .refl conn', fun k h => (nomatch h)⟩

lemma effect_runs {runs : List AuthRun}
    (hruns : ∀ x ∈ runs, x ∈ w.runs ∨ (∃ r ∈ w.runs, x = { r with stage := .ended none }) ∨
      (∃ conn, w.connOf x = some conn ∧ conn.communityId = x.communityId) ∧
        ∀ k, x.cleared k = false) : Effect w { w with runs := runs } := by
  refine ⟨?_, fun pod id conn hconn =>
    .inr ⟨conn, fun _ => false, hconn, .refl conn, fun k h => (nomatch h)⟩⟩
  intro x hx
  rcases hruns x hx with hold | ⟨r, hr, rfl⟩ | hnew
  · exact .inl (run_same hold)
  · exact .inl ⟨r, hr, rfl, rfl, rfl, fun k _ h => (nomatch h)⟩
  · exact .inr hnew

lemma effect_auth (pod : PodId) (id : ConnId) (m : AuthMessage) (l : Lookups) :
    Effect w (w.act (.auth pod id m l)) := by
  simp only [act]
  split
  · next conn hconn =>
    refine effect_runs fun x hx => ?_
    rcases List.mem_append.mp hx with hx | hx
    · exact .inl hx
    obtain rfl := List.mem_singleton.mp hx
    refine .inr (.inr ⟨⟨conn, hconn, rfl⟩, fun k => ?_⟩)
    show cleared ⟨_, _, _, _, _, firstStage conn.auth⟩ k = false
    cases conn.auth <;> rfl
  · exact effect_same rfl rfl

lemma effect_abandon (i : ℕ) : Effect w (w.act (.abandon i)) := by
  simp only [act]
  split
  · next r hi =>
    split_ifs
    · refine effect_runs fun x hx => ?_
      rcases List.mem_or_eq_of_mem_set hx with hx | rfl
      · exact .inl hx
      · exact .inr (.inl ⟨r, List.mem_of_getElem? hi, rfl⟩)
    · exact effect_same rfl rfl
  · exact effect_same rfl rfl

lemma effect_advance (hi : w.runs[i]? = some r) : Effect w (w.advance i r) := by
  have hr := List.mem_of_getElem? hi
  have hout : Outcome (w.banned r.communityId) r (w.connOf r) (w.nextOf r) := outcome_next
  constructor
  · intro x hx
    rcases List.mem_or_eq_of_mem_set hx with hx | rfl
    · exact .inl (run_same hx)
    · exact .inl ⟨r, hr, rfl, rfl, rfl, hout.cleared⟩
  intro pod id conn' hconn'
  refine .inr ?_
  have hsame : ∀ conn', w.connections.lookup (pod, id) = some conn' → ∃ conn may,
      w.connections.lookup (pod, id) = some conn ∧ Follows may conn conn' ∧
      ∀ k, may k → ∃ r ∈ w.runs, r.pod = pod ∧ r.connId = id ∧ r.cleared k :=
    fun conn hconn => ⟨conn, fun _ => false, hconn, .refl conn, fun k h => (nomatch h)⟩
  simp only [advance] at hconn'
  cases hconn : w.connOf r with
  | none =>
    rw [hout.none hconn] at hconn'
    exact hsame conn' hconn'
  | some conn =>
    obtain ⟨next, hnext, hfol⟩ := hout.some conn hconn
    rw [hnext] at hconn'
    rcases lookup_insert_eq_some.mp hconn' with ⟨hkey, rfl⟩ | ⟨-, hold⟩
    · cases hkey
      exact ⟨conn, _, hconn, hfol, fun k hk => ⟨r, hr, rfl, rfl, hk⟩⟩
    · exact hsame conn' hold

lemma effect_disconnectPubkey (pod : PodId) (c : CommunityId) (k : PublicKey)
    (hruns : w'.runs = w.runs)
    (hconns : w'.connections = (w.disconnectPubkey pod c k).connections) : Effect w w' := by
  refine effect_weaken hruns fun key conn' hconn' => ?_
  simp only [hconns, disconnectPubkey, lookup_mapRows, Option.map_eq_some_iff] at hconn'
  obtain ⟨conn, hconn, rfl⟩ := hconn'
  refine ⟨conn, hconn, ?_⟩
  split
  · exact .of_auth rfl (fun _ => rfl) (.inl rfl)
  · exact .refl conn

lemma effect_act (w : World) (m : Move) : Effect w (w.act m) := by
  cases m with
  | connect pod id c => exact effect_connect pod id c
  | cancel pod id =>
    exact effect_updateConnection _ fun conn => .of_auth rfl (fun _ => rfl) (.inl rfl)
  | authTimeout pod id =>
    refine effect_updateConnection _ fun conn => ?_
    split
    · exact .of_auth rfl (fun _ => rfl) (.inr rfl)
    · exact .of_auth rfl (fun _ => rfl) (.inr rfl)
    · exact .refl conn
  | cancelWatcher pod id =>
    refine effect_updateConnection _ fun conn => ?_
    split
    · exact .of_auth rfl (fun h => h) (.inr rfl)
    · exact .refl conn
  | close pod id =>
    refine effect_weaken rfl fun key conn hconn => ⟨conn, ?_, .refl conn⟩
    exact (lookup_erase_eq_some.mp hconn).2
  | auth pod id message lookups => exact effect_auth pod id message lookups
  | run i =>
    simp only [act]
    split
    · next r hi => exact effect_advance hi
    · exact effect_same rfl rfl
  | abandon i => exact effect_abandon i
  | ban pod c k expiresAt | tick seconds => exact effect_same rfl rfl
  | enforce j | receive pod j =>
    simp only [act]
    split
    · exact effect_disconnectPubkey _ _ _ rfl rfl
    · exact effect_same rfl rfl
  | unban c k =>
    simp only [act]
    split_ifs
    all_goals exact effect_same rfl rfl

lemma clean_disconnectPubkey (hquiet : w.Quiet pod c k) (hbanned : w.banned c k) :
    (w.disconnectPubkey pod c k).Clean pod c k := by
  obtain ⟨hruns, hentered⟩ := hquiet hbanned
  refine ⟨hruns, ?_⟩
  intro id conn' hconn' hcomm hcanc
  simp only [disconnectPubkey, lookup_mapRows, Option.map_eq_some_iff] at hconn'
  obtain ⟨conn, hconn, rfl⟩ := hconn'
  split_ifs at hcomm hcanc with hfound
  rw [if_neg hfound]
  by_contra has
  refine hfound ⟨trivial, hcomm, ?_⟩
  exact hentered ⟨_, conn⟩ (AList.mem_lookup_iff.mp hconn) rfl hcomm hcanc
    (Bool.not_eq_false _ ▸ has)

lemma applied_disconnectPubkey
    (h : ((w.disconnectPubkey pod c k).applied.lookup (pod', c', k')).isSome) :
    (w.applied.lookup (pod', c', k')).isSome ∨ (pod', c', k') = (pod, c, k) := by
  unfold disconnectPubkey at h
  split_ifs at h
  · exact .inl h
  rw [lookup_insert_if] at h
  split_ifs at h with hkey
  · exact .inr hkey
  · exact .inl h

lemma applied_act (hm : w.Unraced m)
    (happ : ((w.act m).applied.lookup (pod, c, k)).isSome) (hbanned : (w.act m).banned c k) :
    (w.applied.lookup (pod, c, k)).isSome ∨ (w.act m).Clean pod c k := by
  cases m with
  | enforce j =>
    simp only [act] at happ hbanned ⊢
    cases hj : w.unenforced[j]? with
    | none =>
      rw [hj] at happ
      exact .inl happ
    | some b =>
      rw [hj] at happ hbanned
      refine (applied_disconnectPubkey happ).imp_right ?_
      rintro ⟨⟩
      have hclean := clean_disconnectPubkey (hm b hj) hbanned
      exact ⟨hclean.runs, hclean.connections⟩
  | receive pod' j =>
    simp only [act] at happ hbanned ⊢
    cases hj : w.commands[j]? with
    | none =>
      rw [hj] at happ
      exact .inl happ
    | some b =>
      rw [hj] at happ hbanned
      refine (applied_disconnectPubkey happ).imp_right ?_
      rintro ⟨⟩
      exact clean_disconnectPubkey (hm b hj) hbanned
  | connect | cancel | authTimeout | cancelWatcher | close | auth | run | abandon | ban | unban
  | tick =>
    refine .inl ?_
    simp only [act, updateConnection] at happ
    repeat' split at happ
    all_goals exact happ

/-- Of every mark the ban is in force, and its pod is clean. -/
structure Sound (w : World) : Prop where
  matched : w.Matched
  marks : ∀ pod c k, (w.applied.lookup (pod, c, k)).isSome →
    w.banned c k ∧ w.Clean pod c k

lemma Sound.step (h : w.Sound) (hm : w.Unraced m) : (w.step m).Sound := by
  have hmatched : (w.act m).Matched := h.matched.after (effect_act w m)
  refine ⟨hmatched, ?_⟩
  intro pod c k hmark
  obtain ⟨n, hn⟩ := Option.isSome_iff_exists.mp hmark
  obtain ⟨hn, hbanned⟩ := lookup_select_eq_some.mp hn
  have hclean : (w.act m).Clean pod c k := by
    rcases applied_act hm (Option.isSome_of_eq_some hn) hbanned with hold | hclean
    · obtain ⟨hpre, hclean⟩ := h.marks pod c k hold
      exact hclean.after h.matched hpre (effect_act w m)
    · exact hclean
  exact ⟨hbanned, hclean.runs, hclean.connections⟩

/-- **Bans are enforced.** Where nothing escapes a disconnect, no banned principal keeps a session. -/
theorem bans_enforced (config : Config) (now : ℤ) (moves : List Move)
    (h : AllSteps step Unraced (start config now) moves) : (run config now moves).Enforced := by
  have hstart : (start config now).Sound :=
    ⟨fun r hr => (nomatch hr), fun pod c k h => by simp [start] at h⟩
  have hsound := AllSteps.invariant (I := Sound) (fun w m hw hm => hw.step hm) h hstart
  intro pod c k n hn _
  exact (hsound.marks pod c k (Option.isSome_of_eq_some hn)).2.connections

/-! ### A ban that a run crosses -/

def openConfig : Config := ⟨false, false, false⟩

def authMove : Move :=
  .auth 0 ⟨1⟩ ⟨⟨7⟩, true, none⟩ ⟨true, true, some true, some true, some true, true⟩

def crossedBan : List Move :=
  [.connect 0 ⟨1⟩ ⟨⟨1⟩⟩, authMove, .run 0, .run 0, .ban 0 ⟨⟨1⟩⟩ ⟨7⟩ none, .enforce 0, .run 0, .run 0,
    .run 0, .run 0]

theorem crossed_ban_missed : ¬(run openConfig 0 crossedBan).Enforced := by
  intro h
  have hended : (run openConfig 0 crossedBan).runs[0]?.all (·.isEnded) := by decide +kernel
  have hlive := h 0 ⟨⟨1⟩⟩ ⟨7⟩ 1 (by decide +kernel) ?_ ⟨1⟩
    ⟨⟨⟨1⟩⟩, .authenticated ⟨7⟩ none none, false, some ⟨7⟩⟩ (by decide +kernel) rfl rfl
  · exact absurd hlive (by decide)
  intro i r hi hr _
  obtain rfl := Nat.lt_one_iff.mp hi
  rw [hr] at hended
  exact hended

theorem bans_enforced_session :
    (run openConfig 0 [.connect 0 ⟨1⟩ ⟨⟨1⟩⟩, authMove, .run 0, .run 0, .run 0, .run 0, .run 0, .run 0,
      .ban 0 ⟨⟨1⟩⟩ ⟨7⟩ none, .enforce 0]).Enforced :=
  bans_enforced openConfig 0 _ (by decide +kernel)

end World

end Buzz.Relay.Auth
