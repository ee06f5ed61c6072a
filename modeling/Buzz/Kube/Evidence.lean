import Buzz.Kube.Deploy

/-!
What a deploy rests on.

Whatever the cluster replies, a deploy deletes a pod only on evidence in its log: the fence is that
of a pod it has read under the name, and nothing was read in between but the Secret that the pod's
own state asks for.  In the loop the pod was verified and its state, or its recorded intent, asks
for the delete. In the collection the pod had terminated.  A name that is returned was read just
before, and verified.
-/

namespace Buzz.Kube

open Lib Lib.Prog Along

abbrev CallLog := Log Op Reply

def readEntry (name : String) (pod : Pod) : Entry := ⟨.getPod name, .ok (some pod)⟩

def rereadEntry (name : String) (pod : Pod) : Entry := ⟨.rereadPod name, .ok (some pod)⟩

def absentEntry (secret : String) : Entry := ⟨.secretExists secret, .ok false⟩

/-- What the state of a pod has to be for a delete in the loop, with the reads since the pod was
read. -/
inductive Replaceable (desired : String) (pod : Pod) : CallLog → Prop
  | terminated (h : decodeStartup pod = .resolved .terminated) : Replaceable desired pod []
  | broken (h : decodeStartup pod = .resolved .neverStartedProvablyBroken) :
      Replaceable desired pod []
  | secretAbsent (secret : String) (h : decodeStartup pod = .configErrorPendingSecretCheck secret) :
      Replaceable desired pod [absentEntry secret]
  | divergent (h : pod.recordedIntent ≠ some desired) (since : CallLog)
      (hnever : decodeStartup pod ≠ .resolved .started) : Replaceable desired pod since

/-- The evidence for a delete. -/
inductive Justified (args : Deploy.Args) (log : CallLog) (name : String) (fence : Fence) : Prop
  | observed (pod : Pod) (since older : CallLog) (hlog : log = since ++ readEntry name pod :: older)
      (hours : pod.isOurs args.identity) (hfence : pod.fence = fence)
      (hstate : Replaceable args.desired pod since)
  | collected (pod : Pod) (older : CallLog) (hlog : log = rereadEntry name pod :: older)
      (hfence : pod.fence = fence) (hstate : decodeStartup pod = .resolved .terminated)

/-- A delete needs its evidence; the other calls need none. -/
def Good (args : Deploy.Args) (log : CallLog) (op : Op) : Prop :=
  ∀ name fence, op = .deletePod name fence → Justified args log name fence

def Returned (args : Deploy.Args) (r : Except Halt String) (log : CallLog) : Prop :=
  ∀ agentId, r = .ok agentId →
    ∃ pod older, log = readEntry agentId pod :: older ∧ pod.isOurs args.identity

/-- A create has found the name taken. -/
def Contested (log : CallLog) : Prop :=
  ∃ name pod, (⟨.createPod name pod, .ok .alreadyExists⟩ : Entry) ∈ log

/-- A round of a loop has begun before the deadline, after what `P` says. -/
def InRound (P : CallLog → Prop) (log : CallLog) : Prop :=
  ∃ (time : ℕ) (older : CallLog), log = ⟨.elapsed, .ok time⟩ :: older ∧ time < Deploy.deadline ∧
    P older

/-- The pod of a name that is returned was running, and `leaving` is what it takes for it to be
marked for deletion. -/
def Reported (args : Deploy.Args) (leaving : CallLog → Prop) (r : Except Halt String)
    (log : CallLog) : Prop :=
  ∀ agentId, r = .ok agentId →
    ∃ pod older, log = readEntry agentId pod :: older ∧ pod.isOurs args.identity ∧
      decodeStartup pod = .resolved .started ∧ (pod.deletionMarked → leaving older)

namespace Deploy

variable {α β : Type}

/-! ### Programs that delete no pod -/

def isDeletePod : Op → Bool
  | .deletePod _ _ => true
  | _ => false

/-- The program deletes no pod, whatever the replies. -/
def Quiet (p : Deploy α) : Prop :=
  ∀ log, p.run.Along (fun _ op => isDeletePod op = false) (fun _ _ => True) log

lemma quiet_pure (a : α) : Quiet (pure a : Deploy α) := fun _ => trivial

lemma quiet_throw (e : Halt) : Quiet (throw e : Deploy α) := fun _ => trivial

lemma quiet_handle (h : isDeletePod op = false) (f : Reply op → Except Halt α) :
    Quiet (handle op f) := fun _ => ⟨h, fun _ => trivial⟩

variable (rounds : ℕ)

lemma Quiet.bind {f : α → Deploy β} (hp : Quiet p) (hf : ∀ a, Quiet (f a)) : Quiet (p >>= f) := by
  intro log
  refine exceptBind ((hp log).mono ?_)
  rintro (e | a) log' - -
  · trivial
  · exact hf a log'

lemma good_of_not_delete (h : isDeletePod op = false) : Good args log op := by
  rintro name fence rfl
  cases h

lemma Quiet.along {post : Except Halt α → CallLog → Prop} (hp : Quiet p)
    (hpost : ∀ r log', post r log') : p.run.Along (Good args) post log := by
  have hall := hp log
  generalize p.run = q at hall
  induction q generalizing log with
  | ret r => exact hpost r log
  | call op k ih => exact ⟨good_of_not_delete hall.1, fun r => ih r (hall.2 r)⟩

lemma Quiet.andThen {post : Except Halt β → CallLog → Prop}
    (hp : Quiet p) (herr : ∀ e log', post (.error e) log')
    (hf : ∀ a log', (f a).run.Along (Good args) post log') :
    (p >>= f).run.Along (Good args) post log := by
  refine exceptBind (hp.along ?_)
  rintro (e | a) log'
  · exact herr e log'
  · exact hf a log'

/-! ### Observing -/

/-- How a pod's startup state is settled, with the reads it took. -/
inductive Settled (pod : Pod) : Startup → CallLog → Prop
  | resolved {startup : Startup} (h : decodeStartup pod = .resolved startup) :
      Settled pod startup []
  | present {secret : String} (h : decodeStartup pod = .configErrorPendingSecretCheck secret) :
      Settled pod .neverStartedRecoverable [⟨.secretExists secret, .ok true⟩]
  | absent {secret : String} (h : decodeStartup pod = .configErrorPendingSecretCheck secret) :
      Settled pod .neverStartedProvablyBroken [absentEntry secret]

lemma Settled.terminated (h : Settled pod .terminated since) :
    decodeStartup pod = .resolved .terminated ∧ since = [] := by
  cases h with
  | resolved h => exact ⟨h, rfl⟩

lemma Settled.started (h : Settled pod .started since) :
    decodeStartup pod = .resolved .started ∧ since = [] := by
  cases h with
  | resolved h => exact ⟨h, rfl⟩

lemma along_settle {post : Except Halt Startup → CallLog → Prop}
    (herr : ∀ e log', post (.error e) log')
    (h : ∀ startup since, Settled pod startup since → post (.ok startup) (since ++ log)) :
    (settle pod).run.Along (Good args) post log := by
  unfold settle
  split
  · next startup hdec => exact h startup [] (.resolved hdec)
  next secret hdec =>
  refine exceptBind ⟨good_of_not_delete rfl, ?_⟩
  rintro (e | found)
  · exact herr _ _
  cases found with
  | true => exact h _ _ (.present hdec)
  | false => exact h _ _ (.absent hdec)

/-- What an observation comes from: nothing was there, or a pod was read and settled. -/
inductive Observed (identity : AgentIdentity) (log : CallLog) :
    Option VerifiedPod → CallLog → Prop where
  | absent : Observed identity log none (⟨.getPod identity.podName, .ok none⟩ :: log)
  | read {pod : Pod} {startup : Startup} {since : CallLog} (h : Settled pod startup since) :
      Observed identity log (verify identity.podName pod identity startup)
        (since ++ readEntry identity.podName pod :: log)

lemma along_observePod {post : Except Halt (Option VerifiedPod) → CallLog → Prop}
    {identity : AgentIdentity} (herr : ∀ e log', post (.error e) log')
    (h : ∀ v log', Observed identity log v log' → post (.ok v) log') :
    (observePod identity).run.Along (Good args) post log := by
  refine exceptBind (p := getPod identity.podName) ⟨good_of_not_delete rfl, ?_⟩
  rintro (e | found)
  · exact herr _ _
  cases found with
  | none => exact h _ _ .absent
  | some pod =>
    refine exceptBind (along_settle herr ?_)
    intro startup since hset
    exact h _ _ (.read hset)

lemma Observed.justified (h : Observed args.identity older v log)
    (hdel : classify v args.desired = .delete name fence) : Justified args log name fence := by
  obtain ⟨v, rfl, rfl, rfl, hst⟩ := classify_eq_delete hdel
  generalize hv : some v = observed at h
  cases h with
  | absent => cases hv
  | @read pod startup since hset =>
    obtain ⟨hours, rfl⟩ := verify_eq_some hv.symm
    refine .observed pod since older rfl hours rfl ?_
    obtain hterm | hbroken | ⟨hrecoverable, hitt⟩ := hst
    · obtain rfl : startup = .terminated := hterm
      obtain ⟨hdec, rfl⟩ := hset.terminated
      exact .terminated hdec
    · obtain rfl : startup = .neverStartedProvablyBroken := hbroken
      cases hset with
      | resolved hdec => exact .broken hdec
      | absent hdec => exact .secretAbsent _ hdec
    obtain rfl : startup = .neverStartedRecoverable := hrecoverable
    refine .divergent hitt since ?_
    cases hset with
    | resolved hdec => simp [hdec]
    | present hdec => simp [hdec]

lemma Observed.started
    (h : Observed args.identity older (some v) log) (hst : v.startup = .started)
    (hmark : v.deletionMarked → leaving older) :
    Reported args leaving (.ok v.name) log := by
  rintro agentId ⟨⟩
  generalize hv : some v = observed at h
  cases h with
  | absent => cases hv
  | @read pod startup since hset =>
    obtain ⟨hours, rfl⟩ := verify_eq_some hv.symm
    obtain rfl : startup = .started := hst
    obtain ⟨hdec, rfl⟩ := hset.started
    exact ⟨pod, older, rfl, hours, hdec, hmark⟩

/-! ### The parts of a deploy -/

lemma reported_error (e : Halt) (log : CallLog) : Reported args leaving (.error e) log := by
  rintro agentId ⟨⟩

lemma quiet_settle (pod : Pod) : Quiet (settle pod) := by
  unfold settle
  split
  · exact quiet_pure _
  refine (quiet_handle rfl _).bind ?_
  intro found
  cases found with
  | true => exact quiet_pure _
  | false => exact quiet_pure _

lemma quiet_latestCondition (identity : AgentIdentity) : Quiet (latestCondition identity) :=
  quiet_handle rfl _

lemma quiet_terminatedNames (pods : List (String × Pod)) : Quiet (terminatedNames pods) := by
  induction pods with
  | nil => exact quiet_pure _
  | cons p pods ih =>
    exact (quiet_settle p.2).bind fun _ => ih.bind fun _ => quiet_pure _

lemma quiet_collectSecrets (names : List String) : Quiet (collectSecrets names) := by
  induction names with
  | nil => exact quiet_pure _
  | cons name names ih => exact (quiet_handle rfl _).bind fun _ => ih

lemma quiet_awaitDisappearance (name : String) : Quiet (awaitDisappearance rounds name) := by
  induction rounds with
  | zero => exact quiet_throw _
  | succ rounds ih =>
    refine (quiet_handle rfl _ : Quiet elapsed).bind fun time => ?_
    split
    · exact quiet_throw _
    refine (quiet_handle rfl _ : Quiet (getPod name)).bind fun found => ?_
    cases found with
    | none => exact quiet_pure _
    | some pod => exact (quiet_handle rfl _ : Quiet sleep).bind fun _ => ih

lemma quiet_dropOwnSecret (identity : AgentIdentity) (secret : String) :
    Quiet (dropOwnSecret identity secret) := by
  have href : Quiet (secretIsReferenced identity secret) :=
    (quiet_handle rfl _ : Quiet (listPods identity)).bind fun _ => quiet_pure _
  intro log
  refine bind ((href log).mono ?_)
  rintro (e | referenced) log' - -
  · trivial
  cases referenced with
  | true => trivial
  | false => exact quiet_handle rfl _ log'

lemma along_collectPods (hpost : ∀ r log', post r log') (names : List String) (log : CallLog) :
    (collectPods names).run.Along (Good args) post log := by
  induction names generalizing log with
  | nil => exact hpost _ _
  | cons name names ih =>
    refine exceptBind (p := rereadPod name) ⟨good_of_not_delete rfl, ?_⟩
    rintro (e | found)
    · exact hpost _ _
    cases found with
    | none => exact ih _
    | some pod =>
      refine exceptBind (along_settle (fun _ _ => hpost _ _) ?_)
      intro startup since hset
      show (ite (startup = .terminated) _ _ : Deploy Unit).run.Along _ _ _
      split
      · next hterm =>
        subst hterm
        obtain ⟨hdec, rfl⟩ := hset.terminated
        refine exceptBind (p := ioLogged (.deletePod name pod.fence)) ⟨?_, fun _ => ih _⟩
        rintro _ _ ⟨⟩
        exact .collected pod _ rfl rfl hdec
      · exact ih _

lemma along_preflightGc (hpost : ∀ r log', post r log') (log : CallLog) :
    (preflightGc args.identity).run.Along (Good args) post log := by
  refine bind (p := (tryPreflightGc args.identity).run) ?_
  refine (quiet_handle rfl _ : Quiet (listPods args.identity)).andThen
    (fun _ _ => hpost _ _) fun listed _ => ?_
  refine (quiet_handle rfl _ : Quiet (listSecrets args.identity)).andThen
    (fun _ _ => hpost _ _) fun secrets _ => ?_
  refine (quiet_terminatedNames listed.1).andThen (fun _ _ => hpost _ _) fun terminated log' => ?_
  refine exceptBind (along_collectPods ?_ _ _)
  rintro (e | -) log'
  · exact hpost _ _
  · exact (quiet_collectSecrets _).along fun _ _ => hpost _ _

lemma along_sleepThen {post : Except Halt β → CallLog → Prop} {p : Deploy β}
    (herr : ∀ e log', post (.error e) log') (hp : ∀ log', p.run.Along (Good args) post log') :
    (sleep >>= fun _ => p).run.Along (Good args) post log :=
  (quiet_handle rfl _ : Quiet sleep).andThen herr fun _ => hp

lemma along_adoptLoop (log : CallLog) :
    (adoptLoop args.identity rounds).run.Along (Good args) (Reported args (InRound fun _ => True))
      log := by
  induction rounds generalizing log with
  | zero => exact reported_error _ _
  | succ rounds ih =>
    refine exceptBind (p := elapsed) ⟨good_of_not_delete rfl, ?_⟩
    rintro (e | time)
    · exact reported_error _ _
    change ℕ at time
    show (ite _ _ _ : Deploy String).run.Along _ _ _
    split
    · exact (quiet_latestCondition _).andThen reported_error fun _ _ => reported_error _ _
    next htime =>
    refine exceptBind (along_observePod reported_error ?_)
    intro v log' hobs
    cases v with
    | none => exact along_sleepThen reported_error ih
    | some pod =>
      show (ite _ _ _ : Deploy String).run.Along _ _ _
      split
      · next hst => exact hobs.started hst fun _ => ⟨time, log, rfl, Nat.not_le.mp htime, trivial⟩
      split
      · exact reported_error _ _
      split
      · exact (quiet_latestCondition _).andThen reported_error fun _ _ => reported_error _ _
      · exact along_sleepThen reported_error ih

lemma along_adoptWinner (ownSecret : String) (rounds : ℕ) (log : CallLog) :
    (adoptWinner args.identity ownSecret rounds).run.Along (Good args)
      (Reported args (InRound fun _ => True)) log := by
  refine (quiet_handle rfl _ : Quiet (getPod _)).andThen reported_error fun found log' => ?_
  cases found with
  | none =>
    exact (quiet_dropOwnSecret _ _).andThen reported_error fun _ => along_adoptLoop rounds
  | some pod =>
    refine (quiet_settle pod).andThen reported_error fun startup log' => ?_
    refine (quiet_dropOwnSecret _ _).andThen reported_error fun _ log' => ?_
    split
    · exact reported_error _ _
    · exact along_adoptLoop rounds log'

lemma along_deployLoop (created : Bool) (log : CallLog) :
    (deployLoop args rounds created).run.Along (Good args) (Reported args (InRound Contested))
      log := by
  induction rounds generalizing created log with
  | zero => exact reported_error _ _
  | succ rounds ih =>
    refine (quiet_handle rfl _ : Quiet elapsed).andThen reported_error fun time log' => ?_
    split
    · exact (quiet_latestCondition _).andThen reported_error fun _ _ => reported_error _ _
    refine exceptBind (along_observePod reported_error ?_)
    intro v log' hobs
    dsimp only [either]
    split
    case h_1 agentId hclass =>
      obtain ⟨v, rfl, rfl, hst, hmark⟩ := classify_eq_noOp hclass
      exact hobs.started hst fun h => absurd h hmark
    case h_2 => exact along_sleepThen reported_error (ih created)
    case h_3 => exact reported_error _ _
    case h_4 =>
      exact (quiet_awaitDisappearance _ _).andThen reported_error fun _ => ih created
    case h_5 name fence hclass =>
      split
      · exact (quiet_latestCondition _).andThen reported_error fun _ _ => reported_error _ _
      refine exceptBind (p := deletePod name fence) ⟨?_, ?_⟩
      · rintro _ _ ⟨⟩
        exact hobs.justified hclass
      rintro (e | outcome)
      · exact reported_error _ _
      cases outcome with
      | accepted | notFound =>
        exact (quiet_awaitDisappearance _ _).andThen reported_error fun _ => ih created
      | preconditionFailed => exact along_sleepThen reported_error (ih created)
    case h_6 =>
      refine (quiet_handle rfl _ : Quiet newGeneration).andThen reported_error
        fun generation _ => ?_
      refine (quiet_handle rfl _ : Quiet (io (.createSecret _ _))).andThen reported_error
        fun _ _ => ?_
      refine exceptBind (p := createPod _ _) ⟨good_of_not_delete rfl, ?_⟩
      rintro (e | outcome)
      · exact reported_error _ _
      cases outcome with
      | created => exact along_sleepThen reported_error (ih true)
      | alreadyExists =>
        -- the create is older than the round, so the read pod may be marked
        refine (along_adoptWinner _ rounds _).mono ?_
        intro r log' hsuf hrep agentId hr
        obtain ⟨pod, older, rfl, hours, hdec, hround⟩ := hrep agentId hr
        refine ⟨pod, older, rfl, hours, hdec, fun hmark => ?_⟩
        obtain ⟨time, older, rfl, htime, -⟩ := hround hmark
        have hmem := hsuf.subset List.mem_cons_self
        exact ⟨time, older, rfl, htime, _, _, List.mem_of_ne_of_mem (by rintro ⟨⟩)
          (List.mem_of_ne_of_mem (by rintro ⟨⟩) hmem)⟩

lemma reported_deploy (args : Args) (rounds : ℕ) :
    (deploy args rounds).run.Along (Good args) (Reported args (InRound Contested)) [] := by
  refine (quiet_handle rfl _ : Quiet (io (.ensureNamespace args.ns))).andThen reported_error
    fun _ log => ?_
  refine exceptBind (along_preflightGc ?_ _)
  rintro (e | -) log'
  · exact reported_error _ _
  · exact along_deployLoop rounds false log'

/-- **Evidence.** Whatever the replies, a deploy deletes a pod only on evidence, and returns only a
name it has just read as a pod of ours. -/
theorem along_deploy (args : Args) (rounds : ℕ) :
    (deploy args rounds).run.Along (Good args) (Returned args) [] := by
  refine (reported_deploy args rounds).mono ?_
  intro r log _ hrep agentId hr
  obtain ⟨pod, older, hlog, hours, -⟩ := hrep agentId hr
  exact ⟨pod, older, hlog, hours⟩

end Deploy

end Buzz.Kube
