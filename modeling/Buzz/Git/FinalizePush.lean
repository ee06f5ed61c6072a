import Buzz.Git.Pointer
import Buzz.Git.ReportStatus

/-!
The push fence.

`finalizePush` turns the output of `receive-pack` into the response to the client: it publishes the
workspace unless the push counts as rejected, and hands out git's report on both paths.  The client
reads that report ref by ref.
-/

namespace Buzz.Git

open Lib RepoState List

/-! ### What git reports -/

lemma utf8_append (s t : String) : utf8 (s ++ t) = utf8 s ++ utf8 t := by
  simp [utf8, String.toByteArray_append]

def okLine (name : String) : String := "ok " ++ (name ++ "\n")

def statusLine (name : String) : Option String → String
  | none => okLine name
  | some reason => "ng " ++ (name ++ (" " ++ (reason ++ "\n")))

/-- One ref of a push, with git's verdict. -/
structure RefStatus where
  name : String
  /-- The pushed value; `none` deletes the ref. -/
  value : Option String
  /-- The reason of a rejection; `none` for an accepted ref. -/
  rejection : Option String
  fits : (utf8 (statusLine name rejection)).length ≤ 65516

def RefStatus.accepted (s : RefStatus) : Bool := s.rejection.isNone

def ReportLine.ofWord (word rest : String) (three_le : 3 ≤ (utf8 word).length)
    (noBand : ∀ b ∈ (utf8 word).head?, b ≠ 1 ∧ b ≠ 2 ∧ b ≠ 3)
    (fits : (utf8 (word ++ rest)).length ≤ 65516) : ReportLine where
  text := utf8 (word ++ rest)
  three_le := by
    rw [utf8_append, List.length_append]
    omega
  le_max := fits
  noBand := by
    have hword : utf8 word ≠ [] := List.ne_nil_of_length_pos (by omega)
    rw [utf8_append, List.head?_append_of_ne_nil _ hword]
    exact noBand

def RefStatus.reportLine : RefStatus → ReportLine
  | ⟨name, _, none, fits⟩ =>
    .ofWord "ok " (name ++ "\n") (by decide) (noBand_of_head rfl (by decide)) fits
  | ⟨name, _, some reason, fits⟩ =>
    .ofWord "ng " (name ++ (" " ++ (reason ++ "\n"))) (by decide)
      (noBand_of_head rfl (by decide)) fits

lemma RefStatus.reportLine_text (s : RefStatus) :
    s.reportLine.text = utf8 (statusLine s.name s.rejection) := by
  obtain ⟨name, value, rejection, fits⟩ := s
  cases rejection with
  | none => rfl
  | some reason => rfl

/-- The output of `receive-pack`, and the workspace it leaves behind. -/
structure ReceivePack where
  /-- `ok`, or why the pack could not be read. -/
  unpack : String
  unpackFits : (utf8 ("unpack " ++ (unpack ++ "\n"))).length ≤ 65516
  statuses : List RefStatus
  /-- The exit code is zero. -/
  success : Bool
  workspace : Workspace
  /-- Git has set the refs it accepted. -/
  truthful : ∀ s ∈ statuses, s.accepted → workspace.ref? s.name = s.value

def ReceivePack.report (rp : ReceivePack) : Report :=
  .ofWord "unpack " (rp.unpack ++ "\n") (by decide) (noBand_of_head rfl (by decide))
      rp.unpackFits ::
    rp.statuses.map RefStatus.reportLine

/-- How a report is sent: as it is, or in a side-band if the client asked for one. -/
inductive Sending (r : Report)
  | bare
  | sideBand (f : Framing r.stream.length)

namespace Sending

variable {r : Report}

def inSideBand : Sending r → Bool
  | bare => false
  | sideBand _ => true

def stdout : Sending r → Bytes
  | bare => r.stream
  | sideBand f => Git.sideBand f.slots r.stream

end Sending

/-! ### What the client reads -/

def channelOne : Bytes → Bytes
  | 1 :: inner => inner
  | _ => []

/-- The report lines: with a side-band, those of the joined payloads of channel 1. -/
def clientLines (inSideBand : Bool) (body : Bytes) : List Bytes :=
  if inSideBand then pktLines ((pktLines body).flatMap channelOne) else pktLines body

lemma chunks_flatten (sizes : List ℕ) (inner : Bytes) :
    (chunks sizes inner).flatten = inner.take sizes.sum := by
  induction sizes generalizing inner with
  | nil => simp [chunks]
  | cons size sizes ih => rw [chunks, flatten_cons, ih, sum_cons, ← take_add]

lemma channelOne_sideBand (slots : List Slot) (inner : Bytes) :
    (pktLines (sideBand slots inner)).flatMap channelOne =
      (chunks (dataSizes slots) inner).flatten := by
  rw [pktLines_sideBand]
  induction slots generalizing inner with
  | nil => rfl
  | cons slot slots ih =>
    cases slot with
    | data size fits => exact congrArg (inner.take size ++ ·) (ih (inner.drop size))
    | progress text fits => exact ih inner
    | error text fits => exact ih inner

/-- **The client reads the report.** Whatever the framing, its lines are those git wrote. -/
theorem clientLines_stdout (sending : Sending r) :
    clientLines sending.inSideBand sending.stdout = r.map ReportLine.text := by
  have hstr : pktLines r.stream = r.map ReportLine.text := by
    rw [Report.stream, pktLines_lines_append, pktLines_flushPkt, append_nil]
  cases sending with
  | bare => exact hstr
  | sideBand f =>
    have hjoin : (pktLines (sideBand f.slots r.stream)).flatMap channelOne = r.stream := by
      rw [channelOne_sideBand, chunks_flatten, f.complete, take_length]
    show pktLines ((pktLines (sideBand f.slots r.stream)).flatMap channelOne) = _
    rw [hjoin, hstr]

/-! ### The response -/

inductive Response
  /-- Status 200 with git's output. -/
  | git (body : Bytes)
  | error (status : ℕ) (text : String)

/-- The client finds the ref reported as accepted. -/
def Response.carriesOk (inSideBand : Bool) (name : String) : Response → Bool
  | .git body => decide (utf8 (okLine name) ∈ clientLines inSideBand body)
  | .error _ _ => false

structure PackOutput where
  stdout : Bytes
  /-- The push may be published. -/
  ok : Bool

def runGitAt (success : Bool) (stdout : Bytes) : PackOutput :=
  ⟨stdout, success && !receivePackReportRejected stdout⟩

def buildGitResponse (output : PackOutput) : Response := .git output.stdout

inductive PublishError
  | cas (error : CasError)
  | conflict
  | manifestReadFailed

def PublishError.response : PublishError → Response
  | .conflict => .error 409 "push superseded by a concurrent writer; pull and retry"
  | .cas (.manifestInvalid _) => .error 400 "push produced invalid manifest state"
  | .cas (.resourceLimit _) => .error 413 "repository exceeds relay resource limits"
  | .cas _ => .error 500 "git backend error"
  | .manifestReadFailed => .error 500 "git backend error"

/-- What becomes of the conditional write: an answer, an error after it was sent, or an error before
it had an effect. -/
inductive WriteFate
  | answered | replyLost | failed

/-- Where the loss of the lease drops the publication. -/
inductive Cut
  | start | manifestStored | written

/-- The answers of everything `finalize_push` calls. -/
structure FinalizeEnv (D : Type) where
  leaseAcquired : Bool
  leaseVerified : Bool
  leaseLost : Option Cut
  limits : PublishLimits
  capture : Capture
  manifestStored : Bool
  /-- Steps of other attempts before the conditional write. -/
  others : List (RepoAct D)
  write : WriteFate
  winnerRead : Bool
  refStatePublished : Bool
  leaseFinished : Bool

structure PushContext (D E : Type) where
  pack : PackOutput
  parentState : ParentState D E
  /-- The refs of the hydrated repository after `receive-pack`. -/
  workspace : Workspace

section Finalize

variable {D E : Type} [DecidableEq D] [DecidableEq E] (S : Hashing D E) (st : RepoState D E)

def writePointer (id base : ℕ) (ctx : PushContext D E)
    (env : FinalizeEnv D) (m : Manifest D) : RepoState D E × Except PublishError (Manifest D) :=
  match env.write with
  | .failed => (st.setAttempt id .failed, .error (.cas (.backend "put_pointer")))
  | .replyLost =>
    (st.casPush S id base ctx.parentState ctx.workspace m true,
      .error (.cas (.backend "put_pointer")))
  | .answered =>
    let written := st.casPush S id base ctx.parentState ctx.workspace m false
    if st.holds S (RepoState.precondOf ctx.parentState.ifMatch) then (written, .ok m)
    else if !env.winnerRead then (written.setAttempt id .failed, .error (.cas (.backend "get")))
    else
      let read := written.readWinner S id
      match read.attempts.lookup id with
      | some .conflict => (read, .error .conflict)
      | _ => (read, .error .manifestReadFailed)

def casPublish (id base : ℕ) (ctx : PushContext D E)
    (env : FinalizeEnv D) : RepoState D E × Except PublishError (Manifest D) :=
  match casPlan ctx.parentState env.limits packCompactionThreshold ctx.workspace env.capture with
  | .error e => (st.setAttempt id .failed, .error (.cas e))
  | .ok m =>
    if !env.manifestStored then (st.setAttempt id .failed, .error (.cas (.backend "put_manifest")))
    else
      let stored := (st.putManifest m).setAttempt id (.ready base ctx.parentState ctx.workspace m)
      writePointer S (env.others.foldl (RepoState.step S) stored) id base ctx env m

/-- The publication under the serving lease; `none` when the lease is lost on the way. -/
def protect (id base : ℕ) (ctx : PushContext D E)
    (env : FinalizeEnv D) : RepoState D E × Option (Except PublishError (Manifest D)) :=
  match env.leaseLost with
  | none => ((casPublish S st id base ctx env).1, some (casPublish S st id base ctx env).2)
  | some .start => (st.setAttempt id .failed, none)
  | some .manifestStored =>
    ((st.publish id base ctx.parentState ctx.workspace env.limits env.capture).setAttempt id
      .failed, none)
  | some .written => ((casPublish S st id base ctx env).1, none)

/-- The response after the commit.  The ref-state event is published unless the manifest is the
parent, and the lease is released before its result is looked at. -/
def respond (ctx : PushContext D E) (env : FinalizeEnv D) (m : Manifest D) : Response :=
  let manifestChanged := decide (ctx.parentState.parentDigest ≠ some (S.digest m.canonical))
  let published := !manifestChanged || env.refStatePublished
  if !env.leaseFinished then .error 503 "community write lease lost during publication"
  else if !published then .error 500 "push committed but ref-state publication failed; retry"
  else buildGitResponse ctx.pack

/-- The store right after the publication, and the response. -/
def finalizePush (id base : ℕ) (ctx : PushContext D E)
    (env : FinalizeEnv D) : RepoState D E × Response :=
  -- a rejected push publishes nothing, and its report still goes to the client
  if !ctx.pack.ok then (st.setAttempt id .failed, buildGitResponse ctx.pack)
  else if !env.leaseAcquired then
    (st.setAttempt id .failed, .error 503 "community writes are fenced")
  else if !env.leaseVerified then
    (st.setAttempt id .failed, .error 503 "community write lease lost")
  else
    let r := protect S st id base ctx env
    match r.2 with
    | none => (r.1, .error 503 "community write lease lost")
    | some (.error e) => (r.1, e.response)
    | some (.ok m) => (r.1, respond S ctx env m)

/-! ### Successful publications -/

variable {S : Hashing D E} {st : RepoState D E} {id base : ℕ} {ctx : PushContext D E}
  {env : FinalizeEnv D} {m : Manifest D}

def Published (S : Hashing D E) (st : RepoState D E) (id : ℕ) (ws : Workspace) (m : Manifest D) :
    Prop :=
  st.attempts.lookup id = some (.pushed ws m) ∧ st.pointer = some (S.digest m.canonical)

lemma writePointer_ok (h : (writePointer S st id base ctx env m).2 = .ok m') :
    m' = m ∧ Published S (writePointer S st id base ctx env m).1 id ctx.workspace m := by
  unfold writePointer at h ⊢
  cases hw : env.write with
  | failed => simp [hw] at h
  | replyLost => simp [hw] at h
  | answered =>
    simp only [hw] at h ⊢
    by_cases hst : st.holds S (precondOf ctx.parentState.ifMatch)
    · simp only [hst, if_true] at h ⊢
      refine ⟨(Except.ok.inj h).symm, ?_, ?_⟩ <;>
        simp [casPush, conclude, putPointer, hst, setAttempt, install]
    rw [if_neg hst] at h
    exfalso
    split_ifs at h
    split at h <;> cases h

/-- **What a success means.** The plan succeeded, and the pointer names its manifest. -/
lemma casPublish_ok (h : (casPublish S st id base ctx env).2 = .ok m) :
    casPlan ctx.parentState env.limits packCompactionThreshold ctx.workspace env.capture = .ok m ∧
      Published S (casPublish S st id base ctx env).1 id ctx.workspace m := by
  unfold casPublish at h ⊢
  cases hplan : casPlan ctx.parentState env.limits packCompactionThreshold ctx.workspace
      env.capture with
  | error e => simp [hplan] at h
  | ok m' =>
    simp only [hplan] at h ⊢
    split_ifs at h ⊢
    obtain ⟨rfl, hpub⟩ := writePointer_ok h
    exact ⟨rfl, hpub⟩

lemma finalizePush_git (h : (finalizePush S st id base ctx env).2 = .git body) :
    body = ctx.pack.stdout ∧ (ctx.pack.ok = false ∨
      ∃ m, casPlan ctx.parentState env.limits packCompactionThreshold ctx.workspace env.capture =
        .ok m ∧ Published S (finalizePush S st id base ctx env).1 id ctx.workspace m) := by
  unfold finalizePush at h ⊢
  split_ifs at h ⊢ with hok
  · cases h
    exact ⟨rfl, .inl (by simpa using hok)⟩
  cases hlost : env.leaseLost with
  | some cut => cases cut <;> simp [protect, hlost] at h
  | none =>
    cases hpub : (casPublish S st id base ctx env).2 with
    | error e =>
      simp only [protect, hlost, hpub] at h
      rcases e with (_ | _ | _ | _) | _ | _ <;> cases h
    | ok m =>
      simp only [protect, hlost, hpub, respond] at h ⊢
      split_ifs at h
      cases h
      exact ⟨rfl, .inr ⟨m, casPublish_ok hpub⟩⟩

/-! ### The call as an attempt -/

def Reaches (S : Hashing D E) (st st' : RepoState D E) : Prop :=
  ∃ acts : List (RepoAct D), st' = acts.foldl (RepoState.step S) st

lemma Reaches.step (h : Reaches S st st') (act : RepoAct D) : Reaches S st (st'.step S act) := by
  obtain ⟨acts, rfl⟩ := h
  exact ⟨acts ++ [act], by rw [foldl_append, foldl_cons, foldl_nil]⟩

lemma Reaches.trans (h : Reaches S st st') (h' : Reaches S st' st'') : Reaches S st st'' := by
  obtain ⟨acts, rfl⟩ := h
  obtain ⟨acts', rfl⟩ := h'
  exact ⟨acts ++ acts', by rw [foldl_append]⟩

lemma reaches_failed (hst : st.attempts.lookup id = some a)
    (ha : a.inFlight) : Reaches S st (st.setAttempt id .failed) := by
  refine ⟨[.abort id], ?_⟩
  simp [step, hst, ha]

lemma reaches_casPush (replyLost : Bool)
    (hst : st.attempts.lookup id = some (.ready base ps ws m)) :
    Reaches S st (st.casPush S id base ps ws m replyLost) := by
  refine ⟨[.casPush id replyLost], ?_⟩
  simp [step, hst]

lemma reaches_writePointer
    (hst : st.attempts.lookup id = some (.ready base ctx.parentState ctx.workspace m)) :
    Reaches S st (writePointer S st id base ctx env m).1 := by
  unfold writePointer
  cases env.write with
  | failed => exact reaches_failed hst rfl
  | replyLost => exact reaches_casPush true hst
  | answered =>
    by_cases hh : st.holds S (precondOf ctx.parentState.ifMatch)
    · simp only [hh, if_true]
      exact reaches_casPush false hst
    have hlost : (st.casPush S id base ctx.parentState ctx.workspace m false).attempts.lookup id =
        some .superseded := by
      simp [casPush, conclude, putPointer, hh, setAttempt]
    have hwritten := reaches_casPush (S := S) false hst
    have hwinner := hwritten.step (.readWinner id)
    simp only [step, hlost] at hwinner
    dsimp only
    rw [if_neg hh]
    split_ifs
    · exact hwritten.trans (reaches_failed hlost rfl)
    · split <;> exact hwinner

lemma reaches_publish (limits : PublishLimits) (cap : Capture)
    (hst : st.attempts.lookup id = some (.hydrated base ctx.parentState)) :
    Reaches S st (st.publish id base ctx.parentState ctx.workspace limits cap) := by
  refine ⟨[.publish id ctx.workspace limits cap], ?_⟩
  simp [step, hst]

lemma reaches_publish_failed (limits : PublishLimits) (cap : Capture)
    (hst : st.attempts.lookup id = some (.hydrated base ctx.parentState)) : Reaches S st
      ((st.publish id base ctx.parentState ctx.workspace limits cap).setAttempt id .failed) := by
  have hpub := reaches_publish (S := S) limits cap hst
  unfold publish at hpub ⊢
  cases hplan : casPlan ctx.parentState limits packCompactionThreshold ctx.workspace cap with
  | error e =>
    simp only [hplan] at hpub ⊢
    simpa [setAttempt, AList.insert_insert] using hpub
  | ok m =>
    simp only [hplan] at hpub ⊢
    exact hpub.trans (reaches_failed (lookup_setAttempt_self _) rfl)

variable (hst : st.attempts.lookup id = some (.hydrated base ctx.parentState))

include hst

variable (hothers : ∀ act ∈ env.others, act.id ≠ id)

include hothers

lemma reaches_casPublish : Reaches S st (casPublish S st id base ctx env).1 := by
  have hpub := reaches_publish (S := S) env.limits env.capture hst
  unfold casPublish
  unfold publish at hpub
  cases hplan : casPlan ctx.parentState env.limits packCompactionThreshold ctx.workspace
      env.capture with
  | error e =>
    simp only [hplan] at hpub ⊢
    exact hpub
  | ok m =>
    simp only [hplan] at hpub ⊢
    split_ifs
    · exact reaches_failed hst rfl
    refine (hpub.trans ⟨env.others, rfl⟩).trans (reaches_writePointer ?_)
    rw [lookup_foldl_step_ne hothers]
    exact lookup_setAttempt_self _

/-- **The call is an attempt.** From a state in which the attempt has a hydrated workspace, what
`finalize_push` does to the store are steps of the attempt and of the others. -/
theorem finalizePush_steps : Reaches S st (finalizePush S st id base ctx env).1 := by
  have hpub := reaches_casPublish (S := S) hst hothers
  have hfail : Reaches S st (st.setAttempt id .failed) := reaches_failed hst rfl
  have hprotect : Reaches S st (protect S st id base ctx env).1 := by
    unfold protect
    cases env.leaseLost with
    | none => exact hpub
    | some cut =>
      cases cut with
      | start => exact hfail
      | manifestStored => exact reaches_publish_failed env.limits env.capture hst
      | written => exact hpub
  unfold finalizePush
  split_ifs
  · exact hfail
  · exact hfail
  · exact hfail
  · dsimp only
    split <;> exact hprotect

end Finalize

/-! ### The fence -/

section Fence

variable {D E : Type} [DecidableEq D] [DecidableEq E] (rp : ReceivePack) (S : Hashing D E)

def ReceivePack.context (rp : ReceivePack) (sending : Sending rp.report) (ps : ParentState D E) :
    PushContext D E :=
  ⟨runGitAt rp.success sending.stdout, ps, rp.workspace⟩

/-- Every ref that the response reports as accepted has its pushed value in a manifest that the
attempt has moved the pointer to. -/
def PushFence (rp : ReceivePack) (sending : Sending rp.report) (id : ℕ)
    (result : RepoState D E × Response) : Prop :=
  ∀ name, result.2.carriesOk sending.inSideBand name →
    ∃ s ∈ rp.statuses, s.name = name ∧ s.accepted ∧
      ∃ m, Published S result.1 id rp.workspace m ∧ m.refs.get? name = s.value

lemma okLine_injective : Function.Injective okLine := by
  intro name name' h
  have hlist := congrArg String.toList h
  simp only [okLine, String.toList_append, append_cancel_left_eq, append_cancel_right_eq] at hlist
  exact String.toList_inj.mp hlist

lemma okLine_ne (word : String) (hword : (utf8 word).head? ≠ some 111) (hne : utf8 word ≠ [])
    (name rest : String) : utf8 (word ++ rest) ≠ utf8 (okLine name) := by
  intro h
  have hhead := congrArg head? h
  rw [okLine, utf8_append, utf8_append, head?_append_of_ne_nil _ hne,
    head?_append_of_ne_nil _ (by decide)] at hhead
  exact hword (hhead.trans (by decide))

lemma okLine_mem_report (name : String) : utf8 (okLine name) ∈ rp.report.map ReportLine.text ↔
      ∃ s ∈ rp.statuses, s.name = name ∧ s.accepted := by
  have hunpack : utf8 ("unpack " ++ (rp.unpack ++ "\n")) ≠ utf8 (okLine name) :=
    okLine_ne "unpack " (by decide) (by decide) name _
  have hline : ∀ s : RefStatus, s.reportLine.text = utf8 (okLine name) ↔
      s.name = name ∧ s.accepted := by
    intro s
    rw [s.reportLine_text, RefStatus.accepted]
    cases s.rejection with
    | none =>
      have hinj : utf8 (okLine s.name) = utf8 (okLine name) ↔ s.name = name :=
        (utf8_injective.comp okLine_injective).eq_iff
      simpa [statusLine] using hinj
    | some reason =>
      have hne := okLine_ne "ng " (by decide) (by decide) name (s.name ++ (" " ++ (reason ++ "\n")))
      simpa [statusLine] using hne
  simp only [ReceivePack.report, map_cons, map_map, mem_cons, mem_map, Function.comp_apply, hline]
  constructor
  · rintro (h | h)
    · exact absurd h.symm hunpack
    · exact h
  · exact Or.inr

lemma carriesOk_stdout (sending : Sending rp.report) (name : String) :
    (Response.git sending.stdout).carriesOk sending.inSideBand name ↔
      ∃ s ∈ rp.statuses, s.name = name ∧ s.accepted := by
  rw [Response.carriesOk, decide_eq_true_iff, clientLines_stdout, okLine_mem_report]

/-- The fence holds exactly if the push may be published, or there is nothing to back. -/
lemma pushFence_iff_packOk (st : RepoState D E) (id base : ℕ) (ps : ParentState D E)
    (rp : ReceivePack) (sending : Sending rp.report) (env : FinalizeEnv D) :
    PushFence S rp sending id (finalizePush S st id base (rp.context sending ps) env) ↔
      (∀ s ∈ rp.statuses, s.accepted = false) ∨ (rp.context sending ps).pack.ok := by
  constructor
  · intro hfen
    by_contra hneither
    rw [not_or] at hneither
    obtain ⟨hsome, hpack⟩ := hneither
    -- nothing is published, and the report goes out
    have hok : (rp.context sending ps).pack.ok = false := Bool.not_eq_true _ |>.mp hpack
    have hres : finalizePush S st id base (rp.context sending ps) env =
        (st.setAttempt id .failed, .git sending.stdout) := by
      unfold finalizePush
      rw [hok]
      rfl
    obtain ⟨s, hs, hacc⟩ : ∃ s ∈ rp.statuses, s.accepted := by
      simpa using hsome
    have hcarr : (Response.git sending.stdout).carriesOk sending.inSideBand s.name :=
      (carriesOk_stdout rp sending s.name).mpr ⟨s, hs, rfl, hacc⟩
    rw [hres] at hfen
    obtain ⟨_, _, _, _, m, ⟨hattempt, _⟩, _⟩ := hfen s.name hcarr
    simp [setAttempt] at hattempt
  intro hcond name hcarr
  cases hresp : (finalizePush S st id base (rp.context sending ps) env).2 with
  | error status text =>
    rw [hresp] at hcarr
    cases hcarr
  | git body =>
    rw [hresp] at hcarr
    obtain ⟨rfl, hpath⟩ := finalizePush_git hresp
    obtain ⟨s, hs, hname, hacc⟩ := (carriesOk_stdout rp sending name).mp hcarr
    rcases hcond with hnone | hpack
    · rw [hnone s hs] at hacc
      cases hacc
    rcases hpath with hok | ⟨m, hplan, hpub⟩
    · rw [hpack] at hok
      cases hok
    refine ⟨s, hs, hname, hacc, m, hpub, ?_⟩
    rw [snapshotWorkspaceState_get? (casPlan_refs hplan), ← hname]
    exact rp.truthful s hs hacc

/-- **The push fence.** Every `ok` in the response is backed by a published manifest exactly when git
accepted no ref at all, or the exit code and the scan let the push through. -/
theorem push_fence_iff (S : Hashing D E) (st : RepoState D E) (id base : ℕ) (ps : ParentState D E)
    (rp : ReceivePack) (sending : Sending rp.report) (env : FinalizeEnv D) :
    PushFence S rp sending id (finalizePush S st id base (rp.context sending ps) env) ↔
      (∀ s ∈ rp.statuses, s.accepted = false) ∨
      (rp.success = true ∧ receivePackReportRejected sending.stdout = false) := by
  rw [pushFence_iff_packOk]
  simp [ReceivePack.context, runGitAt]

lemma isNg_statusLine (name : String) (rejection : Option String) :
    isNg (utf8 (statusLine name rejection)) = rejection.isSome := by
  cases rejection with
  | none =>
    have hok : utf8 "ok " = [111, 107, 32] := by decide
    simp [statusLine, okLine, utf8_append, hok, isNg, isPrefixOf]
  | some reason =>
    have hng : utf8 "ng " = [110, 103, 32] := by decide
    simp [statusLine, utf8_append, hng, isNg]

lemma rejects_report : rp.report.Rejects ↔ ∃ s ∈ rp.statuses, s.accepted = false := by
  have hword : utf8 "unpack " = [117, 110, 112, 97, 99, 107, 32] := by decide
  have hunpack : isNg (utf8 ("unpack " ++ (rp.unpack ++ "\n"))) = false := by
    simp [utf8_append, hword, isNg, isPrefixOf]
  have hline : ∀ s : RefStatus, isNg s.reportLine.text ↔ s.accepted = false := by
    intro s
    rw [s.reportLine_text, isNg_statusLine, RefStatus.accepted]
    cases s.rejection <;> simp
  constructor
  · rintro ⟨l, hl, hng⟩
    rcases mem_cons.mp hl with rfl | hl
    · exact absurd (hunpack.symm.trans hng) Bool.false_ne_true
    · obtain ⟨s, hs, rfl⟩ := mem_map.mp hl
      exact ⟨s, hs, (hline s).mp hng⟩
  · rintro ⟨s, hs, hrejected⟩
    exact ⟨s.reportLine, mem_cons_of_mem _ (mem_map_of_mem hs), (hline s).mpr hrejected⟩

/-- For a bare report: the refs are all rejected, or the exit code is zero and all are accepted. -/
theorem push_fence_bare (st : RepoState D E) (id base : ℕ)
    (ps : ParentState D E) (rp : ReceivePack) (env : FinalizeEnv D) :
    PushFence S rp .bare id (finalizePush S st id base (rp.context .bare ps) env) ↔
      (∀ s ∈ rp.statuses, s.accepted = false) ∨
      (rp.success = true ∧ ∀ s ∈ rp.statuses, s.accepted = true) := by
  have hscan : receivePackReportRejected (Sending.bare : Sending rp.report).stdout = false ↔
      ∀ s ∈ rp.statuses, s.accepted := by
    have hbare := (bare_scan rp.report).trans (rejects_report rp)
    rw [← Bool.not_eq_true, Sending.stdout, hbare]
    simp
  rw [pushFence_iff_packOk, ← hscan]
  simp [ReceivePack.context, runGitAt]

end Fence

/-! ### A push that is accepted in part -/

/-- Two refs of which one is a directory of the other: git sets the first and rejects the second. -/
def mixedPush : ReceivePack where
  unpack := "ok"
  unpackFits := by decide
  statuses := [⟨"refs/heads/main", some loneOid, none, by decide⟩,
    ⟨"refs/heads/main/next", some loneOid, some "failed to update ref", by decide⟩]
  success := true
  workspace := loneWorkspace
  truthful := by decide

def mixedSending : Sending mixedPush.report :=
  .sideBand ⟨[.data mixedPush.report.stream.length (by decide)], by decide⟩

def smoothEnv : FinalizeEnv Transcript where
  leaseAcquired := true
  leaseVerified := true
  leaseLost := none
  limits := ⟨0, 1000, 1000⟩
  capture := loneCapture
  manifestStored := true
  others := []
  write := .answered
  winnerRead := true
  refStatePublished := true
  leaseFinished := true

def mixedResult : RepoState Transcript Transcript × Response :=
  finalizePush .transcript .init 0 0 (mixedPush.context mixedSending .fresh) smoothEnv

set_option maxRecDepth 8000 in
theorem mixedPush_unpublished :
    mixedResult.2.carriesOk mixedSending.inSideBand "refs/heads/main" = true ∧
      mixedResult.1.pointer = none ∧ mixedResult.1.installed.isEmpty = true ∧
      ¬PushFence .transcript mixedPush mixedSending 0 mixedResult := by
  have hcarries : mixedResult.2.carriesOk mixedSending.inSideBand "refs/heads/main" := by
    decide
  have hpointer : mixedResult.1.pointer = none := by decide
  refine ⟨hcarries, hpointer, by decide, ?_⟩
  intro hfence
  obtain ⟨_, _, _, _, m, ⟨_, hpublished⟩, _⟩ := hfence _ hcarries
  rw [hpointer] at hpublished
  cases hpublished

/-! ### A push that is published -/

def acceptedPush : ReceivePack where
  unpack := "ok"
  unpackFits := by decide
  statuses := [⟨"refs/heads/main", some loneOid, none, by decide⟩]
  success := true
  workspace := loneWorkspace
  truthful := by decide

def hydratedStart : RepoState Transcript Transcript :=
  RepoState.init.setAttempt 0 (.hydrated 0 .fresh)

/-- Another attempt begins between the manifest and the pointer. -/
def acceptedResult : RepoState Transcript Transcript × Response :=
  finalizePush .transcript hydratedStart 0 0 (acceptedPush.context .bare .fresh)
    { smoothEnv with others := [.hydrate 1] }

theorem acceptedPush_reaches :
    acceptedResult.1.pointer.isSome = true ∧ (acceptedResult.1.attempts.lookup 1).isSome = true ∧
      Reaches .transcript hydratedStart acceptedResult.1 :=
  ⟨by decide, by decide, finalizePush_steps rfl (by simp [RepoAct.id])⟩

end Buzz.Git
