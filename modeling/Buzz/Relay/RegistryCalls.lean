import Buzz.Lib.Run
import Buzz.Relay.FanOutIndex

/-!
The registry as its concurrent callers use it.

The registry's maps are shared, and an operation is a sequence of calls on them: each call is
atomic, and the calls of different operations interleave.  A *worker* carries out one operation; it
has a list of calls left, and what a call finds can put further calls in front of it.  While a worker
changes a subscription of its connection it keeps the guard of the connection's entry, and nobody
else gets at that entry; the guard says nothing about the indexes.

An operation that nobody interrupts does what `SubscriptionRegistry` says (`runs_alone`).
-/

namespace Buzz.Relay

open Buzz.Core Lib List

/-! ### Calls -/

/-- A call on one of the maps, of a worker for one connection. -/
inductive Call
  /-- `subs.get_mut`, with the subscription taken out; the guard is kept if there was one. -/
  | takeSubscription (sub : SubId)
  /-- `subs.entry().or_default().insert` -/
  | insertSubscription (sub : SubId) (e : SubEntry)
  /-- `subs.remove` -/
  | takeConnection
  /-- `subs.get`, for the subscriptions that have the channel. -/
  | listChannel (c : CommunityId) (ch : Uuid)
  /-- `subs.get_mut`, with the channel taken out of the first of these subscriptions. -/
  | takeChannel (c : CommunityId) (ch : Uuid) (subs : List SubId)
  /-- A subscription taken out under the guard. -/
  | dropSubscription (sub : SubId)
  | dropGuard
  /-- `index.entry().or_default().push` -/
  | push (ref : IndexRef) (sub : SubId)
  /-- `index.get_mut`, with the item taken out of the list and the list tested for emptiness. -/
  | retain (ref : IndexRef) (sub : SubId)
  /-- `index.remove` -/
  | removeKey (ref : IndexRef)

/-- The call needs the entry of its connection, which another worker's guard keeps from it. -/
def Call.locks : Call → Bool
  | takeSubscription _ | insertSubscription _ _ | takeConnection | listChannel _ _ => true
  | takeChannel _ _ subs => !subs.isEmpty
  | _ => false

/-- What carries out an operation: its connection, whether it has the guard of that connection, and
the calls it has left. -/
structure Worker where
  conn : ConnId
  guard : Bool := false
  calls : List Call

def unindex (sub : SubId) (e : SubEntry) : List Call := (entryRefs e).map fun ref => .retain ref sub

def Worker.exec (w : Worker) (r : SubscriptionRegistry) (rest : List Call) :
    Call → SubscriptionRegistry × Worker
  | .takeSubscription sub =>
    match r.subs.lookup w.conn with
    | none => (r, { w with calls := rest })
    | some connSubs =>
      match connSubs.lookup sub with
      | none => (r, { w with calls := rest })
      | some e =>
        ({ r with subs := r.subs.insert w.conn (connSubs.erase sub) },
          { w with guard := true, calls := unindex sub e ++ .dropGuard :: rest })
  | .insertSubscription sub e =>
    let connSubs := (r.subs.lookup w.conn).getD ∅
    ({ r with subs := r.subs.insert w.conn (connSubs.insert sub e) }, { w with calls := rest })
  | .takeConnection =>
    match r.subs.lookup w.conn with
    | none => (r, { w with calls := rest })
    | some connSubs =>
      ({ r with subs := r.subs.erase w.conn },
        { w with calls := connSubs.entries.flatMap (fun s => unindex s.1 s.2) ++ rest })
  | .listChannel c ch =>
    let subIds := ((r.subs.lookup w.conn).map fun connSubs =>
      (connSubs.entries.filter fun s =>
        s.2.communityId = c && s.2.scope.channelIds.contains ch).map Sigma.fst).getD []
    (r, { w with calls := .takeChannel c ch subIds :: rest })
  | .takeChannel _ _ [] => (r, { w with calls := rest })
  | .takeChannel c ch (sub :: subs) =>
    match r.subs.lookup w.conn with
    -- the loop is left
    | none => (r, { w with calls := rest })
    | some connSubs =>
      match connSubs.lookup sub with
      | none => (r, { w with calls := .takeChannel c ch subs :: rest })
      | some e =>
        match e.scope with
        | .global => (r, { w with calls := .takeChannel c ch subs :: rest })
        | .channels ids =>
          let left := ids.filter fun candidate => ¬ candidate = ch
          ({ r with
              subs := r.subs.insert w.conn
                (connSubs.insert sub { e with scope := .channels left }) },
            { w with
              guard := true
              calls := unindex sub ⟨e.filters, c, .channels [ch]⟩ ++
                ((if left = [] then [.dropSubscription sub] else []) ++
                  .dropGuard :: .takeChannel c ch subs :: rest) })
  | .dropSubscription sub =>
    match r.subs.lookup w.conn with
    | none => (r, { w with calls := rest })
    | some connSubs =>
      ({ r with subs := r.subs.insert w.conn (connSubs.erase sub) }, { w with calls := rest })
  | .dropGuard => (r, { w with guard := false, calls := rest })
  | .push ref sub => (r.pushRef (w.conn, sub) ref, { w with calls := rest })
  | .retain ref sub =>
    match r.lookupRef ref with
    | none => (r, { w with calls := rest })
    | some xs =>
      let kept := xs.filter fun y => ¬ y = (w.conn, sub)
      (r.setRef kept ref,
        { w with calls := if kept = [] then .removeKey ref :: rest else rest })
  | .removeKey ref => (r.eraseRef ref, { w with calls := rest })

def SubOp.conn : SubOp → ConnId
  | registerScoped _ conn _ _ _ => conn
  | registerChannelsScoped _ conn _ _ _ => conn
  | removeSubscription conn _ => conn
  | removeConnection conn => conn
  | removeChannelSubscriptionsScoped _ conn _ => conn

def registerCalls (sub : SubId) (e : SubEntry) : List Call :=
  .takeSubscription sub :: .insertSubscription sub e ::
    (entryRefs e).map fun ref => .push ref sub

def SubOp.calls : SubOp → List Call
  | registerScoped c _ sub filters channelId =>
    registerCalls sub
      ⟨filters, c, (channelId.map fun ch => SubscriptionScope.channels [ch]).getD .global⟩
  | registerChannelsScoped c _ sub filters channelIds =>
    registerCalls sub ⟨filters, c, .channels channelIds⟩
  | removeSubscription _ sub => [.takeSubscription sub]
  | removeConnection _ => [.takeConnection]
  | removeChannelSubscriptionsScoped c _ ch => [.listChannel c ch]

/-! ### Interleavings -/

/-- The registry, and the workers that use it. -/
structure Interleaving where
  registry : SubscriptionRegistry
  workers : List Worker

namespace Interleaving

def start (r : SubscriptionRegistry) (ops : List SubOp) : Interleaving :=
  ⟨r, ops.map fun op => { conn := op.conn, calls := op.calls }⟩

variable (s : Interleaving)

/-- The next call of one worker.  A worker that has to wait for a guard does nothing. -/
def step (i : ℕ) : Interleaving :=
  match s.workers[i]? with
  | none => s
  | some w =>
    match w.calls with
    | [] => s
    | call :: rest =>
      if call.locks && s.workers.any (fun v => v.guard && v.conn = w.conn) then s
      else
        let (r, w') := w.exec s.registry rest call
        ⟨r, s.workers.set i w'⟩

def run (schedule : List ℕ) : Interleaving := schedule.foldl step s

def Finished : Prop := ∀ w ∈ s.workers, w.calls = []

lemma step_cases (i : ℕ) :
    s.step i = s ∨ ∃ w call rest, s.workers[i]? = some w ∧ w.calls = call :: rest ∧
      s.step i = ⟨(w.exec s.registry rest call).1,
        s.workers.set i (w.exec s.registry rest call).2⟩ := by
  unfold step
  cases hw : s.workers[i]? with
  | none => exact .inl rfl
  | some w =>
    cases hcalls : w.calls with
    | nil => simp [hcalls]
    | cons call rest =>
      simp only [hcalls]
      split_ifs
      · exact .inl rfl
      · exact .inr ⟨w, call, rest, rfl, hcalls, rfl⟩

end Interleaving

/-! ### An operation that is alone -/

namespace SubscriptionRegistry

section Alone

variable (r : SubscriptionRegistry) (c : CommunityId) (x : ConnId × SubId) (e : SubEntry)

lemma removeFromIndex_setSubs (subs : Table ConnId (Table SubId SubEntry)) :
    removeFromIndex { r with subs := subs } x e = { r.removeFromIndex x e with subs := subs } := by
  rw [removeFromIndex_eq_foldl, removeFromIndex_eq_foldl]
  generalize entryRefs e = refs
  induction refs generalizing r with
  | nil => rfl
  | cons ref refs ih =>
    have hprune : pruneRef x { r with subs := subs } ref =
        { r.pruneRef x ref with subs := subs } := by
      cases ref <;> simp only [pruneRef_eq]
    rw [foldl_cons, foldl_cons, hprune, ih]

variable {conn : ConnId}

lemma foldl_removeChannelOf_absent (h : r.subs.lookup conn = none) (ch : Uuid)
    (subs : List SubId) (updates : List ChannelSubscriptionUpdate) :
    subs.foldl (removeChannelOf c conn ch) (r, updates) = (r, updates) := by
  induction subs with
  | nil => rfl
  | cons sub subs ih =>
    have hround : removeChannelOf c conn ch (r, updates) sub = (r, updates) := by
      simp only [removeChannelOf, h]
    rw [foldl_cons, hround, ih]

end Alone

end SubscriptionRegistry

namespace Interleaving

/-- Some calls of the only worker lead from one state to the other. -/
def Reaches (s s' : Interleaving) : Prop := ∃ n, s.run (List.replicate n 0) = s'

lemma Reaches.refl (s : Interleaving) : Reaches s s := ⟨0, rfl⟩

lemma Reaches.trans (h : Reaches s s') (h' : Reaches s' s'') : Reaches s s'' := by
  obtain ⟨n, rfl⟩ := h
  obtain ⟨m, rfl⟩ := h'
  refine ⟨n + m, ?_⟩
  rw [replicate_add]
  exact foldl_append

section Single

open SubscriptionRegistry

variable {r : SubscriptionRegistry} {conn : ConnId} {g : Bool} {rest : List Call} (sub : SubId)

abbrev single (r : SubscriptionRegistry) (w : Worker) : Interleaving := ⟨r, [w]⟩

variable {call : Call}

lemma reaches_exec (h : call.locks → g = false) : Reaches (single r ⟨conn, g, call :: rest⟩)
      (single (Worker.exec ⟨conn, g, call :: rest⟩ r rest call).1
        (Worker.exec ⟨conn, g, call :: rest⟩ r rest call).2) := by
  refine ⟨1, ?_⟩
  have hfree : (call.locks && g) = false := by
    cases hlocks : call.locks with
    | false => rfl
    | true => exact h hlocks
  simp [run, step, hfree]

lemma reaches_push (refs : List IndexRef) :
    Reaches (single r ⟨conn, g, refs.map fun ref => .push ref sub⟩)
      (single (refs.foldl (pushRef (conn, sub)) r) ⟨conn, g, []⟩) := by
  induction refs generalizing r with
  | nil => exact .refl _
  | cons ref refs ih => exact (reaches_exec (by simp [Call.locks])).trans ih

lemma reaches_retain (ref : IndexRef) : Reaches (single r ⟨conn, g, .retain ref sub :: rest⟩)
      (single (r.pruneRef (conn, sub) ref) ⟨conn, g, rest⟩) := by
  refine (reaches_exec (by simp [Call.locks])).trans ?_
  simp only [Worker.exec, pruneRef]
  cases r.lookupRef ref with
  | none => exact .refl _
  | some xs =>
    dsimp only
    split_ifs
    · exact reaches_exec (by simp [Call.locks])
    · exact .refl _

lemma reaches_unindex (e : SubEntry) : Reaches (single r ⟨conn, g, unindex sub e ++ rest⟩)
      (single (r.removeFromIndex (conn, sub) e) ⟨conn, g, rest⟩) := by
  rw [removeFromIndex_eq_foldl]
  unfold unindex
  generalize entryRefs e = refs
  induction refs generalizing r with
  | nil => exact .refl _
  | cons ref refs ih => exact (reaches_retain sub ref).trans ih

lemma reaches_takeSubscription : Reaches (single r ⟨conn, false, .takeSubscription sub :: rest⟩)
      (single (r.removeSubscription conn sub).1 ⟨conn, false, rest⟩) := by
  refine (reaches_exec (fun _ => rfl)).trans ?_
  simp only [Worker.exec, removeSubscription]
  cases r.subs.lookup conn with
  | none => exact .refl _
  | some connSubs =>
    dsimp only
    cases connSubs.lookup sub with
    | none => exact .refl _
    | some e =>
      refine (reaches_unindex sub e).trans ?_
      exact reaches_exec (by simp [Call.locks])

lemma reaches_register (c : CommunityId) (filters : List Filter) (scope : SubscriptionScope) :
    Reaches (single r ⟨conn, false, registerCalls sub ⟨filters, c, scope⟩⟩)
      (single (r.registerWithScope c conn sub filters scope).1 ⟨conn, false, []⟩) := by
  refine (reaches_takeSubscription sub).trans ?_
  refine (reaches_exec (fun _ => rfl)).trans ?_
  have hindex : (r.registerWithScope c conn sub filters scope).1 =
      (entryRefs ⟨filters, c, scope⟩).foldl (pushRef (conn, sub)) _ :=
    insertIntoIndex_eq_foldl _ _ _
  rw [hindex]
  exact reaches_push sub _

lemma reaches_takeConnection : Reaches (single r ⟨conn, false, [.takeConnection]⟩)
      (single (r.removeConnection conn).1 ⟨conn, false, []⟩) := by
  refine (reaches_exec (fun _ => rfl)).trans ?_
  simp only [Worker.exec, removeConnection]
  cases r.subs.lookup conn with
  | none => exact .refl _
  | some connSubs =>
    dsimp only
    generalize ({ r with subs := r.subs.erase conn } : SubscriptionRegistry) = r'
    induction connSubs.entries generalizing r' with
    | nil => exact .refl _
    | cons s entries ih =>
      rw [flatMap_cons, append_assoc, foldl_cons]
      exact (reaches_unindex s.1 s.2).trans (ih _)

lemma reaches_takeChannel (c : CommunityId) (ch : Uuid) (subs : List SubId)
    (updates : List ChannelSubscriptionUpdate) :
    Reaches (single r ⟨conn, false, [.takeChannel c ch subs]⟩)
      (single (subs.foldl (removeChannelOf c conn ch) (r, updates)).1 ⟨conn, false, []⟩) := by
  induction subs generalizing r updates with
  | nil => exact reaches_exec (fun _ => rfl)
  | cons sub subs ih =>
    refine (reaches_exec (fun _ => rfl)).trans ?_
    rw [foldl_cons]
    simp only [Worker.exec, removeChannelOf]
    cases hconn : r.subs.lookup conn with
    | none =>
      dsimp only
      rw [foldl_removeChannelOf_absent r c hconn]
      exact .refl _
    | some connSubs =>
      dsimp only
      cases connSubs.lookup sub with
      | none => exact ih updates
      | some e =>
        dsimp only
        cases e.scope with
        | global => exact ih updates
        | channels ids =>
          refine (reaches_unindex sub _).trans ?_
          dsimp only
          split_ifs
          · -- the entry that was left without channels goes before the guard does
            rw [removeFromIndex_setSubs r _ _ (r.subs.insert conn (connSubs.insert sub _)),
              removeFromIndex_setSubs r _ _ (r.subs.insert conn (connSubs.erase sub))]
            refine (reaches_exec (by simp [Call.locks])).trans ?_
            simp only [Worker.exec, AList.lookup_insert, AList.insert_insert, Table.erase_insert]
            exact (reaches_exec (by simp [Call.locks])).trans (ih _)
          · exact (reaches_exec (by simp [Call.locks])).trans (ih _)

/-- **An operation that is alone** returns, and leaves the registry as the operation makes it. -/
theorem runs_alone (r : SubscriptionRegistry) (op : SubOp) :
    Reaches (start r [op]) (single (op.exec r) ⟨op.conn, false, []⟩) := by
  cases op with
  | registerScoped c conn sub filters channelId
  | registerChannelsScoped c conn sub filters channelIds => exact reaches_register sub c filters _
  | removeSubscription conn sub => exact reaches_takeSubscription sub
  | removeConnection conn => exact reaches_takeConnection
  | removeChannelSubscriptionsScoped c conn ch =>
    exact (reaches_exec (fun _ => rfl)).trans (reaches_takeChannel c ch _ [])

end Single

end Interleaving

end Buzz.Relay
