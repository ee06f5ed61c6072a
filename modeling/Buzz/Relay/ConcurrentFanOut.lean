import Buzz.Relay.RegistryCalls

/-!
Fan-out after concurrent operations.

Operations run in *episodes*: some of them interleave, call by call, until all have returned.  In an
episode nobody else uses the connection of a registration.  `remove_from_index` finds a list empty
in one call and removes its key in another; what is pushed in between is lost, with the list.  If
that does not happen (`Interleaving.keyEmpty`), every live subscription stays listed under all its
references, or has the push still before it (`Covered`), so that in the end the fan-out finds it.
-/

namespace Buzz.Relay

open Buzz.Core Lib SubscriptionRegistry List

/-! ### Episodes -/

def SubOp.registers : SubOp → Bool
  | registerScoped .. => true
  | registerChannelsScoped .. => true
  | _ => false

/-- Nobody else uses the connection of a registration. -/
def Apart (ops : List SubOp) : Prop :=
  ops.Pairwise fun a b => (a.registers || b.registers) → a.conn ≠ b.conn

instance (ops : List SubOp) : Decidable (Apart ops) :=
  inferInstanceAs (Decidable (ops.Pairwise _))

/-- If the next call of a worker removes the key of a list, the list is empty. -/
def Interleaving.keyEmpty (s : Interleaving) (i : ℕ) : Bool :=
  match (s.workers[i]?).bind fun w => w.calls.head? with
  | some (.removeKey ref) => (s.registry.listing ref).isEmpty
  | _ => true

open Relay.Interleaving

/-- Operations that interleave, and the order in which their workers make their calls. -/
structure Episode where
  ops : List SubOp
  schedule : List ℕ

namespace Episode

def run (r : SubscriptionRegistry) (ep : Episode) : Interleaving :=
  (start r ep.ops).run ep.schedule

def after (r : SubscriptionRegistry) (ep : Episode) : SubscriptionRegistry := (ep.run r).registry

/-- Registrations are alone on their connections, all operations return, and no key is removed
after something has been pushed to its list again. -/
structure Proper (r : SubscriptionRegistry) (ep : Episode) : Prop where
  apart : Apart ep.ops
  finished : (ep.run r).Finished
  keys : AllSteps step (fun s i => s.keyEmpty i = true) (start r ep.ops)
    ep.schedule

end Episode

/-! ### What a call does -/

/-- Once a subscription is entered, its pushes are all that is left to do. -/
def Ordered : List Call → Prop
  | [] => True
  | .insertSubscription sub e :: rest => rest = (entryRefs e).map fun ref => .push ref sub
  | _ :: rest => Ordered rest

/-- A call that takes subscriptions out, or channels of them, or looks for them. -/
def Call.takes : Call → Bool
  | takeSubscription _ | takeConnection | listChannel _ _ | takeChannel _ _ _ | dropSubscription _
  | dropGuard => true
  | _ => false

/-- A call that a registration begins with or ends with. -/
def Call.enters : Call → Bool
  | insertSubscription _ _ | push _ _ => true
  | _ => false

/-- The live entries become fewer and narrower, the indexes are as they were, and what the worker
does next is to take references out that the entries do not have any more. -/
structure Narrows (w : Worker) (rest : List Call) (r r' : SubscriptionRegistry) (w' : Worker) :
    Prop where
  listing : r'.listing = r.listing
  live : ∀ x e', r'.live x = some e' → ∃ e, r.live x = some e ∧ entryRefs e' ⊆ entryRefs e
  conn : w'.conn = w.conn
  calls : ∃ new, w'.calls = new ++ rest ∧ (∀ call ∈ new, call.enters = false) ∧
    ∀ ref sub, .retain ref sub ∈ new → ∀ e', r'.live (w.conn, sub) = some e' → ref ∉ entryRefs e'

section Exec

variable {w : Worker} {r : SubscriptionRegistry} {rest : List Call} {sub : SubId}

lemma Narrows.idle (new : List Call) (hnew : ∀ call ∈ new, call.enters = false)
    (hretain : ∀ ref sub, .retain ref sub ∉ new) :
    Narrows w rest r r { w with guard := g, calls := new ++ rest } where
  listing := rfl
  live := fun _ e' he' => ⟨e', he', fun _ href => href⟩
  conn := rfl
  calls := ⟨new, rfl, hnew, fun ref sub hmem => absurd hmem (hretain ref sub)⟩

lemma mem_unindex : .retain ref sub ∈ unindex sub' e ↔ sub = sub' ∧ ref ∈ entryRefs e := by
  unfold unindex
  rw [mem_map]
  constructor
  · rintro ⟨ref', href, heq⟩
    cases heq
    exact ⟨rfl, href⟩
  · rintro ⟨rfl, href⟩
    exact ⟨ref, href, rfl⟩

lemma enters_unindex (h : call ∈ unindex sub e) : call.enters = false := by
  obtain ⟨ref, -, rfl⟩ := mem_map.mp h
  rfl

lemma narrows_update (hcalls : calls = new ++ rest) (hlisting : r'.listing = r.listing)
    (hlive : r'.live = Function.update r.live (w.conn, sub) entry)
    (hnarrower : ∀ e', entry = some e' →
      ∃ e, r.live (w.conn, sub) = some e ∧ entryRefs e' ⊆ entryRefs e)
    (hnew : ∀ call ∈ new, call.enters = false) (hretain : ∀ ref sub', .retain ref sub' ∈ new →
      sub' = sub ∧ ∀ e', entry = some e' → ref ∉ entryRefs e') :
    Narrows w rest r r' { w with guard := g, calls := calls } where
  listing := hlisting
  live := by
    intro x e' he'
    rw [hlive, Function.update_apply] at he'
    split_ifs at he' with hx
    · subst hx
      exact hnarrower e' he'
    · exact ⟨e', he', fun _ href => href⟩
  conn := rfl
  calls := by
    refine ⟨new, hcalls, hnew, ?_⟩
    intro ref sub' hmem e' he'
    obtain ⟨rfl, href⟩ := hretain ref sub' hmem
    rw [hlive, Function.update_self] at he'
    exact href e' he'

lemma narrows_takeSubscription (sub : SubId) :
    Narrows w rest r (w.exec r rest (.takeSubscription sub)).1
      (w.exec r rest (.takeSubscription sub)).2 := by
  have hidle : Narrows w rest r r { w with calls := rest } := .idle [] (by simp) (by simp)
  simp only [Worker.exec]
  cases hconn : r.subs.lookup w.conn with
  | none => exact hidle
  | some connSubs =>
    dsimp only
    cases connSubs.lookup sub with
    | none => exact hidle
    | some e =>
      have hcalls : unindex sub e ++ .dropGuard :: rest =
          (unindex sub e ++ [.dropGuard]) ++ rest := by simp
      refine narrows_update hcalls (listing_setSubs r _) (live_erase_entry hconn sub) (by simp) ?_ ?_
      · intro call hcall
        rcases mem_append.mp hcall with hcall | hcall
        · exact enters_unindex hcall
        · rw [mem_singleton.mp hcall]
          rfl
      intro ref sub' hmem
      rcases mem_append.mp hmem with hmem | hmem
      · exact ⟨(mem_unindex.mp hmem).1, by simp⟩
      · cases mem_singleton.mp hmem

lemma narrows_dropSubscription (sub : SubId) :
    Narrows w rest r (w.exec r rest (.dropSubscription sub)).1
      (w.exec r rest (.dropSubscription sub)).2 := by
  simp only [Worker.exec]
  cases hconn : r.subs.lookup w.conn with
  | none => exact .idle [] (by simp) (by simp)
  | some connSubs =>
    exact narrows_update (nil_append _).symm (listing_setSubs r _) (live_erase_entry hconn sub)
      (by simp) (by simp) (by simp)

lemma narrows_takeConnection :
    Narrows w rest r (w.exec r rest .takeConnection).1 (w.exec r rest .takeConnection).2 := by
  simp only [Worker.exec]
  cases hconn : r.subs.lookup w.conn with
  | none => exact .idle [] (by simp) (by simp)
  | some connSubs =>
    refine ⟨listing_setSubs r _, ?_, rfl, _, rfl, ?_, ?_⟩
    · intro x e' he'
      rw [live_erase] at he'
      split_ifs at he'
      exact ⟨e', he', fun _ href => href⟩
    · intro call hcall
      obtain ⟨s, -, hcall⟩ := mem_flatMap.mp hcall
      exact enters_unindex hcall
    intro ref sub _ e' he'
    rw [live_erase, if_pos rfl] at he'
    cases he'

lemma entryRefs_left (e : SubEntry) (c : CommunityId) (ch : Uuid) (hs : e.scope = .channels ids) :
    let e' := { e with scope := .channels (ids.filter fun candidate => ¬ candidate = ch) }
    entryRefs e' ⊆ entryRefs e ∧
      ∀ ref ∈ entryRefs ⟨e.filters, c, .channels [ch]⟩, ref ∉ entryRefs e' := by
  simp only [entryRefs, hs]
  constructor
  · intro ref href
    obtain ⟨ch', hch', href⟩ := mem_flatMap.mp href
    exact mem_flatMap.mpr ⟨ch', mem_of_mem_filter hch', href⟩
  intro ref href href'
  obtain ⟨ch', hch', href'⟩ := mem_flatMap.mp href'
  rw [flatMap_singleton] at href
  have hne : ¬ ch' = ch := by simpa using (mem_filter.mp hch').2
  exact hne (channelRefs_channel href' href)

lemma narrows_takeChannel (c : CommunityId) (ch : Uuid) (subs : List SubId) :
    Narrows w rest r (w.exec r rest (.takeChannel c ch subs)).1
      (w.exec r rest (.takeChannel c ch subs)).2 := by
  have hidle : Narrows w rest r r { w with calls := rest } := .idle [] (by simp) (by simp)
  have hnext : ∀ subs, Narrows w rest r r { w with calls := .takeChannel c ch subs :: rest } :=
    fun subs => .idle [.takeChannel c ch subs] (by simp [Call.enters]) (by simp)
  cases subs with
  | nil => exact hidle
  | cons sub subs =>
    simp only [Worker.exec]
    cases hconn : r.subs.lookup w.conn with
    | none => exact hidle
    | some connSubs =>
      dsimp only
      cases hsub : connSubs.lookup sub with
      | none => exact hnext subs
      | some e =>
        dsimp only
        cases hsc : e.scope with
        | global => exact hnext subs
        | channels ids =>
          dsimp only
          obtain ⟨hkeeps, hloses⟩ := entryRefs_left e c ch hsc
          refine narrows_update (show _ = (unindex sub ⟨e.filters, c, .channels [ch]⟩ ++
            ((if ids.filter (fun candidate => ¬ candidate = ch) = [] then [.dropSubscription sub]
              else []) ++ [.dropGuard, .takeChannel c ch subs])) ++ rest by simp)
            (listing_setSubs r _) (live_insert_update r w.conn sub connSubs _ _
              (live_of_lookup r hconn) (AList.lookup_insert _) fun _ => AList.lookup_insert_ne)
            ?_ ?_ ?_
          · rintro _ ⟨⟩
            exact ⟨e, (live_of_lookup r hconn sub).trans hsub, hkeeps⟩
          · intro call hcall
            rcases mem_append.mp hcall with hcall | hcall
            · exact enters_unindex hcall
            have hlast : ∀ call ∈ [Call.dropSubscription sub, .dropGuard, .takeChannel c ch subs],
                call.enters = false := by simp [Call.enters]
            split_ifs at hcall
            · exact hlast call hcall
            · exact hlast call (mem_cons_of_mem _ hcall)
          intro ref sub' hmem
          rcases mem_append.mp hmem with hmem | hmem
          · obtain ⟨rfl, href⟩ := mem_unindex.mp hmem
            refine ⟨rfl, ?_⟩
            rintro _ ⟨⟩
            exact hloses ref href
          · split_ifs at hmem <;> simp at hmem

lemma exec_narrows (h : call.takes) :
    Narrows w rest r (w.exec r rest call).1 (w.exec r rest call).2 := by
  cases call with
  | takeSubscription sub => exact narrows_takeSubscription sub
  | takeConnection => exact narrows_takeConnection
  | listChannel c ch =>
    exact .idle [.takeChannel c ch _] (by simp [Call.enters]) (by simp)
  | takeChannel c ch subs => exact narrows_takeChannel c ch subs
  | dropSubscription sub => exact narrows_dropSubscription sub
  | dropGuard => exact .idle [] (by simp) (by simp)
  | insertSubscription sub e | push ref sub | retain ref sub | removeKey ref => cases h

end Exec

/-! ### The invariant -/

/-- Some worker will still push this. -/
def Interleaving.Pending (s : Interleaving) (ref : IndexRef) (x : ConnId × SubId) : Prop :=
  ∃ (j : ℕ) (v : Worker), s.workers[j]? = some v ∧ v.conn = x.1 ∧ .push ref x.2 ∈ v.calls

/-- Every live subscription is listed, or will be; and nothing that a worker takes out of the
indexes is a reference of a live subscription. -/
structure Covered (s : Interleaving) : Prop where
  apart : ∀ (i j : ℕ) (v w : Worker), s.workers[i]? = some v → s.workers[j]? = some w → i ≠ j →
    (∃ sub e, .insertSubscription sub e ∈ v.calls) → w.conn ≠ v.conn
  ordered : ∀ (j : ℕ) (v : Worker), s.workers[j]? = some v → Ordered v.calls
  listed : ∀ x e, s.registry.live x = some e → ∀ ref ∈ entryRefs e,
    x ∈ s.registry.listing ref ∨ s.Pending ref x
  spared : ∀ (j : ℕ) (v : Worker), s.workers[j]? = some v →
    ∀ ref sub, .retain ref sub ∈ v.calls →
      ∀ e, s.registry.live (v.conn, sub) = some e → ref ∉ entryRefs e

lemma Ordered.tail (h : Ordered (call :: rest)) : Ordered rest := by
  cases call with
  | insertSubscription sub e =>
    have hrest : rest = (entryRefs e).map fun ref => .push ref sub := h
    rw [hrest]
    generalize entryRefs e = refs
    induction refs with
    | nil => trivial
    | cons ref refs ih => exact ih
  | _ => exact h

lemma Ordered.append (hnew : ∀ call ∈ new, call.enters = false)
    (h : Ordered rest) : Ordered (new ++ rest) := by
  induction new with
  | nil => exact h
  | cons call new ih =>
    obtain ⟨hcall, htail⟩ := forall_mem_cons.mp hnew
    cases call with
    | insertSubscription sub e => cases hcall
    | _ => exact ih htail

section Step

variable {s : Interleaving} {i : ℕ} {w w' : Worker} {call : Call} {rest : List Call}
  {r' : SubscriptionRegistry}

lemma getElem?_set_worker (hw : s.workers[i]? = some w) (j : ℕ) :
    (s.workers.set i w')[j]? = if j = i then some w' else s.workers[j]? := by
  obtain ⟨hlt, -⟩ := List.getElem?_eq_some_iff.mp hw
  rw [getElem?_set]
  by_cases hj : i = j
  · rw [if_pos hj, if_pos hlt, if_pos hj.symm]
  · rw [if_neg hj, if_neg (Ne.symm hj)]

lemma Interleaving.Pending.set (h : s.Pending ref x)
    (hw : s.workers[i]? = some w) (hconn : w'.conn = w.conn)
    (hkept : w.conn = x.1 → .push ref x.2 ∈ w.calls → .push ref x.2 ∈ w'.calls) :
    Interleaving.Pending ⟨r', s.workers.set i w'⟩ ref x := by
  obtain ⟨j, v, hv, hx, hpush⟩ := h
  by_cases hj : j = i
  · subst hj
    obtain rfl := Option.mem_unique hw hv
    exact ⟨j, w', by rw [getElem?_set_worker hw, if_pos rfl], hconn.trans hx, hkept hx hpush⟩
  · exact ⟨j, v, by rw [getElem?_set_worker hw, if_neg hj]; exact hv, hx, hpush⟩

section

variable (h : Covered s) (hw : s.workers[i]? = some w)
include h hw

lemma Covered.set (hconn : w'.conn = w.conn)
    (hins : ∀ sub e, .insertSubscription sub e ∈ w'.calls → .insertSubscription sub e ∈ w.calls)
    (hord : Ordered w'.calls) (hlist : ∀ x e, r'.live x = some e → ∀ ref ∈ entryRefs e,
      x ∈ r'.listing ref ∨ Interleaving.Pending ⟨r', s.workers.set i w'⟩ ref x)
    (hspared : ∀ ref sub, .retain ref sub ∈ w'.calls → ∀ e, r'.live (w.conn, sub) = some e →
      ref ∉ entryRefs e) (hothers : ∀ (j : ℕ) (v : Worker), j ≠ i → s.workers[j]? = some v →
      ∀ ref sub, .retain ref sub ∈ v.calls →
        ∀ e, r'.live (v.conn, sub) = some e → ref ∉ entryRefs e) :
    Covered ⟨r', s.workers.set i w'⟩ where
  apart := by
    intro j k v u hv hu hjk hreg
    rw [getElem?_set_worker hw] at hv hu
    -- connections stay, and registrations do not begin anew
    have hold : ∃ v₀, s.workers[j]? = some v₀ ∧ v₀.conn = v.conn ∧
        ∃ sub e, .insertSubscription sub e ∈ v₀.calls := by
      split_ifs at hv with hj
      · cases hv
        obtain ⟨sub, e, hmem⟩ := hreg
        exact ⟨w, hj ▸ hw, hconn.symm, sub, e, hins sub e hmem⟩
      · exact ⟨v, hv, rfl, hreg⟩
    have hold' : ∃ u₀, s.workers[k]? = some u₀ ∧ u₀.conn = u.conn := by
      split_ifs at hu with hk
      · cases hu
        exact ⟨w, hk ▸ hw, hconn.symm⟩
      · exact ⟨u, hu, rfl⟩
    obtain ⟨v₀, hv₀, hvconn, hreg⟩ := hold
    obtain ⟨u₀, hu₀, huconn⟩ := hold'
    rw [← hvconn, ← huconn]
    exact h.apart j k v₀ u₀ hv₀ hu₀ hjk hreg
  ordered := by
    intro j v hv
    rw [getElem?_set_worker hw] at hv
    split_ifs at hv
    · cases hv
      exact hord
    · exact h.ordered j v hv
  listed := hlist
  spared := by
    intro j v hv
    rw [getElem?_set_worker hw] at hv
    split_ifs at hv with hj
    · cases hv
      rw [hconn]
      exact hspared
    · exact hothers j v hj hv

section

variable (hcalls : w.calls = call :: rest)

include hcalls

lemma Covered.exec (hconn : w'.conn = w.conn) (hnew : w'.calls = new ++ rest)
    (henters : ∀ c ∈ new, c.enters = false)
    (hretain : ∀ ref sub, .retain ref sub ∈ new → ∀ e', r'.live (w.conn, sub) = some e' →
      ref ∉ entryRefs e') (hlive : ∀ x e', r'.live x = some e' →
      ∃ e, s.registry.live x = some e ∧ entryRefs e' ⊆ entryRefs e)
    (hlist : ∀ x e, s.registry.live x = some e → ∀ ref ∈ entryRefs e,
      x ∈ s.registry.listing ref → x ∈ r'.listing ref)
    (hpush : ∀ ref sub, call = .push ref sub → (w.conn, sub) ∈ r'.listing ref) :
    Covered ⟨r', s.workers.set i w'⟩ := by
  have hrest : ∀ {c}, c ∈ rest → c ∈ w.calls := by
    intro c hc
    rw [hcalls]
    exact mem_cons_of_mem _ hc
  apply h.set hw hconn
  · intro sub e hmem
    rw [hnew] at hmem
    rcases mem_append.mp hmem with hmem | hmem
    · cases henters _ hmem
    · exact hrest hmem
  · rw [hnew]
    have hord := h.ordered i w hw
    rw [hcalls] at hord
    exact hord.tail.append henters
  · intro x e' he' ref href
    obtain ⟨e, he, hsub⟩ := hlive x e' he'
    rcases h.listed x e he ref (hsub href) with hmem | hpend
    · exact .inl (hlist x e he ref (hsub href) hmem)
    by_cases hnow : call = .push ref x.2 ∧ w.conn = x.1
    · left
      have hx := hpush ref x.2 hnow.1
      rwa [hnow.2] at hx
    right
    refine hpend.set hw hconn ?_
    intro hx hmem
    rw [hcalls] at hmem
    rcases mem_cons.mp hmem with heq | hmem
    · exact absurd ⟨heq.symm, hx⟩ hnow
    · rw [hnew]
      exact mem_append_right _ hmem
  · intro ref sub hmem e' he'
    rw [hnew] at hmem
    rcases mem_append.mp hmem with hmem | hmem
    · exact hretain ref sub hmem e' he'
    · obtain ⟨e, he, hsub⟩ := hlive _ e' he'
      exact fun href => h.spared i w hw ref sub (hrest hmem) e he (hsub href)
  intro j v _ hv ref sub hmem e' he'
  obtain ⟨e, he, hsub⟩ := hlive _ e' he'
  exact fun href => h.spared j v hv ref sub hmem e he (hsub href)

lemma Covered.takes (htakes : call.takes) :
    Covered ⟨(w.exec s.registry rest call).1, s.workers.set i (w.exec s.registry rest call).2⟩ := by
  have hnarr : Narrows w rest s.registry (w.exec s.registry rest call).1
      (w.exec s.registry rest call).2 := exec_narrows htakes
  obtain ⟨new, hnew, henters, hretain⟩ := hnarr.calls
  apply h.exec hw hcalls hnarr.conn hnew henters hretain hnarr.live
  · intro x e _ ref _ hmem
    rw [hnarr.listing]
    exact hmem
  · rintro ref sub rfl
    cases htakes

lemma Covered.index (new : List Call) (hkeys : ∀ c ∈ new, ∃ ref, c = .removeKey ref)
    (hlive : r'.live = s.registry.live)
    (hlist : ∀ x e, s.registry.live x = some e → ∀ ref ∈ entryRefs e,
      x ∈ s.registry.listing ref → x ∈ r'.listing ref)
    (hpush : ∀ ref sub, call = .push ref sub → (w.conn, sub) ∈ r'.listing ref) :
    Covered ⟨r', s.workers.set i { w with calls := new ++ rest }⟩ := by
  refine h.exec hw hcalls (by rfl) (by rfl) ?_ ?_ ?_ hlist hpush
  · intro c hc
    obtain ⟨ref, rfl⟩ := hkeys c hc
    rfl
  · intro ref sub hmem
    obtain ⟨ref', heq⟩ := hkeys _ hmem
    cases heq
  intro x e' he'
  rw [hlive] at he'
  exact ⟨e', he', fun _ href => href⟩

end

variable {ref : IndexRef} {sub : SubId}

lemma Covered.push (hcalls : w.calls = .push ref sub :: rest) :
    Covered ⟨s.registry.pushRef (w.conn, sub) ref, s.workers.set i { w with calls := rest }⟩ := by
  refine h.index hw hcalls [] (by simp) (live_setRef _ _ _) ?_ ?_
  · intro x e _ ref' _ hmem
    exact (mem_listing_pushRef _ _ _ _ _).mpr (.inl hmem)
  · rintro ref' sub' ⟨⟩
    exact (mem_listing_pushRef _ _ _ _ _).mpr (.inr ⟨rfl, rfl⟩)

lemma Covered.retain (hcalls : w.calls = .retain ref sub :: rest) :
    Covered ⟨(w.exec s.registry rest (.retain ref sub)).1,
      s.workers.set i (w.exec s.registry rest (.retain ref sub)).2⟩ := by
  have hspared := h.spared i w hw ref sub (by rw [hcalls]; exact mem_cons_self)
  simp only [Worker.exec]
  cases hxs : s.registry.lookupRef ref with
  | none => exact h.index hw hcalls [] (by simp) rfl (fun _ _ _ _ _ hmem => hmem) (by simp)
  | some xs =>
    have hlist : s.registry.listing ref = xs := by
      rw [listing_eq_lookupRef, hxs]
      rfl
    have hnext : ∃ new, (if xs.filter (fun y => ¬ y = (w.conn, sub)) = []
        then .removeKey ref :: rest else rest) = new ++ rest ∧
        ∀ c ∈ new, ∃ ref, c = Call.removeKey ref := by
      split_ifs
      · refine ⟨[.removeKey ref], rfl, ?_⟩
        intro c hc
        exact ⟨ref, mem_singleton.mp hc⟩
      · exact ⟨[], rfl, by simp⟩
    obtain ⟨new, hnew, hkeys⟩ := hnext
    dsimp only
    rw [hnew]
    refine h.index hw hcalls new hkeys (live_setRef _ _ _) ?_ (by simp)
    -- the item that goes is not one that a live entry still has there
    intro x e he ref' href hmem
    rw [listing_setRef]
    split_ifs with heq
    · subst heq
      rw [hlist] at hmem
      refine mem_filter.mpr ⟨hmem, ?_⟩
      rw [decide_eq_true_iff]
      rintro rfl
      exact hspared e he href
    · exact hmem

lemma Covered.removeKey (hcalls : w.calls = .removeKey ref :: rest) (hempty : s.registry.listing ref = []) :
    Covered ⟨s.registry.eraseRef ref, s.workers.set i { w with calls := rest }⟩ := by
  refine h.index hw hcalls [] (by simp) (live_eraseRef _ _) ?_ (by simp)
  intro x e _ ref' _ hmem
  rw [listing_eraseRef]
  split_ifs with heq
  · rw [heq, hempty] at hmem
    exact hmem
  · exact hmem

/-- A new subscription: its own pushes are all to come, and no other worker takes anything of its
connection out. -/
lemma Covered.insertSubscription (hcalls : w.calls = .insertSubscription sub e :: rest) :
    Covered ⟨(w.exec s.registry rest (.insertSubscription sub e)).1,
      s.workers.set i (w.exec s.registry rest (.insertSubscription sub e)).2⟩ := by
  have hord := h.ordered i w hw
  rw [hcalls] at hord
  have hrest : rest = (entryRefs e).map fun ref => .push ref sub := hord
  have hself : (s.workers.set i { w with calls := rest })[i]? = some { w with calls := rest } := by
    rw [getElem?_set_worker hw, if_pos rfl]
  have hlive := live_insert_entry (r := s.registry) w.conn sub e
  simp only [Worker.exec]
  refine h.set hw (by rfl) ?_ ?_ ?_ ?_ ?_
  · intro sub' e' hmem
    rw [hcalls]
    exact mem_cons_of_mem _ hmem
  · exact hord.tail
  · intro x e' he' ref href
    rw [hlive, Function.update_apply] at he'
    rw [listing_setSubs]
    split_ifs at he' with hx
    · cases he'
      subst hx
      refine .inr ⟨i, _, hself, rfl, ?_⟩
      dsimp only
      rw [hrest]
      exact mem_map.mpr ⟨ref, href, rfl⟩
    refine (h.listed x e' he' ref href).imp_right fun hpend => ?_
    refine hpend.set hw (by rfl) ?_
    intro _ hmem
    rw [hcalls] at hmem
    exact (mem_cons.mp hmem).resolve_left (by simp)
  · intro ref sub' hmem
    dsimp only at hmem
    rw [hrest] at hmem
    obtain ⟨ref', -, heq⟩ := mem_map.mp hmem
    cases heq
  intro j v hj hv ref sub' hmem e' he'
  have hconn : v.conn ≠ w.conn := h.apart i j w v hw hv (Ne.symm hj)
    ⟨sub, e, by rw [hcalls]; exact mem_cons_self⟩
  rw [hlive, Function.update_of_ne (by simp [hconn])] at he'
  exact h.spared j v hv ref sub' hmem e' he'

end

/-- **One call keeps the invariant**, if it does not remove a key that is in use again. -/
theorem Covered.step (s : Interleaving) (i : ℕ) (h : Covered s) (hkey : s.keyEmpty i = true) :
    Covered (s.step i) := by
  obtain hidle | ⟨w, call, rest, hw, hcalls, hstep⟩ := s.step_cases i
  · rw [hidle]
    exact h
  rw [hstep]
  cases call with
  | insertSubscription sub e => exact h.insertSubscription hw hcalls
  | push ref sub => exact h.push hw hcalls
  | retain ref sub => exact h.retain hw hcalls
  | removeKey ref =>
    have hempty : s.registry.listing ref = [] := by
      simpa [keyEmpty, hw, hcalls] using hkey
    exact h.removeKey hw hcalls hempty
  | _ => exact h.takes hw hcalls rfl

end Step

/-! ### Whole episodes -/

/-- Every live subscription is listed under all its references. -/
def SubscriptionRegistry.Listed (r : SubscriptionRegistry) : Prop :=
  ∀ x e, r.live x = some e → ∀ ref ∈ entryRefs e, x ∈ r.listing ref

lemma SubOp.ordered_calls (op : SubOp) : Ordered op.calls := by
  cases op with
  | registerScoped => rfl
  | registerChannelsScoped => rfl
  | _ => trivial

lemma SubOp.registers_of_calls {op : SubOp}
    (h : .insertSubscription sub e ∈ op.calls) : op.registers := by
  cases op with
  | registerScoped => rfl
  | registerChannelsScoped => rfl
  | _ => simp [SubOp.calls] at h

variable {r : SubscriptionRegistry}

lemma getElem?_start {j : ℕ} (h : (start r ops).workers[j]? = some v) :
    ∃ op, ops[j]? = some op ∧ v = { conn := op.conn, calls := op.calls } := by
  simp only [start, getElem?_map, Option.map_eq_some_iff] at h
  obtain ⟨op, hop, heq⟩ := h
  exact ⟨op, hop, heq.symm⟩

lemma covered_start {ops : List SubOp} (hr : r.Listed)
    (hapart : Apart ops) : Covered (start r ops) where
  apart := by
    rintro i j v w hv hw hij ⟨sub, e, hmem⟩
    obtain ⟨a, ha, rfl⟩ := getElem?_start hv
    obtain ⟨b, hb, rfl⟩ := getElem?_start hw
    have hreg : a.registers := SubOp.registers_of_calls hmem
    obtain ⟨hi, rfl⟩ := List.getElem?_eq_some_iff.mp ha
    obtain ⟨hj, rfl⟩ := List.getElem?_eq_some_iff.mp hb
    have hpairs := pairwise_iff_getElem.mp hapart
    rcases Nat.lt_or_gt_of_ne hij with hlt | hgt
    · exact (hpairs i j hi hj hlt (by simp [hreg])).symm
    · exact hpairs j i hj hi hgt (by simp [hreg])
  ordered := by
    intro j v hv
    obtain ⟨op, -, rfl⟩ := getElem?_start hv
    exact op.ordered_calls
  listed := fun x e he ref href => .inl (hr x e he ref href)
  spared := by
    intro j v hv ref sub hmem
    obtain ⟨op, -, rfl⟩ := getElem?_start hv
    cases op <;> simp [SubOp.calls, registerCalls] at hmem

lemma Covered.listed_of_finished (h : Covered s) (hfinished : s.Finished) : s.registry.Listed := by
  intro x e he ref href
  rcases h.listed x e he ref href with hmem | ⟨j, v, hv, -, hpush⟩
  · exact hmem
  · rw [hfinished v (mem_of_getElem? hv)] at hpush
    cases hpush

lemma Episode.listed_after (r : SubscriptionRegistry) (ep : Episode) (hr : r.Listed)
    (hproper : ep.Proper r) : (ep.after r).Listed :=
  (hproper.keys.invariant Covered.step (covered_start hr hproper.apart)).listed_of_finished
    hproper.finished

lemma listed_empty : SubscriptionRegistry.Listed {} := by
  intro x e he
  cases he

lemma SubscriptionRegistry.Listed.mem_fanOutScoped (h : r.Listed)
    (he : r.live x = some e) (hs : selects c ev e) : x ∈ r.fanOutScoped c ev := by
  rw [fanOutScoped_eq_collect]
  exact mem_collect_of_listed exists_eventRef_of_selects he hs (h x e he)

/-- **Live subscriptions stay delivered.**  After any episodes in which no key is removed once
something has been pushed to its list again, every live subscription is delivered every event that
matches it. -/
theorem live_delivered (eps : List Episode) (h : AllSteps Episode.after Episode.Proper {} eps)
    (c : CommunityId) (ev : StoredEvent) (x : ConnId × SubId) (e : SubEntry)
    (hlive : (eps.foldl Episode.after {}).live x = some e)
    (hmatches : SubscriptionRegistry.selects c ev e = true) :
    x ∈ (eps.foldl Episode.after {}).fanOutScoped c ev := by
  have hlisted := h.invariant Episode.listed_after listed_empty
  exact hlisted.mem_fanOutScoped hlive hmatches

/-! ### A listing that is lost -/

def demoOps : List SubOp :=
  [.registerScoped ⟨⟨7⟩⟩ ⟨1⟩ "a" [{ kinds := some [1] }] none, .removeSubscription ⟨2⟩ "b"]

def demoBefore : Episode :=
  ⟨[.registerScoped ⟨⟨7⟩⟩ ⟨2⟩ "b" [{ kinds := some [1] }] none], [0, 0, 0]⟩

def demoEvent : StoredEvent := ⟨⟨⟨0⟩, ⟨0⟩, 0, 1, [], ""⟩, none⟩

def demoRace : Episode := ⟨demoOps, [0, 0, 1, 1, 0, 1, 1]⟩

/-- Both operations have returned, the new subscription is live and matches the event, and it is not
delivered. -/
theorem listing_lost :
    Apart demoRace.ops ∧ (demoRace.run (demoBefore.after {})).Finished ∧
    ((demoRace.after (demoBefore.after {})).live (⟨1⟩, "a")).any
      (SubscriptionRegistry.selects ⟨⟨7⟩⟩ demoEvent) = true ∧
    (⟨1⟩, "a") ∉ (demoRace.after (demoBefore.after {})).fanOutScoped ⟨⟨7⟩⟩ demoEvent := by
  unfold Interleaving.Finished
  decide +kernel

def demoProper : Episode := ⟨demoOps, [0, 0, 1, 1, 1, 1, 0]⟩

theorem demo_live_delivered :
    AllSteps Episode.after Episode.Proper {} [demoBefore, demoProper] ∧
    (⟨1⟩, "a") ∈
      ([demoBefore, demoProper].foldl Episode.after {}).fanOutScoped ⟨⟨7⟩⟩ demoEvent := by
  have hbefore : demoBefore.Proper {} := by
    refine ⟨by decide, ?_, by decide +kernel⟩
    unfold Interleaving.Finished
    decide +kernel
  have hproper : demoProper.Proper (demoBefore.after {}) := by
    refine ⟨by decide, ?_, by decide +kernel⟩
    unfold Interleaving.Finished
    decide +kernel
  have hsteps : AllSteps Episode.after Episode.Proper {} [demoBefore, demoProper] :=
    ⟨hbefore, hproper, trivial⟩
  exact ⟨hsteps, live_delivered _ hsteps ⟨⟨7⟩⟩ demoEvent (⟨1⟩, "a")
    ⟨[{ kinds := some [1] }], ⟨⟨7⟩⟩, .global⟩ rfl (by decide +kernel)⟩

end Buzz.Relay
