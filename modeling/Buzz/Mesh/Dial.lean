import Buzz.Mesh.Admission

/-!
Two runtimes that dial each other.

Each runtime has one entry in its table for the other: a connection, and the control stream it sends
gossip on.  A connection is installed, its control stream is registered when the Hello comes in at
the end that was dialed, and its end is noticed, each at once.  Ends and Hellos carry the id of the
peer only, and may be processed when their connection has been replaced.

The two tables share nothing, so an interleaving is what each runtime processes, in its order.
-/

namespace Buzz.Mesh

open Lib List

/-- One of the two runtimes.  It also stands for the connection that it dials. -/
inductive Party
  | smaller | larger
deriving DecidableEq

/-- The entry for the peer: the connection, and the one whose control stream is registered. -/
structure PeerLink where
  conn : Party
  control : Option Party

inductive LinkAct
  | install (conn : Party)
  | ended (conn : Party)
  | hello (conn : Party)
deriving DecidableEq

structure DialPair where
  smaller : RuntimeId
  larger : RuntimeId
  lt : smaller.bits < larger.bits

namespace DialPair

variable (P : DialPair) (own : Party)

/-- `new_connection_wins` at one of the two. -/
def wins (dialedByUs : Bool) : Bool :=
  match own with
  | .smaller => newConnectionWins P.smaller P.larger dialedByUs
  | .larger => newConnectionWins P.larger P.smaller dialedByUs

def step (link : Option PeerLink) : LinkAct → Option PeerLink
  | .install conn =>
    if link.isSome && !P.wins own (conn = own) then link
    else some ⟨conn, if conn = own then some conn else none⟩
  | .ended _ => none
  | .hello conn => link.map fun entry => { entry with control := some conn }

def table (acts : List LinkAct) : Option PeerLink := acts.foldl (P.step own) none

/-- Everything is processed, and the connection that the smaller runtime dialed is live. -/
structure Processed (acts : List LinkAct) : Prop where
  once : acts.Nodup
  installed : .install .smaller ∈ acts
  control : own = .larger → .hello .smaller ∈ acts
  live : .ended .smaller ∉ acts

/-- An end or a Hello is processed while the table has its connection. -/
def Timely (link : Option PeerLink) : LinkAct → Prop
  | .install _ => True
  | .ended conn => link.map PeerLink.conn = some conn
  | .hello conn => link.map PeerLink.conn = some conn

instance (link : Option PeerLink) (act : LinkAct) : Decidable (Timely link act) := by
  cases act <;> unfold Timely <;> infer_instance

/-! ### Who stays in the table -/

variable {P own}

lemma wins_eq (conn : Party) : P.wins own (conn = own) = decide (conn = .smaller) := by
  have hlt := P.lt
  have hge : ¬P.larger.bits < P.smaller.bits := by bv_omega
  cases own <;> cases conn <;> simp only [wins, newConnectionWins, if_pos hlt, if_neg hge] <;> rfl

lemma foldl_of_held {control : Option Party} (h : AllSteps (P.step own) Timely link acts)
    (hlink : link = some ⟨.smaller, control⟩) (hinst : .install .smaller ∉ acts)
    (hlive : .ended .smaller ∉ acts) : acts.foldl (P.step own) link =
      some ⟨.smaller, if .hello .smaller ∈ acts then some .smaller else control⟩ := by
  induction acts generalizing link control with
  | nil => simpa using hlink
  | cons act acts ih =>
    obtain ⟨htim, h⟩ := h
    simp only [mem_cons, not_or] at hinst hlive
    subst hlink
    cases act with
    | install conn =>
      cases conn with
      | smaller => exact absurd rfl hinst.1
      | larger =>
        have hkept : P.step own (some ⟨.smaller, control⟩) (.install .larger) =
            some ⟨.smaller, control⟩ := by simp [step, wins_eq]
        simpa using ih h hkept hinst.2 hlive.2
    | ended conn =>
      obtain rfl : Party.smaller = conn := Option.some.inj htim
      exact absurd rfl hlive.1
    | hello conn =>
      obtain rfl : Party.smaller = conn := Option.some.inj htim
      simpa using ih h rfl hinst.2 hlive.2

lemma hello_notMem_of_unheld (h : AllSteps (P.step own) Timely link acts)
    (hlink : link.map PeerLink.conn ≠ some .smaller) (hinst : .install .smaller ∉ acts) :
    .hello .smaller ∉ acts := by
  induction acts generalizing link with
  | nil => exact not_mem_nil
  | cons act acts ih =>
    obtain ⟨htim, h⟩ := h
    simp only [mem_cons, not_or] at hinst ⊢
    refine ⟨?_, ih h ?_ hinst.2⟩
    · rintro rfl
      exact hlink htim
    cases act with
    | install conn =>
      simp only [step]
      split
      · exact hlink
      · exact fun heq => hinst.1 (congrArg LinkAct.install (Option.some.inj heq).symm)
    | ended conn => simp [step]
    | hello conn => simpa [step, Function.comp_def] using hlink

/-- **The smaller runtime's connection stays.** If every end and every Hello is processed while the
table has its connection, both tables come to hold the connection that the smaller runtime dialed,
and its control stream. -/
theorem dial_settles (P : DialPair) (acts : Party → List LinkAct)
    (htimely : ∀ own, AllSteps (P.step own) Timely none (acts own))
    (hprocessed : ∀ own, Processed own (acts own)) :
    ∀ own, P.table own (acts own) = some ⟨.smaller, some .smaller⟩ := by
  intro own
  obtain ⟨honce, hinstalled, hcontrol, hlive⟩ := hprocessed own
  have htimely := htimely own
  obtain ⟨before, after, heq⟩ := append_of_mem hinstalled
  rw [table]
  rw [heq] at htimely honce hcontrol hlive ⊢
  obtain ⟨hbefore, -, hafter⟩ := allSteps_append.mp htimely
  obtain ⟨-, hnodup, hdisjoint⟩ := nodup_append.mp honce
  have hfirst : .install .smaller ∉ before := fun hmem => hdisjoint _ hmem _ mem_cons_self rfl
  have hinstall : P.step own (before.foldl (P.step own) none) (.install .smaller) =
      some ⟨.smaller, if .smaller = own then some .smaller else none⟩ := by simp [step, wins_eq]
  rw [foldl_append, foldl_cons, foldl_of_held hafter hinstall (nodup_cons.mp hnodup).1
    fun hmem => hlive (by simp [hmem])]
  cases own with
  | smaller => simp
  | larger =>
    have hhello : .hello .smaller ∈ after := by
      simpa [hello_notMem_of_unheld hbefore (by simp) hfirst] using hcontrol rfl
    simp [hhello]

def exampleDial : DialPair := ⟨⟨1⟩, ⟨2⟩, by decide⟩

def crossedDials : Party → List LinkAct
  | .smaller => [.install .larger, .hello .larger, .install .smaller]
  | .larger => [.install .larger, .install .smaller, .hello .smaller]

theorem dial_settles_crossed :
    (∀ own, Processed own (crossedDials own)) ∧
      ∀ own, exampleDial.table own (crossedDials own) = some ⟨.smaller, some .smaller⟩ := by
  have hprocessed : ∀ own, Processed own (crossedDials own) := by
    rintro (_ | _)
    all_goals exact ⟨by decide, by decide, by decide, by decide⟩
  exact ⟨hprocessed, dial_settles _ _ (by rintro (_ | _) <;> decide) hprocessed⟩

/-- **The end of a replaced connection removes its replacement.** -/
theorem late_end_removes : Processed .larger (crossedDials .larger ++ [.ended .larger]) ∧
    exampleDial.table .larger (crossedDials .larger ++ [.ended .larger]) = none :=
  ⟨⟨by decide, by decide, by decide, by decide⟩, by decide⟩

end DialPair

end Buzz.Mesh
