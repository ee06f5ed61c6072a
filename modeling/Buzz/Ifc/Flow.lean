import Buzz.Lib.Guard
import Mathlib.Data.Finset.Insert
import Mathlib.Data.Finset.Lattice.Basic

/-!
Information flow.

A label says in which universe, and to whom, a value may be known.  Reader sets are ordered, a value
flowing upwards, to fewer readers, and `join` is their least upper bound.  A computation keeps one
label, the join of all it has observed, and checks a destination against that.
-/

namespace Buzz.Ifc

open Lib List

variable {Universe Principal : Type*} [DecidableEq Universe] [DecidableEq Principal]

/-! ### Reader sets -/

inductive ReaderSet (Principal : Type*)
  | everyone
  | only (readers : Finset Principal)
deriving DecidableEq

namespace ReaderSet

def canFlowTo : ReaderSet Principal → ReaderSet Principal → Bool
  | everyone, _ => true
  | only _, everyone => false
  | only source, only destination => destination ⊆ source

def join : ReaderSet Principal → ReaderSet Principal → ReaderSet Principal
  | everyone, value => value
  | value, everyone => value
  | only left, only right => only (left ∩ right)

instance : LE (ReaderSet Principal) := ⟨fun source destination => source.canFlowTo destination = true⟩

@[simp] lemma everyone_le (r : ReaderSet Principal) : everyone ≤ r := rfl

@[simp] lemma not_only_le_everyone (s : Finset Principal) : ¬only s ≤ everyone := Bool.false_ne_true

@[simp] lemma only_le_only {s d : Finset Principal} : only s ≤ only d ↔ d ⊆ s := decide_eq_true_iff

instance : PartialOrder (ReaderSet Principal) where
  le_refl r := by
    cases r with
    | everyone => rfl
    | only s => exact only_le_only.mpr (Finset.Subset.refl s)
  le_trans a b c hab hbc := by
    cases a with
    | everyone => rfl
    | only s =>
      cases b with
      | everyone => exact absurd hab (not_only_le_everyone s)
      | only t =>
        cases c with
        | everyone => exact absurd hbc (not_only_le_everyone t)
        | only u => exact only_le_only.mpr ((only_le_only.mp hbc).trans (only_le_only.mp hab))
  le_antisymm a b hab hba := by
    cases a with
    | everyone =>
      cases b with
      | everyone => rfl
      | only t => exact absurd hba (not_only_le_everyone t)
    | only s =>
      cases b with
      | everyone => exact absurd hab (not_only_le_everyone s)
      | only t => rw [(only_le_only.mp hba).antisymm (only_le_only.mp hab)]

lemma join_le_iff (a b c : ReaderSet Principal) : a.join b ≤ c ↔ a ≤ c ∧ b ≤ c := by
  cases a with
  | everyone => simp [join]
  | only s =>
    cases b with
    | everyone => simp [join]
    | only t =>
      cases c with
      | everyone => simp [join]
      | only u => simp [join, Finset.subset_inter_iff]

end ReaderSet

/-! ### Labels -/

inductive LabelError
  | crossUniverse

structure ConfidentialityLabel (Universe Principal : Type*) where
  univ : Universe
  readers : ReaderSet Principal

namespace ConfidentialityLabel

def join (label other : ConfidentialityLabel Universe Principal) :
    Except LabelError (ConfidentialityLabel Universe Principal) :=
  if label.univ ≠ other.univ then .error .crossUniverse
  else .ok ⟨label.univ, label.readers.join other.readers⟩

end ConfidentialityLabel

/-! ### The state of a computation -/

inductive EgressError
  | unresolvedInput | destinationUniverseMismatch | destinationWidensReaders

structure FlowState (Universe Principal : Type*) where
  accumulated : Option (ConfidentialityLabel Universe Principal)
  unresolvedInput : Bool

/-- A call of a computation. -/
inductive FlowAct (Universe Principal : Type*)
  | observe (label : ConfidentialityLabel Universe Principal)
  | markUnknown

namespace FlowState

def default : FlowState Universe Principal := ⟨none, false⟩

def observe (label : ConfidentialityLabel Universe Principal) (st : FlowState Universe Principal) :
    FlowState Universe Principal :=
  match st.accumulated with
  | none => { st with accumulated := some label }
  | some existing =>
    match existing.join label with
    | .ok combined => { st with accumulated := some combined }
    | .error _ => { st with unresolvedInput := true }

def markUnknown (st : FlowState Universe Principal) : FlowState Universe Principal :=
  { st with unresolvedInput := true }

def checkEgress (destination : ConfidentialityLabel Universe Principal)
    (st : FlowState Universe Principal) : Except EgressError Unit :=
  if st.unresolvedInput then .error .unresolvedInput
  else
    match st.accumulated with
    | none => .ok ()
    | some accumulated => do
      refuseIf (accumulated.univ ≠ destination.univ) .destinationUniverseMismatch
      refuseIf (accumulated.readers.canFlowTo destination.readers = false)
        .destinationWidensReaders

def step (st : FlowState Universe Principal) : FlowAct Universe Principal →
    FlowState Universe Principal
  | .observe label => st.observe label
  | .markUnknown => st.markUnknown

def run (acts : List (FlowAct Universe Principal)) : FlowState Universe Principal :=
  acts.foldl step default

end FlowState

/-! ### What the state says about the labels -/

def observed (acts : List (FlowAct Universe Principal)) :
    List (ConfidentialityLabel Universe Principal) :=
  acts.filterMap fun
    | .observe label => some label
    | .markUnknown => none

/-- The accumulated label has the universe of an observed one, and flows where the observed labels of
that universe do; and something is unresolved if some input was unknown or is of another universe. -/
structure Summarises (st : FlowState Universe Principal) (acts : List (FlowAct Universe Principal)) :
    Prop where
  empty : st.accumulated = none → observed acts = []
  member : ∀ acc, st.accumulated = some acc → ∃ label ∈ observed acts, label.univ = acc.univ
  flows : ∀ acc, st.accumulated = some acc → ∀ readers, acc.readers ≤ readers ↔
    ∀ label ∈ observed acts, label.univ = acc.univ → label.readers ≤ readers
  unresolved : st.unresolvedInput ↔ .markUnknown ∈ acts ∨
    ∃ acc, st.accumulated = some acc ∧ ∃ label ∈ observed acts, label.univ ≠ acc.univ

variable {acts : List (FlowAct Universe Principal)}

section Runs

variable {st : FlowState Universe Principal}
  {label existing : ConfidentialityLabel Universe Principal}

omit [DecidableEq Universe] [DecidableEq Principal] in
lemma observed_observe : observed (acts ++ [.observe label]) = observed acts ++ [label] := by
  simp [observed]

omit [DecidableEq Universe] [DecidableEq Principal] in
lemma observed_markUnknown : observed (acts ++ [.markUnknown]) = observed acts := by
  simp [observed]

omit [DecidableEq Universe] [DecidableEq Principal] in
lemma markUnknown_mem_observe : FlowAct.markUnknown ∈ acts ++ [.observe label] ↔
    FlowAct.markUnknown ∈ acts := by
  simp

section

variable (h : Summarises st acts)
include h

omit [DecidableEq Universe] in
lemma Summarises.observe_first (hnone : st.accumulated = none) :
    Summarises { st with accumulated := some label } (acts ++ [.observe label]) := by
  have hfirst : observed (acts ++ [.observe label]) = [label] := by
    rw [observed_observe, h.empty hnone]
    rfl
  refine ⟨fun h => ?_, ?_, ?_, ?_⟩
  · cases h
  · rintro acc ⟨⟩
    rw [hfirst]
    exact ⟨label, mem_singleton_self _, rfl⟩
  · rintro acc ⟨⟩ readers
    rw [hfirst]
    simp
  · rw [hfirst, markUnknown_mem_observe, h.unresolved, hnone]
    simp

omit [DecidableEq Universe] in
lemma Summarises.observe_same (hsome : st.accumulated = some existing)
    (huniv : existing.univ = label.univ) :
    Summarises { st with accumulated := some ⟨existing.univ, existing.readers.join label.readers⟩ }
      (acts ++ [.observe label]) := by
  refine ⟨fun h => ?_, ?_, ?_, ?_⟩
  · cases h
  · rintro acc ⟨⟩
    obtain ⟨label', hlabel', heq⟩ := h.member existing hsome
    rw [observed_observe]
    exact ⟨label', mem_append_left _ hlabel', heq⟩
  · rintro acc ⟨⟩ readers
    rw [ReaderSet.join_le_iff, h.flows existing hsome, observed_observe]
    simp [or_imp, forall_and, huniv]
  · rw [markUnknown_mem_observe, h.unresolved, observed_observe, hsome]
    simp [huniv]

omit [DecidableEq Universe] in
lemma Summarises.observe_other (hsome : st.accumulated = some existing)
    (huniv : existing.univ ≠ label.univ) :
    Summarises { st with unresolvedInput := true } (acts ++ [.observe label]) := by
  refine ⟨fun hnone => ?_, ?_, ?_, ?_⟩
  · rw [hsome] at hnone
    cases hnone
  · intro acc hacc
    obtain ⟨label', hlabel', heq⟩ := h.member acc hacc
    rw [observed_observe]
    exact ⟨label', mem_append_left _ hlabel', heq⟩
  · intro acc hacc readers
    have hacc' : existing = acc := Option.some.inj (hsome.symm.trans hacc)
    subst hacc'
    rw [h.flows existing hacc, observed_observe]
    simp [or_imp, forall_and, huniv.symm]
  refine iff_of_true rfl (Or.inr ⟨existing, hsome, label, ?_, huniv.symm⟩)
  rw [observed_observe]
  exact mem_append_right _ (mem_singleton_self _)

omit [DecidableEq Universe] in
lemma Summarises.markUnknown : Summarises st.markUnknown (acts ++ [.markUnknown]) := by
  refine ⟨?_, ?_, ?_, ?_⟩
  · rw [observed_markUnknown]
    exact h.empty
  · rw [observed_markUnknown]
    exact h.member
  · rw [observed_markUnknown]
    exact h.flows
  · exact iff_of_true rfl (Or.inl (mem_append_right _ (mem_singleton_self _)))

/-- **One call** keeps the summary. -/
theorem Summarises.step (act : FlowAct Universe Principal) :
    Summarises (st.step act) (acts ++ [act]) := by
  cases act with
  | markUnknown => exact h.markUnknown
  | observe label =>
    unfold FlowState.step FlowState.observe
    cases hacc : st.accumulated with
    | none => exact h.observe_first hacc
    | some existing =>
      simp only [ConfidentialityLabel.join]
      by_cases huniv : existing.univ = label.univ
      · simp only [huniv, ne_eq, not_true_eq_false, if_false]
        rw [← huniv]
        exact h.observe_same hacc huniv
      simp only [huniv, ne_eq, not_false_eq_true, if_true]
      have hoth := h.observe_other hacc huniv
      rw [hacc] at hoth
      exact hoth

end

theorem summarises_run (acts : List (FlowAct Universe Principal)) :
    Summarises (FlowState.run acts) acts := by
  induction acts using reverseRecOn with
  | nil =>
    refine ⟨fun _ => rfl, fun _ h => ?_, fun _ h => ?_, ?_⟩
    · cases h
    · cases h
    · simp [FlowState.run, FlowState.default]
  | append_singleton acts act ih =>
    rw [FlowState.run, foldl_concat]
    exact ih.step act

end Runs

/-! ### Egress -/

section Egress

variable {destination : ConfidentialityLabel Universe Principal}

/-- Some input was unknown, or two observed labels are of different universes. -/
def Unresolved (acts : List (FlowAct Universe Principal)) : Prop :=
  .markUnknown ∈ acts ∨ ∃ label ∈ observed acts, ∃ label' ∈ observed acts, label.univ ≠ label'.univ

lemma unresolvedInput_run : (FlowState.run acts).unresolvedInput ↔ Unresolved acts := by
  have h := summarises_run acts
  rw [h.unresolved]
  refine or_congr_right ⟨?_, ?_⟩
  · rintro ⟨acc, hacc, label, hlab, hne⟩
    obtain ⟨label', hlabel', heq⟩ := h.member acc hacc
    exact ⟨label, hlab, label', hlabel', fun h => hne (h.trans heq)⟩
  rintro ⟨label, hlab, label', hlabel', hne⟩
  cases hacc : (FlowState.run acts).accumulated with
  | none =>
    rw [h.empty hacc] at hlab
    cases hlab
  | some acc =>
    by_cases hlabelAcc : label.univ = acc.univ
    · exact ⟨acc, rfl, label', hlabel', fun h => hne (hlabelAcc.trans h.symm)⟩
    · exact ⟨acc, rfl, label, hlab, hlabelAcc⟩

/-- Without anything unresolved, the accumulated label stands for the observed ones. -/
lemma stands_for_observed (hres : (FlowState.run acts).unresolvedInput = false)
    (hacc : (FlowState.run acts).accumulated = some acc)
    (destination : ConfidentialityLabel Universe Principal) :
    (acc.univ = destination.univ ↔ ∀ label ∈ observed acts, label.univ = destination.univ) ∧
      (acc.readers.canFlowTo destination.readers ↔
        ∀ label ∈ observed acts, label.readers ≤ destination.readers) := by
  have h := summarises_run acts
  have huniv : ∀ label ∈ observed acts, label.univ = acc.univ := by
    intro label hlab
    by_contra hne
    have htrue := h.unresolved.mpr (Or.inr ⟨acc, hacc, label, hlab, hne⟩)
    rw [hres] at htrue
    cases htrue
  obtain ⟨label, hlab, hsame⟩ := h.member acc hacc
  constructor
  · constructor
    · intro heq label' hlabel'
      exact (huniv label' hlabel').trans heq
    · intro hall
      exact hsame.symm.trans (hall label hlab)
  refine (h.flows acc hacc destination.readers).trans ?_
  constructor
  · intro hall label' hlabel'
    exact hall label' hlabel' (huniv label' hlabel')
  · intro hall label' hlabel' _
    exact hall label' hlabel'

/-- Why a check has its result, in terms of the observed labels. -/
def Explains (acts : List (FlowAct Universe Principal))
    (destination : ConfidentialityLabel Universe Principal) (result : Except EgressError Unit) : Prop :=
  match result with
  | .error .unresolvedInput => Unresolved acts
  | .error .destinationUniverseMismatch =>
    ¬Unresolved acts ∧ ¬∀ label ∈ observed acts, label.univ = destination.univ
  | .error .destinationWidensReaders =>
    ¬Unresolved acts ∧ (∀ label ∈ observed acts, label.univ = destination.univ) ∧
      ¬∀ label ∈ observed acts, label.readers ≤ destination.readers
  | .ok () =>
    ¬Unresolved acts ∧ (∀ label ∈ observed acts, label.univ = destination.univ) ∧
      ∀ label ∈ observed acts, label.readers ≤ destination.readers

lemma explains_checkEgress :
    Explains acts destination ((FlowState.run acts).checkEgress destination) := by
  have hres : (FlowState.run acts).unresolvedInput ↔ Unresolved acts := unresolvedInput_run
  unfold FlowState.checkEgress
  cases hflag : (FlowState.run acts).unresolvedInput with
  | true => exact hres.mp hflag
  | false =>
    have hnot : ¬Unresolved acts := by
      rw [← hres, hflag]
      exact Bool.false_ne_true
    simp only [Bool.false_eq_true, if_false]
    cases hacc : (FlowState.run acts).accumulated with
    | none =>
      have hempty := (summarises_run acts).empty hacc
      refine ⟨hnot, ?_, ?_⟩
      all_goals
        rw [hempty]
        exact fun label hlab => by cases hlab
    | some acc =>
      obtain ⟨huniv, hflow⟩ := stands_for_observed hflag hacc destination
      simp only
      by_cases hdest : acc.univ = destination.univ
      · cases hcan : acc.readers.canFlowTo destination.readers with
        | true =>
          simp only [hdest, ne_eq, not_true_eq_false, Bool.true_eq_false]
          exact ⟨hnot, huniv.mp hdest, hflow.mp hcan⟩
        | false =>
          simp only [hdest, ne_eq, not_true_eq_false]
          refine ⟨hnot, huniv.mp hdest, fun hall => ?_⟩
          have htrue := hflow.mpr hall
          rw [hcan] at htrue
          cases htrue
      · simp only [hdest, ne_eq, not_false_eq_true]
        exact ⟨hnot, fun hall => hdest (huniv.mpr hall)⟩

omit [DecidableEq Universe] in
lemma Explains.unique
    (h : Explains acts destination result) (h' : Explains acts destination result') :
    result = result' := by
  rcases result with (_ | _ | _) | _ <;> rcases result' with (_ | _ | _) | _ <;>
    simp only [Explains] at h h' <;> first | rfl | tauto

omit [DecidableEq Universe] [DecidableEq Principal] in
lemma mem_observed : label ∈ observed acts ↔ .observe label ∈ acts := by
  unfold observed
  rw [mem_filterMap]
  constructor
  · rintro ⟨act, hact, hlab⟩
    cases act with
    | observe label' =>
      cases hlab
      exact hact
    | markUnknown => cases hlab
  · intro hlab
    exact ⟨.observe label, hlab, rfl⟩

omit [DecidableEq Universe] in
lemma Explains.congr
    (hsame : ∀ act, act ∈ acts ↔ act ∈ acts') (h : Explains acts destination result) :
    Explains acts' destination result := by
  have hobs : ∀ P : ConfidentialityLabel Universe Principal → Prop,
      (∀ label ∈ observed acts, P label) ↔ ∀ label ∈ observed acts', P label := by
    intro P
    refine forall_congr' fun label => ?_
    rw [mem_observed, mem_observed, hsame]
  have hunresolved : Unresolved acts ↔ Unresolved acts' := by
    refine or_congr (hsame _) ?_
    refine exists_congr fun label => and_congr ?_ (exists_congr fun label' => and_congr_left fun _ => ?_)
    all_goals rw [mem_observed, mem_observed, hsame]
  rcases result with (_ | _ | _) | _ <;> simp only [Explains, hunresolved, hobs] at h ⊢ <;> exact h

lemma checkEgress_eq_ok_iff : (FlowState.run acts).checkEgress destination = .ok () ↔
    .markUnknown ∉ acts ∧ ∀ label, .observe label ∈ acts →
      label.univ = destination.univ ∧ label.readers.canFlowTo destination.readers := by
  have hexplains : Explains acts destination ((FlowState.run acts).checkEgress destination) :=
    explains_checkEgress
  constructor
  · intro h
    rw [h] at hexplains
    obtain ⟨hnot, huniv, hflow⟩ := hexplains
    refine ⟨fun hunknown => hnot (Or.inl hunknown), fun label hlab => ?_⟩
    have hmem := mem_observed.mpr hlab
    exact ⟨huniv label hmem, hflow label hmem⟩
  rintro ⟨hknown, hall⟩
  have huniv : ∀ label ∈ observed acts, label.univ = destination.univ :=
    fun label hlab => (hall label (mem_observed.mp hlab)).1
  have hok : Explains acts destination (.ok ()) := by
    refine ⟨?_, huniv, fun label hlab => (hall label (mem_observed.mp hlab)).2⟩
    rintro (hunknown | ⟨label, hlab, label', hlabel', hne⟩)
    · exact hknown hunknown
    · exact hne ((huniv label hlab).trans (huniv label' hlabel').symm)
  exact hexplains.unique hok

/-- What the checks of a computation promise: a destination is allowed exactly if nothing was unknown
and every observed label is of its universe and may flow to its readers; the order and the repetition of
the calls change nothing; and what is refused stays refused. -/
structure EgressLaws (acts : List (FlowAct Universe Principal))
    (destination : ConfidentialityLabel Universe Principal) : Prop where
  allowed : (FlowState.run acts).checkEgress destination = .ok () ↔
    .markUnknown ∉ acts ∧ ∀ label, .observe label ∈ acts →
      label.univ = destination.univ ∧ label.readers.canFlowTo destination.readers
  order : ∀ acts', (∀ act, act ∈ acts ↔ act ∈ acts') →
    (FlowState.run acts').checkEgress destination = (FlowState.run acts).checkEgress destination
  refused : ∀ more, (FlowState.run acts).checkEgress destination ≠ .ok () →
    (FlowState.run (acts ++ more)).checkEgress destination ≠ .ok ()

/-- **Egress.** The check of a destination answers as the observed labels say. -/
theorem egressLaws (acts : List (FlowAct Universe Principal))
    (destination : ConfidentialityLabel Universe Principal) : EgressLaws acts destination where
  allowed := checkEgress_eq_ok_iff
  order acts' hsame := explains_checkEgress.unique (explains_checkEgress.congr hsame)
  refused more hrefused hallowed := by
    obtain ⟨hknown, hall⟩ := checkEgress_eq_ok_iff.mp hallowed
    refine hrefused (checkEgress_eq_ok_iff.mpr ⟨fun hunknown => ?_, fun label hlabel => ?_⟩)
    · exact hknown (mem_append_left _ hunknown)
    · exact hall label (mem_append_left _ hlabel)

end Egress

end Buzz.Ifc
