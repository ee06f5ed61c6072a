import Buzz.Core.Event

/-!
Event kinds with read rules of their own.

Three groups of kinds are not readable by everyone: author-only kinds, kinds that are author-only
until the author shares the event, and kinds private to the owner that a `p` tag names.
-/

namespace Buzz.Core

def kindEventReminder : ℕ := 30300
def kindPushLease : ℕ := 30350
def kindPrivateManagedAgent : ℕ := 30179
def kindPersona : ℕ := 30175
def kindTeamCatalog : ℕ := 30178
def kindDmVisibility : ℕ := 30622
def kindAgentTurnMetric : ℕ := 44200

def authorOnlyKinds : List ℕ := [kindEventReminder, kindPushLease, kindPrivateManagedAgent]

def sharedGatedKinds : List ℕ := [kindPersona, kindTeamCatalog]

def isSharedGatedKind (kind : ℕ) : Bool := sharedGatedKinds.contains kind

/-- The kinds whose events only the owner named by a `p` tag may read. -/
def isOwnerOnlyKind (kind : ℕ) : Bool := kind = kindDmVisibility || kind = kindAgentTurnMetric

/-- The loop of `eventIsShared`: `count` is the number of `["shared", "true"]` tags so far. -/
def countShared : List Tag → ℕ → Bool
  | [], count => count = 1
  | t :: ts, count =>
    if t.name = "shared" then
      match t.values with
      | [v] => if v = "true" then countShared ts (count + 1) else false
      -- a `shared` tag of another length fails closed
      | _ => false
    else countShared ts count

variable (e : Event) (requester : PublicKey)

/-- The event carries exactly one `shared` tag, of two elements, with the value `true`. -/
def eventIsShared : Bool := countShared e.tags 0

/-- The event is gated on sharing, not shared, and not the requester's own. -/
def isUnsharedGatedEvent : Bool :=
  if !isSharedGatedKind (eventKindU32 e) then false
  else if e.pubkey = requester then false
  else !eventIsShared e

/-- The reader of an owner-only event is one of those its `p` tags name. -/
def readerAuthorizedForEvent (readerHex : String) : Bool :=
  if !isOwnerOnlyKind (eventKindU32 e) then true
  else (e.tagContents "p").any fun c => c = readerHex

def isAuthorOnlyEvent : Bool :=
  authorOnlyKinds.contains (eventKindU32 e) && !decide (e.pubkey = requester)

/-- The visibility rule of the stored reads. -/
def eventVisibleToReader : Bool :=
  if isAuthorOnlyEvent e requester then false
  else if isUnsharedGatedEvent e requester then false
  else if !readerAuthorizedForEvent e requester.toHex then false
  else true

/-! ### The visibility rule, by kind -/

lemma not_ownerOnly_of_authorOnly (h : authorOnlyKinds.contains kind) :
    isSharedGatedKind kind = false ∧ isOwnerOnlyKind kind = false := by
  simp only [authorOnlyKinds, List.contains_eq_mem, List.mem_cons, List.not_mem_nil, or_false,
    decide_eq_true_eq] at h
  rcases h with rfl | rfl | rfl <;> decide

lemma not_ownerOnly_of_sharedGated (h : isSharedGatedKind kind) : isOwnerOnlyKind kind = false := by
  simp only [isSharedGatedKind, sharedGatedKinds, List.contains_eq_mem, List.mem_cons,
    List.not_mem_nil, or_false, decide_eq_true_eq] at h
  rcases h with rfl | rfl <;> decide

variable {e : Event} {pk : PublicKey}

lemma eventVisibleToReader_authorOnly (h : authorOnlyKinds.contains (eventKindU32 e)) :
    eventVisibleToReader e pk = decide (pk = e.pubkey) := by
  obtain ⟨hs, ho⟩ := not_ownerOnly_of_authorOnly h
  simp only [eventVisibleToReader, isAuthorOnlyEvent, isUnsharedGatedEvent,
    readerAuthorizedForEvent, h, hs, ho]
  by_cases hp : e.pubkey = pk
  · simp [hp]
  · simp [hp, Ne.symm hp]

lemma eventVisibleToReader_sharedGated (h : isSharedGatedKind (eventKindU32 e))
    (ha : authorOnlyKinds.contains (eventKindU32 e) = false) :
    eventVisibleToReader e pk = !isUnsharedGatedEvent e pk := by
  have ho := not_ownerOnly_of_sharedGated h
  simp only [eventVisibleToReader, isAuthorOnlyEvent, readerAuthorizedForEvent, ha, ho]
  cases isUnsharedGatedEvent e pk <;> rfl

lemma eventVisibleToReader_other (ha : authorOnlyKinds.contains (eventKindU32 e) = false)
    (hs : isSharedGatedKind (eventKindU32 e) = false) :
    eventVisibleToReader e pk = readerAuthorizedForEvent e pk.toHex := by
  simp only [eventVisibleToReader, isAuthorOnlyEvent, isUnsharedGatedEvent, ha, hs]
  cases readerAuthorizedForEvent e pk.toHex <;> rfl

end Buzz.Core
