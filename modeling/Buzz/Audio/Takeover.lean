import Buzz.Audio.Media
import Buzz.Lib.Run

/-!
Media after a takeover.

Clients of one relay join huddles, each at the generation of the owner then, while datagrams of any
generation arrive.  A client leaves of its own, or is torn down, because the owner is gone, to join
again.  The floor is one for all clients of a channel, and the teardown of any of them erases it.

Which clients of the channel a frame gets to is left to the room: any of them.
-/

namespace Buzz.Audio

open Buzz.Core Lib List
open Tunnel (FencedHeader)

/-- A connected client, with the generations of the frames that it was given. -/
structure AudioClient where
  id : ℕ
  channelId : Uuid
  joinedAt : ℕ
  received : List ℕ
deriving DecidableEq

/-- The generations never decrease, from the one the client joined at on. -/
def AudioClient.InOrder (c : AudioClient) : Prop := (c.joinedAt :: c.received).Pairwise (· ≤ ·)

structure AudioRelay where
  fence : GenerationFloor
  clients : List AudioClient

inductive ClientEvent
  | join (id : ℕ) (channelId : Uuid) (generation : ℕ)
  | leave (c : AudioClient) (tornDown : Bool)
  | datagram (fenced : FencedHeader) (reached : List ℕ)

namespace AudioRelay

def init : AudioRelay := ⟨∅, []⟩

variable (s : AudioRelay)

def deliver (fenced : FencedHeader) (reached : List ℕ) (c : AudioClient) : AudioClient :=
  if c.channelId = fenced.sessionId ∧ c.id ∈ reached then
    { c with received := c.received ++ [fenced.generation] }
  else c

def step : ClientEvent → AudioRelay
  | .join id channelId generation =>
    { s with clients := ⟨id, channelId, generation, []⟩ :: s.clients }
  | .leave c tornDown =>
    if c ∈ s.clients then
      ⟨if tornDown then s.fence.forget c.channelId else s.fence, s.clients.filter (· ≠ c)⟩
    else s
  | .datagram fenced reached =>
    match s.fence.check fenced.sessionId fenced.generation with
    | (.rejectStale _, fence) => ⟨fence, s.clients⟩
    | (.accept _, fence) => ⟨fence, s.clients.map (deliver fenced reached)⟩

/-- A client is torn down when no other client of its channel is connected, and a datagram is below the
floor of its session, or not older than what the clients of its channel have joined. -/
def Prompt : ClientEvent → Prop
  | .join .. => True
  | .leave c tornDown => tornDown → ∀ c' ∈ s.clients, c'.channelId = c.channelId → c' = c
  | .datagram fenced _ => (s.fence.lookup fenced.sessionId).any (fenced.generation < ·) ∨
      ∀ c ∈ s.clients, c.channelId = fenced.sessionId → c.joinedAt ≤ fenced.generation

instance (event : ClientEvent) : Decidable (s.Prompt event) := by
  cases event <;> unfold Prompt <;> infer_instance

/-- What the client has received is in order, and the floor is not below it. -/
def Floored (floor : GenerationFloor) (c : AudioClient) : Prop :=
  c.InOrder ∧ ∀ g ∈ c.received, ∃ known ∈ floor.lookup c.channelId, g ≤ known

variable {s} {fenced : FencedHeader} {c : AudioClient} {floor : GenerationFloor}

lemma check_cases (floor : GenerationFloor) (id : Uuid) (g : ℕ) :
    (∃ known, floor.check id g = (.rejectStale known, floor)) ∨
      (∃ advanced, floor.check id g = (.accept advanced, floor.insert id g)) ∧
        ∀ known ∈ floor.lookup id, known ≤ g := by
  unfold GenerationFloor.check
  cases floor.lookup id with
  | none => exact .inr ⟨⟨_, rfl⟩, by simp⟩
  | some known =>
    dsimp only
    split_ifs with hstale
    · exact .inl ⟨known, rfl⟩
    · exact .inr ⟨⟨_, rfl⟩, by simpa using hstale⟩

lemma Floored.deliver (h : Floored floor c) (reached : List ℕ)
    (hkn : ∀ known ∈ floor.lookup fenced.sessionId, known ≤ fenced.generation)
    (hjn : c.channelId = fenced.sessionId → c.joinedAt ≤ fenced.generation) :
    Floored (floor.insert fenced.sessionId fenced.generation) (deliver fenced reached c) := by
  by_cases hchan : c.channelId = fenced.sessionId
  · -- the floor was not above the datagram, and is its generation now
    have hle : ∀ g ∈ c.joinedAt :: c.received, g ≤ fenced.generation := by
      refine forall_mem_cons.mpr ⟨hjn hchan, fun g hg => ?_⟩
      obtain ⟨known, hget, hle⟩ := h.2 g hg
      exact hle.trans (hkn known (hchan ▸ hget))
    have hfl : fenced.generation ∈
        (floor.insert fenced.sessionId fenced.generation).lookup c.channelId := by
      rw [hchan, AList.lookup_insert]
      rfl
    unfold AudioRelay.deliver
    split_ifs
    · refine ⟨?_, fun g hg => ⟨_, hfl, ?_⟩⟩
      · refine pairwise_append.mpr ⟨h.1, pairwise_singleton _ _, ?_⟩
        simpa using hle
      rcases mem_append.mp hg with hg | hg
      · exact hle g (mem_cons_of_mem _ hg)
      · exact (mem_singleton.mp hg).le
    · exact ⟨h.1, fun g hg => ⟨_, hfl, hle g (mem_cons_of_mem _ hg)⟩⟩
  rw [AudioRelay.deliver, if_neg fun hgiven => hchan hgiven.1]
  refine ⟨h.1, fun g hg => ?_⟩
  rw [AList.lookup_insert_ne hchan]
  exact h.2 g hg

lemma floored_step (h : ∀ c ∈ s.clients, Floored s.fence c)
    (hprompt : s.Prompt event) : ∀ c ∈ (s.step event).clients, Floored (s.step event).fence c := by
  cases event with
  | join id channelId generation =>
    exact forall_mem_cons.mpr ⟨⟨pairwise_singleton _ _, by simp⟩, h⟩
  | leave c tornDown =>
    simp only [step]
    split_ifs with _ htorn
    · intro c' hc'
      obtain ⟨hc', hne⟩ := mem_filter.mp hc'
      have hchan : c'.channelId ≠ c.channelId := fun heq =>
        of_decide_eq_true hne (hprompt htorn c' hc' heq)
      refine ⟨(h c' hc').1, fun g hg => ?_⟩
      rw [GenerationFloor.forget, AList.lookup_erase_ne hchan]
      exact (h c' hc').2 g hg
    · exact fun c' hc' => h c' (mem_of_mem_filter hc')
    · exact h
  | datagram fenced reached =>
    rcases check_cases s.fence fenced.sessionId fenced.generation with
      ⟨known, hchk⟩ | ⟨⟨advanced, hchk⟩, hkn⟩ <;> simp only [step, hchk]
    · exact h
    have hjoined := hprompt.resolve_left fun hbelow => by
      obtain ⟨known, hget, hlt⟩ := (Option.any_eq_true ..).mp hbelow
      exact (of_decide_eq_true hlt).not_ge (hkn known hget)
    intro c hc
    obtain ⟨c, hmem, rfl⟩ := mem_map.mp hc
    exact (h c hmem).deliver reached hkn (hjoined c hmem)

/-- **No stale media.** In every run whose teardowns and datagrams are prompt, each connected client
has received frames of generations that never decrease, and of none before the one it joined at. -/
theorem no_stale_media (events : List ClientEvent) (h : AllSteps step Prompt init events) :
    ∀ c ∈ (events.foldl step init).clients, c.InOrder := by
  have hinv := h.invariant (I := fun s => ∀ c ∈ s.clients, Floored s.fence c)
    (fun _ _ => floored_step) (by simp [init])
  exact fun c hc => (hinv c hc).1

/-- Two clients join, one is torn down or leaves, and a datagram comes late. -/
def lateDatagram (tornDown : Bool) (generation : ℕ) : List ClientEvent :=
  [.join 1 ⟨5⟩ 2, .join 2 ⟨5⟩ 2, .datagram ⟨⟨5⟩, 2, ⟨9⟩⟩ [2],
    .leave ⟨1, ⟨5⟩, 2, []⟩ tornDown, .datagram ⟨⟨5⟩, generation, ⟨9⟩⟩ [2]]

/-- A client leaves, a datagram from before the takeover comes late and is rejected, and the last client
is torn down and joins again. -/
def takeover : List ClientEvent :=
  lateDatagram false 1 ++ [.datagram ⟨⟨5⟩, 3, ⟨9⟩⟩ [2], .leave ⟨2, ⟨5⟩, 2, [2, 3]⟩ true,
    .join 2 ⟨5⟩ 4, .datagram ⟨⟨5⟩, 4, ⟨9⟩⟩ [2]]

theorem no_stale_media_takeover : AllSteps step Prompt init takeover ∧
    (takeover.foldl step init).clients = [⟨2, ⟨5⟩, 4, [4]⟩] ∧
    ∀ c ∈ (takeover.foldl step init).clients, c.InOrder :=
  ⟨by decide, by decide, no_stale_media _ (by decide)⟩

/-- **A teardown lets stale media through.** The other client of the channel, still connected, is
given a frame of the generation before the one it joined at. -/
theorem teardown_admits_stale :
    ¬ ∀ c ∈ ((lateDatagram true 1).foldl step init).clients, c.InOrder := by
  unfold AudioClient.InOrder
  decide

end AudioRelay

end Buzz.Audio
