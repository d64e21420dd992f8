import Mathlib.Data.List.DropRight
import Mathlib.Data.List.Induction
import Vigil.Proofs.Bus.Retention
import Vigil.Proofs.Exact
import Vigil.Proofs.Triage.Review
import Vigil.Triage.Inbox

/-!
# What waits for triage

An inbox is trimmed whenever a message arrives, and it is emptied whenever triage asks for it.
Between two calls of triage all this trimming comes to one cut.

* `Bus.Attached` -- a subscription that only takes notice, and that everybody else leaves alone;
  each publication on its topic hands it the message once (`Bus.handsOver_publish?`);
* `Inbox.Holds` -- an inbox holds the newest of some findings, and it still does after more have
  come, however they are spread over messages (`Inbox.Holds.foldl`);
* `Desk` -- an engine at work, with its inbox attached to a bus; `Move` -- what may happen there;
* `waiting` -- what has been published since the last call of triage;
* `Desk.triage_of_attach` -- **the main result**: after any moves, triage is given the newest of the
  findings that wait, and leaves none.
-/

namespace Vigil

variable {σ ν : Type}

/-! ## A subscription that is left alone -/

/-- A script leaves a subscription to a topic alone: it publishes nothing on the topic and does not
remove the subscription, and neither do the handlers that it subscribes. -/
inductive Script.Spares (id : Nat) (topic : String) : Script ν → Prop
  | done : Spares id topic .done
  | fail : Spares id topic .fail
  | publish {m : Message ν} {next : Nat → Script ν} (hm : m.topic ≠ topic)
    (hnext : ∀ n, Spares id topic (next n)) : Spares id topic (.publish m next)
  | subscribe {other : String} {handler : Handler ν} {next : Nat → Script ν}
    (hhandler : ∀ m, Spares id topic (handler m)) (hnext : ∀ n, Spares id topic (next n)) :
    Spares id topic (.subscribe other handler next)
  | unsubscribe {old : Nat} {next : Bool → Script ν} (hold : old ≠ id)
    (hnext : ∀ found, Spares id topic (next found)) : Spares id topic (.unsubscribe old next)

namespace Bus

/-- Nobody on the bus will publish on a topic or remove the next subscription, and no subscription
has its number. -/
structure Undisturbed (b : Bus ν) (topic : String) : Prop where
  numbered : ∀ s ∈ b.subscriptions, s.id < b.nextId
  spared : ∀ s ∈ b.subscriptions, ∀ m, (s.handler m).Spares b.nextId topic

/-- A subscription to a topic is there once, it only takes notice, and everybody leaves it alone. -/
structure Attached (b : Bus ν) (id : Nat) (topic : String) : Prop where
  once : b.subscriptions.filter (·.id == id) = [⟨id, topic, listening⟩]
  numbered : id < b.nextId
  spared : ∀ s ∈ b.subscriptions, ∀ m, (s.handler m).Spares id topic

/-- A publication leaves a subscription to a topic attached, and it has handed the message to it if
the message is on its topic, and nothing else. -/
structure HandsOver (id : Nat) (topic : String) (m : Message ν) (p : Publication ν) : Prop where
  attached : p.bus.Attached id topic
  handed : p.log.filterMap (·.handed? [id]) = if m.topic = topic then [m] else []

variable {b : Bus ν} {id : Nat} {topic : String}

theorem Undisturbed.attached (h : b.Undisturbed topic) :
    (b.subscribe topic listening).2.Attached b.nextId topic where
  once := by
    have hothers : b.subscriptions.filter (·.id == b.nextId) = [] :=
      List.filter_eq_nil_iff.2 fun s hs => by simpa using Nat.ne_of_lt (h.numbered s hs)
    simp [subscribe, List.filter_append, hothers]
  numbered := Nat.lt_succ_self _
  spared := by
    intro s hs m
    rcases List.mem_append.1 hs with hs | hs
    · exact h.spared s hs m
    · obtain rfl := List.mem_singleton.1 hs
      exact Script.Spares.done

theorem Attached.keep (h : b.Attached id topic) (m : Message ν) : (b.keep m).Attached id topic :=
  ⟨h.once, h.numbered, h.spared⟩

theorem Attached.subscribe (h : b.Attached id topic) (other : String) {handler : Handler ν}
    (hhandler : ∀ m, (handler m).Spares id topic) :
    (b.subscribe other handler).2.Attached id topic where
  once := by
    have hnew : (b.nextId == id) = false := by simpa using Nat.ne_of_gt h.numbered
    simp [Bus.subscribe, List.filter_append, h.once, hnew]
  numbered := Nat.lt_succ_of_lt h.numbered
  spared := by
    intro s hs m
    rcases List.mem_append.1 hs with hs | hs
    · exact h.spared s hs m
    · obtain rfl := List.mem_singleton.1 hs
      exact hhandler m

theorem Attached.unsubscribe (h : b.Attached id topic) {old : Nat} (hold : old ≠ id) :
    (b.unsubscribe old).2.Attached id topic where
  once := by
    rw [Bus.unsubscribe, List.filter_filter, ← h.once]
    refine List.filter_congr fun s _ => ?_
    by_cases hs : s.id = id
    · simp [hs, Ne.symm hold]
    · simp [hs]
  numbered := h.numbered
  spared s hs := h.spared s (List.mem_filter.1 hs).1

/-- The subscribers of a topic among which the subscription is found. -/
theorem Attached.filter_subscribers (h : b.Attached id topic) (other : String) :
    (b.subscribers other).filter (·.id == id) =
      if other = topic then [⟨id, topic, listening⟩] else [] := by
  have hcomm : (b.subscribers other).filter (·.id == id) =
      (b.subscriptions.filter (·.id == id)).filter (·.topic == other) :=
    List.filter_comm _ _ _
  rw [hcomm, h.once]
  by_cases hother : other = topic
  · simp [hother]
  · simp [hother, Ne.symm hother]

section Publishing

variable {publish : Bus ν → Message ν → Option (Publication ν)}

/-- Whoever leaves the subscription alone hands nothing to it. -/
theorem Attached.perform
    (hpublish : ∀ b m p, b.Attached id topic → publish b m = some p → HandsOver id topic m p)
    {script : Script ν} (hscript : script.Spares id topic) {n : Nat} {q : Progress ν}
    (h : b.Attached id topic) (hq : perform publish n script b = some q) :
    q.bus.Attached id topic ∧ q.log.filterMap (·.handed? [id]) = [] := by
  induction hscript generalizing b q with
  | done =>
    obtain rfl := Option.some.inj hq
    exact ⟨h, rfl⟩
  | fail =>
    obtain rfl := Option.some.inj hq
    exact ⟨h, rfl⟩
  | @publish m next hm hnext ih =>
    rw [Bus.perform] at hq
    cases hp : publish b m with
    | none =>
      rw [hp] at hq
      cases hq
    | some p =>
      rw [hp] at hq
      obtain ⟨q', hq', rfl⟩ := Option.map_eq_some_iff.1 hq
      have hover := hpublish b m p h hp
      obtain ⟨hattached, hlog⟩ := ih _ hover.attached hq'
      refine ⟨hattached, ?_⟩
      rw [List.filterMap_append, hover.handed, if_neg hm, List.filterMap_cons_none rfl, hlog,
        List.nil_append]
  | subscribe hhandler hnext _ ih => exact ih _ (h.subscribe _ hhandler) hq
  | unsubscribe hold hnext ih => exact ih _ (h.unsubscribe hold) hq

/-- The message is handed to the subscription as often as it is found among the subscribers. -/
theorem Attached.deliver
    (hpublish : ∀ b m p, b.Attached id topic → publish b m = some p → HandsOver id topic m p)
    {m : Message ν} {subscribers : List (Subscription ν)}
    (hspared : ∀ s ∈ subscribers, (s.handler m).Spares id topic) {p : Publication ν}
    (h : b.Attached id topic) (hp : deliver publish m subscribers b = some p) :
    p.bus.Attached id topic ∧
      p.log.filterMap (·.handed? [id]) = (subscribers.filter (·.id == id)).map fun _ => m := by
  induction subscribers generalizing b p with
  | nil =>
    obtain rfl := Option.some.inj hp
    exact ⟨h, rfl⟩
  | cons s rest ih =>
    rw [Bus.deliver] at hp
    cases hq : Bus.perform publish s.id (s.handler m) b with
    | none =>
      rw [hq] at hp
      cases hp
    | some q =>
      rw [hq] at hp
      obtain ⟨p', hp', rfl⟩ := Option.map_eq_some_iff.1 hp
      obtain ⟨hafter, hsilent⟩ := h.perform hpublish (hspared s List.mem_cons_self) hq
      obtain ⟨hattached, hlog⟩ := ih (fun t ht => hspared t (List.mem_cons_of_mem _ ht)) hafter hp'
      refine ⟨hattached, ?_⟩
      dsimp only
      by_cases hs : s.id = id
      · have hcalled : (Entry.called s.id m).handed? [id] = some m := if_pos (by simp [hs])
        rw [List.cons_append, List.filterMap_cons_some hcalled, List.filterMap_append, hsilent,
          hlog, List.filter_cons_of_pos (by simpa using hs), List.map_cons, List.nil_append]
      · have hcalled : (Entry.called s.id m).handed? [id] = none := if_neg (by simpa using hs)
        rw [List.cons_append, List.filterMap_cons_none hcalled, List.filterMap_append, hsilent,
          hlog, List.filter_cons_of_neg (by simpa using hs), List.nil_append]

/-- **Each message on the topic is handed over once**, and no other message. -/
theorem handsOver_publish? (depth : Nat) :
    ∀ (b : Bus ν) m p, b.Attached id topic → b.publish? depth m = some p →
      HandsOver id topic m p := by
  induction depth with
  | zero => exact fun b m p _ hp => by cases hp
  | succ depth ih =>
    intro b m p h hp
    have hspared : ∀ s ∈ b.subscribers m.topic, (s.handler m).Spares id topic :=
      fun s hs => h.spared s (List.mem_filter.1 hs).1 m
    obtain ⟨hattached, hlog⟩ := (h.keep m).deliver ih hspared hp
    refine ⟨hattached, ?_⟩
    rw [hlog, h.filter_subscribers]
    split <;> rfl

end Publishing

end Bus

/-! ## An inbox that is trimmed -/

/-- The findings that a message carries, if it carries any. -/
def Message.batch (m : Message ν) : List (Finding ν) :=
  m.payload.findings?.getD []

namespace Inbox

/-- An inbox with some room holds the newest of some findings. -/
structure Holds (room : Nat) (all : List (Finding ν)) (i : Inbox ν) : Prop where
  capacity_eq : i.capacity = room
  newest : Bus.IsNewest room all i.findings

variable {room : Nat} {all : List (Finding ν)} {i : Inbox ν}

theorem holds_ofCapacity (hroom : 1 ≤ room) : (ofCapacity room : Inbox ν).Holds room [] where
  capacity_eq := Nat.max_eq_left hroom
  newest := Bus.IsNewest.nil room

/-- What comes in is put behind what is held, and the oldest gives way: the newest of all is held
then, as before. -/
theorem Holds.receive (h : i.Holds room all) (batch : List (Finding ν)) :
    (i.receive batch).Holds room (all ++ batch) := by
  have hlength := h.newest.length
  obtain ⟨older, rfl⟩ := h.newest.suffix
  refine ⟨h.capacity_eq, ?_, ?_⟩
  · rw [List.append_assoc]
    exact (List.drop_suffix _ _).trans (List.suffix_append older _)
  · -- What gave way earlier did so because the inbox was full, and it is full still.
    rw [List.length_append] at hlength
    simp only [Inbox.receive, List.length_drop, List.length_append, h.capacity_eq]
    omega

/-- What carries no findings changes nothing. -/
theorem Holds.receiveMessage (h : i.Holds room all) (m : Message ν) :
    (i.receiveMessage m).Holds room (all ++ m.batch) := by
  rw [Inbox.receiveMessage, Message.batch]
  cases m.payload.findings? with
  | none =>
    rw [Option.getD_none, List.append_nil]
    exact h
  | some batch => exact h.receive batch

/-- **All trimming comes to one cut**, however the findings are spread over messages. -/
theorem Holds.foldl (h : i.Holds room all) (messages : List (Message ν)) :
    (messages.foldl Inbox.receiveMessage i).Holds room (all ++ messages.flatMap Message.batch) := by
  induction messages generalizing i all with
  | nil =>
    rw [List.flatMap_nil, List.append_nil]
    exact h
  | cons m rest ih =>
    rw [List.flatMap_cons, ← List.append_assoc]
    exact ih (h.receiveMessage m)

end Inbox

/-! ## An engine at work -/

/-- A bus, the subscription by which an inbox is attached to it, the inbox, the world, and the
messages that the subscription has been handed since triage was last asked. -/
structure Desk (σ ν : Type) where
  bus : Bus ν
  subscription : Nat
  inbox : Inbox ν
  world : σ
  handed : List (Message ν) := []

/-- What may happen at a desk: a message is published, or triage is asked to do what waits.  Triage
takes it all at once, so what is published while it is at work comes after it. -/
inductive Move (ν : Type) where
  | publish (m : Message ν)
  | triage

namespace Move

def isTriage : Move ν → Bool
  | publish _ => false
  | triage => true

/-- The message that is published for triage. -/
def message? : Move ν → Option (Message ν)
  | publish m => if m.topic = Topic.findingsCorrelated then some m else none
  | triage => none

end Move

/-- The messages that have been published for triage since it was last asked. -/
def waiting (moves : List (Move ν)) : List (Message ν) :=
  (moves.rtakeWhile (!·.isTriage)).filterMap Move.message?

theorem waiting_concat_publish (moves : List (Move ν)) (m : Message ν) :
    waiting (moves ++ [.publish m]) =
      waiting moves ++ if m.topic = Topic.findingsCorrelated then [m] else [] := by
  rw [waiting, List.rtakeWhile_concat_pos _ _ _ rfl, List.filterMap_append, waiting]
  by_cases hm : m.topic = Topic.findingsCorrelated
  · have hmessage : (Move.publish m).message? = some m := if_pos hm
    rw [if_pos hm, List.filterMap_cons_some hmessage, List.filterMap_nil]
  · have hmessage : (Move.publish m).message? = none := if_neg hm
    rw [if_neg hm, List.filterMap_cons_none hmessage, List.filterMap_nil]

theorem waiting_concat_triage (moves : List (Move ν)) : waiting (moves ++ [.triage]) = [] := by
  rw [waiting, List.rtakeWhile_concat_neg _ _ _ Bool.false_ne_true, List.filterMap_nil]

namespace Desk

/-- A desk with a new inbox, which is attached to a bus. -/
def attach (capacity : Nat) (b : Bus ν) (w : σ) : Desk σ ν where
  bus := (Inbox.attach b).2
  subscription := (Inbox.attach b).1
  inbox := .ofCapacity capacity
  world := w

/-- The desk after a publication. -/
def receive (d : Desk σ ν) (p : Bus.Publication ν) : Desk σ ν :=
  { d with
    bus := p.bus
    inbox := d.inbox.collect [d.subscription] p.log
    handed := d.handed ++ p.log.filterMap (·.handed? [d.subscription]) }

variable [Quantity ν]

/-- Triage does what waits. -/
def triage (e : TriageEngine σ ν) (d : Desk σ ν) : TriageEngine.Outcome σ ν × Desk σ ν :=
  let (o, i) := e.triagePending d.inbox d.world
  (o, { d with inbox := i, world := o.world, handed := [] })

/-- Make a move; publications nest at most to the given depth. -/
def step? (e : TriageEngine σ ν) (depth : Nat) (d : Desk σ ν) : Move ν → Option (Desk σ ν)
  | .publish m => (d.bus.publish? depth m).map d.receive
  | .triage => some (d.triage e).2

/-- Make some moves, one after the other. -/
def run? (e : TriageEngine σ ν) (depth : Nat) (d : Desk σ ν) (moves : List (Move ν)) :
    Option (Desk σ ν) :=
  moves.foldlM (step? e depth) d

theorem run?_concat (e : TriageEngine σ ν) (depth : Nat) (d : Desk σ ν) (moves : List (Move ν))
    (move : Move ν) :
    run? e depth d (moves ++ [move]) =
      (run? e depth d moves).bind fun d => step? e depth d move := by
  rw [run?, List.foldlM_append, run?]
  simp only [List.foldlM_cons, List.foldlM_nil, bind_pure]
  rfl

/-- What holds of a desk at first, and is kept by its moves, holds after all of them. -/
theorem run?_induction {I : List (Move ν) → Desk σ ν → Prop} {e : TriageEngine σ ν} {depth : Nat}
    {start d : Desk σ ν} {moves : List (Move ν)} (hd : run? e depth start moves = some d)
    (hstart : I [] start)
    (hstep : ∀ moves d move d', I moves d → step? e depth d move = some d' →
      I (moves ++ [move]) d') : I moves d := by
  induction moves using List.reverseRecOn generalizing d with
  | nil =>
    obtain rfl := Option.some.inj hd
    exact hstart
  | append_singleton moves move ih =>
    rw [run?_concat] at hd
    obtain ⟨d', hd', hmove⟩ := Option.bind_eq_some_iff.1 hd
    exact hstep moves d' move d (ih hd') hmove

variable {capacity depth : Nat} {b : Bus ν} {w : σ} {d : Desk σ ν} {moves : List (Move ν)}

/-- Whoever else is on the bus, the inbox holds the newest of what it has been handed. -/
theorem holds_run? (hcapacity : 1 ≤ capacity) {e : TriageEngine σ ν}
    (hd : run? e depth (attach capacity b w) moves = some d) :
    d.inbox.Holds capacity (d.handed.flatMap Message.batch) := by
  refine run?_induction
    (I := fun _ d => d.inbox.Holds capacity (d.handed.flatMap Message.batch)) hd
    (Inbox.holds_ofCapacity hcapacity) ?_
  intro moves d move d' h hmove
  cases move with
  | publish m =>
    obtain ⟨p, -, rfl⟩ := Option.map_eq_some_iff.1 hmove
    rw [Desk.receive, List.flatMap_append]
    exact h.foldl _
  | triage =>
    obtain rfl := Option.some.inj hmove
    exact ⟨h.capacity_eq, Bus.IsNewest.nil capacity⟩

/-- If nobody else publishes for triage, the inbox is handed what is published, and that once. -/
theorem handed_run? (hb : b.Undisturbed Topic.findingsCorrelated) {e : TriageEngine σ ν}
    (hd : run? e depth (attach capacity b w) moves = some d) : d.handed = waiting moves := by
  suffices h : d.bus.Attached d.subscription Topic.findingsCorrelated ∧
    d.handed = waiting moves from h.2
  refine run?_induction
    (I := fun moves d => d.bus.Attached d.subscription Topic.findingsCorrelated ∧
      d.handed = waiting moves) hd ⟨hb.attached, rfl⟩ ?_
  rintro moves d move d' ⟨hattached, hhanded⟩ hmove
  cases move with
  | publish m =>
    obtain ⟨p, hp, rfl⟩ := Option.map_eq_some_iff.1 hmove
    have hover := Bus.handsOver_publish? depth d.bus m p hattached hp
    refine ⟨hover.attached, ?_⟩
    rw [Desk.receive, waiting_concat_publish, hhanded, hover.handed]
  | triage =>
    obtain rfl := Option.some.inj hmove
    exact ⟨hattached, (waiting_concat_triage moves).symm⟩

/-! ## A desk that is alone on its bus -/

omit [Quantity ν] in
/-- If nobody is subscribed but one who only takes notice, every publication comes to its end. -/
theorem publish?_of_alone {id : Nat} (hb : b.subscriptions =
      [⟨id, Topic.findingsCorrelated, Bus.listening⟩]) (hdepth : 1 ≤ depth) (m : Message ν) :
    ∃ p, b.publish? depth m = some p ∧ p.bus.subscriptions = b.subscriptions := by
  obtain ⟨depth, rfl⟩ := Nat.exists_eq_add_of_le' hdepth
  rw [Bus.publish?, Bus.subscribers, hb]
  by_cases hm : Topic.findingsCorrelated = m.topic
  · rw [List.filter_cons_of_pos (by simpa using hm)]
    exact ⟨_, rfl, hb⟩
  · rw [List.filter_cons_of_neg (by simpa using hm)]
    exact ⟨_, rfl, hb⟩

theorem exists_run?_of_alone (hb : b.subscriptions = []) (hdepth : 1 ≤ depth)
    (e : TriageEngine σ ν) (capacity : Nat) (w : σ) (moves : List (Move ν)) :
    ∃ d, run? e depth (attach capacity b w) moves = some d := by
  have hstart : (attach capacity b w).bus.subscriptions =
      [⟨b.nextId, Topic.findingsCorrelated, Bus.listening⟩] := by
    simp [attach, Inbox.attach, Bus.subscribe, hb]
  suffices h : ∃ d, run? e depth (attach capacity b w) moves = some d ∧
      d.bus.subscriptions = (attach capacity b w).bus.subscriptions from h.imp fun _ hd => hd.1
  induction moves using List.reverseRecOn with
  | nil => exact ⟨_, rfl, rfl⟩
  | append_singleton moves move ih =>
    obtain ⟨d, hd, halone⟩ := ih
    rw [run?_concat, hd, Option.bind_some]
    cases move with
    | publish m =>
      obtain ⟨p, hp, hbus⟩ := publish?_of_alone (halone.trans hstart) hdepth m
      exact ⟨d.receive p, by rw [step?, hp, Option.map_some], hbus.trans halone⟩
    | triage => exact ⟨_, rfl, halone⟩

/-! ## Calls of triage -/

/-- **Triage is given the newest of the findings that wait.**  An inbox is attached to a bus.
Whatever happens there, it never holds more than it has room for; a call of triage is one for the
newest of the findings that it was handed since the call before, as many as there is room for, and
gives one finding for each of them, in their order; and nothing waits afterwards.  If nobody else
publishes for triage, what it was handed is what has been published since that call, each message
once and in order.  And if it is alone on its bus, there is nothing that could keep a publication
from its end. -/
theorem triage_of_attach (hcapacity : 1 ≤ capacity) (e : TriageEngine σ ν) (b : Bus ν) (w : σ)
    (depth : Nat) (moves : List (Move ν)) :
    (∀ d, run? e depth (attach capacity b w) moves = some d →
      d.inbox.size ≤ capacity ∧
      (∃ newest, Bus.IsNewest capacity (d.handed.flatMap Message.batch) newest ∧
        (d.triage e).1 = e.triage newest d.world ∧
        List.Forall₂ Finding.Triaged newest (d.triage e).1.findings ∧
        (d.triage e).2.inbox.size = 0) ∧
      (b.Undisturbed Topic.findingsCorrelated → d.handed = waiting moves)) ∧
    (b.subscriptions = [] → 1 ≤ depth →
      ∃ d, run? e depth (attach capacity b w) moves = some d) := by
  refine ⟨fun d hd => ?_,
    fun halone hdepth => exists_run?_of_alone halone hdepth e capacity w moves⟩
  have hnewest := (holds_run? hcapacity hd).newest
  have hbounded : d.inbox.size ≤ capacity :=
    Nat.le_trans (Nat.le_of_eq hnewest.length) (Nat.min_le_left ..)
  have hjudged := (e.triage_cannot_bypass_review d.inbox.findings d.world).1
  exact ⟨hbounded, ⟨d.inbox.findings, hnewest, rfl, hjudged, rfl⟩, fun hb => handed_run? hb hd⟩

/-- A finding with this id. -/
def noticed (id : String) : Finding ℚ where
  id := id
  findingType := "leak"
  severity := .low
  confidence := 1
  location := { file := "m.c", startLine := 10, endLine := 10 }
  description := "a leak"
  agents := OrderedSet.singleton "lint"
  status := .pending

/-- A bus with somebody who fails whenever there are findings. -/
def failingBus : Bus ℚ := (({} : Bus ℚ).subscribe Topic.findingsCorrelated Bus.failing).2

/-- Correlated findings with these ids. -/
def batch (ids : List String) : Move ℚ :=
  .publish (.findings Topic.findingsCorrelated "orchestrator" (ids.map noticed))

/-- Six findings and two calls of triage, and something else that is published in between. -/
def shift : List (Move ℚ) :=
  [batch ["a"], .triage, batch ["b", "c", "d"], batch [], batch ["e"],
    .publish (.findings Topic.findingsRaw "orchestrator" [noticed "x"]),
    .publish ⟨Topic.findingsCorrelated, "client", .progress ⟨"run"⟩ (.phaseChanged .aggregated)⟩]

/-- The second call is for the last two findings of the four that wait. -/
theorem triage_of_attach_shift :
    failingBus.Undisturbed Topic.findingsCorrelated ∧
      ((waiting shift).flatMap Message.batch).map (·.id) = ["b", "c", "d", "e"] ∧
      ∃ d : Desk Unit ℚ, run? (.of .standard) 1 (attach 2 failingBus ()) shift = some d ∧
        d.inbox.size ≤ 2 ∧
        (d.triage (.of .standard)).1 =
          TriageEngine.triage (.of .standard) [noticed "d", noticed "e"] d.world ∧
        (d.triage (.of .standard)).2.inbox.size = 0 := by
  have hb : failingBus.Undisturbed Topic.findingsCorrelated := {
    numbered := fun s hs => by obtain rfl := List.mem_singleton.1 hs; exact Nat.one_pos
    spared := fun s hs _ => by obtain rfl := List.mem_singleton.1 hs; exact Script.Spares.fail }
  have hd : ∃ d : Desk Unit ℚ, run? (.of .standard) 1 (attach 2 failingBus ()) shift = some d :=
    ⟨_, rfl⟩
  obtain ⟨d, hd⟩ := hd
  obtain ⟨hbounded, ⟨newest, hnewest, htriage, -, hempty⟩, hhanded⟩ :=
    (triage_of_attach (by decide) (.of .standard) failingBus () 1 shift).1 d hd
  have hlast : Bus.IsNewest 2 ((waiting shift).flatMap Message.batch)
      [noticed "d", noticed "e"] :=
    ⟨⟨[noticed "b", noticed "c"], rfl⟩, rfl⟩
  rw [hhanded hb] at hnewest
  rw [hnewest.eq hlast] at htriage
  exact ⟨hb, rfl, d, hd, hbounded, htriage, hempty⟩

end Desk

end Vigil
