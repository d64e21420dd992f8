import Vigil.Bus.Message
import Vigil.Finding.Raw
import Vigil.Run.Result

/-!
# Dispatch

A task is the work of an agent, as far as a run can tell: how long it takes, how it ends, and when it
asks for the run to be cancelled.  It bounds that work by a time limit.  Times are in nanoseconds.

The tasks of a run share a number of permits.  A task waits for a permit, announces that its agent
starts, works, announces that its agent has finished, and gives the permit back; when the run is
cancelled, waiting tasks are refused and working ones are stopped.  `State.apply` says what each
single action requires and does, in any order of actions; `next` chooses the actions of a run on a
clock, and `dispatch` carries them out until every task is over.

The world outside observes the announcements, and it may want the run cancelled at any time.
-/

namespace Vigil

variable {σ ν : Type}

/-! ## Tasks -/

/-- How the work of an agent ends. -/
inductive WorkEnding (ν : Type) where
  | answer (result : Except AgentError (List (RawFinding ν)))
  | crash

/-- The work of an agent.  Work without a duration never ends. -/
structure Work (ν : Type) where
  duration : Option Nat
  ending : WorkEnding ν
  /-- How long after its start the agent asks for the run to be cancelled. -/
  cancelAfter : Option Nat := none

/-- The work that a run asks of one agent; there is none if the agent is not registered. -/
structure Task (ν : Type) where
  agent : String
  work : Option (Work ν)
  timeoutSecs : UInt64

/-- What became of a task. -/
structure Outcome (ν : Type) where
  agent : String
  result : Except AgentError (List (RawFinding ν))
  duration : Nat

/-- Did the agent answer with records? -/
def Outcome.isSuccess (o : Outcome ν) : Bool :=
  match o.result with
  | .ok _ => true
  | .error _ => false

namespace Task

/-- The time limit. -/
def timeout (t : Task ν) : Nat :=
  t.timeoutSecs.toNat * 1000000000

/-- Does the work end within the time limit? -/
def isTimely (t : Task ν) (w : Work ν) : Bool :=
  w.duration.any fun d => d < t.timeout

/-- How long the work may go on. -/
def span (t : Task ν) (w : Work ν) : Nat :=
  min (w.duration.getD t.timeout) t.timeout

/-- The error of an agent that took too long. -/
def timeoutError (t : Task ν) : AgentError :=
  .timeout t.agent (t.timeoutSecs.toNat * 1000 % UInt64.size)

/-- The result of the work if nothing interrupts it. -/
def answer (t : Task ν) (w : Work ν) : Except AgentError (List (RawFinding ν)) :=
  if t.isTimely w then
    match w.ending with
    | .answer result => result
    | .crash => .error (.execution s!"agent '{t.agent}' panicked")
  else .error t.timeoutError

/-- The error of an agent that is not registered. -/
def unregistered (t : Task ν) : AgentError :=
  .unavailable s!"'{t.agent}' is not registered"

/-- The time of the request for cancellation, if the agent still works then. -/
def cancelAfter? (t : Task ν) (w : Work ν) : Option Nat :=
  w.cancelAfter.filter (· ≤ t.span w)

end Task

/-! ## Surroundings -/

/-- How the world outside takes part in a run: it observes messages, and it may want the run
cancelled. -/
structure Surroundings (σ ν : Type) where
  observe : Message ν → σ → σ := fun _ w => w
  wantsCancel : σ → Bool := fun _ => false

/-- Observe several messages in order. -/
def Surroundings.observeAll (s : Surroundings σ ν) (ms : List (Message ν)) (w : σ) : σ :=
  ms.foldl (fun w m => s.observe m w) w

namespace Dispatch

/-! ## The machine -/

/-- Where a task stands. -/
inductive Stage (ν : Type) where
  | waiting
  | granted
  | working (since : Nat)
  | reported (outcome : Outcome ν)
  | ended (outcome : Outcome ν)

namespace Stage

/-- Does a task at this stage hold a permit? -/
def holdsPermit : Stage ν → Bool
  | granted | working _ | reported _ => true
  | waiting | ended _ => false

/-- Is a task at this stage between its two announcements? -/
def isWorking : Stage ν → Bool
  | working _ => true
  | _ => false

/-- Does a task at this stage wait for a permit? -/
def isWaiting : Stage ν → Bool
  | waiting => true
  | _ => false

/-- Is a task at this stage about to announce its start? -/
def isGranted : Stage ν → Bool
  | granted => true
  | _ => false

/-- Is a task at this stage about to give its permit back? -/
def isReported : Stage ν → Bool
  | reported _ => true
  | _ => false

/-- What became of a task at this stage. -/
def outcome? : Stage ν → Option (Outcome ν)
  | reported o | ended o => some o
  | _ => none

end Stage

/-- The tasks of a run, each with its stage, in the order of their selection. -/
structure State (ν : Type) where
  capacity : Nat
  now : Nat
  cancelled : Bool
  tasks : List (Task ν × Stage ν)

/-- Something that may happen. -/
inductive Action where
  | cancel
  | passTime (time : Nat)
  | grant (i : Nat)
  | refuse (i : Nat)
  | start (i : Nat)
  | finish (i : Nat)
  | release (i : Nat)
deriving DecidableEq, Repr

/-- The outcome of a task that was stopped or never started. -/
def cancelledOutcome (t : Task ν) (duration : Nat) : Outcome ν :=
  ⟨t.agent, .error .cancelled, duration⟩

/-- The outcome of a task that has been working since a given time. -/
def workOutcome (t : Task ν) (cancelled : Bool) (duration : Nat) : Outcome ν :=
  match t.work with
  | none => ⟨t.agent, .error t.unregistered, 0⟩
  | some w => if cancelled then cancelledOutcome t duration else ⟨t.agent, t.answer w, duration⟩

/-- The announcement of an outcome. -/
def finishedEvent (o : Outcome ν) : ProgressEvent :=
  let r := match o.result with
    | .ok raw => AnalysisResult.success o.agent o.duration raw.length
    | .error e => AnalysisResult.failure o.agent o.duration e
  .agentFinished o.agent r.status r.durationMs r.rawFindingCount

/-- Is the work of a task, which began at `since`, to end now? -/
def isDue (s : State ν) (t : Task ν) (since : Nat) : Bool :=
  s.cancelled || t.work.all fun w => since + t.span w ≤ s.now

namespace State

/-- The number of permits that are held. -/
def heldPermits (s : State ν) : Nat :=
  s.tasks.countP (·.2.holdsPermit)

/-- The number of agents between their two announcements. -/
def workingAgents (s : State ν) : Nat :=
  s.tasks.countP (·.2.isWorking)

/-- The state with another stage for one task. -/
def setStage (s : State ν) (i : Nat) (stage : Stage ν) : State ν :=
  { s with tasks := s.tasks.modify i fun t => (t.1, stage) }

/-- The state after an action and the announcement it makes; nothing if the action is not possible
now. -/
def apply (s : State ν) : Action → Option (State ν × Option ProgressEvent)
  | .cancel => some ({ s with cancelled := true }, none)
  | .passTime t => if s.now ≤ t then some ({ s with now := t }, none) else none
  | .grant i =>
    match s.tasks[i]? with
    | some (_, .waiting) =>
      if s.heldPermits < s.capacity && !s.cancelled then some (s.setStage i .granted, none) else none
    | _ => none
  | .refuse i =>
    match s.tasks[i]? with
    | some (t, .waiting) =>
      if s.cancelled then some (s.setStage i (.ended (cancelledOutcome t 0)), none) else none
    | _ => none
  | .start i =>
    match s.tasks[i]? with
    | some (t, .granted) => some (s.setStage i (.working s.now), some (.agentStarted t.agent))
    | _ => none
  | .finish i =>
    match s.tasks[i]? with
    | some (t, .working since) =>
      if isDue s t since then
        let o := workOutcome t s.cancelled (s.now - since)
        some (s.setStage i (.reported o), some (finishedEvent o))
      else none
    | _ => none
  | .release i =>
    match s.tasks[i]? with
    | some (_, .reported o) => some (s.setStage i (.ended o), none)
    | _ => none

end State

/-! ## The order of a run -/

/-- The stage at which a task begins; without a registered agent there is nothing to wait for. -/
def initialStage (t : Task ν) : Stage ν :=
  match t.work with
  | none => .ended ⟨t.agent, .error t.unregistered, 0⟩
  | some _ => .waiting

/-- The state in which a dispatch begins. -/
def initial (capacity now : Nat) (tasks : List (Task ν)) : State ν :=
  ⟨capacity, now, false, tasks.map fun t => (t, initialStage t)⟩

/-- The first task whose stage is of some kind. -/
def first? (s : State ν) (p : Task ν → Stage ν → Bool) : Option Nat :=
  s.tasks.findIdx? fun (t, stage) => p t stage

/-- The times at which a working task ends or asks for the run to be cancelled. -/
def moments (t : Task ν) : Stage ν → List Nat
  | .working since =>
    match t.work with
    | none => []
    | some w => (since + t.span w) :: ((t.cancelAfter? w).map (since + ·)).toList
  | _ => []

/-- Has a working task asked for the run to be cancelled by now? -/
def asksCancel (now : Nat) (t : Task ν) : Stage ν → Bool
  | .working since => t.work.any fun w => (t.cancelAfter? w).any fun d => since + d ≤ now
  | _ => false

/-- Is the run to be cancelled now? -/
def cancelIsDue (cancelAt : Option Nat) (wanted : Bool) (s : State ν) : Bool :=
  wanted || cancelAt.any (· ≤ s.now) || s.tasks.any fun (t, stage) => asksCancel s.now t stage

/-- The next time at which something happens by itself. -/
def nextMoment? (cancelAt : Option Nat) (s : State ν) : Option Nat :=
  ((cancelAt.toList ++ s.tasks.flatMap fun (t, stage) => moments t stage).filter (s.now < ·)).min?

/-- Is a task working whose work is to end now? -/
def isEnding (s : State ν) (t : Task ν) : Stage ν → Bool
  | .working since => isDue s t since
  | _ => false

/-- What a waiting task gets, if it gets anything now. -/
def admission? (s : State ν) (i : Nat) : Option Action :=
  if s.cancelled then some (.refuse i)
  else if s.heldPermits < s.capacity then some (.grant i)
  else none

/-- The passing of time up to the next moment, as long as an agent is working. -/
def waiting? (cancelAt : Option Nat) (s : State ν) : Option Action :=
  if s.tasks.any (·.2.isWorking) then (nextMoment? cancelAt s).map Action.passTime else none

/-- The next action: a cancellation that is due comes before everything else, and time passes only
if nothing else is left to do. -/
def next (cancelAt : Option Nat) (wanted : Bool) (s : State ν) : Option Action :=
  if !s.cancelled && cancelIsDue cancelAt wanted s then some .cancel
  else
    (first? s fun _ stage => stage.isReported).map Action.release
      <|> (first? s (isEnding s)).map Action.finish
      <|> (first? s fun _ stage => stage.isGranted).map Action.start
      <|> (first? s fun _ stage => stage.isWaiting).bind (admission? s)
      <|> waiting? cancelAt s

/-- The state after some actions, the announcements, and the world that observed them. -/
structure Progress (σ ν : Type) where
  state : State ν
  messages : List (Message ν)
  world : σ

/-- Carry out actions as long as there are any.  The number bounds them. -/
def proceed (env : Surroundings σ ν) (run : RunId) (cancelAt : Option Nat) :
    Nat → State ν → σ → Progress σ ν
  | 0, s, w => ⟨s, [], w⟩
  | n + 1, s, w =>
    match (next cancelAt (env.wantsCancel w) s).bind s.apply with
    | none => ⟨s, [], w⟩
    | some (s, event) =>
      let ms := (event.bind fun e => e.agent?.map fun a => Message.progress a run e).toList
      let p := proceed env run cancelAt n s (env.observeAll ms w)
      { p with messages := ms ++ p.messages }

/-- A bound for the actions that so many tasks can give rise to. -/
def actionBound (tasks : Nat) : Nat :=
  6 * tasks + 4

/-- What became of each task, the announcements, whether the run was cancelled meanwhile, and the
time and the world afterwards. -/
structure Report (σ ν : Type) where
  outcomes : List (Outcome ν)
  messages : List (Message ν)
  cancelled : Bool
  now : Nat
  world : σ

/-- The outcome of a task whose last stage is known. -/
def outcomeOf (p : Task ν × Stage ν) : Outcome ν :=
  p.2.outcome?.getD (cancelledOutcome p.1 0)

/-- Carry out the tasks of a run. -/
def dispatch (env : Surroundings σ ν) (run : RunId) (capacity : Nat) (cancelAt : Option Nat)
    (now : Nat) (tasks : List (Task ν)) (w : σ) : Report σ ν :=
  let p := proceed env run cancelAt (actionBound tasks.length) (initial capacity now tasks) w
  ⟨p.state.tasks.map outcomeOf, p.messages, p.state.cancelled || env.wantsCancel p.world,
    p.state.now, p.world⟩

/-! ## Laws -/

theorem tasks_setStage (s : State ν) (i : Nat) (stage : Stage ν) :
    (s.setStage i stage).tasks.map (·.1) = s.tasks.map (·.1) := by
  apply List.ext_getElem?
  intro j
  simp only [State.setStage, List.getElem?_map, List.getElem?_modify]
  split <;> cases s.tasks[j]? <;> rfl

theorem tasks_apply {s s' : State ν} {a : Action} {e : Option ProgressEvent}
    (h : s.apply a = some (s', e)) : s'.tasks.map (·.1) = s.tasks.map (·.1) := by
  unfold State.apply at h
  split at h
  · cases h; rfl
  · split at h <;> cases h; rfl
  · split at h <;> (try split at h) <;> cases h; exact tasks_setStage ..
  · split at h <;> (try split at h) <;> cases h; exact tasks_setStage ..
  · split at h <;> cases h; exact tasks_setStage ..
  · split at h <;> (try split at h) <;> cases h; exact tasks_setStage ..
  · split at h <;> cases h; exact tasks_setStage ..

end Dispatch

end Vigil
