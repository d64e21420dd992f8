import Vigil.Bus.Hub
import Vigil.Triage.Engine

/-!
# The inbox of triage

An inbox gathers the findings that are published for triage until they are asked for.  It holds the
newest ones, up to its capacity, which is at least one.  It is attached to a bus by a subscription,
whose handler does nothing on the bus; what the handler takes in is read off the log of the bus.
-/

namespace Vigil

/-- The findings that wait for triage, oldest first. -/
structure Inbox (ν : Type) where
  capacity : Nat := 10000
  findings : List (Finding ν) := []
deriving Repr

namespace Inbox

variable {σ ν : Type}

/-- An empty inbox. -/
def ofCapacity (n : Nat) : Inbox ν :=
  ⟨max n 1, []⟩

/-- The number of findings that wait. -/
def size (i : Inbox ν) : Nat :=
  i.findings.length

/-- Take in findings; the oldest give way if there are too many. -/
def receive (i : Inbox ν) (batch : List (Finding ν)) : Inbox ν :=
  let all := i.findings ++ batch
  { i with findings := all.drop (all.length - i.capacity) }

/-- Take in what a message carries. -/
def receiveMessage (i : Inbox ν) (m : Message ν) : Inbox ν :=
  match m.payload.findings? with
  | some batch => i.receive batch
  | none => i

/-- Attach an inbox to a bus; the result is its subscription. -/
def attach (b : Bus ν) : Nat × Bus ν :=
  b.subscribe Topic.findingsCorrelated Bus.listening

/-- Take in what the subscriptions of the inbox were handed while a message was published. -/
def collect (i : Inbox ν) (subscriptions : List Nat) (log : List (Bus.Entry ν)) : Inbox ν :=
  (log.filterMap (·.handed? subscriptions)).foldl receiveMessage i

/-- Take out everything. -/
def empty (i : Inbox ν) : Inbox ν :=
  { i with findings := [] }

theorem size_receive_le (i : Inbox ν) (batch : List (Finding ν)) :
    (i.receive batch).size ≤ i.capacity := by
  simp only [size, receive, List.length_drop]
  omega

end Inbox

/-- Triage what waits in an inbox. -/
def TriageEngine.triagePending {σ ν : Type} [Quantity ν] (e : TriageEngine σ ν) (i : Inbox ν)
    (w : σ) : TriageEngine.Outcome σ ν × Inbox ν :=
  (e.triage i.findings w, i.empty)

end Vigil
