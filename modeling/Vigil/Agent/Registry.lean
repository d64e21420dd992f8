import Vigil.Agent.Descriptor
import Vigil.Agent.Target

/-!
# The agent registry

The registry keeps, under each name, a descriptor and a factory of agents.  Discovery runs every
factory, asks the new agent whether it is available, and keeps it for later use.  The agents ever
built are recorded in order, so that two uses of one agent can be told from two agents.
-/

namespace Vigil

/-- An agent that a factory has built; the serial number is its place among all agents built. -/
structure Instance (α : Type) where
  agent : α
  serial : Nat
deriving DecidableEq, Repr

/-- What the registry keeps under a name.  The factory gives an agent for each serial number. -/
structure RegistryEntry (α : Type) where
  descriptor : AgentDescriptor
  factory : Nat → α
  instance? : Option (Instance α) := none

/-- The registered agents by name, and all agents built so far, oldest first. -/
structure Registry (α : Type) where
  entries : List (String × RegistryEntry α) := []
  built : List α := []

instance {α : Type} : Inhabited (Registry α) := ⟨{}⟩

/-- The names found available and unavailable, each in ascending order. -/
structure DiscoveryReport where
  available : List String
  unavailable : List String
deriving DecidableEq, Repr

namespace Registry

variable {α : Type}

/-- The entry of a name. -/
def find? (name : String) : List (String × RegistryEntry α) → Option (RegistryEntry α)
  | [] => none
  | (n, e) :: rest => if n = name then some e else find? name rest

/-- Set the entry of a name; a new name comes last. -/
def set (name : String) (e : RegistryEntry α) :
    List (String × RegistryEntry α) → List (String × RegistryEntry α)
  | [] => [(name, e)]
  | (n, old) :: rest => if n = name then (n, e) :: rest else (n, old) :: set name e rest

/-- Register a factory under the name of a descriptor, in place of what was there. -/
def register (r : Registry α) (d : AgentDescriptor) (factory : Nat → α) : Registry α :=
  { r with entries := set d.name { descriptor := d, factory } r.entries }

/-- Register one agent that every use shares. -/
def registerAgent (r : Registry α) (describe : α → AgentDescriptor) (agent : α) : Registry α :=
  r.register (describe agent) fun _ => agent

/-- What discovery makes of an entry, if its factory's next agent has this serial number. -/
def probeEntry (describe : α → AgentDescriptor) (isAvailable : α → Bool) (serial : Nat)
    (name : String) (e : RegistryEntry α) : RegistryEntry α :=
  let agent := e.factory serial
  { e with
    descriptor := { describe agent with name := name, available := isAvailable agent }
    instance? := some ⟨agent, serial⟩ }

/-- Probe all entries; the first one's agent has the given serial number. -/
def probeAll (describe : α → AgentDescriptor) (isAvailable : α → Bool) (serial : Nat) :
    List (String × RegistryEntry α) → List (String × RegistryEntry α)
  | [] => []
  | (n, e) :: rest =>
    (n, probeEntry describe isAvailable serial n e) ::
      probeAll describe isAvailable (serial + 1) rest

/-- The names of some entries in ascending order. -/
def sortedNames (entries : List (String × RegistryEntry α)) : List String :=
  (entries.map (·.1)).mergeSort fun a b => !decide (b < a)

/-- Build an agent for every entry and ask it whether it is available. -/
def discover (r : Registry α) (describe : α → AgentDescriptor) (isAvailable : α → Bool) :
    Registry α × DiscoveryReport :=
  let entries := probeAll describe isAvailable r.built.length r.entries
  let agents := entries.filterMap fun e => e.2.instance?.map (·.agent)
  (⟨entries, r.built ++ agents⟩,
    ⟨sortedNames (entries.filter (·.2.descriptor.available)),
      sortedNames (entries.filter (!·.2.descriptor.available))⟩)

/-- The descriptors that meet the conditions, the faster first, then by name. -/
def filter (r : Registry α) (f : AgentFilter) : List AgentDescriptor :=
  ((r.entries.map (·.2.descriptor)).filter f.accepts).mergeSort AgentDescriptor.listedBefore

/-- The descriptor under a name. -/
def get? (r : Registry α) (name : String) : Option AgentDescriptor :=
  (find? name r.entries).map (·.descriptor)

/-- An agent of a name: the one built by discovery, or else a new one. -/
def instantiate (r : Registry α) (name : String) : Option (Instance α) × Registry α :=
  match find? name r.entries with
  | none => (none, r)
  | some e =>
    match e.instance? with
    | some i => (some i, r)
    | none =>
      let agent := e.factory r.built.length
      (some ⟨agent, r.built.length⟩, { r with built := r.built ++ [agent] })

/-- The registered names in ascending order. -/
def names (r : Registry α) : List String :=
  sortedNames r.entries

/-- The number of registered names. -/
def size (r : Registry α) : Nat :=
  r.entries.length

/-- Is nothing registered? -/
def isEmpty (r : Registry α) : Bool :=
  r.entries.isEmpty

/-! ## Laws -/

theorem find?_set_self (name : String) (e : RegistryEntry α) (l : List (String × RegistryEntry α)) :
    find? name (set name e l) = some e := by
  induction l with
  | nil => simp [set, find?]
  | cons m rest ih =>
    obtain ⟨n, old⟩ := m
    simp only [set]
    split
    · rename_i h; simp [find?, h]
    · rename_i h; simp [find?, h, ih]

theorem find?_set_of_ne {name other : String} (h : other ≠ name) (e : RegistryEntry α)
    (l : List (String × RegistryEntry α)) : find? other (set name e l) = find? other l := by
  induction l with
  | nil => simp [set, find?, Ne.symm h]
  | cons m rest ih =>
    obtain ⟨n, old⟩ := m
    simp only [set]
    split
    · rename_i hn
      subst hn
      simp [find?, Ne.symm h]
    · by_cases ho : n = other <;> simp [find?, ho, ih]

theorem length_probeAll (describe : α → AgentDescriptor) (isAvailable : α → Bool) (serial : Nat)
    (l : List (String × RegistryEntry α)) :
    (probeAll describe isAvailable serial l).length = l.length := by
  induction l generalizing serial with
  | nil => rfl
  | cons m rest ih => simp [probeAll, ih]

end Registry

/-!
## Selecting agents for a target

The criteria of a run become a filter; what they leave open is taken from the target.  Of the
available agents at most a given number is selected, the unavailable ones are all reported.
-/

/-- Which agents a run wants. -/
structure SelectionCriteria where
  capabilities : List Capability := []
  maxCost : Option CostClass := none
  timeBudgetSecs : Option UInt64 := none
  language : Option String := none
  maxAgents : Option UInt64 := none
deriving DecidableEq, Repr, Inhabited

/-- The conditions that the criteria put on an agent for a target.  A language of the criteria
overrides that of the target. -/
def SelectionCriteria.filterFor (c : SelectionCriteria) (t : AnalysisTarget) : AgentFilter where
  language := c.language <|> t.inferLanguage?
  capabilities := c.capabilities
  maxCost := c.maxCost
  maxSpeed := c.timeBudgetSecs.map fun s => SpeedClass.ceilingFor (s.toNat * 1000000000)
  availableOnly := false

/-- The agents to run, and those that would have been if they were available. -/
structure Selection where
  agents : List AgentDescriptor
  unavailable : List AgentDescriptor
deriving DecidableEq, Repr

/-- Select the agents for a target. -/
def Registry.select {α : Type} (r : Registry α) (t : AnalysisTarget) (c : SelectionCriteria) :
    Selection :=
  let matching := r.filter (c.filterFor t)
  let agents := matching.filter (·.available)
  ⟨match c.maxAgents with
    | none => agents
    | some n => agents.take n.toNat,
    matching.filter (!·.available)⟩

end Vigil
