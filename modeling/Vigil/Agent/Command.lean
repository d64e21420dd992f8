import Vigil.Agent.Codec
import Vigil.Agent.Descriptor
import Vigil.Finding.Wrapper
import Vigil.Program.Shell.Run
import Vigil.Text.Scan

/-!
# Command agents

A command agent runs a wrapper program on the target and reads raw records from its output.  The
path of the target takes the place of a placeholder in the arguments, or is added as the last one.
-/

namespace Vigil

open Document

/-- How a command agent is configured. -/
structure CommandAgent where
  name : String
  command : String
  args : List String := []
  capabilities : List Capability := []
  cost : CostClass := .free
  speed : SpeedClass := .medium
  languages : List String := []
deriving DecidableEq, Repr, Inhabited

namespace CommandAgent

/-! ## Form -/

/-- The configuration as an object. -/
def toJson (c : CommandAgent) : Json :=
  .object
    [("args", .list (c.args.map Json.Tree.text)),
      ("capabilities", Capability.listToJson c.capabilities),
      ("command", .text c.command), ("cost", .text c.cost.name),
      ("languages", .list (c.languages.map Json.Tree.text)), ("name", .text c.name),
      ("speed", .text c.speed.name)]

/-- The fields of a configuration; only name and command are needed. -/
def fields {δ : Type} [Document δ] : Record δ CommandAgent :=
  CommandAgent.mk
    <$> Record.required "name" Document.text
    <*> Record.required "command" Document.text
    <*> Record.defaulted "args" (listOf Document.text) []
    <*> Record.defaulted "capabilities" (listOf Capability.decoder) []
    <*> Record.defaulted "cost" CostClass.decoder .free
    <*> Record.defaulted "speed" SpeedClass.decoder .medium
    <*> Record.defaulted "languages" (listOf Document.text) []

/-- Read a configuration. -/
def decoder {δ : Type} [Document δ] : Decoder δ CommandAgent := fields.decode "CommandAgentConfig"

/-- The descriptor of the agent. -/
def descriptor (c : CommandAgent) : AgentDescriptor :=
  let d : AgentDescriptor := { name := c.name, cost := c.cost, speed := c.speed }
  let d := c.capabilities.foldl AgentDescriptor.withCapability d
  c.languages.foldl AgentDescriptor.withLanguage d

theorem name_descriptor (c : CommandAgent) : c.descriptor.name = c.name := by
  have hcapability (l : List Capability) (d : AgentDescriptor) :
      (l.foldl AgentDescriptor.withCapability d).name = d.name := by
    induction l generalizing d with
    | nil => rfl
    | cons x l ih => exact ih (d.withCapability x)
  have hlanguage (l : List String) (d : AgentDescriptor) :
      (l.foldl AgentDescriptor.withLanguage d).name = d.name := by
    induction l generalizing d with
    | nil => rfl
    | cons x l ih => exact ih (d.withLanguage x)
  exact (hlanguage _ _).trans (hcapability _ _)

/-- Is the command installed? -/
def isAvailable (c : CommandAgent) (fs : Program.FileSystem) : Bool :=
  fs.hasCommand c.command

/-! ## Arguments -/

/-- What stands for the path of the target. -/
def placeholder : List Char := "\x7btarget\x7d".toList

/-- The text with every placeholder replaced; `skip` characters belong to the last one found. -/
def substitute (target : List Char) : Nat → List Char → List Char
  | _, [] => []
  | skip + 1, _ :: rest => substitute target skip rest
  | 0, c :: rest =>
    if placeholder.isPrefixOf (c :: rest) then
      target ++ substitute target (placeholder.length - 1) rest
    else c :: substitute target 0 rest

/-- The arguments for a target. -/
def arguments (c : CommandAgent) (target : String) : List (List Char) :=
  let args := c.args.map String.toList
  if args.any (Text.occursIn placeholder) then args.map (substitute target.toList 0)
  else args ++ [target.toList]

/-! ## Analysis -/

/-- Start the program of the agent. -/
def start (c : CommandAgent) (fs : Program.FileSystem) (target : String) :
    Except Program.SpawnError Program.Execution :=
  let args := c.arguments target
  if args.any (·.contains '\x00') then .error .zeroByte
  else (fs.resolve c.command).map fun program =>
    Program.Shell.execute fs program c.command args

/-- How an exit code is shown. -/
def exitText (e : Program.Ending) : String :=
  match e.code? with
  | some n => s!"Some({n})"
  | none => "None"

/-- What the agent makes of a finished program: the records of its output, whatever its exit code;
if they cannot be read, the reason, the exit code and the beginning of the error output. -/
def collect (x : Program.Execution) : Except AgentError (List (RawFinding Float)) :=
  match Wrapper.parse (Text.ofBytesLossy x.outputBytes) with
  | .ok records => .ok records
  | .error e =>
    let complaint := (Text.trimChars (Text.ofBytesLossy x.errorBytes).toList).take 300
    .error (.execution
      s!"{e.message} (exit {exitText x.ending}): {String.ofList complaint}")

/-- The result of an analysis that may take at most a number of milliseconds. -/
def analyze (c : CommandAgent) (fs : Program.FileSystem) (target : String) (timeoutMs : Nat) :
    Except AgentError (List (RawFinding Float)) :=
  match c.start fs target with
  | .error e => .error (.execution s!"spawn '{c.command}': {e.message}")
  | .ok x =>
    if timeoutMs * 1000000 ≤ x.duration then .error (.timeout c.name timeoutMs) else collect x

end CommandAgent

/-- Register command agents one after the other.  `make` says what a factory makes of a
configuration. -/
def Registry.registerCommands {α : Type} (r : Registry α) (make : CommandAgent → α)
    (cs : List CommandAgent) : Registry α :=
  cs.foldl (fun r c => r.register c.descriptor fun _ => make c) r

end Vigil
