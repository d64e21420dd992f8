import Vigil.Agent.Command
import Vigil.CommandLine.Arguments
import Vigil.Config.Sources
import Vigil.Json.Printer
import Vigil.Run.Orchestrator
import Vigil.Triage.Configured

/-!
# The program

A call of the program loads the configuration, discovers the configured agents, carries out one run
and prints it.  What surrounds the call is given as a value: files, among them the installed
programs, environment, network and time.
-/

namespace Vigil.CommandLine

/-- What surrounds a call of the program. -/
structure Host (σ : Type) where
  files : Program.FileSystem
  environment : List (String × String)
  network : Network σ
  /-- The identity that a run gets. -/
  runId : RunId
  /-- The time of the call, in nanoseconds since the beginning of 1970. -/
  now : Nat := 0

/-- What a call prints, and how it ends. -/
structure Response where
  exitCode : Nat
  run : Option (Run Float) := none
  complaint : String := ""

namespace Response

/-- The text that is printed for the result. -/
def output (r : Response) : String :=
  match r.run with
  | none => ""
  | some run => Json.printIndented run.toJson ++ "\n"

/-- A call that failed, with the reason of the failure if there is one. -/
def failure (what : String) (reason : Option String := none) : Response where
  exitCode := 1
  complaint :=
    match reason with
    | none => s!"Error: {what}\n"
    | some why => s!"Error: {what}\n\nCaused by:\n    {why}\n"

end Response

/-- The description of the arguments. -/
def usage : String :=
  "usage: stinger <target> [--config <file>] [--language <lang>] [--no-ai]\n"

/-! ## Command agents at work -/

/-- The numbers of the signals by which a run is cancelled. -/
def cancellingSignals : List Nat := [2, 15]

/-- The work of a command agent on a target. -/
def commandWork (files : Program.FileSystem) (c : CommandAgent) (target : AnalysisTarget) :
    Work Float :=
  match c.start files target.path with
  | .error e => ⟨some 0, .answer (.error (.execution s!"spawn '{c.command}': {e.message}")), none⟩
  | .ok x =>
    ⟨some x.duration, .answer (CommandAgent.collect x),
      (x.signals.find? fun s => cancellingSignals.contains s.2).map (·.1)⟩

/-- The registry of the configured agents, after discovery. -/
def discovered (files : Program.FileSystem) (agents : List CommandAgent) :
    Registry CommandAgent :=
  let registered := ({} : Registry CommandAgent).registerCommands id agents
  (registered.discover CommandAgent.descriptor (·.isAvailable files)).1

variable {σ : Type}

/-- The value of a variable. -/
def Host.variable? (h : Host σ) (name : String) : Option String :=
  Json.lookup name h.environment

/-- The configuration as the options change it. -/
def configured (o : Options) (s : Settings) : Settings :=
  { s with triage := { s.triage with aiEnabled := s.triage.aiEnabled && !o.noProviders } }

/-- The pipeline that is configured. -/
def orchestrator (h : Host σ) (s : Settings) : Orchestrator CommandAgent σ Float where
  registry := discovered h.files s.agents
  config := s.orchestrator
  correlation := if s.correlation.enabled then some s.correlation.parameters else none
  triage := some (TriageEngine.ofConfig s.triage h.variable? h.network)
  work := commandWork h.files

/-- The target that the options name. -/
def targetOf (o : Options) : AnalysisTarget :=
  let t : AnalysisTarget := { path := o.target }
  (o.language.map t.withLanguage).getD t

/-- Carry out the run that the options ask for. -/
def perform (h : Host σ) (o : Options) (w : σ) : Response :=
  match Config.load h.files o.config h.environment with
  | .error _ => .failure "Failed to load config"
  | .ok s =>
    let s := configured o s
    let (finished, _) :=
      (orchestrator h s).run {} { id := h.runId, start := h.now } (targetOf o) s.selection w
    match finished.answer with
    | .error e => .failure "Run failed" (some e.message)
    | .ok run => { exitCode := 0, run := some run }

/-- Answer a call. -/
def call (h : Host σ) (arguments : List String) (w : σ) : Response :=
  match parse arguments with
  | .error e => .failure e.message
  | .ok .help => { exitCode := 0, complaint := usage }
  | .ok (.run o) => perform h o w

end Vigil.CommandLine
