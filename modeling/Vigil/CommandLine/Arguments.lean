/-!
# Arguments

The arguments name one target and may name a configuration file and a language; the providers may
be switched off.  The first argument that cannot be accepted decides the error, and a request for
help ends the reading.
-/

namespace Vigil.CommandLine

/-- What the arguments ask for. -/
structure Options where
  target : String
  config : Option String := none
  language : Option String := none
  noProviders : Bool := false
deriving DecidableEq, Repr, Inhabited

/-- The options that need a value. -/
inductive ValueOption where
  | config | language
deriving DecidableEq, Repr

/-- What is wrong with some arguments. -/
inductive ArgumentError where
  | missingTarget
  | secondTarget
  | unknownOption (option : String)
  | missingValue (option : ValueOption)
deriving DecidableEq, Repr

/-- The wording of an error. -/
def ArgumentError.message : ArgumentError → String
  | missingTarget => "missing <target>; see --help"
  | secondTarget => "only one target may be given"
  | unknownOption option => s!"unknown option: {option}"
  | missingValue .config => "--config requires a path"
  | missingValue .language => "--language requires a value"

/-- A call of the program. -/
inductive Invocation where
  | help
  | run (options : Options)
deriving DecidableEq, Repr

/-- What has been read of the arguments. -/
structure Draft where
  target : Option String := none
  config : Option String := none
  language : Option String := none
  noProviders : Bool := false
deriving DecidableEq, Repr, Inhabited

/-- What a single argument is. -/
inductive Argument where
  | value (option : ValueOption)
  | noProviders
  | help
  | unknown
  | target
deriving DecidableEq, Repr

/-- Recognise an argument. -/
def classify (argument : String) : Argument :=
  if argument = "--config" ∨ argument = "-c" then .value .config
  else if argument = "--language" ∨ argument = "-l" then .value .language
  else if argument = "--no-ai" then .noProviders
  else if argument = "--help" ∨ argument = "-h" then .help
  else if argument.toList.head? = some '-' then .unknown
  else .target

/-- The draft with the value of an option; the last one given counts. -/
def Draft.set (d : Draft) (value : String) : ValueOption → Draft
  | .config => { d with config := some value }
  | .language => { d with language := some value }

/-- The call that a complete draft makes. -/
def Draft.finish (d : Draft) : Except ArgumentError Invocation :=
  match d.target with
  | none => .error .missingTarget
  | some target => .ok (.run ⟨target, d.config, d.language, d.noProviders⟩)

/-- Read arguments behind a draft. -/
def parseFrom (d : Draft) : List String → Except ArgumentError Invocation
  | [] => d.finish
  | argument :: rest =>
    match classify argument with
    | .value option =>
      match rest with
      | [] => .error (.missingValue option)
      | v :: rest => parseFrom (d.set v option) rest
    | .noProviders => parseFrom { d with noProviders := true } rest
    | .help => .ok .help
    | .unknown => .error (.unknownOption argument)
    | .target =>
      match d.target with
      | some _ => .error .secondTarget
      | none => parseFrom { d with target := some argument } rest

/-- Read the arguments of a call. -/
def parse (arguments : List String) : Except ArgumentError Invocation :=
  parseFrom {} arguments

end Vigil.CommandLine
