import Vigil.Config.Merge
import Vigil.Config.Setting
import Vigil.Config.Settings
import Vigil.Ini.Reader
import Vigil.Json.Parser
import Vigil.Json5.Reader
import Vigil.Path
import Vigil.Program.FileSystem
import Vigil.Ron.Reader
import Vigil.Toml.Parser
import Vigil.Yaml.Document

/-!
# Where the configuration comes from

The configuration is read from a default file, if there is one, from a given file, and from
variables of the environment; later sources override earlier ones.  The format of a
file is told by the ending of its name; a document of any format is read as the members of an
object.
-/

namespace Vigil.Config

/-! ## Formats -/

/-- The formats of files. -/
inductive Format where
  | toml | json | yaml | ini | ron | json5
deriving DecidableEq, Repr

namespace Format

/-- The formats with the endings of their files. -/
def table : List (String × Format) :=
  [("toml", toml), ("json", json), ("yaml", yaml), ("yml", yaml), ("ini", ini), ("ron", ron),
    ("json5", json5)]

/-- The format of a file by the ending of its name. -/
def ofPath? (path : List Char) : Option Format :=
  (Path.extension? path).bind fun e => Json.lookup (String.ofList e) table

/-- How the numbers of a JSON document are read: a whole number that is too large for 64 bits with a
sign is a double. -/
def jsonReading : Json.Reading Json.Number where
  number numeral := numeral.value.map fun x =>
    match x with
    | .whole n => if Decimal.isSigned64 n then .whole n else .real (Float.ofInt n)
    | .real x => .real x

/-- The text without the mark of its byte order. -/
def unmarked (text : String) : String :=
  match text.toList with
  | '\ufeff' :: rest => String.ofList rest
  | _ => text

/-- The members of a document in some format. -/
def read? (f : Format) (text : String) : Option (List (String × Json)) :=
  let text := unmarked text
  match f with
  | toml => (Toml.parse? text).map membersOf
  | json =>
    match (Json.parseTree jsonReading text.toList).map Json.Tree.tidy with
    | .ok (.object members) => some members
    | _ => none
  | yaml => Yaml.parse? text
  | ini => Ini.parse? text
  | ron => Ron.parse? text
  | json5 => Json5.parse? text

end Format

/-! ## Failures -/

/-- Why there is no configuration. -/
inductive ConfigError where
  /-- A file is missing, or of unknown format. -/
  | source
  /-- A file is malformed. -/
  | syntaxError
  /-- A setting is not acceptable. -/
  | value (error : Document.Error)
deriving DecidableEq, Repr

/-! ## Files -/

open Program (FileSystem)

/-- The file that a path means, with its format: the file itself, or else one whose name has an
ending added. -/
def find? (files : FileSystem) (path : String) : Option (String × Format) :=
  let path := files.absolute path.toList
  match files.text? path with
  | some text => (Format.ofPath? path).map fun f => (text, f)
  | none =>
    Format.table.findSome? fun (ending, f) =>
      (Path.withEnding? path ending.toList).bind fun p => (files.text? p).map fun text => (text, f)

/-- The members of the file that a path means. -/
def readFile (files : FileSystem) (path : String) : Except ConfigError (List (String × Json)) :=
  match find? files path with
  | none => .error .source
  | some (text, f) =>
    match f.read? text with
    | none => .error .syntaxError
    | some members => .ok members

/-- Where a default file may be. -/
def defaultPaths : List String := ["config/default", "../config/default"]

/-- The members of the default file.  The place is the first one where something is called as the
file should be; if it is not a file of known format, there are no members. -/
def readDefault (files : FileSystem) : Except ConfigError (List (String × Json)) :=
  match defaultPaths.find? fun p => files.leadsSomewhere (p ++ ".toml").toList with
  | none => .ok []
  | some path =>
    match readFile files path with
    | .error .source => .ok []
    | r => r

/-! ## The environment -/

/-- How the names of variables begin. -/
def variablePrefix : List Char := "stinger__".toList

/-- The text with every pair of underscores replaced by a point. -/
def pointed : List Char → List Char
  | '_' :: '_' :: rest => '.' :: pointed rest
  | c :: rest => c :: pointed rest
  | [] => []

/-- The key that a variable sets, if it sets one. -/
def variableKey? (name : String) : Option String :=
  let cs := Text.lowerChars name.toList
  if variablePrefix.isPrefixOf cs then
    some (String.ofList (pointed (cs.drop variablePrefix.length)))
  else none

/-- The value of a variable: a truth value or a number, if its text denotes one. -/
def variableValue (text : String) : Json :=
  match Text.lowercase text with
  | "true" => .bool true
  | "false" => .bool false
  | _ =>
    match (Decimal.readInt? text.toList).filter Decimal.isSigned64 with
    | some n => .number (.whole n)
    | none =>
      match Decimal.readFloat? text.toList with
      | some x => .number (.real x)
      | none => .text text

/-- The members that the environment sets. -/
def environmentMembers (environment : List (String × String)) : List (String × Json) :=
  environment.filterMap fun (name, text) =>
    (variableKey? name).map fun key => (key, variableValue text)

/-! ## Loading -/

/-- The merged settings of all sources. -/
def gather (files : FileSystem) (path : Option String) (environment : List (String × String)) :
    Except ConfigError Json := do
  let defaults ← readDefault files
  let given ←
    match path with
    | none => .ok []
    | some p => readFile files p
  .ok <| mergeSource (environmentMembers environment) <| mergeSource given <|
    mergeSource defaults (.object [])

/-- Load the configuration. -/
def load (files : FileSystem) (path : Option String) (environment : List (String × String)) :
    Except ConfigError Settings := do
  let json ← gather files path environment
  match Settings.decoder (Setting.mk json) with
  | .ok s => .ok s
  | .error e => .error (.value e)

end Vigil.Config
