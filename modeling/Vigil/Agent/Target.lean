import Vigil.Path
import Vigil.Text.Lowercase

/-!
# Analysis targets

A target is a path and possibly a language.  Without one, the language is inferred from the
extension of the file name.
-/

namespace Vigil

/-- What is to be analysed. -/
structure AnalysisTarget where
  path : String
  language : Option String := none
deriving DecidableEq, Repr, Inhabited

namespace AnalysisTarget

/-- The target with a language, which is put into lower case. -/
def withLanguage (t : AnalysisTarget) (language : String) : AnalysisTarget :=
  { t with language := some (Text.lowercase language) }

/-- The languages of the known extensions. -/
def extensionTable : List (String × String) :=
  [("sol", "solidity"), ("vy", "vyper"), ("rs", "rust"), ("go", "go"), ("py", "python"),
    ("c", "c"), ("h", "c"), ("cpp", "cpp"), ("cc", "cpp"), ("hpp", "cpp"), ("js", "javascript"),
    ("ts", "typescript")]

/-- The language of an extension. -/
def languageOfExtension? (extension : String) : Option String :=
  (extensionTable.find? (·.1 == extension)).map (·.2)

/-- The language of the target: its own, or the one of its extension. -/
def inferLanguage? (t : AnalysisTarget) : Option String :=
  match t.language with
  | some l => some l
  | none =>
    match Path.extension? t.path.toList with
    | none => none
    | some e => languageOfExtension? (Text.lowercase (String.ofList e))

theorem inferLanguage?_withLanguage (t : AnalysisTarget) (l : String) :
    (t.withLanguage l).inferLanguage? = some (Text.lowercase l) := rfl

end AnalysisTarget

end Vigil
