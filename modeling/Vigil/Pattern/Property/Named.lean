import Vigil.Pattern.Property.Break
import Vigil.Pattern.Property.Edition
import Vigil.Pattern.Property.Shared

/-!
# Sets of characters by their names

A pattern names a set by a category, a script or a property, or by a property and its value.  Names
are compared without regard to the case of the plain letters, blanks, hyphens and low lines.
-/

namespace Vigil.Pattern.Property

open Text (Category)

/-! ## Categories -/

/-- The categories by their short and long names. -/
def categoryNames : List (List String × List Category) :=
  [(["l", "letter"], [.uppercaseLetter, .lowercaseLetter, .titlecaseLetter, .modifierLetter,
      .otherLetter]),
    (["lc", "casedletter"], [.uppercaseLetter, .lowercaseLetter, .titlecaseLetter]),
    (["lu", "uppercaseletter"], [.uppercaseLetter]),
    (["ll", "lowercaseletter"], [.lowercaseLetter]),
    (["lt", "titlecaseletter"], [.titlecaseLetter]),
    (["lm", "modifierletter"], [.modifierLetter]),
    (["lo", "otherletter"], [.otherLetter]),
    (["m", "mark", "combiningmark"], [.nonspacingMark, .spacingMark, .enclosingMark]),
    (["mn", "nonspacingmark"], [.nonspacingMark]),
    (["mc", "spacingmark"], [.spacingMark]),
    (["me", "enclosingmark"], [.enclosingMark]),
    (["n", "number"], [.decimalNumber, .letterNumber, .otherNumber]),
    (["nd", "decimalnumber", "digit"], [.decimalNumber]),
    (["nl", "letternumber"], [.letterNumber]),
    (["no", "othernumber"], [.otherNumber]),
    (["p", "punctuation", "punct"], [.connectorPunctuation, .dashPunctuation, .openPunctuation,
      .closePunctuation, .initialPunctuation, .finalPunctuation, .otherPunctuation]),
    (["pc", "connectorpunctuation"], [.connectorPunctuation]),
    (["pd", "dashpunctuation"], [.dashPunctuation]),
    (["ps", "openpunctuation"], [.openPunctuation]),
    (["pe", "closepunctuation"], [.closePunctuation]),
    (["pi", "initialpunctuation"], [.initialPunctuation]),
    (["pf", "finalpunctuation"], [.finalPunctuation]),
    (["po", "otherpunctuation"], [.otherPunctuation]),
    (["s", "symbol"], [.mathSymbol, .currencySymbol, .modifierSymbol, .otherSymbol]),
    (["sm", "mathsymbol"], [.mathSymbol]),
    (["sc", "currencysymbol"], [.currencySymbol]),
    (["sk", "modifiersymbol"], [.modifierSymbol]),
    (["so", "othersymbol"], [.otherSymbol]),
    (["z", "separator"], [.spaceSeparator, .lineSeparator, .paragraphSeparator]),
    (["zs", "spaceseparator"], [.spaceSeparator]),
    (["zl", "lineseparator"], [.lineSeparator]),
    (["zp", "paragraphseparator"], [.paragraphSeparator]),
    (["c", "other"], [.control, .format, .privateUse, .surrogate, .unassigned]),
    (["cc", "control", "cntrl"], [.control]),
    (["cf", "format"], [.format]),
    (["co", "privateuse"], [.privateUse]),
    (["cn", "unassigned"], [.unassigned])]

/-- The characters of some categories, which may be the one without characters. -/
def categorySet (ks : List Category) : CharSet :=
  (categories (ks.filter (· != .unassigned))).union
    (if ks.contains .unassigned then unassigned else .empty)

/-- The set of a category by its name, or one of three sets that go with the categories. -/
def category? (name : String) : Option CharSet :=
  match name with
  | "any" => some .full
  | "assigned" => some unassigned.complement
  | "ascii" => some (.span 0 127)
  | _ => (categoryNames.find? (·.1.contains name)).map fun c => categorySet c.2

/-! ## Scripts and editions -/

/-- The script with a name. -/
def script? (name : String) : Option Script :=
  Script.all.find? (·.names.contains name)

/-- The characters that a script uses: its own except those with a list of scripts, and those in
whose list it stands. -/
def usedBy (s : Script) : CharSet :=
  let listed := CharSet.ofSpans (Script.shared.map fun x => (x.1, x.2.1, 1))
  let uses := Script.shared.filter fun x => s.names.any x.2.2.contains
  ((CharSet.ofSpans s.spans).difference listed).union
    (.ofSpans (uses.map fun x => (x.1, x.2.1, 1)))

/-- The names of an edition: its numbers with a point between, or written together behind a `v`. -/
def editionNames (e : Edition) : List String :=
  [s!"{e.major}.{e.minor}", s!"v{e.major}{e.minor}"]

/-- The characters of the edition with a name, and of those before it. -/
def age? (name : String) : Option CharSet :=
  let before := Edition.all.takeWhile fun e => !(editionNames e).contains name
  (Edition.all[before.length]?).map fun e =>
    .unionAll ((before ++ [e]).map fun e => .ofSpans e.added)

/-! ## Names -/

/-- The form in which names are compared. -/
def normalName (name : List Char) : String :=
  let skips (s : List Char) : List Char :=
    (s.filter fun c => !(c == ' ' || c == '_' || c == '-') && c.toNat < 128).map Char.toLower
  match name with
  | i :: s :: rest =>
    if (i == 'i' || i == 'I') && (s == 's' || s == 'S') then
      let short := skips rest
      if short == ['c'] then "isc" else String.ofList short
    else String.ofList (skips name)
  | _ => String.ofList (skips name)

/-- Look a name up in a table. -/
def lookUp (table : List (List String × (Unit → CharSet))) (name : String) : Option CharSet :=
  (table.find? (·.1.contains name)).map fun x => x.2 ()

/-- The set with a name: a property, a category or a script. -/
def named? (name : List Char) : Option CharSet :=
  let key := normalName name
  match lookUp binaries key with
  | some s => some s
  | none =>
    match category? key with
    | some s => some s
    | none => (script? key).map fun s => .ofSpans s.spans

/-- The set with the given property and value. -/
def valued? (property value : List Char) : Option CharSet :=
  let key := normalName value
  match normalName property with
  | "gc" | "generalcategory" => category? key
  | "sc" | "script" => (script? key).map fun s => .ofSpans s.spans
  | "scx" | "scriptextensions" => (script? key).map usedBy
  | "age" => age? key
  | "gcb" | "graphemeclusterbreak" => lookUp graphemeBreaks key
  | "wb" | "wordbreak" => lookUp wordBreaks key
  | "sb" | "sentencebreak" => lookUp sentenceBreaks key
  | _ => none

end Vigil.Pattern.Property
