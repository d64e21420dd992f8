import Vigil.Pattern.CharSet
import Vigil.Text.CategorySpans
import Vigil.Text.Char

/-!
# The characters that patterns know

Patterns know the edition of the set of all characters before the latest one.  What the latest
edition added is unassigned here; and one letter, which is without case since, is still a small
letter.
-/

namespace Vigil.Pattern

open Text (Category Span)

/-- The characters that patterns do not know yet. -/
def latest : CharSet := .ofSpans Text.Spans.latest

/-- The known characters of some spans. -/
def known (l : List Span) : CharSet :=
  (CharSet.ofSpans l).difference latest

/-- The small letter that has lost its case since. -/
def formerSmallLetter : CharSet := .span 0x295 0x295

/-- The characters of an assigned category. -/
def assignedCategory (k : Category) : CharSet :=
  match k with
  | .lowercaseLetter => (known k.spans).union formerSmallLetter
  | .otherLetter => (known k.spans).difference formerSmallLetter
  | _ => known k.spans

/-- The characters of some assigned categories. -/
def categories (ks : List Category) : CharSet :=
  .unionAll (ks.map assignedCategory)

/-- The code points without a character. -/
def unassigned : CharSet :=
  ((categories Category.assigned).union (.span 0xd800 0xdfff)).complement

/-- White space. -/
def blank : CharSet := .ofSpans Text.blankSpans

/-- Decimal digits. -/
def digit : CharSet := assignedCategory .decimalNumber

/-- Small letters, and what counts as such. -/
def lowercase : CharSet :=
  (assignedCategory .lowercaseLetter).union (known Text.Spans.otherLowercase)

/-- Capital letters, and what counts as such. -/
def uppercase : CharSet :=
  (assignedCategory .uppercaseLetter).union (known Text.Spans.otherUppercase)

/-- Letters, numbers written as letters, and what counts as such. -/
def alphabetic : CharSet :=
  .unionAll [lowercase, uppercase,
    categories [.titlecaseLetter, .modifierLetter, .otherLetter, .letterNumber],
    known Text.Spans.otherAlphabetic]

/-- Word characters: alphabetic characters, marks, decimal digits, joining punctuation and the two
invisible joiners. -/
def word : CharSet :=
  .unionAll [alphabetic, categories [.nonspacingMark, .spacingMark, .enclosingMark], digit,
    assignedCategory .connectorPunctuation, .span 0x200c 0x200d]

/-- Is the character a word character? -/
def isWordChar (c : Char) : Bool :=
  if c.toNat < 128 then c.isAlphanum || c == '_' else word.holds c.toNat

/-!
## Sets named in patterns

The sets of the basic range that brackets name, such as `[:alpha:]`, and those that a letter behind
a backslash names, such as `\d`.
-/

/-- The ranges of a set of the basic range, by its name. -/
def basicRanges? (name : String) : Option (List CodeRange) :=
  match name with
  | "alnum" => some [(48, 57), (65, 90), (97, 122)]
  | "alpha" => some [(65, 90), (97, 122)]
  | "ascii" => some [(0, 127)]
  | "blank" => some [(9, 9), (32, 32)]
  | "cntrl" => some [(0, 31), (127, 127)]
  | "digit" => some [(48, 57)]
  | "graph" => some [(33, 126)]
  | "lower" => some [(97, 122)]
  | "print" => some [(32, 126)]
  | "punct" => some [(33, 47), (58, 64), (91, 96), (123, 126)]
  | "space" => some [(9, 13), (32, 32)]
  | "upper" => some [(65, 90)]
  | "word" => some [(48, 57), (65, 90), (95, 95), (97, 122)]
  | "xdigit" => some [(48, 57), (65, 70), (97, 102)]
  | _ => none

/-- A set of the basic range by its name. -/
def basicSet? (name : List Char) : Option CharSet :=
  (basicRanges? (String.ofList name)).map CharSet.mk

/-- The digits, blanks or word characters of a small letter, in every script or in the basic
range. -/
def letterSet? (everyScript : Bool) (c : Char) : Option CharSet :=
  match c, everyScript with
  | 'd', true => some digit
  | 's', true => some blank
  | 'w', true => some word
  | 'd', false => some ⟨[(48, 57)]⟩
  | 's', false => some ⟨[(9, 13), (32, 32)]⟩
  | 'w', false => some ⟨[(48, 57), (65, 90), (95, 95), (97, 122)]⟩
  | _, _ => none

end Vigil.Pattern
