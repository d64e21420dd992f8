import Vigil.Text.CategorySpans
import Vigil.Text.LetterSpans

/-!
# Character classes

The classes of characters that the rest of the library asks about: blanks, letters and numbers,
cased letters and the characters that quoting shows by number.
-/

namespace Vigil.Text

/-! ## General categories -/

/-- The general category of a character. -/
inductive Category where
  | uppercaseLetter | lowercaseLetter | titlecaseLetter | modifierLetter | otherLetter
  | nonspacingMark | spacingMark | enclosingMark
  | decimalNumber | letterNumber | otherNumber
  | connectorPunctuation | dashPunctuation | openPunctuation | closePunctuation
  | initialPunctuation | finalPunctuation | otherPunctuation
  | mathSymbol | currencySymbol | modifierSymbol | otherSymbol
  | spaceSeparator | lineSeparator | paragraphSeparator
  | control | format | privateUse | surrogate | unassigned
deriving DecidableEq, Repr

namespace Category

/-- The categories with characters of their own, the frequent ones first. -/
def assigned : List Category :=
  [lowercaseLetter, uppercaseLetter, otherPunctuation, decimalNumber, spaceSeparator, control,
    otherLetter, nonspacingMark, spacingMark, otherSymbol, mathSymbol, dashPunctuation,
    openPunctuation, closePunctuation, connectorPunctuation, titlecaseLetter, modifierLetter,
    enclosingMark, letterNumber, otherNumber, initialPunctuation, finalPunctuation,
    currencySymbol, modifierSymbol, lineSeparator, paragraphSeparator, format, privateUse]

/-- The code points of an assigned category. -/
def spans : Category → List Span
  | uppercaseLetter => Spans.uppercaseLetter
  | lowercaseLetter => Spans.lowercaseLetter
  | titlecaseLetter => Spans.titlecaseLetter
  | modifierLetter => Spans.modifierLetter
  | otherLetter => Spans.otherLetter
  | nonspacingMark => Spans.nonspacingMark
  | spacingMark => Spans.spacingMark
  | enclosingMark => Spans.enclosingMark
  | decimalNumber => Spans.decimalNumber
  | letterNumber => Spans.letterNumber
  | otherNumber => Spans.otherNumber
  | connectorPunctuation => Spans.connectorPunctuation
  | dashPunctuation => Spans.dashPunctuation
  | openPunctuation => Spans.openPunctuation
  | closePunctuation => Spans.closePunctuation
  | initialPunctuation => Spans.initialPunctuation
  | finalPunctuation => Spans.finalPunctuation
  | otherPunctuation => Spans.otherPunctuation
  | mathSymbol => Spans.mathSymbol
  | currencySymbol => Spans.currencySymbol
  | modifierSymbol => Spans.modifierSymbol
  | otherSymbol => Spans.otherSymbol
  | spaceSeparator => Spans.spaceSeparator
  | lineSeparator => Spans.lineSeparator
  | paragraphSeparator => Spans.paragraphSeparator
  | control => Spans.control
  | format => Spans.format
  | privateUse => Spans.privateUse
  | surrogate => [(0xd800, 0xdfff, 1)]
  | unassigned => []

/-- The category of a character: the one whose spans hold it. -/
def of (c : Char) : Category :=
  (assigned.find? fun k => inSpans k.spans c.toNat).getD unassigned

/-- Letters of any kind. -/
def isLetter : Category → Bool
  | uppercaseLetter | lowercaseLetter | titlecaseLetter | modifierLetter | otherLetter => true
  | _ => false

/-- Marks of any kind. -/
def isMark : Category → Bool
  | nonspacingMark | spacingMark | enclosingMark => true
  | _ => false

end Category

/-! ## Blanks -/

/-- The code points of white space. -/
def blankSpans : List Span :=
  [(0x9, 0xd, 1), (0x20, 0x20, 1), (0x85, 0x85, 1), (0xa0, 0xa0, 1), (0x1680, 0x1680, 1),
   (0x2000, 0x200a, 1), (0x2028, 0x2029, 1), (0x202f, 0x202f, 1), (0x205f, 0x205f, 1),
   (0x3000, 0x3000, 1)]

/-- White space, in every script. -/
def isBlank (c : Char) : Bool :=
  inSpans blankSpans c.toNat

/-- White space of plain text is white space here. -/
theorem isBlank_of_isWhitespace {c : Char} (h : c.isWhitespace = true) : isBlank c = true := by
  simp only [Char.isWhitespace, Bool.or_eq_true, decide_eq_true_eq] at h
  rcases h with ((rfl | rfl) | rfl) | rfl <;> decide

/-! ## Letters and numbers -/

/-- Letters, numbers written as letters, and the marks and signs that count as letters. -/
def isAlphabetic (c : Char) : Bool :=
  if c.toNat < 128 then c.isAlpha
  else
    let k := Category.of c
    k.isLetter || k == .letterNumber || inSpans Spans.otherAlphabetic c.toNat

/-- Digits and numbers of every kind. -/
def isNumeric (c : Char) : Bool :=
  if c.toNat < 128 then c.isDigit
  else
    match Category.of c with
    | .decimalNumber | .letterNumber | .otherNumber => true
    | _ => false

/-- Alphabetic characters and numbers. -/
def isAlphanumeric (c : Char) : Bool :=
  isAlphabetic c || isNumeric c

/-! ## Case -/

/-- Characters with a case. -/
def isCased (c : Char) : Bool :=
  match Category.of c with
  | .uppercaseLetter | .lowercaseLetter | .titlecaseLetter => true
  | _ => inSpans Spans.otherLowercase c.toNat || inSpans Spans.otherUppercase c.toNat

/-- Characters that case mapping looks across when it asks for a neighbouring letter. -/
def isCaseIgnorable (c : Char) : Bool :=
  match Category.of c with
  | .nonspacingMark | .enclosingMark | .format | .modifierLetter | .modifierSymbol => true
  | _ => inSpans Spans.otherCaseIgnorable c.toNat

/-! ## Characters shown by number -/

/-- Does the character join the one before it?  Letters that extend the one before them still stand
for themselves. -/
def isJoining (c : Char) : Bool :=
  match Category.of c with
  | .nonspacingMark | .enclosingMark => true
  | .modifierLetter => false
  | _ => inSpans Spans.otherExtending c.toNat

/-- Letters without a shape, which only fill a place. -/
def isFiller (c : Char) : Bool :=
  inSpans [(0x115f, 0x1160, 1), (0x3164, 0x3164, 1), (0xffa0, 0xffa0, 1)] c.toNat

/-- Is the character visible by itself?  Separators other than the space, controls, format
characters, private use and unassigned code points are not. -/
def isVisible (c : Char) : Bool :=
  if c.toNat < 128 then 32 ≤ c.toNat && c.toNat < 127
  else
    match Category.of c with
    | .spaceSeparator | .lineSeparator | .paragraphSeparator | .control | .format | .privateUse
    | .surrogate | .unassigned => false
    | _ => !isFiller c

/-!
## Quoted text

`quoted` shows a text between double quotes so that every character can be told: quotes,
backslashes and line ends are escaped, and what would not be visible is shown by number.
-/

/-- The digits of a number in base sixteen, in small letters. -/
def hexDigits (n : Nat) : List Char :=
  Nat.toDigits 16 n

/-- One character inside quotes. -/
def quotedChar (c : Char) : List Char :=
  if c == '\x00' then ['\\', '0']
  else if c == '\t' then ['\\', 't']
  else if c == '\r' then ['\\', 'r']
  else if c == '\n' then ['\\', 'n']
  else if c == '"' then ['\\', '"']
  else if c == '\\' then ['\\', '\\']
  else if isJoining c || !isVisible c then
    ['\\', 'u', '\x7b'] ++ hexDigits c.toNat ++ ['\x7d']
  else [c]

/-- The text between double quotes, with escapes. -/
def quoted (s : String) : String :=
  String.ofList (['"'] ++ s.toList.flatMap quotedChar ++ ['"'])

end Vigil.Text
