import Vigil.Pattern.Property.Spans
import Vigil.Pattern.Repertoire

/-!
# Properties that a character has or has not

Most of them are given by their spans.  The others are put together from the general category, from
the letter properties and from each other.
-/

namespace Vigil.Pattern.Property

open Text (Category)

/-- Mathematical characters. -/
def math : CharSet :=
  (assignedCategory .mathSymbol).union (.ofSpans PropertySpans.otherMath)

/-- Characters with a case. -/
def cased : CharSet :=
  .unionAll [lowercase, uppercase, assignedCategory .titlecaseLetter]

/-- Characters that case mapping passes over. -/
def caseIgnorable : CharSet :=
  (categories [.nonspacingMark, .enclosingMark, .format, .modifierLetter, .modifierSymbol]).union
    (known Text.Spans.otherCaseIgnorable)

/-- Characters kept for patterns, which belong to no identifier. -/
def patternSyntax : CharSet := .ofSpans PropertySpans.patternSyntax

/-- White space of patterns, which belongs to no identifier. -/
def patternBlank : CharSet := .ofSpans PropertySpans.patternWhiteSpace

/-- Characters with which identifiers begin. -/
def idStart : CharSet :=
  (((categories [.uppercaseLetter, .lowercaseLetter, .titlecaseLetter, .modifierLetter,
    .otherLetter, .letterNumber]).union (.ofSpans PropertySpans.otherIdStart)).difference
    patternSyntax).difference patternBlank

/-- Characters that identifiers hold. -/
def idContinue : CharSet :=
  ((CharSet.unionAll [idStart, categories [.nonspacingMark, .spacingMark, .decimalNumber,
    .connectorPunctuation], .ofSpans PropertySpans.otherIdContinue]).difference
    patternSyntax).difference patternBlank

/-- Characters of identifiers whose normal form is no identifier. -/
def unstable : CharSet :=
  .ofSpans [(0x37a, 0x37a, 1), (0x309b, 0x309c, 1), (0xfc5e, 0xfc63, 1), (0xfdfa, 0xfdfb, 1),
    (0xfe70, 0xfe7e, 2)]

/-- Characters with which identifiers begin, also in normal form. -/
def xidStart : CharSet :=
  (idStart.difference unstable).difference
    (.ofSpans [(0xe33, 0xe33, 1), (0xeb3, 0xeb3, 1), (0xff9e, 0xff9f, 1)])

/-- Characters that identifiers hold, also in normal form. -/
def xidContinue : CharSet := idContinue.difference unstable

/-- Characters that extend the grapheme before them. -/
def graphemeExtend : CharSet :=
  (categories [.nonspacingMark, .enclosingMark]).union (known Text.Spans.otherExtending)

/-- Characters that begin a grapheme. -/
def graphemeBase : CharSet :=
  (CharSet.unionAll [categories [.control, .format, .privateUse, .lineSeparator,
    .paragraphSeparator], unassigned, .span 0xd800 0xdfff, graphemeExtend]).complement

/-- Signs that stand before the digits they enclose. -/
def prependedMark : CharSet := .ofSpans PropertySpans.prependedConcatenationMark

/-- Characters that display ignores unless it supports them. -/
def defaultIgnorable : CharSet :=
  (CharSet.unionAll [.ofSpans PropertySpans.otherDefaultIgnorable, assignedCategory .format,
    .ofSpans PropertySpans.variationSelector]).difference
    (.unionAll [blank, .span 0xfff9 0xfffb, .span 0x13430 0x1343f, prependedMark])

/-- The properties with their names. -/
def binaries : List (List String × (Unit → CharSet)) :=
  [(["ahex", "asciihexdigit"], fun _ => .ofSpans PropertySpans.asciiHexDigit),
    (["alpha", "alphabetic"], fun _ => alphabetic),
    (["bidic", "bidicontrol"], fun _ => .ofSpans PropertySpans.bidiControl),
    (["bidim", "bidimirrored"], fun _ => .ofSpans PropertySpans.bidiMirrored),
    (["caseignorable", "ci"], fun _ => caseIgnorable),
    (["cased"], fun _ => cased),
    (["changeswhencasefolded", "cwcf"], fun _ => .ofSpans PropertySpans.changesWhenCasefolded),
    (["changeswhencasemapped", "cwcm"], fun _ => .ofSpans PropertySpans.changesWhenCasemapped),
    (["changeswhenlowercased", "cwl"], fun _ => .ofSpans PropertySpans.changesWhenLowercased),
    (["changeswhentitlecased", "cwt"], fun _ => .ofSpans PropertySpans.changesWhenTitlecased),
    (["changeswhenuppercased", "cwu"], fun _ => .ofSpans PropertySpans.changesWhenUppercased),
    (["dash"], fun _ => .ofSpans PropertySpans.dash),
    (["defaultignorablecodepoint", "di"], fun _ => defaultIgnorable),
    (["dep", "deprecated"], fun _ => .ofSpans PropertySpans.deprecated),
    (["dia", "diacritic"], fun _ => .ofSpans PropertySpans.diacritic),
    (["emoji"], fun _ => .ofSpans PropertySpans.emoji),
    (["ecomp", "emojicomponent"], fun _ => .ofSpans PropertySpans.emojiComponent),
    (["emod", "emojimodifier"], fun _ => .ofSpans PropertySpans.emojiModifier),
    (["ebase", "emojimodifierbase"], fun _ => .ofSpans PropertySpans.emojiModifierBase),
    (["emojipresentation", "epres"], fun _ => .ofSpans PropertySpans.emojiPresentation),
    (["extendedpictographic", "extpict"], fun _ => .ofSpans PropertySpans.extendedPictographic),
    (["ext", "extender"], fun _ => .ofSpans PropertySpans.extender),
    (["graphemebase", "grbase"], fun _ => graphemeBase),
    (["graphemeextend", "grext"], fun _ => graphemeExtend),
    (["graphemelink", "grlink"], fun _ => .ofSpans PropertySpans.graphemeLink),
    (["hex", "hexdigit"], fun _ => .ofSpans PropertySpans.hexDigit),
    (["hyphen"], fun _ => .ofSpans PropertySpans.hyphen),
    (["idsb", "idsbinaryoperator"], fun _ => .ofSpans PropertySpans.idsBinaryOperator),
    (["idst", "idstrinaryoperator"], fun _ => .ofSpans PropertySpans.idsTrinaryOperator),
    (["idsu", "idsunaryoperator"], fun _ => .ofSpans PropertySpans.idsUnaryOperator),
    (["idcompatmathcontinue"], fun _ => .ofSpans PropertySpans.idCompatMathContinue),
    (["idcompatmathstart"], fun _ => .ofSpans PropertySpans.idCompatMathStart),
    (["idc", "idcontinue"], fun _ => idContinue),
    (["ids", "idstart"], fun _ => idStart),
    (["ideo", "ideographic"], fun _ => .ofSpans PropertySpans.ideographic),
    (["joinc", "joincontrol"], fun _ => .ofSpans PropertySpans.joinControl),
    (["loe", "logicalorderexception"], fun _ => .ofSpans PropertySpans.logicalOrderException),
    (["lower", "lowercase"], fun _ => lowercase),
    (["math"], fun _ => math),
    (["mcm", "modifiercombiningmark"], fun _ => .ofSpans PropertySpans.modifierCombiningMark),
    (["nchar", "noncharactercodepoint"], fun _ => .ofSpans PropertySpans.noncharacter),
    (["oalpha", "otheralphabetic"], fun _ => known Text.Spans.otherAlphabetic),
    (["odi", "otherdefaultignorablecodepoint"],
      fun _ => .ofSpans PropertySpans.otherDefaultIgnorable),
    (["ogrext", "othergraphemeextend"], fun _ => known Text.Spans.otherExtending),
    (["oidc", "otheridcontinue"], fun _ => .ofSpans PropertySpans.otherIdContinue),
    (["oids", "otheridstart"], fun _ => .ofSpans PropertySpans.otherIdStart),
    (["olower", "otherlowercase"], fun _ => known Text.Spans.otherLowercase),
    (["omath", "othermath"], fun _ => .ofSpans PropertySpans.otherMath),
    (["otheruppercase", "oupper"], fun _ => known Text.Spans.otherUppercase),
    (["patsyn", "patternsyntax"], fun _ => patternSyntax),
    (["patternwhitespace", "patws"], fun _ => patternBlank),
    (["pcm", "prependedconcatenationmark"], fun _ => prependedMark),
    (["qmark", "quotationmark"], fun _ => .ofSpans PropertySpans.quotationMark),
    (["radical"], fun _ => .ofSpans PropertySpans.radical),
    (["regionalindicator", "ri"], fun _ => .ofSpans PropertySpans.regionalIndicator),
    (["sentenceterminal", "sterm"], fun _ => .ofSpans PropertySpans.sentenceTerminal),
    (["sd", "softdotted"], fun _ => .ofSpans PropertySpans.softDotted),
    (["term", "terminalpunctuation"], fun _ => .ofSpans PropertySpans.terminalPunctuation),
    (["uideo", "unifiedideograph"], fun _ => .ofSpans PropertySpans.unifiedIdeograph),
    (["upper", "uppercase"], fun _ => uppercase),
    (["variationselector", "vs"], fun _ => .ofSpans PropertySpans.variationSelector),
    (["space", "whitespace", "wspace"], fun _ => blank),
    (["xidc", "xidcontinue"], fun _ => xidContinue),
    (["xids", "xidstart"], fun _ => xidStart)]

end Vigil.Pattern.Property
