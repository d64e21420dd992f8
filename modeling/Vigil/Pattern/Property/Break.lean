import Vigil.Pattern.Property.Binary
import Vigil.Pattern.Property.Script
import Vigil.Text.Span

/-!
# Boundary classes

The classes by which text is divided into graphemes, words and sentences.  Some of them do not
follow from the other properties, and are given by their spans.
-/

/-! ## Spans -/

namespace Vigil.Pattern.BreakSpans

open Text (Span)

/-- Signs that join the character after them. -/
def prepended : List Span :=
  [(0x600, 0x605, 1), (0x6dd, 0x6dd, 1), (0x70f, 0x70f, 1), (0x890, 0x891, 1), (0x8e2, 0x8e2, 1),
   (0xd4e, 0xd4e, 1), (0x110bd, 0x110bd, 1), (0x110cd, 0x110cd, 1), (0x111c2, 0x111c3, 1),
   (0x113d1, 0x113d1, 1), (0x1193f, 0x11941, 2), (0x11a3a, 0x11a3a, 1), (0x11a84, 0x11a89, 1),
   (0x11d46, 0x11d46, 1), (0x11f02, 0x11f02, 1)]

/-- Leading consonants of syllables. -/
def leadingJamo : List Span :=
  [(0x1100, 0x115f, 1), (0xa960, 0xa97c, 1)]

/-- Vowels of syllables. -/
def vowelJamo : List Span :=
  [(0x1160, 0x11a7, 1), (0xd7b0, 0xd7c6, 1), (0x16d63, 0x16d63, 1), (0x16d67, 0x16d6a, 1)]

/-- Trailing consonants of syllables. -/
def trailingJamo : List Span :=
  [(0x11a8, 0x11ff, 1), (0xd7cb, 0xd7fb, 1)]

/-- Marks with room that do not join the character before them. -/
def otherSpacing : List Span :=
  [(0x102b, 0x102c, 1), (0x1038, 0x1038, 1), (0x1062, 0x1064, 1), (0x1067, 0x106d, 1),
   (0x1083, 0x1083, 1), (0x1087, 0x108c, 1), (0x108f, 0x108f, 1), (0x109a, 0x109c, 1),
   (0x1a61, 0x1a61, 1), (0x1a63, 0x1a64, 1), (0xaa7b, 0xaa7d, 2), (0x11720, 0x11721, 1)]

/-- Characters of words in Katakana. -/
def katakana : List Span :=
  [(0x3031, 0x3035, 1), (0x309b, 0x309c, 1), (0x30a0, 0x30fa, 1), (0x30fc, 0x30ff, 1),
   (0x31f0, 0x31ff, 1), (0x32d0, 0x32fe, 1), (0x3300, 0x3357, 1), (0xff66, 0xff9d, 1),
   (0x1aff0, 0x1aff3, 1), (0x1aff5, 0x1affb, 1), (0x1affd, 0x1affe, 1), (0x1b000, 0x1b000, 1),
   (0x1b120, 0x1b122, 1), (0x1b155, 0x1b155, 1), (0x1b164, 0x1b167, 1)]

/-- Letters of Hebrew words. -/
def hebrewLetter : List Span :=
  [(0x5d0, 0x5ea, 1), (0x5ef, 0x5f2, 1), (0xfb1d, 0xfb1d, 1), (0xfb1f, 0xfb28, 1),
   (0xfb2a, 0xfb36, 1), (0xfb38, 0xfb3c, 1), (0xfb3e, 0xfb3e, 1), (0xfb40, 0xfb41, 1),
   (0xfb43, 0xfb44, 1), (0xfb46, 0xfb4f, 1)]

/-- What may stand between letters of a word. -/
def midLetter : List Span :=
  [(0x3a, 0x3a, 1), (0xb7, 0xb7, 1), (0x387, 0x387, 1), (0x55f, 0x55f, 1), (0x5f4, 0x5f4, 1),
   (0x2027, 0x2027, 1), (0xfe13, 0xfe13, 1), (0xfe55, 0xfe55, 1), (0xff1a, 0xff1a, 1)]

/-- What may stand between digits of a number. -/
def midNumber : List Span :=
  [(0x2c, 0x2c, 1), (0x3b, 0x3b, 1), (0x37e, 0x37e, 1), (0x589, 0x589, 1), (0x60c, 0x60d, 1),
   (0x66c, 0x66c, 1), (0x7f8, 0x7f8, 1), (0x2044, 0x2044, 1), (0xfe50, 0xfe50, 1),
   (0xfe54, 0xfe54, 1), (0xff0c, 0xff0c, 1), (0xff1b, 0xff1b, 1)]

/-- What may stand between letters of a word and between digits. -/
def midNumberOrLetter : List Span :=
  [(0x2e, 0x2e, 1), (0x2018, 0x2019, 1), (0x2024, 0x2024, 1), (0xfe52, 0xfe52, 1),
   (0xff07, 0xff07, 1), (0xff0e, 0xff0e, 1)]

/-- What joins letters, digits and Katakana. -/
def extendNumberOrLetter : List Span :=
  [(0x5f, 0x5f, 1), (0x202f, 0x202f, 1), (0x203f, 0x2040, 1), (0x2054, 0x2054, 1),
   (0xfe33, 0xfe34, 1), (0xfe4d, 0xfe4f, 1), (0xff3f, 0xff3f, 1)]

/-- Ends of lines beside the two of the basic range. -/
def newline : List Span :=
  [(0xb, 0xc, 1), (0x85, 0x85, 1), (0x2028, 0x2029, 1)]

/-- Spaces between words. -/
def wordSpace : List Span :=
  [(0x20, 0x20, 1), (0x1680, 0x1680, 1), (0x2000, 0x2006, 1), (0x2008, 0x200a, 1),
   (0x205f, 0x205f, 1), (0x3000, 0x3000, 1)]

/-- Letters of words that are not alphabetic. -/
def otherWordLetter : List Span :=
  [(0x2c2, 0x2c5, 1), (0x2d2, 0x2d7, 1), (0x2de, 0x2df, 1), (0x2e5, 0x2eb, 1), (0x2ed, 0x2ed, 1),
   (0x2ef, 0x2ff, 1), (0x55a, 0x55c, 1), (0x55e, 0x55e, 1), (0x58a, 0x58a, 1), (0x5f3, 0x5f3, 1),
   (0x70f, 0x70f, 1), (0xa708, 0xa716, 1), (0xa720, 0xa721, 1), (0xa789, 0xa78a, 1),
   (0xab5b, 0xab5b, 1)]

/-- Alphabetic characters of scripts that do not divide words by blanks. -/
def notWordLetter : List Span :=
  [(0x1950, 0x196d, 1), (0x1970, 0x1974, 1), (0x1980, 0x19ab, 1), (0x19b0, 0x19c9, 1),
   (0x1a20, 0x1a54, 1), (0x1aa7, 0x1aa7, 1), (0xaa80, 0xaaaf, 1), (0xaab1, 0xaab1, 1),
   (0xaab5, 0xaab6, 1), (0xaab9, 0xaabd, 1), (0xaac0, 0xaac2, 2), (0xaadb, 0xaadd, 1),
   (0x11700, 0x1171a, 1), (0x11740, 0x11746, 1)]

/-- Numeric signs that are not decimal digits, within sentences. -/
def otherNumeric : List Span :=
  [(0x600, 0x605, 1), (0x66b, 0x66c, 1), (0x6dd, 0x6dd, 1), (0x890, 0x891, 1), (0x8e2, 0x8e2, 1),
   (0x19da, 0x19da, 1), (0x110bd, 0x110bd, 1), (0x110cd, 0x110cd, 1)]

/-- Punctuation that ends a sentence. -/
def sentenceEnd : List Span :=
  [(0x21, 0x21, 1), (0x3f, 0x3f, 1), (0x589, 0x589, 1), (0x61d, 0x61f, 1), (0x6d4, 0x6d4, 1),
   (0x700, 0x702, 1), (0x7f9, 0x7f9, 1), (0x837, 0x839, 2), (0x83d, 0x83e, 1), (0x964, 0x965, 1),
   (0x104a, 0x104b, 1), (0x1362, 0x1362, 1), (0x1367, 0x1368, 1), (0x166e, 0x166e, 1),
   (0x1735, 0x1736, 1), (0x17d4, 0x17d5, 1), (0x1803, 0x1803, 1), (0x1809, 0x1809, 1),
   (0x1944, 0x1945, 1), (0x1aa8, 0x1aab, 1), (0x1b4e, 0x1b4f, 1), (0x1b5a, 0x1b5b, 1),
   (0x1b5e, 0x1b5f, 1), (0x1b7d, 0x1b7f, 1), (0x1c3b, 0x1c3c, 1), (0x1c7e, 0x1c7f, 1),
   (0x203c, 0x203d, 1), (0x2047, 0x2049, 1), (0x2cf9, 0x2cfb, 1), (0x2e2e, 0x2e2e, 1),
   (0x2e3c, 0x2e3c, 1), (0x2e53, 0x2e54, 1), (0x3002, 0x3002, 1), (0xa4ff, 0xa4ff, 1),
   (0xa60e, 0xa60f, 1), (0xa6f3, 0xa6f3, 1), (0xa6f7, 0xa6f7, 1), (0xa876, 0xa877, 1),
   (0xa8ce, 0xa8cf, 1), (0xa92f, 0xa92f, 1), (0xa9c8, 0xa9c9, 1), (0xaa5d, 0xaa5f, 1),
   (0xaaf0, 0xaaf1, 1), (0xabeb, 0xabeb, 1), (0xfe12, 0xfe12, 1), (0xfe15, 0xfe16, 1),
   (0xfe56, 0xfe57, 1), (0xff01, 0xff01, 1), (0xff1f, 0xff1f, 1), (0xff61, 0xff61, 1),
   (0x10a56, 0x10a57, 1), (0x10f55, 0x10f59, 1), (0x10f86, 0x10f89, 1), (0x11047, 0x11048, 1),
   (0x110be, 0x110c1, 1), (0x11141, 0x11143, 1), (0x111c5, 0x111c6, 1), (0x111cd, 0x111cd, 1),
   (0x111de, 0x111df, 1), (0x11238, 0x11239, 1), (0x1123b, 0x1123c, 1), (0x112a9, 0x112a9, 1),
   (0x113d4, 0x113d5, 1), (0x1144b, 0x1144c, 1), (0x115c2, 0x115c3, 1), (0x115c9, 0x115d7, 1),
   (0x11641, 0x11642, 1), (0x1173c, 0x1173e, 1), (0x11944, 0x11946, 2), (0x11a42, 0x11a43, 1),
   (0x11a9b, 0x11a9c, 1), (0x11c41, 0x11c42, 1), (0x11ef7, 0x11ef8, 1), (0x11f43, 0x11f44, 1),
   (0x16a6e, 0x16a6f, 1), (0x16af5, 0x16af5, 1), (0x16b37, 0x16b38, 1), (0x16b44, 0x16b44, 1),
   (0x16d6e, 0x16d6f, 1), (0x16e98, 0x16e98, 1), (0x1bc9f, 0x1bc9f, 1), (0x1da88, 0x1da88, 1)]

/-- Quotation marks and brackets. -/
def closing : List Span :=
  [(0x22, 0x22, 1), (0x27, 0x29, 1), (0x5b, 0x5d, 2), (0x7b, 0x7d, 2), (0xab, 0xab, 1),
   (0xbb, 0xbb, 1), (0xf3a, 0xf3d, 1), (0x169b, 0x169c, 1), (0x2018, 0x201f, 1),
   (0x2039, 0x203a, 1), (0x2045, 0x2046, 1), (0x207d, 0x207e, 1), (0x208d, 0x208e, 1),
   (0x2308, 0x230b, 1), (0x2329, 0x232a, 1), (0x275b, 0x2760, 1), (0x2768, 0x2775, 1),
   (0x27c5, 0x27c6, 1), (0x27e6, 0x27ef, 1), (0x2983, 0x2998, 1), (0x29d8, 0x29db, 1),
   (0x29fc, 0x29fd, 1), (0x2e00, 0x2e0d, 1), (0x2e1c, 0x2e1d, 1), (0x2e20, 0x2e29, 1),
   (0x2e42, 0x2e42, 1), (0x2e55, 0x2e5c, 1), (0x3008, 0x3011, 1), (0x3014, 0x301b, 1),
   (0x301d, 0x301f, 1), (0xfd3e, 0xfd3f, 1), (0xfe17, 0xfe18, 1), (0xfe35, 0xfe44, 1),
   (0xfe47, 0xfe48, 1), (0xfe59, 0xfe5e, 1), (0xff08, 0xff09, 1), (0xff3b, 0xff3d, 2),
   (0xff5b, 0xff5d, 2), (0xff5f, 0xff60, 1), (0xff62, 0xff63, 1), (0x1f676, 0x1f678, 1)]

/-- Punctuation after which a sentence goes on. -/
def sentenceContinue : List Span :=
  [(0x2c, 0x2d, 1), (0x3a, 0x3b, 1), (0x37e, 0x37e, 1), (0x55d, 0x55d, 1), (0x60c, 0x60d, 1),
   (0x7f8, 0x7f8, 1), (0x1802, 0x1802, 1), (0x1808, 0x1808, 1), (0x2013, 0x2014, 1),
   (0x3001, 0x3001, 1), (0xfe10, 0xfe11, 1), (0xfe13, 0xfe14, 1), (0xfe31, 0xfe32, 1),
   (0xfe50, 0xfe51, 1), (0xfe54, 0xfe55, 1), (0xfe58, 0xfe58, 1), (0xfe63, 0xfe63, 1),
   (0xff0c, 0xff0d, 1), (0xff1a, 0xff1b, 1), (0xff64, 0xff64, 1)]

/-- Spaces within sentences. -/
def sentenceSpace : List Span :=
  [(0x9, 0x9, 1), (0xb, 0xc, 1), (0x20, 0x20, 1), (0xa0, 0xa0, 1), (0x1680, 0x1680, 1),
   (0x2000, 0x200a, 1), (0x202f, 0x202f, 1), (0x205f, 0x205f, 1), (0x3000, 0x3000, 1)]

/-- Full stops, which may end a sentence. -/
def fullStop : List Span :=
  [(0x2e, 0x2e, 1), (0x2024, 0x2024, 1), (0xfe52, 0xfe52, 1), (0xff0e, 0xff0e, 1)]

/-- Separators of sentences. -/
def sentenceSeparator : List Span :=
  [(0x85, 0x85, 1), (0x2028, 0x2029, 1)]

end Vigil.Pattern.BreakSpans

/-! ## Classes -/

namespace Vigil.Pattern.Property

/-- The code points of one character. -/
def point (n : Nat) : CharSet := .span n n

/-- What graphemes call extending: also the modifiers of pictures. -/
def extending : CharSet :=
  graphemeExtend.union (.ofSpans PropertySpans.emojiModifier)

/-- Extending characters and all marks, with the joiner. -/
def extendingMarks : CharSet :=
  .unionAll [graphemeExtend, assignedCategory .spacingMark]

/-- Syllables without a trailing consonant. -/
def openSyllable : CharSet := .ofSpans [(0xac00, 0xd788, 28)]

/-- Signs of numbers beside the decimal digits. -/
def otherNumeric : CharSet := .ofSpans BreakSpans.otherNumeric

/-- Format characters within sentences. -/
def sentenceFormat : CharSet :=
  (assignedCategory .format).difference
    (.unionAll [graphemeExtend, point 0x200d, otherNumeric])

/-- Small letters within sentences. -/
def sentenceLower : CharSet :=
  lowercase.difference (.unionAll [graphemeExtend, .span 0x10d0 0x10fa, .span 0x10fd 0x10ff])

/-- Capital letters within sentences. -/
def sentenceUpper : CharSet :=
  (uppercase.union (assignedCategory .titlecaseLetter)).difference
    ((CharSet.span 0x1c90 0x1cba).union (.span 0x1cbd 0x1cbf))

/-- Control characters between graphemes. -/
def graphemeControl : CharSet :=
  (CharSet.unionAll [categories [.lineSeparator, .paragraphSeparator, .control, .format],
    defaultIgnorable.intersection unassigned]).difference
    (.unionAll [point 10, point 13, .span 0x200c 0x200d, prependedMark, .span 0xe0020 0xe007f])

/-- Letters of words. -/
def wordLetter : CharSet :=
  ((alphabetic.difference (.unionAll
    [.ofSpans PropertySpans.ideographic, .ofSpans BreakSpans.katakana,
      .ofSpans BreakSpans.hebrewLetter, extendingMarks, .ofSpans Script.hiraganaSpans,
      .ofSpans Script.thaiSpans, .ofSpans Script.laoSpans, .ofSpans Script.khmerSpans,
      .ofSpans Script.myanmarSpans])).difference (.ofSpans BreakSpans.notWordLetter)).union
    (.ofSpans BreakSpans.otherWordLetter)

/-- The classes of characters within graphemes, with their names. -/
def graphemeBreaks : List (List String × (Unit → CharSet)) :=
  [(["cn", "control"], fun _ => graphemeControl),
    (["cr"], fun _ => point 13),
    (["ex", "extend"], fun _ => extending),
    (["l"], fun _ => .ofSpans BreakSpans.leadingJamo),
    (["lf"], fun _ => point 10),
    (["lv"], fun _ => openSyllable),
    (["lvt"], fun _ => (CharSet.span 0xac00 0xd7a3).difference openSyllable),
    (["pp", "prepend"], fun _ => .ofSpans BreakSpans.prepended),
    (["regionalindicator", "ri"], fun _ => .ofSpans PropertySpans.regionalIndicator),
    (["sm", "spacingmark"], fun _ =>
      ((assignedCategory .spacingMark).difference
        (graphemeExtend.union (.ofSpans BreakSpans.otherSpacing))).union
        ((point 0xe33).union (point 0xeb3))),
    (["t"], fun _ => .ofSpans BreakSpans.trailingJamo),
    (["v"], fun _ => .ofSpans BreakSpans.vowelJamo),
    (["zwj"], fun _ => point 0x200d)]

/-- The classes of characters within words, with their names. -/
def wordBreaks : List (List String × (Unit → CharSet)) :=
  [(["aletter", "le"], fun _ => wordLetter),
    (["cr"], fun _ => point 13),
    (["doublequote", "dq"], fun _ => point 0x22),
    (["extend"], fun _ => extendingMarks.union (.ofSpans PropertySpans.emojiModifier)),
    (["ex", "extendnumlet"], fun _ => .ofSpans BreakSpans.extendNumberOrLetter),
    (["fo", "format"], fun _ =>
      sentenceFormat.difference ((point 0x70f).union (point 0x200b))),
    (["hebrewletter", "hl"], fun _ => .ofSpans BreakSpans.hebrewLetter),
    (["ka", "katakana"], fun _ => .ofSpans BreakSpans.katakana),
    (["lf"], fun _ => point 10),
    (["midletter", "ml"], fun _ => .ofSpans BreakSpans.midLetter),
    (["midnum", "mn"], fun _ => .ofSpans BreakSpans.midNumber),
    (["mb", "midnumlet"], fun _ => .ofSpans BreakSpans.midNumberOrLetter),
    (["newline", "nl"], fun _ => .ofSpans BreakSpans.newline),
    (["nu", "numeric"], fun _ => (digit.union otherNumeric).difference (point 0x66c)),
    (["regionalindicator", "ri"], fun _ => .ofSpans PropertySpans.regionalIndicator),
    (["singlequote", "sq"], fun _ => point 0x27),
    (["wsegspace"], fun _ => .ofSpans BreakSpans.wordSpace),
    (["zwj"], fun _ => point 0x200d)]

/-- The classes of characters within sentences, with their names. -/
def sentenceBreaks : List (List String × (Unit → CharSet)) :=
  [(["at", "aterm"], fun _ => .ofSpans BreakSpans.fullStop),
    (["cr"], fun _ => point 13),
    (["cl", "close"], fun _ => .ofSpans BreakSpans.closing),
    (["ex", "extend"], fun _ => extendingMarks.union (point 0x200d)),
    (["fo", "format"], fun _ => sentenceFormat),
    (["lf"], fun _ => point 10),
    (["lo", "lower"], fun _ => sentenceLower),
    (["nu", "numeric"], fun _ => digit.union otherNumeric),
    (["le", "oletter"], fun _ =>
      (alphabetic.union (point 0x5f3)).difference
        (.unionAll [sentenceLower, sentenceUpper, extendingMarks])),
    (["sc", "scontinue"], fun _ => .ofSpans BreakSpans.sentenceContinue),
    (["st", "sterm"], fun _ => .ofSpans BreakSpans.sentenceEnd),
    (["se", "sep"], fun _ => .ofSpans BreakSpans.sentenceSeparator),
    (["sp"], fun _ => .ofSpans BreakSpans.sentenceSpace),
    (["up", "upper"], fun _ => sentenceUpper)]

end Vigil.Pattern.Property
