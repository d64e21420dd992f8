import Vigil.Text.Span

/-!
# Spans of letter properties

The characters that count as alphabetic, as small or capital letters, as extending the character
before them, or as passed over by case mapping, although their category alone does not say so.
-/

namespace Vigil.Text.Spans

/-- Alphabetic characters outside the letters and the numbers written as letters. -/
def otherAlphabetic : List Span :=
  [(0x345, 0x345, 1), (0x363, 0x36f, 1), (0x5b0, 0x5bd, 1), (0x5bf, 0x5bf, 1), (0x5c1, 0x5c2, 1),
   (0x5c4, 0x5c5, 1), (0x5c7, 0x5c7, 1), (0x610, 0x61a, 1), (0x64b, 0x657, 1), (0x659, 0x65f, 1),
   (0x670, 0x670, 1), (0x6d6, 0x6dc, 1), (0x6e1, 0x6e4, 1), (0x6e7, 0x6e8, 1), (0x6ed, 0x6ed, 1),
   (0x711, 0x711, 1), (0x730, 0x73f, 1), (0x7a6, 0x7b0, 1), (0x816, 0x817, 1), (0x81b, 0x823, 1),
   (0x825, 0x827, 1), (0x829, 0x82c, 1), (0x897, 0x897, 1), (0x8d4, 0x8df, 1), (0x8e3, 0x8e9, 1),
   (0x8f0, 0x903, 1), (0x93a, 0x93b, 1), (0x93e, 0x94c, 1), (0x94e, 0x94f, 1), (0x955, 0x957, 1),
   (0x962, 0x963, 1), (0x981, 0x983, 1), (0x9be, 0x9c4, 1), (0x9c7, 0x9c8, 1), (0x9cb, 0x9cc, 1),
   (0x9d7, 0x9d7, 1), (0x9e2, 0x9e3, 1), (0xa01, 0xa03, 1), (0xa3e, 0xa42, 1), (0xa47, 0xa48, 1),
   (0xa4b, 0xa4c, 1), (0xa51, 0xa51, 1), (0xa70, 0xa71, 1), (0xa75, 0xa75, 1), (0xa81, 0xa83, 1),
   (0xabe, 0xac5, 1), (0xac7, 0xac9, 1), (0xacb, 0xacc, 1), (0xae2, 0xae3, 1), (0xafa, 0xafc, 1),
   (0xb01, 0xb03, 1), (0xb3e, 0xb44, 1), (0xb47, 0xb48, 1), (0xb4b, 0xb4c, 1), (0xb56, 0xb57, 1),
   (0xb62, 0xb63, 1), (0xb82, 0xb82, 1), (0xbbe, 0xbc2, 1), (0xbc6, 0xbc8, 1), (0xbca, 0xbcc, 1),
   (0xbd7, 0xbd7, 1), (0xc00, 0xc04, 1), (0xc3e, 0xc44, 1), (0xc46, 0xc48, 1), (0xc4a, 0xc4c, 1),
   (0xc55, 0xc56, 1), (0xc62, 0xc63, 1), (0xc81, 0xc83, 1), (0xcbe, 0xcc4, 1), (0xcc6, 0xcc8, 1),
   (0xcca, 0xccc, 1), (0xcd5, 0xcd6, 1), (0xce2, 0xce3, 1), (0xcf3, 0xcf3, 1), (0xd00, 0xd03, 1),
   (0xd3e, 0xd44, 1), (0xd46, 0xd48, 1), (0xd4a, 0xd4c, 1), (0xd57, 0xd57, 1), (0xd62, 0xd63, 1),
   (0xd81, 0xd83, 1), (0xdcf, 0xdd4, 1), (0xdd6, 0xdd6, 1), (0xdd8, 0xddf, 1), (0xdf2, 0xdf3, 1),
   (0xe31, 0xe31, 1), (0xe34, 0xe3a, 1), (0xe4d, 0xe4d, 1), (0xeb1, 0xeb1, 1), (0xeb4, 0xeb9, 1),
   (0xebb, 0xebc, 1), (0xecd, 0xecd, 1), (0xf71, 0xf83, 1), (0xf8d, 0xf97, 1), (0xf99, 0xfbc, 1),
   (0x102b, 0x1036, 1), (0x1038, 0x1038, 1), (0x103b, 0x103e, 1), (0x1056, 0x1059, 1),
   (0x105e, 0x1060, 1), (0x1062, 0x1064, 1), (0x1067, 0x106d, 1), (0x1071, 0x1074, 1),
   (0x1082, 0x108d, 1), (0x108f, 0x108f, 1), (0x109a, 0x109d, 1), (0x1712, 0x1713, 1),
   (0x1732, 0x1733, 1), (0x1752, 0x1753, 1), (0x1772, 0x1773, 1), (0x17b6, 0x17c8, 1),
   (0x1885, 0x1886, 1), (0x18a9, 0x18a9, 1), (0x1920, 0x192b, 1), (0x1930, 0x1938, 1),
   (0x1a17, 0x1a1b, 1), (0x1a55, 0x1a5e, 1), (0x1a61, 0x1a74, 1), (0x1abf, 0x1ac0, 1),
   (0x1acc, 0x1ace, 1), (0x1b00, 0x1b04, 1), (0x1b35, 0x1b43, 1), (0x1b80, 0x1b82, 1),
   (0x1ba1, 0x1ba9, 1), (0x1bac, 0x1bad, 1), (0x1be7, 0x1bf1, 1), (0x1c24, 0x1c36, 1),
   (0x1dd3, 0x1df4, 1), (0x24b6, 0x24e9, 1), (0x2de0, 0x2dff, 1), (0xa674, 0xa67b, 1),
   (0xa69e, 0xa69f, 1), (0xa802, 0xa802, 1), (0xa80b, 0xa80b, 1), (0xa823, 0xa827, 1),
   (0xa880, 0xa881, 1), (0xa8b4, 0xa8c3, 1), (0xa8c5, 0xa8c5, 1), (0xa8ff, 0xa8ff, 1),
   (0xa926, 0xa92a, 1), (0xa947, 0xa952, 1), (0xa980, 0xa983, 1), (0xa9b4, 0xa9bf, 1),
   (0xa9e5, 0xa9e5, 1), (0xaa29, 0xaa36, 1), (0xaa43, 0xaa43, 1), (0xaa4c, 0xaa4d, 1),
   (0xaa7b, 0xaa7d, 1), (0xaab0, 0xaab0, 1), (0xaab2, 0xaab4, 1), (0xaab7, 0xaab8, 1),
   (0xaabe, 0xaabe, 1), (0xaaeb, 0xaaef, 1), (0xaaf5, 0xaaf5, 1), (0xabe3, 0xabea, 1),
   (0xfb1e, 0xfb1e, 1), (0x10376, 0x1037a, 1), (0x10a01, 0x10a03, 1), (0x10a05, 0x10a06, 1),
   (0x10a0c, 0x10a0f, 1), (0x10d24, 0x10d27, 1), (0x10d69, 0x10d69, 1), (0x10eab, 0x10eac, 1),
   (0x10efa, 0x10efc, 1), (0x11000, 0x11002, 1), (0x11038, 0x11045, 1), (0x11073, 0x11074, 1),
   (0x11080, 0x11082, 1), (0x110b0, 0x110b8, 1), (0x110c2, 0x110c2, 1), (0x11100, 0x11102, 1),
   (0x11127, 0x11132, 1), (0x11145, 0x11146, 1), (0x11180, 0x11182, 1), (0x111b3, 0x111bf, 1),
   (0x111ce, 0x111cf, 1), (0x1122c, 0x11234, 1), (0x11237, 0x11237, 1), (0x1123e, 0x1123e, 1),
   (0x11241, 0x11241, 1), (0x112df, 0x112e8, 1), (0x11300, 0x11303, 1), (0x1133e, 0x11344, 1),
   (0x11347, 0x11348, 1), (0x1134b, 0x1134c, 1), (0x11357, 0x11357, 1), (0x11362, 0x11363, 1),
   (0x113b8, 0x113c0, 1), (0x113c2, 0x113c2, 1), (0x113c5, 0x113c5, 1), (0x113c7, 0x113ca, 1),
   (0x113cc, 0x113cd, 1), (0x11435, 0x11441, 1), (0x11443, 0x11445, 1), (0x114b0, 0x114c1, 1),
   (0x115af, 0x115b5, 1), (0x115b8, 0x115be, 1), (0x115dc, 0x115dd, 1), (0x11630, 0x1163e, 1),
   (0x11640, 0x11640, 1), (0x116ab, 0x116b5, 1), (0x1171d, 0x1172a, 1), (0x1182c, 0x11838, 1),
   (0x11930, 0x11935, 1), (0x11937, 0x11938, 1), (0x1193b, 0x1193c, 1), (0x11940, 0x11942, 2),
   (0x119d1, 0x119d7, 1), (0x119da, 0x119df, 1), (0x119e4, 0x119e4, 1), (0x11a01, 0x11a0a, 1),
   (0x11a35, 0x11a39, 1), (0x11a3b, 0x11a3e, 1), (0x11a51, 0x11a5b, 1), (0x11a8a, 0x11a97, 1),
   (0x11b60, 0x11b67, 1), (0x11c2f, 0x11c36, 1), (0x11c38, 0x11c3e, 1), (0x11c92, 0x11ca7, 1),
   (0x11ca9, 0x11cb6, 1), (0x11d31, 0x11d36, 1), (0x11d3a, 0x11d3a, 1), (0x11d3c, 0x11d3d, 1),
   (0x11d3f, 0x11d41, 1), (0x11d43, 0x11d43, 1), (0x11d47, 0x11d47, 1), (0x11d8a, 0x11d8e, 1),
   (0x11d90, 0x11d91, 1), (0x11d93, 0x11d96, 1), (0x11ef3, 0x11ef6, 1), (0x11f00, 0x11f01, 1),
   (0x11f03, 0x11f03, 1), (0x11f34, 0x11f3a, 1), (0x11f3e, 0x11f40, 1), (0x1611e, 0x1612e, 1),
   (0x16f4f, 0x16f4f, 1), (0x16f51, 0x16f87, 1), (0x16f8f, 0x16f92, 1), (0x16ff0, 0x16ff1, 1),
   (0x1bc9e, 0x1bc9e, 1), (0x1e000, 0x1e006, 1), (0x1e008, 0x1e018, 1), (0x1e01b, 0x1e021, 1),
   (0x1e023, 0x1e024, 1), (0x1e026, 0x1e02a, 1), (0x1e08f, 0x1e08f, 1), (0x1e6e3, 0x1e6e3, 1),
   (0x1e6e6, 0x1e6e6, 1), (0x1e6ee, 0x1e6ef, 1), (0x1e6f5, 0x1e6f5, 1), (0x1e947, 0x1e947, 1),
   (0x1f130, 0x1f149, 1), (0x1f150, 0x1f169, 1), (0x1f170, 0x1f189, 1)]

/-- Characters that count as small letters outside their category. -/
def otherLowercase : List Span :=
  [(0xaa, 0xaa, 1), (0xba, 0xba, 1), (0x2b0, 0x2b8, 1), (0x2c0, 0x2c1, 1), (0x2e0, 0x2e4, 1),
   (0x345, 0x345, 1), (0x37a, 0x37a, 1), (0x10fc, 0x10fc, 1), (0x1d2c, 0x1d6a, 1),
   (0x1d78, 0x1d78, 1), (0x1d9b, 0x1dbf, 1), (0x2071, 0x2071, 1), (0x207f, 0x207f, 1),
   (0x2090, 0x209c, 1), (0x2170, 0x217f, 1), (0x24d0, 0x24e9, 1), (0x2c7c, 0x2c7d, 1),
   (0xa69c, 0xa69d, 1), (0xa770, 0xa770, 1), (0xa7f1, 0xa7f4, 1), (0xa7f8, 0xa7f9, 1),
   (0xab5c, 0xab5f, 1), (0xab69, 0xab69, 1), (0x10780, 0x10780, 1), (0x10783, 0x10785, 1),
   (0x10787, 0x107b0, 1), (0x107b2, 0x107ba, 1), (0x1e030, 0x1e06d, 1)]

/-- Characters that count as capital letters outside their category. -/
def otherUppercase : List Span :=
  [(0x2160, 0x216f, 1), (0x24b6, 0x24cf, 1), (0x1f130, 0x1f149, 1), (0x1f150, 0x1f169, 1),
   (0x1f170, 0x1f189, 1)]

/-- Characters outside the marks without room that extend the one before them. -/
def otherExtending : List Span :=
  [(0x9be, 0x9be, 1), (0x9d7, 0x9d7, 1), (0xb3e, 0xb3e, 1), (0xb57, 0xb57, 1), (0xbbe, 0xbbe, 1),
   (0xbd7, 0xbd7, 1), (0xcc0, 0xcc2, 2), (0xcc7, 0xcc8, 1), (0xcca, 0xccb, 1), (0xcd5, 0xcd6, 1),
   (0xd3e, 0xd3e, 1), (0xd57, 0xd57, 1), (0xdcf, 0xdcf, 1), (0xddf, 0xddf, 1), (0x1715, 0x1715, 1),
   (0x1734, 0x1734, 1), (0x1b35, 0x1b35, 1), (0x1b3b, 0x1b3d, 2), (0x1b43, 0x1b44, 1),
   (0x1baa, 0x1baa, 1), (0x1bf2, 0x1bf3, 1), (0x200c, 0x200c, 1), (0x302e, 0x302f, 1),
   (0xa953, 0xa953, 1), (0xa9c0, 0xa9c0, 1), (0xff9e, 0xff9f, 1), (0x111c0, 0x111c0, 1),
   (0x11235, 0x11235, 1), (0x1133e, 0x1133e, 1), (0x1134d, 0x1134d, 1), (0x11357, 0x11357, 1),
   (0x113b8, 0x113b8, 1), (0x113c2, 0x113c2, 1), (0x113c5, 0x113c5, 1), (0x113c7, 0x113c9, 1),
   (0x113cf, 0x113cf, 1), (0x114b0, 0x114b0, 1), (0x114bd, 0x114bd, 1), (0x115af, 0x115af, 1),
   (0x116b6, 0x116b6, 1), (0x11930, 0x11930, 1), (0x1193d, 0x1193d, 1), (0x11f41, 0x11f41, 1),
   (0x16ff0, 0x16ff1, 1), (0x1d165, 0x1d166, 1), (0x1d16d, 0x1d172, 1), (0xe0020, 0xe007f, 1)]

/-- Punctuation that case mapping passes over. -/
def otherCaseIgnorable : List Span :=
  [(0x27, 0x27, 1), (0x2e, 0x2e, 1), (0x3a, 0x3a, 1), (0xb7, 0xb7, 1), (0x387, 0x387, 1),
   (0x55f, 0x55f, 1), (0x5f4, 0x5f4, 1), (0x2018, 0x2019, 1), (0x2024, 0x2024, 1),
   (0x2027, 0x2027, 1), (0xfe13, 0xfe13, 1), (0xfe52, 0xfe52, 1), (0xfe55, 0xfe55, 1),
   (0xff07, 0xff07, 1), (0xff0e, 0xff0e, 1), (0xff1a, 0xff1a, 1)]

end Vigil.Text.Spans
