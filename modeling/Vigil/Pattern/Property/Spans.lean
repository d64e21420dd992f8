import Vigil.Text.Span

/-!
# Spans of character properties

The properties that patterns may name and that do not follow from the general category.
-/

namespace Vigil.Pattern.PropertySpans

open Text (Span)

/-- Digits of base sixteen in the basic range. -/
def asciiHexDigit : List Span :=
  [(0x30, 0x39, 1), (0x41, 0x46, 1), (0x61, 0x66, 1)]

/-- Characters that control the direction of text. -/
def bidiControl : List Span :=
  [(0x61c, 0x61c, 1), (0x200e, 0x200f, 1), (0x202a, 0x202e, 1), (0x2066, 0x2069, 1)]

/-- Characters that are mirrored in text from right to left. -/
def bidiMirrored : List Span :=
  [(0x28, 0x29, 1), (0x3c, 0x3e, 2), (0x5b, 0x5d, 2), (0x7b, 0x7d, 2), (0xab, 0xab, 1),
   (0xbb, 0xbb, 1), (0xf3a, 0xf3d, 1), (0x169b, 0x169c, 1), (0x2039, 0x203a, 1),
   (0x2045, 0x2046, 1), (0x207d, 0x207e, 1), (0x208d, 0x208e, 1), (0x2140, 0x2140, 1),
   (0x2201, 0x2204, 1), (0x2208, 0x220d, 1), (0x2211, 0x2211, 1), (0x2215, 0x2216, 1),
   (0x221a, 0x221d, 1), (0x221f, 0x2222, 1), (0x2224, 0x2226, 2), (0x222b, 0x2233, 1),
   (0x2239, 0x2239, 1), (0x223b, 0x224c, 1), (0x2252, 0x2255, 1), (0x225f, 0x2260, 1),
   (0x2262, 0x2262, 1), (0x2264, 0x226b, 1), (0x226d, 0x228c, 1), (0x228f, 0x2292, 1),
   (0x2298, 0x2298, 1), (0x22a2, 0x22a3, 1), (0x22a6, 0x22b8, 1), (0x22be, 0x22bf, 1),
   (0x22c9, 0x22cd, 1), (0x22d0, 0x22d1, 1), (0x22d6, 0x22ed, 1), (0x22f0, 0x22ff, 1),
   (0x2308, 0x230b, 1), (0x2320, 0x2321, 1), (0x2329, 0x232a, 1), (0x2768, 0x2775, 1),
   (0x27c0, 0x27c0, 1), (0x27c3, 0x27c6, 1), (0x27c8, 0x27c9, 1), (0x27cb, 0x27cd, 1),
   (0x27d3, 0x27d6, 1), (0x27dc, 0x27de, 1), (0x27e2, 0x27ef, 1), (0x2983, 0x2998, 1),
   (0x299b, 0x29a0, 1), (0x29a2, 0x29af, 1), (0x29b8, 0x29b8, 1), (0x29c0, 0x29c5, 1),
   (0x29c9, 0x29c9, 1), (0x29ce, 0x29d2, 1), (0x29d4, 0x29d5, 1), (0x29d8, 0x29dc, 1),
   (0x29e1, 0x29e1, 1), (0x29e3, 0x29e5, 1), (0x29e8, 0x29e9, 1), (0x29f4, 0x29f9, 1),
   (0x29fc, 0x29fd, 1), (0x2a0a, 0x2a1c, 1), (0x2a1e, 0x2a21, 1), (0x2a24, 0x2a26, 2),
   (0x2a29, 0x2a29, 1), (0x2a2b, 0x2a2e, 1), (0x2a34, 0x2a35, 1), (0x2a3c, 0x2a3e, 1),
   (0x2a57, 0x2a58, 1), (0x2a64, 0x2a65, 1), (0x2a6a, 0x2a6d, 1), (0x2a6f, 0x2a70, 1),
   (0x2a73, 0x2a74, 1), (0x2a79, 0x2aa3, 1), (0x2aa6, 0x2aad, 1), (0x2aaf, 0x2ad6, 1),
   (0x2adc, 0x2ade, 2), (0x2ae2, 0x2ae6, 1), (0x2aec, 0x2aee, 1), (0x2af3, 0x2af3, 1),
   (0x2af7, 0x2afb, 1), (0x2afd, 0x2afd, 1), (0x2bfe, 0x2bfe, 1), (0x2e02, 0x2e05, 1),
   (0x2e09, 0x2e0a, 1), (0x2e0c, 0x2e0d, 1), (0x2e1c, 0x2e1d, 1), (0x2e20, 0x2e29, 1),
   (0x2e55, 0x2e5c, 1), (0x3008, 0x3011, 1), (0x3014, 0x301b, 1), (0xfe59, 0xfe5e, 1),
   (0xfe64, 0xfe65, 1), (0xff08, 0xff09, 1), (0xff1c, 0xff1e, 2), (0xff3b, 0xff3d, 2),
   (0xff5b, 0xff5d, 2), (0xff5f, 0xff60, 1), (0xff62, 0xff63, 1), (0x1d6db, 0x1d6db, 1),
   (0x1d715, 0x1d715, 1), (0x1d74f, 0x1d74f, 1), (0x1d789, 0x1d789, 1), (0x1d7c3, 0x1d7c3, 1)]

/-- Characters that case folding changes. -/
def changesWhenCasefolded : List Span :=
  [(0x41, 0x5a, 1), (0xb5, 0xb5, 1), (0xc0, 0xd6, 1), (0xd8, 0xdf, 1), (0x100, 0x136, 2),
   (0x139, 0x147, 2), (0x149, 0x14a, 1), (0x14c, 0x176, 2), (0x178, 0x179, 1), (0x17b, 0x17f, 2),
   (0x181, 0x182, 1), (0x184, 0x184, 1), (0x186, 0x187, 1), (0x189, 0x18b, 1), (0x18e, 0x191, 1),
   (0x193, 0x194, 1), (0x196, 0x198, 1), (0x19c, 0x19d, 1), (0x19f, 0x1a0, 1), (0x1a2, 0x1a4, 2),
   (0x1a6, 0x1a7, 1), (0x1a9, 0x1a9, 1), (0x1ac, 0x1ac, 1), (0x1ae, 0x1af, 1), (0x1b1, 0x1b3, 1),
   (0x1b5, 0x1b5, 1), (0x1b7, 0x1b8, 1), (0x1bc, 0x1bc, 1), (0x1c4, 0x1c5, 1), (0x1c7, 0x1c8, 1),
   (0x1ca, 0x1cb, 1), (0x1cd, 0x1db, 2), (0x1de, 0x1ee, 2), (0x1f1, 0x1f2, 1), (0x1f4, 0x1f4, 1),
   (0x1f6, 0x1f8, 1), (0x1fa, 0x232, 2), (0x23a, 0x23b, 1), (0x23d, 0x23e, 1), (0x241, 0x241, 1),
   (0x243, 0x246, 1), (0x248, 0x24e, 2), (0x345, 0x345, 1), (0x370, 0x372, 2), (0x376, 0x376, 1),
   (0x37f, 0x37f, 1), (0x386, 0x386, 1), (0x388, 0x38a, 1), (0x38c, 0x38c, 1), (0x38e, 0x38f, 1),
   (0x391, 0x3a1, 1), (0x3a3, 0x3ab, 1), (0x3c2, 0x3c2, 1), (0x3cf, 0x3d1, 1), (0x3d5, 0x3d6, 1),
   (0x3d8, 0x3ee, 2), (0x3f0, 0x3f1, 1), (0x3f4, 0x3f5, 1), (0x3f7, 0x3f7, 1), (0x3f9, 0x3fa, 1),
   (0x3fd, 0x42f, 1), (0x460, 0x480, 2), (0x48a, 0x4be, 2), (0x4c0, 0x4c1, 1), (0x4c3, 0x4cd, 2),
   (0x4d0, 0x52e, 2), (0x531, 0x556, 1), (0x587, 0x587, 1), (0x10a0, 0x10c5, 1),
   (0x10c7, 0x10c7, 1), (0x10cd, 0x10cd, 1), (0x13f8, 0x13fd, 1), (0x1c80, 0x1c89, 1),
   (0x1c90, 0x1cba, 1), (0x1cbd, 0x1cbf, 1), (0x1e00, 0x1e94, 2), (0x1e9a, 0x1e9b, 1),
   (0x1e9e, 0x1efe, 2), (0x1f08, 0x1f0f, 1), (0x1f18, 0x1f1d, 1), (0x1f28, 0x1f2f, 1),
   (0x1f38, 0x1f3f, 1), (0x1f48, 0x1f4d, 1), (0x1f59, 0x1f5f, 2), (0x1f68, 0x1f6f, 1),
   (0x1f80, 0x1faf, 1), (0x1fb2, 0x1fb4, 1), (0x1fb7, 0x1fbc, 1), (0x1fc2, 0x1fc4, 1),
   (0x1fc7, 0x1fcc, 1), (0x1fd8, 0x1fdb, 1), (0x1fe8, 0x1fec, 1), (0x1ff2, 0x1ff4, 1),
   (0x1ff7, 0x1ffc, 1), (0x2126, 0x2126, 1), (0x212a, 0x212b, 1), (0x2132, 0x2132, 1),
   (0x2160, 0x216f, 1), (0x2183, 0x2183, 1), (0x24b6, 0x24cf, 1), (0x2c00, 0x2c2f, 1),
   (0x2c60, 0x2c60, 1), (0x2c62, 0x2c64, 1), (0x2c67, 0x2c6b, 2), (0x2c6d, 0x2c70, 1),
   (0x2c72, 0x2c72, 1), (0x2c75, 0x2c75, 1), (0x2c7e, 0x2c80, 1), (0x2c82, 0x2ce2, 2),
   (0x2ceb, 0x2ced, 2), (0x2cf2, 0x2cf2, 1), (0xa640, 0xa66c, 2), (0xa680, 0xa69a, 2),
   (0xa722, 0xa72e, 2), (0xa732, 0xa76e, 2), (0xa779, 0xa77b, 2), (0xa77d, 0xa77e, 1),
   (0xa780, 0xa786, 2), (0xa78b, 0xa78d, 2), (0xa790, 0xa792, 2), (0xa796, 0xa7a8, 2),
   (0xa7aa, 0xa7ae, 1), (0xa7b0, 0xa7b4, 1), (0xa7b6, 0xa7c2, 2), (0xa7c4, 0xa7c7, 1),
   (0xa7c9, 0xa7c9, 1), (0xa7cb, 0xa7cc, 1), (0xa7d0, 0xa7d0, 1), (0xa7d6, 0xa7dc, 2),
   (0xa7f5, 0xa7f5, 1), (0xab70, 0xabbf, 1), (0xfb00, 0xfb06, 1), (0xfb13, 0xfb17, 1),
   (0xff21, 0xff3a, 1), (0x10400, 0x10427, 1), (0x104b0, 0x104d3, 1), (0x10570, 0x1057a, 1),
   (0x1057c, 0x1058a, 1), (0x1058c, 0x10592, 1), (0x10594, 0x10595, 1), (0x10c80, 0x10cb2, 1),
   (0x10d50, 0x10d65, 1), (0x118a0, 0x118bf, 1), (0x16e40, 0x16e5f, 1), (0x1e900, 0x1e921, 1)]

/-- Characters that some case mapping changes. -/
def changesWhenCasemapped : List Span :=
  [(0x41, 0x5a, 1), (0x61, 0x7a, 1), (0xb5, 0xb5, 1), (0xc0, 0xd6, 1), (0xd8, 0xf6, 1),
   (0xf8, 0x137, 1), (0x139, 0x18c, 1), (0x18e, 0x1a9, 1), (0x1ac, 0x1b9, 1), (0x1bc, 0x1bd, 1),
   (0x1bf, 0x1bf, 1), (0x1c4, 0x220, 1), (0x222, 0x233, 1), (0x23a, 0x254, 1), (0x256, 0x257, 1),
   (0x259, 0x259, 1), (0x25b, 0x25c, 1), (0x260, 0x261, 1), (0x263, 0x266, 1), (0x268, 0x26c, 1),
   (0x26f, 0x26f, 1), (0x271, 0x272, 1), (0x275, 0x275, 1), (0x27d, 0x27d, 1), (0x280, 0x280, 1),
   (0x282, 0x283, 1), (0x287, 0x28c, 1), (0x292, 0x292, 1), (0x29d, 0x29e, 1), (0x345, 0x345, 1),
   (0x370, 0x373, 1), (0x376, 0x377, 1), (0x37b, 0x37d, 1), (0x37f, 0x37f, 1), (0x386, 0x386, 1),
   (0x388, 0x38a, 1), (0x38c, 0x38c, 1), (0x38e, 0x3a1, 1), (0x3a3, 0x3d1, 1), (0x3d5, 0x3f5, 1),
   (0x3f7, 0x3fb, 1), (0x3fd, 0x481, 1), (0x48a, 0x52f, 1), (0x531, 0x556, 1), (0x561, 0x587, 1),
   (0x10a0, 0x10c5, 1), (0x10c7, 0x10c7, 1), (0x10cd, 0x10cd, 1), (0x10d0, 0x10fa, 1),
   (0x10fd, 0x10ff, 1), (0x13a0, 0x13f5, 1), (0x13f8, 0x13fd, 1), (0x1c80, 0x1c8a, 1),
   (0x1c90, 0x1cba, 1), (0x1cbd, 0x1cbf, 1), (0x1d79, 0x1d79, 1), (0x1d7d, 0x1d7d, 1),
   (0x1d8e, 0x1d8e, 1), (0x1e00, 0x1e9b, 1), (0x1e9e, 0x1e9e, 1), (0x1ea0, 0x1f15, 1),
   (0x1f18, 0x1f1d, 1), (0x1f20, 0x1f45, 1), (0x1f48, 0x1f4d, 1), (0x1f50, 0x1f57, 1),
   (0x1f59, 0x1f5d, 2), (0x1f5f, 0x1f7d, 1), (0x1f80, 0x1fb4, 1), (0x1fb6, 0x1fbc, 1),
   (0x1fbe, 0x1fbe, 1), (0x1fc2, 0x1fc4, 1), (0x1fc6, 0x1fcc, 1), (0x1fd0, 0x1fd3, 1),
   (0x1fd6, 0x1fdb, 1), (0x1fe0, 0x1fec, 1), (0x1ff2, 0x1ff4, 1), (0x1ff6, 0x1ffc, 1),
   (0x2126, 0x2126, 1), (0x212a, 0x212b, 1), (0x2132, 0x2132, 1), (0x214e, 0x214e, 1),
   (0x2160, 0x217f, 1), (0x2183, 0x2184, 1), (0x24b6, 0x24e9, 1), (0x2c00, 0x2c70, 1),
   (0x2c72, 0x2c73, 1), (0x2c75, 0x2c76, 1), (0x2c7e, 0x2ce3, 1), (0x2ceb, 0x2cee, 1),
   (0x2cf2, 0x2cf3, 1), (0x2d00, 0x2d25, 1), (0x2d27, 0x2d27, 1), (0x2d2d, 0x2d2d, 1),
   (0xa640, 0xa66d, 1), (0xa680, 0xa69b, 1), (0xa722, 0xa72f, 1), (0xa732, 0xa76f, 1),
   (0xa779, 0xa787, 1), (0xa78b, 0xa78d, 1), (0xa790, 0xa794, 1), (0xa796, 0xa7ae, 1),
   (0xa7b0, 0xa7cd, 1), (0xa7d0, 0xa7d1, 1), (0xa7d6, 0xa7dc, 1), (0xa7f5, 0xa7f6, 1),
   (0xab53, 0xab53, 1), (0xab70, 0xabbf, 1), (0xfb00, 0xfb06, 1), (0xfb13, 0xfb17, 1),
   (0xff21, 0xff3a, 1), (0xff41, 0xff5a, 1), (0x10400, 0x1044f, 1), (0x104b0, 0x104d3, 1),
   (0x104d8, 0x104fb, 1), (0x10570, 0x1057a, 1), (0x1057c, 0x1058a, 1), (0x1058c, 0x10592, 1),
   (0x10594, 0x10595, 1), (0x10597, 0x105a1, 1), (0x105a3, 0x105b1, 1), (0x105b3, 0x105b9, 1),
   (0x105bb, 0x105bc, 1), (0x10c80, 0x10cb2, 1), (0x10cc0, 0x10cf2, 1), (0x10d50, 0x10d65, 1),
   (0x10d70, 0x10d85, 1), (0x118a0, 0x118df, 1), (0x16e40, 0x16e7f, 1), (0x1e900, 0x1e943, 1)]

/-- Characters that lower case changes. -/
def changesWhenLowercased : List Span :=
  [(0x41, 0x5a, 1), (0xc0, 0xd6, 1), (0xd8, 0xde, 1), (0x100, 0x136, 2), (0x139, 0x147, 2),
   (0x14a, 0x176, 2), (0x178, 0x179, 1), (0x17b, 0x17d, 2), (0x181, 0x182, 1), (0x184, 0x184, 1),
   (0x186, 0x187, 1), (0x189, 0x18b, 1), (0x18e, 0x191, 1), (0x193, 0x194, 1), (0x196, 0x198, 1),
   (0x19c, 0x19d, 1), (0x19f, 0x1a0, 1), (0x1a2, 0x1a4, 2), (0x1a6, 0x1a7, 1), (0x1a9, 0x1a9, 1),
   (0x1ac, 0x1ac, 1), (0x1ae, 0x1af, 1), (0x1b1, 0x1b3, 1), (0x1b5, 0x1b5, 1), (0x1b7, 0x1b8, 1),
   (0x1bc, 0x1bc, 1), (0x1c4, 0x1c5, 1), (0x1c7, 0x1c8, 1), (0x1ca, 0x1cb, 1), (0x1cd, 0x1db, 2),
   (0x1de, 0x1ee, 2), (0x1f1, 0x1f2, 1), (0x1f4, 0x1f4, 1), (0x1f6, 0x1f8, 1), (0x1fa, 0x232, 2),
   (0x23a, 0x23b, 1), (0x23d, 0x23e, 1), (0x241, 0x241, 1), (0x243, 0x246, 1), (0x248, 0x24e, 2),
   (0x370, 0x372, 2), (0x376, 0x376, 1), (0x37f, 0x37f, 1), (0x386, 0x386, 1), (0x388, 0x38a, 1),
   (0x38c, 0x38c, 1), (0x38e, 0x38f, 1), (0x391, 0x3a1, 1), (0x3a3, 0x3ab, 1), (0x3cf, 0x3cf, 1),
   (0x3d8, 0x3ee, 2), (0x3f4, 0x3f4, 1), (0x3f7, 0x3f7, 1), (0x3f9, 0x3fa, 1), (0x3fd, 0x42f, 1),
   (0x460, 0x480, 2), (0x48a, 0x4be, 2), (0x4c0, 0x4c1, 1), (0x4c3, 0x4cd, 2), (0x4d0, 0x52e, 2),
   (0x531, 0x556, 1), (0x10a0, 0x10c5, 1), (0x10c7, 0x10c7, 1), (0x10cd, 0x10cd, 1),
   (0x13a0, 0x13f5, 1), (0x1c89, 0x1c89, 1), (0x1c90, 0x1cba, 1), (0x1cbd, 0x1cbf, 1),
   (0x1e00, 0x1e94, 2), (0x1e9e, 0x1efe, 2), (0x1f08, 0x1f0f, 1), (0x1f18, 0x1f1d, 1),
   (0x1f28, 0x1f2f, 1), (0x1f38, 0x1f3f, 1), (0x1f48, 0x1f4d, 1), (0x1f59, 0x1f5f, 2),
   (0x1f68, 0x1f6f, 1), (0x1f88, 0x1f8f, 1), (0x1f98, 0x1f9f, 1), (0x1fa8, 0x1faf, 1),
   (0x1fb8, 0x1fbc, 1), (0x1fc8, 0x1fcc, 1), (0x1fd8, 0x1fdb, 1), (0x1fe8, 0x1fec, 1),
   (0x1ff8, 0x1ffc, 1), (0x2126, 0x2126, 1), (0x212a, 0x212b, 1), (0x2132, 0x2132, 1),
   (0x2160, 0x216f, 1), (0x2183, 0x2183, 1), (0x24b6, 0x24cf, 1), (0x2c00, 0x2c2f, 1),
   (0x2c60, 0x2c60, 1), (0x2c62, 0x2c64, 1), (0x2c67, 0x2c6b, 2), (0x2c6d, 0x2c70, 1),
   (0x2c72, 0x2c72, 1), (0x2c75, 0x2c75, 1), (0x2c7e, 0x2c80, 1), (0x2c82, 0x2ce2, 2),
   (0x2ceb, 0x2ced, 2), (0x2cf2, 0x2cf2, 1), (0xa640, 0xa66c, 2), (0xa680, 0xa69a, 2),
   (0xa722, 0xa72e, 2), (0xa732, 0xa76e, 2), (0xa779, 0xa77b, 2), (0xa77d, 0xa77e, 1),
   (0xa780, 0xa786, 2), (0xa78b, 0xa78d, 2), (0xa790, 0xa792, 2), (0xa796, 0xa7a8, 2),
   (0xa7aa, 0xa7ae, 1), (0xa7b0, 0xa7b4, 1), (0xa7b6, 0xa7c2, 2), (0xa7c4, 0xa7c7, 1),
   (0xa7c9, 0xa7c9, 1), (0xa7cb, 0xa7cc, 1), (0xa7d0, 0xa7d0, 1), (0xa7d6, 0xa7dc, 2),
   (0xa7f5, 0xa7f5, 1), (0xff21, 0xff3a, 1), (0x10400, 0x10427, 1), (0x104b0, 0x104d3, 1),
   (0x10570, 0x1057a, 1), (0x1057c, 0x1058a, 1), (0x1058c, 0x10592, 1), (0x10594, 0x10595, 1),
   (0x10c80, 0x10cb2, 1), (0x10d50, 0x10d65, 1), (0x118a0, 0x118bf, 1), (0x16e40, 0x16e5f, 1),
   (0x1e900, 0x1e921, 1)]

/-- Characters that title case changes. -/
def changesWhenTitlecased : List Span :=
  [(0x61, 0x7a, 1), (0xb5, 0xb5, 1), (0xdf, 0xf6, 1), (0xf8, 0xff, 1), (0x101, 0x137, 2),
   (0x13a, 0x146, 2), (0x148, 0x149, 1), (0x14b, 0x177, 2), (0x17a, 0x17c, 2), (0x17e, 0x180, 1),
   (0x183, 0x185, 2), (0x188, 0x188, 1), (0x18c, 0x18c, 1), (0x192, 0x192, 1), (0x195, 0x195, 1),
   (0x199, 0x19b, 1), (0x19e, 0x19e, 1), (0x1a1, 0x1a5, 2), (0x1a8, 0x1a8, 1), (0x1ad, 0x1ad, 1),
   (0x1b0, 0x1b0, 1), (0x1b4, 0x1b6, 2), (0x1b9, 0x1b9, 1), (0x1bd, 0x1bf, 2), (0x1c4, 0x1c4, 1),
   (0x1c6, 0x1c7, 1), (0x1c9, 0x1ca, 1), (0x1cc, 0x1da, 2), (0x1dc, 0x1dd, 1), (0x1df, 0x1ed, 2),
   (0x1ef, 0x1f1, 1), (0x1f3, 0x1f5, 2), (0x1f9, 0x21f, 2), (0x223, 0x233, 2), (0x23c, 0x23c, 1),
   (0x23f, 0x240, 1), (0x242, 0x242, 1), (0x247, 0x24d, 2), (0x24f, 0x254, 1), (0x256, 0x257, 1),
   (0x259, 0x259, 1), (0x25b, 0x25c, 1), (0x260, 0x261, 1), (0x263, 0x266, 1), (0x268, 0x26c, 1),
   (0x26f, 0x26f, 1), (0x271, 0x272, 1), (0x275, 0x275, 1), (0x27d, 0x27d, 1), (0x280, 0x280, 1),
   (0x282, 0x283, 1), (0x287, 0x28c, 1), (0x292, 0x292, 1), (0x29d, 0x29e, 1), (0x345, 0x345, 1),
   (0x371, 0x373, 2), (0x377, 0x377, 1), (0x37b, 0x37d, 1), (0x390, 0x390, 1), (0x3ac, 0x3ce, 1),
   (0x3d0, 0x3d1, 1), (0x3d5, 0x3d7, 1), (0x3d9, 0x3ed, 2), (0x3ef, 0x3f3, 1), (0x3f5, 0x3f5, 1),
   (0x3f8, 0x3f8, 1), (0x3fb, 0x3fb, 1), (0x430, 0x45f, 1), (0x461, 0x481, 2), (0x48b, 0x4bf, 2),
   (0x4c2, 0x4cc, 2), (0x4ce, 0x4cf, 1), (0x4d1, 0x52f, 2), (0x561, 0x587, 1), (0x13f8, 0x13fd, 1),
   (0x1c80, 0x1c88, 1), (0x1c8a, 0x1c8a, 1), (0x1d79, 0x1d79, 1), (0x1d7d, 0x1d7d, 1),
   (0x1d8e, 0x1d8e, 1), (0x1e01, 0x1e93, 2), (0x1e95, 0x1e9b, 1), (0x1ea1, 0x1efd, 2),
   (0x1eff, 0x1f07, 1), (0x1f10, 0x1f15, 1), (0x1f20, 0x1f27, 1), (0x1f30, 0x1f37, 1),
   (0x1f40, 0x1f45, 1), (0x1f50, 0x1f57, 1), (0x1f60, 0x1f67, 1), (0x1f70, 0x1f7d, 1),
   (0x1f80, 0x1f87, 1), (0x1f90, 0x1f97, 1), (0x1fa0, 0x1fa7, 1), (0x1fb0, 0x1fb4, 1),
   (0x1fb6, 0x1fb7, 1), (0x1fbe, 0x1fbe, 1), (0x1fc2, 0x1fc4, 1), (0x1fc6, 0x1fc7, 1),
   (0x1fd0, 0x1fd3, 1), (0x1fd6, 0x1fd7, 1), (0x1fe0, 0x1fe7, 1), (0x1ff2, 0x1ff4, 1),
   (0x1ff6, 0x1ff7, 1), (0x214e, 0x214e, 1), (0x2170, 0x217f, 1), (0x2184, 0x2184, 1),
   (0x24d0, 0x24e9, 1), (0x2c30, 0x2c5f, 1), (0x2c61, 0x2c61, 1), (0x2c65, 0x2c66, 1),
   (0x2c68, 0x2c6c, 2), (0x2c73, 0x2c73, 1), (0x2c76, 0x2c76, 1), (0x2c81, 0x2ce3, 2),
   (0x2cec, 0x2cee, 2), (0x2cf3, 0x2cf3, 1), (0x2d00, 0x2d25, 1), (0x2d27, 0x2d27, 1),
   (0x2d2d, 0x2d2d, 1), (0xa641, 0xa66d, 2), (0xa681, 0xa69b, 2), (0xa723, 0xa72f, 2),
   (0xa733, 0xa76f, 2), (0xa77a, 0xa77c, 2), (0xa77f, 0xa787, 2), (0xa78c, 0xa78c, 1),
   (0xa791, 0xa791, 1), (0xa793, 0xa794, 1), (0xa797, 0xa7a9, 2), (0xa7b5, 0xa7c3, 2),
   (0xa7c8, 0xa7ca, 2), (0xa7cd, 0xa7cd, 1), (0xa7d1, 0xa7d1, 1), (0xa7d7, 0xa7db, 2),
   (0xa7f6, 0xa7f6, 1), (0xab53, 0xab53, 1), (0xab70, 0xabbf, 1), (0xfb00, 0xfb06, 1),
   (0xfb13, 0xfb17, 1), (0xff41, 0xff5a, 1), (0x10428, 0x1044f, 1), (0x104d8, 0x104fb, 1),
   (0x10597, 0x105a1, 1), (0x105a3, 0x105b1, 1), (0x105b3, 0x105b9, 1), (0x105bb, 0x105bc, 1),
   (0x10cc0, 0x10cf2, 1), (0x10d70, 0x10d85, 1), (0x118c0, 0x118df, 1), (0x16e60, 0x16e7f, 1),
   (0x1e922, 0x1e943, 1)]

/-- Characters that upper case changes. -/
def changesWhenUppercased : List Span :=
  [(0x61, 0x7a, 1), (0xb5, 0xb5, 1), (0xdf, 0xf6, 1), (0xf8, 0xff, 1), (0x101, 0x137, 2),
   (0x13a, 0x146, 2), (0x148, 0x149, 1), (0x14b, 0x177, 2), (0x17a, 0x17c, 2), (0x17e, 0x180, 1),
   (0x183, 0x185, 2), (0x188, 0x188, 1), (0x18c, 0x18c, 1), (0x192, 0x192, 1), (0x195, 0x195, 1),
   (0x199, 0x19b, 1), (0x19e, 0x19e, 1), (0x1a1, 0x1a5, 2), (0x1a8, 0x1a8, 1), (0x1ad, 0x1ad, 1),
   (0x1b0, 0x1b0, 1), (0x1b4, 0x1b6, 2), (0x1b9, 0x1b9, 1), (0x1bd, 0x1bf, 2), (0x1c5, 0x1c6, 1),
   (0x1c8, 0x1c9, 1), (0x1cb, 0x1cc, 1), (0x1ce, 0x1da, 2), (0x1dc, 0x1dd, 1), (0x1df, 0x1ed, 2),
   (0x1ef, 0x1f0, 1), (0x1f2, 0x1f3, 1), (0x1f5, 0x1f5, 1), (0x1f9, 0x21f, 2), (0x223, 0x233, 2),
   (0x23c, 0x23c, 1), (0x23f, 0x240, 1), (0x242, 0x242, 1), (0x247, 0x24d, 2), (0x24f, 0x254, 1),
   (0x256, 0x257, 1), (0x259, 0x259, 1), (0x25b, 0x25c, 1), (0x260, 0x261, 1), (0x263, 0x266, 1),
   (0x268, 0x26c, 1), (0x26f, 0x26f, 1), (0x271, 0x272, 1), (0x275, 0x275, 1), (0x27d, 0x27d, 1),
   (0x280, 0x280, 1), (0x282, 0x283, 1), (0x287, 0x28c, 1), (0x292, 0x292, 1), (0x29d, 0x29e, 1),
   (0x345, 0x345, 1), (0x371, 0x373, 2), (0x377, 0x377, 1), (0x37b, 0x37d, 1), (0x390, 0x390, 1),
   (0x3ac, 0x3ce, 1), (0x3d0, 0x3d1, 1), (0x3d5, 0x3d7, 1), (0x3d9, 0x3ed, 2), (0x3ef, 0x3f3, 1),
   (0x3f5, 0x3f5, 1), (0x3f8, 0x3f8, 1), (0x3fb, 0x3fb, 1), (0x430, 0x45f, 1), (0x461, 0x481, 2),
   (0x48b, 0x4bf, 2), (0x4c2, 0x4cc, 2), (0x4ce, 0x4cf, 1), (0x4d1, 0x52f, 2), (0x561, 0x587, 1),
   (0x10d0, 0x10fa, 1), (0x10fd, 0x10ff, 1), (0x13f8, 0x13fd, 1), (0x1c80, 0x1c88, 1),
   (0x1c8a, 0x1c8a, 1), (0x1d79, 0x1d79, 1), (0x1d7d, 0x1d7d, 1), (0x1d8e, 0x1d8e, 1),
   (0x1e01, 0x1e93, 2), (0x1e95, 0x1e9b, 1), (0x1ea1, 0x1efd, 2), (0x1eff, 0x1f07, 1),
   (0x1f10, 0x1f15, 1), (0x1f20, 0x1f27, 1), (0x1f30, 0x1f37, 1), (0x1f40, 0x1f45, 1),
   (0x1f50, 0x1f57, 1), (0x1f60, 0x1f67, 1), (0x1f70, 0x1f7d, 1), (0x1f80, 0x1fb4, 1),
   (0x1fb6, 0x1fb7, 1), (0x1fbc, 0x1fbe, 2), (0x1fc2, 0x1fc4, 1), (0x1fc6, 0x1fc7, 1),
   (0x1fcc, 0x1fcc, 1), (0x1fd0, 0x1fd3, 1), (0x1fd6, 0x1fd7, 1), (0x1fe0, 0x1fe7, 1),
   (0x1ff2, 0x1ff4, 1), (0x1ff6, 0x1ff7, 1), (0x1ffc, 0x1ffc, 1), (0x214e, 0x214e, 1),
   (0x2170, 0x217f, 1), (0x2184, 0x2184, 1), (0x24d0, 0x24e9, 1), (0x2c30, 0x2c5f, 1),
   (0x2c61, 0x2c61, 1), (0x2c65, 0x2c66, 1), (0x2c68, 0x2c6c, 2), (0x2c73, 0x2c73, 1),
   (0x2c76, 0x2c76, 1), (0x2c81, 0x2ce3, 2), (0x2cec, 0x2cee, 2), (0x2cf3, 0x2cf3, 1),
   (0x2d00, 0x2d25, 1), (0x2d27, 0x2d27, 1), (0x2d2d, 0x2d2d, 1), (0xa641, 0xa66d, 2),
   (0xa681, 0xa69b, 2), (0xa723, 0xa72f, 2), (0xa733, 0xa76f, 2), (0xa77a, 0xa77c, 2),
   (0xa77f, 0xa787, 2), (0xa78c, 0xa78c, 1), (0xa791, 0xa791, 1), (0xa793, 0xa794, 1),
   (0xa797, 0xa7a9, 2), (0xa7b5, 0xa7c3, 2), (0xa7c8, 0xa7ca, 2), (0xa7cd, 0xa7cd, 1),
   (0xa7d1, 0xa7d1, 1), (0xa7d7, 0xa7db, 2), (0xa7f6, 0xa7f6, 1), (0xab53, 0xab53, 1),
   (0xab70, 0xabbf, 1), (0xfb00, 0xfb06, 1), (0xfb13, 0xfb17, 1), (0xff41, 0xff5a, 1),
   (0x10428, 0x1044f, 1), (0x104d8, 0x104fb, 1), (0x10597, 0x105a1, 1), (0x105a3, 0x105b1, 1),
   (0x105b3, 0x105b9, 1), (0x105bb, 0x105bc, 1), (0x10cc0, 0x10cf2, 1), (0x10d70, 0x10d85, 1),
   (0x118c0, 0x118df, 1), (0x16e60, 0x16e7f, 1), (0x1e922, 0x1e943, 1)]

/-- Dashes and hyphens. -/
def dash : List Span :=
  [(0x2d, 0x2d, 1), (0x58a, 0x58a, 1), (0x5be, 0x5be, 1), (0x1400, 0x1400, 1), (0x1806, 0x1806, 1),
   (0x2010, 0x2015, 1), (0x2053, 0x2053, 1), (0x207b, 0x207b, 1), (0x208b, 0x208b, 1),
   (0x2212, 0x2212, 1), (0x2e17, 0x2e17, 1), (0x2e1a, 0x2e1a, 1), (0x2e3a, 0x2e3b, 1),
   (0x2e40, 0x2e40, 1), (0x2e5d, 0x2e5d, 1), (0x301c, 0x301c, 1), (0x3030, 0x3030, 1),
   (0x30a0, 0x30a0, 1), (0xfe31, 0xfe32, 1), (0xfe58, 0xfe58, 1), (0xfe63, 0xfe63, 1),
   (0xff0d, 0xff0d, 1), (0x10d6e, 0x10d6e, 1), (0x10ead, 0x10ead, 1)]

/-- Characters whose use is discouraged. -/
def deprecated : List Span :=
  [(0x149, 0x149, 1), (0x673, 0x673, 1), (0xf77, 0xf79, 2), (0x17a3, 0x17a4, 1),
   (0x206a, 0x206f, 1), (0x2329, 0x232a, 1), (0xe0001, 0xe0001, 1)]

/-- Characters that modify the meaning of another. -/
def diacritic : List Span :=
  [(0x5e, 0x60, 2), (0xa8, 0xa8, 1), (0xaf, 0xaf, 1), (0xb4, 0xb4, 1), (0xb7, 0xb8, 1),
   (0x2b0, 0x34e, 1), (0x350, 0x357, 1), (0x35d, 0x362, 1), (0x374, 0x375, 1), (0x37a, 0x37a, 1),
   (0x384, 0x385, 1), (0x483, 0x487, 1), (0x559, 0x559, 1), (0x591, 0x5a1, 1), (0x5a3, 0x5bd, 1),
   (0x5bf, 0x5bf, 1), (0x5c1, 0x5c2, 1), (0x5c4, 0x5c4, 1), (0x64b, 0x652, 1), (0x657, 0x658, 1),
   (0x6df, 0x6e0, 1), (0x6e5, 0x6e6, 1), (0x6ea, 0x6ec, 1), (0x730, 0x74a, 1), (0x7a6, 0x7b0, 1),
   (0x7eb, 0x7f5, 1), (0x818, 0x819, 1), (0x898, 0x89f, 1), (0x8c9, 0x8d2, 1), (0x8e3, 0x8fe, 1),
   (0x93c, 0x93c, 1), (0x94d, 0x94d, 1), (0x951, 0x954, 1), (0x971, 0x971, 1), (0x9bc, 0x9bc, 1),
   (0x9cd, 0x9cd, 1), (0xa3c, 0xa3c, 1), (0xa4d, 0xa4d, 1), (0xabc, 0xabc, 1), (0xacd, 0xacd, 1),
   (0xafd, 0xaff, 1), (0xb3c, 0xb3c, 1), (0xb4d, 0xb4d, 1), (0xb55, 0xb55, 1), (0xbcd, 0xbcd, 1),
   (0xc3c, 0xc3c, 1), (0xc4d, 0xc4d, 1), (0xcbc, 0xcbc, 1), (0xccd, 0xccd, 1), (0xd3b, 0xd3c, 1),
   (0xd4d, 0xd4d, 1), (0xdca, 0xdca, 1), (0xe3a, 0xe3a, 1), (0xe47, 0xe4c, 1), (0xe4e, 0xe4e, 1),
   (0xeba, 0xeba, 1), (0xec8, 0xecc, 1), (0xf18, 0xf19, 1), (0xf35, 0xf39, 2), (0xf3e, 0xf3f, 1),
   (0xf82, 0xf84, 1), (0xf86, 0xf87, 1), (0xfc6, 0xfc6, 1), (0x1037, 0x1037, 1),
   (0x1039, 0x103a, 1), (0x1063, 0x1064, 1), (0x1069, 0x106d, 1), (0x1087, 0x108d, 1),
   (0x108f, 0x108f, 1), (0x109a, 0x109b, 1), (0x135d, 0x135f, 1), (0x1714, 0x1715, 1),
   (0x1734, 0x1734, 1), (0x17c9, 0x17d3, 1), (0x17dd, 0x17dd, 1), (0x1939, 0x193b, 1),
   (0x1a60, 0x1a60, 1), (0x1a75, 0x1a7c, 1), (0x1a7f, 0x1a7f, 1), (0x1ab0, 0x1abe, 1),
   (0x1ac1, 0x1acb, 1), (0x1b34, 0x1b34, 1), (0x1b44, 0x1b44, 1), (0x1b6b, 0x1b73, 1),
   (0x1baa, 0x1bab, 1), (0x1be6, 0x1be6, 1), (0x1bf2, 0x1bf3, 1), (0x1c36, 0x1c37, 1),
   (0x1c78, 0x1c7d, 1), (0x1cd0, 0x1ce8, 1), (0x1ced, 0x1ced, 1), (0x1cf4, 0x1cf4, 1),
   (0x1cf7, 0x1cf9, 1), (0x1d2c, 0x1d6a, 1), (0x1dc4, 0x1dcf, 1), (0x1df5, 0x1dff, 1),
   (0x1fbd, 0x1fbd, 1), (0x1fbf, 0x1fc1, 1), (0x1fcd, 0x1fcf, 1), (0x1fdd, 0x1fdf, 1),
   (0x1fed, 0x1fef, 1), (0x1ffd, 0x1ffe, 1), (0x2cef, 0x2cf1, 1), (0x2e2f, 0x2e2f, 1),
   (0x302a, 0x302f, 1), (0x3099, 0x309c, 1), (0x30fc, 0x30fc, 1), (0xa66f, 0xa66f, 1),
   (0xa67c, 0xa67d, 1), (0xa67f, 0xa67f, 1), (0xa69c, 0xa69d, 1), (0xa6f0, 0xa6f1, 1),
   (0xa700, 0xa721, 1), (0xa788, 0xa78a, 1), (0xa7f8, 0xa7f9, 1), (0xa806, 0xa806, 1),
   (0xa82c, 0xa82c, 1), (0xa8c4, 0xa8c4, 1), (0xa8e0, 0xa8f1, 1), (0xa92b, 0xa92e, 1),
   (0xa953, 0xa953, 1), (0xa9b3, 0xa9b3, 1), (0xa9c0, 0xa9c0, 1), (0xa9e5, 0xa9e5, 1),
   (0xaa7b, 0xaa7d, 1), (0xaabf, 0xaac2, 1), (0xaaf6, 0xaaf6, 1), (0xab5b, 0xab5f, 1),
   (0xab69, 0xab6b, 1), (0xabec, 0xabed, 1), (0xfb1e, 0xfb1e, 1), (0xfe20, 0xfe2f, 1),
   (0xff3e, 0xff40, 2), (0xff70, 0xff70, 1), (0xff9e, 0xff9f, 1), (0xffe3, 0xffe3, 1),
   (0x102e0, 0x102e0, 1), (0x10780, 0x10785, 1), (0x10787, 0x107b0, 1), (0x107b2, 0x107ba, 1),
   (0x10a38, 0x10a3a, 1), (0x10a3f, 0x10a3f, 1), (0x10ae5, 0x10ae6, 1), (0x10d22, 0x10d27, 1),
   (0x10d4e, 0x10d4e, 1), (0x10d69, 0x10d6d, 1), (0x10efd, 0x10eff, 1), (0x10f46, 0x10f50, 1),
   (0x10f82, 0x10f85, 1), (0x11046, 0x11046, 1), (0x11070, 0x11070, 1), (0x110b9, 0x110ba, 1),
   (0x11133, 0x11134, 1), (0x11173, 0x11173, 1), (0x111c0, 0x111c0, 1), (0x111ca, 0x111cc, 1),
   (0x11235, 0x11236, 1), (0x112e9, 0x112ea, 1), (0x1133b, 0x1133c, 1), (0x1134d, 0x1134d, 1),
   (0x11366, 0x1136c, 1), (0x11370, 0x11374, 1), (0x113ce, 0x113d0, 1), (0x113d2, 0x113d3, 1),
   (0x113e1, 0x113e2, 1), (0x11442, 0x11442, 1), (0x11446, 0x11446, 1), (0x114c2, 0x114c3, 1),
   (0x115bf, 0x115c0, 1), (0x1163f, 0x1163f, 1), (0x116b6, 0x116b7, 1), (0x1172b, 0x1172b, 1),
   (0x11839, 0x1183a, 1), (0x1193d, 0x1193e, 1), (0x11943, 0x11943, 1), (0x119e0, 0x119e0, 1),
   (0x11a34, 0x11a34, 1), (0x11a47, 0x11a47, 1), (0x11a99, 0x11a99, 1), (0x11c3f, 0x11c3f, 1),
   (0x11d42, 0x11d42, 1), (0x11d44, 0x11d45, 1), (0x11d97, 0x11d97, 1), (0x11f41, 0x11f42, 1),
   (0x11f5a, 0x11f5a, 1), (0x13447, 0x13455, 1), (0x1612f, 0x1612f, 1), (0x16af0, 0x16af4, 1),
   (0x16b30, 0x16b36, 1), (0x16d6b, 0x16d6c, 1), (0x16f8f, 0x16f9f, 1), (0x16ff0, 0x16ff1, 1),
   (0x1aff0, 0x1aff3, 1), (0x1aff5, 0x1affb, 1), (0x1affd, 0x1affe, 1), (0x1cf00, 0x1cf2d, 1),
   (0x1cf30, 0x1cf46, 1), (0x1d167, 0x1d169, 1), (0x1d16d, 0x1d172, 1), (0x1d17b, 0x1d182, 1),
   (0x1d185, 0x1d18b, 1), (0x1d1aa, 0x1d1ad, 1), (0x1e030, 0x1e06d, 1), (0x1e130, 0x1e136, 1),
   (0x1e2ae, 0x1e2ae, 1), (0x1e2ec, 0x1e2ef, 1), (0x1e5ee, 0x1e5ef, 1), (0x1e8d0, 0x1e8d6, 1),
   (0x1e944, 0x1e946, 1), (0x1e948, 0x1e94a, 1)]

/-- Characters that may be shown as pictures. -/
def emoji : List Span :=
  [(0x23, 0x23, 1), (0x2a, 0x2a, 1), (0x30, 0x39, 1), (0xa9, 0xa9, 1), (0xae, 0xae, 1),
   (0x203c, 0x203c, 1), (0x2049, 0x2049, 1), (0x2122, 0x2122, 1), (0x2139, 0x2139, 1),
   (0x2194, 0x2199, 1), (0x21a9, 0x21aa, 1), (0x231a, 0x231b, 1), (0x2328, 0x2328, 1),
   (0x23cf, 0x23cf, 1), (0x23e9, 0x23f3, 1), (0x23f8, 0x23fa, 1), (0x24c2, 0x24c2, 1),
   (0x25aa, 0x25ab, 1), (0x25b6, 0x25b6, 1), (0x25c0, 0x25c0, 1), (0x25fb, 0x25fe, 1),
   (0x2600, 0x2604, 1), (0x260e, 0x260e, 1), (0x2611, 0x2611, 1), (0x2614, 0x2615, 1),
   (0x2618, 0x2618, 1), (0x261d, 0x261d, 1), (0x2620, 0x2620, 1), (0x2622, 0x2623, 1),
   (0x2626, 0x2626, 1), (0x262a, 0x262a, 1), (0x262e, 0x262f, 1), (0x2638, 0x263a, 1),
   (0x2640, 0x2642, 2), (0x2648, 0x2653, 1), (0x265f, 0x2660, 1), (0x2663, 0x2663, 1),
   (0x2665, 0x2666, 1), (0x2668, 0x2668, 1), (0x267b, 0x267b, 1), (0x267e, 0x267f, 1),
   (0x2692, 0x2697, 1), (0x2699, 0x2699, 1), (0x269b, 0x269c, 1), (0x26a0, 0x26a1, 1),
   (0x26a7, 0x26a7, 1), (0x26aa, 0x26ab, 1), (0x26b0, 0x26b1, 1), (0x26bd, 0x26be, 1),
   (0x26c4, 0x26c5, 1), (0x26c8, 0x26c8, 1), (0x26ce, 0x26cf, 1), (0x26d1, 0x26d1, 1),
   (0x26d3, 0x26d4, 1), (0x26e9, 0x26ea, 1), (0x26f0, 0x26f5, 1), (0x26f7, 0x26fa, 1),
   (0x26fd, 0x26fd, 1), (0x2702, 0x2702, 1), (0x2705, 0x2705, 1), (0x2708, 0x270d, 1),
   (0x270f, 0x270f, 1), (0x2712, 0x2716, 2), (0x271d, 0x271d, 1), (0x2721, 0x2721, 1),
   (0x2728, 0x2728, 1), (0x2733, 0x2734, 1), (0x2744, 0x2744, 1), (0x2747, 0x2747, 1),
   (0x274c, 0x274e, 2), (0x2753, 0x2755, 1), (0x2757, 0x2757, 1), (0x2763, 0x2764, 1),
   (0x2795, 0x2797, 1), (0x27a1, 0x27a1, 1), (0x27b0, 0x27b0, 1), (0x27bf, 0x27bf, 1),
   (0x2934, 0x2935, 1), (0x2b05, 0x2b07, 1), (0x2b1b, 0x2b1c, 1), (0x2b50, 0x2b50, 1),
   (0x2b55, 0x2b55, 1), (0x3030, 0x3030, 1), (0x303d, 0x303d, 1), (0x3297, 0x3299, 2),
   (0x1f004, 0x1f004, 1), (0x1f0cf, 0x1f0cf, 1), (0x1f170, 0x1f171, 1), (0x1f17e, 0x1f17f, 1),
   (0x1f18e, 0x1f18e, 1), (0x1f191, 0x1f19a, 1), (0x1f1e6, 0x1f1ff, 1), (0x1f201, 0x1f202, 1),
   (0x1f21a, 0x1f21a, 1), (0x1f22f, 0x1f22f, 1), (0x1f232, 0x1f23a, 1), (0x1f250, 0x1f251, 1),
   (0x1f300, 0x1f321, 1), (0x1f324, 0x1f393, 1), (0x1f396, 0x1f397, 1), (0x1f399, 0x1f39b, 1),
   (0x1f39e, 0x1f3f0, 1), (0x1f3f3, 0x1f3f5, 1), (0x1f3f7, 0x1f4fd, 1), (0x1f4ff, 0x1f53d, 1),
   (0x1f549, 0x1f54e, 1), (0x1f550, 0x1f567, 1), (0x1f56f, 0x1f570, 1), (0x1f573, 0x1f57a, 1),
   (0x1f587, 0x1f587, 1), (0x1f58a, 0x1f58d, 1), (0x1f590, 0x1f590, 1), (0x1f595, 0x1f596, 1),
   (0x1f5a4, 0x1f5a5, 1), (0x1f5a8, 0x1f5a8, 1), (0x1f5b1, 0x1f5b2, 1), (0x1f5bc, 0x1f5bc, 1),
   (0x1f5c2, 0x1f5c4, 1), (0x1f5d1, 0x1f5d3, 1), (0x1f5dc, 0x1f5de, 1), (0x1f5e1, 0x1f5e3, 2),
   (0x1f5e8, 0x1f5e8, 1), (0x1f5ef, 0x1f5ef, 1), (0x1f5f3, 0x1f5f3, 1), (0x1f5fa, 0x1f64f, 1),
   (0x1f680, 0x1f6c5, 1), (0x1f6cb, 0x1f6d2, 1), (0x1f6d5, 0x1f6d7, 1), (0x1f6dc, 0x1f6e5, 1),
   (0x1f6e9, 0x1f6e9, 1), (0x1f6eb, 0x1f6ec, 1), (0x1f6f0, 0x1f6f0, 1), (0x1f6f3, 0x1f6fc, 1),
   (0x1f7e0, 0x1f7eb, 1), (0x1f7f0, 0x1f7f0, 1), (0x1f90c, 0x1f93a, 1), (0x1f93c, 0x1f945, 1),
   (0x1f947, 0x1f9ff, 1), (0x1fa70, 0x1fa7c, 1), (0x1fa80, 0x1fa89, 1), (0x1fa8f, 0x1fac6, 1),
   (0x1face, 0x1fadc, 1), (0x1fadf, 0x1fae9, 1), (0x1faf0, 0x1faf8, 1)]

/-- Characters that pictures are composed of. -/
def emojiComponent : List Span :=
  [(0x23, 0x23, 1), (0x2a, 0x2a, 1), (0x30, 0x39, 1), (0x200d, 0x200d, 1), (0x20e3, 0x20e3, 1),
   (0xfe0f, 0xfe0f, 1), (0x1f1e6, 0x1f1ff, 1), (0x1f3fb, 0x1f3ff, 1), (0x1f9b0, 0x1f9b3, 1),
   (0xe0020, 0xe007f, 1)]

/-- Characters that modify a picture. -/
def emojiModifier : List Span :=
  [(0x1f3fb, 0x1f3ff, 1)]

/-- Pictures that can be modified. -/
def emojiModifierBase : List Span :=
  [(0x261d, 0x261d, 1), (0x26f9, 0x26f9, 1), (0x270a, 0x270d, 1), (0x1f385, 0x1f385, 1),
   (0x1f3c2, 0x1f3c4, 1), (0x1f3c7, 0x1f3c7, 1), (0x1f3ca, 0x1f3cc, 1), (0x1f442, 0x1f443, 1),
   (0x1f446, 0x1f450, 1), (0x1f466, 0x1f478, 1), (0x1f47c, 0x1f47c, 1), (0x1f481, 0x1f483, 1),
   (0x1f485, 0x1f487, 1), (0x1f48f, 0x1f491, 2), (0x1f4aa, 0x1f4aa, 1), (0x1f574, 0x1f575, 1),
   (0x1f57a, 0x1f57a, 1), (0x1f590, 0x1f590, 1), (0x1f595, 0x1f596, 1), (0x1f645, 0x1f647, 1),
   (0x1f64b, 0x1f64f, 1), (0x1f6a3, 0x1f6a3, 1), (0x1f6b4, 0x1f6b6, 1), (0x1f6c0, 0x1f6c0, 1),
   (0x1f6cc, 0x1f6cc, 1), (0x1f90c, 0x1f90c, 1), (0x1f90f, 0x1f90f, 1), (0x1f918, 0x1f91f, 1),
   (0x1f926, 0x1f926, 1), (0x1f930, 0x1f939, 1), (0x1f93c, 0x1f93e, 1), (0x1f977, 0x1f977, 1),
   (0x1f9b5, 0x1f9b6, 1), (0x1f9b8, 0x1f9b9, 1), (0x1f9bb, 0x1f9bb, 1), (0x1f9cd, 0x1f9cf, 1),
   (0x1f9d1, 0x1f9dd, 1), (0x1fac3, 0x1fac5, 1), (0x1faf0, 0x1faf8, 1)]

/-- Characters that are shown as pictures by default. -/
def emojiPresentation : List Span :=
  [(0x231a, 0x231b, 1), (0x23e9, 0x23ec, 1), (0x23f0, 0x23f0, 1), (0x23f3, 0x23f3, 1),
   (0x25fd, 0x25fe, 1), (0x2614, 0x2615, 1), (0x2648, 0x2653, 1), (0x267f, 0x267f, 1),
   (0x2693, 0x2693, 1), (0x26a1, 0x26a1, 1), (0x26aa, 0x26ab, 1), (0x26bd, 0x26be, 1),
   (0x26c4, 0x26c5, 1), (0x26ce, 0x26ce, 1), (0x26d4, 0x26d4, 1), (0x26ea, 0x26ea, 1),
   (0x26f2, 0x26f3, 1), (0x26f5, 0x26f5, 1), (0x26fa, 0x26fa, 1), (0x26fd, 0x26fd, 1),
   (0x2705, 0x2705, 1), (0x270a, 0x270b, 1), (0x2728, 0x2728, 1), (0x274c, 0x274e, 2),
   (0x2753, 0x2755, 1), (0x2757, 0x2757, 1), (0x2795, 0x2797, 1), (0x27b0, 0x27b0, 1),
   (0x27bf, 0x27bf, 1), (0x2b1b, 0x2b1c, 1), (0x2b50, 0x2b50, 1), (0x2b55, 0x2b55, 1),
   (0x1f004, 0x1f004, 1), (0x1f0cf, 0x1f0cf, 1), (0x1f18e, 0x1f18e, 1), (0x1f191, 0x1f19a, 1),
   (0x1f1e6, 0x1f1ff, 1), (0x1f201, 0x1f201, 1), (0x1f21a, 0x1f21a, 1), (0x1f22f, 0x1f22f, 1),
   (0x1f232, 0x1f236, 1), (0x1f238, 0x1f23a, 1), (0x1f250, 0x1f251, 1), (0x1f300, 0x1f320, 1),
   (0x1f32d, 0x1f335, 1), (0x1f337, 0x1f37c, 1), (0x1f37e, 0x1f393, 1), (0x1f3a0, 0x1f3ca, 1),
   (0x1f3cf, 0x1f3d3, 1), (0x1f3e0, 0x1f3f0, 1), (0x1f3f4, 0x1f3f4, 1), (0x1f3f8, 0x1f43e, 1),
   (0x1f440, 0x1f440, 1), (0x1f442, 0x1f4fc, 1), (0x1f4ff, 0x1f53d, 1), (0x1f54b, 0x1f54e, 1),
   (0x1f550, 0x1f567, 1), (0x1f57a, 0x1f57a, 1), (0x1f595, 0x1f596, 1), (0x1f5a4, 0x1f5a4, 1),
   (0x1f5fb, 0x1f64f, 1), (0x1f680, 0x1f6c5, 1), (0x1f6cc, 0x1f6cc, 1), (0x1f6d0, 0x1f6d2, 1),
   (0x1f6d5, 0x1f6d7, 1), (0x1f6dc, 0x1f6df, 1), (0x1f6eb, 0x1f6ec, 1), (0x1f6f4, 0x1f6fc, 1),
   (0x1f7e0, 0x1f7eb, 1), (0x1f7f0, 0x1f7f0, 1), (0x1f90c, 0x1f93a, 1), (0x1f93c, 0x1f945, 1),
   (0x1f947, 0x1f9ff, 1), (0x1fa70, 0x1fa7c, 1), (0x1fa80, 0x1fa89, 1), (0x1fa8f, 0x1fac6, 1),
   (0x1face, 0x1fadc, 1), (0x1fadf, 0x1fae9, 1), (0x1faf0, 0x1faf8, 1)]

/-- Pictures and code points kept for them. -/
def extendedPictographic : List Span :=
  [(0xa9, 0xa9, 1), (0xae, 0xae, 1), (0x203c, 0x203c, 1), (0x2049, 0x2049, 1), (0x2122, 0x2122, 1),
   (0x2139, 0x2139, 1), (0x2194, 0x2199, 1), (0x21a9, 0x21aa, 1), (0x231a, 0x231b, 1),
   (0x2328, 0x2328, 1), (0x2388, 0x2388, 1), (0x23cf, 0x23cf, 1), (0x23e9, 0x23f3, 1),
   (0x23f8, 0x23fa, 1), (0x24c2, 0x24c2, 1), (0x25aa, 0x25ab, 1), (0x25b6, 0x25b6, 1),
   (0x25c0, 0x25c0, 1), (0x25fb, 0x25fe, 1), (0x2600, 0x2605, 1), (0x2607, 0x2612, 1),
   (0x2614, 0x2685, 1), (0x2690, 0x2705, 1), (0x2708, 0x2712, 1), (0x2714, 0x2716, 2),
   (0x271d, 0x271d, 1), (0x2721, 0x2721, 1), (0x2728, 0x2728, 1), (0x2733, 0x2734, 1),
   (0x2744, 0x2744, 1), (0x2747, 0x2747, 1), (0x274c, 0x274e, 2), (0x2753, 0x2755, 1),
   (0x2757, 0x2757, 1), (0x2763, 0x2767, 1), (0x2795, 0x2797, 1), (0x27a1, 0x27a1, 1),
   (0x27b0, 0x27b0, 1), (0x27bf, 0x27bf, 1), (0x2934, 0x2935, 1), (0x2b05, 0x2b07, 1),
   (0x2b1b, 0x2b1c, 1), (0x2b50, 0x2b50, 1), (0x2b55, 0x2b55, 1), (0x3030, 0x3030, 1),
   (0x303d, 0x303d, 1), (0x3297, 0x3299, 2), (0x1f000, 0x1f0ff, 1), (0x1f10d, 0x1f10f, 1),
   (0x1f12f, 0x1f12f, 1), (0x1f16c, 0x1f171, 1), (0x1f17e, 0x1f17f, 1), (0x1f18e, 0x1f18e, 1),
   (0x1f191, 0x1f19a, 1), (0x1f1ad, 0x1f1e5, 1), (0x1f201, 0x1f20f, 1), (0x1f21a, 0x1f21a, 1),
   (0x1f22f, 0x1f22f, 1), (0x1f232, 0x1f23a, 1), (0x1f23c, 0x1f23f, 1), (0x1f249, 0x1f3fa, 1),
   (0x1f400, 0x1f53d, 1), (0x1f546, 0x1f64f, 1), (0x1f680, 0x1f6ff, 1), (0x1f774, 0x1f77f, 1),
   (0x1f7d5, 0x1f7ff, 1), (0x1f80c, 0x1f80f, 1), (0x1f848, 0x1f84f, 1), (0x1f85a, 0x1f85f, 1),
   (0x1f888, 0x1f88f, 1), (0x1f8ae, 0x1f8ff, 1), (0x1f90c, 0x1f93a, 1), (0x1f93c, 0x1f945, 1),
   (0x1f947, 0x1faff, 1), (0x1fc00, 0x1fffd, 1)]

/-- Characters that lengthen the one before them. -/
def extender : List Span :=
  [(0xb7, 0xb7, 1), (0x2d0, 0x2d1, 1), (0x640, 0x640, 1), (0x7fa, 0x7fa, 1), (0xa71, 0xa71, 1),
   (0xafb, 0xafb, 1), (0xb55, 0xb55, 1), (0xe46, 0xe46, 1), (0xec6, 0xec6, 1), (0x180a, 0x180a, 1),
   (0x1843, 0x1843, 1), (0x1aa7, 0x1aa7, 1), (0x1c36, 0x1c36, 1), (0x1c7b, 0x1c7b, 1),
   (0x3005, 0x3005, 1), (0x3031, 0x3035, 1), (0x309d, 0x309e, 1), (0x30fc, 0x30fe, 1),
   (0xa015, 0xa015, 1), (0xa60c, 0xa60c, 1), (0xa9cf, 0xa9cf, 1), (0xa9e6, 0xa9e6, 1),
   (0xaa70, 0xaa70, 1), (0xaadd, 0xaadd, 1), (0xaaf3, 0xaaf4, 1), (0xff70, 0xff70, 1),
   (0x10781, 0x10782, 1), (0x10d4e, 0x10d4e, 1), (0x10d6a, 0x10d6a, 1), (0x10d6f, 0x10d6f, 1),
   (0x11237, 0x11237, 1), (0x1135d, 0x1135d, 1), (0x113d2, 0x113d3, 1), (0x115c6, 0x115c8, 1),
   (0x11a98, 0x11a98, 1), (0x16b42, 0x16b43, 1), (0x16fe0, 0x16fe1, 1), (0x16fe3, 0x16fe3, 1),
   (0x1e13c, 0x1e13d, 1), (0x1e5ef, 0x1e5ef, 1), (0x1e944, 0x1e946, 1)]

/-- Characters that join two letters into one. -/
def graphemeLink : List Span :=
  [(0x94d, 0x94d, 1), (0x9cd, 0x9cd, 1), (0xa4d, 0xa4d, 1), (0xacd, 0xacd, 1), (0xb4d, 0xb4d, 1),
   (0xbcd, 0xbcd, 1), (0xc4d, 0xc4d, 1), (0xccd, 0xccd, 1), (0xd3b, 0xd3c, 1), (0xd4d, 0xd4d, 1),
   (0xdca, 0xdca, 1), (0xe3a, 0xe3a, 1), (0xeba, 0xeba, 1), (0xf84, 0xf84, 1), (0x1039, 0x103a, 1),
   (0x1714, 0x1715, 1), (0x1734, 0x1734, 1), (0x17d2, 0x17d2, 1), (0x1a60, 0x1a60, 1),
   (0x1b44, 0x1b44, 1), (0x1baa, 0x1bab, 1), (0x1bf2, 0x1bf3, 1), (0x2d7f, 0x2d7f, 1),
   (0xa806, 0xa806, 1), (0xa82c, 0xa82c, 1), (0xa8c4, 0xa8c4, 1), (0xa953, 0xa953, 1),
   (0xa9c0, 0xa9c0, 1), (0xaaf6, 0xaaf6, 1), (0xabed, 0xabed, 1), (0x10a3f, 0x10a3f, 1),
   (0x11046, 0x11046, 1), (0x11070, 0x11070, 1), (0x1107f, 0x1107f, 1), (0x110b9, 0x110b9, 1),
   (0x11133, 0x11134, 1), (0x111c0, 0x111c0, 1), (0x11235, 0x11235, 1), (0x112ea, 0x112ea, 1),
   (0x1134d, 0x1134d, 1), (0x113ce, 0x113d0, 1), (0x11442, 0x11442, 1), (0x114c2, 0x114c2, 1),
   (0x115bf, 0x115bf, 1), (0x1163f, 0x1163f, 1), (0x116b6, 0x116b6, 1), (0x1172b, 0x1172b, 1),
   (0x11839, 0x11839, 1), (0x1193d, 0x1193e, 1), (0x119e0, 0x119e0, 1), (0x11a34, 0x11a34, 1),
   (0x11a47, 0x11a47, 1), (0x11a99, 0x11a99, 1), (0x11c3f, 0x11c3f, 1), (0x11d44, 0x11d45, 1),
   (0x11d97, 0x11d97, 1), (0x11f41, 0x11f42, 1), (0x1612f, 0x1612f, 1)]

/-- Digits of base sixteen. -/
def hexDigit : List Span :=
  [(0x30, 0x39, 1), (0x41, 0x46, 1), (0x61, 0x66, 1), (0xff10, 0xff19, 1), (0xff21, 0xff26, 1),
   (0xff41, 0xff46, 1)]

/-- Dashes that connect pieces of words. -/
def hyphen : List Span :=
  [(0x2d, 0x2d, 1), (0xad, 0xad, 1), (0x58a, 0x58a, 1), (0x1806, 0x1806, 1), (0x2010, 0x2011, 1),
   (0x2e17, 0x2e17, 1), (0x30fb, 0x30fb, 1), (0xfe63, 0xfe63, 1), (0xff0d, 0xff0d, 1),
   (0xff65, 0xff65, 1)]

/-- Operators with two operands that describe ideographs. -/
def idsBinaryOperator : List Span :=
  [(0x2ff0, 0x2ff1, 1), (0x2ff4, 0x2ffd, 1), (0x31ef, 0x31ef, 1)]

/-- Operators with three operands that describe ideographs. -/
def idsTrinaryOperator : List Span :=
  [(0x2ff2, 0x2ff3, 1)]

/-- Operators with one operand that describe ideographs. -/
def idsUnaryOperator : List Span :=
  [(0x2ffe, 0x2fff, 1)]

/-- Mathematical characters that identifiers may hold. -/
def idCompatMathContinue : List Span :=
  [(0xb2, 0xb3, 1), (0xb9, 0xb9, 1), (0x2070, 0x2070, 1), (0x2074, 0x207e, 1), (0x2080, 0x208e, 1),
   (0x2202, 0x2202, 1), (0x2207, 0x2207, 1), (0x221e, 0x221e, 1), (0x1d6c1, 0x1d6c1, 1),
   (0x1d6db, 0x1d6db, 1), (0x1d6fb, 0x1d6fb, 1), (0x1d715, 0x1d715, 1), (0x1d735, 0x1d735, 1),
   (0x1d74f, 0x1d74f, 1), (0x1d76f, 0x1d76f, 1), (0x1d789, 0x1d789, 1), (0x1d7a9, 0x1d7a9, 1),
   (0x1d7c3, 0x1d7c3, 1)]

/-- Mathematical characters that identifiers may begin with. -/
def idCompatMathStart : List Span :=
  [(0x2202, 0x2202, 1), (0x2207, 0x2207, 1), (0x221e, 0x221e, 1), (0x1d6c1, 0x1d6c1, 1),
   (0x1d6db, 0x1d6db, 1), (0x1d6fb, 0x1d6fb, 1), (0x1d715, 0x1d715, 1), (0x1d735, 0x1d735, 1),
   (0x1d74f, 0x1d74f, 1), (0x1d76f, 0x1d76f, 1), (0x1d789, 0x1d789, 1), (0x1d7a9, 0x1d7a9, 1),
   (0x1d7c3, 0x1d7c3, 1)]

/-- Ideographs. -/
def ideographic : List Span :=
  [(0x3006, 0x3007, 1), (0x3021, 0x3029, 1), (0x3038, 0x303a, 1), (0x3400, 0x4dbf, 1),
   (0x4e00, 0x9fff, 1), (0xf900, 0xfa6d, 1), (0xfa70, 0xfad9, 1), (0x16fe4, 0x16fe4, 1),
   (0x17000, 0x187f7, 1), (0x18800, 0x18cd5, 1), (0x18cff, 0x18d08, 1), (0x1b170, 0x1b2fb, 1),
   (0x20000, 0x2a6df, 1), (0x2a700, 0x2b739, 1), (0x2b740, 0x2b81d, 1), (0x2b820, 0x2cea1, 1),
   (0x2ceb0, 0x2ebe0, 1), (0x2ebf0, 0x2ee5d, 1), (0x2f800, 0x2fa1d, 1), (0x30000, 0x3134a, 1),
   (0x31350, 0x323af, 1)]

/-- The two invisible joiners. -/
def joinControl : List Span :=
  [(0x200c, 0x200d, 1)]

/-- Vowel signs stored in the order they are seen in. -/
def logicalOrderException : List Span :=
  [(0xe40, 0xe44, 1), (0xec0, 0xec4, 1), (0x19b5, 0x19b7, 1), (0x19ba, 0x19ba, 1),
   (0xaab5, 0xaab6, 1), (0xaab9, 0xaab9, 1), (0xaabb, 0xaabc, 1)]

/-- Marks that modify the mark before them. -/
def modifierCombiningMark : List Span :=
  [(0x654, 0x655, 1), (0x658, 0x658, 1), (0x6dc, 0x6dc, 1), (0x6e3, 0x6e3, 1), (0x6e7, 0x6e8, 1),
   (0x8ca, 0x8cb, 1), (0x8cd, 0x8cf, 1), (0x8d3, 0x8d3, 1), (0x8f3, 0x8f3, 1)]

/-- Code points that are never characters. -/
def noncharacter : List Span :=
  [(0xfdd0, 0xfdef, 1), (0xfffe, 0xffff, 1), (0x1fffe, 0x1ffff, 1), (0x2fffe, 0x2ffff, 1),
   (0x3fffe, 0x3ffff, 1), (0x4fffe, 0x4ffff, 1), (0x5fffe, 0x5ffff, 1), (0x6fffe, 0x6ffff, 1),
   (0x7fffe, 0x7ffff, 1), (0x8fffe, 0x8ffff, 1), (0x9fffe, 0x9ffff, 1), (0xafffe, 0xaffff, 1),
   (0xbfffe, 0xbffff, 1), (0xcfffe, 0xcffff, 1), (0xdfffe, 0xdffff, 1), (0xefffe, 0xeffff, 1),
   (0xffffe, 0xfffff, 1), (0x10fffe, 0x10ffff, 1)]

/-- Characters ignored in display, outside the format characters. -/
def otherDefaultIgnorable : List Span :=
  [(0x34f, 0x34f, 1), (0x115f, 0x1160, 1), (0x17b4, 0x17b5, 1), (0x2065, 0x2065, 1),
   (0x3164, 0x3164, 1), (0xffa0, 0xffa0, 1), (0xfff0, 0xfff8, 1), (0xe0000, 0xe0000, 1),
   (0xe0002, 0xe001f, 1), (0xe0080, 0xe00ff, 1), (0xe01f0, 0xe0fff, 1)]

/-- Characters that identifiers may hold for the sake of older texts. -/
def otherIdContinue : List Span :=
  [(0xb7, 0xb7, 1), (0x387, 0x387, 1), (0x1369, 0x1371, 1), (0x19da, 0x19da, 1),
   (0x200c, 0x200d, 1), (0x30fb, 0x30fb, 1), (0xff65, 0xff65, 1)]

/-- Characters that identifiers may begin with for the sake of older texts. -/
def otherIdStart : List Span :=
  [(0x1885, 0x1886, 1), (0x2118, 0x2118, 1), (0x212e, 0x212e, 1), (0x309b, 0x309c, 1)]

/-- Mathematical characters outside the mathematical symbols. -/
def otherMath : List Span :=
  [(0x5e, 0x5e, 1), (0x3d0, 0x3d2, 1), (0x3d5, 0x3d5, 1), (0x3f0, 0x3f1, 1), (0x3f4, 0x3f5, 1),
   (0x2016, 0x2016, 1), (0x2032, 0x2034, 1), (0x2040, 0x2040, 1), (0x2061, 0x2064, 1),
   (0x207d, 0x207e, 1), (0x208d, 0x208e, 1), (0x20d0, 0x20dc, 1), (0x20e1, 0x20e1, 1),
   (0x20e5, 0x20e6, 1), (0x20eb, 0x20ef, 1), (0x2102, 0x2102, 1), (0x2107, 0x2107, 1),
   (0x210a, 0x2113, 1), (0x2115, 0x2115, 1), (0x2119, 0x211d, 1), (0x2124, 0x2124, 1),
   (0x2128, 0x2129, 1), (0x212c, 0x212d, 1), (0x212f, 0x2131, 1), (0x2133, 0x2138, 1),
   (0x213c, 0x213f, 1), (0x2145, 0x2149, 1), (0x2195, 0x2199, 1), (0x219c, 0x219f, 1),
   (0x21a1, 0x21a2, 1), (0x21a4, 0x21a5, 1), (0x21a7, 0x21a7, 1), (0x21a9, 0x21ad, 1),
   (0x21b0, 0x21b1, 1), (0x21b6, 0x21b7, 1), (0x21bc, 0x21cd, 1), (0x21d0, 0x21d1, 1),
   (0x21d3, 0x21d3, 1), (0x21d5, 0x21db, 1), (0x21dd, 0x21dd, 1), (0x21e4, 0x21e5, 1),
   (0x2308, 0x230b, 1), (0x23b4, 0x23b5, 1), (0x23b7, 0x23b7, 1), (0x23d0, 0x23d0, 1),
   (0x23e2, 0x23e2, 1), (0x25a0, 0x25a1, 1), (0x25ae, 0x25b6, 1), (0x25bc, 0x25c0, 1),
   (0x25c6, 0x25c7, 1), (0x25ca, 0x25cb, 1), (0x25cf, 0x25d3, 1), (0x25e2, 0x25e4, 2),
   (0x25e7, 0x25ec, 1), (0x2605, 0x2606, 1), (0x2640, 0x2642, 2), (0x2660, 0x2663, 1),
   (0x266d, 0x266e, 1), (0x27c5, 0x27c6, 1), (0x27e6, 0x27ef, 1), (0x2983, 0x2998, 1),
   (0x29d8, 0x29db, 1), (0x29fc, 0x29fd, 1), (0xfe61, 0xfe63, 2), (0xfe68, 0xfe68, 1),
   (0xff3c, 0xff3e, 2), (0x1d400, 0x1d454, 1), (0x1d456, 0x1d49c, 1), (0x1d49e, 0x1d49f, 1),
   (0x1d4a2, 0x1d4a2, 1), (0x1d4a5, 0x1d4a6, 1), (0x1d4a9, 0x1d4ac, 1), (0x1d4ae, 0x1d4b9, 1),
   (0x1d4bb, 0x1d4bb, 1), (0x1d4bd, 0x1d4c3, 1), (0x1d4c5, 0x1d505, 1), (0x1d507, 0x1d50a, 1),
   (0x1d50d, 0x1d514, 1), (0x1d516, 0x1d51c, 1), (0x1d51e, 0x1d539, 1), (0x1d53b, 0x1d53e, 1),
   (0x1d540, 0x1d544, 1), (0x1d546, 0x1d546, 1), (0x1d54a, 0x1d550, 1), (0x1d552, 0x1d6a5, 1),
   (0x1d6a8, 0x1d6c0, 1), (0x1d6c2, 0x1d6da, 1), (0x1d6dc, 0x1d6fa, 1), (0x1d6fc, 0x1d714, 1),
   (0x1d716, 0x1d734, 1), (0x1d736, 0x1d74e, 1), (0x1d750, 0x1d76e, 1), (0x1d770, 0x1d788, 1),
   (0x1d78a, 0x1d7a8, 1), (0x1d7aa, 0x1d7c2, 1), (0x1d7c4, 0x1d7cb, 1), (0x1d7ce, 0x1d7ff, 1),
   (0x1ee00, 0x1ee03, 1), (0x1ee05, 0x1ee1f, 1), (0x1ee21, 0x1ee22, 1), (0x1ee24, 0x1ee24, 1),
   (0x1ee27, 0x1ee27, 1), (0x1ee29, 0x1ee32, 1), (0x1ee34, 0x1ee37, 1), (0x1ee39, 0x1ee3b, 2),
   (0x1ee42, 0x1ee42, 1), (0x1ee47, 0x1ee4b, 2), (0x1ee4d, 0x1ee4f, 1), (0x1ee51, 0x1ee52, 1),
   (0x1ee54, 0x1ee54, 1), (0x1ee57, 0x1ee5f, 2), (0x1ee61, 0x1ee62, 1), (0x1ee64, 0x1ee64, 1),
   (0x1ee67, 0x1ee6a, 1), (0x1ee6c, 0x1ee72, 1), (0x1ee74, 0x1ee77, 1), (0x1ee79, 0x1ee7c, 1),
   (0x1ee7e, 0x1ee7e, 1), (0x1ee80, 0x1ee89, 1), (0x1ee8b, 0x1ee9b, 1), (0x1eea1, 0x1eea3, 1),
   (0x1eea5, 0x1eea9, 1), (0x1eeab, 0x1eebb, 1)]

/-- Characters kept for the syntax of patterns. -/
def patternSyntax : List Span :=
  [(0x21, 0x2f, 1), (0x3a, 0x40, 1), (0x5b, 0x5e, 1), (0x60, 0x60, 1), (0x7b, 0x7e, 1),
   (0xa1, 0xa7, 1), (0xa9, 0xa9, 1), (0xab, 0xac, 1), (0xae, 0xae, 1), (0xb0, 0xb1, 1),
   (0xb6, 0xb6, 1), (0xbb, 0xbb, 1), (0xbf, 0xbf, 1), (0xd7, 0xd7, 1), (0xf7, 0xf7, 1),
   (0x2010, 0x2027, 1), (0x2030, 0x203e, 1), (0x2041, 0x2053, 1), (0x2055, 0x205e, 1),
   (0x2190, 0x245f, 1), (0x2500, 0x2775, 1), (0x2794, 0x2bff, 1), (0x2e00, 0x2e7f, 1),
   (0x3001, 0x3003, 1), (0x3008, 0x3020, 1), (0x3030, 0x3030, 1), (0xfd3e, 0xfd3f, 1),
   (0xfe45, 0xfe46, 1)]

/-- White space in the syntax of patterns. -/
def patternWhiteSpace : List Span :=
  [(0x9, 0xd, 1), (0x20, 0x20, 1), (0x85, 0x85, 1), (0x200e, 0x200f, 1), (0x2028, 0x2029, 1)]

/-- Signs that stand before the digits they enclose. -/
def prependedConcatenationMark : List Span :=
  [(0x600, 0x605, 1), (0x6dd, 0x6dd, 1), (0x70f, 0x70f, 1), (0x890, 0x891, 1), (0x8e2, 0x8e2, 1),
   (0x110bd, 0x110bd, 1), (0x110cd, 0x110cd, 1)]

/-- Quotation marks. -/
def quotationMark : List Span :=
  [(0x22, 0x22, 1), (0x27, 0x27, 1), (0xab, 0xab, 1), (0xbb, 0xbb, 1), (0x2018, 0x201f, 1),
   (0x2039, 0x203a, 1), (0x2e42, 0x2e42, 1), (0x300c, 0x300f, 1), (0x301d, 0x301f, 1),
   (0xfe41, 0xfe44, 1), (0xff02, 0xff02, 1), (0xff07, 0xff07, 1), (0xff62, 0xff63, 1)]

/-- Radicals of ideographs. -/
def radical : List Span :=
  [(0x2e80, 0x2e99, 1), (0x2e9b, 0x2ef3, 1), (0x2f00, 0x2fd5, 1)]

/-- Letters of which flags are composed. -/
def regionalIndicator : List Span :=
  [(0x1f1e6, 0x1f1ff, 1)]

/-- Punctuation that ends a sentence. -/
def sentenceTerminal : List Span :=
  [(0x21, 0x21, 1), (0x2e, 0x2e, 1), (0x3f, 0x3f, 1), (0x589, 0x589, 1), (0x61d, 0x61f, 1),
   (0x6d4, 0x6d4, 1), (0x700, 0x702, 1), (0x7f9, 0x7f9, 1), (0x837, 0x839, 2), (0x83d, 0x83e, 1),
   (0x964, 0x965, 1), (0x104a, 0x104b, 1), (0x1362, 0x1362, 1), (0x1367, 0x1368, 1),
   (0x166e, 0x166e, 1), (0x1735, 0x1736, 1), (0x17d4, 0x17d5, 1), (0x1803, 0x1803, 1),
   (0x1809, 0x1809, 1), (0x1944, 0x1945, 1), (0x1aa8, 0x1aab, 1), (0x1b4e, 0x1b4f, 1),
   (0x1b5a, 0x1b5b, 1), (0x1b5e, 0x1b5f, 1), (0x1b7d, 0x1b7f, 1), (0x1c3b, 0x1c3c, 1),
   (0x1c7e, 0x1c7f, 1), (0x2024, 0x2024, 1), (0x203c, 0x203d, 1), (0x2047, 0x2049, 1),
   (0x2cf9, 0x2cfb, 1), (0x2e2e, 0x2e2e, 1), (0x2e3c, 0x2e3c, 1), (0x2e53, 0x2e54, 1),
   (0x3002, 0x3002, 1), (0xa4ff, 0xa4ff, 1), (0xa60e, 0xa60f, 1), (0xa6f3, 0xa6f3, 1),
   (0xa6f7, 0xa6f7, 1), (0xa876, 0xa877, 1), (0xa8ce, 0xa8cf, 1), (0xa92f, 0xa92f, 1),
   (0xa9c8, 0xa9c9, 1), (0xaa5d, 0xaa5f, 1), (0xaaf0, 0xaaf1, 1), (0xabeb, 0xabeb, 1),
   (0xfe12, 0xfe12, 1), (0xfe15, 0xfe16, 1), (0xfe52, 0xfe52, 1), (0xfe56, 0xfe57, 1),
   (0xff01, 0xff01, 1), (0xff0e, 0xff0e, 1), (0xff1f, 0xff1f, 1), (0xff61, 0xff61, 1),
   (0x10a56, 0x10a57, 1), (0x10f55, 0x10f59, 1), (0x10f86, 0x10f89, 1), (0x11047, 0x11048, 1),
   (0x110be, 0x110c1, 1), (0x11141, 0x11143, 1), (0x111c5, 0x111c6, 1), (0x111cd, 0x111cd, 1),
   (0x111de, 0x111df, 1), (0x11238, 0x11239, 1), (0x1123b, 0x1123c, 1), (0x112a9, 0x112a9, 1),
   (0x113d4, 0x113d5, 1), (0x1144b, 0x1144c, 1), (0x115c2, 0x115c3, 1), (0x115c9, 0x115d7, 1),
   (0x11641, 0x11642, 1), (0x1173c, 0x1173e, 1), (0x11944, 0x11946, 2), (0x11a42, 0x11a43, 1),
   (0x11a9b, 0x11a9c, 1), (0x11c41, 0x11c42, 1), (0x11ef7, 0x11ef8, 1), (0x11f43, 0x11f44, 1),
   (0x16a6e, 0x16a6f, 1), (0x16af5, 0x16af5, 1), (0x16b37, 0x16b38, 1), (0x16b44, 0x16b44, 1),
   (0x16d6e, 0x16d6f, 1), (0x16e98, 0x16e98, 1), (0x1bc9f, 0x1bc9f, 1), (0x1da88, 0x1da88, 1)]

/-- Letters whose dot gives way to a mark above. -/
def softDotted : List Span :=
  [(0x69, 0x6a, 1), (0x12f, 0x12f, 1), (0x249, 0x249, 1), (0x268, 0x268, 1), (0x29d, 0x29d, 1),
   (0x2b2, 0x2b2, 1), (0x3f3, 0x3f3, 1), (0x456, 0x458, 2), (0x1d62, 0x1d62, 1),
   (0x1d96, 0x1d96, 1), (0x1da4, 0x1da4, 1), (0x1da8, 0x1da8, 1), (0x1e2d, 0x1e2d, 1),
   (0x1ecb, 0x1ecb, 1), (0x2071, 0x2071, 1), (0x2148, 0x2149, 1), (0x2c7c, 0x2c7c, 1),
   (0x1d422, 0x1d423, 1), (0x1d456, 0x1d457, 1), (0x1d48a, 0x1d48b, 1), (0x1d4be, 0x1d4bf, 1),
   (0x1d4f2, 0x1d4f3, 1), (0x1d526, 0x1d527, 1), (0x1d55a, 0x1d55b, 1), (0x1d58e, 0x1d58f, 1),
   (0x1d5c2, 0x1d5c3, 1), (0x1d5f6, 0x1d5f7, 1), (0x1d62a, 0x1d62b, 1), (0x1d65e, 0x1d65f, 1),
   (0x1d692, 0x1d693, 1), (0x1df1a, 0x1df1a, 1), (0x1e04c, 0x1e04d, 1), (0x1e068, 0x1e068, 1)]

/-- Punctuation that ends a piece of text. -/
def terminalPunctuation : List Span :=
  [(0x21, 0x21, 1), (0x2c, 0x2e, 2), (0x3a, 0x3b, 1), (0x3f, 0x3f, 1), (0x37e, 0x37e, 1),
   (0x387, 0x387, 1), (0x589, 0x589, 1), (0x5c3, 0x5c3, 1), (0x60c, 0x60c, 1), (0x61b, 0x61b, 1),
   (0x61d, 0x61f, 1), (0x6d4, 0x6d4, 1), (0x700, 0x70a, 1), (0x70c, 0x70c, 1), (0x7f8, 0x7f9, 1),
   (0x830, 0x835, 1), (0x837, 0x83e, 1), (0x85e, 0x85e, 1), (0x964, 0x965, 1), (0xe5a, 0xe5b, 1),
   (0xf08, 0xf08, 1), (0xf0d, 0xf12, 1), (0x104a, 0x104b, 1), (0x1361, 0x1368, 1),
   (0x166e, 0x166e, 1), (0x16eb, 0x16ed, 1), (0x1735, 0x1736, 1), (0x17d4, 0x17d6, 1),
   (0x17da, 0x17da, 1), (0x1802, 0x1805, 1), (0x1808, 0x1809, 1), (0x1944, 0x1945, 1),
   (0x1aa8, 0x1aab, 1), (0x1b4e, 0x1b4f, 1), (0x1b5a, 0x1b5b, 1), (0x1b5d, 0x1b5f, 1),
   (0x1b7d, 0x1b7f, 1), (0x1c3b, 0x1c3f, 1), (0x1c7e, 0x1c7f, 1), (0x2024, 0x2024, 1),
   (0x203c, 0x203d, 1), (0x2047, 0x2049, 1), (0x2cf9, 0x2cfb, 1), (0x2e2e, 0x2e2e, 1),
   (0x2e3c, 0x2e3c, 1), (0x2e41, 0x2e41, 1), (0x2e4c, 0x2e4c, 1), (0x2e4e, 0x2e4f, 1),
   (0x2e53, 0x2e54, 1), (0x3001, 0x3002, 1), (0xa4fe, 0xa4ff, 1), (0xa60d, 0xa60f, 1),
   (0xa6f3, 0xa6f7, 1), (0xa876, 0xa877, 1), (0xa8ce, 0xa8cf, 1), (0xa92f, 0xa92f, 1),
   (0xa9c7, 0xa9c9, 1), (0xaa5d, 0xaa5f, 1), (0xaadf, 0xaadf, 1), (0xaaf0, 0xaaf1, 1),
   (0xabeb, 0xabeb, 1), (0xfe12, 0xfe12, 1), (0xfe15, 0xfe16, 1), (0xfe50, 0xfe52, 1),
   (0xfe54, 0xfe57, 1), (0xff01, 0xff01, 1), (0xff0c, 0xff0e, 2), (0xff1a, 0xff1b, 1),
   (0xff1f, 0xff1f, 1), (0xff61, 0xff61, 1), (0xff64, 0xff64, 1), (0x1039f, 0x1039f, 1),
   (0x103d0, 0x103d0, 1), (0x10857, 0x10857, 1), (0x1091f, 0x1091f, 1), (0x10a56, 0x10a57, 1),
   (0x10af0, 0x10af5, 1), (0x10b3a, 0x10b3f, 1), (0x10b99, 0x10b9c, 1), (0x10f55, 0x10f59, 1),
   (0x10f86, 0x10f89, 1), (0x11047, 0x1104d, 1), (0x110be, 0x110c1, 1), (0x11141, 0x11143, 1),
   (0x111c5, 0x111c6, 1), (0x111cd, 0x111cd, 1), (0x111de, 0x111df, 1), (0x11238, 0x1123c, 1),
   (0x112a9, 0x112a9, 1), (0x113d4, 0x113d5, 1), (0x1144b, 0x1144d, 1), (0x1145a, 0x1145b, 1),
   (0x115c2, 0x115c5, 1), (0x115c9, 0x115d7, 1), (0x11641, 0x11642, 1), (0x1173c, 0x1173e, 1),
   (0x11944, 0x11946, 2), (0x11a42, 0x11a43, 1), (0x11a9b, 0x11a9c, 1), (0x11aa1, 0x11aa2, 1),
   (0x11c41, 0x11c43, 1), (0x11c71, 0x11c71, 1), (0x11ef7, 0x11ef8, 1), (0x11f43, 0x11f44, 1),
   (0x12470, 0x12474, 1), (0x16a6e, 0x16a6f, 1), (0x16af5, 0x16af5, 1), (0x16b37, 0x16b39, 1),
   (0x16b44, 0x16b44, 1), (0x16d6e, 0x16d6f, 1), (0x16e97, 0x16e98, 1), (0x1bc9f, 0x1bc9f, 1),
   (0x1da87, 0x1da8a, 1)]

/-- The unified ideographs. -/
def unifiedIdeograph : List Span :=
  [(0x3400, 0x4dbf, 1), (0x4e00, 0x9fff, 1), (0xfa0e, 0xfa0f, 1), (0xfa11, 0xfa11, 1),
   (0xfa13, 0xfa14, 1), (0xfa1f, 0xfa21, 2), (0xfa23, 0xfa24, 1), (0xfa27, 0xfa29, 1),
   (0x20000, 0x2a6df, 1), (0x2a700, 0x2b739, 1), (0x2b740, 0x2b81d, 1), (0x2b820, 0x2cea1, 1),
   (0x2ceb0, 0x2ebe0, 1), (0x2ebf0, 0x2ee5d, 1), (0x30000, 0x3134a, 1), (0x31350, 0x323af, 1)]

/-- Characters that select a variant of the one before them. -/
def variationSelector : List Span :=
  [(0x180b, 0x180d, 1), (0x180f, 0x180f, 1), (0xfe00, 0xfe0f, 1), (0xe0100, 0xe01ef, 1)]

end Vigil.Pattern.PropertySpans
