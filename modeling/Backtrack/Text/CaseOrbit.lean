import Backtrack.Text.Ranges

/-!
Case orbits: the characters that differ from a character by case alone under
simple case folding.  Most scripts either alternate the two cases or keep them a
fixed distance apart, so the orbits are given by alternating ranges and by
ranges with a distance to go up or down.  They are those of version 16 of the
Unicode Standard.
-/

namespace Backtrack
namespace Text

/-- Ranges that begin with a pair and continue in pairs, each pair one orbit. -/
def alternatingCase : Ranges :=
  [(0x100, 0x12f), (0x132, 0x137), (0x139, 0x148), (0x14a, 0x177), (0x179, 0x17e),
    (0x182, 0x185), (0x187, 0x188), (0x18b, 0x18c), (0x191, 0x192), (0x198, 0x199),
    (0x1a0, 0x1a5), (0x1a7, 0x1a8), (0x1ac, 0x1ad), (0x1af, 0x1b0), (0x1b3, 0x1b6),
    (0x1b8, 0x1b9), (0x1bc, 0x1bd), (0x1cd, 0x1dc), (0x1de, 0x1ef), (0x1f4, 0x1f5),
    (0x1f8, 0x21f), (0x222, 0x233), (0x23b, 0x23c), (0x241, 0x242), (0x246, 0x24f),
    (0x370, 0x373), (0x376, 0x377), (0x3d8, 0x3ef), (0x3f7, 0x3f8), (0x3fa, 0x3fb),
    (0x460, 0x461), (0x464, 0x481), (0x48a, 0x4bf), (0x4c1, 0x4ce), (0x4d0, 0x52f),
    (0x1c89, 0x1c8a), (0x1e00, 0x1e5f), (0x1e62, 0x1e95), (0x1ea0, 0x1eff), (0x2183, 0x2184),
    (0x2c60, 0x2c61), (0x2c67, 0x2c6c), (0x2c72, 0x2c73), (0x2c75, 0x2c76), (0x2c80, 0x2ce3),
    (0x2ceb, 0x2cee), (0x2cf2, 0x2cf3), (0xa640, 0xa649), (0xa64c, 0xa66d), (0xa680, 0xa69b),
    (0xa722, 0xa72f), (0xa732, 0xa76f), (0xa779, 0xa77c), (0xa77e, 0xa787), (0xa78b, 0xa78c),
    (0xa790, 0xa793), (0xa796, 0xa7a9), (0xa7b4, 0xa7c3), (0xa7c7, 0xa7ca), (0xa7cc, 0xa7cd),
    (0xa7d0, 0xa7d1), (0xa7d6, 0xa7db), (0xa7f5, 0xa7f6), (0xfb05, 0xfb06)]

/-- Ranges whose members have another case the given distance above. -/
def caseAbove : List (Nat × Nat × Nat) :=
  [(0x41, 0x5a, 0x20), (0x4b, 0x4b, 0x20df), (0x53, 0x53, 0x12c), (0x6b, 0x6b, 0x20bf),
    (0x73, 0x73, 0x10c), (0xb5, 0xb5, 0x2e7), (0xb5, 0xb5, 0x307), (0xc0, 0xd6, 0x20),
    (0xc5, 0xc5, 0x2066), (0xd8, 0xde, 0x20), (0xdf, 0xdf, 0x1dbf), (0xe5, 0xe5, 0x2046),
    (0xff, 0xff, 0x79), (0x180, 0x180, 0xc3), (0x181, 0x181, 0xd2), (0x186, 0x186, 0xce),
    (0x189, 0x18a, 0xcd), (0x18e, 0x18e, 0x4f), (0x18f, 0x18f, 0xca), (0x190, 0x190, 0xcb),
    (0x193, 0x193, 0xcd), (0x194, 0x194, 0xcf), (0x195, 0x195, 0x61), (0x196, 0x196, 0xd3),
    (0x197, 0x197, 0xd1), (0x19a, 0x19a, 0xa3), (0x19b, 0x19b, 0xa641), (0x19c, 0x19c, 0xd3),
    (0x19d, 0x19d, 0xd5), (0x19e, 0x19e, 0x82), (0x19f, 0x19f, 0xd6), (0x1a6, 0x1a6, 0xda),
    (0x1a9, 0x1a9, 0xda), (0x1ae, 0x1ae, 0xda), (0x1b1, 0x1b2, 0xd9), (0x1b7, 0x1b7, 0xdb),
    (0x1bf, 0x1bf, 0x38), (0x1c4, 0x1c5, 0x1), (0x1c4, 0x1c4, 0x2), (0x1c7, 0x1c8, 0x1),
    (0x1c7, 0x1c7, 0x2), (0x1ca, 0x1cb, 0x1), (0x1ca, 0x1ca, 0x2), (0x1f1, 0x1f2, 0x1),
    (0x1f1, 0x1f1, 0x2), (0x23a, 0x23a, 0x2a2b), (0x23e, 0x23e, 0x2a28),
    (0x23f, 0x240, 0x2a3f), (0x244, 0x244, 0x45), (0x245, 0x245, 0x47),
    (0x250, 0x250, 0x2a1f), (0x251, 0x251, 0x2a1c), (0x252, 0x252, 0x2a1e),
    (0x25c, 0x25c, 0xa54f), (0x261, 0x261, 0xa54b), (0x264, 0x264, 0xa567),
    (0x265, 0x265, 0xa528), (0x266, 0x266, 0xa544), (0x26a, 0x26a, 0xa544),
    (0x26b, 0x26b, 0x29f7), (0x26c, 0x26c, 0xa541), (0x271, 0x271, 0x29fd),
    (0x27d, 0x27d, 0x29e7), (0x282, 0x282, 0xa543), (0x287, 0x287, 0xa52a),
    (0x29d, 0x29d, 0xa515), (0x29e, 0x29e, 0xa512), (0x345, 0x345, 0x54),
    (0x345, 0x345, 0x74), (0x345, 0x345, 0x1c79), (0x37b, 0x37d, 0x82), (0x37f, 0x37f, 0x74),
    (0x386, 0x386, 0x26), (0x388, 0x38a, 0x25), (0x38c, 0x38c, 0x40), (0x38e, 0x38f, 0x3f),
    (0x390, 0x390, 0x1c43), (0x391, 0x3a1, 0x20), (0x392, 0x392, 0x3e), (0x395, 0x395, 0x60),
    (0x398, 0x398, 0x39), (0x398, 0x398, 0x5c), (0x399, 0x399, 0x1c25), (0x39a, 0x39a, 0x56),
    (0x3a0, 0x3a0, 0x36), (0x3a1, 0x3a1, 0x50), (0x3a3, 0x3a3, 0x1f), (0x3a3, 0x3ab, 0x20),
    (0x3a6, 0x3a6, 0x2f), (0x3a9, 0x3a9, 0x1d7d), (0x3b0, 0x3b0, 0x1c33),
    (0x3b2, 0x3b2, 0x1e), (0x3b5, 0x3b5, 0x40), (0x3b8, 0x3b8, 0x19), (0x3b8, 0x3b8, 0x3c),
    (0x3b9, 0x3b9, 0x1c05), (0x3ba, 0x3ba, 0x36), (0x3c0, 0x3c0, 0x16), (0x3c1, 0x3c1, 0x30),
    (0x3c2, 0x3c2, 0x1), (0x3c6, 0x3c6, 0xf), (0x3c9, 0x3c9, 0x1d5d), (0x3cf, 0x3cf, 0x8),
    (0x3d1, 0x3d1, 0x23), (0x3f2, 0x3f2, 0x7), (0x400, 0x40f, 0x50), (0x410, 0x42f, 0x20),
    (0x412, 0x412, 0x186e), (0x414, 0x414, 0x186d), (0x41e, 0x41e, 0x1864),
    (0x421, 0x422, 0x1862), (0x422, 0x422, 0x1863), (0x42a, 0x42a, 0x185c),
    (0x432, 0x432, 0x184e), (0x434, 0x434, 0x184d), (0x43e, 0x43e, 0x1844),
    (0x441, 0x442, 0x1842), (0x442, 0x442, 0x1843), (0x44a, 0x44a, 0x183c),
    (0x462, 0x462, 0x1), (0x462, 0x462, 0x1825), (0x463, 0x463, 0x1824), (0x4c0, 0x4c0, 0xf),
    (0x531, 0x556, 0x30), (0x10a0, 0x10c5, 0x1c60), (0x10c7, 0x10c7, 0x1c60),
    (0x10cd, 0x10cd, 0x1c60), (0x10d0, 0x10fa, 0xbc0), (0x10fd, 0x10ff, 0xbc0),
    (0x13a0, 0x13ef, 0x97d0), (0x13f0, 0x13f5, 0x8), (0x1c84, 0x1c84, 0x1),
    (0x1c88, 0x1c88, 0x89c2), (0x1c88, 0x1c88, 0x89c3), (0x1d79, 0x1d79, 0x8a04),
    (0x1d7d, 0x1d7d, 0xee6), (0x1d8e, 0x1d8e, 0x8a38), (0x1e60, 0x1e60, 0x1),
    (0x1e60, 0x1e60, 0x3b), (0x1e61, 0x1e61, 0x3a), (0x1f00, 0x1f07, 0x8),
    (0x1f10, 0x1f15, 0x8), (0x1f20, 0x1f27, 0x8), (0x1f30, 0x1f37, 0x8),
    (0x1f40, 0x1f45, 0x8), (0x1f51, 0x1f51, 0x8), (0x1f53, 0x1f53, 0x8),
    (0x1f55, 0x1f55, 0x8), (0x1f57, 0x1f57, 0x8), (0x1f60, 0x1f67, 0x8),
    (0x1f70, 0x1f71, 0x4a), (0x1f72, 0x1f75, 0x56), (0x1f76, 0x1f77, 0x64),
    (0x1f78, 0x1f79, 0x80), (0x1f7a, 0x1f7b, 0x70), (0x1f7c, 0x1f7d, 0x7e),
    (0x1f80, 0x1f87, 0x8), (0x1f90, 0x1f97, 0x8), (0x1fa0, 0x1fa7, 0x8),
    (0x1fb0, 0x1fb1, 0x8), (0x1fb3, 0x1fb3, 0x9), (0x1fc3, 0x1fc3, 0x9),
    (0x1fd0, 0x1fd1, 0x8), (0x1fe0, 0x1fe1, 0x8), (0x1fe5, 0x1fe5, 0x7),
    (0x1ff3, 0x1ff3, 0x9), (0x2132, 0x2132, 0x1c), (0x2160, 0x216f, 0x10),
    (0x24b6, 0x24cf, 0x1a), (0x2c00, 0x2c2f, 0x30), (0xa64a, 0xa64a, 0x1),
    (0xa794, 0xa794, 0x30), (0xa7b3, 0xa7b3, 0x3a0), (0xff21, 0xff3a, 0x20),
    (0x10400, 0x10427, 0x28), (0x104b0, 0x104d3, 0x28), (0x10570, 0x1057a, 0x27),
    (0x1057c, 0x1058a, 0x27), (0x1058c, 0x10592, 0x27), (0x10594, 0x10595, 0x27),
    (0x10c80, 0x10cb2, 0x40), (0x10d50, 0x10d65, 0x20), (0x118a0, 0x118bf, 0x20),
    (0x16e40, 0x16e5f, 0x20), (0x1e900, 0x1e921, 0x22)]

/-- Ranges whose members have another case the given distance below. -/
def caseBelow : List (Nat × Nat × Nat) :=
  [(0x61, 0x7a, 0x20), (0xe0, 0xf6, 0x20), (0xf8, 0xfe, 0x20), (0x178, 0x178, 0x79),
    (0x17f, 0x17f, 0x12c), (0x17f, 0x17f, 0x10c), (0x1c5, 0x1c6, 0x1), (0x1c6, 0x1c6, 0x2),
    (0x1c8, 0x1c9, 0x1), (0x1c9, 0x1c9, 0x2), (0x1cb, 0x1cc, 0x1), (0x1cc, 0x1cc, 0x2),
    (0x1dd, 0x1dd, 0x4f), (0x1f2, 0x1f3, 0x1), (0x1f3, 0x1f3, 0x2), (0x1f6, 0x1f6, 0x61),
    (0x1f7, 0x1f7, 0x38), (0x220, 0x220, 0x82), (0x23d, 0x23d, 0xa3), (0x243, 0x243, 0xc3),
    (0x253, 0x253, 0xd2), (0x254, 0x254, 0xce), (0x256, 0x257, 0xcd), (0x259, 0x259, 0xca),
    (0x25b, 0x25b, 0xcb), (0x260, 0x260, 0xcd), (0x263, 0x263, 0xcf), (0x268, 0x268, 0xd1),
    (0x269, 0x269, 0xd3), (0x26f, 0x26f, 0xd3), (0x272, 0x272, 0xd5), (0x275, 0x275, 0xd6),
    (0x280, 0x280, 0xda), (0x283, 0x283, 0xda), (0x288, 0x288, 0xda), (0x289, 0x289, 0x45),
    (0x28a, 0x28b, 0xd9), (0x28c, 0x28c, 0x47), (0x292, 0x292, 0xdb), (0x399, 0x399, 0x54),
    (0x39c, 0x39c, 0x2e7), (0x3ac, 0x3ac, 0x26), (0x3ad, 0x3af, 0x25), (0x3b1, 0x3c1, 0x20),
    (0x3b9, 0x3b9, 0x74), (0x3bc, 0x3bc, 0x307), (0x3c2, 0x3c2, 0x1f), (0x3c3, 0x3cb, 0x20),
    (0x3c3, 0x3c3, 0x1), (0x3cc, 0x3cc, 0x40), (0x3cd, 0x3ce, 0x3f), (0x3d0, 0x3d0, 0x3e),
    (0x3d0, 0x3d0, 0x1e), (0x3d1, 0x3d1, 0x39), (0x3d1, 0x3d1, 0x19), (0x3d5, 0x3d5, 0x2f),
    (0x3d5, 0x3d5, 0xf), (0x3d6, 0x3d6, 0x36), (0x3d6, 0x3d6, 0x16), (0x3d7, 0x3d7, 0x8),
    (0x3f0, 0x3f0, 0x56), (0x3f0, 0x3f0, 0x36), (0x3f1, 0x3f1, 0x50), (0x3f1, 0x3f1, 0x30),
    (0x3f3, 0x3f3, 0x74), (0x3f4, 0x3f4, 0x5c), (0x3f4, 0x3f4, 0x3c), (0x3f4, 0x3f4, 0x23),
    (0x3f5, 0x3f5, 0x60), (0x3f5, 0x3f5, 0x40), (0x3f9, 0x3f9, 0x7), (0x3fd, 0x3ff, 0x82),
    (0x430, 0x44f, 0x20), (0x450, 0x45f, 0x50), (0x463, 0x463, 0x1), (0x4cf, 0x4cf, 0xf),
    (0x561, 0x586, 0x30), (0x13f8, 0x13fd, 0x8), (0x1c80, 0x1c80, 0x186e),
    (0x1c80, 0x1c80, 0x184e), (0x1c81, 0x1c81, 0x186d), (0x1c81, 0x1c81, 0x184d),
    (0x1c82, 0x1c82, 0x1864), (0x1c82, 0x1c82, 0x1844), (0x1c83, 0x1c84, 0x1862),
    (0x1c83, 0x1c84, 0x1842), (0x1c85, 0x1c85, 0x1863), (0x1c85, 0x1c85, 0x1843),
    (0x1c85, 0x1c85, 0x1), (0x1c86, 0x1c86, 0x185c), (0x1c86, 0x1c86, 0x183c),
    (0x1c87, 0x1c87, 0x1825), (0x1c87, 0x1c87, 0x1824), (0x1c90, 0x1cba, 0xbc0),
    (0x1cbd, 0x1cbf, 0xbc0), (0x1e61, 0x1e61, 0x1), (0x1e9b, 0x1e9b, 0x3b),
    (0x1e9b, 0x1e9b, 0x3a), (0x1e9e, 0x1e9e, 0x1dbf), (0x1f08, 0x1f0f, 0x8),
    (0x1f18, 0x1f1d, 0x8), (0x1f28, 0x1f2f, 0x8), (0x1f38, 0x1f3f, 0x8),
    (0x1f48, 0x1f4d, 0x8), (0x1f59, 0x1f59, 0x8), (0x1f5b, 0x1f5b, 0x8),
    (0x1f5d, 0x1f5d, 0x8), (0x1f5f, 0x1f5f, 0x8), (0x1f68, 0x1f6f, 0x8),
    (0x1f88, 0x1f8f, 0x8), (0x1f98, 0x1f9f, 0x8), (0x1fa8, 0x1faf, 0x8),
    (0x1fb8, 0x1fb9, 0x8), (0x1fba, 0x1fbb, 0x4a), (0x1fbc, 0x1fbc, 0x9),
    (0x1fbe, 0x1fbe, 0x1c79), (0x1fbe, 0x1fbe, 0x1c25), (0x1fbe, 0x1fbe, 0x1c05),
    (0x1fc8, 0x1fcb, 0x56), (0x1fcc, 0x1fcc, 0x9), (0x1fd3, 0x1fd3, 0x1c43),
    (0x1fd8, 0x1fd9, 0x8), (0x1fda, 0x1fdb, 0x64), (0x1fe3, 0x1fe3, 0x1c33),
    (0x1fe8, 0x1fe9, 0x8), (0x1fea, 0x1feb, 0x70), (0x1fec, 0x1fec, 0x7),
    (0x1ff8, 0x1ff9, 0x80), (0x1ffa, 0x1ffb, 0x7e), (0x1ffc, 0x1ffc, 0x9),
    (0x2126, 0x2126, 0x1d7d), (0x2126, 0x2126, 0x1d5d), (0x212a, 0x212a, 0x20df),
    (0x212a, 0x212a, 0x20bf), (0x212b, 0x212b, 0x2066), (0x212b, 0x212b, 0x2046),
    (0x214e, 0x214e, 0x1c), (0x2170, 0x217f, 0x10), (0x24d0, 0x24e9, 0x1a),
    (0x2c30, 0x2c5f, 0x30), (0x2c62, 0x2c62, 0x29f7), (0x2c63, 0x2c63, 0xee6),
    (0x2c64, 0x2c64, 0x29e7), (0x2c65, 0x2c65, 0x2a2b), (0x2c66, 0x2c66, 0x2a28),
    (0x2c6d, 0x2c6d, 0x2a1c), (0x2c6e, 0x2c6e, 0x29fd), (0x2c6f, 0x2c6f, 0x2a1f),
    (0x2c70, 0x2c70, 0x2a1e), (0x2c7e, 0x2c7f, 0x2a3f), (0x2d00, 0x2d25, 0x1c60),
    (0x2d27, 0x2d27, 0x1c60), (0x2d2d, 0x2d2d, 0x1c60), (0xa64a, 0xa64a, 0x89c2),
    (0xa64b, 0xa64b, 0x89c3), (0xa64b, 0xa64b, 0x1), (0xa77d, 0xa77d, 0x8a04),
    (0xa78d, 0xa78d, 0xa528), (0xa7aa, 0xa7aa, 0xa544), (0xa7ab, 0xa7ab, 0xa54f),
    (0xa7ac, 0xa7ac, 0xa54b), (0xa7ad, 0xa7ad, 0xa541), (0xa7ae, 0xa7ae, 0xa544),
    (0xa7b0, 0xa7b0, 0xa512), (0xa7b1, 0xa7b1, 0xa52a), (0xa7b2, 0xa7b2, 0xa515),
    (0xa7c4, 0xa7c4, 0x30), (0xa7c5, 0xa7c5, 0xa543), (0xa7c6, 0xa7c6, 0x8a38),
    (0xa7cb, 0xa7cb, 0xa567), (0xa7dc, 0xa7dc, 0xa641), (0xab53, 0xab53, 0x3a0),
    (0xab70, 0xabbf, 0x97d0), (0xff41, 0xff5a, 0x20), (0x10428, 0x1044f, 0x28),
    (0x104d8, 0x104fb, 0x28), (0x10597, 0x105a1, 0x27), (0x105a3, 0x105b1, 0x27),
    (0x105b3, 0x105b9, 0x27), (0x105bb, 0x105bc, 0x27), (0x10cc0, 0x10cf2, 0x40),
    (0x10d70, 0x10d85, 0x20), (0x118c0, 0x118df, 0x20), (0x16e60, 0x16e7f, 0x20),
    (0x1e922, 0x1e943, 0x22)]

/-- The members of every pair that the range reaches into. -/
def alternates (r : Nat × Nat) : Ranges :=
  alternatingCase.filterMap fun row =>
    (Ranges.clip? row r).map fun part =>
      (part.1 - (part.1 - row.1) % 2, part.2 + 1 - (part.2 - row.1) % 2)

/-- Ranges that hold every character that differs by case alone from one in `r`. -/
def caseVariants (r : Nat × Nat) : Ranges :=
  let above := caseAbove.filterMap fun row =>
    (Ranges.clip? (row.1, row.2.1) r).map fun part => (part.1 + row.2.2, part.2 + row.2.2)
  let below := caseBelow.filterMap fun row =>
    (Ranges.clip? (row.1, row.2.1) r).map fun part => (part.1 - row.2.2, part.2 - row.2.2)
  alternates r ++ above ++ below

end Text
end Backtrack
