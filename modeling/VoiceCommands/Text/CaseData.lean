/-
  Unicode character data used by the case mappings of `VoiceCommands.Text.Case`.

  The tables follow the Unicode Character Database (version 14.0): the full
  lowercase, uppercase and titlecase mappings (`SpecialCasing.txt` included),
  the printable characters, the white space characters, and the cased and
  case-ignorable characters that decide the final form of sigma.

  The case mappings are Lean data, so that what they map to can be checked by
  evaluation:

  * a *run* `⟨start, count, stride, delta⟩` says that the characters
    `start + k * stride` for `k < count` map to the single character
    `start + k * stride + delta`;
  * a *multi* entry `(c, [c₁, c₂, …])` says that `c` maps to several
    characters.

  The character classes are compact text encodings decoded by
  `VoiceCommands.Text.Case`: a *range table* lists `first,last` pairs of code
  points (hexadecimal), separated by `;`.
-/

namespace VoiceCommands.Text

/-- A run of characters that share one case offset: the characters
`start + k * stride` for `k < count` map to `start + k * stride + delta`. -/
structure CaseRun where
  start : Nat
  count : Nat
  stride : Nat
  delta : Int
  deriving Repr

namespace CaseData

/-- Single-character lowercase mappings, as runs. -/
def lowerRuns : List CaseRun :=
  [⟨0x41, 26, 1, 0x20⟩, ⟨0xc0, 23, 1, 0x20⟩, ⟨0xd8, 7, 1, 0x20⟩, ⟨0x100, 24, 2, 0x1⟩,
   ⟨0x132, 3, 2, 0x1⟩, ⟨0x139, 8, 2, 0x1⟩, ⟨0x14a, 23, 2, 0x1⟩, ⟨0x178, 1, 1, -0x79⟩,
   ⟨0x179, 3, 2, 0x1⟩, ⟨0x181, 1, 1, 0xd2⟩, ⟨0x182, 2, 2, 0x1⟩, ⟨0x186, 1, 1, 0xce⟩,
   ⟨0x187, 1, 1, 0x1⟩, ⟨0x189, 2, 1, 0xcd⟩, ⟨0x18b, 1, 1, 0x1⟩, ⟨0x18e, 1, 1, 0x4f⟩,
   ⟨0x18f, 1, 1, 0xca⟩, ⟨0x190, 1, 1, 0xcb⟩, ⟨0x191, 1, 1, 0x1⟩, ⟨0x193, 1, 1, 0xcd⟩,
   ⟨0x194, 1, 1, 0xcf⟩, ⟨0x196, 1, 1, 0xd3⟩, ⟨0x197, 1, 1, 0xd1⟩, ⟨0x198, 1, 1, 0x1⟩,
   ⟨0x19c, 1, 1, 0xd3⟩, ⟨0x19d, 1, 1, 0xd5⟩, ⟨0x19f, 1, 1, 0xd6⟩, ⟨0x1a0, 3, 2, 0x1⟩,
   ⟨0x1a6, 1, 1, 0xda⟩, ⟨0x1a7, 1, 1, 0x1⟩, ⟨0x1a9, 1, 1, 0xda⟩, ⟨0x1ac, 1, 1, 0x1⟩,
   ⟨0x1ae, 1, 1, 0xda⟩, ⟨0x1af, 1, 1, 0x1⟩, ⟨0x1b1, 2, 1, 0xd9⟩, ⟨0x1b3, 2, 2, 0x1⟩,
   ⟨0x1b7, 1, 1, 0xdb⟩, ⟨0x1b8, 1, 1, 0x1⟩, ⟨0x1bc, 1, 1, 0x1⟩, ⟨0x1c4, 1, 1, 0x2⟩,
   ⟨0x1c5, 1, 1, 0x1⟩, ⟨0x1c7, 1, 1, 0x2⟩, ⟨0x1c8, 1, 1, 0x1⟩, ⟨0x1ca, 1, 1, 0x2⟩,
   ⟨0x1cb, 9, 2, 0x1⟩, ⟨0x1de, 9, 2, 0x1⟩, ⟨0x1f1, 1, 1, 0x2⟩, ⟨0x1f2, 2, 2, 0x1⟩,
   ⟨0x1f6, 1, 1, -0x61⟩, ⟨0x1f7, 1, 1, -0x38⟩, ⟨0x1f8, 20, 2, 0x1⟩, ⟨0x220, 1, 1, -0x82⟩,
   ⟨0x222, 9, 2, 0x1⟩, ⟨0x23a, 1, 1, 0x2a2b⟩, ⟨0x23b, 1, 1, 0x1⟩, ⟨0x23d, 1, 1, -0xa3⟩,
   ⟨0x23e, 1, 1, 0x2a28⟩, ⟨0x241, 1, 1, 0x1⟩, ⟨0x243, 1, 1, -0xc3⟩, ⟨0x244, 1, 1, 0x45⟩,
   ⟨0x245, 1, 1, 0x47⟩, ⟨0x246, 5, 2, 0x1⟩, ⟨0x370, 2, 2, 0x1⟩, ⟨0x376, 1, 1, 0x1⟩,
   ⟨0x37f, 1, 1, 0x74⟩, ⟨0x386, 1, 1, 0x26⟩, ⟨0x388, 3, 1, 0x25⟩, ⟨0x38c, 1, 1, 0x40⟩,
   ⟨0x38e, 2, 1, 0x3f⟩, ⟨0x391, 17, 1, 0x20⟩, ⟨0x3a3, 9, 1, 0x20⟩, ⟨0x3cf, 1, 1, 0x8⟩,
   ⟨0x3d8, 12, 2, 0x1⟩, ⟨0x3f4, 1, 1, -0x3c⟩, ⟨0x3f7, 1, 1, 0x1⟩, ⟨0x3f9, 1, 1, -0x7⟩,
   ⟨0x3fa, 1, 1, 0x1⟩, ⟨0x3fd, 3, 1, -0x82⟩, ⟨0x400, 16, 1, 0x50⟩, ⟨0x410, 32, 1, 0x20⟩,
   ⟨0x460, 17, 2, 0x1⟩, ⟨0x48a, 27, 2, 0x1⟩, ⟨0x4c0, 1, 1, 0xf⟩, ⟨0x4c1, 7, 2, 0x1⟩,
   ⟨0x4d0, 48, 2, 0x1⟩, ⟨0x531, 38, 1, 0x30⟩, ⟨0x10a0, 38, 1, 0x1c60⟩, ⟨0x10c7, 1, 1, 0x1c60⟩,
   ⟨0x10cd, 1, 1, 0x1c60⟩, ⟨0x13a0, 80, 1, 0x97d0⟩, ⟨0x13f0, 6, 1, 0x8⟩, ⟨0x1c90, 43, 1, -0xbc0⟩,
   ⟨0x1cbd, 3, 1, -0xbc0⟩, ⟨0x1e00, 75, 2, 0x1⟩, ⟨0x1e9e, 1, 1, -0x1dbf⟩, ⟨0x1ea0, 48, 2, 0x1⟩,
   ⟨0x1f08, 8, 1, -0x8⟩, ⟨0x1f18, 6, 1, -0x8⟩, ⟨0x1f28, 8, 1, -0x8⟩, ⟨0x1f38, 8, 1, -0x8⟩,
   ⟨0x1f48, 6, 1, -0x8⟩, ⟨0x1f59, 4, 2, -0x8⟩, ⟨0x1f68, 8, 1, -0x8⟩, ⟨0x1f88, 8, 1, -0x8⟩,
   ⟨0x1f98, 8, 1, -0x8⟩, ⟨0x1fa8, 8, 1, -0x8⟩, ⟨0x1fb8, 2, 1, -0x8⟩, ⟨0x1fba, 2, 1, -0x4a⟩,
   ⟨0x1fbc, 1, 1, -0x9⟩, ⟨0x1fc8, 4, 1, -0x56⟩, ⟨0x1fcc, 1, 1, -0x9⟩, ⟨0x1fd8, 2, 1, -0x8⟩,
   ⟨0x1fda, 2, 1, -0x64⟩, ⟨0x1fe8, 2, 1, -0x8⟩, ⟨0x1fea, 2, 1, -0x70⟩, ⟨0x1fec, 1, 1, -0x7⟩,
   ⟨0x1ff8, 2, 1, -0x80⟩, ⟨0x1ffa, 2, 1, -0x7e⟩, ⟨0x1ffc, 1, 1, -0x9⟩, ⟨0x2126, 1, 1, -0x1d5d⟩,
   ⟨0x212a, 1, 1, -0x20bf⟩, ⟨0x212b, 1, 1, -0x2046⟩, ⟨0x2132, 1, 1, 0x1c⟩, ⟨0x2160, 16, 1, 0x10⟩,
   ⟨0x2183, 1, 1, 0x1⟩, ⟨0x24b6, 26, 1, 0x1a⟩, ⟨0x2c00, 48, 1, 0x30⟩, ⟨0x2c60, 1, 1, 0x1⟩,
   ⟨0x2c62, 1, 1, -0x29f7⟩, ⟨0x2c63, 1, 1, -0xee6⟩, ⟨0x2c64, 1, 1, -0x29e7⟩, ⟨0x2c67, 3, 2, 0x1⟩,
   ⟨0x2c6d, 1, 1, -0x2a1c⟩, ⟨0x2c6e, 1, 1, -0x29fd⟩, ⟨0x2c6f, 1, 1, -0x2a1f⟩,
   ⟨0x2c70, 1, 1, -0x2a1e⟩, ⟨0x2c72, 1, 1, 0x1⟩, ⟨0x2c75, 1, 1, 0x1⟩, ⟨0x2c7e, 2, 1, -0x2a3f⟩,
   ⟨0x2c80, 50, 2, 0x1⟩, ⟨0x2ceb, 2, 2, 0x1⟩, ⟨0x2cf2, 1, 1, 0x1⟩, ⟨0xa640, 23, 2, 0x1⟩,
   ⟨0xa680, 14, 2, 0x1⟩, ⟨0xa722, 7, 2, 0x1⟩, ⟨0xa732, 31, 2, 0x1⟩, ⟨0xa779, 2, 2, 0x1⟩,
   ⟨0xa77d, 1, 1, -0x8a04⟩, ⟨0xa77e, 5, 2, 0x1⟩, ⟨0xa78b, 1, 1, 0x1⟩, ⟨0xa78d, 1, 1, -0xa528⟩,
   ⟨0xa790, 2, 2, 0x1⟩, ⟨0xa796, 10, 2, 0x1⟩, ⟨0xa7aa, 1, 1, -0xa544⟩, ⟨0xa7ab, 1, 1, -0xa54f⟩,
   ⟨0xa7ac, 1, 1, -0xa54b⟩, ⟨0xa7ad, 1, 1, -0xa541⟩, ⟨0xa7ae, 1, 1, -0xa544⟩,
   ⟨0xa7b0, 1, 1, -0xa512⟩, ⟨0xa7b1, 1, 1, -0xa52a⟩, ⟨0xa7b2, 1, 1, -0xa515⟩, ⟨0xa7b3, 1, 1, 0x3a0⟩,
   ⟨0xa7b4, 8, 2, 0x1⟩, ⟨0xa7c4, 1, 1, -0x30⟩, ⟨0xa7c5, 1, 1, -0xa543⟩, ⟨0xa7c6, 1, 1, -0x8a38⟩,
   ⟨0xa7c7, 2, 2, 0x1⟩, ⟨0xa7d0, 1, 1, 0x1⟩, ⟨0xa7d6, 2, 2, 0x1⟩, ⟨0xa7f5, 1, 1, 0x1⟩,
   ⟨0xff21, 26, 1, 0x20⟩, ⟨0x10400, 40, 1, 0x28⟩, ⟨0x104b0, 36, 1, 0x28⟩, ⟨0x10570, 11, 1, 0x27⟩,
   ⟨0x1057c, 15, 1, 0x27⟩, ⟨0x1058c, 7, 1, 0x27⟩, ⟨0x10594, 2, 1, 0x27⟩, ⟨0x10c80, 51, 1, 0x40⟩,
   ⟨0x118a0, 32, 1, 0x20⟩, ⟨0x16e40, 32, 1, 0x20⟩, ⟨0x1e900, 34, 1, 0x22⟩]

/-- Lowercase mappings to several characters. -/
def lowerMulti : List (Nat × List Nat) :=
  [(0x130, [0x69, 0x307])]

/-- Single-character uppercase mappings, as runs. -/
def upperRuns : List CaseRun :=
  [⟨0x61, 26, 1, -0x20⟩, ⟨0xb5, 1, 1, 0x2e7⟩, ⟨0xe0, 23, 1, -0x20⟩, ⟨0xf8, 7, 1, -0x20⟩,
   ⟨0xff, 1, 1, 0x79⟩, ⟨0x101, 24, 2, -0x1⟩, ⟨0x131, 1, 1, -0xe8⟩, ⟨0x133, 3, 2, -0x1⟩,
   ⟨0x13a, 8, 2, -0x1⟩, ⟨0x14b, 23, 2, -0x1⟩, ⟨0x17a, 3, 2, -0x1⟩, ⟨0x17f, 1, 1, -0x12c⟩,
   ⟨0x180, 1, 1, 0xc3⟩, ⟨0x183, 2, 2, -0x1⟩, ⟨0x188, 1, 1, -0x1⟩, ⟨0x18c, 1, 1, -0x1⟩,
   ⟨0x192, 1, 1, -0x1⟩, ⟨0x195, 1, 1, 0x61⟩, ⟨0x199, 1, 1, -0x1⟩, ⟨0x19a, 1, 1, 0xa3⟩,
   ⟨0x19e, 1, 1, 0x82⟩, ⟨0x1a1, 3, 2, -0x1⟩, ⟨0x1a8, 1, 1, -0x1⟩, ⟨0x1ad, 1, 1, -0x1⟩,
   ⟨0x1b0, 1, 1, -0x1⟩, ⟨0x1b4, 2, 2, -0x1⟩, ⟨0x1b9, 1, 1, -0x1⟩, ⟨0x1bd, 1, 1, -0x1⟩,
   ⟨0x1bf, 1, 1, 0x38⟩, ⟨0x1c5, 1, 1, -0x1⟩, ⟨0x1c6, 1, 1, -0x2⟩, ⟨0x1c8, 1, 1, -0x1⟩,
   ⟨0x1c9, 1, 1, -0x2⟩, ⟨0x1cb, 1, 1, -0x1⟩, ⟨0x1cc, 1, 1, -0x2⟩, ⟨0x1ce, 8, 2, -0x1⟩,
   ⟨0x1dd, 1, 1, -0x4f⟩, ⟨0x1df, 9, 2, -0x1⟩, ⟨0x1f2, 1, 1, -0x1⟩, ⟨0x1f3, 1, 1, -0x2⟩,
   ⟨0x1f5, 1, 1, -0x1⟩, ⟨0x1f9, 20, 2, -0x1⟩, ⟨0x223, 9, 2, -0x1⟩, ⟨0x23c, 1, 1, -0x1⟩,
   ⟨0x23f, 2, 1, 0x2a3f⟩, ⟨0x242, 1, 1, -0x1⟩, ⟨0x247, 5, 2, -0x1⟩, ⟨0x250, 1, 1, 0x2a1f⟩,
   ⟨0x251, 1, 1, 0x2a1c⟩, ⟨0x252, 1, 1, 0x2a1e⟩, ⟨0x253, 1, 1, -0xd2⟩, ⟨0x254, 1, 1, -0xce⟩,
   ⟨0x256, 2, 1, -0xcd⟩, ⟨0x259, 1, 1, -0xca⟩, ⟨0x25b, 1, 1, -0xcb⟩, ⟨0x25c, 1, 1, 0xa54f⟩,
   ⟨0x260, 1, 1, -0xcd⟩, ⟨0x261, 1, 1, 0xa54b⟩, ⟨0x263, 1, 1, -0xcf⟩, ⟨0x265, 1, 1, 0xa528⟩,
   ⟨0x266, 1, 1, 0xa544⟩, ⟨0x268, 1, 1, -0xd1⟩, ⟨0x269, 1, 1, -0xd3⟩, ⟨0x26a, 1, 1, 0xa544⟩,
   ⟨0x26b, 1, 1, 0x29f7⟩, ⟨0x26c, 1, 1, 0xa541⟩, ⟨0x26f, 1, 1, -0xd3⟩, ⟨0x271, 1, 1, 0x29fd⟩,
   ⟨0x272, 1, 1, -0xd5⟩, ⟨0x275, 1, 1, -0xd6⟩, ⟨0x27d, 1, 1, 0x29e7⟩, ⟨0x280, 1, 1, -0xda⟩,
   ⟨0x282, 1, 1, 0xa543⟩, ⟨0x283, 1, 1, -0xda⟩, ⟨0x287, 1, 1, 0xa52a⟩, ⟨0x288, 1, 1, -0xda⟩,
   ⟨0x289, 1, 1, -0x45⟩, ⟨0x28a, 2, 1, -0xd9⟩, ⟨0x28c, 1, 1, -0x47⟩, ⟨0x292, 1, 1, -0xdb⟩,
   ⟨0x29d, 1, 1, 0xa515⟩, ⟨0x29e, 1, 1, 0xa512⟩, ⟨0x345, 1, 1, 0x54⟩, ⟨0x371, 2, 2, -0x1⟩,
   ⟨0x377, 1, 1, -0x1⟩, ⟨0x37b, 3, 1, 0x82⟩, ⟨0x3ac, 1, 1, -0x26⟩, ⟨0x3ad, 3, 1, -0x25⟩,
   ⟨0x3b1, 17, 1, -0x20⟩, ⟨0x3c2, 1, 1, -0x1f⟩, ⟨0x3c3, 9, 1, -0x20⟩, ⟨0x3cc, 1, 1, -0x40⟩,
   ⟨0x3cd, 2, 1, -0x3f⟩, ⟨0x3d0, 1, 1, -0x3e⟩, ⟨0x3d1, 1, 1, -0x39⟩, ⟨0x3d5, 1, 1, -0x2f⟩,
   ⟨0x3d6, 1, 1, -0x36⟩, ⟨0x3d7, 1, 1, -0x8⟩, ⟨0x3d9, 12, 2, -0x1⟩, ⟨0x3f0, 1, 1, -0x56⟩,
   ⟨0x3f1, 1, 1, -0x50⟩, ⟨0x3f2, 1, 1, 0x7⟩, ⟨0x3f3, 1, 1, -0x74⟩, ⟨0x3f5, 1, 1, -0x60⟩,
   ⟨0x3f8, 1, 1, -0x1⟩, ⟨0x3fb, 1, 1, -0x1⟩, ⟨0x430, 32, 1, -0x20⟩, ⟨0x450, 16, 1, -0x50⟩,
   ⟨0x461, 17, 2, -0x1⟩, ⟨0x48b, 27, 2, -0x1⟩, ⟨0x4c2, 7, 2, -0x1⟩, ⟨0x4cf, 1, 1, -0xf⟩,
   ⟨0x4d1, 48, 2, -0x1⟩, ⟨0x561, 38, 1, -0x30⟩, ⟨0x10d0, 43, 1, 0xbc0⟩, ⟨0x10fd, 3, 1, 0xbc0⟩,
   ⟨0x13f8, 6, 1, -0x8⟩, ⟨0x1c80, 1, 1, -0x186e⟩, ⟨0x1c81, 1, 1, -0x186d⟩, ⟨0x1c82, 1, 1, -0x1864⟩,
   ⟨0x1c83, 2, 1, -0x1862⟩, ⟨0x1c85, 1, 1, -0x1863⟩, ⟨0x1c86, 1, 1, -0x185c⟩,
   ⟨0x1c87, 1, 1, -0x1825⟩, ⟨0x1c88, 1, 1, 0x89c2⟩, ⟨0x1d79, 1, 1, 0x8a04⟩, ⟨0x1d7d, 1, 1, 0xee6⟩,
   ⟨0x1d8e, 1, 1, 0x8a38⟩, ⟨0x1e01, 75, 2, -0x1⟩, ⟨0x1e9b, 1, 1, -0x3b⟩, ⟨0x1ea1, 48, 2, -0x1⟩,
   ⟨0x1f00, 8, 1, 0x8⟩, ⟨0x1f10, 6, 1, 0x8⟩, ⟨0x1f20, 8, 1, 0x8⟩, ⟨0x1f30, 8, 1, 0x8⟩,
   ⟨0x1f40, 6, 1, 0x8⟩, ⟨0x1f51, 4, 2, 0x8⟩, ⟨0x1f60, 8, 1, 0x8⟩, ⟨0x1f70, 2, 1, 0x4a⟩,
   ⟨0x1f72, 4, 1, 0x56⟩, ⟨0x1f76, 2, 1, 0x64⟩, ⟨0x1f78, 2, 1, 0x80⟩, ⟨0x1f7a, 2, 1, 0x70⟩,
   ⟨0x1f7c, 2, 1, 0x7e⟩, ⟨0x1fb0, 2, 1, 0x8⟩, ⟨0x1fbe, 1, 1, -0x1c25⟩, ⟨0x1fd0, 2, 1, 0x8⟩,
   ⟨0x1fe0, 2, 1, 0x8⟩, ⟨0x1fe5, 1, 1, 0x7⟩, ⟨0x214e, 1, 1, -0x1c⟩, ⟨0x2170, 16, 1, -0x10⟩,
   ⟨0x2184, 1, 1, -0x1⟩, ⟨0x24d0, 26, 1, -0x1a⟩, ⟨0x2c30, 48, 1, -0x30⟩, ⟨0x2c61, 1, 1, -0x1⟩,
   ⟨0x2c65, 1, 1, -0x2a2b⟩, ⟨0x2c66, 1, 1, -0x2a28⟩, ⟨0x2c68, 3, 2, -0x1⟩, ⟨0x2c73, 1, 1, -0x1⟩,
   ⟨0x2c76, 1, 1, -0x1⟩, ⟨0x2c81, 50, 2, -0x1⟩, ⟨0x2cec, 2, 2, -0x1⟩, ⟨0x2cf3, 1, 1, -0x1⟩,
   ⟨0x2d00, 38, 1, -0x1c60⟩, ⟨0x2d27, 1, 1, -0x1c60⟩, ⟨0x2d2d, 1, 1, -0x1c60⟩,
   ⟨0xa641, 23, 2, -0x1⟩, ⟨0xa681, 14, 2, -0x1⟩, ⟨0xa723, 7, 2, -0x1⟩, ⟨0xa733, 31, 2, -0x1⟩,
   ⟨0xa77a, 2, 2, -0x1⟩, ⟨0xa77f, 5, 2, -0x1⟩, ⟨0xa78c, 1, 1, -0x1⟩, ⟨0xa791, 2, 2, -0x1⟩,
   ⟨0xa794, 1, 1, 0x30⟩, ⟨0xa797, 10, 2, -0x1⟩, ⟨0xa7b5, 8, 2, -0x1⟩, ⟨0xa7c8, 2, 2, -0x1⟩,
   ⟨0xa7d1, 1, 1, -0x1⟩, ⟨0xa7d7, 2, 2, -0x1⟩, ⟨0xa7f6, 1, 1, -0x1⟩, ⟨0xab53, 1, 1, -0x3a0⟩,
   ⟨0xab70, 80, 1, -0x97d0⟩, ⟨0xff41, 26, 1, -0x20⟩, ⟨0x10428, 40, 1, -0x28⟩,
   ⟨0x104d8, 36, 1, -0x28⟩, ⟨0x10597, 11, 1, -0x27⟩, ⟨0x105a3, 15, 1, -0x27⟩,
   ⟨0x105b3, 7, 1, -0x27⟩, ⟨0x105bb, 2, 1, -0x27⟩, ⟨0x10cc0, 51, 1, -0x40⟩, ⟨0x118c0, 32, 1, -0x20⟩,
   ⟨0x16e60, 32, 1, -0x20⟩, ⟨0x1e922, 34, 1, -0x22⟩]

/-- Uppercase mappings to several characters. -/
def upperMulti : List (Nat × List Nat) :=
  [(0xdf, [0x53, 0x53]), (0x149, [0x2bc, 0x4e]), (0x1f0, [0x4a, 0x30c]),
   (0x390, [0x399, 0x308, 0x301]), (0x3b0, [0x3a5, 0x308, 0x301]), (0x587, [0x535, 0x552]),
   (0x1e96, [0x48, 0x331]), (0x1e97, [0x54, 0x308]), (0x1e98, [0x57, 0x30a]),
   (0x1e99, [0x59, 0x30a]), (0x1e9a, [0x41, 0x2be]), (0x1f50, [0x3a5, 0x313]),
   (0x1f52, [0x3a5, 0x313, 0x300]), (0x1f54, [0x3a5, 0x313, 0x301]),
   (0x1f56, [0x3a5, 0x313, 0x342]), (0x1f80, [0x1f08, 0x399]), (0x1f81, [0x1f09, 0x399]),
   (0x1f82, [0x1f0a, 0x399]), (0x1f83, [0x1f0b, 0x399]), (0x1f84, [0x1f0c, 0x399]),
   (0x1f85, [0x1f0d, 0x399]), (0x1f86, [0x1f0e, 0x399]), (0x1f87, [0x1f0f, 0x399]),
   (0x1f88, [0x1f08, 0x399]), (0x1f89, [0x1f09, 0x399]), (0x1f8a, [0x1f0a, 0x399]),
   (0x1f8b, [0x1f0b, 0x399]), (0x1f8c, [0x1f0c, 0x399]), (0x1f8d, [0x1f0d, 0x399]),
   (0x1f8e, [0x1f0e, 0x399]), (0x1f8f, [0x1f0f, 0x399]), (0x1f90, [0x1f28, 0x399]),
   (0x1f91, [0x1f29, 0x399]), (0x1f92, [0x1f2a, 0x399]), (0x1f93, [0x1f2b, 0x399]),
   (0x1f94, [0x1f2c, 0x399]), (0x1f95, [0x1f2d, 0x399]), (0x1f96, [0x1f2e, 0x399]),
   (0x1f97, [0x1f2f, 0x399]), (0x1f98, [0x1f28, 0x399]), (0x1f99, [0x1f29, 0x399]),
   (0x1f9a, [0x1f2a, 0x399]), (0x1f9b, [0x1f2b, 0x399]), (0x1f9c, [0x1f2c, 0x399]),
   (0x1f9d, [0x1f2d, 0x399]), (0x1f9e, [0x1f2e, 0x399]), (0x1f9f, [0x1f2f, 0x399]),
   (0x1fa0, [0x1f68, 0x399]), (0x1fa1, [0x1f69, 0x399]), (0x1fa2, [0x1f6a, 0x399]),
   (0x1fa3, [0x1f6b, 0x399]), (0x1fa4, [0x1f6c, 0x399]), (0x1fa5, [0x1f6d, 0x399]),
   (0x1fa6, [0x1f6e, 0x399]), (0x1fa7, [0x1f6f, 0x399]), (0x1fa8, [0x1f68, 0x399]),
   (0x1fa9, [0x1f69, 0x399]), (0x1faa, [0x1f6a, 0x399]), (0x1fab, [0x1f6b, 0x399]),
   (0x1fac, [0x1f6c, 0x399]), (0x1fad, [0x1f6d, 0x399]), (0x1fae, [0x1f6e, 0x399]),
   (0x1faf, [0x1f6f, 0x399]), (0x1fb2, [0x1fba, 0x399]), (0x1fb3, [0x391, 0x399]),
   (0x1fb4, [0x386, 0x399]), (0x1fb6, [0x391, 0x342]), (0x1fb7, [0x391, 0x342, 0x399]),
   (0x1fbc, [0x391, 0x399]), (0x1fc2, [0x1fca, 0x399]), (0x1fc3, [0x397, 0x399]),
   (0x1fc4, [0x389, 0x399]), (0x1fc6, [0x397, 0x342]), (0x1fc7, [0x397, 0x342, 0x399]),
   (0x1fcc, [0x397, 0x399]), (0x1fd2, [0x399, 0x308, 0x300]), (0x1fd3, [0x399, 0x308, 0x301]),
   (0x1fd6, [0x399, 0x342]), (0x1fd7, [0x399, 0x308, 0x342]), (0x1fe2, [0x3a5, 0x308, 0x300]),
   (0x1fe3, [0x3a5, 0x308, 0x301]), (0x1fe4, [0x3a1, 0x313]), (0x1fe6, [0x3a5, 0x342]),
   (0x1fe7, [0x3a5, 0x308, 0x342]), (0x1ff2, [0x1ffa, 0x399]), (0x1ff3, [0x3a9, 0x399]),
   (0x1ff4, [0x38f, 0x399]), (0x1ff6, [0x3a9, 0x342]), (0x1ff7, [0x3a9, 0x342, 0x399]),
   (0x1ffc, [0x3a9, 0x399]), (0xfb00, [0x46, 0x46]), (0xfb01, [0x46, 0x49]), (0xfb02, [0x46, 0x4c]),
   (0xfb03, [0x46, 0x46, 0x49]), (0xfb04, [0x46, 0x46, 0x4c]), (0xfb05, [0x53, 0x54]),
   (0xfb06, [0x53, 0x54]), (0xfb13, [0x544, 0x546]), (0xfb14, [0x544, 0x535]),
   (0xfb15, [0x544, 0x53b]), (0xfb16, [0x54e, 0x546]), (0xfb17, [0x544, 0x53d])]

/-- Characters whose titlecase mapping differs from the uppercase mapping. -/
def titleExceptions : List (Nat × List Nat) :=
  [(0xdf, [0x53, 0x73]), (0x1c4, [0x1c5]), (0x1c5, [0x1c5]), (0x1c6, [0x1c5]), (0x1c7, [0x1c8]),
   (0x1c8, [0x1c8]), (0x1c9, [0x1c8]), (0x1ca, [0x1cb]), (0x1cb, [0x1cb]), (0x1cc, [0x1cb]),
   (0x1f1, [0x1f2]), (0x1f2, [0x1f2]), (0x1f3, [0x1f2]), (0x587, [0x535, 0x582]),
   (0x10d0, [0x10d0]), (0x10d1, [0x10d1]), (0x10d2, [0x10d2]), (0x10d3, [0x10d3]),
   (0x10d4, [0x10d4]), (0x10d5, [0x10d5]), (0x10d6, [0x10d6]), (0x10d7, [0x10d7]),
   (0x10d8, [0x10d8]), (0x10d9, [0x10d9]), (0x10da, [0x10da]), (0x10db, [0x10db]),
   (0x10dc, [0x10dc]), (0x10dd, [0x10dd]), (0x10de, [0x10de]), (0x10df, [0x10df]),
   (0x10e0, [0x10e0]), (0x10e1, [0x10e1]), (0x10e2, [0x10e2]), (0x10e3, [0x10e3]),
   (0x10e4, [0x10e4]), (0x10e5, [0x10e5]), (0x10e6, [0x10e6]), (0x10e7, [0x10e7]),
   (0x10e8, [0x10e8]), (0x10e9, [0x10e9]), (0x10ea, [0x10ea]), (0x10eb, [0x10eb]),
   (0x10ec, [0x10ec]), (0x10ed, [0x10ed]), (0x10ee, [0x10ee]), (0x10ef, [0x10ef]),
   (0x10f0, [0x10f0]), (0x10f1, [0x10f1]), (0x10f2, [0x10f2]), (0x10f3, [0x10f3]),
   (0x10f4, [0x10f4]), (0x10f5, [0x10f5]), (0x10f6, [0x10f6]), (0x10f7, [0x10f7]),
   (0x10f8, [0x10f8]), (0x10f9, [0x10f9]), (0x10fa, [0x10fa]), (0x10fd, [0x10fd]),
   (0x10fe, [0x10fe]), (0x10ff, [0x10ff]), (0x1f80, [0x1f88]), (0x1f81, [0x1f89]),
   (0x1f82, [0x1f8a]), (0x1f83, [0x1f8b]), (0x1f84, [0x1f8c]), (0x1f85, [0x1f8d]),
   (0x1f86, [0x1f8e]), (0x1f87, [0x1f8f]), (0x1f88, [0x1f88]), (0x1f89, [0x1f89]),
   (0x1f8a, [0x1f8a]), (0x1f8b, [0x1f8b]), (0x1f8c, [0x1f8c]), (0x1f8d, [0x1f8d]),
   (0x1f8e, [0x1f8e]), (0x1f8f, [0x1f8f]), (0x1f90, [0x1f98]), (0x1f91, [0x1f99]),
   (0x1f92, [0x1f9a]), (0x1f93, [0x1f9b]), (0x1f94, [0x1f9c]), (0x1f95, [0x1f9d]),
   (0x1f96, [0x1f9e]), (0x1f97, [0x1f9f]), (0x1f98, [0x1f98]), (0x1f99, [0x1f99]),
   (0x1f9a, [0x1f9a]), (0x1f9b, [0x1f9b]), (0x1f9c, [0x1f9c]), (0x1f9d, [0x1f9d]),
   (0x1f9e, [0x1f9e]), (0x1f9f, [0x1f9f]), (0x1fa0, [0x1fa8]), (0x1fa1, [0x1fa9]),
   (0x1fa2, [0x1faa]), (0x1fa3, [0x1fab]), (0x1fa4, [0x1fac]), (0x1fa5, [0x1fad]),
   (0x1fa6, [0x1fae]), (0x1fa7, [0x1faf]), (0x1fa8, [0x1fa8]), (0x1fa9, [0x1fa9]),
   (0x1faa, [0x1faa]), (0x1fab, [0x1fab]), (0x1fac, [0x1fac]), (0x1fad, [0x1fad]),
   (0x1fae, [0x1fae]), (0x1faf, [0x1faf]), (0x1fb2, [0x1fba, 0x345]), (0x1fb3, [0x1fbc]),
   (0x1fb4, [0x386, 0x345]), (0x1fb7, [0x391, 0x342, 0x345]), (0x1fbc, [0x1fbc]),
   (0x1fc2, [0x1fca, 0x345]), (0x1fc3, [0x1fcc]), (0x1fc4, [0x389, 0x345]),
   (0x1fc7, [0x397, 0x342, 0x345]), (0x1fcc, [0x1fcc]), (0x1ff2, [0x1ffa, 0x345]),
   (0x1ff3, [0x1ffc]), (0x1ff4, [0x38f, 0x345]), (0x1ff7, [0x3a9, 0x342, 0x345]),
   (0x1ffc, [0x1ffc]), (0xfb00, [0x46, 0x66]), (0xfb01, [0x46, 0x69]), (0xfb02, [0x46, 0x6c]),
   (0xfb03, [0x46, 0x66, 0x69]), (0xfb04, [0x46, 0x66, 0x6c]), (0xfb05, [0x53, 0x74]),
   (0xfb06, [0x53, 0x74]), (0xfb13, [0x544, 0x576]), (0xfb14, [0x544, 0x565]),
   (0xfb15, [0x544, 0x56b]), (0xfb16, [0x54e, 0x576]), (0xfb17, [0x544, 0x56d])]

/-- Ranges of characters that are not printable (controls, format characters, separators other than the space, surrogates, private use and unassigned code points). -/
def unprintableRanges : String :=
  "0,1f;7f,a0;ad,ad;378,379;380,383;38b,38b;38d,38d;3a2,3a2;530,530;557,558;58b,58c;590,590;5c8,5cf" ++
  ";5eb,5ee;5f5,605;61c,61c;6dd,6dd;70e,70f;74b,74c;7b2,7bf;7fb,7fc;82e,82f;83f,83f;85c,85d;85f,85f" ++
  ";86b,86f;88f,897;8e2,8e2;984,984;98d,98e;991,992;9a9,9a9;9b1,9b1;9b3,9b5;9ba,9bb;9c5,9c6;9c9,9ca" ++
  ";9cf,9d6;9d8,9db;9de,9de;9e4,9e5;9ff,a00;a04,a04;a0b,a0e;a11,a12;a29,a29;a31,a31;a34,a34;a37,a37" ++
  ";a3a,a3b;a3d,a3d;a43,a46;a49,a4a;a4e,a50;a52,a58;a5d,a5d;a5f,a65;a77,a80;a84,a84;a8e,a8e;a92,a92" ++
  ";aa9,aa9;ab1,ab1;ab4,ab4;aba,abb;ac6,ac6;aca,aca;ace,acf;ad1,adf;ae4,ae5;af2,af8;b00,b00;b04,b04" ++
  ";b0d,b0e;b11,b12;b29,b29;b31,b31;b34,b34;b3a,b3b;b45,b46;b49,b4a;b4e,b54;b58,b5b;b5e,b5e;b64,b65" ++
  ";b78,b81;b84,b84;b8b,b8d;b91,b91;b96,b98;b9b,b9b;b9d,b9d;ba0,ba2;ba5,ba7;bab,bad;bba,bbd;bc3,bc5" ++
  ";bc9,bc9;bce,bcf;bd1,bd6;bd8,be5;bfb,bff;c0d,c0d;c11,c11;c29,c29;c3a,c3b;c45,c45;c49,c49;c4e,c54" ++
  ";c57,c57;c5b,c5c;c5e,c5f;c64,c65;c70,c76;c8d,c8d;c91,c91;ca9,ca9;cb4,cb4;cba,cbb;cc5,cc5;cc9,cc9" ++
  ";cce,cd4;cd7,cdc;cdf,cdf;ce4,ce5;cf0,cf0;cf3,cff;d0d,d0d;d11,d11;d45,d45;d49,d49;d50,d53;d64,d65" ++
  ";d80,d80;d84,d84;d97,d99;db2,db2;dbc,dbc;dbe,dbf;dc7,dc9;dcb,dce;dd5,dd5;dd7,dd7;de0,de5;df0,df1" ++
  ";df5,e00;e3b,e3e;e5c,e80;e83,e83;e85,e85;e8b,e8b;ea4,ea4;ea6,ea6;ebe,ebf;ec5,ec5;ec7,ec7;ece,ecf" ++
  ";eda,edb;ee0,eff;f48,f48;f6d,f70;f98,f98;fbd,fbd;fcd,fcd;fdb,fff;10c6,10c6;10c8,10cc;10ce,10cf;1" ++
  "249,1249;124e,124f;1257,1257;1259,1259;125e,125f;1289,1289;128e,128f;12b1,12b1;12b6,12b7;12bf,12" ++
  "bf;12c1,12c1;12c6,12c7;12d7,12d7;1311,1311;1316,1317;135b,135c;137d,137f;139a,139f;13f6,13f7;13f" ++
  "e,13ff;1680,1680;169d,169f;16f9,16ff;1716,171e;1737,173f;1754,175f;176d,176d;1771,1771;1774,177f" ++
  ";17de,17df;17ea,17ef;17fa,17ff;180e,180e;181a,181f;1879,187f;18ab,18af;18f6,18ff;191f,191f;192c," ++
  "192f;193c,193f;1941,1943;196e,196f;1975,197f;19ac,19af;19ca,19cf;19db,19dd;1a1c,1a1d;1a5f,1a5f;1" ++
  "a7d,1a7e;1a8a,1a8f;1a9a,1a9f;1aae,1aaf;1acf,1aff;1b4d,1b4f;1b7f,1b7f;1bf4,1bfb;1c38,1c3a;1c4a,1c" ++
  "4c;1c89,1c8f;1cbb,1cbc;1cc8,1ccf;1cfb,1cff;1f16,1f17;1f1e,1f1f;1f46,1f47;1f4e,1f4f;1f58,1f58;1f5" ++
  "a,1f5a;1f5c,1f5c;1f5e,1f5e;1f7e,1f7f;1fb5,1fb5;1fc5,1fc5;1fd4,1fd5;1fdc,1fdc;1ff0,1ff1;1ff5,1ff5" ++
  ";1fff,200f;2028,202f;205f,206f;2072,2073;208f,208f;209d,209f;20c1,20cf;20f1,20ff;218c,218f;2427," ++
  "243f;244b,245f;2b74,2b75;2b96,2b96;2cf4,2cf8;2d26,2d26;2d28,2d2c;2d2e,2d2f;2d68,2d6e;2d71,2d7e;2" ++
  "d97,2d9f;2da7,2da7;2daf,2daf;2db7,2db7;2dbf,2dbf;2dc7,2dc7;2dcf,2dcf;2dd7,2dd7;2ddf,2ddf;2e5e,2e" ++
  "7f;2e9a,2e9a;2ef4,2eff;2fd6,2fef;2ffc,3000;3040,3040;3097,3098;3100,3104;3130,3130;318f,318f;31e" ++
  "4,31ef;321f,321f;a48d,a48f;a4c7,a4cf;a62c,a63f;a6f8,a6ff;a7cb,a7cf;a7d2,a7d2;a7d4,a7d4;a7da,a7f1" ++
  ";a82d,a82f;a83a,a83f;a878,a87f;a8c6,a8cd;a8da,a8df;a954,a95e;a97d,a97f;a9ce,a9ce;a9da,a9dd;a9ff," ++
  "a9ff;aa37,aa3f;aa4e,aa4f;aa5a,aa5b;aac3,aada;aaf7,ab00;ab07,ab08;ab0f,ab10;ab17,ab1f;ab27,ab27;a" ++
  "b2f,ab2f;ab6c,ab6f;abee,abef;abfa,abff;d7a4,d7af;d7c7,d7ca;d7fc,f8ff;fa6e,fa6f;fada,faff;fb07,fb" ++
  "12;fb18,fb1c;fb37,fb37;fb3d,fb3d;fb3f,fb3f;fb42,fb42;fb45,fb45;fbc3,fbd2;fd90,fd91;fdc8,fdce;fdd" ++
  "0,fdef;fe1a,fe1f;fe53,fe53;fe67,fe67;fe6c,fe6f;fe75,fe75;fefd,ff00;ffbf,ffc1;ffc8,ffc9;ffd0,ffd1" ++
  ";ffd8,ffd9;ffdd,ffdf;ffe7,ffe7;ffef,fffb;fffe,ffff;1000c,1000c;10027,10027;1003b,1003b;1003e,100" ++
  "3e;1004e,1004f;1005e,1007f;100fb,100ff;10103,10106;10134,10136;1018f,1018f;1019d,1019f;101a1,101" ++
  "cf;101fe,1027f;1029d,1029f;102d1,102df;102fc,102ff;10324,1032c;1034b,1034f;1037b,1037f;1039e,103" ++
  "9e;103c4,103c7;103d6,103ff;1049e,1049f;104aa,104af;104d4,104d7;104fc,104ff;10528,1052f;10564,105" ++
  "6e;1057b,1057b;1058b,1058b;10593,10593;10596,10596;105a2,105a2;105b2,105b2;105ba,105ba;105bd,105" ++
  "ff;10737,1073f;10756,1075f;10768,1077f;10786,10786;107b1,107b1;107bb,107ff;10806,10807;10809,108" ++
  "09;10836,10836;10839,1083b;1083d,1083e;10856,10856;1089f,108a6;108b0,108df;108f3,108f3;108f6,108" ++
  "fa;1091c,1091e;1093a,1093e;10940,1097f;109b8,109bb;109d0,109d1;10a04,10a04;10a07,10a0b;10a14,10a" ++
  "14;10a18,10a18;10a36,10a37;10a3b,10a3e;10a49,10a4f;10a59,10a5f;10aa0,10abf;10ae7,10aea;10af7,10a" ++
  "ff;10b36,10b38;10b56,10b57;10b73,10b77;10b92,10b98;10b9d,10ba8;10bb0,10bff;10c49,10c7f;10cb3,10c" ++
  "bf;10cf3,10cf9;10d28,10d2f;10d3a,10e5f;10e7f,10e7f;10eaa,10eaa;10eae,10eaf;10eb2,10eff;10f28,10f" ++
  "2f;10f5a,10f6f;10f8a,10faf;10fcc,10fdf;10ff7,10fff;1104e,11051;11076,1107e;110bd,110bd;110c3,110" ++
  "cf;110e9,110ef;110fa,110ff;11135,11135;11148,1114f;11177,1117f;111e0,111e0;111f5,111ff;11212,112" ++
  "12;1123f,1127f;11287,11287;11289,11289;1128e,1128e;1129e,1129e;112aa,112af;112eb,112ef;112fa,112" ++
  "ff;11304,11304;1130d,1130e;11311,11312;11329,11329;11331,11331;11334,11334;1133a,1133a;11345,113" ++
  "46;11349,1134a;1134e,1134f;11351,11356;11358,1135c;11364,11365;1136d,1136f;11375,113ff;1145c,114" ++
  "5c;11462,1147f;114c8,114cf;114da,1157f;115b6,115b7;115de,115ff;11645,1164f;1165a,1165f;1166d,116" ++
  "7f;116ba,116bf;116ca,116ff;1171b,1171c;1172c,1172f;11747,117ff;1183c,1189f;118f3,118fe;11907,119" ++
  "08;1190a,1190b;11914,11914;11917,11917;11936,11936;11939,1193a;11947,1194f;1195a,1199f;119a8,119" ++
  "a9;119d8,119d9;119e5,119ff;11a48,11a4f;11aa3,11aaf;11af9,11bff;11c09,11c09;11c37,11c37;11c46,11c" ++
  "4f;11c6d,11c6f;11c90,11c91;11ca8,11ca8;11cb7,11cff;11d07,11d07;11d0a,11d0a;11d37,11d39;11d3b,11d" ++
  "3b;11d3e,11d3e;11d48,11d4f;11d5a,11d5f;11d66,11d66;11d69,11d69;11d8f,11d8f;11d92,11d92;11d99,11d" ++
  "9f;11daa,11edf;11ef9,11faf;11fb1,11fbf;11ff2,11ffe;1239a,123ff;1246f,1246f;12475,1247f;12544,12f" ++
  "8f;12ff3,12fff;1342f,143ff;14647,167ff;16a39,16a3f;16a5f,16a5f;16a6a,16a6d;16abf,16abf;16aca,16a" ++
  "cf;16aee,16aef;16af6,16aff;16b46,16b4f;16b5a,16b5a;16b62,16b62;16b78,16b7c;16b90,16e3f;16e9b,16e" ++
  "ff;16f4b,16f4e;16f88,16f8e;16fa0,16fdf;16fe5,16fef;16ff2,16fff;187f8,187ff;18cd6,18cff;18d09,1af" ++
  "ef;1aff4,1aff4;1affc,1affc;1afff,1afff;1b123,1b14f;1b153,1b163;1b168,1b16f;1b2fc,1bbff;1bc6b,1bc" ++
  "6f;1bc7d,1bc7f;1bc89,1bc8f;1bc9a,1bc9b;1bca0,1ceff;1cf2e,1cf2f;1cf47,1cf4f;1cfc4,1cfff;1d0f6,1d0" ++
  "ff;1d127,1d128;1d173,1d17a;1d1eb,1d1ff;1d246,1d2df;1d2f4,1d2ff;1d357,1d35f;1d379,1d3ff;1d455,1d4" ++
  "55;1d49d,1d49d;1d4a0,1d4a1;1d4a3,1d4a4;1d4a7,1d4a8;1d4ad,1d4ad;1d4ba,1d4ba;1d4bc,1d4bc;1d4c4,1d4" ++
  "c4;1d506,1d506;1d50b,1d50c;1d515,1d515;1d51d,1d51d;1d53a,1d53a;1d53f,1d53f;1d545,1d545;1d547,1d5" ++
  "49;1d551,1d551;1d6a6,1d6a7;1d7cc,1d7cd;1da8c,1da9a;1daa0,1daa0;1dab0,1deff;1df1f,1dfff;1e007,1e0" ++
  "07;1e019,1e01a;1e022,1e022;1e025,1e025;1e02b,1e0ff;1e12d,1e12f;1e13e,1e13f;1e14a,1e14d;1e150,1e2" ++
  "8f;1e2af,1e2bf;1e2fa,1e2fe;1e300,1e7df;1e7e7,1e7e7;1e7ec,1e7ec;1e7ef,1e7ef;1e7ff,1e7ff;1e8c5,1e8" ++
  "c6;1e8d7,1e8ff;1e94c,1e94f;1e95a,1e95d;1e960,1ec70;1ecb5,1ed00;1ed3e,1edff;1ee04,1ee04;1ee20,1ee" ++
  "20;1ee23,1ee23;1ee25,1ee26;1ee28,1ee28;1ee33,1ee33;1ee38,1ee38;1ee3a,1ee3a;1ee3c,1ee41;1ee43,1ee" ++
  "46;1ee48,1ee48;1ee4a,1ee4a;1ee4c,1ee4c;1ee50,1ee50;1ee53,1ee53;1ee55,1ee56;1ee58,1ee58;1ee5a,1ee" ++
  "5a;1ee5c,1ee5c;1ee5e,1ee5e;1ee60,1ee60;1ee63,1ee63;1ee65,1ee66;1ee6b,1ee6b;1ee73,1ee73;1ee78,1ee" ++
  "78;1ee7d,1ee7d;1ee7f,1ee7f;1ee8a,1ee8a;1ee9c,1eea0;1eea4,1eea4;1eeaa,1eeaa;1eebc,1eeef;1eef2,1ef" ++
  "ff;1f02c,1f02f;1f094,1f09f;1f0af,1f0b0;1f0c0,1f0c0;1f0d0,1f0d0;1f0f6,1f0ff;1f1ae,1f1e5;1f203,1f2" ++
  "0f;1f23c,1f23f;1f249,1f24f;1f252,1f25f;1f266,1f2ff;1f6d8,1f6dc;1f6ed,1f6ef;1f6fd,1f6ff;1f774,1f7" ++
  "7f;1f7d9,1f7df;1f7ec,1f7ef;1f7f1,1f7ff;1f80c,1f80f;1f848,1f84f;1f85a,1f85f;1f888,1f88f;1f8ae,1f8" ++
  "af;1f8b2,1f8ff;1fa54,1fa5f;1fa6e,1fa6f;1fa75,1fa77;1fa7d,1fa7f;1fa87,1fa8f;1faad,1faaf;1fabb,1fa" ++
  "bf;1fac6,1facf;1fada,1fadf;1fae8,1faef;1faf7,1faff;1fb93,1fb93;1fbcb,1fbef;1fbfa,1ffff;2a6e0,2a6" ++
  "ff;2b739,2b73f;2b81e,2b81f;2cea2,2ceaf;2ebe1,2f7ff;2fa1e,2ffff;3134b,e00ff;e01f0,10ffff"

/-- The white space characters. -/
def spaceCodes : String :=
  "9;a;b;c;d;1c;1d;1e;1f;20;85;a0;1680;2000;2001;2002;2003;2004;2005;2006;2007;2008;2009;200a;2028;" ++
  "2029;202f;205f;3000"

/-- Ranges of the characters that have a case: lowercase, uppercase and
titlecase letters (the `Cased` property). -/
def casedRanges : String :=
  "41,5a;61,7a;aa,aa;b5,b5;ba,ba;c0,d6;d8,f6;f8,1ba;1bc,1bf;1c4,293;295,2b8;2c0,2c1;2e0,2e4;345,345;3" ++
  "70,373;376,377;37a,37d;37f,37f;386,386;388,38a;38c,38c;38e,3a1;3a3,3f5;3f7,481;48a,52f;531,556;560" ++
  ",588;10a0,10c5;10c7,10c7;10cd,10cd;10d0,10fa;10fd,10ff;13a0,13f5;13f8,13fd;1c80,1c88;1c90,1cba;1cb" ++
  "d,1cbf;1d00,1dbf;1e00,1f15;1f18,1f1d;1f20,1f45;1f48,1f4d;1f50,1f57;1f59,1f59;1f5b,1f5b;1f5d,1f5d;1" ++
  "f5f,1f7d;1f80,1fb4;1fb6,1fbc;1fbe,1fbe;1fc2,1fc4;1fc6,1fcc;1fd0,1fd3;1fd6,1fdb;1fe0,1fec;1ff2,1ff4" ++
  ";1ff6,1ffc;2071,2071;207f,207f;2090,209c;2102,2102;2107,2107;210a,2113;2115,2115;2119,211d;2124,21" ++
  "24;2126,2126;2128,2128;212a,212d;212f,2134;2139,2139;213c,213f;2145,2149;214e,214e;2160,217f;2183," ++
  "2184;24b6,24e9;2c00,2ce4;2ceb,2cee;2cf2,2cf3;2d00,2d25;2d27,2d27;2d2d,2d2d;a640,a66d;a680,a69d;a72" ++
  "2,a787;a78b,a78e;a790,a7ca;a7d0,a7d1;a7d3,a7d3;a7d5,a7d9;a7f5,a7f6;a7f8,a7fa;ab30,ab5a;ab5c,ab68;a" ++
  "b70,abbf;fb00,fb06;fb13,fb17;ff21,ff3a;ff41,ff5a;10400,1044f;104b0,104d3;104d8,104fb;10570,1057a;1" ++
  "057c,1058a;1058c,10592;10594,10595;10597,105a1;105a3,105b1;105b3,105b9;105bb,105bc;10780,10780;107" ++
  "83,10785;10787,107b0;107b2,107ba;10c80,10cb2;10cc0,10cf2;118a0,118df;16e40,16e7f;1d400,1d454;1d456" ++
  ",1d49c;1d49e,1d49f;1d4a2,1d4a2;1d4a5,1d4a6;1d4a9,1d4ac;1d4ae,1d4b9;1d4bb,1d4bb;1d4bd,1d4c3;1d4c5,1" ++
  "d505;1d507,1d50a;1d50d,1d514;1d516,1d51c;1d51e,1d539;1d53b,1d53e;1d540,1d544;1d546,1d546;1d54a,1d5" ++
  "50;1d552,1d6a5;1d6a8,1d6c0;1d6c2,1d6da;1d6dc,1d6fa;1d6fc,1d714;1d716,1d734;1d736,1d74e;1d750,1d76e" ++
  ";1d770,1d788;1d78a,1d7a8;1d7aa,1d7c2;1d7c4,1d7cb;1df00,1df09;1df0b,1df1e;1e900,1e943;1f130,1f149;1" ++
  "f150,1f169;1f170,1f189"

/-- Ranges of the characters skipped when looking for the cased letters
around a capital sigma: combining marks, format characters, modifier letters
and symbols, and the apostrophes, points and colons that may stand inside a
word (the `Case_Ignorable` property). -/
def caseIgnorableRanges : String :=
  "27,27;2e,2e;3a,3a;5e,5e;60,60;a8,a8;ad,ad;af,af;b4,b4;b7,b8;2b0,36f;374,375;37a,37a;384,385;387,38" ++
  "7;483,489;559,559;55f,55f;591,5bd;5bf,5bf;5c1,5c2;5c4,5c5;5c7,5c7;5f4,5f4;600,605;610,61a;61c,61c;" ++
  "640,640;64b,65f;670,670;6d6,6dd;6df,6e8;6ea,6ed;70f,70f;711,711;730,74a;7a6,7b0;7eb,7f5;7fa,7fa;7f" ++
  "d,7fd;816,82d;859,85b;888,888;890,891;898,89f;8c9,902;93a,93a;93c,93c;941,948;94d,94d;951,957;962," ++
  "963;971,971;981,981;9bc,9bc;9c1,9c4;9cd,9cd;9e2,9e3;9fe,9fe;a01,a02;a3c,a3c;a41,a42;a47,a48;a4b,a4" ++
  "d;a51,a51;a70,a71;a75,a75;a81,a82;abc,abc;ac1,ac5;ac7,ac8;acd,acd;ae2,ae3;afa,aff;b01,b01;b3c,b3c;" ++
  "b3f,b3f;b41,b44;b4d,b4d;b55,b56;b62,b63;b82,b82;bc0,bc0;bcd,bcd;c00,c00;c04,c04;c3c,c3c;c3e,c40;c4" ++
  "6,c48;c4a,c4d;c55,c56;c62,c63;c81,c81;cbc,cbc;cbf,cbf;cc6,cc6;ccc,ccd;ce2,ce3;d00,d01;d3b,d3c;d41," ++
  "d44;d4d,d4d;d62,d63;d81,d81;dca,dca;dd2,dd4;dd6,dd6;e31,e31;e34,e3a;e46,e4e;eb1,eb1;eb4,ebc;ec6,ec" ++
  "6;ec8,ecd;f18,f19;f35,f35;f37,f37;f39,f39;f71,f7e;f80,f84;f86,f87;f8d,f97;f99,fbc;fc6,fc6;102d,103" ++
  "0;1032,1037;1039,103a;103d,103e;1058,1059;105e,1060;1071,1074;1082,1082;1085,1086;108d,108d;109d,1" ++
  "09d;10fc,10fc;135d,135f;1712,1714;1732,1733;1752,1753;1772,1773;17b4,17b5;17b7,17bd;17c6,17c6;17c9" ++
  ",17d3;17d7,17d7;17dd,17dd;180b,180f;1843,1843;1885,1886;18a9,18a9;1920,1922;1927,1928;1932,1932;19" ++
  "39,193b;1a17,1a18;1a1b,1a1b;1a56,1a56;1a58,1a5e;1a60,1a60;1a62,1a62;1a65,1a6c;1a73,1a7c;1a7f,1a7f;" ++
  "1aa7,1aa7;1ab0,1ace;1b00,1b03;1b34,1b34;1b36,1b3a;1b3c,1b3c;1b42,1b42;1b6b,1b73;1b80,1b81;1ba2,1ba" ++
  "5;1ba8,1ba9;1bab,1bad;1be6,1be6;1be8,1be9;1bed,1bed;1bef,1bf1;1c2c,1c33;1c36,1c37;1c78,1c7d;1cd0,1" ++
  "cd2;1cd4,1ce0;1ce2,1ce8;1ced,1ced;1cf4,1cf4;1cf8,1cf9;1d2c,1d6a;1d78,1d78;1d9b,1dff;1fbd,1fbd;1fbf" ++
  ",1fc1;1fcd,1fcf;1fdd,1fdf;1fed,1fef;1ffd,1ffe;200b,200f;2018,2019;2024,2024;2027,2027;202a,202e;20" ++
  "60,2064;2066,206f;2071,2071;207f,207f;2090,209c;20d0,20f0;2c7c,2c7d;2cef,2cf1;2d6f,2d6f;2d7f,2d7f;" ++
  "2de0,2dff;2e2f,2e2f;3005,3005;302a,302d;3031,3035;303b,303b;3099,309e;30fc,30fe;a015,a015;a4f8,a4f" ++
  "d;a60c,a60c;a66f,a672;a674,a67d;a67f,a67f;a69c,a69f;a6f0,a6f1;a700,a721;a770,a770;a788,a78a;a7f2,a" ++
  "7f4;a7f8,a7f9;a802,a802;a806,a806;a80b,a80b;a825,a826;a82c,a82c;a8c4,a8c5;a8e0,a8f1;a8ff,a8ff;a926" ++
  ",a92d;a947,a951;a980,a982;a9b3,a9b3;a9b6,a9b9;a9bc,a9bd;a9cf,a9cf;a9e5,a9e6;aa29,aa2e;aa31,aa32;aa" ++
  "35,aa36;aa43,aa43;aa4c,aa4c;aa70,aa70;aa7c,aa7c;aab0,aab0;aab2,aab4;aab7,aab8;aabe,aabf;aac1,aac1;" ++
  "aadd,aadd;aaec,aaed;aaf3,aaf4;aaf6,aaf6;ab5b,ab5f;ab69,ab6b;abe5,abe5;abe8,abe8;abed,abed;fb1e,fb1" ++
  "e;fbb2,fbc2;fe00,fe0f;fe13,fe13;fe20,fe2f;fe52,fe52;fe55,fe55;feff,feff;ff07,ff07;ff0e,ff0e;ff1a,f" ++
  "f1a;ff3e,ff3e;ff40,ff40;ff70,ff70;ff9e,ff9f;ffe3,ffe3;fff9,fffb;101fd,101fd;102e0,102e0;10376,1037" ++
  "a;10780,10785;10787,107b0;107b2,107ba;10a01,10a03;10a05,10a06;10a0c,10a0f;10a38,10a3a;10a3f,10a3f;" ++
  "10ae5,10ae6;10d24,10d27;10eab,10eac;10f46,10f50;10f82,10f85;11001,11001;11038,11046;11070,11070;11" ++
  "073,11074;1107f,11081;110b3,110b6;110b9,110ba;110bd,110bd;110c2,110c2;110cd,110cd;11100,11102;1112" ++
  "7,1112b;1112d,11134;11173,11173;11180,11181;111b6,111be;111c9,111cc;111cf,111cf;1122f,11231;11234," ++
  "11234;11236,11237;1123e,1123e;112df,112df;112e3,112ea;11300,11301;1133b,1133c;11340,11340;11366,11" ++
  "36c;11370,11374;11438,1143f;11442,11444;11446,11446;1145e,1145e;114b3,114b8;114ba,114ba;114bf,114c" ++
  "0;114c2,114c3;115b2,115b5;115bc,115bd;115bf,115c0;115dc,115dd;11633,1163a;1163d,1163d;1163f,11640;" ++
  "116ab,116ab;116ad,116ad;116b0,116b5;116b7,116b7;1171d,1171f;11722,11725;11727,1172b;1182f,11837;11" ++
  "839,1183a;1193b,1193c;1193e,1193e;11943,11943;119d4,119d7;119da,119db;119e0,119e0;11a01,11a0a;11a3" ++
  "3,11a38;11a3b,11a3e;11a47,11a47;11a51,11a56;11a59,11a5b;11a8a,11a96;11a98,11a99;11c30,11c36;11c38," ++
  "11c3d;11c3f,11c3f;11c92,11ca7;11caa,11cb0;11cb2,11cb3;11cb5,11cb6;11d31,11d36;11d3a,11d3a;11d3c,11" ++
  "d3d;11d3f,11d45;11d47,11d47;11d90,11d91;11d95,11d95;11d97,11d97;11ef3,11ef4;13430,13438;16af0,16af" ++
  "4;16b30,16b36;16b40,16b43;16f4f,16f4f;16f8f,16f9f;16fe0,16fe1;16fe3,16fe4;1aff0,1aff3;1aff5,1affb;" ++
  "1affd,1affe;1bc9d,1bc9e;1bca0,1bca3;1cf00,1cf2d;1cf30,1cf46;1d167,1d169;1d173,1d182;1d185,1d18b;1d" ++
  "1aa,1d1ad;1d242,1d244;1da00,1da36;1da3b,1da6c;1da75,1da75;1da84,1da84;1da9b,1da9f;1daa1,1daaf;1e00" ++
  "0,1e006;1e008,1e018;1e01b,1e021;1e023,1e024;1e026,1e02a;1e130,1e13d;1e2ae,1e2ae;1e2ec,1e2ef;1e8d0," ++
  "1e8d6;1e944,1e94b;1f3fb,1f3ff;e0001,e0001;e0020,e007f;e0100,e01ef"

end CaseData

end VoiceCommands.Text
