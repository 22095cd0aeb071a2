/-
  Direction — text from left to right, from right to left, and both.

  Each character has a direction, weak for digits and none of its own for marks.  The
  rule for short texts (`checkDirections`) sees to it that one with characters from
  right to left can be read in only one way: its first character says which way it
  runs, no character of the other way is in it, and it ends with one of its own way
  or with a digit, apart from marks.  The tables cover the characters of labels.
-/
import DocumentClient.Text.Printable

namespace DocumentClient.Text

/-- The direction of a character. -/
inductive Direction where
  /-- From left to right. -/
  | left
  /-- From right to left. -/
  | right
  /-- From right to left, in the Arabic way. -/
  | arabic
  | number
  | arabicNumber
  | separator
  | neutral
  | boundary
  /-- As the character it is set on. -/
  | mark
  /-- Nothing is known about the character. -/
  | unknown
  deriving DecidableEq

/-! ## Tables -/

def rightRanges : List (Nat × Nat) :=
  [(0x5d0, 0x5f4), (0x7c0, 0x7ea), (0x7f4, 0x7f5), (0x800, 0x815), (0x81a, 0x81a), (0x824, 0x824),
   (0x828, 0x828), (0x840, 0x858), (0x10800, 0x10939), (0x10980, 0x10a00), (0x10a10, 0x10a35),
   (0x10a60, 0x10ae4), (0x10b00, 0x10cf2), (0x10e80, 0x10ea9), (0x10eb0, 0x10eb1),
   (0x10f00, 0x10f27), (0x10f70, 0x10f81), (0x10fb0, 0x10ff6), (0x1e800, 0x1e8c4),
   (0x1e922, 0x1e943), (0x1e94b, 0x1e959)]

def arabicRanges : List (Nat × Nat) :=
  [(0x620, 0x64a), (0x66e, 0x66f), (0x671, 0x6d5), (0x6e5, 0x6e6), (0x6ee, 0x6ef), (0x6fa, 0x710),
   (0x712, 0x72f), (0x74d, 0x7a5), (0x7b1, 0x7b1), (0x860, 0x88e), (0x8a0, 0x8c9), (0xfe73, 0xfe73),
   (0x10d00, 0x10d23), (0x10f30, 0x10f45)]

def arabicNumberRanges : List (Nat × Nat) :=
  [(0x660, 0x669), (0x10d30, 0x10d39)]

def numberRanges : List (Nat × Nat) :=
  [(0x30, 0x39), (0x6f0, 0x6f9)]

def neutralRanges : List (Nat × Nat) :=
  [(0xb7, 0xb7), (0x2b9, 0x2ba), (0x2c6, 0x2cf), (0x2ec, 0x2ec), (0x375, 0x375), (0x2e2f, 0x2e2f),
   (0x30fb, 0x30fb), (0xa67f, 0xa67f), (0xa717, 0xa71f), (0xa788, 0xa788)]

/-- The marks without a direction of their own. -/
def directionlessMarks : List (Nat × Nat) :=
  [(0x300, 0x36f), (0x483, 0x487), (0x591, 0x5c7), (0x610, 0x61a), (0x64b, 0x65f), (0x670, 0x670),
   (0x6d6, 0x6e4), (0x6e7, 0x6ed), (0x711, 0x711), (0x730, 0x74a), (0x7a6, 0x7b0), (0x7eb, 0x7f3),
   (0x7fd, 0x7fd), (0x816, 0x819), (0x81b, 0x823), (0x825, 0x827), (0x829, 0x82d), (0x859, 0x85b),
   (0x898, 0x89f), (0x8ca, 0x902), (0x93a, 0x93a), (0x93c, 0x93c), (0x941, 0x948), (0x94d, 0x94d),
   (0x951, 0x957), (0x962, 0x963), (0x981, 0x981), (0x9bc, 0x9bc), (0x9c1, 0x9c4), (0x9cd, 0x9cd),
   (0x9e2, 0x9e3), (0x9fe, 0xa02), (0xa3c, 0xa3c), (0xa41, 0xa51), (0xa70, 0xa71), (0xa75, 0xa82),
   (0xabc, 0xabc), (0xac1, 0xac8), (0xacd, 0xacd), (0xae2, 0xae3), (0xafa, 0xb01), (0xb3c, 0xb3c),
   (0xb3f, 0xb3f), (0xb41, 0xb44), (0xb4d, 0xb56), (0xb62, 0xb63), (0xb82, 0xb82), (0xbc0, 0xbc0),
   (0xbcd, 0xbcd), (0xc00, 0xc00), (0xc04, 0xc04), (0xc3c, 0xc3c), (0xc3e, 0xc40), (0xc46, 0xc56),
   (0xc62, 0xc63), (0xc81, 0xc81), (0xcbc, 0xcbc), (0xccc, 0xccd), (0xce2, 0xce3), (0xd00, 0xd01),
   (0xd3b, 0xd3c), (0xd41, 0xd44), (0xd4d, 0xd4d), (0xd62, 0xd63), (0xd81, 0xd81), (0xdca, 0xdca),
   (0xdd2, 0xdd6), (0xe31, 0xe31), (0xe34, 0xe3a), (0xe47, 0xe4e), (0xeb1, 0xeb1), (0xeb4, 0xebc),
   (0xec8, 0xecd), (0xf18, 0xf19), (0xf35, 0xf39), (0xf71, 0xf7e), (0xf80, 0xf87), (0xf8d, 0xfc6),
   (0x102d, 0x1030), (0x1032, 0x1037), (0x1039, 0x103a), (0x103d, 0x103e), (0x1058, 0x1059),
   (0x105e, 0x1060), (0x1071, 0x1074), (0x1082, 0x1082), (0x1085, 0x1086), (0x108d, 0x108d),
   (0x109d, 0x109d), (0x135d, 0x135f), (0x1712, 0x1714), (0x1732, 0x1733), (0x1752, 0x1753),
   (0x1772, 0x1773), (0x17b7, 0x17bd), (0x17c6, 0x17c6), (0x17c9, 0x17d3), (0x17dd, 0x17dd),
   (0x1885, 0x1886), (0x18a9, 0x18a9), (0x1920, 0x1922), (0x1927, 0x1928), (0x1932, 0x1932),
   (0x1939, 0x193b), (0x1a17, 0x1a18), (0x1a1b, 0x1a1b), (0x1a56, 0x1a56), (0x1a58, 0x1a60),
   (0x1a62, 0x1a62), (0x1a65, 0x1a6c), (0x1a73, 0x1a7f), (0x1ab0, 0x1ace), (0x1b00, 0x1b03),
   (0x1b34, 0x1b34), (0x1b36, 0x1b3a), (0x1b3c, 0x1b3c), (0x1b42, 0x1b42), (0x1b6b, 0x1b81),
   (0x1ba2, 0x1ba5), (0x1ba8, 0x1ba9), (0x1bab, 0x1bad), (0x1be6, 0x1be6), (0x1be8, 0x1be9),
   (0x1bed, 0x1bed), (0x1bef, 0x1bf1), (0x1c2c, 0x1c33), (0x1c36, 0x1c37), (0x1cd0, 0x1ce0),
   (0x1ce2, 0x1ce8), (0x1ced, 0x1ced), (0x1cf4, 0x1cf4), (0x1cf8, 0x1cf9), (0x1dc0, 0x1dff),
   (0x2cef, 0x2cf1), (0x2d7f, 0x2d7f), (0x2de0, 0x2dff), (0x302a, 0x302d), (0x3099, 0x309a),
   (0xa66f, 0xa67d), (0xa69e, 0xa69f), (0xa6f0, 0xa6f1), (0xa802, 0xa802), (0xa806, 0xa806),
   (0xa80b, 0xa80b), (0xa825, 0xa826), (0xa82c, 0xa82c), (0xa8c4, 0xa8c5), (0xa8e0, 0xa8f1),
   (0xa8ff, 0xa8ff), (0xa926, 0xa92d), (0xa947, 0xa951), (0xa980, 0xa982), (0xa9b3, 0xa9b3),
   (0xa9b6, 0xa9b9), (0xa9bc, 0xa9bd), (0xa9e5, 0xa9e5), (0xaa29, 0xaa2e), (0xaa31, 0xaa32),
   (0xaa35, 0xaa36), (0xaa43, 0xaa43), (0xaa4c, 0xaa4c), (0xaa7c, 0xaa7c), (0xaab0, 0xaab0),
   (0xaab2, 0xaab4), (0xaab7, 0xaab8), (0xaabe, 0xaabf), (0xaac1, 0xaac1), (0xaaec, 0xaaed),
   (0xaaf6, 0xaaf6), (0xabe5, 0xabe5), (0xabe8, 0xabe8), (0xabed, 0xabed), (0xfb1e, 0xfe2f),
   (0x101fd, 0x101fd), (0x102e0, 0x102e0), (0x10376, 0x1037a), (0x10a01, 0x10a0f),
   (0x10a38, 0x10a3f), (0x10ae5, 0x10ae6), (0x10d24, 0x10d27), (0x10eab, 0x10eac),
   (0x10f46, 0x10f50), (0x10f82, 0x10f85), (0x11001, 0x11001), (0x11038, 0x11046),
   (0x11070, 0x11070), (0x11073, 0x11074), (0x1107f, 0x11081), (0x110b3, 0x110b6),
   (0x110b9, 0x110c2), (0x11100, 0x11102), (0x11127, 0x1112b), (0x1112d, 0x11134),
   (0x11173, 0x11173), (0x11180, 0x11181), (0x111b6, 0x111be), (0x111c9, 0x111cc),
   (0x111cf, 0x111cf), (0x1122f, 0x11231), (0x11234, 0x11234), (0x11236, 0x1123e),
   (0x112df, 0x112df), (0x112e3, 0x112ea), (0x11300, 0x11301), (0x1133b, 0x1133c),
   (0x11340, 0x11340), (0x11366, 0x11374), (0x11438, 0x1143f), (0x11442, 0x11444),
   (0x11446, 0x11446), (0x1145e, 0x1145e), (0x114b3, 0x114b8), (0x114ba, 0x114ba),
   (0x114bf, 0x114c0), (0x114c2, 0x114c3), (0x115b2, 0x115b5), (0x115bc, 0x115bd),
   (0x115bf, 0x115c0), (0x115dc, 0x115dd), (0x11633, 0x1163a), (0x1163d, 0x1163d),
   (0x1163f, 0x11640), (0x116ab, 0x116ab), (0x116ad, 0x116ad), (0x116b0, 0x116b5),
   (0x116b7, 0x116b7), (0x1171d, 0x1171f), (0x11722, 0x11725), (0x11727, 0x1172b),
   (0x1182f, 0x11837), (0x11839, 0x1183a), (0x1193b, 0x1193c), (0x1193e, 0x1193e),
   (0x11943, 0x11943), (0x119d4, 0x119db), (0x119e0, 0x119e0), (0x11a01, 0x11a06),
   (0x11a09, 0x11a0a), (0x11a33, 0x11a38), (0x11a3b, 0x11a47), (0x11a51, 0x11a56),
   (0x11a59, 0x11a5b), (0x11a8a, 0x11a96), (0x11a98, 0x11a99), (0x11c30, 0x11c3d),
   (0x11c92, 0x11ca7), (0x11caa, 0x11cb0), (0x11cb2, 0x11cb3), (0x11cb5, 0x11cb6),
   (0x11d31, 0x11d45), (0x11d47, 0x11d47), (0x11d90, 0x11d91), (0x11d95, 0x11d95),
   (0x11d97, 0x11d97), (0x11ef3, 0x11ef4), (0x16af0, 0x16af4), (0x16b30, 0x16b36),
   (0x16f4f, 0x16f4f), (0x16f8f, 0x16f92), (0x16fe4, 0x16fe4), (0x1bc9d, 0x1daaf),
   (0x1e000, 0x1e02a), (0x1e130, 0x1e136), (0x1e2ae, 0x1e2ae), (0x1e2ec, 0x1e2ef),
   (0x1e8d0, 0x1e8d6), (0x1e944, 0x1e94a)]

/-- The direction of a character of a label. -/
def direction (c : Nat) : Direction :=
  if c = 0x2d then .separator
  else if c = 0x200c ∨ c = 0x200d then .boundary
  else if inRanges numberRanges c then .number
  else if inRanges rightRanges c then .right
  else if inRanges arabicRanges c then .arabic
  else if inRanges arabicNumberRanges c then .arabicNumber
  else if inRanges neutralRanges c then .neutral
  else if inRanges directionlessMarks c then .mark
  else if isPrintablePoint c then .left
  else .unknown

/-! ## Classes -/

namespace Direction

/-- Whether a character makes a text one that also runs from right to left. -/
def isRightToLeft : Direction → Bool
  | right | arabic | arabicNumber => true
  | _ => false

/-- Whether a text may begin with it; then, whether it runs from right to left. -/
def start? : Direction → Option Bool
  | right | arabic => some true
  | left => some false
  | _ => none

/-- Whether a text that runs one way may hold it. -/
def fits (rightToLeft : Bool) : Direction → Bool
  | left => !rightToLeft
  | right | arabic | arabicNumber => rightToLeft
  | unknown => false
  | _ => true

/-- Whether a text that runs one way may end with it. -/
def ends (rightToLeft : Bool) : Direction → Bool
  | left => !rightToLeft
  | right | arabic | arabicNumber => rightToLeft
  | number => true
  | _ => false

def isNumber : Direction → Bool
  | number | arabicNumber => true
  | _ => false

end Direction

/-! ## The rule -/

/-- How a text breaks the rule. -/
inductive DirectionFault where
  | unknown (position : Nat)
  | start
  | misplaced (position : Nat) (rightToLeft : Bool)
  | mixedNumbers
  | ending
  deriving DecidableEq

/-- Goes through the directions from a position on; `numbers` is the kind of number
    found before. -/
def checkInside (rightToLeft : Bool) (numbers : Option Direction) (position : Nat) :
    List Direction → Except DirectionFault Unit
  | [] => .ok ()
  | d :: rest =>
    if !d.fits rightToLeft then .error (.misplaced position rightToLeft)
    else if rightToLeft && d.isNumber then
      if numbers.getD d = d then checkInside rightToLeft (some d) (position + 1) rest
      else .error .mixedNumbers
    else checkInside rightToLeft numbers (position + 1) rest

/-- Refuses directions that break the rule. -/
def checkDirections (directions : List Direction) : Except DirectionFault Unit := do
  match directions.findIdx? (· == .unknown) with
  | some i => .error (.unknown (i + 1))
  | none => pure ()
  if !directions.any Direction.isRightToLeft then return ()
  match directions.head?.bind Direction.start? with
  | none => .error .start
  | some rightToLeft => do
    checkInside rightToLeft none 1 directions
    let last := (directions.reverse.dropWhile (· == .mark)).head?
    if last.any (Direction.ends rightToLeft) then .ok () else .error .ending

end DocumentClient.Text
