import AccountAccess.Text.Hidden
import AccountAccess.Text.Punycode

/-!
The domains of mail addresses.

A domain is a list of labels with full stops between them. One of letters and digits of any script
is taken as it stands (`isPlainDomain`). Another is taken if what hosts look up for it is
(`lookupName?`): there a character gives way to what it stands for, and a label that leaves ASCII is
written in Punycode.
-/

namespace AccountAccess.Mail

/-! ### Characters -/

/-- A blank or a tab. -/
def isSpace (c : Char) : Bool := c == ' ' || c == '\t'

/-- A sign that may stand in an atom. -/
def isAtomSign (c : Char) : Bool := "!#$%&'*+-/=?^_\x60\x7b|\x7d~".toList.contains c

/-- A character whose code point has the octets C2 to DF and 80 to BF, and none before them. -/
def isWideChar (c : Char) : Bool :=
  let high := c.toNat / 0x100
  let low := c.toNat % 0x100
  0xC2 ≤ high && high ≤ 0xDF && 0x80 ≤ low && low ≤ 0xBF

/-- A character that users and labels may have. -/
def isNameChar (c : Char) : Bool := Text.isLetterOrDigit c || isAtomSign c || isWideChar c

/-- How many octets a text takes. -/
def octets (s : List Char) : Nat := (String.ofList s).utf8ByteSize

/-! ### Labels -/

/-- The pieces of a text between full stops. -/
def labels (s : List Char) : List (List Char) := s.splitOn '.'

/-- A label of at most 63 octets that starts and ends with a letter or a digit. -/
def isLabel (s : List Char) : Bool :=
  octets s ≤ 63 && s.head?.any Text.isLetterOrDigit && s.getLast?.any Text.isLetterOrDigit &&
    s.all isNameChar

/-- Labels with full stops between them, of at most 254 octets. -/
def isPlainDomain (s : List Char) : Bool := octets s ≤ 254 && (labels s).all isLabel

/-! ### Names to look up -/

/-- Characters that a name to look up leaves out. -/
def ignoredRanges : List (Nat × Nat) := [
  (0xAD, 0xAD), (0x34F, 0x34F), (0x115F, 0x1160), (0x17B4, 0x17B5), (0x180B, 0x180F),
  (0x200B, 0x200B), (0x2060, 0x2064), (0x206A, 0x206F), (0x3164, 0x3164), (0xFE00, 0xFE0F),
  (0xFEFF, 0xFEFF), (0xFFA0, 0xFFA0), (0x1BCA0, 0x1BCA3), (0x1D173, 0x1D17A), (0xE0100, 0xE01EF)]

/-- Characters that can be seen, and that no name to look up has: accents and sound marks that
stand alone, letters in parentheses, punctuation marks that are no part of names. -/
def refusedRanges : List (Nat × Nat) := [
  (0xA8, 0xA8), (0xAF, 0xAF), (0xB4, 0xB4), (0xB8, 0xB8), (0x2D8, 0x2DD), (0x37A, 0x37A),
  (0x37E, 0x37E), (0x384, 0x385), (0x1FBD, 0x1FBD), (0x1FBF, 0x1FC1), (0x1FCD, 0x1FCF),
  (0x1FDD, 0x1FDF), (0x1FED, 0x1FEE), (0x1FFD, 0x1FFE), (0x2017, 0x2017), (0x2024, 0x2026),
  (0x203E, 0x203E), (0x207D, 0x207E), (0x208D, 0x208E), (0x2474, 0x24B5), (0x2A74, 0x2A74),
  (0x2FF0, 0x2FFF), (0x309B, 0x309C), (0x31EF, 0x31EF), (0x3200, 0x321E), (0x3220, 0x3243),
  (0x33C2, 0x33C2), (0x33C7, 0x33C7), (0x33D8, 0x33D8), (0xFC5E, 0xFC63), (0xFDFA, 0xFDFB),
  (0xFE10, 0xFE10), (0xFE12, 0xFE14), (0xFE19, 0xFE19), (0xFE30, 0xFE30), (0xFE35, 0xFE36),
  (0xFE47, 0xFE4C), (0xFE50, 0xFE50), (0xFE52, 0xFE52), (0xFE54, 0xFE55), (0xFE59, 0xFE5A),
  (0xFE64, 0xFE65), (0xFE68, 0xFE68), (0xFE6B, 0xFE6B), (0xFE70, 0xFE70), (0xFE72, 0xFE72),
  (0xFE74, 0xFE74), (0xFE76, 0xFE76), (0xFE78, 0xFE78), (0xFE7A, 0xFE7A), (0xFE7C, 0xFE7C),
  (0xFE7E, 0xFE7E), (0xFFE3, 0xFFE3), (0xFFFC, 0xFFFD), (0x1F100, 0x1F10A), (0x1F110, 0x1F129)]

/-- Characters that stand for letters and digits of ASCII. -/
def letterFormRanges : List (Nat × Nat) := [
  (0xAA, 0xAA), (0xB2, 0xB3), (0xB9, 0xBA), (0x132, 0x133), (0x17F, 0x17F), (0x1C7, 0x1CC),
  (0x1F1, 0x1F3), (0x2B0, 0x2B0), (0x2B2, 0x2B3), (0x2B7, 0x2B8), (0x2E1, 0x2E3), (0x1D2C, 0x1D2C),
  (0x1D2E, 0x1D2E), (0x1D30, 0x1D31), (0x1D33, 0x1D3A), (0x1D3C, 0x1D3C), (0x1D3E, 0x1D43),
  (0x1D47, 0x1D49), (0x1D4D, 0x1D4D), (0x1D4F, 0x1D50), (0x1D52, 0x1D52), (0x1D56, 0x1D58),
  (0x1D5B, 0x1D5B), (0x1D62, 0x1D65), (0x1D9C, 0x1D9C), (0x1DA0, 0x1DA0), (0x1DBB, 0x1DBB),
  (0x2070, 0x2071), (0x2074, 0x2079), (0x207F, 0x2089), (0x2090, 0x2093), (0x2095, 0x209C),
  (0x20A8, 0x20A8), (0x2100, 0x2102), (0x2105, 0x2106), (0x210A, 0x210E), (0x2110, 0x2113),
  (0x2115, 0x2116), (0x2119, 0x211D), (0x2120, 0x2122), (0x2124, 0x2124), (0x2128, 0x2128),
  (0x212A, 0x212A), (0x212C, 0x212D), (0x212F, 0x2131), (0x2133, 0x2134), (0x2139, 0x2139),
  (0x213B, 0x213B), (0x2145, 0x2149), (0x2160, 0x217F), (0x2460, 0x2473), (0x24B6, 0x24EA),
  (0x2C7C, 0x2C7D), (0x3250, 0x325F), (0x32B1, 0x32BF), (0x32CC, 0x32CF), (0x3371, 0x337A),
  (0x3380, 0x3381), (0x3383, 0x338B), (0x338E, 0x3394), (0x3396, 0x339A), (0x339C, 0x33A6),
  (0x33A9, 0x33AD), (0x33B0, 0x33B1), (0x33B3, 0x33B5), (0x33B7, 0x33BB), (0x33BD, 0x33BF),
  (0x33C3, 0x33C5), (0x33C8, 0x33D7), (0x33D9, 0x33DD), (0x33FF, 0x33FF), (0xA7F1, 0xA7F4),
  (0xFB00, 0xFB06), (0x107A5, 0x107A5), (0x1CCD6, 0x1CCF9), (0x1D400, 0x1D454), (0x1D456, 0x1D49C),
  (0x1D49E, 0x1D49F), (0x1D4A2, 0x1D4A2), (0x1D4A5, 0x1D4A6), (0x1D4A9, 0x1D4AC),
  (0x1D4AE, 0x1D4B9), (0x1D4BB, 0x1D4BB), (0x1D4BD, 0x1D4C3), (0x1D4C5, 0x1D505),
  (0x1D507, 0x1D50A), (0x1D50D, 0x1D514), (0x1D516, 0x1D51C), (0x1D51E, 0x1D539),
  (0x1D53B, 0x1D53E), (0x1D540, 0x1D544), (0x1D546, 0x1D546), (0x1D54A, 0x1D550),
  (0x1D552, 0x1D6A3), (0x1D7CE, 0x1D7FF), (0x1F12B, 0x1F12E), (0x1F130, 0x1F14F),
  (0x1F16A, 0x1F16C), (0x1F190, 0x1F190), (0x1FBF0, 0x1FBF9)]

/-- Characters that stand for signs of ASCII. -/
def signFormRanges : List (Nat × Nat) := [
  (0x1FEF, 0x1FEF), (0x203C, 0x203C), (0x2047, 0x2049), (0x207A, 0x207A), (0x207C, 0x207C),
  (0x208A, 0x208A), (0x208C, 0x208C), (0x2A75, 0x2A76), (0xFB29, 0xFB29), (0xFE15, 0xFE16),
  (0xFE33, 0xFE34), (0xFE37, 0xFE38), (0xFE4D, 0xFE4F), (0xFE56, 0xFE57), (0xFE5B, 0xFE5C),
  (0xFE5F, 0xFE63), (0xFE66, 0xFE66), (0xFE69, 0xFE6A)]

/-- Marks behind which a joiner may stand, since they take the vowel from a consonant. -/
def joinedRanges : List (Nat × Nat) := [
  (0x94D, 0x94D), (0x9CD, 0x9CD), (0xA4D, 0xA4D), (0xACD, 0xACD), (0xB4D, 0xB4D), (0xBCD, 0xBCD),
  (0xC4D, 0xC4D), (0xCCD, 0xCCD), (0xD3B, 0xD3C), (0xD4D, 0xD4D), (0xDCA, 0xDCA), (0xE3A, 0xE3A),
  (0xEBA, 0xEBA), (0xF84, 0xF84), (0x1039, 0x103A), (0x1714, 0x1715), (0x1734, 0x1734),
  (0x17D2, 0x17D2), (0x1A60, 0x1A60), (0x1B44, 0x1B44), (0x1BAA, 0x1BAB), (0x1BF2, 0x1BF3),
  (0x2D7F, 0x2D7F), (0xA806, 0xA806), (0xA82C, 0xA82C), (0xA8C4, 0xA8C4), (0xA953, 0xA953),
  (0xA9C0, 0xA9C0), (0xAAF6, 0xAAF6), (0xABED, 0xABED), (0x10A3F, 0x10A3F), (0x11046, 0x11046),
  (0x11070, 0x11070), (0x1107F, 0x1107F), (0x110B9, 0x110B9), (0x11133, 0x11134),
  (0x111C0, 0x111C0), (0x11235, 0x11235), (0x112EA, 0x112EA), (0x1134D, 0x1134D),
  (0x113CE, 0x113D0), (0x11442, 0x11442), (0x114C2, 0x114C2), (0x115BF, 0x115BF),
  (0x1163F, 0x1163F), (0x116B6, 0x116B6), (0x1172B, 0x1172B), (0x11839, 0x11839),
  (0x1193D, 0x1193E), (0x119E0, 0x119E0), (0x11A34, 0x11A34), (0x11A47, 0x11A47),
  (0x11A99, 0x11A99), (0x11C3F, 0x11C3F), (0x11D44, 0x11D45), (0x11D97, 0x11D97),
  (0x11F41, 0x11F42), (0x1612F, 0x1612F)]

/-- A zero width joiner or non-joiner. -/
def isJoiner (c : Char) : Bool := c == '\u200C' || c == '\u200D'

/-- What a character stands for in a name to look up. Only the kind of what stands for a form
counts, so any letter form stands for the letter `a`, and any sign form for a hyphen. -/
def standsFor? (c : Char) : Option (List Char) :=
  if c.toNat < 0x80 then some [c]
  else if '！' ≤ c && c ≤ '～' then some [Char.ofNat (c.toNat - 0xFEE0)]
  else if c == '。' || c == '｡' then some ['.']
  else if Text.inRanges ignoredRanges c then some []
  else if Text.isMark c || isJoiner c then some [c]
  else if Text.isHidden c || Text.inRanges refusedRanges c then none
  else if Text.inRanges letterFormRanges c then some ['a']
  else if Text.inRanges signFormRanges c then some ['-']
  else some [c]

/-- What each character stands for, in place of it. -/
def standingFor? : List Char → Option (List Char)
  | [] => some []
  | c :: s => do return (← standsFor? c) ++ (← standingFor? s)

/-- No joiner stands but behind a mark that it may follow. -/
def joinersFit : Option Char → List Char → Bool
  | _, [] => true
  | before, c :: s =>
    (!isJoiner c || before.any (Text.inRanges joinedRanges)) && joinersFit (some c) s

/-- The marks that a label in Punycode starts with. -/
def encodedPrefix : List Char := "xn--".toList

/-- A label as hosts look it up. -/
def lookupLabel? (s : List Char) : Option (List Char) :=
  if s.all (·.toNat < 0x80) then some s
  else if s.head?.any Text.isMark || !joinersFit none s || encodedPrefix.isPrefixOf s then none
  else some (encodedPrefix ++ Punycode.encode s)

/-- A domain as hosts look it up. -/
def lookupName? (s : List Char) : Option (List Char) := do
  let ls ← (labels (← standingFor? s)).mapM lookupLabel?
  return ['.'].intercalate ls

/-- A domain: plain as it stands, or as hosts look it up. -/
def isDomain (s : List Char) : Bool := isPlainDomain s || (lookupName? s).any isPlainDomain

end AccountAccess.Mail
