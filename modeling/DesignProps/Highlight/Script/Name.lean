import DesignProps.Text.Identifier

/-!
# Names in scripts

A name in a script begins with a letter, a dollar sign or an underscore and goes on with these, digits, marks and
joiners.  Not every character of an identifier may stand in it.

Main statement: `isNamePart_of_isNameStart`.
-/

set_option autoImplicit false

namespace DesignProps.Highlight.Script

open Text (inRanges)

/-- Characters of names that are not characters of identifiers. -/
def furtherRanges : List (Nat × Nat) := [
  (0x24, 0x24), (0x37A, 0x37A), (0x2E2F, 0x2E2F), (0xFC5E, 0xFC63), (0xFDFA, 0xFDFB), (0xFE70, 0xFE70),
  (0xFE72, 0xFE72), (0xFE74, 0xFE74), (0xFE76, 0xFE76), (0xFE78, 0xFE78), (0xFE7A, 0xFE7A), (0xFE7C, 0xFE7C),
  (0xFE7E, 0xFE7E)]

/-- Characters of identifiers that are not characters of names. -/
def excludedRanges : List (Nat × Nat) := [
  (0xB7, 0xB7), (0x387, 0x387), (0x870, 0x887), (0x889, 0x88E), (0x898, 0x89F), (0x8B5, 0x8B5), (0x8BE, 0x8D2),
  (0xB55, 0xB55), (0xC3C, 0xC3C), (0xC5D, 0xC5D), (0xCDD, 0xCDD), (0xD04, 0xD04), (0xD81, 0xD81), (0xE86, 0xE86),
  (0xE89, 0xE89), (0xE8C, 0xE8C), (0xE8E, 0xE93), (0xE98, 0xE98), (0xEA0, 0xEA0), (0xEA8, 0xEA9), (0xEAC, 0xEAC),
  (0xEBA, 0xEBA), (0x1369, 0x1371), (0x170D, 0x170D), (0x1715, 0x1715), (0x171F, 0x171F), (0x180F, 0x180F),
  (0x19DA, 0x19DA), (0x1ABF, 0x1ACE), (0x1B4C, 0x1B4C), (0x1CFA, 0x1CFA), (0x1DFA, 0x1DFA), (0x2118, 0x2118),
  (0x212E, 0x212E), (0x2C2F, 0x2C2F), (0x2C5F, 0x2C5F), (0x31BB, 0x31BF), (0x4DB6, 0x4DBF), (0x9FF0, 0x9FFF),
  (0xA7BA, 0xA7CA), (0xA7D0, 0xA7D1), (0xA7D3, 0xA7D3), (0xA7D5, 0xA7D9), (0xA7F2, 0xA7F6), (0xA82C, 0xA82C),
  (0xAB66, 0xAB69), (0x10570, 0x1057A), (0x1057C, 0x1058A), (0x1058C, 0x10592), (0x10594, 0x10595),
  (0x10597, 0x105A1), (0x105A3, 0x105B1), (0x105B3, 0x105B9), (0x105BB, 0x105BC), (0x10780, 0x10785),
  (0x10787, 0x107B0), (0x107B2, 0x107BA), (0x10E80, 0x10EA9), (0x10EAB, 0x10EAC), (0x10EB0, 0x10EB1),
  (0x10F70, 0x10F85), (0x10FB0, 0x10FC4), (0x10FE0, 0x10FF6), (0x11070, 0x11075), (0x110C2, 0x110C2),
  (0x11147, 0x11147), (0x111CE, 0x111CF), (0x1145F, 0x11461), (0x116B8, 0x116B8), (0x11740, 0x11746),
  (0x11900, 0x11906), (0x11909, 0x11909), (0x1190C, 0x11913), (0x11915, 0x11916), (0x11918, 0x11935),
  (0x11937, 0x11938), (0x1193B, 0x11943), (0x11950, 0x11959), (0x119A0, 0x119A7), (0x119AA, 0x119D7),
  (0x119DA, 0x119E1), (0x119E3, 0x119E4), (0x11A84, 0x11A85), (0x11AB0, 0x11ABF), (0x11FB0, 0x11FB0),
  (0x12F90, 0x12FF0), (0x16A70, 0x16ABE), (0x16AC0, 0x16AC9), (0x16F45, 0x16F4A), (0x16F4F, 0x16F4F),
  (0x16F7F, 0x16F87), (0x16FE3, 0x16FE4), (0x16FF0, 0x16FF1), (0x187F2, 0x187F7), (0x18AF3, 0x18CD5),
  (0x18D00, 0x18D08), (0x1AFF0, 0x1AFF3), (0x1AFF5, 0x1AFFB), (0x1AFFD, 0x1AFFE), (0x1B11F, 0x1B122),
  (0x1B150, 0x1B152), (0x1B164, 0x1B167), (0x1CF00, 0x1CF2D), (0x1CF30, 0x1CF46), (0x1DF00, 0x1DF1E),
  (0x1E100, 0x1E12C), (0x1E130, 0x1E13D), (0x1E140, 0x1E149), (0x1E14E, 0x1E14E), (0x1E290, 0x1E2AE),
  (0x1E2C0, 0x1E2F9), (0x1E7E0, 0x1E7E6), (0x1E7E8, 0x1E7EB), (0x1E7ED, 0x1E7EE), (0x1E7F0, 0x1E7FE),
  (0x1E94B, 0x1E94B), (0x1FBF0, 0x1FBF9), (0x2A6D7, 0x2A6DF), (0x2B735, 0x2B738), (0x30000, 0x3134A)]

/-- Characters of names that no identifier begins with, but a name does. -/
def furtherStarts : List Nat := [0xE33, 0xEB3, 0xFF9E, 0xFF9F]

/-- Characters of names that an identifier begins with, but no name does. -/
def excludedStarts : List Nat := [0x1885, 0x1886, 0x1CF2, 0x1CF3]

def joiners : List Nat := [0x200C, 0x200D]

def isNamePart (c : Char) : Bool :=
  let code := c.toNat
  (inRanges code Text.identifierContinueRanges || inRanges code furtherRanges || joiners.contains code)
    && !inRanges code excludedRanges

def isNameStart (c : Char) : Bool :=
  let code := c.toNat
  isNamePart c && !joiners.contains code && !excludedStarts.contains code
    && (inRanges code Text.identifierStartRanges || inRanges code furtherRanges || furtherStarts.contains code)

theorem isNamePart_of_isNameStart {c : Char} (h : isNameStart c = true) : isNamePart c = true := by
  simp only [isNameStart, Bool.and_eq_true] at h
  exact h.1.1.1

end DesignProps.Highlight.Script
