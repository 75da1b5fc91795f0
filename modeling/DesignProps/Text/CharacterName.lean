import DesignProps.Text.CharacterName.Table

/-!
# Names of characters

A character is called by its name or by an alias, in large or small letters.  The name of a Korean syllable is put
together from its sounds and that of a Chinese ideograph ends in its code; these are written in capitals alone.

Main statement: `isSyllable_iff` (a syllable is a lead, a vowel and a tail).
-/

set_option autoImplicit false

namespace DesignProps.Text

namespace CharacterName

/-! ## Syllables -/

/-- The consonants at the beginning of a syllable. -/
def leads : List String :=
  ["G", "GG", "N", "D", "DD", "R", "M", "B", "BB", "S", "SS", "", "J", "JJ", "C", "K", "T", "P", "H"]

def vowels : List String :=
  ["A", "AE", "YA", "YAE", "EO", "E", "YEO", "YE", "O", "WA", "WAE", "OE", "YO", "U", "WEO", "WE", "WI", "YU", "EU",
    "YI", "I"]

/-- The consonants at the end of a syllable. -/
def tails : List String :=
  ["", "G", "GG", "GS", "N", "NJ", "NH", "D", "L", "LG", "LM", "LB", "LS", "LT", "LP", "LH", "M", "B", "BS", "S", "SS",
    "NG", "J", "C", "K", "T", "P", "H"]

def isSyllable (cs : List Char) : Bool :=
  leads.any fun lead => vowels.any fun vowel => tails.any fun tail =>
    lead.toList ++ vowel.toList ++ tail.toList == cs

/-! ## Ideographs -/

/-- The first and the last code of each block of ideographs. -/
def ideographs : List (Nat × Nat) :=
  [(0x3400, 0x4DBF), (0x4E00, 0x9FFF), (0x20000, 0x2A6DF), (0x2A700, 0x2B738), (0x2B740, 0x2B81D), (0x2B820, 0x2CEA1),
    (0x2CEB0, 0x2EBE0), (0x30000, 0x3134A)]

/-- The value of a hexadecimal digit, which is not a small letter. -/
def digitValue? (c : Char) : Option Nat :=
  if '0' ≤ c ∧ c ≤ '9' then some (c.toNat - 48) else if 'A' ≤ c ∧ c ≤ 'F' then some (c.toNat - 55) else none

def code? (cs : List Char) : Option Nat := do
  let digits ← cs.mapM digitValue?
  return digits.foldl (16 * · + ·) 0

/-- Whether four or five digits are the code of an ideograph. -/
def isIdeograph (cs : List Char) : Bool :=
  (cs.length == 4 || cs.length == 5)
    && (code? cs).any fun code => ideographs.any fun (first, last) => first ≤ code && code ≤ last

/-! ## Names of the table -/

/-- Whether a name is in what is left of the table, behind the name that is being read.  Names are read backwards, and
one is complete before a small letter and at the end of the table. -/
def isIn (name : List Char) (complete : Bool) (reading : List Char) : List Char → Bool
  | [] => reading == name
  | c :: rest =>
      if c.isLower then
        (complete && reading == name) || isIn name false (reading.drop (c.toNat - 'a'.toNat)) rest
      else isIn name true (c :: reading) rest

def isListed (name : List Char) : Bool :=
  isIn (name.map Char.toUpper).reverse false [] (table.flatMap String.toList)

end CharacterName

/-! ## All names -/

open CharacterName

def isCharacterName (name : List Char) : Bool :=
  let syllable := "HANGUL SYLLABLE ".toList
  let ideograph := "CJK UNIFIED IDEOGRAPH-".toList
  if syllable.isPrefixOf name then isSyllable (name.drop syllable.length)
  else if ideograph.isPrefixOf name then isIdeograph (name.drop ideograph.length)
  else isListed name

/-! ## Laws -/

namespace CharacterName

theorem isSyllable_iff (cs : List Char) :
    isSyllable cs = true ↔
      ∃ lead ∈ leads, ∃ vowel ∈ vowels, ∃ tail ∈ tails, lead.toList ++ vowel.toList ++ tail.toList = cs := by
  simp [isSyllable]

end CharacterName

end DesignProps.Text
