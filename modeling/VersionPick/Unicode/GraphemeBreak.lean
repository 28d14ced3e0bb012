/-
  VersionPick.Unicode.GraphemeBreak — the classes of characters on which the rules turn
  that divide a text into what a reader takes for single characters.

  A class is given by its rule. A character that none of the rules names has no class.
-/

import VersionPick.Unicode.Category
import VersionPick.Unicode.Trait

namespace VersionPick.Unicode

inductive GraphemeBreak where
  | control
  | carriageReturn
  | lineFeed
  /-- Marks, and whatever else changes the look of the character before it. -/
  | extend
  | joiner
  | regionalIndicator
  /-- Signs that belong to the character after them. -/
  | prepended
  | spacingMark
  | leadingJamo
  | vowelJamo
  | trailingJamo
  /-- A Korean syllable without a trailing consonant. -/
  | openSyllable
  | closedSyllable
deriving DecidableEq, Repr

namespace GraphemeBreak

def all : List GraphemeBreak :=
  [control, carriageReturn, lineFeed, extend, joiner, regionalIndicator, prepended, spacingMark,
    leadingJamo, vowelJamo, trailingJamo, openSyllable, closedSyllable]

def names : GraphemeBreak → List String
  | control => ["Control", "CN"]
  | carriageReturn => ["CR"]
  | lineFeed => ["LF"]
  | extend => ["Extend", "EX"]
  | joiner => ["ZWJ"]
  | regionalIndicator => ["Regional_Indicator", "RI"]
  | prepended => ["Prepend", "PP"]
  | spacingMark => ["SpacingMark", "SM"]
  | leadingJamo => ["L"]
  | vowelJamo => ["V"]
  | trailingJamo => ["T"]
  | openSyllable => ["LV"]
  | closedSyllable => ["LVT"]

def extending : CharSet := (trait "Grapheme_Extend").union (trait "Emoji_Modifier")

def prepending : CharSet :=
  (trait "Prepended_Concatenation_Mark").union <| .ofRanges
    [(0xD4E, 0xD4E), (0x111C2, 0x111C3), (0x113D1, 0x113D1), (0x1193F, 0x1193F),
      (0x11941, 0x11941), (0x11A3A, 0x11A3A), (0x11A84, 0x11A89), (0x11D46, 0x11D46),
      (0x11F02, 0x11F02)]

/-- Controls, formats and separators, and what may become one, unless another class has it. -/
def controls : CharSet :=
  .diff
    ((inCategories ["Zl", "Zp", "Cc", "Cf"]).union
      ((inCategories ["Cn"]).inter (trait "Default_Ignorable_Code_Point")))
    (.unionAll
      [extending, prepending, .ofRanges [(0x0A, 0x0A), (0x0D, 0x0D), (0x200D, 0x200D)]])

/-- Marks that take room of their own. The exceptions are marks after which a new character may
    start; the two vowels added go with the consonant before. -/
def spacing : CharSet :=
  .diff ((inCategories ["Mc"]).union (.ofRanges [(0xE33, 0xE33), (0xEB3, 0xEB3)]))
    (extending.union <| .ofRanges
      [(0x102B, 0x102C), (0x1038, 0x1038), (0x1062, 0x1064), (0x1067, 0x106D), (0x1083, 0x1083),
        (0x1087, 0x108C), (0x108F, 0x108F), (0x109A, 0x109C), (0x1A61, 0x1A61),
        (0x1A63, 0x1A64), (0xAA7B, 0xAA7B), (0xAA7D, 0xAA7D), (0x11720, 0x11721)])

/-- The Korean syllables without a trailing consonant: one in 28. -/
def openSyllables : CharSet :=
  ⟨(List.range 399).map fun k => (0xAC00 + 28 * k, 0xAC00 + 28 * k)⟩

def chars : GraphemeBreak → CharSet
  | control => controls
  | carriageReturn => .ofChar '\r'
  | lineFeed => .ofChar '\n'
  | extend => extending
  | joiner => .range 0x200D 0x200D
  | regionalIndicator => trait "Regional_Indicator"
  | prepended => prepending
  | spacingMark => spacing
  | leadingJamo => .ofRanges [(0x1100, 0x115F), (0xA960, 0xA97C)]
  | vowelJamo =>
    .ofRanges [(0x1160, 0x11A7), (0xD7B0, 0xD7C6), (0x16D63, 0x16D63), (0x16D67, 0x16D6A)]
  | trailingJamo => .ofRanges [(0x11A8, 0x11FF), (0xD7CB, 0xD7FB)]
  | openSyllable => openSyllables
  | closedSyllable => (CharSet.range 0xAC00 0xD7A3).diff openSyllables

end GraphemeBreak

end VersionPick.Unicode
