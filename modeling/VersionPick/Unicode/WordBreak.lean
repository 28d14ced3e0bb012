/-
  VersionPick.Unicode.WordBreak — the classes of characters on which the rules turn that
  divide a text into words.

  A class is given by its rule. A character that none of the rules names has no class.
-/

import VersionPick.Unicode.Category
import VersionPick.Unicode.Script
import VersionPick.Unicode.Trait

namespace VersionPick.Unicode

inductive WordBreak where
  | carriageReturn
  | lineFeed
  | newline
  /-- Marks, which go with the character before them. -/
  | extend
  | joiner
  | regionalIndicator
  | format
  | katakana
  | hebrewLetter
  /-- Letters of scripts with blanks between words. -/
  | letter
  | singleQuote
  | doubleQuote
  /-- Signs that may stand inside a word or a number. -/
  | insideBoth
  | insideWord
  | insideNumber
  | numeric
  /-- Signs that connect words and numbers. -/
  | connector
  | space
deriving DecidableEq, Repr

namespace WordBreak

def all : List WordBreak :=
  [carriageReturn, lineFeed, newline, extend, joiner, regionalIndicator, format, katakana,
    hebrewLetter, letter, singleQuote, doubleQuote, insideBoth, insideWord, insideNumber, numeric,
    connector, space]

def names : WordBreak → List String
  | carriageReturn => ["CR"]
  | lineFeed => ["LF"]
  | newline => ["Newline", "NL"]
  | extend => ["Extend"]
  | joiner => ["ZWJ"]
  | regionalIndicator => ["Regional_Indicator", "RI"]
  | format => ["Format", "FO"]
  | katakana => ["Katakana", "KA"]
  | hebrewLetter => ["Hebrew_Letter", "HL"]
  | letter => ["ALetter", "LE"]
  | singleQuote => ["Single_Quote", "SQ"]
  | doubleQuote => ["Double_Quote", "DQ"]
  | insideBoth => ["MidNumLet", "MB"]
  | insideWord => ["MidLetter", "ML"]
  | insideNumber => ["MidNum", "MN"]
  | numeric => ["Numeric", "NU"]
  | connector => ["ExtendNumLet", "EX"]
  | space => ["WSegSpace"]

def marks : CharSet :=
  .diff (.unionAll [trait "Grapheme_Extend", inCategories ["Mc"], trait "Emoji_Modifier"])
    (.range 0x200D 0x200D)

/-- Decimal digits, one more digit of New Tai Lue, the Arabic decimal separator, and signs that are
    put around a number. The Syriac sign of abbreviation is put around letters. -/
def digits : CharSet :=
  .diff
    (.unionAll
      [inCategories ["Nd"], .ofRanges [(0x66B, 0x66B), (0x19DA, 0x19DA)],
        trait "Prepended_Concatenation_Mark"])
    (.range 0x70F 0x70F)

def formats : CharSet :=
  .diff (inCategories ["Cf"])
    (.unionAll
      [marks, digits, .ofRanges [(0x70F, 0x70F), (0x200B, 0x200B), (0x200D, 0x200D)]])

def katakanaChars : CharSet :=
  (scriptOf ["Kana"]).union <| .ofRanges
    [(0x3031, 0x3035), (0x309B, 0x309C), (0x30A0, 0x30A0), (0x30FC, 0x30FC), (0xFF70, 0xFF70)]

def hebrewLetters : CharSet := (scriptOf ["Hebr"]).inter (inCategories ["Lo"])

/-- Alphabetic characters and signs that are used like letters, but for those of other classes and
    of scripts that put no blanks between words. -/
def lettersInWords : CharSet :=
  .diff
    ((trait "Alphabetic").union <| .ofRanges
      [(0xB8, 0xB8), (0x2C2, 0x2C5), (0x2D2, 0x2D7), (0x2DE, 0x2DF), (0x2E5, 0x2EB),
        (0x2ED, 0x2ED), (0x2EF, 0x2FF), (0x55A, 0x55C), (0x55E, 0x55E), (0x58A, 0x58A),
        (0x5F3, 0x5F3), (0x70F, 0x70F), (0xA708, 0xA716), (0xA720, 0xA721), (0xA789, 0xA78A),
        (0xAB5B, 0xAB5B)])
    (.unionAll
      [trait "Ideographic", katakanaChars, hebrewLetters, marks, digits,
        scriptOf
          ["Hira", "Thai", "Laoo", "Mymr", "Khmr", "Tale", "Talu", "Lana", "Tavt", "Ahom"]])

def chars : WordBreak → CharSet
  | carriageReturn => .ofChar '\r'
  | lineFeed => .ofChar '\n'
  | newline => .ofRanges [(0x0B, 0x0C), (0x85, 0x85), (0x2028, 0x2029)]
  | extend => marks
  | joiner => .range 0x200D 0x200D
  | regionalIndicator => trait "Regional_Indicator"
  | format => formats
  | katakana => katakanaChars
  | hebrewLetter => hebrewLetters
  | letter => lettersInWords
  | singleQuote => .ofChar '\''
  | doubleQuote => .ofChar '"'
  | insideBoth =>
    .ofRanges
      [(0x2E, 0x2E), (0x2018, 0x2019), (0x2024, 0x2024), (0xFE52, 0xFE52), (0xFF07, 0xFF07),
        (0xFF0E, 0xFF0E)]
  | insideWord =>
    .ofRanges
      [(0x3A, 0x3A), (0xB7, 0xB7), (0x387, 0x387), (0x55F, 0x55F), (0x5F4, 0x5F4),
        (0x2027, 0x2027), (0xFE13, 0xFE13), (0xFE55, 0xFE55), (0xFF1A, 0xFF1A)]
  | insideNumber =>
    .ofRanges
      [(0x2C, 0x2C), (0x3B, 0x3B), (0x37E, 0x37E), (0x589, 0x589), (0x60C, 0x60D),
        (0x66C, 0x66C), (0x7F8, 0x7F8), (0x2044, 0x2044), (0xFE10, 0xFE10), (0xFE14, 0xFE14),
        (0xFE50, 0xFE50), (0xFE54, 0xFE54), (0xFF0C, 0xFF0C), (0xFF1B, 0xFF1B)]
  | numeric => digits
  | connector => (inCategories ["Pc"]).union (.range 0x202F 0x202F)
  | space =>
    (inCategories ["Zs"]).diff (.ofRanges [(0xA0, 0xA0), (0x2007, 0x2007), (0x202F, 0x202F)])

end WordBreak

end VersionPick.Unicode
