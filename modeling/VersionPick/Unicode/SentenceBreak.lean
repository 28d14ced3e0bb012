/-
  VersionPick.Unicode.SentenceBreak — the classes of characters on which the rules turn that
  divide a text into sentences.

  A class is given by its rule. A character that none of the rules names has no class.
-/

import VersionPick.Unicode.WordBreak

namespace VersionPick.Unicode

inductive SentenceBreak where
  | carriageReturn
  | lineFeed
  /-- Other ends of a line or a paragraph. -/
  | separator
  /-- Marks, which go with the character before them. -/
  | extend
  | format
  | space
  | lower
  | upper
  /-- Letters without case. -/
  | otherLetter
  | numeric
  /-- Signs that may end a sentence or an abbreviation. -/
  | fullStop
  /-- Signs after which a sentence goes on. -/
  | continues
  /-- Signs that end a sentence. -/
  | terminator
  /-- Brackets and quotation marks. -/
  | closing
deriving DecidableEq, Repr

namespace SentenceBreak

def all : List SentenceBreak :=
  [carriageReturn, lineFeed, separator, extend, format, space, lower, upper, otherLetter, numeric,
    fullStop, continues, terminator, closing]

def names : SentenceBreak → List String
  | carriageReturn => ["CR"]
  | lineFeed => ["LF"]
  | separator => ["Sep", "SE"]
  | extend => ["Extend", "EX"]
  | format => ["Format", "FO"]
  | space => ["Sp"]
  | lower => ["Lower", "LO"]
  | upper => ["Upper", "UP"]
  | otherLetter => ["OLetter", "LE"]
  | numeric => ["Numeric", "NU"]
  | fullStop => ["ATerm", "AT"]
  | continues => ["SContinue", "SC"]
  | terminator => ["STerm", "ST"]
  | closing => ["Close", "CL"]

def separators : CharSet := .ofRanges [(0x85, 0x85), (0x2028, 0x2029)]

def marks : CharSet :=
  .unionAll [trait "Grapheme_Extend", inCategories ["Mc"], .range 0x200D 0x200D]

/-- Numbers as words have them, with the Arabic separator of thousands. -/
def digits : CharSet := WordBreak.digits.union (.range 0x66C 0x66C)

def lowers : CharSet :=
  (trait "Lowercase").diff (marks.union (.ofRanges [(0x10D0, 0x10FA), (0x10FD, 0x10FF)]))

def uppers : CharSet :=
  .diff ((trait "Uppercase").union (inCategories ["Lt"]))
    (.ofRanges [(0x1C90, 0x1CBA), (0x1CBD, 0x1CBF)])

def fullStops : CharSet :=
  .ofRanges [(0x2E, 0x2E), (0x2024, 0x2024), (0xFE52, 0xFE52), (0xFF0E, 0xFF0E)]

def chars : SentenceBreak → CharSet
  | carriageReturn => .ofChar '\r'
  | lineFeed => .ofChar '\n'
  | separator => separators
  | extend => marks
  | format => (inCategories ["Cf"]).diff (marks.union digits)
  | space =>
    (trait "White_Space").diff
      (.unionAll [separators, .ofRanges [(0x0A, 0x0A), (0x0D, 0x0D)]])
  | lower => lowers
  | upper => uppers
  | otherLetter =>
    .diff ((trait "Alphabetic").union (.range 0x5F3 0x5F3))
      (.unionAll [lowers, uppers, marks, digits])
  | numeric => digits
  | fullStop => fullStops
  | continues =>
    .ofRanges
      [(0x2C, 0x2D), (0x3A, 0x3B), (0x37E, 0x37E), (0x55D, 0x55D), (0x60C, 0x60D),
        (0x7F8, 0x7F8), (0x1802, 0x1802), (0x1808, 0x1808), (0x2013, 0x2014), (0x3001, 0x3001),
        (0xFE10, 0xFE11), (0xFE13, 0xFE14), (0xFE31, 0xFE32), (0xFE50, 0xFE51),
        (0xFE54, 0xFE55), (0xFE58, 0xFE58), (0xFE63, 0xFE63), (0xFF0C, 0xFF0D),
        (0xFF1A, 0xFF1B), (0xFF64, 0xFF64)]
  | terminator => (trait "Sentence_Terminal").diff fullStops
  | closing =>
    .unionAll
      [inCategories ["Ps", "Pe", "Pi", "Pf"],
        .ofRanges
          [(0x22, 0x22), (0x27, 0x27), (0x275B, 0x2760), (0x2E00, 0x2E0D), (0x1F676, 0x1F678)]]

end SentenceBreak

end VersionPick.Unicode
