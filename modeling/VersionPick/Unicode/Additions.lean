/-
  VersionPick.Unicode.Additions — the characters that version 17.0 of Unicode adds to those of
  version 16.0, of which the other tables speak.

  Patterns ask about characters as of version 16.0. Names of groups and text that is shown may hold
  these as well.
-/

import VersionPick.Unicode.CharSet

namespace VersionPick.Unicode

/-- All the added characters. None of them is a control, a format or a separator. -/
def addedChars : CharSet := .ofTable
  "88f 3cc 7f df2+e 2+b 5d5 ad4 7c37+1 2 1 1c 53d1+f 1bd+1 36+6 b71+19 56b+2 8+8 21+1 c64+7
    248+2b 4+9 50b6+18 2+18 11e+4 1801+7 509+15 61+72 3f07+2 1bd+16 f+10 17cf+1e 1+15 8+1 fd8
    9e+3 155+8 17b+3 32 3 39 4 1c 4 10a bb3f+5 1762+b 5502+10c9"

/-- The added characters that are letters or marks used like letters. -/
def addedLetters : CharSet := .ofTable
  "88f 3cc 7f 9af1+1 2 1 1c 614e+19 56b+2 32+1 c64+7 248+2b 50c4+18 2+18 11e+4 1801+7 509+15
    61+72 58cd+1e 1+15 8+1 d03a+5 1762+b 5502+10c9"

def addedNumbers : CharSet := .ofTable
  "11de0+9 520a+2"

def addedCombining : CharSet := .ofTable
  "1acf+e 2+b f40e+1 c64 1+2 1 cb7c 2 7+1 5"

end VersionPick.Unicode
