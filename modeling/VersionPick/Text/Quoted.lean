/-
  VersionPick.Text.Quoted — text between double quotes, as messages show it.

  A double quote and a backslash are written after a backslash, and so are the
  letters that stand for a tab, a line feed, a carriage return and the null
  character. Any other character that would not be seen by itself, because it
  combines with the one before it or is not printable, is written as its code
  point in hexadecimal between braces. The rest stands for itself.
-/

import VersionPick.Unicode.Property

namespace VersionPick.Text

def isPrintable (c : Char) : Bool := c == ' ' || !Unicode.invisible.contains c

/-- The code point in hexadecimal, between braces. -/
def codeEscape (c : Char) : List Char :=
  '\\' :: 'u' :: '\x7b' :: (Nat.toDigits 16 c.toNat ++ ['\x7d'])

def quoteChar (c : Char) : List Char :=
  if c = '\x00' then ['\\', '0']
  else if c = '\t' then ['\\', 't']
  else if c = '\n' then ['\\', 'n']
  else if c = '\r' then ['\\', 'r']
  else if c = '\\' then ['\\', '\\']
  else if c = '"' then ['\\', '"']
  else if ' ' ≤ c && c ≤ '~' then [c]
  else if Unicode.combining.contains c || !isPrintable c then codeEscape c
  else [c]

def quote (s : String) : String := String.ofList ('"' :: (s.toList.flatMap quoteChar ++ ['"']))

end VersionPick.Text
