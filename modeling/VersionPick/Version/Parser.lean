/-
  VersionPick.Version.Parser — reading versions.

  Only the first two dots separate: what follows the second one is the patch, dots
  included. Major and minor are decimal numbers. A patch that starts with a digit
  is a number and a suffix of lower-case letters, digits, dots, underscores and
  hyphens; any other patch is a suffix as a whole, of any characters.
-/

import VersionPick.Version.Basic
import VersionPick.Text.Quoted

namespace VersionPick

inductive VersionError where
  /-- There is no dot. -/
  | tooFewParts (text : String)
  | badMajor (text : String)
  | badMinor (text : String)
  /-- The third part alone is at fault. -/
  | badPatch (part : String)
deriving DecidableEq, Repr

def VersionError.message : VersionError → String
  | .tooFewParts t => "version " ++ Text.quote t ++ " must have two or three dot-separated parts"
  | .badMajor t => "can't convert major of " ++ Text.quote t ++ " to int"
  | .badMinor t => "can't convert minor of " ++ Text.quote t ++ " to int"
  | .badPatch p =>
    "patch " ++ Text.quote p ++ " does not match patch format: [0-9]+[a-z0-9._-]*"

namespace Patch

/-- The characters of the suffix of a numbered patch. -/
def isSuffixChar (c : Char) : Bool :=
  c.isLower || c.isDigit || c == '.' || c == '_' || c == '-'

def parse (part : String) : Except VersionError Patch :=
  match part.toList with
  | [] => .error (.badPatch part)
  | c :: cs =>
    if c.isDigit then
      let digits := (c :: cs).takeWhile Char.isDigit
      let suffix := (c :: cs).dropWhile Char.isDigit
      match Text.Decimal.read? digits with
      | some n =>
        if suffix.all isSuffixChar then
          .ok { number := some n, suffix := String.ofList suffix, written := part }
        else .error (.badPatch part)
      | none => .error (.badPatch part)
    else .ok { number := none, suffix := part, written := part }

end Patch

def Numeral.parse? (digits : List Char) : Option Numeral :=
  (Text.Decimal.read? digits).map fun n => { value := n, written := String.ofList digits }

namespace Version

/-- The parts of a text at its first two dots: major, minor and, if there is a second dot, patch. -/
def parts? (text : List Char) : Option (List Char × List Char × Option (List Char)) :=
  (Text.cut? '.' text).map fun p =>
    match Text.cut? '.' p.2 with
    | some q => (p.1, q.1, some q.2)
    | none => (p.1, p.2, none)

def parse (text : String) : Except VersionError Version :=
  match parts? text.toList with
  | none => .error (.tooFewParts text)
  | some (major, minor, patch?) =>
    match Numeral.parse? major with
    | none => .error (.badMajor text)
    | some major =>
      match Numeral.parse? minor with
      | none => .error (.badMinor text)
      | some minor =>
        match patch? with
        | none => .ok { major, minor, patch := .empty }
        | some part => (Patch.parse (String.ofList part)).map fun patch => { major, minor, patch }

end Version

end VersionPick
