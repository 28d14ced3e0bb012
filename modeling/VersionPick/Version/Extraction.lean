/-
  VersionPick.Version.Extraction — versions out of the names that a registry lists.

  A name counts when it starts with the tag prefix and the rest of it is a version;
  the others are set aside with the reason, and none is lost.
-/

import VersionPick.Version.Parser

namespace VersionPick

inductive IgnoredReason where
  | noPrefix (name tagPrefix : String)
  | noVersion (error : VersionError)
deriving DecidableEq, Repr

def IgnoredReason.message : IgnoredReason → String
  | .noPrefix name tagPrefix =>
    "version " ++ Text.quote name ++ " does not have prefix " ++ Text.quote tagPrefix
  | .noVersion e => e.message

structure IgnoredName where
  name : String
  reason : IgnoredReason
deriving DecidableEq, Repr

/-- The versions among a list of names and the names set aside, each in the order of the list. -/
structure Extraction where
  versions : List Version := []
  ignored : List IgnoredName := []
deriving Repr

/-- The version of a name, which is shown with the prefix again. -/
def readName (tagPrefix name : String) : Except IgnoredReason Version :=
  match tagPrefix.toList.isPrefixOf? name.toList with
  | none => .error (.noPrefix name tagPrefix)
  | some rest =>
    match Version.parse (String.ofList rest) with
    | .ok v => .ok (v.withPrefix tagPrefix)
    | .error e => .error (.noVersion e)

def extract (tagPrefix : String) : List String → Extraction
  | [] => {}
  | name :: names =>
    let rest := extract tagPrefix names
    match readName tagPrefix name with
    | .ok v => { rest with versions := v :: rest.versions }
    | .error reason => { rest with ignored := { name, reason } :: rest.ignored }

end VersionPick
