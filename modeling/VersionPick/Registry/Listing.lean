/-
  VersionPick.Registry.Listing — the names in what a registry answers.

  Every source lists records in a JSON text of its own shape. Fields that are not
  asked for do not matter; one that is of the wrong kind or missing makes the whole
  answer unreadable.
-/

import VersionPick.Json.Reader
import VersionPick.Source

namespace VersionPick.Registry

open Json (Value)

structure Release where
  name : Option String
  tag : String
  draft : Bool
deriving DecidableEq, Repr

namespace Release

/-- A release goes by its name or, if it has none, by its tag. -/
def shownName (r : Release) : String :=
  match r.name with
  | some name => if name.isEmpty then r.tag else name
  | none => r.tag

def name? : Option Value → Option (Option String)
  | none => some none
  | some .null => some none
  | some v => v.string?.map some

def ofJson? (v : Value) : Option Release :=
  match v.record? ["name", "tag_name", "draft"] 2 with
  | some [name, some tag, draft] =>
    (name? name).bind fun name =>
      tag.string?.bind fun tag =>
        (draft.elim (some false) Value.bool?).map fun draft => { name, tag, draft }
  | _ => none

end Release

def fieldTexts? (name : String) (v : Value) : Option (List String) :=
  v.array?.bind fun vs => vs.mapM fun r => (r.field? name).bind Value.string?

def releaseNames (rs : List Release) : List String :=
  (rs.filter fun r => !r.draft).map Release.shownName

def names? (source : Source) (v : Value) : Option (List String) :=
  match source with
  | .githubReleases => (v.array?.bind fun vs => vs.mapM Release.ofJson?).map releaseNames
  | .githubTags => fieldTexts? "name" v
  | .dockerhubTags => (v.field? "results").bind (fieldTexts? "name")
  | .mavenArtifact =>
    (v.field? "response").bind fun r => (r.field? "docs").bind (fieldTexts? "v")

end VersionPick.Registry
