/-
  VersionPick.Settings — what a run is asked to do, and the package that it asks its
  source for.
-/

import VersionPick.Source

namespace VersionPick

structure OutputFlags where
  reverse : Bool := false
  noPrefix : Bool := false
  /-- To the output file of a workflow step, not to standard output. -/
  asAction : Bool := false
deriving DecidableEq, Repr

structure Settings where
  source : Source
  repo : Option String := none
  filters : String := ""
  tagPrefix : String := ""
  mavenGroup : Option String := none
  mavenArtifact : Option String := none
  output : OutputFlags := {}
deriving DecidableEq, Repr

inductive SettingsError where
  | noRepo (source : Source)
  | noMavenGroup
  | noMavenArtifact
  | noOutputPath
deriving DecidableEq, Repr

/-- The environment variable that names the output file of a workflow step. -/
def outputVariable : String := "GITHUB_OUTPUT"

def SettingsError.message : SettingsError → String
  | .noRepo s => "--repo is required for source " ++ s.name
  | .noMavenGroup => "--mvn-group is required for source " ++ Source.mavenArtifact.name
  | .noMavenArtifact => "--mvn-artifact-id is required for source " ++ Source.mavenArtifact.name
  | .noOutputPath => outputVariable ++ " is not set"

/-- A text that was given and is not empty. -/
def filled? (text : Option String) : Option String := text.filter fun t => !t.isEmpty

namespace Settings

/-- The package to ask the source for: a repository, or a group and an artifact with a colon between
    them. -/
def package (s : Settings) : Except SettingsError String :=
  match s.source with
  | .mavenArtifact =>
    match filled? s.mavenGroup, filled? s.mavenArtifact with
    | none, _ => .error .noMavenGroup
    | some _, none => .error .noMavenArtifact
    | some group, some artifact => .ok (group ++ ":" ++ artifact)
  | source =>
    match filled? s.repo with
    | some repo => .ok repo
    | none => .error (.noRepo source)

end Settings

end VersionPick
