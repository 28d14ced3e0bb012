/-
  VersionPick.Source — where version names come from.
-/

namespace VersionPick

inductive Source where
  | githubReleases
  | githubTags
  | dockerhubTags
  | mavenArtifact
deriving DecidableEq, Repr

namespace Source

def all : List Source := [githubReleases, githubTags, dockerhubTags, mavenArtifact]

def name : Source → String
  | githubReleases => "github-release"
  | githubTags => "github-tag"
  | dockerhubTags => "dockerhub-imagetag"
  | mavenArtifact => "maven-artifact"

def ofName? (name : String) : Option Source := all.find? fun s => s.name == name

end Source

end VersionPick
