/-
  VersionPick.Registry.Endpoint — what a registry is asked for the names of a
  package.
-/

import VersionPick.Http.Message
import VersionPick.Http.Target
import VersionPick.Registry.Error
import VersionPick.Source

namespace VersionPick.Registry

def userAgent : String := "get-version/0.3.0"

/-- The group and the artifact of a package, before and after its first colon. -/
def coordinates? (package : String) : Option (String × String) :=
  match Text.cut? ':' package.toList with
  | some (group, artifact) =>
    if group.isEmpty || artifact.isEmpty then none
    else some (String.ofList group, String.ofList artifact)
  | none => none

/-- The tags of an image in a namespace, or of one that has none and so is an official image. -/
def imageAddress (image : String) : String :=
  match Text.cut? '/' image.toList with
  | some (space, name) =>
    "/v2/namespaces/" ++ String.ofList space ++ "/repositories/" ++ String.ofList name ++ "/tags"
  | none => "/v2/repositories/library/" ++ image ++ "/tags"

def githubRequest (package listing : String) : Http.Request :=
  { site := "https://api.github.com"
    target := Http.target ("/repos/" ++ package ++ "/" ++ listing) [("per_page", "100")]
    accept := "application/vnd.github+json"
    userAgent }

def dockerhubRequest (image : String) : Http.Request :=
  { site := "https://hub.docker.com"
    target := Http.target (imageAddress image) [("page_size", "100")]
    userAgent }

def mavenQuery (group artifact : String) : Http.Form.Fields :=
  [("q", "g:" ++ group ++ " AND a:" ++ artifact), ("core", "gav"), ("rows", "1000"),
   ("wt", "json")]

def mavenRequest (group artifact : String) : Http.Request :=
  { site := "https://search.maven.org"
    target := Http.target "/solrsearch/select" (mavenQuery group artifact)
    accept := "application/json"
    userAgent }

def request (source : Source) (package : String) : Except RegistryError Http.Request :=
  match source with
  | .githubReleases => .ok (githubRequest package "releases")
  | .githubTags => .ok (githubRequest package "tags")
  | .dockerhubTags => .ok (dockerhubRequest package)
  | .mavenArtifact =>
    match coordinates? package with
    | some (group, artifact) => .ok (mavenRequest group artifact)
    | none => .error (.badPackage package)

end VersionPick.Registry
