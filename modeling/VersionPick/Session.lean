/-
  VersionPick.Session — one run of the command, from its settings to what it writes.

  A run reads its filter and its package before it asks the source for anything, and looks for its
  output only when there are versions to put out. It writes all of its output or none, and never
  makes a file: the output file of a workflow step has to be there, and is added to without being
  read.
-/

import VersionPick.Rendering
import VersionPick.Selection
import VersionPick.Selector.Parser

namespace VersionPick

structure OpenError where
  text : String
  code : Nat
deriving DecidableEq, Repr

namespace OpenError

def message (e : OpenError) : String := e.text ++ " (os error " ++ toString e.code ++ ")"

def noFile : OpenError := { text := "No such file or directory", code := 2 }

end OpenError

inductive RunError where
  | badFilter (error : SelectorError)
  | badSettings (error : SettingsError)
  | noVersions (error : SelectionError)
  | noOutputFile (path : String) (cause : OpenError)
deriving DecidableEq, Repr

def RunError.message : RunError → String
  | .badFilter e => e.message
  | .badSettings e => e.message
  | .noVersions e => e.context
  | .noOutputFile path _ => "failed to open file " ++ Text.quote path

/-- What the error comes from, if it is another error. -/
def RunError.cause? : RunError → Option String
  | .badFilter (.badRank _ cause) => some cause.message
  | .noVersions (.unlisted _ _ cause) => some cause.message
  | .noOutputFile _ cause => some cause.message
  | _ => none

structure Surroundings where
  /-- The value of the environment variable that names the output file. -/
  outputPath : Option String := none
  /-- Why the file there cannot be added to, if it cannot. -/
  outputFault : Option OpenError := some .noFile
deriving DecidableEq, Repr

structure Outcome where
  /-- The package that a source was asked for, if one was. -/
  asked : Option (Source × String) := none
  stdout : String := ""
  /-- What is added to the output file. -/
  added : String := ""
  error : Option RunError := none
deriving DecidableEq, Repr

namespace Outcome

def failure (e : RunError) : Outcome := { error := some e }

/-- What is in the output file after the run, if there is such a file. -/
def fileAfter (outcome : Outcome) (file : Option ByteArray) : Option ByteArray :=
  file.map (· ++ outcome.added.toUTF8)

end Outcome

/-- Puts versions out: to standard output, or at the end of the output file. -/
def Surroundings.putOut (around : Surroundings) (flags : OutputFlags) (vs : List Version) :
    Outcome :=
  if flags.asAction then
    match filled? around.outputPath, around.outputFault with
    | none, _ => .failure (.badSettings .noOutputPath)
    | some path, some cause => .failure (.noOutputFile path cause)
    | some _, none => { added := actionText (render flags vs) }
  else { stdout := plainText (render flags vs) }

/-- What a source lists for a package. -/
abbrev Registries := Source → String → Except RegistryError (List String)

def plan (s : Settings) : Except RunError (Selector × String) :=
  match Selector.parse s.filters with
  | .error e => .error (.badFilter e)
  | .ok selector =>
    match s.package with
    | .error e => .error (.badSettings e)
    | .ok package => .ok (selector, package)

def run (registries : Registries) (around : Surroundings) (s : Settings) : Outcome :=
  match plan s with
  | .error e => .failure e
  | .ok (selector, package) =>
    let listed := registries s.source package
    let outcome := match selectListed s.source package listed s.tagPrefix selector with
      | .error e => Outcome.failure (.noVersions e)
      | .ok vs => around.putOut s.output vs
    { outcome with asked := some (s.source, package) }

end VersionPick
