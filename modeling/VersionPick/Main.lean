/-
  VersionPick.Main — the command.

  The command has no transport of its own: no request is answered here, and what a source would
  list is not known. Nor does it log anything.
-/

import VersionPick.Arguments
import VersionPick.Registry.Fetch
import VersionPick.Session

namespace VersionPick.Command

def usage : String :=
  "Fetch versions from a registry and narrow them with a filter expression

  --source <SOURCE>                  " ++ ", ".intercalate (Source.all.map Source.name) ++ "
  --repo <REPO>                      repository name
  --filters <FILTERS>                filters to apply to versions
  --prefix <PREFIX>                  version prefix
  --mvn-group <GROUP>                artifact group
  --mvn-artifact-id <ARTIFACT>       artifact id
  --out-reverse-order                newest versions first
  --out-no-prefix                    versions without their prefix
  --out-as-action                    to the output of a workflow step
  --log-level <LEVEL>                what to log
  --version                          the version of this command
"

def versionLine : String := "get-version 0.3.0\n"

def openError : IO.Error → OpenError
  | .noFileOrDirectory _ code text => { text, code := code.toNat }
  | .permissionDenied _ code text => { text, code := code.toNat }
  | .inappropriateType _ code text => { text, code := code.toNat }
  | e => { text := toString e, code := 0 }

def openToAdd (path : String) : IO (Except IO.Error IO.FS.Handle) := do
  -- opening a file at its end makes one that is not there, opening it to be read does not
  let mode := match ← (IO.FS.realPath path).toBaseIO with
    | .ok _ => IO.FS.Mode.append
    | .error _ => IO.FS.Mode.read
  (IO.FS.Handle.mk path mode).toBaseIO

def surroundings (flags : OutputFlags) : IO (Surroundings × Option IO.FS.Handle) := do
  let outputPath ← IO.getEnv outputVariable
  match flags.asAction, filled? outputPath with
  | true, some path =>
    match ← openToAdd path with
    | .ok file => pure ({ outputPath, outputFault := none }, some file)
    | .error e => pure ({ outputPath, outputFault := some (openError e) }, none)
  | _, _ => pure ({ outputPath }, none)

/-- Does what the outcome of a run says, and gives the exit code. -/
def carryOut (file : Option IO.FS.Handle) (outcome : Outcome) : IO UInt32 := do
  IO.print outcome.stdout
  if let some file := file then
    file.putStr outcome.added
    file.flush
  match outcome.error with
  | none => pure 0
  | some e =>
    let cause := e.cause?.elim "" fun c => "\n\nCaused by:\n    " ++ c
    IO.eprintln ("Error: " ++ e.message ++ cause)
    pure 1

end VersionPick.Command

open VersionPick VersionPick.Command in
def main (args : List String) : IO UInt32 := do
  match Arguments.read Arguments.ofCommand args with
  | .error .helpWanted =>
    IO.print usage
    pure 0
  | .error .versionWanted =>
    IO.print versionLine
    pure 0
  | .error e =>
    IO.eprintln ("error: " ++ e.message)
    pure 2
  | .ok settings =>
    let (around, file) ← surroundings settings.output
    carryOut file (run (Registry.fetch fun _ => none) around settings)
