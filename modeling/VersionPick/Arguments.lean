/-
  VersionPick.Arguments — settings from the arguments of a command.

  The command has two options more than there are settings: the level of what it logs, which
  says nothing about its output and is not kept, and its version.

  An option takes a value, after an equals sign or as the next argument, and a flag
  takes none; either may be given once. An argument that starts with a hyphen, but
  is not one alone, is never the value of the option before it. A value that stands
  apart is looked at only when the next option or flag comes or the arguments end,
  so an argument that nothing has a use for is reported first.
-/

import VersionPick.Settings
import VersionPick.Text.Cut

namespace VersionPick

inductive ArgumentError where
  | noSource
  /-- The value of an option is missing, or names no source. -/
  | badValue
  /-- An option that there is not, or an argument that no option takes. -/
  | unknown
  | repeated
  | valueOfFlag
  | helpWanted
  | versionWanted
deriving DecidableEq, Repr

def ArgumentError.message : ArgumentError → String
  | .noSource => "a source is needed: --source"
  | .badValue => "the value of an option is missing or not one that it can have"
  | .unknown => "there is an argument that means nothing"
  | .repeated => "an option is given twice"
  | .valueOfFlag => "a flag takes no value"
  | .helpWanted => "help is wanted"
  | .versionWanted => "the version is wanted"

namespace Arguments

inductive OptionName where
  | source
  | repo
  | filters
  | tagPrefix
  | mavenGroup
  | mavenArtifact
  | logLevel
deriving DecidableEq, Repr

inductive FlagName where
  | reverse
  | noPrefix
  | asAction
deriving DecidableEq, Repr

inductive Name where
  | option (o : OptionName)
  | flag (f : FlagName)
  | help
  | version
deriving DecidableEq, Repr

/-- The names after two hyphens, and the letters after one. -/
structure Names where
  long : List (String × Name)
  short : List (Char × Name)

def settingNames : List (String × Name) :=
  [("source", .option .source), ("repo", .option .repo), ("filters", .option .filters),
   ("prefix", .option .tagPrefix), ("mvn-group", .option .mavenGroup),
   ("mvn-artifact-id", .option .mavenArtifact), ("out-reverse-order", .flag .reverse),
   ("out-no-prefix", .flag .noPrefix), ("out-as-action", .flag .asAction), ("help", .help)]

def ofSettings : Names := { long := settingNames, short := [('h', .help)] }

def ofCommand : Names :=
  { long := settingNames ++ [("log-level", .option .logLevel), ("version", .version)]
    short := [('h', .help), ('V', .version)] }

structure Given where
  source : Option Source := none
  repo : Option String := none
  filters : Option String := none
  tagPrefix : Option String := none
  mavenGroup : Option String := none
  mavenArtifact : Option String := none
  logLevel : Option String := none
  output : OutputFlags := {}
  /-- The last option and its value, if they have not been looked at. -/
  pending : Option (OptionName × Option String) := none

namespace Given

def putOnce (old : Option String) (value : String) (put : Option String → Given) :
    Except ArgumentError Given :=
  match old with
  | none => .ok (put (some value))
  | some _ => .error .repeated

def putOption (g : Given) : OptionName → String → Except ArgumentError Given
  | .source, v =>
    match g.source with
    | some _ => .error .repeated
    | none =>
      match Source.ofName? v with
      | some s => .ok { g with source := some s }
      | none => .error .badValue
  | .repo, v => putOnce g.repo v fun t => { g with repo := t }
  | .filters, v => putOnce g.filters v fun t => { g with filters := t }
  | .tagPrefix, v => putOnce g.tagPrefix v fun t => { g with tagPrefix := t }
  | .mavenGroup, v => putOnce g.mavenGroup v fun t => { g with mavenGroup := t }
  | .mavenArtifact, v => putOnce g.mavenArtifact v fun t => { g with mavenArtifact := t }
  | .logLevel, v => putOnce g.logLevel v fun t => { g with logLevel := t }

def putFlag (g : Given) (f : FlagName) : Except ArgumentError Given :=
  let o := g.output
  let (before, o) := match f with
    | .reverse => (o.reverse, { o with reverse := true })
    | .noPrefix => (o.noPrefix, { o with noPrefix := true })
    | .asAction => (o.asAction, { o with asAction := true })
  if before then .error .repeated else .ok { g with output := o }

/-- Looks at the last option. -/
def settle (g : Given) : Except ArgumentError Given :=
  match g.pending with
  | none => .ok g
  | some (_, none) => .error .badValue
  | some (o, some v) => { g with pending := none }.putOption o v

def put (g : Given) (name : Option Name) (value : Option String) : Except ArgumentError Given :=
  match name, value with
  | none, _ => .error .unknown
  | some (.option o), none => g.settle.map fun g => { g with pending := some (o, none) }
  | some (.option o), some v => g.settle.bind fun g => g.putOption o v
  | some (.flag f), none => g.settle.bind fun g => g.putFlag f
  | some .help, none => g.settle.bind fun _ => .error .helpWanted
  | some .version, none => g.settle.bind fun _ => .error .versionWanted
  | some _, some _ => .error .valueOfFlag

def plain (g : Given) (value : String) : Except ArgumentError Given :=
  match g.pending with
  | some (o, none) => .ok { g with pending := some (o, some value) }
  | _ => .error .unknown

def argument (names : Names) (g : Given) (arg : String) : Except ArgumentError Given :=
  match arg.toList with
  | '-' :: '-' :: rest =>
    match Text.cut? '=' rest with
    | some (name, value) => g.put (names.long.lookup (String.ofList name)) (String.ofList value)
    | none => g.put (names.long.lookup (String.ofList rest)) none
  | '-' :: c :: _ => g.put (names.short.lookup c) none
  | _ => g.plain arg

def settings (g : Given) : Except ArgumentError Settings :=
  match g.source with
  | none => .error .noSource
  | some source =>
    .ok
      { source
        repo := g.repo
        filters := g.filters.getD ""
        tagPrefix := g.tagPrefix.getD ""
        mavenGroup := g.mavenGroup
        mavenArtifact := g.mavenArtifact
        output := g.output }

end Given

/-- Goes through the arguments. After two hyphens alone there must be none. -/
def readFrom (names : Names) (g : Given) : List String → Except ArgumentError Settings
  | [] => g.settle.bind Given.settings
  | arg :: args =>
    if arg = "--" then (if args.isEmpty then g.settle.bind Given.settings else .error .unknown)
    else (g.argument names arg).bind fun g => readFrom names g args

def read (names : Names) (args : List String) : Except ArgumentError Settings :=
  readFrom names {} args

end Arguments

end VersionPick
