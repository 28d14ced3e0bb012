/-
  VersionPick.Registry.Error — why a registry gives no names.
-/

import VersionPick.Http.Message
import VersionPick.Text.Decimal
import VersionPick.Text.Quoted

namespace VersionPick

inductive RegistryError where
  | notFound (package : String)
  /-- There were too many requests; the registry may say how many seconds to wait. -/
  | rateLimited (retryAfter : Option Nat)
  /-- The package is not a group and an artifact. -/
  | badPackage (package : String)
  | badStatus (code : Nat)
  | badBody
  | noConnection
deriving DecidableEq, Repr

def secondsText : Option Nat → String
  | some n => "Some(" ++ Text.Decimal.toText n ++ ")"
  | none => "None"

def RegistryError.message : RegistryError → String
  | .notFound p => "Package not found: " ++ p
  | .rateLimited r => "Rate limited: retry after " ++ secondsText r ++ " seconds"
  | .badPackage p => "Invalid package name " ++ Text.quote p ++ ": expected group:artifact"
  | .badStatus code => "Invalid response: Unexpected status: " ++ Http.Status.text code
  | .badBody => "Invalid response: error decoding response body"
  | .noConnection => "Network error: no connection"

end VersionPick
