/-
  VersionPick.Registry.Fetch — from a package to the names a registry lists for it.

  All sources read the status of a response alike, and look at its body only if the
  status says that the request succeeded.
-/

import VersionPick.Registry.Endpoint
import VersionPick.Registry.Listing

namespace VersionPick.Registry

/-- How a request is answered; there may be no connection. -/
abbrev Exchange := Http.Request → Option Http.Response

/-- A number of seconds, which may have a plus sign. -/
def seconds? (header : String) : Option Nat :=
  match header.toList with
  | '+' :: digits => Text.Decimal.read? digits
  | digits => Text.Decimal.read? digits

def namesOf (source : Source) (package : String) (r : Http.Response) :
    Except RegistryError (List String) :=
  if r.status = 404 then .error (.notFound package)
  else if r.status = 429 then .error (.rateLimited (r.retryAfter.bind seconds?))
  else if !Http.Status.isSuccess r.status then .error (.badStatus r.status)
  else
    match (Json.ofBytes? r.body).bind (names? source) with
    | some names => .ok names
    | none => .error .badBody

def fetch (exchange : Exchange) (source : Source) (package : String) :
    Except RegistryError (List String) :=
  match request source package with
  | .error e => .error e
  | .ok r =>
    match exchange r with
    | some response => namesOf source package response
    | none => .error .noConnection

end VersionPick.Registry
