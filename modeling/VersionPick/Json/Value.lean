/-
  VersionPick.Json.Value — values of JSON, with the fields of objects as they stand
  in the text, repeated ones included.
-/

namespace VersionPick.Json

/-- A string, or nothing if it is no text: if it holds half of a surrogate pair, or bytes that are
    not UTF-8. -/
abbrev Str := Option String

inductive Value where
  | null
  | bool (b : Bool)
  /-- A number as it is written. -/
  | number (text : String)
  | string (s : Str)
  | array (items : List Value)
  | object (fields : List (Str × Value))
deriving Repr

namespace Value

def string? : Value → Option String
  | string s => s
  | _ => none

def bool? : Value → Option Bool
  | bool b => some b
  | _ => none

def array? : Value → Option (List Value)
  | array vs => some vs
  | _ => none

/-- What the fields say about one name: its value if there is one. A name that comes twice says
    nothing. -/
def lookup? (name : String) (fields : List (Str × Value)) : Option (Option Value) :=
  match fields.filter fun f => f.1 == some name with
  | [] => some none
  | [f] => some (some f.2)
  | _ => none

/-- The values of the named fields of a record. A record is an object, all of whose field names are
    text and in which none of these comes twice, or the array of the values in this order, of
    which only the last few may be missing. -/
def record? (names : List String) (needed : Nat) : Value → Option (List (Option Value))
  | object fields =>
    if fields.all fun f => f.1.isSome then names.mapM fun n => lookup? n fields else none
  | array vs =>
    if needed ≤ vs.length ∧ vs.length ≤ names.length then
      some ((List.range names.length).map fun i => vs[i]?)
    else none
  | _ => none

def field? (name : String) (v : Value) : Option Value :=
  match v.record? [name] 1 with
  | some [value] => value
  | _ => none

end Value

end VersionPick.Json
