/-
  VersionPick.Http.Form — the fields of a query, as forms are sent.

  Letters, digits and `*-._` stand for themselves and a plus sign for a space. Any
  other character is written as the bytes of its UTF-8 form, each after a percent
  sign. Fields are joined by `&`, a name and its value by `=`.
-/

import VersionPick.Text.Cut
import VersionPick.Text.Hex

namespace VersionPick.Http

/-! ## Bytes after percent signs -/

def percent (b : UInt8) : List Char :=
  ['%', Text.Hex.capital (b.toNat / 16), Text.Hex.capital (b.toNat % 16)]

def escape (standsForItself : Char → Bool) (c : Char) : List Char :=
  if standsForItself c then [c] else (String.utf8EncodeChar c).flatMap percent

def unescape : List Char → List UInt8
  | '%' :: a :: b :: cs =>
    match Text.Hex.digitValue? a, Text.Hex.digitValue? b with
    | some m, some n => UInt8.ofNat (16 * m + n) :: unescape cs
    | _, _ => String.utf8EncodeChar '%' ++ unescape (a :: b :: cs)
  | c :: cs => String.utf8EncodeChar c ++ unescape cs
  | [] => []

namespace Form

/-! ## Fields -/

abbrev Fields := List (String × String)

def standsForItself (c : Char) : Bool :=
  c.isAlphanum || c == '*' || c == '-' || c == '.' || c == '_'

def writeText (s : String) : List Char :=
  s.toList.flatMap fun c => if c = ' ' then ['+'] else escape standsForItself c

def writeField (field : String × String) : List Char :=
  writeText field.1 ++ '=' :: writeText field.2

def write (fields : Fields) : List Char := ['&'].intercalate (fields.map writeField)

/-- The text that was written, unless the bytes are not those of a text. -/
def readText? (s : List Char) : Option String :=
  String.fromUTF8? ⟨(unescape (s.map fun c => if c = '+' then ' ' else c)).toArray⟩

def readField? (s : List Char) : Option (String × String) :=
  match Text.cut? '=' s with
  | some (name, value) => (readText? name).bind fun n => (readText? value).map fun v => (n, v)
  | none => (readText? s).map fun n => (n, "")

def read? (s : List Char) : Option Fields :=
  ((Text.pieces ['&'] s).filter fun piece => !piece.isEmpty).mapM readField?

end Form

end VersionPick.Http
