/-
  VersionPick.Json.Reader — reading JSON.

  The text is read strictly: one value, with blanks around it and nothing else. It is
  read as bytes, each given as the character of its number, since a string need not
  be UTF-8 unless someone asks for its text.

  The reader goes past a character at least at every second call, so a fuel of twice
  the length of the text, and two more, never runs out.
-/

import VersionPick.Json.Value
import VersionPick.Text.Hex

namespace VersionPick.Json

def isBlank (c : Char) : Bool := c == ' ' || c == '\t' || c == '\n' || c == '\r'

def skipBlanks (s : List Char) : List Char := s.dropWhile isBlank

/-! ## Strings -/

/-- A piece of a string: a byte that stands for itself, or else a character, or half of one given
    by its number. -/
inductive Piece where
  | byte (b : UInt8)
  | char (c : Char)
  | half (n : Nat)

def numbered? (digits : List Char) : Option Piece :=
  (Text.Hex.read? digits).map fun n =>
    if n.isValidChar then .char (Char.ofNat n) else .half n

/-- What a backslash and a character stand for. -/
def escaped? : Char → Option Char
  | '"' => some '"'
  | '\\' => some '\\'
  | '/' => some '/'
  | 'b' => some '\x08'
  | 'f' => some '\x0c'
  | 'n' => some '\n'
  | 'r' => some '\r'
  | 't' => some '\t'
  | _ => none

def pieces? : List Char → Option (List Piece × List Char)
  | [] => none
  | '"' :: s => some ([], s)
  | '\\' :: 'u' :: a :: b :: c :: d :: s =>
    (numbered? [a, b, c, d]).bind fun p => (pieces? s).map fun r => (p :: r.1, r.2)
  | '\\' :: c :: s => (escaped? c).bind fun c => (pieces? s).map fun r => (.char c :: r.1, r.2)
  | c :: s =>
    -- a control character has to be escaped
    if c < ' ' then none
    else (pieces? s).map fun r => (.byte (UInt8.ofNat c.toNat) :: r.1, r.2)

/-- The bytes of a string; a half without its partner leaves nothing. -/
def joinPieces : List Piece → Option (List UInt8)
  | [] => some []
  | .byte b :: ps => (joinPieces ps).map (b :: ·)
  | .char c :: ps => (joinPieces ps).map (String.utf8EncodeChar c ++ ·)
  | .half m :: .half n :: ps =>
    if m < 0xDC00 ∧ 0xDC00 ≤ n then
      let code := 0x10000 + (m - 0xD800) * 0x400 + (n - 0xDC00)
      (joinPieces ps).map (String.utf8EncodeChar (Char.ofNat code) ++ ·)
    else none
  | .half _ :: _ => none

def string? (s : List Char) : Option (Str × List Char) :=
  (pieces? s).map fun r =>
    ((joinPieces r.1).bind fun bytes => String.fromUTF8? ⟨bytes.toArray⟩, r.2)

/-! ## Numbers -/

def digits? (s : List Char) : Option (List Char × List Char) :=
  let ds := s.takeWhile Char.isDigit
  if ds.isEmpty then none else some (ds, s.dropWhile Char.isDigit)

def fraction? : List Char → Option (List Char × List Char)
  | '.' :: s => (digits? s).map fun r => ('.' :: r.1, r.2)
  | s => some ([], s)

def exponent? : List Char → Option (List Char × List Char)
  | c :: s =>
    if c = 'e' || c = 'E' then
      match s with
      | '+' :: t => (digits? t).map fun r => (c :: '+' :: r.1, r.2)
      | '-' :: t => (digits? t).map fun r => (c :: '-' :: r.1, r.2)
      | t => (digits? t).map fun r => (c :: r.1, r.2)
    else some ([], c :: s)
  | [] => some ([], [])

/-- A number without its sign. Only zero itself starts with a zero. -/
def unsigned? (s : List Char) : Option (List Char × List Char) :=
  (match s with
    | '0' :: t => some (['0'], t)
    | _ => digits? s).bind fun (whole, s) =>
      (fraction? s).bind fun (fraction, s) =>
        (exponent? s).map fun (exponent, s) => (whole ++ fraction ++ exponent, s)

def number? : List Char → Option (List Char × List Char)
  | '-' :: s => (unsigned? s).map fun r => ('-' :: r.1, r.2)
  | s => unsigned? s

/-! ## Values -/

def scalar? : List Char → Option (Value × List Char)
  | 'n' :: 'u' :: 'l' :: 'l' :: s => some (.null, s)
  | 't' :: 'r' :: 'u' :: 'e' :: s => some (.bool true, s)
  | 'f' :: 'a' :: 'l' :: 's' :: 'e' :: s => some (.bool false, s)
  | '"' :: s => (string? s).map fun r => (.string r.1, r.2)
  | s => (number? s).map fun r => (.number (String.ofList r.1), r.2)

mutual

def value? : Nat → List Char → Option (Value × List Char)
  | 0, _ => none
  | fuel + 1, s =>
    match skipBlanks s with
    | '[' :: s =>
      match skipBlanks s with
      | ']' :: s => some (.array [], s)
      | s => (items? fuel s).map fun r => (.array r.1, r.2)
    | '\x7b' :: s =>
      match skipBlanks s with
      | '\x7d' :: s => some (.object [], s)
      | s => (fields? fuel s).map fun r => (.object r.1, r.2)
    | s => scalar? s

def items? : Nat → List Char → Option (List Value × List Char)
  | 0, _ => none
  | fuel + 1, s =>
    (value? fuel s).bind fun (v, s) =>
      match skipBlanks s with
      | ']' :: s => some ([v], s)
      | ',' :: s => (items? fuel s).map fun r => (v :: r.1, r.2)
      | _ => none

def fields? : Nat → List Char → Option (List (Str × Value) × List Char)
  | 0, _ => none
  | fuel + 1, s =>
    match skipBlanks s with
    | '"' :: s =>
      (string? s).bind fun (name, s) =>
        match skipBlanks s with
        | ':' :: s =>
          (value? fuel s).bind fun (v, s) =>
            match skipBlanks s with
            | '\x7d' :: s => some ([(name, v)], s)
            | ',' :: s => (fields? fuel s).map fun r => ((name, v) :: r.1, r.2)
            | _ => none
        | _ => none
    | _ => none

end

def read? (s : List Char) : Option Value :=
  match value? (2 * s.length + 2) s with
  | some (v, rest) => if (skipBlanks rest).isEmpty then some v else none
  | none => none

def ofBytes? (bytes : ByteArray) : Option Value :=
  read? (bytes.toList.map fun b => Char.ofNat b.toNat)

end VersionPick.Json
