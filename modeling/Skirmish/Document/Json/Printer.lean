import Skirmish.Document.Json.Literal

/-!
# Writing JSON

Documents are written without blanks, with the fields of a record in their order. A number that is
not finite has no JSON text and is written as `null`, and so is a document that nothing can be read
from.
-/

namespace Skirmish.Json

/-- A hexadecimal digit. -/
def hexDigit (n : Nat) : Char := (Nat.toDigits 16 n).headD '0'

/-- A character of a string as it is written. -/
def escape (c : Char) : List Char :=
  match c with
  | '"' => ['\\', '"']
  | '\\' => ['\\', '\\']
  | '\x08' => ['\\', 'b']
  | '\x0c' => ['\\', 'f']
  | '\n' => ['\\', 'n']
  | '\r' => ['\\', 'r']
  | '\t' => ['\\', 't']
  | c =>
    if c.toNat < 0x20 then
      ['\\', 'u', '0', '0', hexDigit (c.toNat / 16), hexDigit (c.toNat % 16)]
    else [c]

/-- A string with its quotes. -/
def writeString (s : String) : List Char := '"' :: s.toList.flatMap escape ++ ['"']

/-- A number, or `null` if it is not finite. -/
def writeReal (x : Number.Single) : List Char :=
  if Number.Single.isFinite x then Number.document x else ['n', 'u', 'l', 'l']

mutual

/-- The text of a document. -/
def write : Document → List Char
  | .null => ['n', 'u', 'l', 'l']
  | .bool true => ['t', 'r', 'u', 'e']
  | .bool false => ['f', 'a', 'l', 's', 'e']
  | .integer i => Number.integer i
  | .real x => writeReal x
  | .text s => writeString s
  | .list [] => ['[', ']']
  | .list (item :: items) => '[' :: write item ++ writeItems items
  | .record [] => ['{', '}']
  | .record ((name, value) :: fields) =>
    '{' :: writeString name ++ ':' :: write value ++ writeFields fields
  | .unreadable => ['n', 'u', 'l', 'l']

/-- The items behind the first one, and the closing bracket. -/
def writeItems : List Document → List Char
  | [] => [']']
  | item :: items => ',' :: write item ++ writeItems items

/-- The fields behind the first one, and the closing brace. -/
def writeFields : List (String × Document) → List Char
  | [] => ['}']
  | (name, value) :: fields => ',' :: writeString name ++ ':' :: write value ++ writeFields fields

end

/-- The JSON text of a document. -/
def render (document : Document) : String := String.ofList (write document)

end Skirmish.Json
