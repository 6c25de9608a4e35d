import Skirmish.Document.Basic
import Skirmish.Number.Digits
import Skirmish.Number.Text

/-!
# Literals of JSON

The parts of a JSON text that contain no other values: blanks, numbers and strings. A reader of a
literal takes the characters of the literal from the front of a text and gives what is left.

A number without a fraction and without an exponent is an integer if 64 bits can hold it, except
that `-0` is the negative zero. Any other number is a decimal.
-/

namespace Skirmish.Json

/-- Whether the character may stand between the parts of a text. -/
def isBlank (c : Char) : Bool := c = ' ' || c = '\n' || c = '\t' || c = '\r'

/-- The text behind the blanks at its front. -/
def skipBlanks (cs : List Char) : List Char := cs.dropWhile isBlank

/-- The digits at the front of a text, and what is left. -/
def takeDigits (cs : List Char) : List Char × List Char :=
  (cs.takeWhile Char.isDigit, cs.dropWhile Char.isDigit)

/-! ## Numbers -/

/-- A number as it is spelled. -/
structure Numeral where
  negative : Bool
  whole : List Char
  /-- The digits behind the point, if there is a point. -/
  fraction : Option (List Char)
  /-- The exponent, if there is one. -/
  exponent : Option Int
deriving Repr

namespace Numeral

/-- The digits before the point: a single zero, or digits of which the first is no zero. -/
def readWhole (cs : List Char) : Option (List Char × List Char) :=
  match takeDigits cs with
  | ([], _) => none
  | (['0'], rest) => some (['0'], rest)
  | ('0' :: _, _) => none
  | (ds, rest) => some (ds, rest)

/-- A point and the digits behind it, if there is a point. -/
def readFraction (cs : List Char) : Option (Option (List Char) × List Char) :=
  match cs with
  | '.' :: rest =>
    match takeDigits rest with
    | ([], _) => none
    | (ds, rest) => some (some ds, rest)
  | rest => some (none, rest)

/-- The sign of an exponent, if there is one. -/
def readSign : List Char → Bool × List Char
  | '-' :: rest => (true, rest)
  | '+' :: rest => (false, rest)
  | rest => (false, rest)

/-- An exponent, if there is one. -/
def readExponent (cs : List Char) : Option (Option Int × List Char) :=
  match cs with
  | c :: rest =>
    if c = 'e' ∨ c = 'E' then
      let (negative, rest) := readSign rest
      match takeDigits rest with
      | ([], _) => none
      | (ds, rest) =>
        let n : Int := Nat.ofDigitChars 10 ds 0
        some (some (if negative then -n else n), rest)
    else some (none, c :: rest)
  | [] => some (none, [])

/-- A number at the front of a text. -/
def read (cs : List Char) : Option (Numeral × List Char) :=
  let (negative, cs) :=
    match cs with
    | '-' :: rest => (true, rest)
    | rest => (false, rest)
  match readWhole cs with
  | none => none
  | some (whole, cs) =>
    match readFraction cs with
    | none => none
    | some (fraction, cs) =>
      match readExponent cs with
      | none => none
      | some (exponent, cs) => some (⟨negative, whole, fraction, exponent⟩, cs)

/-- The value of a number as a decimal. -/
def decimal (n : Numeral) : Number.Decimal :=
  let fraction := n.fraction.getD []
  ⟨n.negative, Nat.ofDigitChars 10 (n.whole ++ fraction) 0, n.exponent.getD 0 - fraction.length⟩

/-- The document of a number that is a decimal. -/
def real (n : Numeral) : Document :=
  match n.decimal.toSingle? with
  | some x => .real x
  | none => .unreadable

/-- The document of a number. -/
def document (n : Numeral) : Document :=
  match n.fraction, n.exponent with
  | none, none =>
    let value := Nat.ofDigitChars 10 n.whole 0
    if n.negative then
      if 0 < value ∧ Int64.minValue.toInt ≤ -value then .integer (-value) else n.real
    else
      if value < UInt64.size then .integer value else n.real
  | _, _ => n.real

end Numeral

/-! ## Strings -/

/-- The character that stands behind a backslash for another one. -/
def escaped? (c : Char) : Option Char :=
  match c with
  | '"' => some '"'
  | '\\' => some '\\'
  | '/' => some '/'
  | 'b' => some '\x08'
  | 'f' => some '\x0c'
  | 'n' => some '\n'
  | 'r' => some '\r'
  | 't' => some '\t'
  | _ => none

/-- A part of a string: a character, or a 16-bit unit given by its number. -/
inductive Piece where
  | char (c : Char)
  | unit (n : Nat)
deriving Repr

/-- The parts of a string up to and including the closing quote, and what is left. -/
def readPieces : List Char → Option (List Piece × List Char)
  | [] => none
  | '"' :: rest => some ([], rest)
  | '\\' :: 'u' :: a :: b :: c :: d :: rest =>
    match Number.ofDigits? 16 [a, b, c, d], readPieces rest with
    | some n, some (pieces, rest) => some (.unit n :: pieces, rest)
    | _, _ => none
  | '\\' :: c :: rest =>
    match escaped? c, readPieces rest with
    | some c, some (pieces, rest) => some (.char c :: pieces, rest)
    | _, _ => none
  | c :: rest =>
    if c = '\\' ∨ c.toNat < 0x20 then none
    else match readPieces rest with
      | some (pieces, rest) => some (.char c :: pieces, rest)
      | none => none

/-- Whether a unit is the first half of a pair. -/
def isHigh (n : Nat) : Bool := 0xd800 ≤ n && n < 0xdc00

/-- Whether a unit is the second half of a pair. -/
def isLow (n : Nat) : Bool := 0xdc00 ≤ n && n < 0xe000

/-- The characters that the parts of a string spell, unless half of a pair stands alone. -/
def joinPieces : List Piece → Option (List Char)
  | [] => some []
  | .char c :: rest => (joinPieces rest).map (c :: ·)
  | .unit m :: .unit n :: rest =>
    -- Two halves count from the first character that one unit cannot hold.
    if isHigh m && isLow n then
      (joinPieces rest).map (Char.ofNat (0x10000 + (m - 0xd800) * 0x400 + (n - 0xdc00)) :: ·)
    else if isHigh m || isLow m then none
    else (joinPieces (.unit n :: rest)).map (Char.ofNat m :: ·)
  | .unit m :: rest =>
    if isHigh m || isLow m then none else (joinPieces rest).map (Char.ofNat m :: ·)

/-- A string behind its opening quote. The string is missing if it spells no characters. -/
def readString (cs : List Char) : Option (Option String × List Char) :=
  (readPieces cs).map fun (pieces, rest) => ((joinPieces pieces).map String.ofList, rest)

end Skirmish.Json
