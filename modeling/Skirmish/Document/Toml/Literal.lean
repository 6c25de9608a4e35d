import Skirmish.Document.Basic
import Skirmish.Number.Decimal
import Skirmish.Number.Digits

/-!
# Literals of TOML

The parts of a TOML text that contain no other values: blanks, comments, keys, strings and numbers.
As for JSON, a reader of a literal takes its characters from the front of a text and gives what is
left.

Integers are those that a signed number of 64 bits can hold; a text with any other integer has no
document. A decimal beyond the double range has none either if it is positive, and is the infinity
if it is negative.
-/

namespace Skirmish.Toml

/-! ## Between the literals -/

/-- Whether the character may stand between the parts of a line. -/
def isBlank (c : Char) : Bool := c = ' ' || c = '\t'

/-- The text behind the blanks at its front. -/
def skipBlanks (cs : List Char) : List Char := cs.dropWhile isBlank

/-- Whether the character may stand in a comment, and unless it has another meaning also in a
string. -/
def isPrintable (c : Char) : Bool := c = '\t' || (0x20 ≤ c.toNat && c.toNat ≠ 0x7f)

/-- The text behind the line ending at its front. -/
def readNewline : List Char → Option (List Char)
  | '\n' :: rest => some rest
  | '\r' :: '\n' :: rest => some rest
  | _ => none

/-- The text behind a line ending at its front, if there is one. -/
def skipNewline (cs : List Char) : List Char := (readNewline cs).getD cs

/-- The text behind a comment at its front, if there is one. -/
def skipComment : List Char → List Char
  | '#' :: rest => rest.dropWhile isPrintable
  | cs => cs

/-- The text behind the rest of a line on which nothing else stands but a comment. -/
def readLineEnd (cs : List Char) : Option (List Char) :=
  match skipComment (skipBlanks cs) with
  | [] => some []
  | rest => readNewline rest

/-- The text behind blanks, line endings and comments. -/
def skipGaps (inComment : Bool) : List Char → List Char
  | '\n' :: rest => skipGaps false rest
  | '\r' :: '\n' :: rest => skipGaps false rest
  | c :: rest =>
    if inComment && isPrintable c then skipGaps true rest
    else if isBlank c then skipGaps inComment rest
    else if c = '#' then skipGaps true rest
    else c :: rest
  | [] => []

/-! ## Strings -/

/-- The character that stands behind a backslash for another one. -/
def escaped? (c : Char) : Option Char :=
  match c with
  | '"' => some '"'
  | '\\' => some '\\'
  | 'b' => some '\x08'
  | 'f' => some '\x0c'
  | 'n' => some '\n'
  | 'r' => some '\r'
  | 't' => some '\t'
  | _ => none

/-- The character with a number in hexadecimal digits. -/
def charOf? (digits : List Char) : Option Char :=
  (Number.ofDigits? 16 digits).bind fun n => if n.isValidChar then some (Char.ofNat n) else none

/-- A character in front of the string that a reader gives. -/
def prepend (c? : Option Char) (string? : Option (List Char × List Char)) :
    Option (List Char × List Char) :=
  match c?, string? with
  | some c, some (cs, rest) => some (c :: cs, rest)
  | _, _ => none

/-- A string with escapes behind its opening quote. -/
def readBasic : List Char → Option (List Char × List Char)
  | [] => none
  | '"' :: rest => some ([], rest)
  | '\\' :: 'u' :: a :: b :: c :: d :: rest => prepend (charOf? [a, b, c, d]) (readBasic rest)
  | '\\' :: 'U' :: a :: b :: c :: d :: e :: f :: g :: h :: rest =>
    prepend (charOf? [a, b, c, d, e, f, g, h]) (readBasic rest)
  | '\\' :: c :: rest => prepend (escaped? c) (readBasic rest)
  | c :: rest => if isPrintable c && c ≠ '\\' then prepend (some c) (readBasic rest) else none

/-- A string with escapes and of several lines behind its opening quotes. At most two of the quotes
at the end belong to the string. A backslash at the end of a line stands for no character and takes
the blanks and line endings behind it away; `trims` says that this is going on. -/
def readBasicLines (trims : Bool) : List Char → Option (List Char × List Char)
  | [] => none
  | '"' :: '"' :: '"' :: '"' :: '"' :: rest => some (['"', '"'], rest)
  | '"' :: '"' :: '"' :: '"' :: rest => some (['"'], rest)
  | '"' :: '"' :: '"' :: rest => some ([], rest)
  | '\\' :: 'u' :: a :: b :: c :: d :: rest =>
    prepend (charOf? [a, b, c, d]) (readBasicLines false rest)
  | '\\' :: 'U' :: a :: b :: c :: d :: e :: f :: g :: h :: rest =>
    prepend (charOf? [a, b, c, d, e, f, g, h]) (readBasicLines false rest)
  | '\\' :: c :: rest =>
    -- Only blanks may stand between the backslash and the end of its line.
    if (readNewline (skipBlanks (c :: rest))).isSome then readBasicLines true rest
    else prepend (escaped? c) (readBasicLines false rest)
  | '\r' :: '\n' :: rest =>
    if trims then readBasicLines true rest else prepend (some '\n') (readBasicLines false rest)
  | c :: rest =>
    if trims && (isBlank c || c = '\n') then readBasicLines true rest
    else if c = '\n' || isPrintable c && c ≠ '\\' then
      prepend (some c) (readBasicLines false rest)
    else none

/-- A string without escapes behind its opening quote. -/
def readLiteral : List Char → Option (List Char × List Char)
  | [] => none
  | '\x27' :: rest => some ([], rest)
  | c :: rest => if isPrintable c then prepend (some c) (readLiteral rest) else none

/-- A string without escapes and of several lines behind its opening quotes. At most two of the
quotes at the end belong to the string. -/
def readLiteralLines : List Char → Option (List Char × List Char)
  | [] => none
  | '\x27' :: '\x27' :: '\x27' :: '\x27' :: '\x27' :: rest => some (['\x27', '\x27'], rest)
  | '\x27' :: '\x27' :: '\x27' :: '\x27' :: rest => some (['\x27'], rest)
  | '\x27' :: '\x27' :: '\x27' :: rest => some ([], rest)
  | '\r' :: '\n' :: rest => prepend (some '\n') (readLiteralLines rest)
  | c :: rest =>
    if c = '\n' || isPrintable c then prepend (some c) (readLiteralLines rest) else none

/-- A string at the front of a text. -/
def readString (cs : List Char) : Option (String × List Char) :=
  let found :=
    match cs with
    | '"' :: '"' :: '"' :: rest => readBasicLines false (skipNewline rest)
    | '"' :: rest => readBasic rest
    | '\x27' :: '\x27' :: '\x27' :: rest => readLiteralLines (skipNewline rest)
    | '\x27' :: rest => readLiteral rest
    | _ => none
  found.map fun (cs, rest) => (String.ofList cs, rest)

/-! ## Keys -/

/-- Whether the character may stand in a key without quotes. -/
def isBareKey (c : Char) : Bool := c.isAlphanum || c = '_' || c = '-'

/-- One key at the front of a text. -/
def readKey (cs : List Char) : Option (String × List Char) :=
  match cs with
  | '"' :: rest => (readBasic rest).map fun (cs, rest) => (String.ofList cs, rest)
  | '\x27' :: rest => (readLiteral rest).map fun (cs, rest) => (String.ofList cs, rest)
  | _ =>
    match cs.takeWhile isBareKey with
    | [] => none
    | key => some (String.ofList key, cs.dropWhile isBareKey)

/-! ## Numbers -/

/-- The digits behind a first one, which single underscores may separate. -/
def readMoreDigits (base : Nat) : List Char → Option (List Char × List Char)
  | '_' :: c :: rest =>
    if Number.isDigit base c then prepend (some c) (readMoreDigits base rest) else none
  | c :: rest =>
    if c = '_' then none
    else if Number.isDigit base c then prepend (some c) (readMoreDigits base rest)
    else some ([], c :: rest)
  | [] => some ([], [])

/-- Digits in a base, at least one. -/
def readDigits (base : Nat) (cs : List Char) : Option (List Char × List Char) :=
  match cs with
  | c :: rest =>
    if Number.isDigit base c then prepend (some c) (readMoreDigits base rest) else none
  | [] => none

/-- The digits before a point: a single zero, or digits of which the first is no zero. -/
def readWhole (cs : List Char) : Option (List Char × List Char) :=
  match cs with
  | '0' :: rest => some (['0'], rest)
  | _ => readDigits 10 cs

/-- A sign, if there is one, and whether it is a minus. -/
def readSign : List Char → Bool × List Char
  | '-' :: rest => (true, rest)
  | '+' :: rest => (false, rest)
  | rest => (false, rest)

/-- The document of an integer that fits in 64 bits. -/
def integerDocument? (i : Int) : Option Document :=
  if Int64.minValue.toInt ≤ i ∧ i ≤ Int64.maxValue.toInt then some (.integer i) else none

/-- An integer in a base other than ten, behind the mark of the base. -/
def readInBase (base : Nat) (cs : List Char) : Option (Document × List Char) := do
  let (digits, rest) ← readDigits base cs
  let value ← Number.ofDigits? base digits
  return (← integerDocument? value, rest)

/-- A point and the digits behind it, if there is a point. -/
def readFraction (cs : List Char) : Option (Option (List Char) × List Char) :=
  match cs with
  | '.' :: rest => (readDigits 10 rest).map fun (digits, rest) => (some digits, rest)
  | _ => some (none, cs)

/-- An exponent, if there is one. -/
def readExponent (cs : List Char) : Option (Option Int × List Char) :=
  match cs with
  | c :: rest =>
    if c = 'e' ∨ c = 'E' then
      let (negative, rest) := readSign rest
      (readDigits 10 rest).map fun (digits, rest) =>
        let n : Int := Nat.ofDigitChars 10 digits 0
        (some (if negative then -n else n), rest)
    else some (none, cs)
  | [] => some (none, cs)

/-- The document of a decimal. -/
def realDocument? (d : Number.Decimal) : Option Document :=
  match d.toSingle? with
  | some x => some (.real x)
  | none => if d.negative then some (.real (Number.Single.infinity true)) else none

/-- The document of a number in base ten. -/
def decimalDocument? (negative : Bool) (whole : List Char) (fraction : Option (List Char))
    (exponent : Option Int) : Option Document :=
  match fraction, exponent with
  | none, none =>
    let value : Int := Nat.ofDigitChars 10 whole 0
    integerDocument? (if negative then -value else value)
  | _, _ =>
    let fraction := fraction.getD []
    realDocument?
      ⟨negative, Nat.ofDigitChars 10 (whole ++ fraction) 0, exponent.getD 0 - fraction.length⟩

/-- A number in base ten or the word for one, behind its sign. -/
def readUnsigned (negative : Bool) (cs : List Char) : Option (Document × List Char) :=
  match cs with
  | 'i' :: 'n' :: 'f' :: rest => some (.real (Number.Single.infinity negative), rest)
  | 'n' :: 'a' :: 'n' :: rest => some (.real (.nan negative), rest)
  | _ => do
    let (whole, rest) ← readWhole cs
    let (fraction, rest) ← readFraction rest
    let (exponent, rest) ← readExponent rest
    return (← decimalDocument? negative whole fraction exponent, rest)

/-- A number at the front of a text. -/
def readNumber (cs : List Char) : Option (Document × List Char) :=
  match cs with
  | '0' :: 'x' :: rest => readInBase 16 rest
  | '0' :: 'o' :: rest => readInBase 8 rest
  | '0' :: 'b' :: rest => readInBase 2 rest
  | _ =>
    let (negative, rest) := readSign cs
    readUnsigned negative rest

end Skirmish.Toml
