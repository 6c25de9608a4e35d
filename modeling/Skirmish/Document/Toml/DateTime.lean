import Skirmish.Document.Basic

/-!
# Dates and times in TOML

A date, a time, or a date with a time and perhaps the offset of a time zone. This library has no use
for them, but a text with a wrong one is no TOML text. A date is a day of its month; leap seconds
are allowed on every minute.
-/

namespace Skirmish.Toml

/-- A number of exactly so many digits that lies between two bounds. -/
def readCount (digits low high : Nat) (cs : List Char) : Option (Nat × List Char) :=
  let ds := cs.take digits
  let n := Nat.ofDigitChars 10 ds 0
  if ds.length = digits && ds.all Char.isDigit && low ≤ n && n ≤ high then
    some (n, cs.drop digits)
  else none

/-- The text behind a character at its front. -/
def readChar (c : Char) : List Char → Option (List Char)
  | d :: rest => if d = c then some rest else none
  | [] => none

/-- The number of days of a month. -/
def daysOf (year month : Nat) : Nat :=
  if month = 2 then
    if year % 4 = 0 ∧ (year % 100 ≠ 0 ∨ year % 400 = 0) then 29 else 28
  else if month = 4 ∨ month = 6 ∨ month = 9 ∨ month = 11 then 30
  else 31

/-- The text behind a date at its front. -/
def readDate (cs : List Char) : Option (List Char) := do
  let (year, cs) ← readCount 4 0 9999 cs
  let cs ← readChar '-' cs
  let (month, cs) ← readCount 2 1 12 cs
  let cs ← readChar '-' cs
  let (_, cs) ← readCount 2 1 (daysOf year month) cs
  return cs

/-- The text behind a point and digits at its front, if there are such. -/
def skipFraction (cs : List Char) : List Char :=
  match cs with
  | '.' :: d :: rest => if d.isDigit then rest.dropWhile Char.isDigit else cs
  | _ => cs

/-- The text behind a time at its front. -/
def readTime (cs : List Char) : Option (List Char) := do
  let (_, cs) ← readCount 2 0 23 cs
  let cs ← readChar ':' cs
  let (_, cs) ← readCount 2 0 59 cs
  let cs ← readChar ':' cs
  -- Sixty is a leap second.
  let (_, cs) ← readCount 2 0 60 cs
  return skipFraction cs

/-- The text behind the offset of a time zone. -/
def readOffset (cs : List Char) : Option (List Char) :=
  match cs with
  | [] => none
  | c :: rest =>
    if c = 'Z' ∨ c = 'z' then some rest
    else if c = '+' ∨ c = '-' then do
      let (_, rest) ← readCount 2 0 23 rest
      let rest ← readChar ':' rest
      let (_, rest) ← readCount 2 0 59 rest
      return rest
    else none

/-- The text behind the time that belongs to a date. -/
def readTimeOfDate (cs : List Char) : Option (List Char) :=
  match cs with
  | [] => none
  | c :: rest =>
    if c = 'T' ∨ c = 't' ∨ c = ' ' then
      (readTime rest).map fun rest => (readOffset rest).getD rest
    else none

/-- The text behind a date, a time or both at its front. -/
def readDateTime (cs : List Char) : Option (List Char) :=
  match readDate cs with
  | some rest => some ((readTimeOfDate rest).getD rest)
  | none => readTime cs

/-- The document of every date and time: a record of which no field is known to any structure. -/
def dateTime : Document := .record [("date-time", .null)]

end Skirmish.Toml
