/-
This file recognises the dates and times of TOML documents. Nothing reads them, but a
document with a date that does not exist is no document.
-/

import CollectivePerception.Decimal.Reading

namespace CollectivePerception.Toml

/-! ### Parts -/

/-- A number of exactly `count` digits within bounds. -/
def readPart (count least greatest : Nat) (input : List Char) : Option (Nat × List Char) :=
  let digits := input.take count
  let value := Decimal.ofDigits 10 digits
  if digits.length = count ∧ digits.all Decimal.isDigit ∧ least ≤ value ∧ value ≤ greatest then
    some (value, input.drop count)
  else
    none

/-- Input without a character in front of it. -/
def afterCharacter? (c : Char) : List Char → Option (List Char)
  | first :: rest => if first == c then some rest else none
  | [] => none

def isLeapYear (year : Nat) : Bool :=
  year % 4 == 0 && (year % 100 != 0 || year % 400 == 0)

def daysInMonth (year month : Nat) : Nat :=
  match month with
  | 2 => if isLeapYear year then 29 else 28
  | 4 | 6 | 9 | 11 => 30
  | _ => 31

/-! ### Dates and times -/

/-- Input after a date. -/
def afterDate? (input : List Char) : Option (List Char) := do
  let (year, rest) ← readPart 4 0 9999 input
  let rest ← afterCharacter? '-' rest
  let (month, rest) ← readPart 2 1 12 rest
  let rest ← afterCharacter? '-' rest
  let (_, rest) ← readPart 2 1 (daysInMonth year month) rest
  return rest

/-- Input after a fraction of a second, if there is one. -/
def afterFraction (input : List Char) : List Char :=
  match input with
  | '.' :: c :: rest => if Decimal.isDigit c then rest.dropWhile Decimal.isDigit else input
  | _ => input

/-- Input after the hours and minutes of a time. -/
def afterHoursAndMinutes? (input : List Char) : Option (List Char) := do
  let (_, rest) ← readPart 2 0 23 input
  let rest ← afterCharacter? ':' rest
  let (_, rest) ← readPart 2 0 59 rest
  return rest

/-- Input after a time of day; a minute may have a leap second. -/
def afterTime? (input : List Char) : Option (List Char) := do
  let rest ← afterHoursAndMinutes? input
  let rest ← afterCharacter? ':' rest
  let (_, rest) ← readPart 2 0 60 rest
  return afterFraction rest

/-- Input after the distance of a time from universal time, if there is one. -/
def afterOffset? : List Char → Option (List Char)
  | 'Z' :: rest => some rest
  | 'z' :: rest => some rest
  | '+' :: rest => afterHoursAndMinutes? rest
  | '-' :: rest => afterHoursAndMinutes? rest
  | input => some input

/-- Input after the time of a date, if there is one. -/
def afterTimeOfDate? (input : List Char) : Option (List Char) :=
  match input with
  | [] => some []
  | c :: rest =>
    if c == 'T' || c == 't' || c == ' ' then
      match afterTime? rest with
      | some rest => afterOffset? rest
      | none => some input
    else
      some input

/-- Input after a date, a date with a time, or a time. -/
def afterMoment? (input : List Char) : Option (List Char) :=
  match afterDate? input with
  | some rest => afterTimeOfDate? rest
  | none => afterTime? input

end CollectivePerception.Toml
