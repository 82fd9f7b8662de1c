/-
This file writes documents as JSON and reads them from it. A number without point and
exponent is an integer if 64 bits hold it, and a floating-point number otherwise; a
negative zero is always the latter, for an integer has no sign of zero.
-/

import CollectivePerception.Decimal.Reading
import CollectivePerception.Document

namespace CollectivePerception.Json

/-! ### Writing -/

/-- A hexadecimal digit. -/
def hexDigit (value : Nat) : Char :=
  if value < 10 then Char.ofNat (48 + value) else Char.ofNat (87 + value)

/-- A character inside a quoted text. -/
def escape (c : Char) : String :=
  match c with
  | '"' => "\\\""
  | '\\' => "\\\\"
  | '\n' => "\\n"
  | '\r' => "\\r"
  | '\t' => "\\t"
  | '\x08' => "\\b"
  | '\x0c' => "\\f"
  | _ =>
    if c.toNat < 32 then
      "\\u00" ++ String.ofList [hexDigit (c.toNat / 16), hexDigit (c.toNat % 16)]
    else
      c.toString

def quote (text : String) : String :=
  "\"" ++ text.foldl (fun quoted c => quoted ++ escape c) "" ++ "\""

mutual

/-- A document as JSON, with numbers that are no integers written by `number`. -/
def render (number : Float → String) : Document → String
  | .null => "null"
  | .boolean value => if value then "true" else "false"
  | .integer value => toString value
  | .float value => number value
  | .text value => quote value
  | .moment value => quote value
  | .list items => "[" ++ renderItems number items ++ "]"
  | .table entries => "\x7b" ++ renderEntries number entries ++ "\x7d"

/-- The items of a list, separated by commas. -/
def renderItems (number : Float → String) : List Document → String
  | [] => ""
  | [item] => render number item
  | item :: rest => render number item ++ "," ++ renderItems number rest

/-- The entries of a table, separated by commas. -/
def renderEntries (number : Float → String) : List (String × Document) → String
  | [] => ""
  | [(key, value)] => quote key ++ ":" ++ render number value
  | (key, value) :: rest =>
    quote key ++ ":" ++ render number value ++ "," ++ renderEntries number rest

end

/-- How JSON writes doubles: the fewest digits, a fraction always, an exponent for very
small and very large values. -/
def style : Decimal.Style := ⟨".0", some (-5, 15), "null", "null"⟩

/-- A number, for which JSON has no word if it is not finite. -/
def number (value : Float) : String :=
  if value.isFinite then style.write value else "null"

/-- A document on one line. -/
def write (document : Document) : String := render number document

/-! ### Reading -/

/-- Input without the blanks in front. -/
def skipBlanks (input : List Char) : List Char :=
  input.dropWhile fun c => c == ' ' || c == '\n' || c == '\r' || c == '\t'

/-- The number that four hexadecimal digits in front of the input stand for. -/
def hexQuad? : List Char → Option (Nat × List Char)
  | a :: b :: c :: d :: rest =>
    if [a, b, c, d].all fun digit => (Decimal.digitValue? 16 digit).isSome then
      some (Decimal.ofDigits 16 [a, b, c, d], rest)
    else
      none
  | _ => none

/-- The rest of a quoted text, whose characters so far come in reverse. -/
def readText (read : List Char) : (fuel : Nat) → List Char → Option (String × List Char)
  | 0, _ => none
  | fuel + 1, input =>
    match input with
    | [] => none
    | '"' :: rest => some (String.ofList read.reverse, rest)
    | '\\' :: 'u' :: rest => do
      let (unit, rest) ← hexQuad? rest
      if 0xD800 ≤ unit ∧ unit < 0xDC00 then
        match rest with
        | '\\' :: 'u' :: low =>
          let (second, rest) ← hexQuad? low
          if 0xDC00 ≤ second ∧ second < 0xE000 then
            let code := 0x10000 + (unit - 0xD800) * 0x400 + (second - 0xDC00)
            readText (Char.ofNat code :: read) fuel rest
          else
            none
        | _ => none
      else if 0xDC00 ≤ unit ∧ unit < 0xE000 then
        none
      else
        readText (Char.ofNat unit :: read) fuel rest
    | '\\' :: c :: rest =>
      let meant := match c with
        | '"' => some '"'
        | '\\' => some '\\'
        | '/' => some '/'
        | 'b' => some '\x08'
        | 'f' => some '\x0c'
        | 'n' => some '\n'
        | 'r' => some '\r'
        | 't' => some '\t'
        | _ => none
      match meant with
      | some meant => readText (meant :: read) fuel rest
      | none => none
    | c :: rest => if c.toNat < 32 then none else readText (c :: read) fuel rest

/-- The digits in front of the input. -/
def digits (input : List Char) : List Char × List Char :=
  input.span Decimal.isDigit

/-- The exponent in front of the input: its digits with a sign, zero if there is none. -/
def exponent? (input : List Char) : Option (Option Int × List Char) :=
  match input with
  | c :: rest =>
    if c == 'e' || c == 'E' then
      let (negative, rest) := match rest with
        | '-' :: rest => (true, rest)
        | '+' :: rest => (false, rest)
        | _ => (false, rest)
      match digits rest with
      | ([], _) => none
      | (read, rest) =>
        let size : Int := Decimal.ofDigits 10 read
        some (some (if negative then -size else size), rest)
    else
      some (none, input)
  | [] => some (none, input)

/-- The fraction in front of the input: its digits, none if there is no point. -/
def fraction? : List Char → Option (Option (List Char) × List Char)
  | '.' :: rest =>
    match digits rest with
    | ([], _) => none
    | (read, rest) => some (some read, rest)
  | input => some (none, input)

/-- The document of a number without point and exponent. -/
def wholeNumber (negative : Bool) (size : Nat) : Document :=
  if negative then
    if size = 0 ∨ 9223372036854775808 < size then .float (Decimal.nearestDouble true size 0)
    else .integer (-(size : Int))
  else if Binary64.wordRange ≤ size then
    .float (Decimal.nearestDouble false size 0)
  else
    .integer size

/-- The number in front of the input. -/
def readNumber (input : List Char) : Option (Document × List Char) := do
  let (negative, rest) := match input with
    | '-' :: rest => (true, rest)
    | _ => (false, input)
  let (whole, rest) := digits rest
  if whole.isEmpty || (whole.head? == some '0' && whole.length != 1) then none
  let (fraction, rest) ← fraction? rest
  let (exponent, rest) ← exponent? rest
  match fraction, exponent with
  | none, none => return (wholeNumber negative (Decimal.ofDigits 10 whole), rest)
  | _, _ =>
    let places := fraction.getD []
    let size := Decimal.ofDigits 10 (whole ++ places)
    let value := Decimal.nearestDouble negative size (exponent.getD 0 - places.length)
    if value.isFinite then return (.float value, rest) else none

/-- Input without a word in front of it. -/
def afterWord? (word : String) (input : List Char) : Option (List Char) :=
  if word.toList.isPrefixOf input then some (input.drop word.length) else none

mutual

/-- The value in front of the input, which has no blanks in front. -/
def readValue : (fuel : Nat) → List Char → Option (Document × List Char)
  | 0, _ => none
  | fuel + 1, input =>
    match input with
    | [] => none
    | '"' :: rest => (readText [] (rest.length + 1) rest).map fun (text, rest) => (.text text, rest)
    | '[' :: rest =>
      match skipBlanks rest with
      | ']' :: rest => some (.list [], rest)
      | rest => (readItems fuel rest).map fun (items, rest) => (.list items, rest)
    | '\x7b' :: rest =>
      match skipBlanks rest with
      | '\x7d' :: rest => some (.table [], rest)
      | rest => (readEntries fuel [] rest).map fun (entries, rest) => (.table entries, rest)
    | 't' :: _ => (afterWord? "true" input).map fun rest => (.boolean true, rest)
    | 'f' :: _ => (afterWord? "false" input).map fun rest => (.boolean false, rest)
    | 'n' :: _ => (afterWord? "null" input).map fun rest => (.null, rest)
    | _ => readNumber input

/-- The items of a list up to its end. -/
def readItems : (fuel : Nat) → List Char → Option (List Document × List Char)
  | 0, _ => none
  | fuel + 1, input => do
    let (first, rest) ← readValue fuel (skipBlanks input)
    match skipBlanks rest with
    | ',' :: rest =>
      let (others, rest) ← readItems fuel rest
      return (first :: others, rest)
    | ']' :: rest => return ([first], rest)
    | _ => none

/-- The entries of a table up to its end, added to those read before. -/
def readEntries : (fuel : Nat) → Document.Table → List Char →
    Option (Document.Table × List Char)
  | 0, _, _ => none
  | fuel + 1, entries, input =>
    match skipBlanks input with
    | '"' :: rest => do
      let (key, rest) ← readText [] (rest.length + 1) rest
      match skipBlanks rest with
      | ':' :: rest =>
        let (value, rest) ← readValue fuel (skipBlanks rest)
        let entries := Document.Table.set entries key value
        match skipBlanks rest with
        | ',' :: rest => readEntries fuel entries rest
        | '\x7d' :: rest => return (entries, rest)
        | _ => none
      | _ => none
    | _ => none

end

/-- The document that a JSON text stands for. -/
def read? (text : String) : Option Document := do
  let input := text.toList
  let (document, rest) ← readValue (input.length + 1) (skipBlanks input)
  if (skipBlanks rest).isEmpty then some document else none

end CollectivePerception.Json
