/-
This file reads what TOML documents consist of at the lowest level: blanks, comments and
ends of lines, keys, and quoted texts. A text is quoted in one of four ways: with single
or double quotes, each of them on one line or, with three quotes, over several.
-/

import CollectivePerception.Decimal.Reading

namespace CollectivePerception.Toml

/-! ### Blanks and comments -/

/-- Blanks separate what stands on one line. -/
def isBlank (c : Char) : Bool := c == ' ' || c == '\t'

/-- The characters of comments and texts: all but the control characters, of which only
the tab is allowed. -/
def isPlain (c : Char) : Bool := c == '\t' || (' ' ≤ c && c != '\x7f')

def skipBlanks (input : List Char) : List Char := input.dropWhile isBlank

/-- Input without the end of a line in front of it. -/
def afterNewline? : List Char → Option (List Char)
  | '\n' :: rest => some rest
  | '\r' :: '\n' :: rest => some rest
  | _ => none

/-- Input without the comment in front, if there is one. -/
def skipComment : List Char → List Char
  | '#' :: rest => rest.dropWhile isPlain
  | input => input

/-- Input after a line on which nothing more is said. -/
def afterLine? (input : List Char) : Option (List Char) :=
  match skipComment (skipBlanks input) with
  | [] => some []
  | rest => afterNewline? rest

/-- Input without the blanks and ends of lines in front. -/
def skipEmptyLines : List Char → List Char
  | '\r' :: '\n' :: rest => skipEmptyLines rest
  | c :: rest => if isBlank c || c == '\n' then skipEmptyLines rest else c :: rest
  | [] => []

/-- Input without the blanks, ends of lines and comments in front; `inComment` says
that a comment has begun. -/
def skipLines : (inComment : Bool) → List Char → List Char
  | _, [] => []
  | _, '\n' :: rest => skipLines false rest
  | _, '\r' :: '\n' :: rest => skipLines false rest
  | true, c :: rest => if isPlain c then skipLines true rest else c :: rest
  | false, c :: rest =>
    if c == '#' then skipLines true rest
    else if isBlank c then skipLines false rest
    else c :: rest

/-! ### Escapes -/

/-- The character with the number that `count` hexadecimal digits stand for. -/
def readCode (count : Nat) (input : List Char) : Option (Char × List Char) :=
  let digits := input.take count
  let code := Decimal.ofDigits 16 digits
  if digits.length = count ∧ digits.all (fun c => (Decimal.digitValue? 16 c).isSome) ∧
      code.isValidChar then
    some (Char.ofNat code, input.drop count)
  else
    none

/-- The character that an escape stands for, read after the backslash. -/
def readEscape : List Char → Option (Char × List Char)
  | 'b' :: rest => some ('\x08', rest)
  | 'f' :: rest => some ('\x0c', rest)
  | 'n' :: rest => some ('\n', rest)
  | 'r' :: rest => some ('\r', rest)
  | 't' :: rest => some ('\t', rest)
  | '\\' :: rest => some ('\\', rest)
  | '"' :: rest => some ('"', rest)
  | 'u' :: rest => readCode 4 rest
  | 'U' :: rest => readCode 8 rest
  | _ => none

/-! ### Quoted texts -/

/-- The rest of a text on one line in double quotes. The characters read so far come in
reverse. -/
def readLine (read : List Char) : (fuel : Nat) → List Char → Option (String × List Char)
  | 0, _ => none
  | fuel + 1, input =>
    match input with
    | [] => none
    | '"' :: rest => some (String.ofList read.reverse, rest)
    | '\\' :: rest => do
      let (c, rest) ← readEscape rest
      readLine (c :: read) fuel rest
    | c :: rest => if isPlain c then readLine (c :: read) fuel rest else none

/-- The rest of a text on one line in single quotes, in which nothing is escaped. -/
def readLiteral (input : List Char) : Option (String × List Char) :=
  let (content, rest) := input.span fun c => isPlain c && c != '\''
  match rest with
  | '\'' :: rest => some (String.ofList content, rest)
  | _ => none

/-- The rest of a text over several lines, which three quotes end; up to two quotes more
belong to the text, as do shorter runs of quotes inside. A backslash at the end of a line
joins it to the next character that is no blank. -/
def readLines (quote : Char) (escapes : Bool) (read : List Char) :
    (fuel : Nat) → List Char → Option (String × List Char)
  | 0, _ => none
  | fuel + 1, input =>
    match input with
    | [] => none
    | c :: rest =>
      if c == quote then
        let run := (input.takeWhile (· == quote)).length
        let rest := input.dropWhile (· == quote)
        if run < 3 then
          readLines quote escapes (List.replicate run quote ++ read) fuel rest
        else if run ≤ 5 then
          some (String.ofList (List.replicate (run - 3) quote ++ read).reverse, rest)
        else
          none
      else if escapes && c == '\\' then
        match afterNewline? (skipBlanks rest) with
        | some rest => readLines quote escapes read fuel (skipEmptyLines rest)
        | none =>
          match readEscape rest with
          | some (c, rest) => readLines quote escapes (c :: read) fuel rest
          | none => none
      else
        match afterNewline? input with
        | some rest => readLines quote escapes ('\n' :: read) fuel rest
        | none => if isPlain c then readLines quote escapes (c :: read) fuel rest else none

/-- A text over several lines, of which an end of line right at the start is no part. -/
def readLinesFromStart (quote : Char) (escapes : Bool) (input : List Char) :
    Option (String × List Char) :=
  readLines quote escapes [] (input.length + 1) ((afterNewline? input).getD input)

/-- The quoted text in front of the input. -/
def readText : List Char → Option (String × List Char)
  | '"' :: '"' :: '"' :: rest => readLinesFromStart '"' true rest
  | '\'' :: '\'' :: '\'' :: rest => readLinesFromStart '\'' false rest
  | '"' :: rest => readLine [] (rest.length + 1) rest
  | '\'' :: rest => readLiteral rest
  | _ => none

/-! ### Keys -/

/-- The characters of a key without quotes. -/
def isKeyCharacter (c : Char) : Bool := c.isAlphanum || c == '-' || c == '_'

/-- One part of a key. -/
def readKeyPart : List Char → Option (String × List Char)
  | '"' :: rest => readLine [] (rest.length + 1) rest
  | '\'' :: rest => readLiteral rest
  | input =>
    match input.span isKeyCharacter with
    | ([], _) => none
    | (key, rest) => some (String.ofList key, rest)

/-- No key has this many parts, and values are not nested this deep. -/
def depthLimit : Nat := 80

/-- The parts of a key, separated by points, of which at most `fuel` are read. Blanks
may stand around each of them. -/
def readKeyParts : (fuel : Nat) → List Char → Option (List String × List Char)
  | 0, _ => none
  | fuel + 1, input => do
    let (part, rest) ← readKeyPart (skipBlanks input)
    match skipBlanks rest with
    | '.' :: rest =>
      let (parts, rest) ← readKeyParts fuel rest
      return (part :: parts, rest)
    | rest => return ([part], rest)

/-- A key: the path of the tables to it, and its name in the last of them. -/
structure Key where
  path : List String
  name : String
deriving Repr

/-- The key in front of the input, without the blanks after it. -/
def readKey (input : List Char) : Option (Key × List Char) := do
  let (parts, rest) ← readKeyParts (depthLimit - 1) input
  let name ← parts.getLast?
  return (⟨parts.dropLast, name⟩, rest)

end CollectivePerception.Toml
