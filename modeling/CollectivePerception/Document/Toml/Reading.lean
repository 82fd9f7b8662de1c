/-
This file reads TOML documents: values, which may be lists and tables in braces, and the
lines of a document, each of which is empty, opens a table, or gives a name its value.
-/

import CollectivePerception.Document.Toml.Moment
import CollectivePerception.Document.Toml.Number
import CollectivePerception.Document.Toml.Tree

namespace CollectivePerception.Toml

/-! ### Values -/

/-- Input without a word in front of it. -/
def afterWord? (word : String) (input : List Char) : Option (List Char) :=
  if word.toList.isPrefixOf input then some (input.drop word.length) else none

/-- A date, a time or a number. -/
def readMomentOrNumber (input : List Char) : Option (Document × List Char) :=
  match afterMoment? input with
  | some rest => some (.moment (String.ofList (input.take (input.length - rest.length))), rest)
  | none => readNumber input

mutual

/-- The value in front of the input, in which lists and tables are nested at most
`depth` deep. -/
def readValue : (fuel depth : Nat) → List Char → Option (Document × List Char)
  | 0, _, _ => none
  | fuel + 1, depth, input =>
    match input, depth with
    | [], _ => none
    | '[' :: _, 0 => none
    | '[' :: rest, depth + 1 =>
      (readItems fuel depth rest).map fun (items, rest) => (.list items, rest)
    | '\x7b' :: _, 0 => none
    | '\x7b' :: rest, depth + 1 =>
      match skipBlanks rest with
      | '\x7d' :: rest => some (.table [], rest)
      | rest =>
        (readPairs fuel depth [] rest).map fun (entries, rest) =>
          (.table (entriesToTable entries), rest)
    | '"' :: _, _ => (readText input).map fun (text, rest) => (.text text, rest)
    | '\'' :: _, _ => (readText input).map fun (text, rest) => (.text text, rest)
    | 't' :: _, _ => (afterWord? "true" input).map fun rest => (.boolean true, rest)
    | 'f' :: _, _ => (afterWord? "false" input).map fun rest => (.boolean false, rest)
    | _, _ => readMomentOrNumber input

/-- The items of a list up to its end. A comma may follow the last one. -/
def readItems : (fuel depth : Nat) → List Char → Option (List Document × List Char)
  | 0, _, _ => none
  | fuel + 1, depth, input =>
    match skipLines false input with
    | ']' :: rest => some ([], rest)
    | rest => do
      let (first, rest) ← readValue fuel depth rest
      match skipLines false rest with
      | ',' :: rest =>
        let (others, rest) ← readItems fuel depth rest
        return (first :: others, rest)
      | ']' :: rest => return ([first], rest)
      | _ => none

/-- The entries of a table in braces up to its end, added to those read before. -/
def readPairs : (fuel depth : Nat) → Entries → List Char → Option (Entries × List Char)
  | 0, _, _, _ => none
  | fuel + 1, depth, entries, input => do
    let (key, rest) ← readKey input
    match rest with
    | '=' :: rest =>
      let (value, rest) ← readValue fuel depth (skipBlanks rest)
      let entries ← entries.define key.path key.name value .header
      match skipBlanks rest with
      | ',' :: rest => readPairs fuel depth entries rest
      | '\x7d' :: rest => return (entries, rest)
      | _ => none
    | _ => none

end

/-! ### Lines -/

/-- The table that lines belong to, and the tree so far. -/
structure Progress where
  header : List String
  entries : Entries

/-- Takes the line that gives a name its value. -/
def Progress.readAssignment (progress : Progress) (input : List Char) :
    Option (Progress × List Char) := do
  let (key, rest) ← readKey input
  match rest with
  | '=' :: rest =>
    let (value, rest) ← readValue (rest.length + 1) (depthLimit - 1) (skipBlanks rest)
    let rest ← afterLine? rest
    let entries ← progress.entries.assign progress.header key.path key.name value
    return ({ progress with entries := entries }, rest)
  | _ => none

/-- Takes the line that opens a table, read after its opening bracket. -/
def Progress.readHeader (progress : Progress) (input : List Char) :
    Option (Progress × List Char) := do
  let (key, rest) ← readKey input
  match rest with
  | ']' :: rest =>
    let rest ← afterLine? rest
    let entries ← progress.entries.openTable key.path key.name
    return (⟨key.path ++ [key.name], entries⟩, rest)
  | _ => none

/-- Takes the line that opens a table of a list, read after its opening brackets. -/
def Progress.readElementHeader (progress : Progress) (input : List Char) :
    Option (Progress × List Char) := do
  let (key, rest) ← readKey input
  match rest with
  | ']' :: ']' :: rest =>
    let rest ← afterLine? rest
    let entries ← progress.entries.openElement key.path key.name
    return (⟨key.path ++ [key.name], entries⟩, rest)
  | _ => none

/-- Whether a line that starts like this has nothing to say. -/
def startsEmptyLine : List Char → Bool
  | [] => true
  | c :: _ => c == '#' || c == '\n' || c == '\r'

/-- Takes one line. -/
def Progress.readLine (progress : Progress) (input : List Char) :
    Option (Progress × List Char) :=
  let input := skipBlanks input
  if startsEmptyLine input then
    (afterLine? input).map fun rest => (progress, rest)
  else
    match input with
    | '[' :: '[' :: rest => progress.readElementHeader rest
    | '[' :: rest => progress.readHeader rest
    | _ => progress.readAssignment input

/-- Takes all lines, of which there are at most `fuel`. -/
def Progress.readLines (progress : Progress) : (fuel : Nat) → List Char → Option Entries
  | _, [] => some progress.entries
  | 0, _ => none
  | fuel + 1, input => do
    let (next, rest) ← progress.readLine input
    next.readLines fuel rest

/-! ### The document -/

/-- Text without a mark of its byte order in front. -/
def withoutMark : List Char → List Char
  | '\ufeff' :: rest => rest
  | input => input

/-- The table that a TOML document stands for. -/
def read? (text : String) : Option Document.Table := do
  let input := withoutMark text.toList
  let entries ← Progress.readLines ⟨[], []⟩ input.length input
  return entriesToTable entries

end CollectivePerception.Toml
