/-
This file writes TOML documents. A table's plain values come first, one to a line, and
after them the tables and lists of tables in it, each under a header of its own and after
an empty line. Not every document can be written: there is no word for null, and an
integer must fit into 64 bits with a sign.
-/

import CollectivePerception.Document.Json
import CollectivePerception.Document.Toml.Text

namespace CollectivePerception.Toml

/-! ### Values -/

/-- How TOML documents write doubles: the fewest digits, a fraction always, no exponent. -/
def style : Decimal.Style := ⟨".0", none, "nan", "inf"⟩

/-- A key, in quotes unless it needs none. -/
def renderKey (key : String) : String :=
  if !key.isEmpty && key.all isKeyCharacter then key else Json.quote key

mutual

/-- A value on one line. -/
def renderValue : Document → Option String
  | .null => none
  | .boolean value => some (if value then "true" else "false")
  | .integer value =>
    if Binary64.leastInt64 ≤ value ∧ value ≤ Binary64.greatestInt64 then some (toString value)
    else none
  | .float value => some (style.write value)
  | .text value => some (Json.quote value)
  | .moment value => some value
  | .list items => do return "[" ++ ", ".intercalate (← renderItems items) ++ "]"
  | .table [] => some "\x7b\x7d"
  | .table entries => do
    return "\x7b " ++ ", ".intercalate (← renderPairs entries) ++ " \x7d"

/-- The items of a list. -/
def renderItems : List Document → Option (List String)
  | [] => some []
  | item :: rest => do return (← renderValue item) :: (← renderItems rest)

/-- The entries of a table, each with its key. -/
def renderPairs : List (String × Document) → Option (List String)
  | [] => some []
  | (key, value) :: rest => do
    return (renderKey key ++ " = " ++ (← renderValue value)) :: (← renderPairs rest)

end

/-! ### Tables -/

def isTable : Document → Bool
  | .table _ => true
  | _ => false

/-- Whether a value gets headers of its own. -/
def isSection : Document → Bool
  | .table _ => true
  | .list items => !items.isEmpty && items.all isTable
  | _ => false

/-- The lines of a table's plain values, after the line of its header. -/
def renderBlock (header : List String) (table : Document.Table) : Option String := do
  let pairs ← renderPairs (table.filter fun entry => !isSection entry.2)
  return String.join ((header ++ pairs).map (· ++ "\n"))

/-- The name of a table in its header. -/
def renderPath (path : List String) : String := ".".intercalate (path.map renderKey)

mutual

/-- The blocks of the tables and lists of tables among the entries of a table. -/
def renderSections (path : List String) : List (String × Document) → Option (List String)
  | [] => some []
  | (key, value) :: rest => do
    let blocks ← match value with
      | .table entries => do
        let block ← renderBlock ["[" ++ renderPath (path ++ [key]) ++ "]"] entries
        let inner ← renderSections (path ++ [key]) entries
        pure (block :: inner)
      | .list items =>
        if isSection (.list items) then renderElements (path ++ [key]) items else some []
      | _ => some []
    return blocks ++ (← renderSections path rest)

/-- The blocks of the tables of a list. -/
def renderElements (path : List String) : List Document → Option (List String)
  | [] => some []
  | element :: rest => do
    let blocks ← match element with
      | .table entries => do
        let block ← renderBlock ["[[" ++ renderPath path ++ "]]"] entries
        let inner ← renderSections path entries
        pure (block :: inner)
      | _ => some []
    return blocks ++ (← renderElements path rest)

end

/-- A table as a TOML document, if it can be written as one. -/
def render? (table : Document.Table) : Option String := do
  let own ← renderBlock [] table
  let sections ← renderSections [] table
  let blocks := if own.isEmpty then sections else own :: sections
  return "\n".intercalate blocks

end CollectivePerception.Toml
