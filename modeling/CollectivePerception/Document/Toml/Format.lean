/-
This file puts the reader and the writer of TOML documents together as the format that
the program is run with.
-/

import CollectivePerception.Document.Format
import CollectivePerception.Document.Toml.Reading
import CollectivePerception.Document.Toml.Writing

namespace CollectivePerception.Toml

/-- The format of TOML documents. -/
def format : Document.Format where
  read text :=
    match read? text with
    | none => .error "not a TOML document"
    | some table => .ok table
  write table :=
    match render? table with
    | none => .error "out-of-range value"
    | some text => .ok text
  explain _ cause := cause.message

end CollectivePerception.Toml
