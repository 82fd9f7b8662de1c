/-
This file defines the documents that configurations, messages and measurements are
written as, and the way to read a typed value from one. A document is a tree of tables
and lists; reading one accepts exactly the values of the type at hand and says of
anything else where it stands and what was expected there. A record is written as a
table and read from a table, by the names of its fields, or from a list, by their order.
-/

import CollectivePerception.Named

namespace CollectivePerception

/-- A tree of values. -/
inductive Document
  | null
  | boolean (value : Bool)
  | integer (value : Int)
  | float (value : Float)
  | text (value : String)
  /-- A date or a time, which nothing here reads. -/
  | moment (text : String)
  | list (items : List Document)
  | table (entries : List (String × Document))
deriving Inhabited

/-- The entries of a table, in their order. -/
abbrev Document.Table := List (String × Document)

namespace Document

/-! ### Nothing -/

def isNull : Document → Bool
  | null => true
  | _ => false

/-- Whether there is nothing in a table or a list. -/
def isEmpty : Document → Bool
  | table [] => true
  | list [] => true
  | _ => false

/-! ### Tables -/

/-- The value of a key. -/
def Table.get? (table : Table) (key : String) : Option Document :=
  (table.find? fun entry => entry.1 == key).map (·.2)

/-- The table with the value of one key set, in the key's place or at the end. -/
def Table.set (table : Table) (key : String) (value : Document) : Table :=
  if table.any fun entry => entry.1 == key then
    table.map fun entry => if entry.1 == key then (key, value) else entry
  else
    table ++ [(key, value)]

/-! ### Reading -/

/-- Why a document does not describe a value of a type. -/
inductive Mismatch
  | expected (what : String)
  | missing
  | inField (name : String) (cause : Mismatch)
  | inItem (position : Nat) (cause : Mismatch)
deriving Repr

namespace Mismatch

/-- What is wrong, with the way to the place where it is. -/
def message : Mismatch → String
  | expected what => "expected " ++ what
  | missing => "missing"
  | inField name cause => name ++ ": " ++ cause.message
  | inItem position cause => s!"item {position}: " ++ cause.message

end Mismatch

/-- A way to read values of a type. -/
abbrev Reader (α : Type) := Document → Except Mismatch α

namespace Reader

/-- Integers of a range. A number written with a point is not one. -/
def integer (least greatest : Int) : Reader Int
  | .integer value =>
    if least ≤ value ∧ value ≤ greatest then .ok value
    else .error (.expected s!"an integer from {least} to {greatest}")
  | _ => .error (.expected "an integer")

/-- Natural numbers below a power of two. -/
def natural (bits : Nat) : Reader Nat := fun document =>
  (integer 0 (Nat.pow 2 bits - 1 : Nat) document).map Int.toNat

/-- Signed integers of a number of bits. -/
def signed (bits : Nat) : Reader Int :=
  integer (-(Nat.pow 2 (bits - 1) : Nat)) (Nat.pow 2 (bits - 1) - 1 : Nat)

/-- Numbers, whether they are written with a point or without. -/
def float : Reader Float
  | .float value => .ok value
  | .integer value => .ok (Float.ofInt value)
  | _ => .error (.expected "a number")

def boolean : Reader Bool
  | .boolean value => .ok value
  | _ => .error (.expected "true or false")

def text : Reader String
  | .text value => .ok value
  | _ => .error (.expected "a text")

/-- The value with a name. -/
def ofName {α : Type} [Named α] (name : String) : Except Mismatch α :=
  match Named.ofName? name with
  | some value => .ok value
  | none => .error (.expected "a known name")

/-- The values of a type that are written as names. A table with one entry stands for the name of
the entry if there is nothing under it; what counts as nothing depends on the format. -/
def named {α : Type} [Named α] (isNothing : Document → Bool) : Reader α
  | .text name => ofName name
  | .table [(name, content)] =>
    if isNothing content then ofName name else .error (.expected "nothing under a name")
  | _ => .error (.expected "a name")

/-- A value or its absence. -/
def optional {α : Type} (reader : Reader α) : Reader (Option α)
  | .null => .ok none
  | document => (reader document).map some

/-- Reads the items of a list, of which the first has the given position. -/
def items {α : Type} (reader : Reader α) : Nat → List Document → Except Mismatch (List α)
  | _, [] => .ok []
  | position, document :: rest => do
    let first ← (reader document).mapError (Mismatch.inItem position)
    let others ← items reader (position + 1) rest
    return first :: others

def list {α : Type} (reader : Reader α) : Reader (List α)
  | .list documents => items reader 0 documents
  | _ => .error (.expected "a list")

/-- What a name stands for, where only some names stand for something. -/
def chosen {α : Type} (choice : String → Option α) : Reader α
  | .text name =>
    match choice name with
    | some value => .ok value
    | none => .error (.expected "a known name")
  | _ => .error (.expected "a name")

end Reader

/-! ### Records -/

/-- What the fields of a record are read from: the entries of a table, which have the names of the
fields, or the items of a list, which stand in the order of the fields. -/
inductive Fields
  | named (entries : Table)
  | inOrder (items : List Document)

namespace Fields

/-- What a field is read from. -/
def get? : Fields → (position : Nat) → (name : String) → Option Document
  | named entries, _, name => entries.get? name
  | inOrder items, position, _ => items[position]?

/-- A field that must be there. -/
def required {α : Type} (fields : Fields) (position : Nat) (name : String) (reader : Reader α) :
    Except Mismatch α :=
  match fields.get? position name with
  | none => .error (.inField name .missing)
  | some document => (reader document).mapError (Mismatch.inField name)

/-- A field that has a standard value where it is left out. -/
def withStandard {α : Type} (fields : Fields) (position : Nat) (name : String) (standard : α)
    (reader : Reader α) : Except Mismatch α :=
  match fields.get? position name with
  | none => .ok standard
  | some document => (reader document).mapError (Mismatch.inField name)

/-- A field that may be empty. Only a table may leave it out. -/
def optional {α : Type} (fields : Fields) (position : Nat) (name : String) (reader : Reader α) :
    Except Mismatch (Option α) :=
  match fields with
  | named _ => fields.withStandard position name none reader.optional
  | inOrder _ => fields.required position name reader.optional

/-- The fields after the first one. Those of a table are found by their names all the same. -/
def afterFirst : Fields → Fields
  | named entries => named entries
  | inOrder items => inOrder items.tail

/-- Refuses items after those of a number of fields. -/
def refuseMore (fields : Fields) (count : Nat) : Except Mismatch Unit :=
  match fields with
  | named _ => .ok ()
  | inOrder items =>
    if items.length ≤ count then .ok () else .error (.expected s!"a list of {count} items")

end Fields

/-- Records. A moment counts as a table whose entries have no names that matter here. -/
def Reader.fields : Reader Fields
  | .table entries => .ok (.named entries)
  | .moment _ => .ok (.named [])
  | .list items => .ok (.inOrder items)
  | _ => .error (.expected "a table")

/-- Values of several kinds. The first field names the kind, which says how the others are read. -/
def Reader.tagged {α : Type} (tag : String)
    (kindReader? : String → Option (Fields → Except Mismatch α)) : Reader α := fun document => do
  let fields ← Reader.fields document
  let read ← fields.required 0 tag (.chosen kindReader?)
  read fields.afterFirst

/-! ### Writing -/

/-- The document of a natural number. -/
def natural (value : Nat) : Document := integer value

/-- The document of a value that is written as a name. -/
def named {α : Type} [Named α] (value : α) : Document := text (Named.name value)

/-- The document of a value or its absence. -/
def optional {α : Type} (write : α → Document) : Option α → Document
  | none => null
  | some value => write value

end Document

end CollectivePerception
