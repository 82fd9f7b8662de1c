/-
This file says what is expected of a format for documents: a table that has been written is read
again as the same table (`Document.Format.KeepsTables`). Tables are the same if they have the same
values under the same names, in whatever order (`Document.Same`). Nothing is expected but of simple
tables (`Toml.Writable`), and nothing is said of the text in between.
-/

import CollectivePerception.Binary64
import CollectivePerception.Document.Format
import Mathlib.Data.List.Forall2

namespace CollectivePerception

open Document (Table)

/-! ### The order of entries -/

/-- Two documents have the same values at the same places, where the order of the entries of a
table does not matter. -/
inductive Document.Same : Document → Document → Prop
  | value (document : Document) : Same document document
  | list {items others : List Document} (each : List.Forall₂ Same items others) :
    Same (.list items) (.list others)
  | table {entries others : Table}
      (each : ∀ name, Option.Rel Same (entries.get? name) (others.get? name)) :
      Same (.table entries) (.table others)

namespace Document

variable {document : Document}

theorem Same.of_list {items : List Document} (same : Same (.list items) document) :
    ∃ others, document = .list others ∧ List.Forall₂ Same items others := by
  cases same with
  | value => exact ⟨items, rfl, List.forall₂_same.mpr fun item _ => .value item⟩
  | list each => exact ⟨_, rfl, each⟩

theorem Same.of_table {entries : Table} (same : Same (.table entries) document) :
    ∃ others : Table, document = .table others ∧
      ∀ name, Option.Rel Same (entries.get? name) (others.get? name) := by
  cases same with
  | value =>
    refine ⟨entries, rfl, fun name => ?_⟩
    cases entries.get? name with
    | none => exact .none
    | some found => exact .some (.value found)
  | table each => exact ⟨_, rfl, each⟩

end Document

/-! ### Simple tables -/

namespace Toml

/-- A name of letters, digits, dashes and underscores, which needs no quotes. -/
def IsBare (name : String) : Prop :=
  name.toList ≠ [] ∧ name.toList.all (fun c => c.isAlphanum || c == '-' || c == '_') = true

instance (name : String) : Decidable (IsBare name) :=
  inferInstanceAs (Decidable (_ ∧ _))

/-- The values that are written on one line. Texts are names here, which need no escapes. -/
inductive Inline : Document → Prop
  | boolean (value : Bool) : Inline (.boolean value)
  | integer {value : Int} (least : Binary64.leastInt64 ≤ value)
      (greatest : value ≤ Binary64.greatestInt64) : Inline (.integer value)
  | float {value : Float} (number : value.isNaN = false) : Inline (.float value)
  | text {name : String} (bare : IsBare name) : Inline (.text name)
  | empty : Inline (.list [])

/-- A value that can be written, if tables can that have a property. -/
inductive WritableValue (inner : Table → Prop) : Document → Prop
  | plain {value : Document} (inline : Inline value) : WritableValue inner value
  | table {table : Table} (writable : inner table) : WritableValue inner (.table table)
  | tables {first : Table} {others : List Table} (each : ∀ table ∈ first :: others, inner table) :
    WritableValue inner (.list ((first :: others).map .table))

/-- A table of values that can be written. -/
structure WritableTable (inner : Table → Prop) (table : Table) : Prop where
  distinct : (table.map Prod.fst).Nodup
  bare : ∀ entry ∈ table, IsBare entry.1
  each : ∀ entry ∈ table, WritableValue inner entry.2

/-- A table that can be written, and in which tables are nested less than `depth` deep. -/
def Writable : (depth : Nat) → Table → Prop
  | 0 => fun _ => False
  | depth + 1 => WritableTable (Writable depth)

theorem writableTable_nil {inner : Table → Prop} : WritableTable inner [] where
  distinct := List.nodup_nil
  bare := nofun
  each := nofun

end Toml

/-! ### Formats -/

/-- Simple tables, nested less than `depth` deep, are written and read again as they were. -/
def Document.Format.KeepsTables (format : Document.Format) (depth : Nat) : Prop :=
  ∀ table, Toml.Writable depth table →
    ∃ text again, format.write table = .ok text ∧ format.read text = .ok again ∧
      Document.Same (.table table) (.table again)

end CollectivePerception
