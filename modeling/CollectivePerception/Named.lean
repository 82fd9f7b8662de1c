/-
This file defines types whose values have fixed names, as documents and messages
write them. A name is read by searching the list of all values, so reading accepts
exactly the names that writing produces.
-/

namespace CollectivePerception

/-- A finite type whose values are written as names. -/
class Named (α : Type) where
  name : α → String
  all : List α

/-- The first value with the given name. -/
def Named.ofName? {α : Type} [Named α] (name : String) : Option α :=
  (Named.all : List α).find? fun value => Named.name value == name

end CollectivePerception
