/-
This file defines what the program needs of a library for a text format of documents: to
read the document that a text stands for, and to write a document as a text. What the
library does with a text is its own affair, and so is what it says if something is wrong.
-/

import CollectivePerception.Document

namespace CollectivePerception.Document

/-- A text format, as a library provides it. -/
structure Format where
  /-- The table that a text stands for. -/
  read : (text : String) → Except String Table
  /-- A text that stands for a table. -/
  write : Table → Except String String
  /-- What is said of a text whose table does not describe a value. -/
  explain : (text : String) → Mismatch → String

end CollectivePerception.Document
