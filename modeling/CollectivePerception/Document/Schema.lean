/-
This file describes the shape of a document by an example: which entries its tables have
and of which kind they are, with the example's values as the standard ones. It is an
outline, not the text of a library for schemas.
-/

import CollectivePerception.Document

namespace CollectivePerception.Document

mutual

/-- The schema of the documents that are shaped like an example. -/
def schema : Document → Document
  | .null => .table [("type", .text "null")]
  | .boolean value => .table [("type", .text "boolean"), ("default", .boolean value)]
  | .integer value => .table [("type", .text "integer"), ("default", .integer value)]
  | .float value => .table [("type", .text "number"), ("default", .float value)]
  | .text value => .table [("type", .text "string"), ("default", .text value)]
  | .moment value => .table [("type", .text "string"), ("default", .text value)]
  | .list _ => .table [("type", .text "array"), ("default", .list [])]
  | .table entries =>
    .table [("type", .text "object"), ("properties", .table (propertySchemas entries))]

/-- The schemas of the entries of a table. -/
def propertySchemas : List (String × Document) → List (String × Document)
  | [] => []
  | (key, value) :: rest => (key, schema value) :: propertySchemas rest

end

end CollectivePerception.Document
