/-
This file defines the two formats that a program's log may have, and how a variable
chooses between them.
-/

namespace CollectivePerception

inductive LogFormat
  | compact
  | json
deriving DecidableEq, Repr, Inhabited

namespace LogFormat

/-- The characters that count as blank around a value. -/
def isBlank (c : Char) : Bool :=
  let code := c.toNat
  (9 ≤ code && code ≤ 13) || code == 0x20 || code == 0x85 || code == 0xa0 || code == 0x1680 ||
    (0x2000 ≤ code && code ≤ 0x200a) || code == 0x2028 || code == 0x2029 || code == 0x202f ||
    code == 0x205f || code == 0x3000

/-- A text without the blanks around it. -/
def trimmed (text : List Char) : List Char :=
  ((text.dropWhile isBlank).reverse.dropWhile isBlank).reverse

/-- The format that a variable asks for: JSON if its value is that word, with blanks
around it and in any case, and otherwise the compact format. -/
def ofVariable (value : Option String) : LogFormat :=
  let asksForJson := value.any fun text =>
    (trimmed text.toList).map Char.toLower == ['j', 's', 'o', 'n']
  if asksForJson then json else compact

end LogFormat

end CollectivePerception
