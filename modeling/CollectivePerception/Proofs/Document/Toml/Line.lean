/-
This file says what the lines of a written TOML document do: an empty line does nothing, a line
with a name and a value gives the name its value in the table of the last header, and a header
opens a table or one more table of a list. A text is taken line by line (`Progress.Takes`), and a
document whose lines are all taken is read (`Progress.readLines_of_takes`).
-/

import CollectivePerception.Proofs.Document.Toml.Value

namespace CollectivePerception.Toml.Progress

/-! ### Texts line by line -/

/-- Taking a line, whatever follows it, leads from one progress to another. -/
def TakesLine (progress : Progress) (line : String) (next : Progress) : Prop :=
  ∀ rest, progress.readLine ((line ++ "\n").toList ++ rest) = some (next, rest)

/-- Taking the lines of a text, whatever follows them, leads from one progress to another. -/
inductive Takes : Progress → List Char → Progress → Prop
  | nothing (progress : Progress) : Takes progress [] progress
  | line {progress next last : Progress} {line more : List Char} (some : line ≠ [])
      (read : ∀ rest, progress.readLine (line ++ rest) = .some (next, rest))
      (others : Takes next more last) : Takes progress (line ++ more) last

section

variable {progress next last : Progress} {line first second : List Char}

theorem Takes.one (some : line ≠ [])
    (read : ∀ rest, progress.readLine (line ++ rest) = .some (next, rest)) :
    Takes progress line next :=
  List.append_nil line ▸ Takes.line some read (.nothing next)

theorem TakesLine.takes {line : String} (takes : TakesLine progress line next) :
    Takes progress (line ++ "\n").toList next := by
  refine .one ?_ takes
  rw [String.toList_append]
  exact List.append_ne_nil_of_right_ne_nil _ (List.cons_ne_nil _ _)

theorem Takes.append (one : Takes progress first next) (two : Takes next second last) :
    Takes progress (first ++ second) last := by
  induction one with
  | nothing => exact two
  | line some read _ inductionHypothesis =>
    rw [List.append_assoc]
    exact .line some read (inductionHypothesis two)

theorem Takes.eq_of_empty (takes : Takes progress first last) (empty : first = []) :
    last = progress := by
  cases takes with
  | nothing => rfl
  | line some => exact absurd (List.append_eq_nil_iff.mp empty).1 some

/-- A text of which the first line is taken has no mark of a byte order in front. -/
theorem Takes.withoutMark_eq (takes : Takes progress first last) : withoutMark first = first := by
  cases takes with
  | nothing => rfl
  | line some read _ =>
    obtain ⟨c, characters, rfl⟩ := List.exists_cons_of_ne_nil some
    rw [List.cons_append, withoutMark]
    intro rest same
    obtain ⟨rfl, -⟩ := List.cons.inj same
    exact nomatch read []

/-- A text of which every line is taken is read, for there are no more lines than characters. -/
theorem readLines_of_takes {fuel : Nat} (takes : Takes progress first last)
    (enough : first.length ≤ fuel) : progress.readLines fuel first = some last.entries := by
  induction takes generalizing fuel with
  | nothing => cases fuel <;> rfl
  | @line progress next last line more some read others inductionHypothesis =>
    obtain ⟨c, characters, rfl⟩ := List.exists_cons_of_ne_nil some
    rw [List.length_append, List.length_cons] at enough
    obtain ⟨fuel, rfl⟩ := Nat.exists_eq_succ_of_ne_zero (show fuel ≠ 0 by omega)
    have taken := read more
    rw [List.cons_append] at taken ⊢
    show (progress.readLine (c :: (characters ++ more))).bind _ = _
    rw [taken]
    exact inductionHypothesis (by omega)

end

/-! ### Blocks of lines -/

/-- Taking blocks of lines, one after the other, leads from one progress to another. -/
inductive TakesBlocks : Progress → List String → Progress → Prop
  | nothing (progress : Progress) : TakesBlocks progress [] progress
  | block {progress next last : Progress} {block : String} {more : List String}
      (takes : Takes progress block.toList next) (others : TakesBlocks next more last) :
      TakesBlocks progress (block :: more) last

section

variable {progress next last : Progress} {first second blocks : List String}

theorem TakesBlocks.append (one : TakesBlocks progress first next)
    (two : TakesBlocks next second last) : TakesBlocks progress (first ++ second) last := by
  induction one with
  | nothing => exact two
  | block takes _ inductionHypothesis => exact .block takes (inductionHypothesis two)

/-- An empty line separates two blocks. -/
theorem TakesBlocks.takes (takes : TakesBlocks progress blocks last) :
    Takes progress ("\n".intercalate blocks).toList last := by
  induction takes with
  | nothing => exact .nothing _
  | @block progress next last block more takes others inductionHypothesis =>
    cases others with
    | nothing => rwa [String.intercalate_singleton]
    | block =>
      rw [String.intercalate_cons_of_ne_nil (List.cons_ne_nil _ _), String.toList_append,
        String.toList_append]
      have separated : Takes next ['\n'] next :=
        .one (List.cons_ne_nil _ _) fun rest => rfl
      exact (takes.append separated).append inductionHypothesis

end

/-! ### Lines -/

section

variable {progress : Progress} {name : String} {path : List String} {entries : Entries}
  {rest : List Char}

theorem afterLine?_newline : afterLine? ('\n' :: rest) = some rest := rfl

/-- A line that starts with a character of a key gives a name a value. -/
theorem readLine_of_isKeyCharacter {first : Char} (inKey : isKeyCharacter first = true) :
    progress.readLine (first :: rest) = progress.readAssignment (first :: rest) := by
  have notEmpty : startsEmptyLine (first :: rest) = false := by
    simp only [startsEmptyLine, Bool.or_eq_false_iff, beq_eq_false_iff_ne]
    exact ⟨⟨ne_of_isKeyCharacter inKey rfl, ne_of_isKeyCharacter inKey rfl⟩,
      ne_of_isKeyCharacter inKey rfl⟩
  have noHeader : first ≠ '[' := ne_of_isKeyCharacter inKey rfl
  simp only [readLine, skipBlanks_of_not_blank (isBlank_of_isKeyCharacter inKey), notEmpty,
    Bool.false_eq_true, if_false]
  split
  · rename_i same
    exact absurd (List.cons.inj same).1 noHeader
  · rename_i same
    exact absurd (List.cons.inj same).1 noHeader
  · rfl

/-- A line with a name and a value. -/
theorem takesLine_pair {text : String} {value : Document} (bare : IsBare name)
    (read : ∀ fuel depth rest,
      readValue (fuel + 2) (depth + 1) (skipBlanks (' ' :: (text.toList ++ '\n' :: rest))) =
        some (value, '\n' :: rest))
    (assigned : progress.entries.assign progress.header [] name value = some entries) :
    progress.TakesLine (renderKey name ++ " = " ++ text)
      { progress with entries := entries } := by
  intro rest
  have line : (renderKey name ++ " = " ++ text ++ "\n").toList ++ rest =
      name.toList ++ ' ' :: '=' :: ' ' :: (text.toList ++ '\n' :: rest) := by
    simp [bare.renderKey_eq]
  rw [line]
  obtain ⟨first, others, characters, inKey⟩ := bare.exists_cons
  have key : readKey (name.toList ++ ' ' :: '=' :: ' ' :: (text.toList ++ '\n' :: rest)) = _ :=
    readKey_of_isBare bare
  rw [characters, List.cons_append] at key ⊢
  rw [readLine_of_isKeyCharacter inKey, readAssignment, key]
  have value := read ((text.toList ++ '\n' :: rest).length) (depthLimit - 2) rest
  simp only [Option.bind_eq_bind, Option.bind_some]
  rw [show (' ' :: (text.toList ++ '\n' :: rest)).length + 1 =
      (text.toList ++ '\n' :: rest).length + 2 from rfl,
    show depthLimit - 1 = depthLimit - 2 + 1 from rfl, value]
  simp only [Option.bind_some, afterLine?_newline, assigned]
  rfl

/-- A line that opens a table. -/
theorem takesLine_header (each : ∀ part ∈ path, IsBare part) (bare : IsBare name)
    (short : path.length < depthLimit - 1)
    (opened : progress.entries.openTable path name = some entries) :
    progress.TakesLine ("[" ++ renderPath (path ++ [name]) ++ "]") ⟨path ++ [name], entries⟩ := by
  intro rest
  have line : ("[" ++ renderPath (path ++ [name]) ++ "]" ++ "\n").toList ++ rest =
      '[' :: ((renderPath (path ++ [name])).toList ++ ']' :: '\n' :: rest) := by
    simp
  rw [line]
  have key : readKey ((renderPath (path ++ [name])).toList ++ ']' :: '\n' :: rest) = _ :=
    readKey_renderPath each bare short
  obtain ⟨first, others, characters, inKey⟩ := renderPath_exists_cons each bare
  rw [characters, List.cons_append] at key ⊢
  have noElement : first ≠ '[' := ne_of_isKeyCharacter inKey rfl
  have read : progress.readLine ('[' :: first :: (others ++ ']' :: '\n' :: rest)) =
      progress.readHeader (first :: (others ++ ']' :: '\n' :: rest)) := by
    have notBlank : skipBlanks ('[' :: first :: (others ++ ']' :: '\n' :: rest)) =
        '[' :: first :: (others ++ ']' :: '\n' :: rest) := rfl
    have notEmpty : startsEmptyLine ('[' :: first :: (others ++ ']' :: '\n' :: rest)) = false := rfl
    simp only [readLine, notBlank, notEmpty, Bool.false_eq_true, if_false]
    split
    · rename_i same
      exact absurd (List.cons.inj (List.cons.inj same).2).1 noElement
    · rename_i same
      rw [(List.cons.inj same).2]
    · rename_i noHeader
      exact (noHeader _ rfl).elim
  rw [read, readHeader, key]
  show (progress.entries.openTable path name).bind _ = _
  rw [opened]
  rfl

/-- A line that opens one more table of a list. -/
theorem takesLine_elementHeader (each : ∀ part ∈ path, IsBare part) (bare : IsBare name)
    (short : path.length < depthLimit - 1)
    (opened : progress.entries.openElement path name = some entries) :
    progress.TakesLine ("[[" ++ renderPath (path ++ [name]) ++ "]]")
      ⟨path ++ [name], entries⟩ := by
  intro rest
  have line : ("[[" ++ renderPath (path ++ [name]) ++ "]]" ++ "\n").toList ++ rest =
      '[' :: '[' :: ((renderPath (path ++ [name])).toList ++ ']' :: ']' :: '\n' :: rest) := by
    simp
  rw [line]
  have key : readKey ((renderPath (path ++ [name])).toList ++ ']' :: ']' :: '\n' :: rest) = _ :=
    readKey_renderPath each bare short
  show progress.readElementHeader _ = _
  rw [readElementHeader, key]
  show (progress.entries.openElement path name).bind _ = _
  rw [opened]
  rfl

end

end CollectivePerception.Toml.Progress
