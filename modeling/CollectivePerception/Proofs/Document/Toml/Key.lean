/-
This file proves that the keys of a TOML document are read as they were written. A key of letters,
digits, dashes and underscores needs no quotes, and points separate the parts of the path in a
header.
-/

import CollectivePerception.Document.Toml.Text
import CollectivePerception.Document.Toml.Writing
import CollectivePerception.Proofs.Document.Format
import Mathlib.Data.List.TakeDrop

namespace CollectivePerception.Toml

/-! ### Names without quotes -/

section

variable {name : String} {c : Char} {rest : List Char}

theorem ne_of_isKeyCharacter {other : Char} (inKey : isKeyCharacter c = true)
    (notInKey : isKeyCharacter other = false) : c ≠ other := by
  rintro rfl
  exact Bool.false_ne_true (notInKey.symm.trans inKey)

theorem IsBare.all_isKeyCharacter (bare : IsBare name) :
    name.toList.all isKeyCharacter = true :=
  bare.2

/-- A name without quotes starts with a character of a key. -/
theorem IsBare.exists_cons (bare : IsBare name) :
    ∃ first others, name.toList = first :: others ∧ isKeyCharacter first = true := by
  have each := bare.all_isKeyCharacter
  cases characters : name.toList with
  | nil => exact absurd characters bare.1
  | cons first others =>
    rw [characters, List.all_cons, Bool.and_eq_true] at each
    exact ⟨first, others, rfl, each.1⟩

theorem IsBare.renderKey_eq (bare : IsBare name) : renderKey name = name := by
  have nonempty : name.isEmpty = false := by
    rw [← Bool.not_eq_true, String.isEmpty_iff]
    rintro rfl
    exact bare.1 rfl
  rw [renderKey, nonempty, String.all_bool_eq, bare.all_isKeyCharacter]
  rfl

theorem skipBlanks_of_not_blank (notBlank : isBlank c = false) :
    skipBlanks (c :: rest) = c :: rest := by
  rw [skipBlanks, List.dropWhile_cons_of_neg (by rw [notBlank]; exact Bool.false_ne_true)]

theorem isBlank_of_isKeyCharacter (inKey : isKeyCharacter c = true) : isBlank c = false := by
  rw [isBlank, Bool.or_eq_false_iff, beq_eq_false_iff_ne, beq_eq_false_iff_ne]
  exact ⟨ne_of_isKeyCharacter inKey rfl, ne_of_isKeyCharacter inKey rfl⟩

/-- A part of a key is read up to the first character that belongs to no key. -/
theorem IsBare.readKeyPart_eq (bare : IsBare name) (ends : isKeyCharacter c = false) :
    readKeyPart (name.toList ++ c :: rest) = some (name, c :: rest) := by
  obtain ⟨first, others, characters, inKey⟩ := bare.exists_cons
  have each := List.all_eq_true.mp bare.all_isKeyCharacter
  have stop : ¬isKeyCharacter c = true := by
    rw [ends]
    exact Bool.false_ne_true
  have split : (name.toList ++ c :: rest).span isKeyCharacter = (name.toList, c :: rest) := by
    rw [List.span_eq_takeWhile_dropWhile, List.takeWhile_append_of_pos each,
      List.dropWhile_append_of_pos each, List.takeWhile_cons_of_neg stop,
      List.dropWhile_cons_of_neg stop, List.append_nil]
  rw [readKeyPart, split]
  · rw [characters]
    dsimp only
    rw [← characters, String.ofList_toList]
  · rw [characters]
    exact fun _ same => ne_of_isKeyCharacter inKey rfl (List.cons.inj same).1
  · rw [characters]
    exact fun _ same => ne_of_isKeyCharacter inKey rfl (List.cons.inj same).1

theorem IsBare.skipBlanks_eq (bare : IsBare name) :
    skipBlanks (name.toList ++ rest) = name.toList ++ rest := by
  obtain ⟨first, others, characters, inKey⟩ := bare.exists_cons
  rw [characters]
  exact skipBlanks_of_not_blank (isBlank_of_isKeyCharacter inKey)

/-! ### Keys -/

section

variable {fuel : Nat} {after : List Char}

/-- The last part of a key is read if no point follows it. -/
theorem readKeyParts_last (bare : IsBare name) (ends : isKeyCharacter c = false)
    (skipped : skipBlanks (c :: rest) = after) (point : ∀ tail, after ≠ '.' :: tail) :
    readKeyParts (fuel + 1) (name.toList ++ c :: rest) = some ([name], after) := by
  rw [readKeyParts, bare.skipBlanks_eq, bare.readKeyPart_eq ends]
  simp only [Option.bind_eq_bind, Option.bind_some, skipped]
  rfl

/-- After any other part the rest of the key is read. -/
theorem readKeyParts_cons {parts : List String} (bare : IsBare name)
    (read : readKeyParts fuel rest = some (parts, after)) :
    readKeyParts (fuel + 1) (name.toList ++ '.' :: rest) = some (name :: parts, after) := by
  rw [readKeyParts, bare.skipBlanks_eq, bare.readKeyPart_eq rfl]
  show (readKeyParts fuel rest).bind _ = _
  rw [read]
  rfl

end

/-- The key of a line that gives a name its value. -/
theorem readKey_of_isBare (bare : IsBare name) :
    readKey (name.toList ++ ' ' :: '=' :: rest) = some (⟨[], name⟩, '=' :: rest) := by
  have read : readKeyParts (depthLimit - 1) (name.toList ++ ' ' :: '=' :: rest) =
      some ([name], '=' :: rest) := readKeyParts_last bare rfl rfl nofun
  rw [readKey, read]
  rfl

/-- A path of several parts is written part by part. -/
theorem renderPath_cons {path : List String} {part : String} (first : IsBare part) :
    (renderPath (part :: (path ++ [name]))).toList =
      part.toList ++ '.' :: (renderPath (path ++ [name])).toList := by
  rw [renderPath, List.map_cons, String.intercalate_cons_of_ne_nil (by simp), first.renderKey_eq,
    String.toList_append, String.toList_append, List.append_assoc]
  rfl

theorem renderPath_singleton (bare : IsBare name) : renderPath [name] = name := by
  rw [renderPath, List.map_singleton, String.intercalate_singleton, bare.renderKey_eq]

/-- A written path starts with a character of a key. -/
theorem renderPath_exists_cons {path : List String} (each : ∀ part ∈ path, IsBare part)
    (bare : IsBare name) :
    ∃ first others, (renderPath (path ++ [name])).toList = first :: others ∧
      isKeyCharacter first = true := by
  cases path with
  | nil =>
    rw [List.nil_append, renderPath_singleton bare]
    exact bare.exists_cons
  | cons part path =>
    have first := each part List.mem_cons_self
    obtain ⟨c, others, characters, inKey⟩ := first.exists_cons
    exact ⟨c, _, by rw [List.cons_append, renderPath_cons first, characters, List.cons_append],
      inKey⟩

/-- The path in a header is read up to the bracket after it. -/
theorem readKeyParts_renderPath {path : List String} {fuel : Nat}
    (each : ∀ part ∈ path, IsBare part) (bare : IsBare name) (short : path.length < fuel) :
    readKeyParts fuel ((renderPath (path ++ [name])).toList ++ ']' :: rest) =
      some (path ++ [name], ']' :: rest) := by
  induction path generalizing fuel with
  | nil =>
    obtain ⟨fuel, rfl⟩ := Nat.exists_eq_succ_of_ne_zero (Nat.ne_of_gt short)
    rw [List.nil_append, renderPath_singleton bare]
    exact readKeyParts_last bare rfl rfl nofun
  | cons part path inductionHypothesis =>
    obtain ⟨fuel, rfl⟩ := Nat.exists_eq_succ_of_ne_zero (Nat.ne_of_gt (Nat.zero_lt_of_lt short))
    have first := each part List.mem_cons_self
    rw [List.cons_append, renderPath_cons first, List.append_assoc, List.cons_append]
    exact readKeyParts_cons first <|
      inductionHypothesis (fun part member => each part (List.mem_cons_of_mem _ member))
        (Nat.lt_of_succ_lt_succ short)

/-- The key in a header. -/
theorem readKey_renderPath {path : List String} (each : ∀ part ∈ path, IsBare part)
    (bare : IsBare name) (short : path.length < depthLimit - 1) :
    readKey ((renderPath (path ++ [name])).toList ++ ']' :: rest) =
      some (⟨path, name⟩, ']' :: rest) := by
  rw [readKey, readKeyParts_renderPath each bare short]
  simp

end

end CollectivePerception.Toml
