/-
This file proves that a TOML document is read as it was written, but for the order of the entries:
the plain values of every table come first (`format_keepsTables`). What can be written are tables
of values on one line, of tables, and of lists of tables, all with distinct names that need no
quotes (`Writable`). The proof goes by the depth of the tables. The content of a table is taken
wherever the table lies, and so is the content of the tables in it, whose headers lead to them.
-/

import CollectivePerception.Document.Toml.Format
import CollectivePerception.Proofs.Document.Toml.Line
import CollectivePerception.Proofs.Document.Toml.Tree

namespace CollectivePerception.Toml

open Document (Table)
open Entries (Reaches part ofTable)
open Progress (Takes TakesBlocks)

/-! ### Documents that can be written -/

theorem WritableValue.imp {inner weaker : Table → Prop} (imp : ∀ table, inner table → weaker table)
    {value : Document} (writable : WritableValue inner value) : WritableValue weaker value := by
  cases writable with
  | plain inline => exact .plain inline
  | table writable => exact .table (imp _ writable)
  | tables each => exact .tables fun table member => imp table (each table member)

theorem WritableTable.head {inner : Table → Prop} {entry : String × Document} {rest : Table}
    (writable : WritableTable inner (entry :: rest)) :
    entry.1 ∉ rest.map Prod.fst ∧ IsBare entry.1 ∧ WritableValue inner entry.2 :=
  ⟨(List.nodup_cons.mp writable.distinct).1, writable.bare entry (.head _),
    writable.each entry (.head _)⟩

theorem WritableTable.tail {inner : Table → Prop} {entry : String × Document} {rest : Table}
    (writable : WritableTable inner (entry :: rest)) : WritableTable inner rest where
  distinct := (List.nodup_cons.mp writable.distinct).2
  bare other member := writable.bare other (.tail _ member)
  each other member := writable.each other (.tail _ member)

theorem WritableTable.imp {inner weaker : Table → Prop}
    (imp : ∀ table, inner table → weaker table) {table : Table}
    (writable : WritableTable inner table) : WritableTable weaker table :=
  { writable with each := fun entry member => (writable.each entry member).imp imp }

theorem Inline.isSection_eq {value : Document} (inline : Inline value) :
    isSection value = false := by
  cases inline <;> rfl

theorem Inline.ofDocument_eq {value : Document} (inline : Inline value) :
    Node.ofDocument value = .value value := by
  cases inline <;> rfl

/-! ### Values -/

/-- The lines of the values of a table. -/
def lines (pairs : List String) : List Char := (String.join (pairs.map (· ++ "\n"))).toList

section

variable {inner : Table → Prop} {table : Table} {path : List String} {put : Entries → Entries}
  {before : Entries} {name : String}

theorem part_cons (sections : Bool) (entry : String × Document) (rest : Table) :
    part sections (entry :: rest) = part sections [entry] ++ part sections rest := by
  rw [part, part]
  split <;> rfl

/-- The first entry of a table has another name than those after it. -/
theorem get?_part_first {entry other : String × Document} {rest : Table} {sections : Bool}
    (distinct : entry.1 ∉ rest.map Prod.fst) (member : other ∈ rest) :
    (part sections [entry]).get? other.1 = none :=
  Entries.get?_part_of_absent fun same =>
    distinct (List.mem_map.mpr ⟨other, member, List.mem_singleton.mp same⟩)

/-- The names in a part of a table are new among other entries. -/
def IsNew (sections : Bool) (table : Table) (before : Entries) : Prop :=
  ∀ entry ∈ table, isSection entry.2 = sections → before.get? entry.1 = none

/-- They are still new after the first entry of the table has been added. -/
theorem IsNew.tail {entry : String × Document} {rest : Table} {sections added : Bool}
    (new : IsNew sections (entry :: rest) before) (distinct : entry.1 ∉ rest.map Prod.fst) :
    IsNew sections rest (before ++ part added [entry]) := by
  intro other member kind
  rw [Entries.get?_append, new other (.tail _ member) kind, Option.none_or,
    get?_part_first distinct member]

/-- The tables in a table have other names than its plain values. -/
theorem isNew_part (distinct : (table.map Prod.fst).Nodup) :
    IsNew true table (part false table) := by
  induction table with
  | nil => exact nofun
  | cons entry rest inductionHypothesis =>
    rw [List.map_cons, List.nodup_cons] at distinct
    intro other member kind
    rw [part_cons, Entries.get?_append]
    cases member with
    | head =>
      rw [part, kind, Entries.get?_part_of_absent distinct.1]
      rfl
    | tail _ member =>
      rw [get?_part_first distinct.1 member, Option.none_or,
        inductionHypothesis distinct.2 other member kind]

theorem lines_cons (pair : String) (pairs : List String) :
    lines (pair :: pairs) = (pair ++ "\n").toList ++ lines pairs := by
  rw [lines, List.map_cons, String.join_cons, String.toList_append]
  rfl

/-- A value that gets no header stands on one line. -/
theorem WritableValue.inline {value : Document} (writable : WritableValue inner value)
    (plain : isSection value = false) : Inline value := by
  cases writable with
  | plain inline => exact inline
  | table => cases plain
  | @tables first others =>
    rw [isSection_tables] at plain
    cases plain

/-- The values of a table are added to it, one after the other. -/
theorem takes_pairs (reaches : Reaches path put) (writable : WritableTable inner table)
    (new : IsNew false table before) :
    ∃ pairs, renderPairs (table.filter fun entry => !isSection entry.2) = some pairs ∧
      Takes ⟨path, put before⟩ (lines pairs) ⟨path, put (before ++ part false table)⟩ := by
  induction table generalizing before with
  | nil => exact ⟨[], rfl, by rw [part, List.append_nil]; exact .nothing _⟩
  | cons entry rest inductionHypothesis =>
    obtain ⟨name, value⟩ := entry
    obtain ⟨distinct, bare, writableValue⟩ := writable.head
    rw [List.filter_cons]
    cases plain : isSection value with
    | true =>
      -- What gets a header of its own is left to the blocks after the lines.
      rw [part, plain]
      exact inductionHypothesis writable.tail fun entry member => new entry (.tail _ member)
    | false =>
      have inline := writableValue.inline plain
      have added : part false [(name, value)] = [(name, .value value)] := by
        rw [part, plain, ← inline.ofDocument_eq]
        rfl
      obtain ⟨text, rendered, read⟩ := inline.readValue_eq
      have line : Progress.TakesLine ⟨path, put before⟩ (renderKey name ++ " = " ++ text)
          ⟨path, put (before ++ part false [(name, value)])⟩ :=
        added ▸ Progress.takesLine_pair bare read
          (reaches.assign_eq (new (name, value) (.head _) plain))
      obtain ⟨pairs, written, taken⟩ :=
        inductionHypothesis writable.tail (new.tail distinct)
      refine ⟨(renderKey name ++ " = " ++ text) :: pairs, ?_, ?_⟩
      · show renderPairs ((name, value) :: _) = _
        rw [renderPairs, rendered, written]
        rfl
      · rw [lines_cons, part_cons, ← List.append_assoc]
        exact line.takes.append taken

end

/-! ### Tables -/

/-- The content of a table is written so that it is taken after the header of the table. -/
def IsTaken (depth : Nat) (table : Table) : Prop :=
  ∀ path put, (∀ name ∈ path, IsBare name) → path.length + depth < depthLimit → Reaches path put →
    ∃ pairs blocks header,
      renderPairs (table.filter fun entry => !isSection entry.2) = some pairs ∧
      renderSections path table = some blocks ∧
      Takes ⟨path, put []⟩ (lines pairs) ⟨path, put (part false table)⟩ ∧
      TakesBlocks ⟨path, put (part false table)⟩ blocks ⟨header, put (ofTable table)⟩

section

variable {depth : Nat} {table : Table} {path : List String} {put : Entries → Entries}
  {before : Entries} {name : String} {progress : Progress} {header : List String}

/-- After a header that leads to an empty table, the content of the table is taken. -/
theorem IsTaken.takesBlocks (taken : IsTaken depth table) (bare : ∀ name ∈ path, IsBare name)
    (room : path.length + depth < depthLimit) (reaches : Reaches path put) {line : String}
    (opens : progress.TakesLine line ⟨path, put []⟩) :
    ∃ block blocks header, renderBlock [line] table = some block ∧
      renderSections path table = some blocks ∧
      TakesBlocks progress (block :: blocks) ⟨header, put (ofTable table)⟩ := by
  obtain ⟨pairs, blocks, header, written, sections, own, inner⟩ :=
    taken path put bare room reaches
  refine ⟨_, blocks, header, by rw [renderBlock, written]; rfl, sections, .block ?_ inner⟩
  rw [List.singleton_append, List.map_cons, String.join_cons, String.toList_append]
  exact opens.takes.append own

/-- The tables of a list are taken, one after the other. -/
theorem takes_elements {tables : List Table} (reaches : Reaches path put)
    (absent : before.get? name = none) (bare : ∀ part ∈ path ++ [name], IsBare part)
    (room : path.length + 1 + depth < depthLimit) (each : ∀ table ∈ tables, IsTaken depth table)
    (header : List String) (older : List Entries) :
    ∃ blocks last, renderElements (path ++ [name]) (tables.map .table) = some blocks ∧
      TakesBlocks ⟨header, put (before.withTables name older)⟩ blocks
        ⟨last, put (before.withTables name ((tables.map ofTable).reverse ++ older))⟩ := by
  induction tables generalizing header older with
  | nil => exact ⟨[], header, by rw [List.map_nil, renderElements], .nothing _⟩
  | cons table tables inductionHypothesis =>
    have line : Progress.TakesLine ⟨header, _⟩ _ _ := Progress.takesLine_elementHeader
      (fun part member => bare part (List.mem_append_left _ member))
      (bare name (List.mem_append_right _ (.head _))) (by omega)
      (reaches.openElement_eq absent older)
    obtain ⟨block, blocks, next, own, inner, taken⟩ :=
      (each table (.head _)).takesBlocks bare (by rwa [List.length_append])
        (reaches.tables absent) line
    obtain ⟨others, last, written, rest⟩ :=
      inductionHypothesis (fun table member => each table (.tail _ member)) next
        (ofTable table :: older)
    refine ⟨block :: blocks ++ others, last, ?_, ?_⟩
    · rw [List.map_cons, renderElements, own, inner, written]
      rfl
    · rw [List.map_cons, List.reverse_cons, List.append_assoc, List.singleton_append]
      exact taken.append rest

/-- A table or a list of tables is taken; another value has no headers. -/
theorem takes_section {value : Document} (reaches : Reaches path put)
    (absent : isSection value = true → before.get? name = none)
    (bare : ∀ part ∈ path ++ [name], IsBare part)
    (room : path.length + 1 + depth < depthLimit)
    (writable : WritableValue (IsTaken depth) value) (header : List String) :
    ∃ blocks last, renderSections path [(name, value)] = some blocks ∧
      TakesBlocks ⟨header, put before⟩ blocks
        ⟨last, put (before ++ part true [(name, value)])⟩ := by
  cases writable with
  | plain inline =>
    refine ⟨[], header, ?_, ?_⟩
    · cases inline <;> simp [renderSections, isSection]
    · rw [part, inline.isSection_eq, part, if_neg (by decide), List.append_nil]
      exact .nothing _
  | @table table taken =>
    have line : Progress.TakesLine ⟨header, _⟩ _ _ := Progress.takesLine_header
      (fun part member => bare part (List.mem_append_left _ member))
      (bare name (List.mem_append_right _ (.head _))) (by omega)
      (reaches.openTable_eq (absent rfl))
    obtain ⟨block, blocks, last, own, inner, taken⟩ :=
      taken.takesBlocks bare (by rwa [List.length_append]) (reaches.table (absent rfl)) line
    refine ⟨block :: blocks ++ [], last, ?_, ?_⟩
    · rw [renderSections, own, inner, renderSections]
      rfl
    · rw [List.append_nil]
      exact taken
  | @tables first others each =>
    have written := isSection_tables first others
    obtain ⟨blocks, last, sections, taken⟩ :=
      takes_elements reaches (absent written) bare room each header []
    -- The list starts without tables, and each header makes another one its newest.
    have added : before.withTables name (((first :: others).map ofTable).reverse ++ []) =
        before ++ part true [(name, .list ((first :: others).map .table))] := by
      rw [part, written, if_pos (beq_self_eq_true _), part, Node.ofDocument, if_pos written,
        List.append_nil, Entries.ofItems_tables]
      cases newest : ((first :: others).map ofTable).reverse with
      | nil => cases List.reverse_eq_nil_iff.mp newest
      | cons newest older => rfl
    refine ⟨blocks ++ [], last, ?_, ?_⟩
    · rw [renderSections, if_pos written, sections, renderSections]
      rfl
    · rw [List.append_nil, ← added]
      exact taken

/-- The blocks of a table are those of its first entry and those of the others. -/
theorem renderSections_cons (path : List String) (entry : String × Document) (rest : Table) :
    renderSections path (entry :: rest) =
      (renderSections path [entry]).bind fun blocks =>
        (renderSections path rest).map (blocks ++ ·) := by
  obtain ⟨name, value⟩ := entry
  cases value with
  | list items =>
    by_cases written : isSection (.list items) = true <;>
      simp [renderSections, written, Option.map_eq_bind]
  | _ => simp [renderSections, Option.bind_assoc, Option.map_eq_bind]

/-- The tables and lists of tables in a table are taken, one after the other. -/
theorem takes_sections (reaches : Reaches path put) (bare : ∀ part ∈ path, IsBare part)
    (room : path.length + 1 + depth < depthLimit) (writable : WritableTable (IsTaken depth) table)
    (new : IsNew true table before) (header : List String) :
    ∃ blocks last, renderSections path table = some blocks ∧
      TakesBlocks ⟨header, put before⟩ blocks ⟨last, put (before ++ part true table)⟩ := by
  induction table generalizing before header with
  | nil =>
    exact ⟨[], header, by rw [renderSections], by rw [part, List.append_nil]; exact .nothing _⟩
  | cons entry rest inductionHypothesis =>
    obtain ⟨distinct, bareName, writableValue⟩ := writable.head
    have bareNames : ∀ part ∈ path ++ [entry.1], IsBare part := fun part member =>
      (List.mem_append.mp member).elim (bare part) fun last => List.mem_singleton.mp last ▸ bareName
    obtain ⟨blocks, next, first, taken⟩ :=
      takes_section reaches (new entry (.head _)) bareNames room writableValue header
    obtain ⟨others, last, following, takenOthers⟩ :=
      inductionHypothesis writable.tail (new.tail distinct) next
    refine ⟨blocks ++ others, last, by rw [renderSections_cons, first, following]; rfl, ?_⟩
    rw [part_cons, ← List.append_assoc]
    exact taken.append takenOthers

end

/-- The content of every table that can be written is taken. -/
theorem Writable.isTaken {depth : Nat} {table : Table} (writable : Writable depth table) :
    IsTaken depth table := by
  -- The tables in a table are one level less deep, and lie at paths that are one name longer.
  induction depth generalizing table with
  | zero => exact writable.elim
  | succ depth inductionHypothesis =>
    intro path put bare room reaches
    have writable : WritableTable (Writable depth) table := writable
    have new : IsNew false table [] := fun _ _ _ => rfl
    obtain ⟨pairs, written, own⟩ := takes_pairs reaches writable new
    obtain ⟨blocks, header, sections, inner⟩ :=
      takes_sections reaches bare (by omega) (writable.imp fun _ => inductionHypothesis)
        (isNew_part writable.distinct) path
    exact ⟨pairs, blocks, header, written, sections, own, inner⟩

/-! ### Documents -/

/-- A document is read as it was written, with the plain values of each table in front. -/
theorem read?_render {depth : Nat} {table : Table} (writable : Writable depth table)
    (shallow : depth < depthLimit) :
    ∃ text, render? table = some text ∧ read? text = some (reordered table) := by
  obtain ⟨pairs, blocks, header, written, sections, own, inner⟩ :=
    writable.isTaken [] id nofun (by simpa using shallow) Entries.reaches_root
  have ownBlock : renderBlock [] table = some (String.join (pairs.map (· ++ "\n"))) := by
    rw [renderBlock, written]
    rfl
  have taken : ∃ text, render? table = some text ∧
      Takes ⟨[], []⟩ text.toList ⟨header, ofTable table⟩ := by
    rw [render?, ownBlock, sections]
    refine ⟨_, rfl, ?_⟩
    split
    · -- Without values of its own, the document starts with its first header.
      rename_i empty
      have start := own.eq_of_empty (String.toList_eq_nil_iff.mpr (String.isEmpty_iff.mp empty))
      rw [start] at inner
      exact inner.takes
    · exact (TakesBlocks.block own inner).takes
  obtain ⟨text, rendered, taken⟩ := taken
  refine ⟨text, rendered, ?_⟩
  rw [read?, taken.withoutMark_eq]
  show (Progress.readLines _ _ _).bind _ = _
  rw [Progress.readLines_of_takes taken le_rfl]
  rfl

/-- With its plain values in front, a table is still the same. -/
theorem Writable.same_reordered {depth : Nat} {table : Table} (writable : Writable depth table) :
    Document.Same (.table table) (.table (reordered table)) := by
  induction depth generalizing table with
  | zero => exact writable.elim
  | succ depth inductionHypothesis =>
    have writable : WritableTable (Writable depth) table := writable
    refine .table fun name => ?_
    rw [get?_reordered writable.distinct]
    cases found : table.get? name with
    | none => exact .none
    | some value =>
      rw [Option.map_some]
      refine .some ?_
      obtain ⟨entry, member, rfl⟩ := Document.Table.exists_of_get?_eq_some found
      obtain ⟨name, value⟩ := entry
      cases writable.each _ member with
      | plain inline =>
        rw [inline.ofDocument_eq]
        exact .value _
      | table inner => exact inductionHypothesis inner
      | @tables first others inner =>
        rw [toDocument_ofDocument_tables]
        refine .list ?_
        rw [List.forall₂_map_left_iff, List.forall₂_map_right_iff, List.forall₂_same]
        exact fun table member => inductionHypothesis (inner table member)

/-- The format of TOML documents keeps simple tables. -/
theorem format_keepsTables {depth : Nat} (shallow : depth < depthLimit) :
    format.KeepsTables depth := by
  intro table writable
  obtain ⟨text, rendered, read⟩ := read?_render writable shallow
  refine ⟨text, reordered table, ?_, ?_, writable.same_reordered⟩
  · simp only [format, rendered]
  · simp only [format, read]

end CollectivePerception.Toml
