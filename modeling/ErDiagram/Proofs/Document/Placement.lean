import ErDiagram.Proofs.Description.RelationalLine
import ErDiagram.Proofs.Document.Reading

/-!
# What is sure of every document that was read

However a description looks, an attribute in its document stands in a block that has a name, and a
relationship in relational notation points at the block that it stands in. The block that a reader
keeps in mind is always the one that can be seen in the document. No line says more than one
statement, and no part of a statement reaches over the end of its line.
-/

namespace ErDiagram

set_option autoImplicit false

open Text

variable {dialect : Dialect} {defaultLabel : String} {block : Option String}

/-- The last opening or closing statement of a document. -/
def Document.lastBracket? (document : Document) : Option Statement :=
  (document.filter Statement.isBracket).getLast?

/-- What is sure of a statement that was read and that stands after the statements `before`. -/
def Statement.Placed (dialect : Dialect) (before : Document) : Statement → Prop
  | addAttribute added =>
    (∃ entity, entity ≠ "" ∧ before.lastBracket? = some (.openEntity entity)) ∧
      (added.type ≠ "" ∧ Solid added.type.toList) ∧ (added.name ≠ "" ∧ Solid added.name.toList)
  | addRelationship link =>
    dialect = .relational → link.right =
      match before.lastBracket? with
      | some (.openEntity entity) => entity
      | _ => ""
  | _ => True

def Document.Placed (dialect : Dialect) (document : Document) : Prop :=
  ∀ before statement after, document = before ++ statement :: after →
    statement.Placed dialect before

theorem named_block_get_d (name : String) : (namedBlock name).getD "" = name := by
  rw [namedBlock]
  split
  · next empty => simpa using (String.isEmpty_iff.mp empty).symm
  · rfl

theorem open_entity_eq (document : Document) :
    document.openEntity? =
      match document.lastBracket? with
      | some (.openEntity entity) => namedBlock entity
      | _ => none := rfl

theorem open_entity_get_d (document : Document) :
    document.openEntity?.getD "" =
      match document.lastBracket? with
      | some (.openEntity entity) => entity
      | _ => "" := by
  rw [open_entity_eq]
  split
  · exact named_block_get_d _
  · rfl

theorem last_bracket_of_open_entity {document : Document}
    (isOpen : document.openEntity?.isSome = true) :
    ∃ entity, entity ≠ "" ∧ document.lastBracket? = some (.openEntity entity) := by
  rw [open_entity_eq] at isOpen
  split at isOpen
  · next entity last =>
    refine ⟨entity, ?_, last⟩
    rintro rfl
    contradiction
  · contradiction

/-- The two first words of a line make up an attribute, so neither is empty or holds a blank. -/
theorem of_words_words {line : List Char} {added : Attribute}
    (read : Attribute.ofWords? (words line) = some added) :
    (added.type ≠ "" ∧ Solid added.type.toList) ∧ (added.name ≠ "" ∧ Solid added.name.toList) := by
  have areWords := are_words_words line
  unfold Attribute.ofWords? at read
  split at read
  · next type name modifiers found =>
    rw [found] at areWords
    obtain ⟨typeNonempty, typeSolid⟩ := areWords type (by simp)
    obtain ⟨nameNonempty, nameSolid⟩ := areWords name (by simp)
    cases read
    simpa using ⟨⟨typeNonempty, typeSolid⟩, nameNonempty, nameSolid⟩
  · contradiction

theorem block_of_line_reads {before : Document} {line : List Char} {reading : LineReading}
    (reads : LineReads dialect defaultLabel before.openEntity? line reading) :
    reading.block = Document.openEntity? (before ++ reading.statement.toList) := by
  cases reads with
  | opens => exact (open_entity_append before (.openEntity _)).symm
  | closes => exact (open_entity_append before .closeEntity).symm
  | adds => exact (open_entity_append before (.addAttribute _)).symm
  | links => exact (open_entity_append before (.addRelationship _)).symm
  | silent => exact congrArg Document.openEntity? (List.append_nil before).symm

theorem placed_of_line_reads {before : Document} {line : List Char} {reading : LineReading}
    {statement : Statement} (reads : LineReads dialect defaultLabel before.openEntity? line reading)
    (said : reading.statement = some statement) : statement.Placed dialect before := by
  cases reads with
  | opens => cases said; trivial
  | closes => cases said; trivial
  | adds _ _ isOpen read =>
      cases said
      exact ⟨last_bracket_of_open_entity isOpen, of_words_words read⟩
  | links _ _ read =>
      cases said
      rintro rfl
      obtain ⟨reference, -, rfl⟩ := Option.map_eq_some_iff.mp read
      exact open_entity_get_d before
  | silent => contradiction

theorem block_name_in_line {line : List Char} {name : String} (inLine : '\n' ∉ line)
    (named : dialect.blockName? (trim line) = some name) : '\n' ∉ name.toList := by
  rw [Dialect.blockName?] at named
  split at named
  · cases named
    rw [String.toList_ofList]
    intro member
    exact inLine (mem_trim (List.mem_of_mem_dropLast (mem_trim member)))
  · contradiction

theorem link_in_line {line : List Char} {link : Relationship}
    (read : dialect.link? defaultLabel block line = some link) (inLine : '\n' ∉ line)
    (label : '\n' ∉ defaultLabel.toList) (blockInLine : ∀ entity ∈ block, '\n' ∉ entity.toList) :
    '\n' ∉ link.left.toList ∧ '\n' ∉ link.right.toList ∧ '\n' ∉ link.label.toList := by
  cases dialect with
  | entityRelationship => exact of_signs_in_line read inLine label
  | relational =>
      obtain ⟨reference, found, rfl⟩ := Option.map_eq_some_iff.mp read
      have stands := key_reference_sound found
      refine ⟨by simpa [KeyReference.relationship] using stands.target, ?_, ?_⟩
      · cases block with
        | none => simp [KeyReference.relationship]
        | some entity => exact blockInLine entity rfl
      · simp [KeyReference.relationship, stands.column, stands.targetColumn]

theorem block_in_line_of_line_reads {line : List Char} {reading : LineReading}
    (reads : LineReads dialect defaultLabel block line reading) (inLine : '\n' ∉ line)
    (blockInLine : ∀ entity ∈ block, '\n' ∉ entity.toList) :
    ∀ entity ∈ reading.block, '\n' ∉ entity.toList := by
  cases reads with
  | opens named =>
      intro entity isOpen
      simp only [namedBlock, Option.mem_def, Option.ite_none_left_eq_some, Option.some_inj] at isOpen
      rw [← isOpen.2]
      exact block_name_in_line inLine named
  | closes => simp
  | adds => exact blockInLine
  | links => exact blockInLine
  | silent => exact blockInLine

theorem unbroken_of_line_reads {line : List Char} {reading : LineReading} {statement : Statement}
    (reads : LineReads dialect defaultLabel block line reading)
    (said : reading.statement = some statement) (inLine : '\n' ∉ line)
    (label : '\n' ∉ defaultLabel.toList) (blockInLine : ∀ entity ∈ block, '\n' ∉ entity.toList) :
    Unbroken statement.line.toList := by
  cases reads with
  | opens named =>
      cases said
      exact unbroken_open_line (block_name_in_line inLine named)
  | closes => cases said; exact unbroken_close_line
  | adds _ _ _ read =>
      cases said
      obtain ⟨⟨typeNonempty, typeSolid⟩, nameNonempty, nameSolid⟩ := of_words_words read
      rw [attribute_line_eq]
      exact unbroken_marked_line (are_words_marked _ typeNonempty typeSolid nameNonempty nameSolid)
  | links _ _ read =>
      cases said
      obtain ⟨left, right, labelled⟩ := link_in_line read (mt mem_trim inLine) label blockInLine
      exact unbroken_link_line left right labelled
  | silent => contradiction

theorem placed_statements_after (before : Document) {found : List (List Char)} :
    ∀ middle statement after,
      statementsAfter dialect defaultLabel before.openEntity? found = middle ++ statement :: after →
        statement.Placed dialect (before ++ middle) := by
  induction found generalizing before with
  | nil => simp [statementsAfter]
  | cons line rest ih =>
      intro middle statement after split
      have reads := line_reads dialect defaultLabel before.openEntity? line
      have block := block_of_line_reads reads
      rw [statementsAfter, block] at split
      cases said : (readLine dialect defaultLabel before.openEntity? line).statement with
      | none =>
          rw [said, Option.toList_none, List.append_nil, List.nil_append] at split
          exact ih _ middle statement after split
      | some first =>
          rw [said, Option.toList_some, List.singleton_append] at split
          cases middle with
          | nil =>
              obtain ⟨rfl, -⟩ := List.cons.inj split
              rw [List.append_nil]
              exact placed_of_line_reads reads said
          | cons other later =>
              obtain ⟨rfl, tail⟩ := List.cons.inj split
              have placed := ih _ later statement after tail
              rwa [List.append_assoc] at placed

theorem unbroken_statements_after {found : List (List Char)} (inLines : ∀ line ∈ found, '\n' ∉ line)
    (label : '\n' ∉ defaultLabel.toList) (blockInLine : ∀ entity ∈ block, '\n' ∉ entity.toList) :
    ∀ statement ∈ statementsAfter dialect defaultLabel block found,
      Unbroken statement.line.toList := by
  induction found generalizing block with
  | nil => simp [statementsAfter]
  | cons line rest ih =>
      obtain ⟨inLine, inRest⟩ := List.forall_mem_cons.mp inLines
      have reads := line_reads dialect defaultLabel block line
      intro statement member
      rcases List.mem_append.mp member with here | later
      · exact unbroken_of_line_reads reads (Option.mem_toList.mp here) inLine label blockInLine
      · exact ih inRest (block_in_line_of_line_reads reads inLine blockInLine) statement later

theorem length_statements_after_le (block : Option String) (found : List (List Char)) :
    (statementsAfter dialect defaultLabel block found).length ≤
      found.countP fun line => !(trim line).isEmpty := by
  induction found generalizing block with
  | nil => simp [statementsAfter]
  | cons line rest ih =>
      have later := ih (readLine dialect defaultLabel block line).block
      rw [statementsAfter, List.length_append, List.countP_cons]
      by_cases blank : trim line = []
      · have nothing : readLine dialect defaultLabel block line = ⟨none, block⟩ :=
          read_blank_line blank
        rw [nothing] at later ⊢
        simpa [blank] using later
      · have single : (readLine dialect defaultLabel block line).statement.toList.length ≤ 1 := by
          cases (readLine dialect defaultLabel block line).statement <;> simp
        simp only [List.isEmpty_eq_false_iff.mpr blank, Bool.not_false, if_true]
        omega

/-- Reading a description within the limit gives a document whose attributes stand in named blocks and
whose relational links point at the block around them. It has at most one statement for each line that
is not blank, and its markup has exactly one line for the header and for each statement. -/
theorem read_document_placed (dialect : Dialect) (options : ReadingOptions) (description : String)
    (accepted : ¬ options.Refuse description) (label : '\n' ∉ options.defaultLabel.toList) :
    ∃ document, readDescription dialect options description = .ok document ∧
      document.Placed dialect ∧
      document.length ≤ (lines description.toList).countP (fun line => !(trim line).isEmpty) ∧
      (∀ statement ∈ document, '\n' ∉ statement.line.toList) ∧
      lines document.render.toList =
        header.toList :: document.map fun statement => statement.line.toList := by
  have unbroken : ∀ statement ∈ statementsOf dialect options.defaultLabel description,
      Unbroken statement.line.toList :=
    unbroken_statements_after (line_feed_not_in_lines _) label (by simp)
  have written : ∀ line ∈ Document.lines (statementsOf dialect options.defaultLabel description),
      Unbroken line.toList := by
    rw [Document.lines, List.forall_mem_cons]
    refine ⟨⟨by decide, by decide⟩, ?_⟩
    intro line member
    obtain ⟨statement, inDocument, rfl⟩ := List.mem_map.mp member
    exact unbroken statement inDocument
  refine ⟨_, read_accepted dialect accepted, ?_, length_statements_after_le none _, ?_, ?_⟩
  · intro before statement after split
    have placed := placed_statements_after [] before statement after split
    rwa [List.nil_append] at placed
  · exact fun statement member => (unbroken statement member).1
  · rw [Document.render, lines_end_lines written, Document.lines, List.map_cons, List.map_map]
    rfl

theorem read_document_placed_of_stray_lines :
    let options : ReadingOptions := { maxLines := some 6 }
    let description := ")\nint stray\n \nusers (\n\tint\u00a0id PK,\r\nFOREIGN KEY (id) REFERENCES people (id)"
    ¬ options.Refuse description ∧ '\n' ∉ options.defaultLabel.toList ∧
      ∃ document, readDescription .relational options description = .ok document ∧
        document.Placed .relational ∧ document.length ≤ 5 ∧
        lines document.render.toList =
          header.toList :: document.map fun statement => statement.line.toList := by
  intro options description
  have accepted : ¬ options.Refuse description := by
    rintro ⟨limit, bounded, exceeded⟩
    cases bounded
    exact absurd exceeded (by decide)
  have label : '\n' ∉ options.defaultLabel.toList := by decide
  obtain ⟨document, read, placed, few, -, written⟩ :=
    read_document_placed .relational options description accepted label
  have filled : (lines description.toList).countP (fun line => !(trim line).isEmpty) = 5 := by decide
  rw [filled] at few
  exact ⟨accepted, label, document, read, placed, few, written⟩

end ErDiagram
