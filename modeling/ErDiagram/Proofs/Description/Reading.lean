import ErDiagram.Description.Reading
import ErDiagram.Proofs.Text.Word

/-!
# How a description is read

The four readings of a line are told apart by its last character, by the closing bracket and by the
attribute mark. A description that was put together from lines gives the statements of these lines,
read in turn with the block that the lines before have left open.
-/

namespace ErDiagram

set_option autoImplicit false

open Text

variable {dialect : Dialect} {defaultLabel : String} {block : Option String}

/-- The block that is open after a line has opened one of this name. -/
def namedBlock (name : String) : Option String := if name.isEmpty then none else some name

theorem named_block_word {name : String} (word : AsciiWord name) : namedBlock name = some name := by
  rw [namedBlock, if_neg]
  simpa using word.ne_empty

theorem read_line_of_trim {dialect : Dialect} {line text : List Char} (same : trim line = text)
    (nonempty : text ≠ []) :
    readLine dialect defaultLabel block line = readTrimmed dialect defaultLabel block text := by
  rw [readLine, same, if_neg]
  simpa using nonempty

theorem block_name_eq_none {dialect : Dialect} {line : List Char}
    (last : line.getLast? ≠ some dialect.opener) : dialect.blockName? line = none := by
  rw [Dialect.blockName?, if_neg]
  simp [last]

theorem read_trimmed_opener (dialect : Dialect) (defaultLabel : String) (block : Option String)
    {front : List Char}
    (unlinked : ¬ dialect.linkMark.toList <:+: front ++ [dialect.opener]) :
    readTrimmed dialect defaultLabel block (front ++ [dialect.opener]) =
      ⟨some (.openEntity (String.ofList (trim front))), namedBlock (String.ofList (trim front))⟩ := by
  have unmarked : occursIn dialect.linkMark (front ++ [dialect.opener]) = false := by
    rw [Bool.eq_false_iff, ne_eq, occurs_in_iff]
    exact unlinked
  have named : dialect.blockName? (front ++ [dialect.opener]) =
      some (String.ofList (trim front)) := by
    simp [Dialect.blockName?, unmarked]
  rw [readTrimmed, named]
  rfl

theorem read_trimmed_attribute {dialect : Dialect} {line : List Char} {entity : String}
    (unnamed : dialect.blockName? line = none) (notCloser : line ≠ [dialect.closer])
    (carries : carriesAttribute line = true) :
    readTrimmed dialect defaultLabel (some entity) line =
      ⟨(Attribute.ofWords? (words line)).map .addAttribute, some entity⟩ := by
  rw [readTrimmed, unnamed]
  simp [notCloser, carries]

/-- A line that opens and closes nothing and is no attribute of an open block can only link tables. -/
theorem read_trimmed_link {dialect : Dialect} {line : List Char}
    (unnamed : dialect.blockName? line = none) (notCloser : line ≠ [dialect.closer])
    (noAttribute : block.isSome = true → carriesAttribute line = false) :
    readTrimmed dialect defaultLabel block line =
      ⟨(dialect.link? defaultLabel block line).map .addRelationship, block⟩ := by
  have notAttribute : ¬ (block.isSome && carriesAttribute line) = true := by
    rw [Bool.and_eq_true]
    rintro ⟨isOpen, carries⟩
    rw [noAttribute isOpen] at carries
    contradiction
  rw [readTrimmed, unnamed]
  simp only [if_neg notCloser, if_neg notAttribute]

/-- What a line can be read as where `block` is open. -/
inductive LineReads (dialect : Dialect) (defaultLabel : String) (block : Option String)
    (line : List Char) : LineReading → Prop
  | opens {name : String} (named : dialect.blockName? (trim line) = some name) :
    LineReads dialect defaultLabel block line ⟨some (.openEntity name), namedBlock name⟩
  | closes (unnamed : dialect.blockName? (trim line) = none) (isCloser : trim line = [dialect.closer]) :
    LineReads dialect defaultLabel block line ⟨some .closeEntity, none⟩
  | adds {added : Attribute} (unnamed : dialect.blockName? (trim line) = none)
    (notCloser : trim line ≠ [dialect.closer]) (isOpen : block.isSome = true)
    (read : Attribute.ofWords? (words (trim line)) = some added) :
    LineReads dialect defaultLabel block line ⟨some (.addAttribute added), block⟩
  | links {link : Relationship} (unnamed : dialect.blockName? (trim line) = none)
    (notCloser : trim line ≠ [dialect.closer])
    (read : dialect.link? defaultLabel block (trim line) = some link) :
    LineReads dialect defaultLabel block line ⟨some (.addRelationship link), block⟩
  | silent (unnamed : dialect.blockName? (trim line) = none)
    (notCloser : trim line ≠ [dialect.closer]) : LineReads dialect defaultLabel block line ⟨none, block⟩

theorem read_blank_line {line : List Char} (blank : trim line = []) :
    readLine dialect defaultLabel block line = ⟨none, block⟩ := by
  simp [readLine, blank]

theorem line_reads (dialect : Dialect) (defaultLabel : String) (block : Option String)
    (line : List Char) :
    LineReads dialect defaultLabel block line (readLine dialect defaultLabel block line) := by
  by_cases blank : trim line = []
  · rw [read_blank_line blank]
    apply LineReads.silent
    · rw [blank]
      exact block_name_eq_none (by simp)
    · simp [blank]
  · rw [read_line_of_trim rfl blank, readTrimmed]
    split
    · next named => exact .opens named
    · next unnamed =>
      split
      · next isCloser => exact .closes unnamed isCloser
      · next notCloser =>
        split
        · next inBlock =>
          have isOpen : block.isSome = true := (Bool.and_eq_true_iff.mp inBlock).1
          cases read : Attribute.ofWords? (words (trim line)) with
          | none => exact .silent unnamed notCloser
          | some added => exact .adds unnamed notCloser isOpen read
        · cases read : dialect.link? defaultLabel block (trim line) with
          | none => exact .silent unnamed notCloser
          | some link => exact .links unnamed notCloser read

def blockAfter (dialect : Dialect) (defaultLabel : String) :
    Option String → List (List Char) → Option String
  | block, [] => block
  | block, line :: rest =>
    blockAfter dialect defaultLabel (readLine dialect defaultLabel block line).block rest

theorem statements_after_append (first second : List (List Char)) :
    statementsAfter dialect defaultLabel block (first ++ second) =
      statementsAfter dialect defaultLabel block first ++
        statementsAfter dialect defaultLabel (blockAfter dialect defaultLabel block first)
          second := by
  induction first generalizing block with
  | nil => rfl
  | cons line rest ih =>
      simp only [List.cons_append, statementsAfter, blockAfter, ih, List.append_assoc]

theorem statements_after_cons {line : List Char} {reading : LineReading}
    (read : readLine dialect defaultLabel block line = reading) (rest : List (List Char)) :
    statementsAfter dialect defaultLabel block (line :: rest) =
      reading.statement.toList ++ statementsAfter dialect defaultLabel reading.block rest := by
  rw [← read]
  rfl

theorem statements_of_end_lines {found : List String}
    (unbroken : ∀ line ∈ found, Unbroken line.toList) :
    statementsOf dialect defaultLabel (endLines found) =
      statementsAfter dialect defaultLabel none (found.map String.toList) := by
  rw [statementsOf, lines_end_lines unbroken]

/-- An empty last line is lost when lines are joined, but an empty line says nothing. -/
theorem statements_of_join_lines {found : List String}
    (unbroken : ∀ line ∈ found, Unbroken line.toList) :
    statementsOf dialect defaultLabel (joinLines found) =
      statementsAfter dialect defaultLabel none (found.map String.toList) := by
  rcases List.eq_nil_or_concat found with rfl | ⟨front, last, rfl⟩
  · rfl
  · rw [List.concat_eq_append] at unbroken ⊢
    have frontUnbroken : ∀ line ∈ front, Unbroken line.toList :=
      fun line member => unbroken line (List.mem_append_left _ member)
    have lastUnbroken := unbroken last (by simp)
    rw [statementsOf, join_lines_append_last, lines_end_lines_append frontUnbroken,
      List.map_append, statements_after_append, statements_after_append]
    apply congrArg (statementsAfter _ _ _ _ ++ ·)
    by_cases empty : last = ""
    · subst empty
      rfl
    · rw [lines_of_unbroken lastUnbroken.1 (by simpa using empty)]
      rfl

/-- Where `block` is open the lines say `said`, and they leave `left` open. -/
structure Says (dialect : Dialect) (defaultLabel : String) (block : Option String)
    (found : List (List Char)) (said : Document) (left : Option String) : Prop where
  statements : statementsAfter dialect defaultLabel block found = said
  block : blockAfter dialect defaultLabel block found = left

theorem says_nil : Says dialect defaultLabel block [] [] block := ⟨rfl, rfl⟩

theorem says_cons {line : List Char} {rest : List (List Char)} {statement : Option Statement}
    {said : Document} {middle left : Option String}
    (read : readLine dialect defaultLabel block line = ⟨statement, middle⟩)
    (later : Says dialect defaultLabel middle rest said left) :
    Says dialect defaultLabel block (line :: rest) (statement.toList ++ said) left := by
  constructor
  · rw [statements_after_cons read, later.statements]
  · rw [blockAfter, read, later.block]

theorem says_skip {line : List Char} {rest : List (List Char)} {said : Document}
    {left : Option String} (read : readLine dialect defaultLabel block line = ⟨none, block⟩)
    (later : Says dialect defaultLabel block rest said left) :
    Says dialect defaultLabel block (line :: rest) said left := says_cons read later

theorem says_append {first second : List (List Char)} {before after : Document}
    {middle left : Option String} (one : Says dialect defaultLabel block first before middle)
    (two : Says dialect defaultLabel middle second after left) :
    Says dialect defaultLabel block (first ++ second) (before ++ after) left := by
  induction first generalizing block before with
  | nil =>
      obtain ⟨rfl, rfl⟩ := one
      exact two
  | cons line rest ih =>
      obtain ⟨rfl, rfl⟩ := one
      rw [List.cons_append, statementsAfter, List.append_assoc]
      exact says_cons rfl (ih ⟨rfl, rfl⟩)

theorem says_flat_map {α : Type} {items : List α} {found : α → List (List Char)}
    {said : α → Document}
    (each : ∀ item ∈ items, Says dialect defaultLabel block (found item) (said item) block) :
    Says dialect defaultLabel block (items.flatMap found) (items.flatMap said) block := by
  induction items with
  | nil => exact says_nil
  | cons item rest ih =>
      have here := each item List.mem_cons_self
      have later := ih fun other member => each other (List.mem_cons_of_mem _ member)
      exact says_append here later

def ReadingOptions.Refuse (options : ReadingOptions) (description : String) : Prop :=
  ∃ limit, options.maxLines = some limit ∧ limit < (lines description.toList).length

theorem read_accepted {options : ReadingOptions} {description : String} (dialect : Dialect)
    (accepted : ¬ options.Refuse description) :
    readDescription dialect options description =
      .ok (statementsOf dialect options.defaultLabel description) := by
  cases bounded : options.maxLines with
  | none => simp only [readDescription, bounded]
  | some limit =>
      have within : ¬ limit < (lines description.toList).length :=
        fun exceeded => accepted ⟨limit, bounded, exceeded⟩
      simp only [readDescription, bounded, if_neg within]

end ErDiagram
