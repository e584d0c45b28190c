import ErDiagram.Listing
import ErDiagram.Proofs.Description.EntityLine

/-!
# What the markup of a schema is read back as

The markup listing of a schema is itself a description in entity-relationship notation. Reading it
gives the tables and the foreign keys of the schema, but not always all columns: the line of a column
is an attribute only if a type name stands in it at the right place. A column that is both foreign
and nullable is read back with the first of its two marks.
-/

namespace ErDiagram

set_option autoImplicit false

open Text

variable (defaultLabel : String)

/-- The one mark that a column keeps when its markup is read. -/
def Column.key? (column : Column) : Option KeyMarker :=
  if column.primaryKey then some .primary
  else if column.foreignKey then some .foreign
  else if column.nullable then some .nullable
  else none

/-- Whether the markup line of a column is an attribute: its type ends in a type name that marks
attributes, or its name does and a mark follows. -/
def Column.inMarkup (column : Column) : Bool :=
  endsInType column.type.toList ||
    (endsInType column.name.toList &&
      (column.primaryKey || column.foreignKey || column.nullable))

def Column.attribute (column : Column) : Attribute := ⟨column.type, column.name, column.key?⟩

def Table.diagram (table : Table) : Document :=
  .openEntity table.name ::
    (table.primaryKeyFirst.filter Column.inMarkup).map (.addAttribute ·.attribute) ++ [.closeEntity]

def ForeignKey.link (key : ForeignKey) : Relationship := ⟨key.table, key.refTable, key.name⟩

def Schema.diagram (schema : Schema) : Document :=
  schema.tables.flatMap Table.diagram ++ schema.foreignKeys.map (.addRelationship ·.link)

/-- A schema in whose markup every name and type is an ASCII word. -/
structure Schema.MarkupWords (schema : Schema) : Prop where
  tables : ∀ table ∈ schema.tables, AsciiWord table.name
  columns : ∀ table ∈ schema.tables, ∀ column ∈ table.columns,
    AsciiWord column.name ∧ AsciiWord column.type
  keys : ∀ key ∈ schema.foreignKeys,
    AsciiWord key.name ∧ AsciiWord key.table ∧ AsciiWord key.refTable

instance (schema : Schema) : Decidable schema.MarkupWords :=
  decidable_of_iff
    ((∀ table ∈ schema.tables, AsciiWord table.name) ∧
      (∀ table ∈ schema.tables, ∀ column ∈ table.columns,
        AsciiWord column.name ∧ AsciiWord column.type) ∧
      ∀ key ∈ schema.foreignKeys, AsciiWord key.name ∧ AsciiWord key.table ∧ AsciiWord key.refTable)
    ⟨fun ⟨tables, columns, keys⟩ => ⟨tables, columns, keys⟩,
      fun words => ⟨words.tables, words.columns, words.keys⟩⟩

theorem mem_primary_key_first {table : Table} {column : Column} :
    column ∈ table.primaryKeyFirst ↔ column ∈ table.columns := by
  simp only [Table.primaryKeyFirst, Table.keyColumns, Table.otherColumns, List.mem_append,
    List.mem_filter]
  cases column.primaryKey <;> simp

theorem marks_written (column : Column) : column.marks ∈ writtenMarks := by
  cases primary : column.primaryKey <;> cases foreign : column.foreignKey <;>
    cases nullable : column.nullable <;> simp [Column.marks, writtenMarks, *]

theorem head_marks (column : Column) : column.marks.head? = column.key? := by
  cases primary : column.primaryKey <;> cases foreign : column.foreignKey <;>
    cases nullable : column.nullable <;> simp [Column.marks, Column.key?, *]

theorem marks_isEmpty (column : Column) :
    column.marks.isEmpty = !(column.primaryKey || column.foreignKey || column.nullable) := by
  cases primary : column.primaryKey <;> cases foreign : column.foreignKey <;>
    cases nullable : column.nullable <;> simp [Column.marks, *]

theorem markup_line_eq (column : Column) :
    column.markupLine = markedLine column.type column.name column.marks := rfl

theorem are_words_column {column : Column} (name : AsciiWord column.name)
    (type : AsciiWord column.type) : AreWords (markedWords column.type column.name column.marks) :=
  are_words_marked _ type.ne_empty type.solid name.ne_empty name.solid

/-- No mark ends in a type name, so only the type and the name of a column can. -/
theorem neighbours_mark_marked {type name : String} {marks : List KeyMarker}
    (word : AsciiWord name) (written : marks ∈ writtenMarks) :
    neighboursMark (markedWords type name marks) =
      (endsInType type.toList || (endsInType name.toList && !marks.isEmpty)) := by
  have marksFree : neighboursMark (marks.map (·.text.toList)) = false := by
    have all : ∀ marks ∈ writtenMarks, neighboursMark (marks.map (·.text.toList)) = false := by
      decide
    exact all marks written
  cases marks with
  | nil => simp [markedWords, neighboursMark, word.head]
  | cons marker rest =>
      rw [List.map_cons] at marksFree
      simp [markedWords, neighboursMark, word.head,
        (marker_text_word marker).head, marksFree]

theorem carries_attribute_column {column : Column} (name : AsciiWord column.name)
    (type : AsciiWord column.type) :
    carriesAttribute (wordLine (markedWords column.type column.name column.marks)) =
      column.inMarkup := by
  rw [carries_attribute_word_line (are_words_column name type),
    neighbours_mark_marked name (marks_written column), marks_isEmpty, Bool.not_not]
  rfl

theorem read_column_line (entity : String) {column : Column} (name : AsciiWord column.name)
    (type : AsciiWord column.type) :
    readLine .entityRelationship defaultLabel (some entity) column.markupLine.toList =
      ⟨if column.inMarkup then some (.addAttribute column.attribute) else none, some entity⟩ := by
  have areWords := are_words_column name type
  have carries := carries_attribute_column name type
  have last : (wordLine (markedWords column.type column.name column.marks)).getLast? ≠
      some '\x7b' := by
    apply last_marked_words name.ne_empty
    right
    intro brace
    exact name.lacks (by decide) (List.mem_of_mem_getLast? brace)
  rw [markup_line_eq]
  split
  · next kept =>
    have marked : carriesAttribute (markedLine column.type column.name column.marks).toList =
        true := by
      rw [to_list_marked_line, carries_attribute_gap_append gap_deep, carries, kept]
    rw [read_attribute_line (marks_written column) areWords marked last, head_marks]
    rfl
  · next lost =>
    have line : trim (markedLine column.type column.name column.marks).toList =
        wordLine (markedWords column.type column.name column.marks) := by
      rw [to_list_marked_line, trim_gap_append gap_deep, trimmed_word_line areWords]
    have unsigned : ¬ oneToMany.toList <:+:
        wordLine (markedWords column.type column.name column.marks) := by
      intro inside
      apply not_mem_word_line (c := '|') (by decide) _ (inside.subset (by decide))
      intro word member
      simp only [markedWords, List.mem_cons, List.mem_map] at member
      rcases member with rfl | rfl | ⟨marker, -, rfl⟩
      · exact type.lacks (by decide)
      · exact name.lacks (by decide)
      · exact (marker_text_word marker).lacks (by decide)
    exact read_idle_line line (word_line_ne_nil areWords (by simp [markedWords])) last
      (word_line_marked_ne_closer _) (fun _ => by rw [carries]; simpa using lost) unsigned

theorem says_columns (entity : String) {columns : List Column}
    (words : ∀ column ∈ columns, AsciiWord column.name ∧ AsciiWord column.type) :
    Says .entityRelationship defaultLabel (some entity)
      (columns.map fun column => column.markupLine.toList)
      ((columns.filter Column.inMarkup).map (.addAttribute ·.attribute)) (some entity) := by
  induction columns with
  | nil => exact says_nil
  | cons column rest ih =>
      obtain ⟨name, type⟩ := words column List.mem_cons_self
      have later := ih fun other member => words other (List.mem_cons_of_mem _ member)
      have line := says_cons (read_column_line defaultLabel entity name type) later
      rw [List.map_cons, List.filter_cons]
      split
      · next kept =>
        rw [if_pos kept] at line
        exact line
      · next lost =>
        rw [if_neg lost] at line
        exact line

theorem open_line_eq (name : String) :
    "    " ++ name ++ " \x7b" = (Statement.openEntity name).line := by
  simp [Statement.line, Statement.indent, Statement.text, String.append_assoc]

theorem link_line_eq (key : ForeignKey) :
    key.markupLine = (Statement.addRelationship key.link).line := by
  simp [Statement.line, Statement.indent, Statement.text, Relationship.text, ForeignKey.markupLine,
    ForeignKey.link, String.append_assoc]

theorem markup_lines_eq (table : Table) :
    table.markupLines {} =
      (Statement.openEntity table.name).line :: table.primaryKeyFirst.map Column.markupLine ++
        [Statement.closeEntity.line] := by
  rw [← open_line_eq]
  rfl

theorem says_table {table : Table} (name : AsciiWord table.name)
    (words : ∀ column ∈ table.columns, AsciiWord column.name ∧ AsciiWord column.type) :
    Says .entityRelationship defaultLabel none ((table.markupLines {}).map String.toList)
      table.diagram none := by
  have opened : readLine .entityRelationship defaultLabel none
      (Statement.openEntity table.name).line.toList =
        ⟨some (.openEntity table.name), some table.name⟩ := by
    rw [read_open_line (plain_name_of_word name), named_block_word name]
  have listed : ∀ column ∈ table.primaryKeyFirst, AsciiWord column.name ∧ AsciiWord column.type :=
    fun column member => words column (mem_primary_key_first.mp member)
  have columns := says_columns defaultLabel table.name listed
  have closed : Says .entityRelationship defaultLabel (some table.name)
      [Statement.closeEntity.line.toList] [.closeEntity] none := says_cons read_close_line says_nil
  rw [markup_lines_eq, List.cons_append, List.map_cons, List.map_append, List.map_map]
  exact says_cons opened (says_append columns closed)

theorem link_plain {key : ForeignKey} (name : AsciiWord key.name) (table : AsciiWord key.table)
    (target : AsciiWord key.refTable) : key.link.Plain where
  left := plain_name_of_word table
  right := plain_name_of_word target
  label := plain_name_of_word name
  rightColon := target.lacks (by decide)
  labelColon := name.lacks (by decide)
  labelQuote := name.lacks (by decide)

theorem says_links {keys : List ForeignKey}
    (words : ∀ key ∈ keys, AsciiWord key.name ∧ AsciiWord key.table ∧ AsciiWord key.refTable) :
    Says .entityRelationship defaultLabel none (keys.map fun key => key.markupLine.toList)
      (keys.map (.addRelationship ·.link)) none := by
  induction keys with
  | nil => exact says_nil
  | cons key rest ih =>
      obtain ⟨name, table, target⟩ := words key List.mem_cons_self
      have later := ih fun other member => words other (List.mem_cons_of_mem _ member)
      have line : readLine .entityRelationship defaultLabel none key.markupLine.toList =
          ⟨some (.addRelationship key.link), none⟩ := by
        rw [link_line_eq]
        exact read_link_line (link_plain name table target) (by simp)
      exact says_cons line later

theorem says_markup {schema : Schema} (words : schema.MarkupWords) :
    Says .entityRelationship defaultLabel none ((schema.markupLines {}).map String.toList)
      schema.diagram none := by
  have header : readLine .entityRelationship defaultLabel none header.toList = ⟨none, none⟩ := rfl
  have tables : Says .entityRelationship defaultLabel none
      (schema.tables.flatMap fun table => (table.markupLines {}).map String.toList)
      (schema.tables.flatMap Table.diagram) none :=
    says_flat_map fun table member =>
      says_table defaultLabel (words.tables table member) (words.columns table member)
  have links := says_links defaultLabel words.keys
  have lines : (schema.markupLines {}).map String.toList =
      ErDiagram.header.toList ::
        ((schema.tables.flatMap fun table => (table.markupLines {}).map String.toList) ++
          schema.foreignKeys.map fun key => key.markupLine.toList) := by
    simp [Schema.markupLines, List.map_flatMap, List.map_map, Function.comp_def]
  rw [lines]
  exact says_cons header (says_append tables links)

theorem unbroken_markup {schema : Schema} (words : schema.MarkupWords) :
    ∀ line ∈ schema.markupLines {}, Unbroken line.toList := by
  intro line member
  simp only [Schema.markupLines, if_true, List.cons_append, List.mem_cons, List.mem_append,
    List.mem_flatMap, List.mem_map] at member
  rcases member with rfl | ⟨table, inSchema, inTable⟩ | ⟨key, inSchema, rfl⟩
  · exact ⟨by decide, by decide⟩
  · rw [markup_lines_eq, List.cons_append, List.mem_cons, List.mem_append, List.mem_map,
      List.mem_singleton] at inTable
    rcases inTable with rfl | ⟨column, inColumns, rfl⟩ | rfl
    · exact unbroken_open_line ((words.tables table inSchema).lacks (by decide))
    · obtain ⟨name, type⟩ := words.columns table inSchema column (mem_primary_key_first.mp inColumns)
      exact unbroken_marked_line (are_words_column name type)
    · exact unbroken_close_line
  · obtain ⟨name, table, target⟩ := words.keys key inSchema
    rw [link_line_eq]
    exact unbroken_link_line (table.lacks (by decide)) (target.lacks (by decide))
      (name.lacks (by decide))

/-- Lines that together are no longer than others, and equal to them under one condition only. -/
structure Shortened (kept full : List String) (whole : Prop) : Prop where
  length_le : (endLines kept).length ≤ (endLines full).length
  eq_iff : endLines kept = endLines full ↔ whole

theorem shortened_of_eq {found : List String} {whole : Prop} (holds : whole) :
    Shortened found found whole := ⟨Nat.le_refl _, iff_of_true rfl holds⟩

theorem shortened_refl (found : List String) : Shortened found found True := shortened_of_eq trivial

theorem shortened_of_lt {kept full : List String} {whole : Prop}
    (shorter : (endLines kept).length < (endLines full).length) (lost : ¬ whole) :
    Shortened kept full whole := by
  constructor
  · exact Nat.le_of_lt shorter
  · have different : endLines kept ≠ endLines full := by
      intro same
      rw [same] at shorter
      exact Nat.lt_irrefl _ shorter
    exact iff_of_false different lost

theorem shortened_append {kept full keptLater fullLater : List String} {whole wholeLater : Prop}
    (first : Shortened kept full whole) (second : Shortened keptLater fullLater wholeLater) :
    Shortened (kept ++ keptLater) (full ++ fullLater) (whole ∧ wholeLater) := by
  have firstLength := first.length_le
  have secondLength := second.length_le
  rw [← first.eq_iff, ← second.eq_iff]
  constructor
  · simp only [endLines_append, String.length_append]
    omega
  · rw [endLines_append, endLines_append]
    constructor
    · intro same
      -- Neither part can be longer than its counterpart, so the two texts divide at one place.
      have total := congrArg String.length same
      simp only [String.length_append] at total
      have lists := congrArg String.toList same
      rw [String.toList_append, String.toList_append] at lists
      obtain ⟨front, back⟩ := List.append_inj lists (by simp only [String.length_toList]; omega)
      exact ⟨String.toList_inj.mp front, String.toList_inj.mp back⟩
    · rintro ⟨front, back⟩
      rw [front, back]

theorem shortened_flat_map {α : Type} {items : List α} {kept full : α → List String}
    {whole : α → Prop} (each : ∀ item, Shortened (kept item) (full item) (whole item)) :
    Shortened (items.flatMap kept) (items.flatMap full) (∀ item ∈ items, whole item) := by
  induction items with
  | nil => simpa using shortened_refl []
  | cons item rest ih =>
      simpa only [List.flatMap_cons, List.forall_mem_cons] using shortened_append (each item) ih

/-- Whether reading gives back the whole line of a column. -/
def Column.Whole (column : Column) : Prop :=
  column.inMarkup = true ∧
    ¬ (column.primaryKey = false ∧ column.foreignKey = true ∧ column.nullable = true)

theorem marks_of_whole {column : Column}
    (single : ¬ (column.primaryKey = false ∧ column.foreignKey = true ∧ column.nullable = true)) :
    column.marks = column.key?.toList := by
  cases primary : column.primaryKey <;> cases foreign : column.foreignKey <;>
    cases nullable : column.nullable <;> simp_all [Column.marks, Column.key?]

theorem end_lines_singleton (line : String) : endLines [line] = line ++ "\n" := by
  simp [endLines]

theorem shortened_column (column : Column) :
    Shortened (if column.inMarkup then [(Statement.addAttribute column.attribute).line] else [])
      [column.markupLine] column.Whole := by
  by_cases kept : column.inMarkup = true
  · rw [if_pos kept, attribute_line_eq, markup_line_eq]
    by_cases double : column.primaryKey = false ∧ column.foreignKey = true ∧ column.nullable = true
    · have marks : column.marks = [.foreign, .nullable] := by simp [Column.marks, double]
      have key : column.key?.toList = [.foreign] := by simp [Column.key?, double]
      have longer : markedLine column.type column.name column.marks =
          markedLine column.attribute.type column.attribute.name column.attribute.key.toList ++
            " NULL" := by
        simp [Column.attribute, marks, key, markedLine, KeyMarker.text, String.append_assoc]
      rw [longer]
      apply shortened_of_lt
      · simp only [end_lines_singleton, String.length_append]
        have mark : 0 < " NULL".length := by decide
        omega
      · exact fun whole => whole.2 double
    · have same : column.attribute.key.toList = column.marks := (marks_of_whole double).symm
      rw [same]
      exact shortened_of_eq ⟨kept, double⟩
  · rw [if_neg kept]
    apply shortened_of_lt
    · rw [end_lines_singleton, String.length_append]
      exact Nat.lt_add_left _ (by decide)
    · exact fun whole => kept whole.1

theorem shortened_columns (columns : List Column) :
    Shortened
      (((columns.filter Column.inMarkup).map (Statement.addAttribute ·.attribute)).map
        Statement.line)
      (columns.map Column.markupLine) (∀ column ∈ columns, column.Whole) := by
  induction columns with
  | nil => simpa using shortened_refl []
  | cons column rest ih =>
      have both := shortened_append (shortened_column column) ih
      rw [List.filter_cons, List.forall_mem_cons, List.map_cons]
      split
      · next kept =>
        rw [if_pos kept] at both
        exact both
      · next lost =>
        rw [if_neg lost] at both
        exact both

theorem shortened_table (table : Table) :
    Shortened (table.diagram.map Statement.line) (table.markupLines {})
      (∀ column ∈ table.columns, column.Whole) := by
  have opened := shortened_refl [(Statement.openEntity table.name).line]
  have closed := shortened_refl [Statement.closeEntity.line]
  have all := shortened_append (shortened_append opened (shortened_columns table.primaryKeyFirst))
    closed
  rw [markup_lines_eq]
  simpa only [Table.diagram, mem_primary_key_first, List.map_append, List.map_cons, List.map_nil,
    List.singleton_append, true_and, and_true] using all

theorem shortened_markup (schema : Schema) :
    Shortened schema.diagram.lines (schema.markupLines {})
      (∀ table ∈ schema.tables, ∀ column ∈ table.columns, column.Whole) := by
  have first := shortened_refl [header]
  have tables : Shortened
      (schema.tables.flatMap fun table => table.diagram.map Statement.line)
      (schema.tables.flatMap fun table => table.markupLines {}) _ :=
    shortened_flat_map shortened_table
  have links := shortened_refl (schema.foreignKeys.map ForeignKey.markupLine)
  have all := shortened_append (shortened_append first tables) links
  have keys : schema.foreignKeys.map (fun key => (Statement.addRelationship key.link).line) =
      schema.foreignKeys.map ForeignKey.markupLine :=
    List.map_congr_left fun key _ => (link_line_eq key).symm
  simpa [Document.lines, Schema.diagram, Schema.markupLines, List.map_flatMap, Function.comp_def,
    keys] using all

/-- Reading the markup of a schema gives its diagram. Drawing the diagram gives the markup again
exactly if no column is lost and none has two marks. -/
theorem read_markup_loss (schema : Schema) (words : schema.MarkupWords) (defaultLabel : String) :
    readDescription .entityRelationship { defaultLabel } (schema.markup {}) = .ok schema.diagram ∧
      (markup? .entityRelationship { defaultLabel } (schema.markup {}) =
          some (schema.markup {} ++ "\n") ↔
        ∀ table ∈ schema.tables, ∀ column ∈ table.columns, column.Whole) := by
  have read : readDescription .entityRelationship { defaultLabel } (schema.markup {}) =
      .ok schema.diagram := by
    have statements := (says_markup defaultLabel words).statements
    rw [readDescription, Schema.markup, statements_of_join_lines (unbroken_markup words), statements]
  have nonempty : schema.markupLines {} ≠ [] := by simp [Schema.markupLines]
  refine ⟨read, ?_⟩
  simp only [markup?, read, Option.some_inj]
  rw [Schema.markup, joinLines_append_lineFeed nonempty]
  exact (shortened_markup schema).eq_iff

theorem read_markup_of_orders :
    let orders : Table := ⟨"orders", [{ name := "hint", type := "json" },
      { name := "note", type := "json", nullable := false },
      { name := "customer", type := "bigint", foreignKey := true },
      { name := "id", type := "int", primaryKey := true, nullable := false }]⟩
    let schema : Schema := ⟨[orders, ⟨"empty", []⟩],
      [⟨"orders_customer", "orders", "customer", "customers", "id"⟩]⟩
    schema.MarkupWords ∧
      readDescription .entityRelationship { defaultLabel := "" } (schema.markup {}) =
        .ok [.openEntity "orders", .addAttribute ⟨"int", "id", some .primary⟩,
          .addAttribute ⟨"json", "hint", some .nullable⟩,
          .addAttribute ⟨"bigint", "customer", some .foreign⟩, .closeEntity,
          .openEntity "empty", .closeEntity,
          .addRelationship ⟨"orders", "customers", "orders_customer"⟩] := by
  intro orders schema
  have words : schema.MarkupWords := by decide
  exact ⟨words, (read_markup_loss schema words "").1⟩

end ErDiagram
