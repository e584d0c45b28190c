import ErDiagram.Listing
import ErDiagram.Proofs.Text.Word

/-!
# What a report keeps of a schema

A report says of every column its name, its type and whether it is in the primary key, and of the other
columns whether they are foreign or nullable. It says every field of the foreign keys. Of a schema whose
names and types are words nothing else is lost: the headings and the empty lines tell where each table,
each section and the whole list of tables end, whatever the width of the rules.
-/

namespace ErDiagram

set_option autoImplicit false

open Text

def Column.reported (column : Column) : Column where
  name := column.name
  type := column.type
  size := none
  nullable := !column.primaryKey && column.nullable
  primaryKey := column.primaryKey
  foreignKey := !column.primaryKey && column.foreignKey

/-- The columns of the primary key stand first. -/
def Table.reported (table : Table) : Table :=
  ⟨table.name, table.primaryKeyFirst.map Column.reported⟩

def Schema.reported (schema : Schema) : Schema :=
  ⟨schema.tables.map Table.reported, schema.foreignKeys⟩

/-- The report of a table under another measure of its heading. -/
def Table.measuredLines (width : String → Nat) (table : Table) : List String :=
  let heading := "ENTITY: " ++ table.name
  [heading, String.ofList (List.replicate (max (width heading) sectionWidth) '-')] ++
    table.reportColumns ++ [""]

def Schema.measuredLines (width : String → Nat) (schema : Schema) : List String :=
  ["ENTITY-RELATIONSHIP DIAGRAM (ER/EER)", rule '=' titleWidth "", ""] ++
    schema.tables.flatMap (Table.measuredLines width) ++ relationshipReport schema.foreignKeys

/-- The report under another measure of the headings. -/
def Schema.measuredReport (width : String → Nat) (schema : Schema) : String :=
  joinLines (schema.measuredLines width)

theorem report_eq_measured_report (schema : Schema) :
    schema.report {} = schema.measuredReport displayWidth := rfl

def Column.Words (column : Column) : Prop := AsciiWord column.name ∧ AsciiWord column.type

def Table.Words (table : Table) : Prop :=
  AsciiWord table.name ∧ ∀ column ∈ table.columns, column.Words

def ForeignKey.Words (key : ForeignKey) : Prop :=
  AsciiWord key.name ∧ AsciiWord key.table ∧ AsciiWord key.column ∧ AsciiWord key.refTable ∧
    AsciiWord key.refColumn

/-- Every name and every type of the schema is an ASCII word. -/
def Schema.Words (schema : Schema) : Prop :=
  (∀ table ∈ schema.tables, table.Words) ∧ ∀ key ∈ schema.foreignKeys, key.Words

instance (column : Column) : Decidable column.Words :=
  inferInstanceAs (Decidable (_ ∧ _))

instance (table : Table) : Decidable table.Words :=
  inferInstanceAs (Decidable (_ ∧ _))

instance (key : ForeignKey) : Decidable key.Words :=
  inferInstanceAs (Decidable (_ ∧ _))

instance (schema : Schema) : Decidable schema.Words :=
  inferInstanceAs (Decidable (_ ∧ _))

/-- Whether a line begins as those of columns do. -/
def isColumnLine (line : String) : Bool := "    * ".toList.isPrefixOf line.toList

theorem is_column_line_append (rest : String) : isColumnLine ("    * " ++ rest) = true := by
  rw [isColumnLine, String.toList_append, List.isPrefixOf_iff_prefix]
  exact List.prefix_append _ _

theorem report_line_append_inj {first second : Column} {rest other : String} (words : first.Words)
    (wordsToo : second.Words) (same : first.reportLine ++ rest = second.reportLine ++ other) :
    first.name = second.name ∧ first.type = second.type ∧ rest = other := by
  simp only [Column.reportLine, String.append_assoc] at same
  have named := (String.append_right_inj _).mp same
  obtain ⟨name, typed⟩ := words.1.append_inj wordsToo.1 (by decide) named
  obtain ⟨type, rests⟩ := words.2.append_inj wordsToo.2 (by decide) typed
  exact ⟨name, type, rests⟩

theorem report_line_inj {first second : Column} (words : first.Words) (wordsToo : second.Words)
    (same : first.reportLine = second.reportLine) :
    first.name = second.name ∧ first.type = second.type := by
  have appended : first.reportLine ++ "" = second.reportLine ++ "" := by rw [same]
  obtain ⟨name, type, -⟩ := report_line_append_inj words wordsToo appended
  exact ⟨name, type⟩

theorem marked_report_line_inj {first second : Column} (words : first.Words)
    (wordsToo : second.Words) (same : first.markedReportLine = second.markedReportLine) :
    first.name = second.name ∧ first.type = second.type ∧
      first.foreignKey = second.foreignKey ∧ first.nullable = second.nullable := by
  have marks : ∀ foreign nullable foreignToo nullableToo : Bool,
      (if foreign then " [FK]" else "") ++ (if nullable then " [NULL]" else "") =
        (if foreignToo then " [FK]" else "") ++ (if nullableToo then " [NULL]" else "") →
      foreign = foreignToo ∧ nullable = nullableToo := by decide
  simp only [Column.markedReportLine, String.append_assoc] at same
  obtain ⟨name, type, marked⟩ := report_line_append_inj words wordsToo same
  exact ⟨name, type, marks _ _ _ _ marked⟩

theorem key_report_line_inj {first second : ForeignKey} (words : first.Words)
    (wordsToo : second.Words) (same : first.reportLine = second.reportLine) : first = second := by
  obtain ⟨name, table, column, refTable, -⟩ := words
  obtain ⟨nameToo, tableToo, columnToo, refTableToo, -⟩ := wordsToo
  simp only [ForeignKey.reportLine, String.append_assoc] at same
  have named := (String.append_right_inj _).mp same
  obtain ⟨sameName, tabled⟩ := name.append_inj nameToo (by decide) named
  obtain ⟨sameTable, columned⟩ := table.append_inj tableToo (by decide) tabled
  obtain ⟨sameColumn, targeted⟩ := column.append_inj columnToo (by decide) columned
  obtain ⟨sameTarget, sameTargetColumn⟩ := refTable.append_inj refTableToo (by decide) targeted
  cases first
  cases second
  congr

theorem map_eq_map_of_written {α β γ : Type} {write : α → β} {keep : α → γ} {first second : List α}
    (told : ∀ a ∈ first, ∀ b ∈ second, write a = write b → keep a = keep b)
    (same : first.map write = second.map write) : first.map keep = second.map keep := by
  induction first generalizing second with
  | nil =>
      rw [List.map_nil, eq_comm, List.map_eq_nil_iff] at same
      rw [same]
  | cons a first ih =>
      cases second with
      | nil => contradiction
      | cons b second =>
          obtain ⟨here, later⟩ := List.cons.inj same
          have kept := told a List.mem_cons_self b List.mem_cons_self here
          have rest := ih (fun c member d memberToo =>
            told c (List.mem_cons_of_mem _ member) d (List.mem_cons_of_mem _ memberToo)) later
          rw [List.map_cons, List.map_cons, kept, rest]

/-- What follows a section is neither a line of it nor its heading. -/
def FollowsSection (heading : String) (rest : List String) : Prop :=
  ∀ line ∈ rest.head?, isColumnLine line = false ∧ line ≠ heading

theorem section_append_inj {heading : String} {first second rest other : List String}
    (written : ∀ line ∈ first, isColumnLine line = true)
    (writtenToo : ∀ line ∈ second, isColumnLine line = true) (follows : FollowsSection heading rest)
    (followsToo : FollowsSection heading other)
    (same : reportSection heading first ++ rest = reportSection heading second ++ other) :
    first = second ∧ rest = other := by
  have shown (line : String) (later : List String) :
      reportSection heading (line :: later) = heading :: line :: later := rfl
  cases first with
  | nil =>
      cases second with
      | nil => exact ⟨rfl, same⟩
      | cons next later =>
          rw [shown] at same
          have begins : rest.head? = some heading := congrArg List.head? same
          exact absurd rfl (follows heading begins).2
  | cons line first =>
      cases second with
      | nil =>
          rw [shown] at same
          have begins : other.head? = some heading := congrArg List.head? same.symm
          exact absurd rfl (followsToo heading begins).2
      | cons next later =>
          rw [shown, shown] at same
          have inside := (List.cons.inj same).2
          exact run_append_inj written writtenToo (fun a isHead => (follows a isHead).1)
            (fun a isHead => (followsToo a isHead).1) inside

theorem follows_other_section (lines rest : List String) :
    FollowsSection "  PRIMARY KEY ATTRIBUTES:"
      (reportSection "  OTHER ATTRIBUTES:" lines ++ "" :: rest) := by
  intro line isHead
  have either : line = "  OTHER ATTRIBUTES:" ∨ line = "" := by
    cases lines with
    | nil => exact .inr (Option.some.inj isHead).symm
    | cons next later => exact .inl (Option.some.inj isHead).symm
  rcases either with rfl | rfl
  · decide
  · decide

theorem follows_empty_line (rest : List String) :
    FollowsSection "  OTHER ATTRIBUTES:" ("" :: rest) := by
  rintro _ ⟨⟩
  decide

theorem reported_key_columns_of_lines {first second : Table} (words : first.Words)
    (wordsToo : second.Words)
    (same : first.keyColumns.map Column.reportLine = second.keyColumns.map Column.reportLine) :
    first.keyColumns.map Column.reported = second.keyColumns.map Column.reported := by
  apply map_eq_map_of_written _ same
  intro a member b memberToo written
  obtain ⟨inTable, inKey⟩ := List.mem_filter.mp member
  obtain ⟨inTableToo, inKeyToo⟩ := List.mem_filter.mp memberToo
  obtain ⟨name, type⟩ := report_line_inj (words.2 a inTable) (wordsToo.2 b inTableToo) written
  simp [Column.reported, name, type, inKey, inKeyToo]

theorem reported_other_columns_of_lines {first second : Table} (words : first.Words)
    (wordsToo : second.Words)
    (same : first.otherColumns.map Column.markedReportLine =
      second.otherColumns.map Column.markedReportLine) :
    first.otherColumns.map Column.reported = second.otherColumns.map Column.reported := by
  apply map_eq_map_of_written _ same
  intro a member b memberToo written
  obtain ⟨inTable, noKey⟩ := List.mem_filter.mp member
  obtain ⟨inTableToo, noKeyToo⟩ := List.mem_filter.mp memberToo
  obtain ⟨name, type, foreign, nullable⟩ :=
    marked_report_line_inj (words.2 a inTable) (wordsToo.2 b inTableToo) written
  rw [Bool.not_eq_true'] at noKey noKeyToo
  simp [Column.reported, name, type, foreign, nullable, noKey, noKeyToo]

theorem key_lines_are_column_lines (table : Table) :
    ∀ line ∈ table.keyColumns.map Column.reportLine, isColumnLine line = true := by
  intro line member
  obtain ⟨column, -, rfl⟩ := List.mem_map.mp member
  simp only [Column.reportLine, String.append_assoc, is_column_line_append]

theorem other_lines_are_column_lines (table : Table) :
    ∀ line ∈ table.otherColumns.map Column.markedReportLine, isColumnLine line = true := by
  intro line member
  obtain ⟨column, -, rfl⟩ := List.mem_map.mp member
  simp only [Column.markedReportLine, Column.reportLine, String.append_assoc, is_column_line_append]

/-- The empty line below a table tells where its columns end. -/
theorem report_columns_append_inj {first second : Table} {rest other : List String}
    (words : first.Words) (wordsToo : second.Words)
    (same : first.reportColumns ++ "" :: rest = second.reportColumns ++ "" :: other) :
    first.primaryKeyFirst.map Column.reported = second.primaryKeyFirst.map Column.reported ∧
      rest = other := by
  simp only [Table.reportColumns, List.append_assoc] at same
  obtain ⟨keyLines, later⟩ := section_append_inj (key_lines_are_column_lines first)
    (key_lines_are_column_lines second) (follows_other_section _ _) (follows_other_section _ _) same
  obtain ⟨otherLines, ended⟩ := section_append_inj (other_lines_are_column_lines first)
    (other_lines_are_column_lines second) (follows_empty_line _) (follows_empty_line _) later
  refine ⟨?_, (List.cons.inj ended).2⟩
  rw [Table.primaryKeyFirst, Table.primaryKeyFirst, List.map_append, List.map_append,
    reported_key_columns_of_lines words wordsToo keyLines,
    reported_other_columns_of_lines words wordsToo otherLines]

variable {width : String → Nat}

theorem measured_lines_append (table : Table) (rest : List String) :
    table.measuredLines width ++ rest = ("ENTITY: " ++ table.name) ::
      String.ofList (List.replicate (max (width ("ENTITY: " ++ table.name)) sectionWidth) '-') ::
        (table.reportColumns ++ "" :: rest) := by
  simp [Table.measuredLines]

theorem table_lines_append_inj {first second : Table} {rest other : List String}
    (words : first.Words) (wordsToo : second.Words)
    (same : first.measuredLines width ++ rest = second.measuredLines width ++ other) :
    first.reported = second.reported ∧ rest = other := by
  rw [measured_lines_append, measured_lines_append] at same
  obtain ⟨heading, below⟩ := List.cons.inj same
  obtain ⟨-, columnLines⟩ := List.cons.inj below
  obtain ⟨columns, rests⟩ := report_columns_append_inj words wordsToo columnLines
  have name : first.name = second.name := (String.append_right_inj _).mp heading
  refine ⟨?_, rests⟩
  rw [Table.reported, Table.reported, name, columns]

theorem relationship_report_ne_table_lines (keys : List ForeignKey) (table : Table)
    (rest : List String) : relationshipReport keys ≠ table.measuredLines width ++ rest := by
  intro same
  rw [measured_lines_append] at same
  cases keys with
  | nil => contradiction
  | cons key later =>
      have heading : "RELATIONSHIPS:" = "ENTITY: " ++ table.name := (List.cons.inj same).1
      have letters := congrArg (·.toList.head?) heading
      simp at letters

theorem tables_append_inj {first second : List Table} {keys others : List ForeignKey}
    (words : ∀ table ∈ first, table.Words) (wordsToo : ∀ table ∈ second, table.Words)
    (same : first.flatMap (Table.measuredLines width) ++ relationshipReport keys =
      second.flatMap (Table.measuredLines width) ++ relationshipReport others) :
    first.map Table.reported = second.map Table.reported ∧
      relationshipReport keys = relationshipReport others := by
  induction first generalizing second with
  | nil =>
      cases second with
      | nil => exact ⟨rfl, same⟩
      | cons next later =>
          rw [List.flatMap_nil, List.flatMap_cons, List.append_assoc] at same
          exact absurd same (relationship_report_ne_table_lines _ _ _)
  | cons table first ih =>
      cases second with
      | nil =>
          rw [List.flatMap_nil, List.flatMap_cons, List.append_assoc] at same
          exact absurd same.symm (relationship_report_ne_table_lines _ _ _)
      | cons next later =>
          rw [List.flatMap_cons, List.flatMap_cons, List.append_assoc, List.append_assoc] at same
          obtain ⟨here, inRest⟩ := List.forall_mem_cons.mp words
          obtain ⟨hereToo, inLater⟩ := List.forall_mem_cons.mp wordsToo
          obtain ⟨reported, rests⟩ := table_lines_append_inj here hereToo same
          obtain ⟨tables, relationships⟩ := ih inRest inLater rests
          exact ⟨by rw [List.map_cons, List.map_cons, reported, tables], relationships⟩

theorem relationship_report_inj {first second : List ForeignKey}
    (words : ∀ key ∈ first, key.Words) (wordsToo : ∀ key ∈ second, key.Words)
    (same : relationshipReport first = relationshipReport second) : first = second := by
  have shown (key : ForeignKey) (later : List ForeignKey) :
      relationshipReport (key :: later) = "RELATIONSHIPS:" :: rule '-' sectionWidth "" ::
        ((key :: later).map ForeignKey.reportLine ++ [""]) := rfl
  cases first with
  | nil =>
      cases second with
      | nil => rfl
      | cons next later => contradiction
  | cons key first =>
      cases second with
      | nil => contradiction
      | cons next later =>
          rw [shown, shown] at same
          have inside := (List.cons.inj (List.cons.inj same).2).2
          have written := List.append_cancel_right inside
          have kept : (key :: first).map id = (next :: later).map id :=
            map_eq_map_of_written (fun a member b memberToo =>
              key_report_line_inj (words a member) (wordsToo b memberToo)) written
          rwa [List.map_id, List.map_id] at kept

theorem no_line_feed_in_section {heading : String} {lines : List String}
    (inHeading : '\n' ∉ heading.toList) (inLines : ∀ line ∈ lines, '\n' ∉ line.toList) :
    ∀ line ∈ reportSection heading lines, '\n' ∉ line.toList := by
  intro line member
  rw [reportSection] at member
  split at member
  · contradiction
  · cases member with
    | head => exact inHeading
    | tail _ inside => exact inLines line inside

theorem no_line_feed_in_column {column : Column} (words : column.Words) :
    '\n' ∉ column.reportLine.toList ∧ '\n' ∉ column.markedReportLine.toList := by
  have name : '\n' ∉ column.name.toList := words.1.lacks rfl
  have type : '\n' ∉ column.type.toList := words.2.lacks rfl
  have line : '\n' ∉ column.reportLine.toList := by simp [Column.reportLine, name, type]
  refine ⟨line, ?_⟩
  rw [Column.markedReportLine]
  cases column.foreignKey <;> cases column.nullable <;> simp [line]

theorem no_line_feed_in_report_columns {table : Table} (words : table.Words) :
    ∀ line ∈ table.reportColumns, '\n' ∉ line.toList := by
  rw [Table.reportColumns, List.forall_mem_append]
  constructor
  · apply no_line_feed_in_section (by decide)
    intro line member
    obtain ⟨column, found, rfl⟩ := List.mem_map.mp member
    exact (no_line_feed_in_column (words.2 column (List.mem_filter.mp found).1)).1
  · apply no_line_feed_in_section (by decide)
    intro line member
    obtain ⟨column, found, rfl⟩ := List.mem_map.mp member
    exact (no_line_feed_in_column (words.2 column (List.mem_filter.mp found).1)).2

theorem no_line_feed_in_table {table : Table} (words : table.Words) :
    ∀ line ∈ table.measuredLines width, '\n' ∉ line.toList := by
  have name : '\n' ∉ table.name.toList := words.1.lacks rfl
  intro line member
  simp only [Table.measuredLines, List.mem_append, List.mem_cons, List.not_mem_nil, or_false]
    at member
  rcases member with ((rfl | rfl) | inColumns) | rfl
  · simp [name]
  · simp
  · exact no_line_feed_in_report_columns words line inColumns
  · simp

theorem no_line_feed_in_relationships {keys : List ForeignKey} (words : ∀ key ∈ keys, key.Words) :
    ∀ line ∈ relationshipReport keys, '\n' ∉ line.toList := by
  intro line member
  rw [relationshipReport] at member
  split at member
  · contradiction
  · simp only [List.mem_append, List.mem_cons, List.not_mem_nil, or_false, List.mem_map] at member
    rcases member with ((rfl | rfl) | ⟨key, found, rfl⟩) | rfl
    · decide
    · decide
    · obtain ⟨name, table, column, refTable, refColumn⟩ := words key found
      have feed {text : String} (word : AsciiWord text) : '\n' ∉ text.toList := word.lacks rfl
      simp [ForeignKey.reportLine, feed name, feed table, feed column, feed refTable,
        feed refColumn]
    · simp

theorem no_line_feed_in_report {schema : Schema} (words : schema.Words) :
    ∀ line ∈ schema.measuredLines width, '\n' ∉ line.toList := by
  rw [Schema.measuredLines, List.forall_mem_append, List.forall_mem_append]
  refine ⟨⟨by decide, ?_⟩, no_line_feed_in_relationships words.2⟩
  intro line member
  obtain ⟨table, found, inTable⟩ := List.mem_flatMap.mp member
  exact no_line_feed_in_table (words.1 table found) line inTable

theorem reported_of_measured_report {first second : Schema} (words : first.Words)
    (wordsToo : second.Words) (same : first.measuredReport width = second.measuredReport width) :
    first.reported = second.reported := by
  have found := join_lines_inj (by simp [Schema.measuredLines]) (by simp [Schema.measuredLines])
    (no_line_feed_in_report words) (no_line_feed_in_report wordsToo) same
  simp only [Schema.measuredLines, List.append_assoc] at found
  obtain ⟨tables, relationships⟩ :=
    tables_append_inj words.1 wordsToo.1 (List.append_cancel_left found)
  have keys := relationship_report_inj words.2 wordsToo.2 relationships
  rw [Schema.reported, Schema.reported, tables, keys]

theorem key_columns_of_reported (table : Table) :
    table.reported.keyColumns = table.keyColumns.map Column.reported := by
  simp [Table.reported, Table.keyColumns, Table.primaryKeyFirst, Table.otherColumns,
    List.filter_map, Function.comp_def, Column.reported]

theorem other_columns_of_reported (table : Table) :
    table.reported.otherColumns = table.otherColumns.map Column.reported := by
  simp [Table.reported, Table.keyColumns, Table.primaryKeyFirst, Table.otherColumns,
    List.filter_map, Function.comp_def, Column.reported]

theorem marked_report_line_of_reported {column : Column} (noKey : column.primaryKey = false) :
    column.reported.markedReportLine = column.markedReportLine := by
  simp [Column.markedReportLine, Column.reportLine, Column.reported, noKey]

theorem report_columns_of_reported (table : Table) :
    table.reported.reportColumns = table.reportColumns := by
  have keyLines : table.reported.keyColumns.map Column.reportLine =
      table.keyColumns.map Column.reportLine := by
    rw [key_columns_of_reported, List.map_map]
    rfl
  have otherLines : table.reported.otherColumns.map Column.markedReportLine =
      table.otherColumns.map Column.markedReportLine := by
    rw [other_columns_of_reported, List.map_map]
    apply List.map_congr_left
    intro column member
    obtain ⟨-, noKey⟩ := List.mem_filter.mp member
    exact marked_report_line_of_reported (by rwa [Bool.not_eq_true'] at noKey)
  rw [Table.reportColumns, keyLines, otherLines, Table.reportColumns]

/-- What is not reported does not change the report. -/
theorem measured_report_of_reported (width : String → Nat) (schema : Schema) :
    schema.reported.measuredReport width = schema.measuredReport width := by
  have tables : schema.reported.tables.flatMap (Table.measuredLines width) =
      schema.tables.flatMap (Table.measuredLines width) := by
    rw [Schema.reported, List.flatMap_map]
    congr 1
    funext table
    rw [Table.measuredLines, report_columns_of_reported]
    rfl
  rw [Schema.measuredReport, Schema.measuredLines, tables]
  rfl

theorem measured_report_eq_iff {first second : Schema} (words : first.Words)
    (wordsToo : second.Words) (width : String → Nat) :
    first.measuredReport width = second.measuredReport width ↔
      first.reported = second.reported := by
  constructor
  · exact reported_of_measured_report words wordsToo
  · intro same
    rw [← measured_report_of_reported, same, measured_report_of_reported]

/-- The reports of two schemas are the same exactly if the same is reported of both, however wide their
headings are held to be. -/
theorem reports_tell_schemas_apart (first second : Schema) (words : first.Words)
    (wordsToo : second.Words) :
    (first.report {} = second.report {} ↔ first.reported = second.reported) ∧
      ∀ width : String → Nat,
        first.measuredReport width = second.measuredReport width ↔
          first.reported = second.reported := by
  refine ⟨?_, measured_report_eq_iff words wordsToo⟩
  rw [report_eq_measured_report, report_eq_measured_report]
  exact measured_report_eq_iff words wordsToo displayWidth

/-- A report shows neither the order of columns across the primary key nor the marks of its columns nor
a size, and it shows a table without columns. -/
theorem reports_of_orders :
    let id : Column := { name := "id", type := "int", primaryKey := true }
    let note : Column := { name := "note", type := "char", foreignKey := true }
    let keys : List ForeignKey := [⟨"orders_note", "orders", "note", "notes", "id"⟩]
    let orders : Schema := ⟨[⟨"orders", [note, id]⟩, ⟨"notes", []⟩], keys⟩
    let alike : Schema := ⟨[⟨"orders", [{ id with nullable := false, foreignKey := true },
      { note with size := some .max }]⟩, ⟨"notes", []⟩], keys⟩
    let other : Schema := ⟨[⟨"orders", [note, id]⟩], keys⟩
    orders.Words ∧ alike.Words ∧ other.Words ∧ orders.report {} = alike.report {} ∧
      orders.report {} ≠ other.report {} ∧
      ∀ width : String → Nat, orders.measuredReport width ≠ other.measuredReport width := by
  intro id note keys orders alike other
  have words : orders.Words := by decide
  have wordsAlike : alike.Words := by decide
  have wordsOther : other.Words := by decide
  obtain ⟨same, -⟩ := reports_tell_schemas_apart orders alike words wordsAlike
  obtain ⟨apart, apartEverywhere⟩ := reports_tell_schemas_apart orders other words wordsOther
  have differ : orders.reported ≠ other.reported := by decide
  refine ⟨words, wordsAlike, wordsOther, same.mpr (by decide), ?_, ?_⟩
  · intro report
    exact differ (apart.mp report)
  · intro width report
    exact differ ((apartEverywhere width).mp report)

end ErDiagram
