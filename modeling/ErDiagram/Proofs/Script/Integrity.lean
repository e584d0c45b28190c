import ErDiagram.Proofs.Script.Scanning
import ErDiagram.Script.Declarations

/-!
# Integrity of a schema read from a script

Names in a script need not be distinct, a reference may stand before the table that it refers to, and
a column may be said to be null after it was made a primary key. The schema that is read is sound all
the same: primary keys are never null, and the foreign keys that were kept and the columns that are
marked as such belong together.

Reading the statements marks no column. Each foreign key then marks the first column of its name in the
first table of its name, and only if it is kept.
-/

namespace ErDiagram

set_option autoImplicit false

/-- Whether no name before the index is the one at the index. -/
def FirstOfName (names : List String) (index : Nat) : Prop :=
  ∀ earlier < index, names[earlier]? ≠ names[index]?

/-- A schema whose primary keys are never null, whose foreign keys refer to its tables and start from
marked columns, and whose marked columns are just those that its foreign keys find. -/
structure Schema.Sound (schema : Schema) : Prop where
  neverNull : ∀ table ∈ schema.tables, ∀ column ∈ table.columns,
    column.primaryKey = true → column.nullable = false
  targets : ∀ key ∈ schema.foreignKeys, key.refTable ∈ schema.tables.map Table.name
  sources : ∀ key ∈ schema.foreignKeys,
    ∃ column, schema.column? key.table key.column = some column ∧ column.foreignKey = true
  marks : ∀ inTables table, schema.tables[inTables]? = some table →
    ∀ inColumns column, table.columns[inColumns]? = some column → column.foreignKey = true →
      FirstOfName (schema.tables.map Table.name) inTables ∧
        FirstOfName (table.columns.map Column.name) inColumns ∧
        ∃ key ∈ schema.foreignKeys, key.table = table.name ∧ key.column = column.name

section UpdateFirst

variable {α : Type} {name : α → String} {change : α → α}

theorem map_of_update {β : Type} {view : α → β} (keeps : ∀ item, view (change item) = view item)
    (found : α → Bool) (items : List α) : (updateFirst found change items).map view = items.map view := by
  induction items with
  | nil => rfl
  | cons item rest ih =>
      rw [updateFirst]
      split
      · rw [List.map_cons, List.map_cons, keeps]
      · rw [List.map_cons, List.map_cons, ih]

variable (name) in
theorem find_of_update (keeps : ∀ item, name (change item) = name item) (changed wanted : String)
    (items : List α) :
    (updateFirst (fun item => name item = changed) change items).find?
        (fun item => name item = wanted) =
      (items.find? fun item => name item = wanted).map fun item =>
        if changed = wanted then change item else item := by
  induction items with
  | nil => rfl
  | cons item rest ih =>
      by_cases here : name item = changed
      · subst here
        rw [updateFirst, if_pos (by simp)]
        by_cases same : name item = wanted
        · simp [keeps, same]
        · simp [keeps, same]
      · rw [updateFirst, if_neg (by simpa using here)]
        by_cases same : name item = wanted
        · have other : ¬ changed = wanted := fun equal => here (same.trans equal.symm)
          simp [same, other]
        · rw [List.find?_cons_of_neg (by simpa using same), List.find?_cons_of_neg
            (by simpa using same), ih]

theorem get_of_update {found : α → Bool} {items : List α} {index : Nat} {item : α}
    (inItems : (updateFirst found change items)[index]? = some item) :
    items[index]? = some item ∨ ∃ old, items[index]? = some old ∧ item = change old ∧
      found old = true ∧ ∀ earlier < index, ∀ other ∈ items[earlier]?, found other = false := by
  induction items generalizing index with
  | nil => exact .inl inItems
  | cons first rest ih =>
      rw [updateFirst] at inItems
      by_cases here : found first = true
      · rw [if_pos here] at inItems
        cases index with
        | zero => exact .inr ⟨first, rfl, (Option.some.inj inItems).symm, here, by simp⟩
        | succ index => exact .inl inItems
      · rw [if_neg here] at inItems
        cases index with
        | zero => exact .inl inItems
        | succ index =>
            rcases ih inItems with same | ⟨old, inRest, changed, isFound, unfound⟩
            · exact .inl same
            · refine .inr ⟨old, inRest, changed, isFound, ?_⟩
              intro earlier before other member
              cases earlier with
              | zero =>
                  cases member
                  simpa using here
              | succ earlier => exact unfound earlier (Nat.lt_of_succ_lt_succ before) other member

theorem first_of_name {items : List α} {index : Nat} {item : α} (inItems : items[index]? = some item)
    (unfound : ∀ earlier < index, ∀ other ∈ items[earlier]?,
      decide (name other = name item) = false) :
    FirstOfName (items.map name) index := by
  intro earlier before same
  rw [List.getElem?_map, List.getElem?_map, inItems, Option.map_some,
    Option.map_eq_some_iff] at same
  obtain ⟨other, member, equal⟩ := same
  exact absurd equal (by simpa using unfound earlier before other member)

end UpdateFirst

namespace Script

theorem clause_changes {table : String} {reading : ColumnReading} {token : Token}
    {rest : List Token} {found : Parsed ColumnReading}
    (read : reading.clause table token rest = .ok found) :
    ∃ nullable primaryKey, found.value.column = { reading.column with nullable, primaryKey } := by
  unfold ColumnReading.clause at read
  split at read
  · cases read; exact ⟨_, _, rfl⟩
  · split at read
    · cases read; exact ⟨_, _, rfl⟩
    · cases read; exact ⟨_, _, rfl⟩
  · cases read; exact ⟨_, _, rfl⟩
  · cases read; exact ⟨_, _, rfl⟩
  · cases read; exact ⟨_, _, rfl⟩
  · split at read
    · contradiction
    · cases read; exact ⟨_, _, rfl⟩
  · cases read; exact ⟨_, _, rfl⟩
  · cases read; exact ⟨_, _, rfl⟩
  · cases read; exact ⟨_, _, rfl⟩
  · cases read; exact ⟨_, _, rfl⟩
  · cases read; exact ⟨_, _, rfl⟩

theorem clauses_change {table : String} {reading : ColumnReading} {tokens : List Token}
    {found : Parsed ColumnReading} (read : reading.clauses table tokens = .ok found) :
    ∃ nullable primaryKey, found.value.column = { reading.column with nullable, primaryKey } := by
  fun_induction ColumnReading.clauses table reading tokens with
  | case1 => cases read; exact ⟨_, _, rfl⟩
  | case2 => cases read; exact ⟨_, _, rfl⟩
  | case3 => contradiction
  | case4 reading token rest _ later step ih =>
      obtain ⟨nullable, primaryKey, same⟩ := ih read
      obtain ⟨_, _, before⟩ := clause_changes step
      exact ⟨nullable, primaryKey, by rw [same, before]⟩

theorem definition_marks_nothing {table name : String} {tokens : List Token}
    {found : Parsed (Option ColumnReading)}
    (read : columnDefinition table name tokens = .ok found) :
    ∀ reading ∈ found.value, reading.column.foreignKey = false := by
  unfold columnDefinition at read
  split at read
  · dsimp only at read
    split at read
    · contradiction
    · next clauses =>
      cases read
      rintro reading ⟨⟩
      obtain ⟨_, _, same⟩ := clauses_change clauses
      rw [same]
  · cases read
    simp

def TableReading.Unmarked (reading : TableReading) : Prop :=
  ∀ column ∈ reading.columns, column.foreignKey = false

theorem unmarked_add_column {reading : TableReading} (unmarked : reading.Unmarked)
    {found : Option ColumnReading} (fresh : ∀ reading ∈ found, reading.column.foreignKey = false) :
    (reading.addColumn found).Unmarked := by
  cases found with
  | none => exact unmarked
  | some added =>
      intro column member
      rcases List.mem_append.mp member with before | new
      · exact unmarked column before
      · cases List.mem_singleton.mp new
        exact fresh added rfl

theorem item_marks_nothing {reading : TableReading} (unmarked : reading.Unmarked) {token : Token}
    {rest : List Token} {found : Parsed TableReading}
    (read : reading.item token rest = .ok found) : found.value.Unmarked := by
  unfold TableReading.item at read
  split at read
  · cases read; exact unmarked
  · cases read; exact unmarked
  · cases read; exact unmarked
  · split at read
    · contradiction
    · cases read; exact unmarked
  · cases read; exact unmarked
  · cases read; exact unmarked
  · cases read; exact unmarked
  · cases read; exact unmarked
  · split at read
    · contradiction
    · next definition =>
      cases read
      exact unmarked_add_column unmarked (definition_marks_nothing definition)
  · cases read; exact unmarked

theorem items_mark_nothing {reading : TableReading} (unmarked : reading.Unmarked)
    {tokens : List Token} {found : Parsed TableReading} (read : reading.items tokens = .ok found) :
    found.value.Unmarked := by
  fun_induction TableReading.items reading tokens with
  | case1 => cases read; exact unmarked
  | case2 => cases read; exact unmarked
  | case3 => contradiction
  | case4 reading token rest _ later step ih => exact ih (item_marks_nothing unmarked step) read

/-- A column as the definition of its table leaves it: without a mark, and never null in a primary
key. -/
structure Fresh (column : Column) : Prop where
  unmarked : column.foreignKey = false
  neverNull : column.primaryKey = true → column.nullable = false

def Declarations.Fresh (declared : Declarations) : Prop :=
  ∀ table ∈ declared.tables, ∀ column ∈ table.columns, Script.Fresh column

/-- The primary key is marked last, so that no clause on null can come after it. -/
theorem fresh_table {reading : TableReading} (unmarked : reading.Unmarked) :
    ∀ column ∈ reading.table.columns, Fresh column := by
  intro column member
  obtain ⟨original, inReading, rfl⟩ := List.mem_map.mp member
  constructor
  · exact unmarked original inReading
  · intro primaryKey
    exact (congrArg (original.nullable && !·) primaryKey).trans (Bool.and_false _)

theorem table_definition_fresh {tokens : List Token} {found : Parsed Declarations}
    (read : tableDefinition tokens = .ok found) : found.value.Fresh := by
  unfold tableDefinition at read
  split at read
  · split at read
    · contradiction
    · next items =>
      cases read
      intro table member
      cases List.mem_singleton.mp member
      exact fresh_table (items_mark_nothing (by simp [TableReading.Unmarked]) items)
  · cases read
    simp [Declarations.Fresh]

theorem change_defines_nothing {tokens : List Token} {found : Parsed Declarations}
    (read : tableChange tokens = .ok found) : found.value.tables = [] := by
  rcases tableChange_cases tokens with ⟨_, _, same⟩ | ⟨_, _, _, _, _, _, same⟩ |
    ⟨_, _, _, _, _, _, same⟩ <;> cases same.symm.trans read <;> rfl

theorem table_change_fresh {tokens : List Token} {found : Parsed Declarations}
    (read : tableChange tokens = .ok found) : found.value.Fresh := by
  simp [Declarations.Fresh, change_defines_nothing read]

theorem statement_fresh {token : Token} {rest : List Token} {found : Parsed Declarations}
    (read : statement token rest = .ok found) : found.value.Fresh := by
  unfold statement at read
  split at read
  · exact table_definition_fresh read
  · cases read; simp [Declarations.Fresh]
  · exact table_change_fresh read
  · cases read; simp [Declarations.Fresh]

theorem declarations_fresh {tokens : List Token} {declared : Declarations}
    (read : declarations tokens = .ok declared) : declared.Fresh := by
  fun_induction declarations tokens generalizing declared with
  | case1 => cases read; simp [Declarations.Fresh]
  | case2 => contradiction
  | case3 => contradiction
  | case4 token rest found step later more ih =>
      cases read
      intro table member
      rcases List.mem_append.mp member with here | after
      · exact statement_fresh step table here
      · exact ih more table after

section UpdateColumn

variable {change : Column → Column} (keeps : ∀ column, (change column).name = column.name)

include keeps

theorem table_keeps_name (column : String) (table : Table) :
    (table.updateColumn column change).name = table.name ∧
      (table.updateColumn column change).columns.map Column.name = table.columns.map Column.name :=
  ⟨rfl, map_of_update keeps _ _⟩

theorem table_names_of_update (schema : Schema) (table column : String) :
    (schema.updateColumn table column change).tables.map Table.name =
      schema.tables.map Table.name :=
  map_of_update (fun item => (table_keeps_name keeps column item).1) _ _

theorem column_of_update (schema : Schema) (table column wantedTable wantedColumn : String) :
    (schema.updateColumn table column change).column? wantedTable wantedColumn =
      (schema.column? wantedTable wantedColumn).map fun found =>
        if table = wantedTable ∧ column = wantedColumn then change found else found := by
  have tableFound := find_of_update Table.name
    (fun item => (table_keeps_name keeps column item).1) table wantedTable schema.tables
  have columnFound (item : Table) := find_of_update Column.name keeps column wantedColumn item.columns
  rw [Schema.column?, Schema.column?, Schema.table?, Schema.table?, Schema.updateColumn,
    Schema.updateTable, tableFound]
  cases schema.tables.find? fun item => item.name = wantedTable with
  | none => rfl
  | some item =>
      by_cases here : table = wantedTable
      · simp [here, Table.column?, Table.updateColumn, columnFound]
      · simp [here, Table.column?]

/-- A column after the change of one is as it was at its place, or it is the first of its name there. -/
theorem column_at_update {schema : Schema} {table column : String} {inTables inColumns : Nat}
    {after : Table} {changed : Column}
    (tableAt : (schema.updateColumn table column change).tables[inTables]? = some after)
    (columnAt : after.columns[inColumns]? = some changed) :
    ∃ before, schema.tables[inTables]? = some before ∧ after.name = before.name ∧
      after.columns.map Column.name = before.columns.map Column.name ∧
      ∃ original, before.columns[inColumns]? = some original ∧ (changed = original ∨
        changed = change original ∧ before.name = table ∧ original.name = column ∧
          FirstOfName (schema.tables.map Table.name) inTables ∧
          FirstOfName (before.columns.map Column.name) inColumns) := by
  rcases get_of_update tableAt with same | ⟨before, inSchema, rfl, isTable, otherTables⟩
  · exact ⟨after, same, rfl, rfl, changed, columnAt, .inl rfl⟩
  · have names := table_keeps_name keeps column before
    refine ⟨before, inSchema, names.1, names.2, ?_⟩
    have tableName : before.name = table := by simpa using isTable
    subst tableName
    rcases get_of_update columnAt with same | ⟨original, inTable, rfl, isColumn, otherColumns⟩
    · exact ⟨changed, same, .inl rfl⟩
    · have columnName : original.name = column := by simpa using isColumn
      subst columnName
      exact ⟨original, inTable, .inr ⟨rfl, rfl, rfl, first_of_name inSchema otherTables,
        first_of_name inTable otherColumns⟩⟩

end UpdateColumn

theorem sound_of_mark {schema : Schema} (sound : schema.Sound) {key : ForeignKey}
    (target : key.refTable ∈ schema.tables.map Table.name) {source : Column}
    (found : schema.column? key.table key.column = some source) :
    Schema.Sound ((schema.updateColumn key.table key.column fun column =>
      { column with foreignKey := true }).addForeignKey key) := by
  have keeps : ∀ column : Column, ({ column with foreignKey := true } : Column).name = column.name :=
    fun _ => rfl
  have names := table_names_of_update keeps schema key.table key.column
  constructor
  · intro table inSchema column inTable primaryKey
    obtain ⟨inTables, tableAt⟩ := List.mem_iff_getElem?.mp inSchema
    obtain ⟨inColumns, columnAt⟩ := List.mem_iff_getElem?.mp inTable
    obtain ⟨before, beforeAt, -, -, original, originalAt, same | ⟨rfl, -⟩⟩ :=
      column_at_update keeps tableAt columnAt
    · subst same
      exact sound.neverNull before (List.mem_of_getElem? beforeAt) column
        (List.mem_of_getElem? originalAt) primaryKey
    · exact sound.neverNull before (List.mem_of_getElem? beforeAt) original
        (List.mem_of_getElem? originalAt) primaryKey
  · intro other kept
    rw [Schema.addForeignKey, names]
    rcases List.mem_append.mp kept with before | new
    · exact sound.targets other before
    · cases List.mem_singleton.mp new
      exact target
  · intro other kept
    have lookup := column_of_update keeps schema key.table key.column other.table other.column
    rcases List.mem_append.mp kept with before | new
    · obtain ⟨column, wasFound, marked⟩ := sound.sources other before
      rw [wasFound, Option.map_some] at lookup
      refine ⟨_, lookup, ?_⟩
      split
      · rfl
      · exact marked
    · cases List.mem_singleton.mp new
      rw [found, Option.map_some, if_pos ⟨rfl, rfl⟩] at lookup
      exact ⟨_, lookup, rfl⟩
  · intro inTables table tableAt inColumns column columnAt marked
    obtain ⟨before, beforeAt, tableName, columnNames, original, originalAt, same | new⟩ :=
      column_at_update keeps tableAt columnAt
    · subst same
      obtain ⟨firstTable, firstColumn, other, kept, sameTable, sameColumn⟩ :=
        sound.marks inTables before beforeAt inColumns column originalAt marked
      rw [Schema.addForeignKey, names, columnNames, tableName]
      exact ⟨firstTable, firstColumn, other, List.mem_append_left _ kept, sameTable, sameColumn⟩
    · obtain ⟨rfl, sameTable, sameColumn, firstTable, firstColumn⟩ := new
      rw [Schema.addForeignKey, names, columnNames, tableName]
      exact ⟨firstTable, firstColumn, key, List.mem_append_right _ List.mem_cons_self,
        sameTable.symm, sameColumn.symm⟩

theorem is_resolved_iff {schema : Schema} {key : ForeignKey} :
    isResolved schema key = true ↔ key.refTable ∈ schema.tables.map Table.name ∧
      ∃ column, schema.column? key.table key.column = some column := by
  rw [isResolved, Bool.and_eq_true, Option.isSome_iff_exists (x := schema.column? _ _),
    Schema.table?, List.find?_isSome, List.mem_map]
  simp

theorem sound_of_resolve {schema : Schema} (sound : schema.Sound) (key : ForeignKey) :
    (resolve schema key).Sound := by
  rw [resolve]
  split
  · next resolved =>
    obtain ⟨target, source, found⟩ := is_resolved_iff.mp resolved
    exact sound_of_mark sound target found
  · exact sound

theorem sound_of_resolve_all {schema : Schema} (sound : schema.Sound) (keys : List ForeignKey) :
    (keys.foldl resolve schema).Sound := by
  induction keys generalizing schema with
  | nil => exact sound
  | cons key rest ih => exact ih (sound_of_resolve sound key)

theorem sound_of_fresh {declared : Declarations} (fresh : declared.Fresh) :
    Schema.Sound { tables := declared.tables } := by
  constructor
  · intro table member column inTable
    exact (fresh table member column inTable).neverNull
  · simp
  · simp
  · intro inTables table tableAt inColumns column columnAt marked
    have unmarked := (fresh table (List.mem_of_getElem? tableAt) column
      (List.mem_of_getElem? columnAt)).unmarked
    rw [marked] at unmarked
    contradiction

/-- Any schema that is read from a text is sound, however the text is formed. -/
theorem read_schema_sound {script : String} {schema : Schema} (read : schemaOf script = .ok schema) :
    schema.Sound := by
  rw [schemaOf, schemaOfTokens] at read
  cases declared : declarations (scan script) with
  | error fault =>
      rw [declared] at read
      contradiction
  | ok found =>
      rw [declared] at read
      cases read
      exact sound_of_resolve_all (sound_of_fresh (declarations_fresh declared)) found.keys

/-- A script whose table has two columns of a name, the first of which refers to the table and is said to
be null after it was made the primary key. -/
def selfReference : List Lexeme :=
  [.keyword .create "CREATE".toList, .blank ' ', .keyword .table "TABLE".toList, .blank ' ',
    .bareName "a".toList, .leftParen, .bareName "x".toList, .blank ' ', .bareName "int".toList,
    .blank ' ', .keyword .primary "PRIMARY".toList, .blank ' ', .keyword .null "NULL".toList,
    .blank ' ', .keyword .references "REFERENCES".toList, .blank ' ', .bareName "a".toList, .comma,
    .bareName "x".toList, .blank ' ', .bareName "int".toList, .rightParen]

theorem declarations_of_self_reference :
    declarations (tokensOf selfReference) =
      .ok ⟨[⟨"a", [⟨"x", "int", none, false, true, false⟩, ⟨"x", "int", none, true, false, false⟩]⟩],
        [⟨"FK_a_a", "a", "x", "a", "id"⟩]⟩ := by
  have tokens : tokensOf selfReference =
      [.keyword .create, .keyword .table, .identifier "a", .leftParen, .identifier "x",
        .identifier "int", .keyword .primary, .keyword .null, .keyword .references, .identifier "a",
        .comma, .identifier "x", .identifier "int", .rightParen] := by decide +kernel
  have lowered : Text.lowercase "int" = "int" := by decide
  have read : tableDefinition
      [.identifier "a", .leftParen, .identifier "x", .identifier "int", .keyword .primary,
        .keyword .null, .keyword .references, .identifier "a", .comma, .identifier "x",
        .identifier "int", .rightParen] =
      .ok ⟨⟨[⟨"a", [⟨"x", "int", none, false, true, false⟩, ⟨"x", "int", none, true, false, false⟩]⟩],
        [⟨"FK_a_a", "a", "x", "a", "id"⟩]⟩, []⟩ := by
    simp [tableDefinition, dropExistenceTest, qualifiedName, TableReading.items_cons,
      TableReading.item, columnDefinition, typeSize, lowered, ColumnReading.clauses_cons, endsColumn,
      ColumnReading.clause, dropKeyword, target, columnList, dropActions, Except.bind,
      TableReading.addColumn, afterStatement, ColumnReading.keyTo, TableReading.table,
      defaultKeyName]
  rw [tokens, declarations_cons, statement, read, Except.bind, declarations_nil]
  rfl

theorem read_schema_sound_of_self_reference :
    let schema : Schema := ⟨[⟨"a", [⟨"x", "int", none, false, true, true⟩,
      ⟨"x", "int", none, true, false, false⟩]⟩], [⟨"FK_a_a", "a", "x", "a", "id"⟩]⟩
    schemaOf (String.ofList (spelled selfReference)) = .ok schema ∧ schema.Sound := by
  intro schema
  have fit : Fit selfReference := by decide +kernel
  have read : schemaOf (String.ofList (spelled selfReference)) = .ok schema := by
    rw [schemaOf, scan, String.toList_ofList, scan_spelled fit, schemaOfTokens,
      declarations_of_self_reference]
    rfl
  exact ⟨read, read_schema_sound read⟩

end Script

end ErDiagram
