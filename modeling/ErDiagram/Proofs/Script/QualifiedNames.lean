import ErDiagram.Proofs.Script.KeyDeclarations
import ErDiagram.Proofs.Script.SourceOrder
import ErDiagram.Proofs.Script.StatedSchema
import ErDiagram.Proofs.Script.Statements
import Mathlib.Data.List.Nodup

/-!
# References by qualified names

A script may name every table together with the schema that it belongs to. Only the last part of such a
name is kept, so two tables of different schemas can end up with one name, and a reference is taken to
name any of them.

Hence a column is marked if and only if its table is the first of its last name and a column of that name
refers, in some definition of a table of that last name, to the last name of a table of the script. Where
the last names are distinct, this is the definition of the column itself.
-/

namespace ErDiagram.Script

set_option autoImplicit false

open Text

/-- The name of a table after that of the schema it belongs to. -/
structure FullName where
  qualifier : String
  last : String
deriving DecidableEq

def FullName.tokens (name : FullName) : List Token :=
  [.identifier name.qualifier, .dot, .identifier name.last]

structure FullTarget where
  table : FullName
  column : String

def FullTarget.tokens (reference : FullTarget) : List Token :=
  reference.table.tokens ++ nameTokens [reference.column]

/-- A column with its type, which may have a size in parentheses, and perhaps a reference. -/
structure ReferringColumn where
  name : String
  typeName : String
  size : Option (List Token) := none
  reference : Option FullTarget := none
  oneGroup : ∀ arguments ∈ size, .rightParen ∉ arguments := by simp

namespace ReferringColumn

def sizeTokens (column : ReferringColumn) : List Token :=
  match column.size with
  | none => []
  | some arguments => .leftParen :: (arguments ++ [.rightParen])

def referenceTokens (column : ReferringColumn) : List Token :=
  match column.reference with
  | none => []
  | some reference => .keyword .references :: reference.tokens

def tokens (column : ReferringColumn) : List Token :=
  .identifier column.name :: .identifier column.typeName :: (column.sizeTokens ++ column.referenceTokens)

def read (column : ReferringColumn) : Column where
  name := column.name
  type := lowercase column.typeName
  size := column.size.bind fun arguments =>
    sizeOf? (lowercase column.typeName) (sizeArguments arguments).value

def key? (column : ReferringColumn) (table : String) : Option ForeignKey :=
  column.reference.map fun reference =>
    { name := defaultKeyName table reference.table.last
      table
      column := column.name
      refTable := reference.table.last
      refColumn := reference.column }

end ReferringColumn

structure QualifiedTable where
  name : FullName
  columns : List ReferringColumn
  distinct : (columns.map (·.name)).Nodup

namespace QualifiedTable

def lastName (definition : QualifiedTable) : String := definition.name.last

def tokens (definition : QualifiedTable) : List Token :=
  .keyword .create :: .keyword .table :: (definition.name.tokens ++ .leftParen ::
    (separated (definition.columns.map (·.tokens)) ++ [.rightParen, .semicolon]))

def read (definition : QualifiedTable) : Table where
  name := definition.lastName
  columns := definition.columns.map (·.read)

def keys (definition : QualifiedTable) : List ForeignKey :=
  definition.columns.filterMap (·.key? definition.lastName)

end QualifiedTable

/-- Whether the column refers to a table of the same last name as one of the definitions. -/
def ReferringColumn.RefersInto (column : ReferringColumn) (definitions : List QualifiedTable) : Prop :=
  ∃ reference, column.reference = some reference ∧
    reference.table.last ∈ definitions.map QualifiedTable.lastName

/-- Whether a column of the name refers to one of the definitions, in any definition of a table of the
last name. -/
def RefersByLastName (definitions : List QualifiedTable) (table column : String) : Prop :=
  ∃ definition ∈ definitions, definition.lastName = table ∧
    ∃ other ∈ definition.columns, other.name = column ∧ other.RefersInto definitions

theorem size_arguments_read {arguments : List Token} (oneGroup : .rightParen ∉ arguments)
    (rest : List Token) :
    sizeArguments (arguments ++ .rightParen :: rest) = ⟨(sizeArguments arguments).value, rest⟩ := by
  induction arguments with
  | nil => rfl
  | cons token later ih =>
      rw [List.mem_cons, not_or] at oneGroup
      have found := ih oneGroup.2
      cases token with
      | rightParen => exact absurd rfl oneGroup.1
      | number digits => rw [List.cons_append, sizeArguments, sizeArguments, found]
      | identifier name => rw [List.cons_append, sizeArguments, sizeArguments, found]
      | _ => exact found

theorem full_target_read (reference : FullTarget) (rest : List Token) :
    target (reference.tokens ++ rest) = .ok ⟨⟨reference.table.last, reference.column⟩, rest⟩ := by
  have name : qualifiedName (reference.table.tokens ++ (nameTokens [reference.column] ++ rest)) =
      ⟨some reference.table.last, nameTokens [reference.column] ++ rest⟩ := rfl
  rw [FullTarget.tokens, List.append_assoc, target, name]
  simp only [column_list_read]
  rfl

section Column

variable (column : ReferringColumn) {rest : List Token}

theorem size_tokens_read (noGroup : rest.head? ≠ some .leftParen) :
    typeSize (lowercase column.typeName) (column.sizeTokens ++ rest) = ⟨column.read.size, rest⟩ := by
  rw [ReferringColumn.sizeTokens, ReferringColumn.read]
  cases size : column.size with
  | none =>
      cases rest with
      | nil => rfl
      | cons token later =>
          cases token <;> first | rfl | exact absurd rfl noGroup
  | some arguments =>
      have found := size_arguments_read (column.oneGroup arguments size) rest
      simp only [List.cons_append, List.append_assoc, List.nil_append, typeSize, found,
        Option.bind_some]

variable {stop : Token} (ends : endsColumn stop = true) (rest)

include ends

theorem reference_tokens_read (table : String) :
    ColumnReading.clauses table { column := column.read }
        (column.referenceTokens ++ stop :: rest) =
      .ok ⟨⟨column.read, none, (column.key? table).toList⟩, stop :: rest⟩ := by
  rw [ReferringColumn.referenceTokens, ReferringColumn.key?]
  cases column.reference with
  | none => exact clauses_stop ends table _ rest
  | some reference =>
      have read := full_target_read reference (stop :: rest)
      have dropped := drop_no_actions (ends_reference_of_stop ends rest)
      have step : ColumnReading.clause table { column := column.read } (.keyword .references)
          (reference.tokens ++ stop :: rest) =
            .ok ⟨⟨column.read, none, [⟨defaultKeyName table reference.table.last, table,
              column.name, reference.table.last, reference.column⟩]⟩, stop :: rest⟩ := by
        simp only [ColumnReading.clause, read, dropped]
        rfl
      rw [List.cons_append, clauses_step rfl step, clauses_stop ends]
      rfl

theorem referring_column_read (table : String) :
    ∃ more, column.tokens ++ stop :: rest = .identifier column.name :: more ∧
      columnDefinition table column.name more =
        .ok ⟨some ⟨column.read, none, (column.key? table).toList⟩, stop :: rest⟩ := by
  have noGroup : (column.referenceTokens ++ stop :: rest).head? ≠ some .leftParen := by
    rw [ReferringColumn.referenceTokens]
    cases column.reference with
    | none => exact (ends_reference_of_stop ends rest).group
    | some reference => simp
  have sized := size_tokens_read column noGroup
  have clauses : ColumnReading.clauses table
      { column := { name := column.name, type := lowercase column.typeName, size := column.read.size } }
      (column.referenceTokens ++ stop :: rest) =
        .ok ⟨⟨column.read, none, (column.key? table).toList⟩, stop :: rest⟩ :=
    reference_tokens_read column rest ends table
  refine ⟨_, rfl, ?_⟩
  simp only [List.append_eq, List.cons_append, List.append_assoc, columnDefinition, sized, clauses]

end Column

def ReferringColumn.item (column : ReferringColumn) : ItemForm where
  tokens := column.tokens
  effect reading := { reading with
    columns := reading.columns ++ [column.read]
    keys := reading.keys ++ (column.key? reading.name).toList }

theorem referring_column_reads (column : ReferringColumn) : column.item.Reads where
  step reading _ stop ends rest := by
    obtain ⟨more, tokens, read⟩ := referring_column_read column rest ends reading.name
    have step : reading.item (.identifier column.name) more =
        .ok ⟨column.item.effect reading, stop :: rest⟩ := by
      simp [TableReading.item, read, TableReading.addColumn, ReferringColumn.item]
    rw [ReferringColumn.item, tokens]
    exact items_step (by simp) step
  unnamed _ unnamed := unnamed

theorem referring_columns_applied (columns : List ReferringColumn) (reading : TableReading) :
    (columns.map ReferringColumn.item).foldl (fun reading item => item.effect reading) reading =
      { reading with
        columns := reading.columns ++ columns.map (·.read)
        keys := reading.keys ++ columns.filterMap (·.key? reading.name) } := by
  induction columns generalizing reading with
  | nil => simp
  | cons column rest ih =>
      rw [List.map_cons, List.foldl_cons, ih]
      cases key : column.key? reading.name <;> simp [ReferringColumn.item, key]

/-- None of the columns is in a primary key, so the end of the body changes nothing. -/
theorem table_of_reading (definition : QualifiedTable) (keys : List ForeignKey) :
    TableReading.table
      { name := definition.lastName, columns := definition.read.columns, keys } = definition.read := by
  rw [TableReading.table, QualifiedTable.read, List.map_map, Table.mk.injEq]
  refine ⟨rfl, List.map_congr_left fun column _ => ?_⟩
  simp [ReferringColumn.read]

theorem qualified_table_read (definition : QualifiedTable) (rest : List Token) :
    ∃ more, definition.tokens ++ rest = .keyword .create :: .keyword .table :: more ∧
      tableDefinition more = .ok ⟨⟨[definition.read], definition.keys⟩, rest⟩ := by
  have reads : ∀ item ∈ definition.columns.map ReferringColumn.item, item.Reads := by
    intro item member
    obtain ⟨column, -, rfl⟩ := List.mem_map.mp member
    exact referring_column_reads column
  have body : TableReading.items { name := definition.lastName }
      (separated (definition.columns.map (·.tokens)) ++ .rightParen :: .semicolon :: rest) =
        .ok ⟨{ name := definition.lastName, columns := definition.read.columns, keys := definition.keys },
          .semicolon :: rest⟩ := by
    have found := items_read reads { name := definition.lastName } rfl (.semicolon :: rest)
    rw [referring_columns_applied, List.map_map] at found
    exact found
  have tokens : definition.tokens ++ rest = .keyword .create :: .keyword .table ::
      (definition.name.tokens ++ .leftParen ::
        (separated (definition.columns.map (·.tokens)) ++ .rightParen :: .semicolon :: rest)) := by
    simp [QualifiedTable.tokens]
  have name (more : List Token) : qualifiedName (dropExistenceTest
      (definition.name.tokens ++ .leftParen :: more)) = ⟨some definition.lastName, .leftParen :: more⟩ :=
    rfl
  refine ⟨_, tokens, ?_⟩
  rw [tableDefinition, name]
  simp only [body, table_of_reading]
  rfl

theorem qualified_tables_read (definitions : List QualifiedTable) :
    declarations (definitions.flatMap QualifiedTable.tokens) =
      .ok ⟨definitions.map QualifiedTable.read, definitions.flatMap QualifiedTable.keys⟩ := by
  induction definitions with
  | nil => exact declarations_nil
  | cons definition rest ih =>
      obtain ⟨more, tokens, read⟩ :=
        qualified_table_read definition (rest.flatMap QualifiedTable.tokens)
      have step : statement (.keyword .create) (.keyword .table :: more) =
          .ok ⟨⟨[definition.read], definition.keys⟩, rest.flatMap QualifiedTable.tokens⟩ := read
      rw [List.flatMap_cons, tokens, declarations_step step ih]
      rfl

theorem find_of_first {α : Type} {name : α → String} {items : List α} {index : Nat} {item : α}
    (inItems : items[index]? = some item) (first : FirstOfName (items.map name) index) :
    items.find? (fun other => name other = name item) = some item := by
  obtain ⟨bound, rfl⟩ := List.getElem?_eq_some_iff.mp inItems
  rw [List.find?_eq_some_iff_getElem]
  refine ⟨by simp, index, bound, rfl, fun earlier before => ?_⟩
  have other := first earlier before
  have inside := before.trans bound
  simpa [inside, bound] using other

theorem get_of_map_eq {α β : Type} {view : α → β} {items : List α} {views : List β}
    (same : items.map view = views) {index : Nat} {value : β} (inViews : views[index]? = some value) :
    ∃ item, items[index]? = some item ∧ view item = value := by
  rw [← same, List.getElem?_map] at inViews
  exact Option.map_eq_some_iff.mp inViews

section Marks

variable {declared : Declarations} {inTables inColumns : Nat} {table : Table} {column : Column}

theorem table_names_of_schema (declared : Declarations) :
    declared.schema.tables.map Table.name = declared.tables.map Table.name := by
  have unmarked (tables : List Table) :
      tables.map Table.name = (tables.map unlinkedTable).map Table.name := by
    rw [List.map_map]
    rfl
  rw [unmarked, unlinked_of_schema, ← unmarked]

theorem table_of_schema (tableAt : declared.schema.tables[inTables]? = some table) :
    ∃ defined, declared.tables[inTables]? = some defined ∧
      unlinkedTable defined = unlinkedTable table := by
  apply get_of_map_eq (unlinked_of_schema declared).symm
  rw [List.getElem?_map, tableAt, Option.map_some]

theorem kept_of_source (tableAt : declared.schema.tables[inTables]? = some table)
    (first : FirstOfName (declared.tables.map Table.name) inTables) (inTable : column ∈ table.columns)
    {key : ForeignKey} (declares : key ∈ declared.keys) (sameTable : key.table = table.name)
    (sameColumn : key.column = column.name)
    (target : key.refTable ∈ declared.tables.map Table.name) : key ∈ declared.schema.foreignKeys := by
  obtain ⟨defined, definedAt, same⟩ := table_of_schema tableAt
  have tableName : defined.name = table.name :=
    (congrArg Table.name same : (unlinkedTable defined).name = (unlinkedTable table).name)
  have columnNames : defined.columns.map Column.name = table.columns.map Column.name := by
    rw [← unlinked_keeps_names.columnNames, same, unlinked_keeps_names.columnNames]
  have found := find_of_first definedAt first
  rw [tableName, ← sameTable] at found
  have named : key.column ∈ defined.columns.map Column.name := by
    rw [columnNames, sameColumn]
    exact List.mem_map_of_mem inTable
  rw [keys_of_schema, List.mem_filter]
  exact ⟨declares, decide_eq_true ⟨List.mem_map.mp target, defined, found, List.mem_map.mp named⟩⟩

/-- A column is marked if and only if it is the first of its name, in the first table of its name, and a
declared key that refers to some table has these names. -/
theorem marked_iff (fresh : declared.Fresh)
    (tableAt : declared.schema.tables[inTables]? = some table)
    (columnAt : table.columns[inColumns]? = some column) :
    column.foreignKey = true ↔ FirstOfName (declared.tables.map Table.name) inTables ∧
      FirstOfName (table.columns.map Column.name) inColumns ∧
      ∃ key ∈ declared.keys, key.table = table.name ∧ key.column = column.name ∧
        key.refTable ∈ declared.tables.map Table.name := by
  have sound : declared.schema.Sound := sound_of_resolve_all (sound_of_fresh fresh) declared.keys
  have names := table_names_of_schema declared
  constructor
  · intro marked
    obtain ⟨firstTable, firstColumn, key, kept, sameTable, sameColumn⟩ :=
      sound.marks inTables table tableAt inColumns column columnAt marked
    have target := sound.targets key kept
    rw [keys_of_schema, List.mem_filter] at kept
    rw [names] at firstTable target
    exact ⟨firstTable, firstColumn, key, kept.1, sameTable, sameColumn, target⟩
  · rintro ⟨firstTable, firstColumn, key, declares, sameTable, sameColumn, target⟩
    have kept := kept_of_source tableAt firstTable (List.mem_of_getElem? columnAt) declares sameTable
      sameColumn target
    obtain ⟨source, found, marked⟩ := sound.sources key kept
    rw [← names] at firstTable
    have isTable : declared.schema.table? table.name = some table := find_of_first tableAt firstTable
    have isColumn : table.column? column.name = some column := find_of_first columnAt firstColumn
    rw [Schema.column?, sameTable, isTable, Option.bind_some, sameColumn, isColumn] at found
    cases found
    exact marked

end Marks

theorem first_of_distinct {names : List String} (distinct : names.Nodup) {index : Nat}
    (bound : index < names.length) : FirstOfName names index := by
  intro earlier before same
  have inside := before.trans bound
  rw [List.getElem?_eq_getElem inside, List.getElem?_eq_getElem bound, Option.some.injEq,
    distinct.getElem_inj_iff] at same
  omega

theorem declares_iff {definitions : List QualifiedTable} {table column : String} :
    (∃ key ∈ definitions.flatMap QualifiedTable.keys, key.table = table ∧ key.column = column ∧
        key.refTable ∈ definitions.map QualifiedTable.lastName) ↔
      RefersByLastName definitions table column := by
  simp only [List.mem_flatMap, QualifiedTable.keys, List.mem_filterMap, ReferringColumn.key?,
    Option.map_eq_some_iff]
  constructor
  · rintro ⟨key, ⟨definition, inScript, other, inTable, reference, refers, rfl⟩, sameTable, sameColumn,
      target⟩
    exact ⟨definition, inScript, sameTable, other, inTable, sameColumn, reference, refers, target⟩
  · rintro ⟨definition, inScript, sameTable, other, inTable, sameColumn, reference, refers, target⟩
    exact ⟨_, ⟨definition, inScript, other, inTable, reference, refers, rfl⟩, sameTable, sameColumn,
      target⟩

theorem refers_iff_of_distinct {definitions : List QualifiedTable}
    (distinct : (definitions.map QualifiedTable.lastName).Nodup) {definition : QualifiedTable}
    (inScript : definition ∈ definitions) {column : ReferringColumn}
    (inTable : column ∈ definition.columns) :
    RefersByLastName definitions definition.lastName column.name ↔ column.RefersInto definitions := by
  constructor
  · rintro ⟨other, isDefinition, sameTable, found, inOther, sameColumn, refers⟩
    cases List.inj_on_of_nodup_map distinct isDefinition inScript sameTable
    cases List.inj_on_of_nodup_map definition.distinct inOther inTable sameColumn
    exact refers
  · exact fun refers => ⟨definition, inScript, rfl, column, inTable, rfl, refers⟩

theorem found_at_place {schema : Schema} {definitions : List QualifiedTable}
    (tables : schema.tables.map unlinkedTable = definitions.map QualifiedTable.read)
    {inTables inColumns : Nat} {definition : QualifiedTable} {column : ReferringColumn}
    (definitionAt : definitions[inTables]? = some definition)
    (columnAt : definition.columns[inColumns]? = some column) :
    ∃ table found, schema.tables[inTables]? = some table ∧ table.columns[inColumns]? = some found ∧
      table.name = definition.lastName ∧ found.name = column.name ∧
      table.columns.map Column.name = definition.columns.map (·.name) := by
  have readAt : (definitions.map QualifiedTable.read)[inTables]? = some definition.read := by
    rw [List.getElem?_map, definitionAt, Option.map_some]
  obtain ⟨table, tableAt, sameTable⟩ := get_of_map_eq tables readAt
  have columns : table.columns.map unlinked = definition.columns.map (·.read) :=
    congrArg Table.columns sameTable
  have readAt : (definition.columns.map (·.read))[inColumns]? = some column.read := by
    rw [List.getElem?_map, columnAt, Option.map_some]
  obtain ⟨found, foundAt, sameColumn⟩ := get_of_map_eq columns readAt
  refine ⟨table, found, tableAt, foundAt, ?_, ?_, ?_⟩
  · exact congrArg Table.name sameTable
  · exact congrArg Column.name sameColumn
  · have names := congrArg (List.map Column.name) columns
    rw [List.map_map, List.map_map] at names
    exact names

theorem unlinked_read (definitions : List QualifiedTable) :
    (definitions.map QualifiedTable.read).map unlinkedTable = definitions.map QualifiedTable.read := by
  rw [List.map_map]
  refine List.map_congr_left fun definition _ => ?_
  simp [unlinkedTable, QualifiedTable.read, unlinked, ReferringColumn.read]

/-- The tables of a script that names them in full are read by their last names, and columns are marked
by last names as well: in the first table of a last name, those for which any definition of that last
name has a reference to a table of the script. -/
theorem marked_by_last_names (definitions : List QualifiedTable) :
    ∃ schema, ReadAs (definitions.flatMap QualifiedTable.tokens) schema ∧
      schema.tables.map unlinkedTable = definitions.map QualifiedTable.read ∧
      ∀ (inTables : Nat) (definition : QualifiedTable), definitions[inTables]? = some definition →
        ∀ (inColumns : Nat) (column : ReferringColumn), definition.columns[inColumns]? = some column →
          ∃ (table : Table) (found : Column), schema.tables[inTables]? = some table ∧
            table.columns[inColumns]? = some found ∧
            (found.foreignKey = true ↔
              FirstOfName (definitions.map QualifiedTable.lastName) inTables ∧
                RefersByLastName definitions definition.lastName column.name) ∧
            ((definitions.map QualifiedTable.lastName).Nodup →
              (found.foreignKey = true ↔ column.RefersInto definitions)) := by
  have read := qualified_tables_read definitions
  have tables := unlinked_of_schema
    ⟨definitions.map QualifiedTable.read, definitions.flatMap QualifiedTable.keys⟩
  rw [unlinked_read] at tables
  refine ⟨_, read_as_of_declarations read rfl, tables, ?_⟩
  intro inTables definition definitionAt inColumns column columnAt
  obtain ⟨table, found, tableAt, foundAt, tableName, columnName, columnNames⟩ :=
    found_at_place tables definitionAt columnAt
  obtain ⟨inScript, rfl⟩ := List.getElem?_eq_some_iff.mp definitionAt
  obtain ⟨inTable, rfl⟩ := List.getElem?_eq_some_iff.mp columnAt
  have lastNames : (definitions.map QualifiedTable.read).map Table.name =
      definitions.map QualifiedTable.lastName := List.map_map
  have firstColumn : FirstOfName (table.columns.map Column.name) inColumns := by
    rw [columnNames]
    exact first_of_distinct definitions[inTables].distinct (by rwa [List.length_map])
  have marked := marked_iff (declarations_fresh read) tableAt foundAt
  rw [lastNames, tableName, columnName, declares_iff, and_iff_right firstColumn] at marked
  refine ⟨table, found, tableAt, foundAt, marked, fun distinct => ?_⟩
  have first : FirstOfName (definitions.map QualifiedTable.lastName) inTables :=
    first_of_distinct distinct (by rwa [List.length_map])
  rw [marked, and_iff_right first]
  exact refers_iff_of_distinct distinct (List.getElem_mem inScript) (List.getElem_mem inTable)

def fullNameSpelled (name : FullName) : List Lexeme :=
  [.quotedName .double name.qualifier, .dot, .quotedName .double name.last, .blank ' ']

def referenceSpelled (reference : FullTarget) : List Lexeme :=
  keywords [.references] ++ fullNameSpelled reference.table ++ inParens (quotedWord reference.column)

/-- A definition of a table with a column that has no size. -/
def fullDefinitionSpelled (name : FullName) (column : String) (reference : Option FullTarget) :
    List Lexeme :=
  keywords [.create, .table] ++ fullNameSpelled name ++
    inParens (quotedWord column ++ [.bareName "int".toList, .blank ' '] ++
      (reference.map referenceSpelled).getD []) ++ [.semicolon]

def fullDefinition (name : FullName) (column : String) (reference : Option FullTarget) :
    QualifiedTable where
  name
  columns := [{ name := column, typeName := "int", reference }]
  distinct := List.nodup_singleton column

/-- A reference into a third schema, which has no table in the script. -/
def foreignTarget : FullTarget := ⟨⟨"c", "t"⟩, "x"⟩

theorem marked_by_last_name_of_another_schema :
    let script := "CREATE TABLE \"a\".\"t\" (\"x\" int );" ++
      "CREATE TABLE \"b\".\"u\" (\"x\" int REFERENCES \"c\".\"t\" (\"x\" ));"
    let definitions := [fullDefinition ⟨"a", "t"⟩ "x" none,
      fullDefinition ⟨"b", "u"⟩ "x" (some foreignTarget)]
    (definitions.map QualifiedTable.lastName).Nodup ∧
      ∃ schema, schemaOf script = .ok schema ∧
        (∃ table found, schema.tables[0]? = some table ∧ table.columns[0]? = some found ∧
          found.foreignKey = false) ∧
        ∃ table found, schema.tables[1]? = some table ∧ table.columns[0]? = some found ∧
          found.foreignKey = true := by
  intro script definitions
  have text : script = String.ofList (spelled (fullDefinitionSpelled ⟨"a", "t"⟩ "x" none ++
      fullDefinitionSpelled ⟨"b", "u"⟩ "x" (some foreignTarget))) := by decide +kernel
  have distinct : (definitions.map QualifiedTable.lastName).Nodup := by decide
  obtain ⟨schema, read, -, marks⟩ := marked_by_last_names definitions
  refine ⟨distinct, schema, ?_, ?_, ?_⟩
  · rw [text]
    exact read _ (by decide +kernel) (by decide +kernel)
  · obtain ⟨table, found, tableAt, foundAt, -, marked⟩ := marks 0 _ rfl 0 _ rfl
    refine ⟨table, found, tableAt, foundAt, ?_⟩
    rw [← Bool.not_eq_true, marked distinct]
    rintro ⟨_, refers, -⟩
    cases refers
  · obtain ⟨table, found, tableAt, foundAt, -, marked⟩ := marks 1 _ rfl 0 _ rfl
    exact ⟨table, found, tableAt, foundAt, (marked distinct).mpr ⟨foreignTarget, rfl, by decide⟩⟩

/-- Of two tables with one last name, a reference of the second marks the first. -/
theorem first_table_marked_for_second :
    let script := "CREATE TABLE \"a\".\"t\" (\"x\" int );" ++
      "CREATE TABLE \"b\".\"t\" (\"x\" int REFERENCES \"a\".\"t\" (\"x\" ));"
    let definitions := [fullDefinition ⟨"a", "t"⟩ "x" none,
      fullDefinition ⟨"b", "t"⟩ "x" (some ⟨⟨"a", "t"⟩, "x"⟩)]
    (definitions.map (·.name)).Nodup ∧
      scan script = definitions.flatMap QualifiedTable.tokens ∧
      schemaOf script = .ok ⟨[⟨"t", [{ name := "x", type := "int", foreignKey := true }]⟩,
        ⟨"t", [{ name := "x", type := "int" }]⟩], [⟨"FK_t_t", "t", "x", "t", "x"⟩]⟩ := by
  intro script definitions
  have text : script = String.ofList (spelled (fullDefinitionSpelled ⟨"a", "t"⟩ "x" none ++
      fullDefinitionSpelled ⟨"b", "t"⟩ "x" (some ⟨⟨"a", "t"⟩, "x"⟩))) := by decide +kernel
  have scanned : scan script = definitions.flatMap QualifiedTable.tokens := by
    rw [text, scan, String.toList_ofList, scan_spelled (by decide +kernel)]
    decide +kernel
  refine ⟨by decide, scanned, ?_⟩
  rw [schemaOf, scanned, schemaOfTokens, qualified_tables_read]
  rfl

end ErDiagram.Script
