import ErDiagram.Proofs.Script.Reading
import ErDiagram.Proofs.Script.Resolution
import ErDiagram.Proofs.Script.Scanning

/-!
# The schema that a script states

A script that states a consistent schema is read as exactly that schema. The definitions of its tables
give the tables without the marks of foreign keys, and the foreign keys then set the marks.
-/

namespace ErDiagram.Script

set_option autoImplicit false

/-- A schema whose names are distinct, whose sizes can be written, whose primary keys are never null and
whose foreign keys fit it and mark just the columns that they start from. -/
structure Consistent (schema : Schema) : Prop where
  distinct : DistinctNames schema.tables
  sizes : ∀ table ∈ schema.tables, ∀ column ∈ table.columns, SizeFits column
  neverNull : ∀ table ∈ schema.tables, ∀ column ∈ table.columns,
    column.primaryKey = true → column.nullable = false
  resolvable : ∀ key ∈ schema.foreignKeys, Resolvable schema.tables key
  marked : ∀ table ∈ schema.tables, ∀ column ∈ table.columns,
    column.foreignKey = isLinked schema.foreignKeys table.name column.name

theorem unlinked_keeps_names : KeepsNames unlinkedTable := by
  constructor
  · exact fun _ => rfl
  · intro table
    rw [unlinkedTable, List.map_map]
    rfl

/-- The marks that a definition leaves out are the ones that the foreign keys set. -/
theorem link_unlinked {keys : List ForeignKey} {table : Table}
    (marked : ∀ column ∈ table.columns, column.foreignKey = isLinked keys table.name column.name) :
    linkTable keys (unlinkedTable table) = table := by
  have columns : (linkTable keys (unlinkedTable table)).columns = table.columns := by
    conv_rhs => rw [← List.map_id table.columns]
    rw [linkTable, unlinkedTable, List.map_map]
    apply List.map_congr_left
    intro column member
    simp [unlinked, ← marked column member]
  rw [Table.mk.injEq]
  exact ⟨rfl, columns⟩

theorem schema_of_unlinked {schema : Schema} (consistent : Consistent schema) :
    Declarations.schema ⟨schema.tables.map unlinkedTable, schema.foreignKeys⟩ = schema := by
  -- Whether a key fits depends on names alone, and leaving out marks keeps the names.
  have resolvable : ∀ key ∈ schema.foreignKeys, Resolvable (schema.tables.map unlinkedTable) key :=
    fun key member => unlinked_keeps_names.resolvable (consistent.resolvable key member)
  have distinct := unlinked_keeps_names.distinct consistent.distinct
  have restored : (schema.tables.map unlinkedTable).map (linkTable schema.foreignKeys) =
      schema.tables := by
    conv_rhs => rw [← List.map_id schema.tables]
    rw [List.map_map]
    apply List.map_congr_left
    intro table member
    exact link_unlinked (consistent.marked table member)
  rw [schema_of_declarations distinct resolvable, restored]

theorem tokens_read {form : ScriptForm} (states : form.States) (consistent : Consistent form.schema) :
    schemaOfTokens form.tokens = .ok form.schema := by
  have inSchema : ∀ table ∈ form.tables, ∀ column ∈ table.columns,
      table.table ∈ form.schema.tables ∧ column.column ∈ table.table.columns :=
    fun _ inScript _ inTable => ⟨List.mem_map_of_mem inScript, List.mem_map_of_mem inTable⟩
  have sizes : ∀ table ∈ form.tables, ∀ column ∈ table.columns, SizeFits column.column := by
    intro table inScript column inTable
    have member := inSchema table inScript column inTable
    exact consistent.sizes _ member.1 _ member.2
  have neverNull : ∀ table ∈ form.tables, ∀ column ∈ table.columns,
      column.column.primaryKey = true → column.column.nullable = false := by
    intro table inScript column inTable
    have member := inSchema table inScript column inTable
    exact consistent.neverNull _ member.1 _ member.2
  rw [schemaOfTokens, declarations_read states sizes neverNull, Except.map,
    schema_of_unlinked consistent]

/-- A script that states a consistent schema is read as this schema, in whichever form it states the
schema and however its tokens are spelled. -/
theorem script_read (form : ScriptForm) (states : form.States) (consistent : Consistent form.schema)
    (lexemes : List Lexeme) (spells : tokensOf lexemes = form.tokens) (fit : Fit lexemes) :
    schemaOf (String.ofList (spelled lexemes)) = .ok form.schema := by
  have scanned : scan (String.ofList (spelled lexemes)) = form.tokens := by
    rw [scan, String.toList_ofList, scan_spelled fit, spells]
  rw [schemaOf, scanned, tokens_read states consistent]

def ordersForm : ScriptForm where
  tables := [
    { name := "orders"
      columns := [
        ⟨⟨"id", "int", none, false, true, false⟩, "INT", "max", []⟩,
        ⟨⟨"total", "decimal", some (.precision 10 2), false, false, false⟩, "Decimal", "max",
          [.check (.token (.identifier "total") (by decide)
              (.group (.token (.number "0") (by decide) .done) .done)),
            .notNull, .default (.call "f" .done)]⟩,
        ⟨⟨"customer", "varchar", some .max, true, false, true⟩, "varchar", "MAX",
          [.default .null, .unique]⟩]
      listed := some ["id"]
      existenceTest := true },
    { name := "create"
      columns := [⟨⟨"id", "int", none, false, true, false⟩, "int", "max", [.primaryKey]⟩] }]
  keys := [
    { key := ⟨"placed", "orders", "customer", "create", "id"⟩
      only := true
      actions := [.keyword .on, .identifier "DELETE", .identifier "SET", .keyword .null] }]

def ordersScript : List Lexeme :=
  [.keyword .create "create".toList, .blockComment " two tables ".toList,
    .keyword .table "TABLE".toList, .blank ' ', .keyword .ifWord "If".toList, .blank ' ',
    .keyword .not "NOT".toList, .blank ' ', .keyword .existsWord "exists".toList, .blank ' ',
    .quotedName .grave "orders", .leftParen, .bareName "id".toList, .blank ' ',
    .bareName "INT".toList, .comma, .lineComment true " amounts".toList, .blank '\n',
    .quotedName .square "total", .bareName "Decimal".toList, .leftParen,
    .number false "10".toList none, .comma, .number false "2".toList none, .rightParen,
    .keyword .check "CHECK".toList, .leftParen, .bareName "total".toList, .leftParen,
    .number false "0".toList none, .rightParen, .rightParen, .keyword .not "not".toList, .blank ' ',
    .keyword .null "null".toList, .blank ' ', .keyword .default "DEFAULT".toList, .blank ' ',
    .bareName "f".toList, .leftParen, .rightParen, .comma, .quotedName .double "customer",
    .blank ' ', .bareName "varchar".toList, .leftParen, .bareName "MAX".toList, .rightParen,
    .keyword .default "default".toList, .blank ' ', .keyword .null "NULL".toList, .blank ' ',
    .keyword .unique "Unique".toList, .comma, .keyword .primary "PRIMARY".toList, .blank ' ',
    .keyword .key "KEY".toList, .leftParen, .bareName "id".toList, .rightParen, .rightParen,
    .semicolon, .keyword .create "CREATE".toList, .blank ' ', .keyword .table "TABLE".toList,
    .quotedName .square "create", .leftParen, .bareName "id".toList, .blank ' ',
    .bareName "int".toList, .blank ' ', .keyword .primary "primary".toList, .blank ' ',
    .keyword .key "key".toList, .rightParen, .semicolon, .keyword .alter "ALTER".toList, .blank ' ',
    .keyword .table "TABLE".toList, .blank ' ', .keyword .only "ONLY".toList, .blank ' ',
    .bareName "orders".toList, .blank ' ', .keyword .add "ADD".toList, .blank ' ',
    .keyword .constraint "CONSTRAINT".toList, .blank ' ', .bareName "placed".toList, .blank ' ',
    .keyword .foreign "FOREIGN".toList, .blank ' ', .keyword .key "KEY".toList, .leftParen,
    .bareName "customer".toList, .rightParen, .keyword .references "REFERENCES".toList,
    .quotedName .double "create", .leftParen, .bareName "id".toList, .rightParen,
    .keyword .on "ON".toList, .blank ' ', .bareName "DELETE".toList, .blank ' ',
    .bareName "SET".toList, .blank ' ', .keyword .null "NULL".toList, .semicolon]

theorem script_read_of_orders :
    ordersForm.States ∧ Consistent ordersForm.schema ∧ tokensOf ordersScript = ordersForm.tokens ∧
      Fit ordersScript ∧ schemaOf (String.ofList (spelled ordersScript)) = .ok ordersForm.schema := by
  have states : ordersForm.States := by decide +kernel
  have consistent : Consistent ordersForm.schema := by
    constructor <;> decide +kernel
  have spells : tokensOf ordersScript = ordersForm.tokens := by decide +kernel
  have fit : Fit ordersScript := by decide +kernel
  exact ⟨states, consistent, spells, fit,
    script_read ordersForm states consistent ordersScript spells fit⟩

end ErDiagram.Script
