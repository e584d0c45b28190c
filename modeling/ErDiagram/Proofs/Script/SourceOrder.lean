import ErDiagram.Proofs.Script.Integrity
import ErDiagram.Proofs.Script.Reading
import ErDiagram.Proofs.Script.Scanning

/-!
# A schema follows its script

A table of a schema stands in the script as a name before the parenthesis of its body, and a column as a
name before its type. However the script is formed, the tables and columns of the schema stand there in
the order that they have in the schema, and no token of the script is read as a part of two of them.

Each reader leaves an end of the tokens it was given, so what it has read comes before all that is read
later.
-/

namespace ErDiagram

set_option autoImplicit false

/-- What a script says first about a table or a column of its schema. -/
inductive Heading where
  | table (name : String)
  | column (name type : String)

def Column.heading (column : Column) : Heading := .column column.name column.type

/-- The headings of a table and of its columns. -/
def Table.headings (table : Table) : List Heading :=
  .table table.name :: table.columns.map Column.heading

def Schema.headings (schema : Schema) : List Heading := schema.tables.flatMap Table.headings

namespace Script

open Text

/-- Whether the heading is spelled by the token at a place and the one after it. -/
def StandsAt (tokens : List Token) (place : Nat) : Heading → Prop
  | .table name => tokens[place]? = some (.identifier name) ∧ tokens[place + 1]? = some .leftParen
  | .column name type => tokens[place]? = some (.identifier name) ∧
      ∃ typeName, tokens[place + 1]? = some (.identifier typeName) ∧ type = lowercase typeName

/-- The headings stand one after another between the tokens and the rest of them, each of them two tokens
long. -/
inductive InOrder : List Heading → List Token → List Token → Prop where
  | nothing {tokens rest : List Token} (passed : rest <:+ tokens) : InOrder [] tokens rest
  | cons {heading : Heading} {later : List Heading} {tokens here rest : List Token}
      (reached : here <:+ tokens) (stands : StandsAt here 0 heading)
      (more : InOrder later (here.drop 2) rest) : InOrder (heading :: later) tokens rest

namespace InOrder

variable {headings : List Heading} {tokens rest : List Token}

theorem after_more {front : List Token} (reached : tokens <:+ front)
    (order : InOrder headings tokens rest) : InOrder headings front rest := by
  cases order with
  | nothing passed => exact .nothing (passed.trans reached)
  | cons here stands more => exact .cons (here.trans reached) stands more

theorem before_more {back : List Token} (order : InOrder headings tokens rest)
    (passed : back <:+ rest) : InOrder headings tokens back := by
  induction order with
  | nothing reached => exact .nothing (passed.trans reached)
  | cons here stands _ ih => exact .cons here stands (ih passed)

theorem append {later : List Heading} {back : List Token} (order : InOrder headings tokens rest)
    (more : InOrder later rest back) : InOrder (headings ++ later) tokens back := by
  induction order with
  | nothing passed => exact more.after_more passed
  | cons here stands _ ih => exact .cons here stands (ih more)

end InOrder

theorem column_in_order {table name : String} {tokens : List Token}
    {found : Parsed (Option ColumnReading)} (read : columnDefinition table name tokens = .ok found) :
    InOrder (found.value.toList.map (·.column.heading)) (.identifier name :: tokens) found.rest := by
  have passed := (columnDefinition_suffix read).trans (List.suffix_cons (.identifier name) tokens)
  unfold columnDefinition at read
  split at read
  · next typeName rest =>
    have sized := typeSize_suffix (lowercase typeName) rest
    dsimp only at read
    split at read
    · contradiction
    · next reading clauses =>
      cases read
      obtain ⟨_, _, same⟩ := clauses_change clauses
      have heading : reading.value.column.heading = .column name (lowercase typeName) := by
        rw [same]
        rfl
      have rest := (ColumnReading.clauses_suffix clauses).trans sized
      dsimp only [Option.toList_some, List.map_singleton]
      rw [heading]
      exact .cons (List.suffix_refl _) ⟨rfl, typeName, rfl, rfl⟩ (.nothing rest)
  · cases read
    exact .nothing passed

theorem item_in_order {reading : TableReading} {token : Token} {rest : List Token}
    {found : Parsed TableReading} (read : reading.item token rest = .ok found) :
    ∃ columns, found.value.name = reading.name ∧ found.value.columns = reading.columns ++ columns ∧
      InOrder (columns.map Column.heading) (token :: rest) found.rest := by
  have passed := (TableReading.item_suffix read).trans (List.suffix_cons token rest)
  unfold TableReading.item at read
  split at read
  case h_4 =>
    split at read
    · contradiction
    · cases read
      exact ⟨[], rfl, (List.append_nil _).symm, .nothing passed⟩
  case h_9 name =>
    split at read
    · contradiction
    · next added definition =>
      cases read
      have order := column_in_order definition
      cases value : added.value with
      | none => exact ⟨[], rfl, (List.append_nil _).symm, .nothing passed⟩
      | some column =>
        rw [value] at order
        exact ⟨[column.column], rfl, rfl, order⟩
  all_goals
    cases read
    exact ⟨[], rfl, (List.append_nil _).symm, .nothing passed⟩

theorem items_in_order {reading : TableReading} {tokens : List Token} {found : Parsed TableReading}
    (read : reading.items tokens = .ok found) :
    ∃ columns, found.value.name = reading.name ∧ found.value.columns = reading.columns ++ columns ∧
      InOrder (columns.map Column.heading) tokens found.rest := by
  fun_induction TableReading.items reading tokens with
  | case1 =>
      cases read
      exact ⟨[], rfl, (List.append_nil _).symm, .nothing (List.suffix_refl _)⟩
  | case2 =>
      cases read
      exact ⟨[], rfl, (List.append_nil _).symm, .nothing (List.suffix_cons _ _)⟩
  | case3 => contradiction
  | case4 reading token rest _ later step ih =>
      obtain ⟨here, sameName, columns, order⟩ := item_in_order step
      obtain ⟨there, lastName, allColumns, more⟩ := ih read
      refine ⟨here ++ there, lastName.trans sameName, ?_, ?_⟩
      · rw [allColumns, columns, List.append_assoc]
      · rw [List.map_append]
        exact order.append more

/-- The headings of a table are settled before its primary key is. -/
theorem headings_of_reading (reading : TableReading) :
    reading.table.headings = .table reading.name :: reading.columns.map Column.heading := by
  rw [Table.headings, TableReading.table, List.map_map]
  rfl

theorem qualified_name_last {tokens : List Token} {name : String}
    (named : (qualifiedName tokens).value = some name) :
    .identifier name :: (qualifiedName tokens).rest <:+ tokens := by
  fun_induction qualifiedName tokens with
  | case1 part rest ih =>
      exact ((ih named).trans (List.suffix_cons _ _)).trans (List.suffix_cons _ _)
  | case2 =>
      cases named
      exact List.suffix_refl _
  | case3 => contradiction

theorem table_in_order {tokens : List Token} {found : Parsed Declarations}
    (read : tableDefinition tokens = .ok found) :
    InOrder (found.value.tables.flatMap Table.headings) tokens found.rest := by
  have passed := tableDefinition_suffix read
  have tested := dropExistenceTest_suffix tokens
  have last : ∀ name, (qualifiedName (dropExistenceTest tokens)).value = some name → _ :=
    fun _ => qualified_name_last
  unfold tableDefinition at read
  split at read
  · next name body named =>
    rw [named] at last
    split at read
    · contradiction
    · next reading items =>
      cases read
      obtain ⟨columns, sameName, allColumns, order⟩ := items_in_order items
      have headings : [reading.value.table].flatMap Table.headings =
          .table name :: columns.map Column.heading := by
        rw [List.flatMap_singleton, headings_of_reading, sameName, allColumns]
        rfl
      rw [headings]
      exact .cons ((last name rfl).trans tested) ⟨rfl, rfl⟩ (order.before_more (afterStatement_suffix _))
  · cases read
    exact .nothing passed

theorem statement_in_order {token : Token} {rest : List Token} {found : Parsed Declarations}
    (read : statement token rest = .ok found) :
    InOrder (found.value.tables.flatMap Table.headings) rest found.rest := by
  have passed := statement_suffix read
  unfold statement at read
  split at read
  · exact (table_in_order read).after_more (List.suffix_cons _ _)
  · cases read
    exact .nothing passed
  · rw [change_defines_nothing read]
    exact .nothing passed
  · cases read
    exact .nothing passed

theorem declarations_in_order {tokens : List Token} {declared : Declarations}
    (read : declarations tokens = .ok declared) :
    InOrder (declared.tables.flatMap Table.headings) tokens [] := by
  fun_induction declarations tokens generalizing declared with
  | case1 =>
      cases read
      exact .nothing (List.suffix_refl _)
  | case2 => contradiction
  | case3 => contradiction
  | case4 token rest found step later more ih =>
      cases read
      have order := (statement_in_order step).append (ih more)
      rw [← List.flatMap_append] at order
      exact order.after_more (List.suffix_cons _ _)

theorem statement_defines_at_most {token : Token} {rest : List Token} {found : Parsed Declarations}
    (read : statement token rest = .ok found) :
    found.value.tables.length ≤ [token].count (.keyword .create) := by
  unfold statement at read
  split at read
  · unfold tableDefinition at read
    split at read
    · split at read
      · contradiction
      · cases read
        exact Nat.le_refl 1
    · cases read
      exact Nat.zero_le _
  · cases read
    exact Nat.zero_le _
  · rw [change_defines_nothing read]
    exact Nat.zero_le _
  · cases read
    exact Nat.zero_le _

theorem declarations_define_at_most {tokens : List Token} {declared : Declarations}
    (read : declarations tokens = .ok declared) :
    declared.tables.length ≤ tokens.count (.keyword .create) := by
  fun_induction declarations tokens generalizing declared with
  | case1 =>
      cases read
      exact Nat.zero_le _
  | case2 => contradiction
  | case3 => contradiction
  | case4 token rest found step later more ih =>
      cases read
      have here := statement_defines_at_most step
      have there := ih more
      have passed := (statement_suffix step).sublist.count_le (.keyword .create)
      calc (found.value.tables ++ later.tables).length
          = found.value.tables.length + later.tables.length := List.length_append
        _ ≤ [token].count (.keyword .create) + rest.count (.keyword .create) := by omega
        _ = (token :: rest).count (.keyword .create) := List.count_append.symm

theorem unlinked_of_resolve (schema : Schema) (key : ForeignKey) :
    (resolve schema key).tables.map unlinkedTable = schema.tables.map unlinkedTable := by
  have keeps (table : Table) : unlinkedTable (table.updateColumn key.column fun column =>
      { column with foreignKey := true }) = unlinkedTable table := by
    have keepsColumn : ∀ column, unlinked { column with foreignKey := true } = unlinked column :=
      fun _ => rfl
    exact congrArg (Table.mk table.name) (map_of_update keepsColumn _ _)
  rw [resolve]
  split
  · exact map_of_update keeps _ _
  · rfl

theorem unlinked_of_schema (declared : Declarations) :
    declared.schema.tables.map unlinkedTable = declared.tables.map unlinkedTable := by
  have kept (keys : List ForeignKey) (schema : Schema) :
      (keys.foldl resolve schema).tables.map unlinkedTable = schema.tables.map unlinkedTable := by
    induction keys generalizing schema with
    | nil => rfl
    | cons key rest ih => rw [List.foldl_cons, ih, unlinked_of_resolve]
  exact kept declared.keys { tables := declared.tables }

theorem headings_of_schema (declared : Declarations) :
    declared.schema.tables.map Table.headings = declared.tables.map Table.headings := by
  have unmarked (tables : List Table) :
      tables.map Table.headings = (tables.map unlinkedTable).map Table.headings := by
    rw [List.map_map]
    apply List.map_congr_left
    intro table _
    simp [Table.headings, unlinkedTable, unlinked, Column.heading]
  rw [unmarked, unlinked_of_schema, ← unmarked]

theorem stands_after {here : List Token} {place : Nat} {heading : Heading} (front : List Token)
    (stands : StandsAt here place heading) : StandsAt (front ++ here) (front.length + place) heading := by
  have found (ahead : Nat) : (front ++ here)[front.length + ahead]? = here[ahead]? := by
    rw [List.getElem?_append_right (Nat.le_add_right _ _), Nat.add_sub_cancel_left]
  cases heading with
  | table name =>
      rw [StandsAt, Nat.add_assoc, found, found]
      exact stands
  | column name type =>
      rw [StandsAt, Nat.add_assoc, found, found]
      exact stands

theorem two_tokens_of_stands {here : List Token} {heading : Heading}
    (stands : StandsAt here 0 heading) : (here.take 2).length = 2 := by
  have second : ∃ token, here[1]? = some token := by
    cases heading with
    | table => exact ⟨_, stands.2⟩
    | column =>
        obtain ⟨-, typeName, found, -⟩ := stands
        exact ⟨_, found⟩
  obtain ⟨token, found⟩ := second
  have bound := (List.getElem?_eq_some_iff.mp found).1
  rw [List.length_take]
  omega

theorem places_of_order {headings : List Heading} {tokens rest : List Token}
    (order : InOrder headings tokens rest) (before : List Token) :
    ∃ places, List.Forall₂ (fun heading place => StandsAt (before ++ tokens) place heading)
        headings places ∧
      places.Pairwise (fun earlier later => earlier + 2 ≤ later) ∧
      ∀ place ∈ places, before.length ≤ place := by
  induction order generalizing before with
  | nothing => exact ⟨[], .nil, .nil, by simp⟩
  | @cons heading later tokens here rest reached stands _ ih =>
      obtain ⟨front, rfl⟩ := reached
      have two := two_tokens_of_stands stands
      have whole : before ++ front ++ here.take 2 ++ here.drop 2 = before ++ (front ++ here) := by
        rw [List.append_assoc _ (here.take 2), List.take_append_drop, List.append_assoc]
      obtain ⟨places, stand, apart, bound⟩ := ih (before ++ front ++ here.take 2)
      rw [whole] at stand
      rw [List.length_append, List.length_append, two] at bound
      refine ⟨(before.length + front.length) :: places, .cons ?_ stand,
        List.pairwise_cons.mpr ⟨bound, apart⟩, ?_⟩
      · rw [← List.append_assoc, ← List.length_append]
        exact stands_after (before ++ front) stands
      · intro place member
        rcases List.mem_cons.mp member with rfl | more
        · exact Nat.le_add_right _ _
        · have := bound place more
          omega

/-- The tables and columns of a schema that is read stand in its script, in the order of the schema and
without sharing a token, and each table has a word `CREATE` of its own. -/
theorem schema_follows_script {script : String} {schema : Schema}
    (read : schemaOf script = .ok schema) :
    (∃ places, List.Forall₂ (fun heading place => StandsAt (scan script) place heading)
        schema.headings places ∧
      places.Pairwise (fun earlier later => earlier + 2 ≤ later)) ∧
    schema.tables.length ≤ (scan script).count (.keyword .create) := by
  rw [schemaOf, schemaOfTokens] at read
  cases declared : declarations (scan script) with
  | error fault =>
      rw [declared] at read
      contradiction
  | ok found =>
      rw [declared] at read
      cases read
      have same := headings_of_schema found
      obtain ⟨places, stand, apart, -⟩ := places_of_order (declarations_in_order declared) []
      refine ⟨⟨places, ?_, apart⟩, ?_⟩
      · rw [Schema.headings, List.flatMap_def, same, ← List.flatMap_def]
        exact stand
      · have count := congrArg List.length same
        rw [List.length_map, List.length_map] at count
        rw [count]
        exact declarations_define_at_most declared

/-- Two tables that share the name of a column, with something else between them and an end that comes too
early. -/
def unfinishedScript : List Lexeme :=
  [.keyword .create "CREATE".toList, .blank ' ', .keyword .table "TABLE".toList, .blank ' ',
    .bareName "s".toList, .dot, .bareName "a".toList, .leftParen, .bareName "x".toList, .blank ' ',
    .bareName "int".toList, .comma, .keyword .key "KEY".toList, .blank ' ', .bareName "k".toList,
    .leftParen, .bareName "x".toList, .rightParen, .comma, .bareName "y".toList, .blank ' ',
    .bareName "Text".toList, .rightParen, .semicolon, .bareName "DROP".toList, .blank ' ',
    .bareName "a".toList, .semicolon, .keyword .create "create".toList, .blank ' ',
    .keyword .table "table".toList, .blank ' ', .bareName "b".toList, .leftParen,
    .bareName "x".toList, .blank ' ', .bareName "int".toList]

theorem schema_of_unfinished_script : schemaOf (String.ofList (spelled unfinishedScript)) =
    .ok ⟨[⟨"a", [{ name := "x", type := "int" }, { name := "y", type := "text" }]⟩,
      ⟨"b", [{ name := "x", type := "int" }]⟩], []⟩ := by
  have fit : Fit unfinishedScript := by decide +kernel
  have tokens : tokensOf unfinishedScript =
      [.keyword .create, .keyword .table, .identifier "s", .dot, .identifier "a", .leftParen,
        .identifier "x", .identifier "int", .comma, .keyword .key, .identifier "k", .leftParen,
        .identifier "x", .rightParen, .comma, .identifier "y", .identifier "Text", .rightParen,
        .semicolon, .identifier "DROP", .identifier "a", .semicolon, .keyword .create,
        .keyword .table, .identifier "b", .leftParen, .identifier "x", .identifier "int"] := by
    decide +kernel
  have int : lowercase "int" = "int" := by decide
  have text : lowercase "Text" = "text" := by decide
  rw [schemaOf, scan, String.toList_ofList, scan_spelled fit, tokens, schemaOfTokens]
  simp [declarations_cons, declarations_nil, statement, tableDefinition, dropExistenceTest,
    qualifiedName, TableReading.items_cons, TableReading.items, TableReading.item, columnDefinition,
    typeSize, int, text, ColumnReading.clauses_cons, ColumnReading.clauses, endsColumn, fromItemEnd,
    Except.bind, Except.map, TableReading.addColumn, afterStatement, TableReading.table]
  rfl

theorem schema_follows_unfinished_script :
    let script := "CREATE TABLE s.a(x int,KEY k(x),y Text);DROP a;create table b(x int"
    let schema : Schema := ⟨[⟨"a", [{ name := "x", type := "int" }, { name := "y", type := "text" }]⟩,
      ⟨"b", [{ name := "x", type := "int" }]⟩], []⟩
    schemaOf script = .ok schema ∧
      (∃ places, List.Forall₂ (fun heading place => StandsAt (scan script) place heading)
          [.table "a", .column "x" "int", .column "y" "text", .table "b", .column "x" "int"] places ∧
        places.Pairwise (fun earlier later => earlier + 2 ≤ later)) ∧
      2 ≤ (scan script).count (.keyword .create) := by
  intro script schema
  have text : script = String.ofList (spelled unfinishedScript) := by decide +kernel
  have read : schemaOf script = .ok schema := by rw [text, schema_of_unfinished_script]
  exact ⟨read, schema_follows_script read⟩

end Script

end ErDiagram
