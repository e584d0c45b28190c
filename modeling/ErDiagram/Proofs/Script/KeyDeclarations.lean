import ErDiagram.Proofs.Script.Integrity
import ErDiagram.Proofs.Script.KeyForms
import ErDiagram.Proofs.Script.Scanning

/-!
# The three ways to declare a foreign key compared

A script that defines any tables can declare a key of one of their columns by a clause, by an item of the
table or by a change to it. The key that comes of it is the same, whichever way is chosen and wherever
the declaration stands, if the column it refers to is named. If that column is left out, a clause refers
to the column `id`, while an item and a change say nothing.
-/

namespace ErDiagram.Script

set_option autoImplicit false

/-- A script that defines tables, with one column of one table picked out. -/
structure Setting where
  before : List TableForm := []
  name : String
  front : List ColumnForm := []
  column : ColumnForm
  back : List ColumnForm := []
  listed : Option (List String) := none
  existenceTest : Bool := false
  after : List TableForm := []

namespace Setting

variable (setting : Setting) (declared : KeyDeclaration)

def host : TableForm where
  name := setting.name
  columns := setting.front ++ setting.column :: setting.back
  listed := setting.listed
  existenceTest := setting.existenceTest

def tables : List TableForm := setting.before ++ setting.host :: setting.after

def columnName : String := setting.column.column.name

/-- The script with the given items in the table of the column. -/
def tokensWith (items : List ItemForm) : List Token :=
  setting.before.flatMap TableForm.tokens ++
    (setting.host.tokensWith items ++ setting.after.flatMap TableForm.tokens)

def later : List BodyItem :=
  setting.back.map .column ++ setting.listed.toList.map .primaryKey

/-- The script with the key declared among the clauses of the column. -/
def clauseTokens (place : Nat) : List Token :=
  setting.tokensWith ((setting.front.map BodyItem.column).map BodyItem.form ++
    setting.column.linkedItem declared place :: setting.later.map BodyItem.form)

/-- The script with the key declared among the items of the table. -/
def itemTokens (place : Nat) : List Token :=
  setting.tokensWith (setting.host.itemForms.take place ++
    declared.item setting.columnName :: setting.host.itemForms.drop place)

/-- The script with the key declared among the statements. -/
def changeTokens (place : Nat) : List Token :=
  (setting.tables.take place).flatMap TableForm.tokens ++
    (declared.changeTokens setting.name setting.columnName ++
      (setting.tables.drop place).flatMap TableForm.tokens)

/-- The schema of the tables alone. -/
def unlinked : Schema where
  tables := setting.tables.map (·.read.table)

/-- The schema of the tables and the key, which marks its column. -/
def linked : Schema :=
  (setting.unlinked.updateColumn setting.name setting.columnName fun column =>
    { column with foreignKey := true }).addForeignKey (declared.key setting.name setting.columnName)

end Setting

variable {setting : Setting} (declared : KeyDeclaration)

def TableReading.applyItems (reading : TableReading) (items : List BodyItem) : TableReading :=
  items.foldl (fun reading item => item.apply reading) reading

def TableReading.withKeys (reading : TableReading) (keys : List ForeignKey) : TableReading :=
  { reading with keys }

theorem applied_name (reading : TableReading) (items : List BodyItem) :
    (reading.applyItems items).name = reading.name := by
  induction items generalizing reading with
  | nil => rfl
  | cons item rest ih =>
      have same : (item.apply reading).name = reading.name := by cases item <;> rfl
      exact (ih (item.apply reading)).trans same

theorem applied_keys (reading : TableReading) (items : List BodyItem) :
    (reading.applyItems items).keys = reading.keys := by
  induction items generalizing reading with
  | nil => rfl
  | cons item rest ih =>
      have same : (item.apply reading).keys = reading.keys := by cases item <;> rfl
      exact (ih (item.apply reading)).trans same

theorem applied_with_keys (reading : TableReading) (keys : List ForeignKey) (items : List BodyItem) :
    (reading.withKeys keys).applyItems items = (reading.applyItems items).withKeys keys := by
  induction items generalizing reading with
  | nil => rfl
  | cons item rest ih =>
      have same : item.apply (reading.withKeys keys) = (item.apply reading).withKeys keys := by
        cases item <;> rfl
      exact (congrArg (·.applyItems rest) same).trans (ih (item.apply reading))

/-- One item that declares keys among others that declare none. -/
theorem body_with_keys {special : ItemForm} (change : TableReading → TableReading)
    (keys : String → List ForeignKey)
    (effect : ∀ reading, special.effect reading =
      (change reading).withKeys (reading.keys ++ keys reading.name))
    (front back : List BodyItem) (name : String) :
    (front.map BodyItem.form ++ special :: back.map BodyItem.form).foldl
        (fun reading item => item.effect reading) { name } =
      ((change (TableReading.applyItems { name } front)).applyItems back).withKeys (keys name) := by
  have split : (front.map BodyItem.form ++ special :: back.map BodyItem.form).foldl
      (fun reading item => item.effect reading) { name } =
        (special.effect (TableReading.applyItems { name } front)).applyItems back := by
    rw [List.foldl_append, List.foldl_cons, List.foldl_map, List.foldl_map]
    rfl
  rw [split, effect, applied_keys, applied_name, applied_with_keys]
  rfl

theorem column_body {special : ItemForm} (keys : String → List ForeignKey)
    (effect : ∀ reading, special.effect reading =
      ((BodyItem.column setting.column).apply reading).withKeys (reading.keys ++ keys reading.name)) :
    ((setting.front.map BodyItem.column).map BodyItem.form ++
      special :: setting.later.map BodyItem.form).foldl
        (fun reading item => item.effect reading) { name := setting.name } =
      setting.host.read.withKeys (keys setting.name) := by
  have items : setting.host.items = setting.front.map BodyItem.column ++
      .column setting.column :: setting.later := by
    simp [TableForm.items, Setting.host, Setting.later]
  have whole : ((BodyItem.column setting.column).apply (TableReading.applyItems
      { name := setting.name } (setting.front.map .column))).applyItems setting.later =
        setting.host.read := by
    have found := body_applied setting.host
    rw [items, List.foldl_append, List.foldl_cons] at found
    exact found
  rw [← whole]
  exact body_with_keys (BodyItem.column setting.column).apply keys effect _ _ _

theorem item_body (place : Nat) :
    (setting.host.itemForms.take place ++
      declared.item setting.columnName :: setting.host.itemForms.drop place).foldl
        (fun reading item => item.effect reading) { name := setting.name } =
      setting.host.read.withKeys (declared.listedKeys setting.name setting.columnName) := by
  have whole : (TableReading.applyItems { name := setting.name }
      (setting.host.items.take place)).applyItems (setting.host.items.drop place) =
        setting.host.read := by
    have found := body_applied setting.host
    rw [← List.take_append_drop place setting.host.items, List.foldl_append] at found
    exact found
  rw [← whole, TableForm.itemForms, ← List.map_take, ← List.map_drop]
  exact body_with_keys id (fun table => declared.listedKeys table setting.columnName)
    (fun _ => (rfl : (declared.item setting.columnName).effect _ = _)) _ _ _

variable (readable : ∀ table ∈ setting.tables, ∀ column ∈ table.columns, column.Readable)

include readable

theorem declarations_of_some {tables : List TableForm} (inSetting : tables ⊆ setting.tables)
    {rest : List Token} {more : Declarations} (found : declarations rest = .ok more) :
    declarations (tables.flatMap TableForm.tokens ++ rest) =
      .ok ⟨tables.map (·.read.table) ++ more.tables, more.keys⟩ :=
  declarations_tables (fun table member => readable table (inSetting member)) found

theorem declarations_of_last {tables : List TableForm} (inSetting : tables ⊆ setting.tables) :
    declarations (tables.flatMap TableForm.tokens) = .ok ⟨tables.map (·.read.table), []⟩ := by
  simpa using declarations_of_some readable inSetting declarations_nil

theorem declarations_with_items {items : List ItemForm} (reads : ∀ item ∈ items, item.Reads)
    {keys : List ForeignKey}
    (body : items.foldl (fun reading item => item.effect reading) { name := setting.name } =
      setting.host.read.withKeys keys) :
    declarations (setting.tokensWith items) = .ok ⟨setting.unlinked.tables, keys⟩ := by
  have inBefore : setting.before ⊆ setting.tables := List.subset_append_left _ _
  have inAfter : setting.after ⊆ setting.tables := fun _ member =>
    List.mem_append_right _ (List.mem_cons_of_mem _ member)
  obtain ⟨more, tokens, read⟩ := definition_read setting.host reads body
    (setting.after.flatMap TableForm.tokens)
  have step : statement (.keyword .create) (.keyword .table :: more) =
      .ok ⟨⟨[setting.host.read.table], keys⟩, setting.after.flatMap TableForm.tokens⟩ := read
  have found : declarations (setting.host.tokensWith items ++
      setting.after.flatMap TableForm.tokens) =
        .ok ⟨[setting.host.read.table] ++ setting.after.map (·.read.table), keys ++ []⟩ := by
    rw [tokens]
    exact declarations_step step (declarations_of_last readable inAfter)
  rw [Setting.tokensWith, declarations_of_some readable inBefore found, List.append_nil,
    Setting.unlinked, Setting.tables, List.map_append, List.map_cons]
  rfl

theorem declarations_with_column {special : ItemForm} (reads : special.Reads)
    (keys : String → List ForeignKey)
    (effect : ∀ reading, special.effect reading =
      ((BodyItem.column setting.column).apply reading).withKeys
        (reading.keys ++ keys reading.name)) :
    declarations (setting.tokensWith ((setting.front.map BodyItem.column).map BodyItem.form ++
        special :: setting.later.map BodyItem.form)) =
      .ok ⟨setting.unlinked.tables, keys setting.name⟩ := by
  have inHost : ∀ column ∈ setting.host.columns, column.Readable :=
    readable setting.host (List.mem_append_right _ List.mem_cons_self)
  refine declarations_with_items readable ?_ (column_body keys effect)
  intro item member
  have listed : ∀ found : BodyItem, found ∈ setting.front.map .column ++ setting.later →
      found.form.Reads := by
    intro found inBody
    apply item_forms_read inHost
    apply List.mem_map_of_mem
    simp only [TableForm.items, Setting.host, Setting.later, List.map_append, List.map_cons,
      List.mem_append, List.mem_cons] at inBody ⊢
    tauto
  rcases List.mem_append.mp member with front | inRest
  · obtain ⟨found, inFront, rfl⟩ := List.mem_map.mp front
    exact listed found (List.mem_append_left _ inFront)
  · rcases List.mem_cons.mp inRest with rfl | back
    · exact reads
    · obtain ⟨found, inLater, rfl⟩ := List.mem_map.mp back
      exact listed found (List.mem_append_right _ inLater)

theorem clause_declarations (place : Nat) :
    declarations (setting.clauseTokens declared place) =
      .ok ⟨setting.unlinked.tables, [declared.key setting.name setting.columnName]⟩ := by
  have column : setting.column.Readable :=
    readable setting.host (List.mem_append_right _ List.mem_cons_self) _
      (List.mem_append_right _ List.mem_cons_self)
  exact declarations_with_column readable (linked_item_reads declared column place)
    (fun table => [declared.key table setting.columnName]) fun _ => rfl

theorem item_declarations (place : Nat) :
    declarations (setting.itemTokens declared place) =
      .ok ⟨setting.unlinked.tables, declared.listedKeys setting.name setting.columnName⟩ := by
  have inHost : ∀ column ∈ setting.host.columns, column.Readable :=
    readable setting.host (List.mem_append_right _ List.mem_cons_self)
  refine declarations_with_items readable ?_ (item_body declared place)
  intro item member
  rcases List.mem_append.mp member with front | special
  · exact item_forms_read inHost item (List.mem_of_mem_take front)
  · rcases List.mem_cons.mp special with rfl | back
    · exact key_item_reads declared _
    · exact item_forms_read inHost item (List.mem_of_mem_drop back)

theorem change_declarations (place : Nat) :
    declarations (setting.changeTokens declared place) =
      .ok ⟨setting.unlinked.tables, declared.listedKeys setting.name setting.columnName⟩ := by
  have inFront : setting.tables.take place ⊆ setting.tables := List.take_subset _ _
  have inBack : setting.tables.drop place ⊆ setting.tables := List.drop_subset _ _
  obtain ⟨more, tokens, read⟩ := key_change_read declared setting.name setting.columnName
    ((setting.tables.drop place).flatMap TableForm.tokens)
  have step : statement (.keyword .alter) more =
      .ok ⟨⟨[], declared.listedKeys setting.name setting.columnName⟩,
        (setting.tables.drop place).flatMap TableForm.tokens⟩ := read
  have found : declarations (declared.changeTokens setting.name setting.columnName ++
      (setting.tables.drop place).flatMap TableForm.tokens) =
        .ok ⟨[] ++ (setting.tables.drop place).map (·.read.table),
          declared.listedKeys setting.name setting.columnName ++ []⟩ := by
    rw [tokens]
    exact declarations_step step (declarations_of_last readable inBack)
  rw [Setting.changeTokens, declarations_of_some readable inFront found, List.append_nil,
    List.nil_append, ← List.map_append, List.take_append_drop]
  rfl

omit readable

theorem host_found (first : setting.name ∉ setting.before.map (·.name)) :
    setting.unlinked.table? setting.name = some setting.host.read.table := by
  have others : (setting.before.map (·.read.table)).find? (·.name = setting.name) = none := by
    rw [List.find?_eq_none]
    intro table member
    obtain ⟨form, inBefore, rfl⟩ := List.mem_map.mp member
    have different : form.name ≠ setting.name := fun same => first (List.mem_map.mpr ⟨form, inBefore, same⟩)
    exact fun same => different (of_decide_eq_true same)
  rw [Schema.table?, Setting.unlinked, Setting.tables, List.map_append, List.find?_append, others,
    Option.none_or, List.map_cons, List.find?_cons_of_pos]
  exact decide_eq_true rfl

theorem column_found :
    ∃ column, setting.host.read.table.column? setting.columnName = some column := by
  rw [← Option.isSome_iff_exists, Table.column?, List.find?_isSome]
  have inHost : setting.column ∈ setting.host.columns := List.mem_append_right _ List.mem_cons_self
  refine ⟨_, List.mem_map_of_mem (List.mem_map_of_mem inHost), ?_⟩
  exact decide_eq_true (apply_all_name setting.column.clauses _)

theorem schema_of_key (created : declared.refTable ∈ setting.tables.map (·.name))
    (first : setting.name ∉ setting.before.map (·.name)) :
    Declarations.schema ⟨setting.unlinked.tables, [declared.key setting.name setting.columnName]⟩ =
      setting.linked declared := by
  have names : setting.unlinked.tables.map Table.name = setting.tables.map (·.name) := by
    rw [Setting.unlinked, List.map_map]
    rfl
  have resolved : isResolved setting.unlinked (declared.key setting.name setting.columnName) = true := by
    rw [is_resolved_iff, names]
    refine ⟨created, ?_⟩
    have host : setting.unlinked.table? (declared.key setting.name setting.columnName).table =
        some setting.host.read.table := host_found first
    rw [Schema.column?, host, Option.bind_some]
    exact column_found
  have single : Declarations.schema
      ⟨setting.unlinked.tables, [declared.key setting.name setting.columnName]⟩ =
        resolve setting.unlinked (declared.key setting.name setting.columnName) := rfl
  rw [single, resolve, if_pos resolved]
  rfl

theorem schema_of_listed_keys (created : declared.refTable ∈ setting.tables.map (·.name))
    (first : setting.name ∉ setting.before.map (·.name)) :
    Declarations.schema ⟨setting.unlinked.tables,
        declared.listedKeys setting.name setting.columnName⟩ =
      if declared.refColumn.isSome then setting.linked declared else setting.unlinked := by
  rw [KeyDeclaration.listedKeys]
  split
  · exact schema_of_key declared created first
  · rfl

/-- Whether every text that spells the tokens is read as the schema. -/
def ReadAs (tokens : List Token) (schema : Schema) : Prop :=
  ∀ lexemes, tokensOf lexemes = tokens → Fit lexemes →
    schemaOf (String.ofList (spelled lexemes)) = .ok schema

theorem read_as_of_declarations {tokens : List Token} {declared : Declarations} {schema : Schema}
    (read : declarations tokens = .ok declared) (same : declared.schema = schema) :
    ReadAs tokens schema := by
  intro lexemes spells fit
  rw [schemaOf, scan, String.toList_ofList, scan_spelled fit, spells, schemaOfTokens, read, Except.map,
    same]

/-- A key of a created table to a created table is read from a clause wherever it stands. From an item or
a change it is read with the same result if the column is named that it refers to, and not at all if it
is not. -/
theorem key_declarations_read (setting : Setting) (declared : KeyDeclaration)
    (readable : ∀ table ∈ setting.tables, ∀ column ∈ table.columns, column.Readable)
    (created : declared.refTable ∈ setting.tables.map (·.name))
    (first : setting.name ∉ setting.before.map (·.name)) :
    (setting.linked declared).foreignKeys = [declared.key setting.name setting.columnName] ∧
      setting.unlinked.foreignKeys = [] ∧
      ∀ place, ReadAs (setting.clauseTokens declared place) (setting.linked declared) ∧
        ReadAs (setting.itemTokens declared place)
          (if declared.refColumn.isSome then setting.linked declared else setting.unlinked) ∧
        ReadAs (setting.changeTokens declared place)
          (if declared.refColumn.isSome then setting.linked declared else setting.unlinked) := by
  refine ⟨rfl, rfl, fun place => ⟨?_, ?_, ?_⟩⟩
  · exact read_as_of_declarations (clause_declarations declared readable place)
      (schema_of_key declared created first)
  · exact read_as_of_declarations (item_declarations declared readable place)
      (schema_of_listed_keys declared created first)
  · exact read_as_of_declarations (change_declarations declared readable place)
      (schema_of_listed_keys declared created first)

def quotedWord (name : String) : List Lexeme := [.quotedName .double name, .blank ' ']

def keywords (words : List Keyword) : List Lexeme :=
  words.flatMap fun word => [.keyword word word.spelling.toList, .blank ' ']

def inParens (inside : List Lexeme) : List Lexeme := .leftParen :: (inside ++ [.rightParen])

/-- The definition of a table with one column, with something before the parenthesis that closes it. -/
def definitionSpelled (table column : String) (more : List Lexeme) : List Lexeme :=
  keywords [.create, .table] ++ quotedWord table ++
    inParens (quotedWord column ++ [.bareName "int".toList, .blank ' '] ++ more) ++ [.semicolon]

def singleColumn (table column : String) : TableForm where
  name := table
  columns := [{ column := { name := column, type := "int" }, typeName := "int" }]

def targetSpelled (declared : KeyDeclaration) : List Lexeme :=
  keywords [.references] ++ quotedWord declared.refTable ++
    (declared.refColumn.map fun column => inParens (quotedWord column)).getD []

def constraintSpelled (declared : KeyDeclaration) : List Lexeme :=
  (declared.name.map fun name => keywords [.constraint] ++ quotedWord name).getD []

def keySpelled (declared : KeyDeclaration) : List Lexeme :=
  constraintSpelled declared ++ keywords [.foreign, .key] ++ inParens (quotedWord "c") ++
    targetSpelled declared

def clauseSpelled (declared : KeyDeclaration) : List Lexeme :=
  definitionSpelled "R" "id" [] ++
    definitionSpelled "A" "c" (constraintSpelled declared ++ targetSpelled declared)

def itemSpelled (declared : KeyDeclaration) : List Lexeme :=
  definitionSpelled "R" "id" [] ++ definitionSpelled "A" "c" (.comma :: keySpelled declared)

def changeSpelled (declared : KeyDeclaration) : List Lexeme :=
  definitionSpelled "R" "id" [] ++ keywords [.alter, .table] ++ quotedWord "A" ++ keywords [.add] ++
    keySpelled declared ++ [.semicolon] ++ definitionSpelled "A" "c" []

def twoTables : Setting where
  before := [singleColumn "R" "id"]
  name := "A"
  column := { column := { name := "c", type := "int" }, typeName := "int" }

theorem two_tables_readable :
    ∀ table ∈ twoTables.tables, ∀ column ∈ table.columns, column.Readable := by
  have single (table column : String) :
      ∀ form ∈ (singleColumn table column).columns, form.Readable := by
    have type : Text.lowercase "int" = "int" := by decide
    have max : Text.lowercase "max" = "max" := by decide
    intro form member
    cases List.mem_singleton.mp member
    exact ⟨type, max, trivial⟩
  intro table member
  rcases List.mem_pair.mp member with rfl | rfl
  · exact single "R" "id"
  · exact single "A" "c"

/-- A change may stand before the definition of its table. -/
theorem key_declarations_read_of_two_tables :
    let clause := "CREATE TABLE \"R\" (\"id\" int );CREATE TABLE \"A\" (\"c\" int " ++
      "CONSTRAINT \"k\"\"\" REFERENCES \"R\" (\"id\" ));"
    let item := "CREATE TABLE \"R\" (\"id\" int );CREATE TABLE \"A\" (\"c\" int ," ++
      "CONSTRAINT \"k\"\"\" FOREIGN KEY (\"c\" )REFERENCES \"R\" (\"id\" ));"
    let change := "CREATE TABLE \"R\" (\"id\" int );ALTER TABLE \"A\" ADD CONSTRAINT \"k\"\"\" " ++
      "FOREIGN KEY (\"c\" )REFERENCES \"R\" (\"id\" );CREATE TABLE \"A\" (\"c\" int );"
    let schema : Schema := ⟨[⟨"R", [{ name := "id", type := "int" }]⟩,
      ⟨"A", [{ name := "c", type := "int", foreignKey := true }]⟩], [⟨"k\"", "A", "c", "R", "id"⟩]⟩
    schemaOf clause = .ok schema ∧ schemaOf item = .ok schema ∧ schemaOf change = .ok schema := by
  intro clause item change schema
  let declared : KeyDeclaration := { name := some "k\"", refTable := "R", refColumn := some "id" }
  have clauseText : clause = String.ofList (spelled (clauseSpelled declared)) := by decide +kernel
  have itemText : item = String.ofList (spelled (itemSpelled declared)) := by decide +kernel
  have changeText : change = String.ofList (spelled (changeSpelled declared)) := by decide +kernel
  obtain ⟨-, -, read⟩ := key_declarations_read twoTables declared two_tables_readable
    (by decide) (by decide)
  obtain ⟨inClause, inItem, inChange⟩ := read 1
  rw [clauseText, itemText, changeText]
  exact ⟨inClause _ (by decide +kernel) (by decide +kernel),
    inItem _ (by decide +kernel) (by decide +kernel),
    inChange _ (by decide +kernel) (by decide +kernel)⟩

/-- Without the column that is referred to, a key is declared by the clause alone. -/
theorem key_declarations_differ :
    let clause := "CREATE TABLE \"R\" (\"id\" int );CREATE TABLE \"A\" (\"c\" int REFERENCES \"R\" );"
    let item := "CREATE TABLE \"R\" (\"id\" int );CREATE TABLE \"A\" (\"c\" int ," ++
      "FOREIGN KEY (\"c\" )REFERENCES \"R\" );"
    let change := "CREATE TABLE \"R\" (\"id\" int );ALTER TABLE \"A\" ADD " ++
      "FOREIGN KEY (\"c\" )REFERENCES \"R\" ;CREATE TABLE \"A\" (\"c\" int );"
    let referenced : Table := ⟨"R", [{ name := "id", type := "int" }]⟩
    let unlinked : Schema := ⟨[referenced, ⟨"A", [{ name := "c", type := "int" }]⟩], []⟩
    let linked : Schema := ⟨[referenced, ⟨"A", [{ name := "c", type := "int", foreignKey := true }]⟩],
      [⟨"FK_A_R", "A", "c", "R", "id"⟩]⟩
    schemaOf clause = .ok linked ∧ schemaOf item = .ok unlinked ∧ schemaOf change = .ok unlinked ∧
      linked ≠ unlinked := by
  intro clause item change referenced unlinked linked
  let declared : KeyDeclaration := { refTable := "R" }
  have clauseText : clause = String.ofList (spelled (clauseSpelled declared)) := by decide +kernel
  have itemText : item = String.ofList (spelled (itemSpelled declared)) := by decide +kernel
  have changeText : change = String.ofList (spelled (changeSpelled declared)) := by decide +kernel
  have inClause := read_as_of_declarations (clause_declarations declared two_tables_readable 1)
    (schema_of_key declared (by decide) (by decide))
  have inItem := read_as_of_declarations (item_declarations declared two_tables_readable 1) rfl
  have inChange := read_as_of_declarations (change_declarations declared two_tables_readable 1) rfl
  rw [clauseText, itemText, changeText]
  exact ⟨inClause _ (by decide +kernel) (by decide +kernel),
    inItem _ (by decide +kernel) (by decide +kernel),
    inChange _ (by decide +kernel) (by decide +kernel), by decide⟩

end ErDiagram.Script
