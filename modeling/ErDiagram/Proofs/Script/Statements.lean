import ErDiagram.Proofs.Script.Integrity
import ErDiagram.Proofs.Script.Locality
import ErDiagram.Proofs.Script.Reading
import Mathlib.Data.List.Infix

/-!
# Statements are read one by one

A script of statements whose groups are all closed declares what its statements declare alone, one after
another. Where one of them cannot be read, the script cannot be read either, and the first such
statement says why.

Which of the declared foreign keys are kept is decided only then, so a table may be defined after the
keys that refer to it.
-/

namespace ErDiagram.Script

set_option autoImplicit false

/-- The tokens of one statement before its semicolon: no group is closed that is not open, and none is
left open. -/
structure Balanced (statement : List Token) : Prop where
  oneStatement : Token.semicolon ∉ statement
  opened : ∀ before, before <+: statement → before.count .rightParen ≤ before.count .leftParen
  closed : statement.count .rightParen = statement.count .leftParen

instance (statement : List Token) : Decidable (Balanced statement) :=
  decidable_of_iff (Token.semicolon ∉ statement ∧
      (∀ before ∈ statement.inits, before.count .rightParen ≤ before.count .leftParen) ∧
      statement.count .rightParen = statement.count .leftParen)
    ⟨fun ⟨oneStatement, opened, closed⟩ =>
        ⟨oneStatement, fun before start => opened before ((List.mem_inits _ _).mpr start), closed⟩,
      fun ⟨oneStatement, opened, closed⟩ =>
        ⟨oneStatement, fun before start => opened before ((List.mem_inits _ _).mp start), closed⟩⟩

theorem closes_of_counts {tokens : List Token} {depth : Nat}
    (oneStatement : Token.semicolon ∉ tokens)
    (opened : ∀ before, before <+: tokens →
      before.count .rightParen ≤ depth + before.count .leftParen)
    (closed : tokens.count .rightParen = depth + tokens.count .leftParen) :
    Closes depth (tokens ++ [.semicolon]) := by
  induction tokens generalizing depth with
  | nil => exact ⟨closed.symm, rfl⟩
  | cons token rest ih =>
      have inRest : Token.semicolon ∉ rest := fun member => oneStatement (List.mem_cons_of_mem _ member)
      have grown : ∀ before, before <+: rest →
          (token :: before).count .rightParen ≤ depth + (token :: before).count .leftParen :=
        fun before start => opened (token :: before) (List.cons_prefix_cons.mpr ⟨rfl, start⟩)
      cases token with
      | semicolon => exact absurd List.mem_cons_self oneStatement
      | leftParen =>
          have inside : ∀ before, before <+: rest →
              before.count .rightParen ≤ depth + 1 + before.count .leftParen := by
            intro before start
            have bound := grown before start
            rw [List.count_cons_of_ne (by decide), List.count_cons_self] at bound
            omega
          have left : rest.count .rightParen = depth + 1 + rest.count .leftParen := by
            rw [List.count_cons_of_ne (by decide), List.count_cons_self] at closed
            omega
          exact ih inRest inside left
      | rightParen =>
          have someOpen : 0 < depth := grown [] List.nil_prefix
          have outside : ∀ before, before <+: rest →
              before.count .rightParen ≤ depth - 1 + before.count .leftParen := by
            intro before start
            have bound := grown before start
            rw [List.count_cons_self, List.count_cons_of_ne (by decide)] at bound
            omega
          have left : rest.count .rightParen = depth - 1 + rest.count .leftParen := by
            rw [List.count_cons_self, List.count_cons_of_ne (by decide)] at closed
            omega
          exact ih inRest outside left
      | _ =>
          have same : ∀ before, before <+: rest →
              before.count .rightParen ≤ depth + before.count .leftParen := by
            intro before start
            simpa using grown before start
          exact ih inRest same (by simpa using closed)

theorem closes_of_balanced {statement : List Token} (balanced : Balanced statement) :
    Closes 0 (statement ++ [.semicolon]) := by
  apply closes_of_counts balanced.oneStatement
  · simpa using balanced.opened
  · simpa using balanced.closed

theorem declarations_append {tokens : List Token} (ends : tokens = [] ∨ Closes 0 tokens)
    (later : List Token) :
    declarations (tokens ++ later) =
      (declarations tokens).bind fun first => (declarations later).map (first ++ ·) := by
  fun_induction declarations tokens with
  | case1 =>
      rw [List.nil_append]
      cases declarations later <;> rfl
  | case2 token rest fault step =>
      have alike := statement_alike later (ends.resolve_left (List.cons_ne_nil _ _))
      rw [step] at alike
      rw [List.cons_append, declarations_cons, alike]
      rfl
  | case3 token rest found step fault failed ih =>
      have alike := statement_alike later (ends.resolve_left (List.cons_ne_nil _ _))
      rw [step] at alike
      have further := ih alike.2
      rw [failed] at further
      rw [List.cons_append, declarations_cons, alike.1]
      change (declarations (found.rest ++ later)).map (found.value ++ ·) = _
      rw [further]
      rfl
  | case4 token rest found step more read ih =>
      have alike := statement_alike later (ends.resolve_left (List.cons_ne_nil _ _))
      rw [step] at alike
      have further := ih alike.2
      rw [read] at further
      rw [List.cons_append, declarations_cons, alike.1]
      change (declarations (found.rest ++ later)).map (found.value ++ ·) = _
      rw [further]
      cases declarations later with
      | error fault => rfl
      | ok declared => exact congrArg Except.ok (declared_assoc found.value more declared).symm

/-- What a statement declares when it is the only one of its script. -/
def declaredAlone (statement : List Token) : Except ScriptError Declarations :=
  declarations (statement ++ [.semicolon])

def scriptOf (statements : List (List Token)) : List Token :=
  statements.flatMap (· ++ [.semicolon])

def Declarations.concat (parts : List Declarations) : Declarations where
  tables := parts.flatMap Declarations.tables
  keys := parts.flatMap Declarations.keys

theorem declarations_of_script {statement : List Token} (balanced : Balanced statement)
    (statements : List (List Token)) :
    declarations (scriptOf (statement :: statements)) =
      (declaredAlone statement).bind fun first =>
        (declarations (scriptOf statements)).map (first ++ ·) :=
  declarations_append (.inr (closes_of_balanced balanced)) (scriptOf statements)

section TwoReadings

variable {first later : Except ScriptError Declarations}

theorem bind_ok_iff {declared : Declarations} :
    (first.bind fun part => later.map (part ++ ·)) = .ok declared ↔
      ∃ part more, first = .ok part ∧ later = .ok more ∧ declared = part ++ more := by
  cases first with
  | error fault => simp [Except.bind]
  | ok part =>
      cases later with
      | error fault => simp [Except.bind, Except.map]
      | ok more => simp [Except.bind, Except.map, eq_comm]

theorem bind_error_iff {fault : ScriptError} :
    (first.bind fun part => later.map (part ++ ·)) = .error fault ↔
      first = .error fault ∨ (∃ part, first = .ok part) ∧ later = .error fault := by
  cases first with
  | error fault => simp [Except.bind]
  | ok part =>
      cases later with
      | error fault => simp [Except.bind, Except.map]
      | ok more => simp [Except.bind, Except.map]

end TwoReadings

theorem script_read_iff {statements : List (List Token)}
    (balanced : ∀ statement ∈ statements, Balanced statement) {declared : Declarations} :
    declarations (scriptOf statements) = .ok declared ↔ ∃ parts,
      List.Forall₂ (fun statement part => declaredAlone statement = .ok part) statements parts ∧
        declared = Declarations.concat parts := by
  induction statements generalizing declared with
  | nil =>
      rw [scriptOf, List.flatMap_nil, declarations_nil]
      constructor
      · rintro ⟨⟩
        exact ⟨[], .nil, rfl⟩
      · rintro ⟨parts, alone, rfl⟩
        cases alone
        rfl
  | cons statement rest ih =>
      obtain ⟨here, there⟩ := List.forall_mem_cons.mp balanced
      rw [declarations_of_script here, bind_ok_iff]
      constructor
      · rintro ⟨part, more, alone, read, rfl⟩
        obtain ⟨parts, others, rfl⟩ := (ih there).mp read
        exact ⟨part :: parts, .cons alone others, rfl⟩
      · rintro ⟨parts, alone, rfl⟩
        cases alone with
        | cons first others => exact ⟨_, _, first, (ih there).mpr ⟨_, others, rfl⟩, rfl⟩

theorem script_fails_iff {statements : List (List Token)}
    (balanced : ∀ statement ∈ statements, Balanced statement) {fault : ScriptError} :
    declarations (scriptOf statements) = .error fault ↔ ∃ before failing after,
      statements = before ++ failing :: after ∧
        (∀ statement ∈ before, ∃ part, declaredAlone statement = .ok part) ∧
        declaredAlone failing = .error fault := by
  induction statements with
  | nil =>
      rw [scriptOf, List.flatMap_nil, declarations_nil]
      simp
  | cons statement rest ih =>
      obtain ⟨here, there⟩ := List.forall_mem_cons.mp balanced
      rw [declarations_of_script here, bind_error_iff]
      constructor
      · rintro (failed | ⟨read, failed⟩)
        · exact ⟨[], statement, rest, rfl, by simp, failed⟩
        · obtain ⟨before, failing, after, rfl, others, failed⟩ := (ih there).mp failed
          exact ⟨statement :: before, failing, after, rfl, List.forall_mem_cons.mpr ⟨read, others⟩,
            failed⟩
      · rintro ⟨before, failing, after, split, read, failed⟩
        cases before with
        | nil =>
            obtain ⟨rfl, rfl⟩ := List.cons.inj split
            exact .inl failed
        | cons first before =>
            obtain ⟨rfl, rfl⟩ := List.cons.inj split
            obtain ⟨read, others⟩ := List.forall_mem_cons.mp read
            exact .inr ⟨read, (ih there).mpr ⟨before, failing, after, rfl, others, failed⟩⟩

/-- Whether a foreign key refers to one of the tables and starts from a column of the first table of its
name. -/
structure Fits (tables : List Table) (key : ForeignKey) : Prop where
  target : ∃ table ∈ tables, table.name = key.refTable
  source : ∃ table, tables.find? (fun table => table.name = key.table) = some table ∧
    ∃ column ∈ table.columns, column.name = key.column

theorem is_resolved_iff_fits {schema : Schema} {key : ForeignKey} :
    isResolved schema key = true ↔ Fits schema.tables key := by
  have columnFound (table : Table) :
      (∃ column, table.column? key.column = some column) ↔
        ∃ column ∈ table.columns, column.name = key.column := by
    rw [← Option.isSome_iff_exists, Table.column?, List.find?_isSome]
    simp
  rw [is_resolved_iff, List.mem_map]
  constructor
  · rintro ⟨target, column, found⟩
    obtain ⟨table, isTable, isColumn⟩ := Option.bind_eq_some_iff.mp found
    exact ⟨target, table, isTable, (columnFound table).mp ⟨column, isColumn⟩⟩
  · rintro ⟨target, table, isTable, named⟩
    obtain ⟨column, isColumn⟩ := (columnFound table).mpr named
    exact ⟨target, column, Option.bind_eq_some_iff.mpr ⟨table, isTable, isColumn⟩⟩

instance (tables : List Table) (key : ForeignKey) : Decidable (Fits tables key) :=
  decidable_of_iff (isResolved { tables } key = true) is_resolved_iff_fits

/-- A resolved key marks a column and changes no name, so the keys after it are kept as they would have
been before it. -/
theorem is_resolved_of_resolve (schema : Schema) (key other : ForeignKey) :
    isResolved (resolve schema key) other = isResolved schema other := by
  have keeps : ∀ column : Column, ({ column with foreignKey := true } : Column).name = column.name :=
    fun _ => rfl
  rw [resolve]
  split
  · have names := table_names_of_update keeps schema key.table key.column
    have lookup := column_of_update keeps schema key.table key.column other.table other.column
    have sameColumn := (congrArg Option.isSome lookup).trans Option.isSome_map
    rw [Bool.eq_iff_iff, is_resolved_iff, is_resolved_iff, ← Option.isSome_iff_exists,
      ← Option.isSome_iff_exists]
    exact and_congr (iff_of_eq (congrArg (other.refTable ∈ ·) names)) (Bool.eq_iff_iff.mp sameColumn)
  · rfl

theorem resolved_keys (schema : Schema) (keys : List ForeignKey) :
    (keys.foldl resolve schema).foreignKeys =
      schema.foreignKeys ++ keys.filter (isResolved schema) := by
  induction keys generalizing schema with
  | nil => simp
  | cons key rest ih =>
      have unchanged : isResolved (resolve schema key) = isResolved schema :=
        funext (is_resolved_of_resolve schema key)
      rw [List.foldl_cons, ih, unchanged]
      by_cases kept : isResolved schema key = true
      · rw [List.filter_cons_of_pos kept, resolve, if_pos kept]
        exact List.append_assoc _ _ _
      · rw [List.filter_cons_of_neg kept, resolve, if_neg kept]

theorem keys_of_schema (declared : Declarations) :
    declared.schema.foreignKeys = declared.keys.filter fun key => Fits declared.tables key := by
  rw [Declarations.schema, resolved_keys, List.nil_append]
  apply List.filter_congr
  intro key _
  rw [Bool.eq_iff_iff, is_resolved_iff_fits, decide_eq_true_iff]

/-- The statements of a script are read independently of each other. When all are read, a foreign key is
kept just if it fits the tables of the whole script. -/
theorem statements_read_alone {statements : List (List Token)}
    (balanced : ∀ statement ∈ statements, Balanced statement) :
    (∀ declared, declarations (scriptOf statements) = .ok declared ↔ ∃ parts,
      List.Forall₂ (fun statement part => declaredAlone statement = .ok part) statements parts ∧
        declared = Declarations.concat parts) ∧
    (∀ fault, schemaOfTokens (scriptOf statements) = .error fault ↔ ∃ before failing after,
      statements = before ++ failing :: after ∧
        (∀ statement ∈ before, ∃ part, declaredAlone statement = .ok part) ∧
        declaredAlone failing = .error fault) ∧
    ∀ declared, declarations (scriptOf statements) = .ok declared →
      ∃ schema, schemaOfTokens (scriptOf statements) = .ok schema ∧
        schema.foreignKeys = declared.keys.filter fun key => Fits declared.tables key := by
  refine ⟨fun declared => script_read_iff balanced, ?_, ?_⟩
  · intro fault
    rw [← script_fails_iff balanced, schemaOfTokens]
    cases declarations (scriptOf statements) with
    | error failure => simp [Except.map]
    | ok declared => simp [Except.map]
  · intro declared read
    refine ⟨declared.schema, ?_, keys_of_schema declared⟩
    rw [schemaOfTokens, read, Except.map]

def forwardReference : List (List Token) :=
  [[.keyword .alter, .keyword .table, .identifier "a", .keyword .add, .keyword .constraint,
      .identifier "f", .keyword .foreign, .keyword .key, .leftParen, .identifier "x", .rightParen,
      .keyword .references, .identifier "b", .leftParen, .identifier "id", .rightParen],
    [.keyword .create, .keyword .table, .identifier "a", .leftParen, .identifier "x",
      .identifier "int", .rightParen],
    [.keyword .create, .keyword .table, .identifier "b", .leftParen, .identifier "id",
      .identifier "int", .rightParen]]

/-- A reference that names no table. -/
def openReference : List Token :=
  [.keyword .alter, .keyword .table, .identifier "a", .keyword .add, .keyword .foreign,
    .keyword .key, .leftParen, .identifier "x", .rightParen, .keyword .references]

theorem key_alone (key : ForeignKey) : declaredAlone
    [.keyword .alter, .keyword .table, .identifier key.table, .keyword .add, .keyword .constraint,
      .identifier key.name, .keyword .foreign, .keyword .key, .leftParen, .identifier key.column,
      .rightParen, .keyword .references, .identifier key.refTable, .leftParen,
      .identifier key.refColumn, .rightParen] = .ok ⟨[], [key]⟩ := by
  have ended : ∀ form ∈ [({ key } : KeyForm)], .semicolon ∉ form.actions := by simp
  exact declarations_keys ended

theorem table_alone (name column : String) : declaredAlone
    [.keyword .create, .keyword .table, .identifier name, .leftParen, .identifier column,
      .identifier "int", .rightParen] =
        .ok ⟨[⟨name, [⟨column, "int", none, true, false, false⟩]⟩], []⟩ := by
  let form : ColumnForm := ⟨⟨column, "int", none, true, false, false⟩, "int", "max", []⟩
  have type : Text.lowercase "int" = "int" := by decide
  have max : Text.lowercase "max" = "max" := by decide
  have readable : ∀ table ∈ [(⟨name, [form], none, false⟩ : TableForm)],
      ∀ column ∈ table.columns, column.Readable := by
    intro table isTable column isColumn
    cases List.mem_singleton.mp isTable
    cases List.mem_singleton.mp isColumn
    exact ⟨type, max, trivial⟩
  exact declarations_tables readable declarations_nil

theorem statements_read_alone_of_forward_reference :
    (∀ statement ∈ forwardReference ++ [openReference], Balanced statement) ∧
      (∃ schema, schemaOfTokens (scriptOf forwardReference) = .ok schema ∧
        schema.foreignKeys = [⟨"f", "a", "x", "b", "id"⟩]) ∧
      schemaOfTokens (scriptOf (forwardReference ++ [openReference])) =
        .error (.missingTable (some .semicolon)) := by
  have balanced : ∀ statement ∈ forwardReference ++ [openReference], Balanced statement := by
    decide +kernel
  have keyRead := key_alone ⟨"f", "a", "x", "b", "id"⟩
  have firstRead := table_alone "a" "x"
  have secondRead := table_alone "b" "id"
  have failed : declaredAlone openReference = .error (.missingTable (some .semicolon)) := by
    rw [declaredAlone, openReference, List.cons_append, declarations_cons]
    rfl
  obtain ⟨declared, -, resolved⟩ := statements_read_alone
    fun statement member => balanced statement (List.mem_append_left [openReference] member)
  obtain ⟨-, fails, -⟩ := statements_read_alone balanced
  refine ⟨balanced, ?_, ?_⟩
  · have read := (declared _).mpr
      ⟨_, .cons keyRead (.cons firstRead (.cons secondRead .nil)), rfl⟩
    obtain ⟨schema, isRead, kept⟩ := resolved _ read
    exact ⟨schema, isRead, kept.trans (by decide +kernel)⟩
  · refine (fails _).mpr ⟨forwardReference, openReference, [], rfl, ?_, failed⟩
    simp only [forwardReference, List.forall_mem_cons]
    exact ⟨⟨_, keyRead⟩, ⟨_, firstRead⟩, ⟨_, secondRead⟩, by simp⟩

end ErDiagram.Script
