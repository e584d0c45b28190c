import ErDiagram.Proofs.Text.Word
import ErDiagram.Script.Declarations

/-!
# The form of a script

A script that states a schema defines the tables in order and then adds the foreign keys in order. The
forms below leave open what may be written in several ways: the order of the clauses of a column, the
place where the primary key is stated, default values, checks, and the actions of a foreign key. Each
form says which tokens it is made of and which part of the schema it states.
-/

namespace ErDiagram.Script

set_option autoImplicit false

open Text

/-- Tokens in which every parenthesis that is opened is closed again. -/
inductive Expression where
  | done
  | token (first : Token) (plain : first ≠ .leftParen ∧ first ≠ .rightParen) (rest : Expression)
  | group (inner rest : Expression)
deriving DecidableEq

def Expression.tokens : Expression → List Token
  | done => []
  | token first _ rest => first :: rest.tokens
  | group inner rest => .leftParen :: (inner.tokens ++ .rightParen :: rest.tokens)

inductive DefaultValue where
  | text (content : String)
  | number (digits : String)
  | null
  | word (name : String)
  | call (name : String) (arguments : Expression)
  | expression (inner : Expression)
deriving DecidableEq

def DefaultValue.tokens : DefaultValue → List Token
  | text content => [.text content]
  | number digits => [.number digits]
  | null => [.keyword .null]
  | word name => [.identifier name]
  | call name arguments => .identifier name :: .leftParen :: (arguments.tokens ++ [.rightParen])
  | expression inner => .leftParen :: (inner.tokens ++ [.rightParen])

inductive Clause where
  | primaryKey
  | notNull
  | null
  | unique
  | default (value : DefaultValue)
  | check (inner : Expression)
deriving DecidableEq

def Clause.tokens : Clause → List Token
  | primaryKey => [.keyword .primary, .keyword .key]
  | notNull => [.keyword .not, .keyword .null]
  | null => [.keyword .null]
  | unique => [.keyword .unique]
  | default value => .keyword .default :: value.tokens
  | check inner => .keyword .check :: .leftParen :: (inner.tokens ++ [.rightParen])

/-- Whether the size of the column can be written: its numbers have at most 32 bits, and a decimal type
has no length. -/
def SizeFits (column : Column) : Prop :=
  match column.size with
  | none => True
  | some (.length characters) =>
    characters < sizeBound ∧ Column.isDecimalType column.type = false
  | some .max => True
  | some (.precision digits scale) => digits < sizeBound ∧ scale < sizeBound

instance : (column : Column) → Decidable (SizeFits column)
  | ⟨_, _, none, _, _, _⟩ => inferInstanceAs (Decidable True)
  | ⟨_, type, some (.length characters), _, _, _⟩ => inferInstanceAs
      (Decidable (characters < sizeBound ∧ Column.isDecimalType type = false))
  | ⟨_, _, some .max, _, _, _⟩ => inferInstanceAs (Decidable True)
  | ⟨_, _, some (.precision digits scale), _, _, _⟩ => inferInstanceAs
      (Decidable (digits < sizeBound ∧ scale < sizeBound))

/-- A column with the spelling of its type, the spelling of the size `max`, and its clauses. -/
structure ColumnForm where
  column : Column
  typeName : String
  maxWord : String := "max"
  clauses : List Clause := []

namespace ColumnForm

def sizeTokens (form : ColumnForm) : List Token :=
  match form.column.size with
  | none => []
  | some (.length characters) => [.leftParen, .number (toString characters), .rightParen]
  | some .max => [.leftParen, .identifier form.maxWord, .rightParen]
  | some (.precision digits scale) =>
    [.leftParen, .number (toString digits), .comma, .number (toString scale), .rightParen]

def tokens (form : ColumnForm) : List Token :=
  .identifier form.column.name :: .identifier form.typeName ::
    (form.sizeTokens ++ form.clauses.flatMap Clause.tokens)

/-- Whether the form states its column in a table whose primary key lists the names `listed`. A column
of the primary key may carry either clause on null, since it is never null. -/
structure States (form : ColumnForm) (listed : List String) : Prop where
  type : lowercase form.typeName = form.column.type
  max : lowercase form.maxWord = "max"
  primaryKey : form.column.primaryKey = true ↔
    .primaryKey ∈ form.clauses ∨ form.column.name ∈ listed
  nullable : form.column.primaryKey = false → form.column.nullable = true →
    .notNull ∉ form.clauses
  notNull : form.column.primaryKey = false → form.column.nullable = false →
    .notNull ∈ form.clauses ∧ .null ∉ form.clauses

instance (form : ColumnForm) (listed : List String) : Decidable (form.States listed) :=
  decidable_of_iff (lowercase form.typeName = form.column.type ∧ lowercase form.maxWord = "max" ∧
      (form.column.primaryKey = true ↔
        .primaryKey ∈ form.clauses ∨ form.column.name ∈ listed) ∧
      (form.column.primaryKey = false → form.column.nullable = true → .notNull ∉ form.clauses) ∧
      (form.column.primaryKey = false → form.column.nullable = false →
        .notNull ∈ form.clauses ∧ .null ∉ form.clauses))
    ⟨fun ⟨type, max, primaryKey, nullable, notNull⟩ => ⟨type, max, primaryKey, nullable, notNull⟩,
      fun ⟨type, max, primaryKey, nullable, notNull⟩ => ⟨type, max, primaryKey, nullable, notNull⟩⟩

end ColumnForm

def separated (items : List (List Token)) : List Token := [.comma].intercalate items

def nameTokens (names : List String) : List Token :=
  .leftParen :: (separated (names.map fun name => [.identifier name]) ++ [.rightParen])

inductive BodyItem where
  | column (form : ColumnForm)
  | primaryKey (names : List String)

def BodyItem.tokens : BodyItem → List Token
  | column form => form.tokens
  | primaryKey names => .keyword .primary :: .keyword .key :: nameTokens names

/-- A table with the names that its primary key lists, if the table has such an item. -/
structure TableForm where
  name : String
  columns : List ColumnForm
  listed : Option (List String) := none
  existenceTest : Bool := false

namespace TableForm

def table (form : TableForm) : Table := ⟨form.name, form.columns.map (·.column)⟩

def items (form : TableForm) : List BodyItem :=
  form.columns.map .column ++ form.listed.toList.map .primaryKey

def testTokens (form : TableForm) : List Token :=
  if form.existenceTest then [.keyword .ifWord, .keyword .not, .keyword .existsWord] else []

def tokens (form : TableForm) : List Token :=
  .keyword .create :: .keyword .table :: (form.testTokens ++ .identifier form.name :: .leftParen ::
    (separated (form.items.map BodyItem.tokens) ++ [.rightParen, .semicolon]))

def States (form : TableForm) : Prop :=
  ∀ column ∈ form.columns, column.States (form.listed.getD [])

instance (form : TableForm) : Decidable form.States :=
  inferInstanceAs (Decidable (∀ column ∈ form.columns, column.States (form.listed.getD [])))

end TableForm

/-- A foreign key with what is done when its target changes. -/
structure KeyForm where
  key : ForeignKey
  only : Bool := false
  actions : List Token := []

def KeyForm.tokens (form : KeyForm) : List Token :=
  .keyword .alter :: .keyword .table :: ((if form.only then [.keyword .only] else []) ++
    .identifier form.key.table :: .keyword .add :: .keyword .constraint ::
      .identifier form.key.name :: .keyword .foreign :: .keyword .key ::
        (nameTokens [form.key.column] ++ .keyword .references :: .identifier form.key.refTable ::
          (nameTokens [form.key.refColumn] ++ (form.actions ++ [.semicolon]))))

structure ScriptForm where
  tables : List TableForm
  keys : List KeyForm

namespace ScriptForm

def tokens (form : ScriptForm) : List Token :=
  form.tables.flatMap TableForm.tokens ++ form.keys.flatMap KeyForm.tokens

def schema (form : ScriptForm) : Schema :=
  ⟨form.tables.map TableForm.table, form.keys.map (·.key)⟩

structure States (form : ScriptForm) : Prop where
  tables : ∀ table ∈ form.tables, table.States
  keys : ∀ key ∈ form.keys, .semicolon ∉ key.actions

instance (form : ScriptForm) : Decidable form.States :=
  decidable_of_iff ((∀ table ∈ form.tables, table.States) ∧
      ∀ key ∈ form.keys, .semicolon ∉ key.actions)
    ⟨fun ⟨tables, keys⟩ => ⟨tables, keys⟩, fun ⟨tables, keys⟩ => ⟨tables, keys⟩⟩

end ScriptForm

end ErDiagram.Script
