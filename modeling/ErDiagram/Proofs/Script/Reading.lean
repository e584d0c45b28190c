import ErDiagram.Proofs.Script.Grammar
import ErDiagram.Proofs.Script.Locality
import ErDiagram.Proofs.Text.Word

/-!
# Reading a script in its form

What each form states is what its tokens are read as, whatever tokens follow. A part that is passed over
ends where its form ends: no token of it is taken for a clause, and no clause is passed over with it.
-/

namespace ErDiagram.Script

set_option autoImplicit false

open Text

theorem after_group_expression (inner : Expression) (depth : Nat) (rest : List Token) :
    afterGroup depth (inner.tokens ++ rest) = afterGroup depth rest := by
  -- Inside a group the depth is one more, so the induction is for every depth.
  induction inner generalizing depth rest with
  | done => rfl
  | token first plain later ih =>
      rw [Expression.tokens, List.cons_append, afterGroup_plain plain.1 plain.2, ih]
  | group inner later ihInner ihLater =>
      have opened : afterGroup depth ((Expression.group inner later).tokens ++ rest) =
          afterGroup (depth + 1) (inner.tokens ++ .rightParen :: (later.tokens ++ rest)) := by
        simp [Expression.tokens, afterGroup]
      rw [opened, ihInner, afterGroup, ihLater]

theorem after_group (inner : Expression) (rest : List Token) :
    afterGroup 0 (inner.tokens ++ .rightParen :: rest) = rest := by
  rw [after_group_expression, afterGroup]

theorem drop_default (value : DefaultValue) {rest : List Token}
    (noGroup : rest.head? ≠ some .leftParen) : dropDefault (value.tokens ++ rest) = rest := by
  cases value with
  | text content => rfl
  | number digits => rfl
  | null => rfl
  | word name =>
      have single : dropDefault ((DefaultValue.word name).tokens ++ rest) = dropGroup rest := rfl
      rw [single]
      cases rest with
      | nil => rfl
      | cons token later =>
          cases token <;> first | rfl | exact absurd rfl noGroup
  | call name arguments =>
      have called : dropDefault ((DefaultValue.call name arguments).tokens ++ rest) =
          afterGroup 0 (arguments.tokens ++ .rightParen :: rest) := by
        simp [DefaultValue.tokens, dropDefault, dropGroup]
      rw [called, after_group]
  | expression inner =>
      have opened : dropDefault ((DefaultValue.expression inner).tokens ++ rest) =
          afterGroup 0 (inner.tokens ++ .rightParen :: rest) := by
        simp [DefaultValue.tokens, dropDefault]
      rw [opened, after_group]

def Clause.apply : Clause → Column → Column
  | primaryKey, column => { column with primaryKey := true }
  | notNull, column => { column with nullable := false }
  | null, column => { column with nullable := true }
  | _, column => column

def applyAll (clauses : List Clause) (column : Column) : Column :=
  clauses.foldl (fun column clause => clause.apply column) column

/-- The tokens neither open a group nor go on with `KEY`, so they end whatever clause stands before
them. -/
def EndsClause (tokens : List Token) : Prop :=
  tokens.head? ≠ some .leftParen ∧ tokens.head? ≠ some (.keyword .key)

theorem drop_key {tokens : List Token} (ends : EndsClause tokens) :
    dropKeyword .key tokens = tokens := by
  cases tokens with
  | nil => rfl
  | cons token rest =>
      have other : token ≠ .keyword .key := fun same => ends.2 (by rw [same]; rfl)
      rw [dropKeyword, if_neg other]

theorem clause_head (clause : Clause) :
    ∃ first rest, clause.tokens = first :: rest ∧ endsColumn first = false ∧
      EndsClause clause.tokens := by
  unfold EndsClause
  cases clause <;> exact ⟨_, _, rfl, rfl, by simp [Clause.tokens], by simp [Clause.tokens]⟩

theorem clauses_end_append (clauses : List Clause) {rest : List Token} (ends : EndsClause rest) :
    EndsClause (clauses.flatMap Clause.tokens ++ rest) := by
  cases clauses with
  | nil => exact ends
  | cons clause later =>
      obtain ⟨first, more, tokens, -, ended⟩ := clause_head clause
      rw [EndsClause, tokens] at ended
      rw [List.flatMap_cons, tokens]
      exact ended

theorem ends_clause_stop {stop : Token} (ends : endsColumn stop = true) (rest : List Token) :
    EndsClause (stop :: rest) := by
  unfold EndsClause
  constructor
  · rintro ⟨⟩
    contradiction
  · rintro ⟨⟩
    contradiction

theorem clauses_end (clauses : List Clause) {stop : Token} (ends : endsColumn stop = true)
    (rest : List Token) : EndsClause (clauses.flatMap Clause.tokens ++ stop :: rest) :=
  clauses_end_append clauses (ends_clause_stop ends rest)

theorem clause_read (clause : Clause) {rest : List Token} (ends : EndsClause rest) (table : String)
    (reading : ColumnReading) :
    ∃ first more, clause.tokens ++ rest = first :: more ∧ endsColumn first = false ∧
      reading.clause table first more =
        .ok ⟨{ reading with column := clause.apply reading.column }, rest⟩ := by
  cases clause with
  | primaryKey => exact ⟨_, _, rfl, rfl, rfl⟩
  | notNull => exact ⟨_, _, rfl, rfl, rfl⟩
  | null => exact ⟨_, _, rfl, rfl, rfl⟩
  | unique =>
      refine ⟨_, _, rfl, rfl, ?_⟩
      simp [ColumnReading.clause, Clause.apply, drop_key ends]
  | default value =>
      refine ⟨_, _, rfl, rfl, ?_⟩
      simp [ColumnReading.clause, Clause.apply, drop_default value ends.1]
  | check inner =>
      refine ⟨_, _, rfl, rfl, ?_⟩
      simp [ColumnReading.clause, Clause.apply, dropGroup, after_group]

theorem clauses_step {table : String} {reading : ColumnReading} {token : Token} {rest : List Token}
    {found : Parsed ColumnReading} (continues : endsColumn token = false)
    (read : reading.clause table token rest = .ok found) :
    reading.clauses table (token :: rest) = found.value.clauses table found.rest := by
  rw [ColumnReading.clauses_cons, if_neg (by simp [continues]), read]
  rfl

theorem clauses_read_append (clauses : List Clause) {rest : List Token} (ends : EndsClause rest)
    (table : String) (reading : ColumnReading) :
    reading.clauses table (clauses.flatMap Clause.tokens ++ rest) =
      { reading with column := applyAll clauses reading.column }.clauses table rest := by
  -- What comes after a clause is the next one or the rest, and both of them end it.
  induction clauses generalizing reading with
  | nil => rfl
  | cons clause later ih =>
      obtain ⟨first, more, tokens, continues, read⟩ :=
        clause_read clause (clauses_end_append later ends) table reading
      rw [List.flatMap_cons, List.append_assoc, tokens, clauses_step continues read, ih]
      rfl

theorem clauses_stop {stop : Token} (ends : endsColumn stop = true) (table : String)
    (reading : ColumnReading) (rest : List Token) :
    reading.clauses table (stop :: rest) = .ok ⟨reading, stop :: rest⟩ := by
  rw [ColumnReading.clauses_cons, if_pos ends]

theorem clauses_read (clauses : List Clause) {stop : Token} (ends : endsColumn stop = true)
    (table : String) (reading : ColumnReading) (rest : List Token) :
    reading.clauses table (clauses.flatMap Clause.tokens ++ stop :: rest) =
      .ok ⟨{ reading with column := applyAll clauses reading.column }, stop :: rest⟩ := by
  rw [clauses_read_append clauses (ends_clause_stop ends rest), clauses_stop ends]

theorem apply_all_cons (clause : Clause) (rest : List Clause) (column : Column) :
    applyAll (clause :: rest) column = applyAll rest (clause.apply column) := rfl

theorem apply_all_eq (clauses : List Clause) (column : Column) :
    applyAll clauses column =
      { column with
        primaryKey := column.primaryKey || clauses.contains .primaryKey
        nullable := (applyAll clauses column).nullable } := by
  induction clauses generalizing column with
  | nil => simp [applyAll]
  | cons clause rest ih =>
      rw [apply_all_cons, ih]
      cases clause <;> simp [Clause.apply]

theorem nullable_of_no_clause {clauses : List Clause} (absent : .notNull ∉ clauses)
    {column : Column} (nullable : column.nullable = true) :
    (applyAll clauses column).nullable = true := by
  induction clauses generalizing column with
  | nil => exact nullable
  | cons clause rest ih =>
      rw [List.mem_cons, not_or] at absent
      rw [apply_all_cons]
      apply ih absent.2
      cases clause with
      | notNull => exact absurd rfl absent.1
      | null => rfl
      | _ => exact nullable

theorem not_nullable_of_clause {clauses : List Clause} (absent : .null ∉ clauses) {column : Column}
    (stated : column.nullable = false ∨ .notNull ∈ clauses) :
    (applyAll clauses column).nullable = false := by
  induction clauses generalizing column with
  | nil =>
      rcases stated with already | inNothing
      · exact already
      · contradiction
  | cons clause rest ih =>
      rw [List.mem_cons, not_or] at absent
      rw [apply_all_cons]
      apply ih absent.2
      cases clause with
      | notNull => exact .inl rfl
      | null => exact absurd rfl absent.1
      | _ => simpa [Clause.apply] using stated

/-- The column as its form is read, before the primary key of the table and the foreign keys are
marked. -/
def ColumnForm.read (form : ColumnForm) : Column :=
  applyAll form.clauses { name := form.column.name, type := form.column.type, size := form.column.size }

theorem max_ne_to_string (number : Nat) : toString number ≠ "max" := by
  intro same
  have digits : ∀ c ∈ "max".toList, c.isDigit = true := by
    intro c member
    rw [← same] at member
    exact digit_of_to_string member
  exact absurd (digits 'm' (by decide)) (by decide)

theorem size_of_one {type : String} {number : Nat} (below : number < sizeBound)
    (notDecimal : Column.isDecimalType type = false) :
    sizeOf? type [toString number] = some (.length number) := by
  have notMax : [toString number] ≠ ["max"] := by
    intro same
    exact max_ne_to_string number (List.cons.inj same).1
  have value : [toString number].filterMap
      (fun argument => natBelow? sizeBound argument.toList) = [number] := by
    rw [List.filterMap_cons, nat_below_to_string below]
    rfl
  rw [sizeOf?, if_neg notMax, value]
  simp only [notDecimal, Bool.false_eq_true, if_false]

theorem size_of_two {type : String} {digits scale : Nat} (digitsBelow : digits < sizeBound)
    (scaleBelow : scale < sizeBound) :
    sizeOf? type [toString digits, toString scale] = some (.precision digits scale) := by
  have notMax : [toString digits, toString scale] ≠ ["max"] := by
    intro same
    exact List.cons_ne_nil _ _ (List.cons.inj same).2
  have values : [toString digits, toString scale].filterMap
      (fun argument => natBelow? sizeBound argument.toList) = [digits, scale] := by
    rw [List.filterMap_cons, nat_below_to_string digitsBelow, List.filterMap_cons,
      nat_below_to_string scaleBelow]
    rfl
  rw [sizeOf?, if_neg notMax, values]

theorem size_read {form : ColumnForm} {rest : List Token} (max : lowercase form.maxWord = "max")
    (fits : SizeFits form.column) (noGroup : rest.head? ≠ some .leftParen) :
    typeSize form.column.type (form.sizeTokens ++ rest) = ⟨form.column.size, rest⟩ := by
  rw [SizeFits] at fits
  rw [ColumnForm.sizeTokens]
  rcases size : form.column.size with _ | characters | _ | ⟨digits, scale⟩
  · cases rest with
    | nil => rfl
    | cons token later =>
        cases token <;> first | rfl | exact absurd rfl noGroup
  · rw [size] at fits
    have arguments : sizeArguments (.number (toString characters) :: .rightParen :: rest) =
        ⟨[toString characters], rest⟩ := rfl
    simp only [List.cons_append, List.nil_append, typeSize, arguments,
      size_of_one fits.1 fits.2]
  · have arguments : sizeArguments (.identifier form.maxWord :: .rightParen :: rest) =
        ⟨["max"], rest⟩ := by
      rw [← max]
      rfl
    simp only [List.cons_append, List.nil_append, typeSize, arguments, sizeOf?, if_true]
  · rw [size] at fits
    have arguments : sizeArguments (.number (toString digits) :: .comma ::
        .number (toString scale) :: .rightParen :: rest) =
          ⟨[toString digits, toString scale], rest⟩ := rfl
    simp only [List.cons_append, List.nil_append, typeSize, arguments,
      size_of_two fits.1 fits.2]

/-- A form whose type and size are read as those of its column. -/
structure ColumnForm.Readable (form : ColumnForm) : Prop where
  type : lowercase form.typeName = form.column.type
  max : lowercase form.maxWord = "max"
  size : SizeFits form.column

theorem column_read {form : ColumnForm} (readable : form.Readable) (table : String) {stop : Token}
    (ends : endsColumn stop = true) (rest : List Token) :
    ∃ more, form.tokens ++ stop :: rest = .identifier form.column.name :: more ∧
      columnDefinition table form.column.name more =
        .ok ⟨some { column := form.read }, stop :: rest⟩ := by
  have noGroup := (clauses_end form.clauses ends rest).1
  have sized := size_read readable.max readable.size noGroup
  have clauses := clauses_read form.clauses ends table
  refine ⟨_, rfl, ?_⟩
  simp only [List.append_eq, List.cons_append, List.append_assoc, columnDefinition, readable.type,
    sized, clauses]
  rfl

theorem separated_cons_cons (item next : List Token) (rest : List (List Token)) :
    separated (item :: next :: rest) = item ++ .comma :: separated (next :: rest) := by
  simp [separated, List.intercalate_cons_cons]

theorem separated_singleton (item : List Token) : separated [item] = item :=
  List.intercalate_singleton

theorem column_names_read (names : List String) (rest : List Token) :
    columnNames false (separated (names.map fun name => [.identifier name]) ++
      .rightParen :: rest) = ⟨names, rest⟩ := by
  induction names with
  | nil => rfl
  | cons name more ih =>
      cases more with
      | nil =>
          rw [List.map_singleton, separated_singleton]
          rfl
      | cons next later =>
          rw [List.map_cons] at ih
          rw [List.map_cons, List.map_cons, separated_cons_cons]
          simp only [List.cons_append, List.nil_append, columnNames, Bool.false_and, ih]
          rfl

theorem column_list_read (names : List String) (rest : List Token) :
    columnList (nameTokens names ++ rest) = ⟨names, rest⟩ := by
  rw [nameTokens, List.cons_append, List.append_assoc]
  exact column_names_read names rest

def BodyItem.apply : BodyItem → TableReading → TableReading
  | column form, reading => { reading with columns := reading.columns ++ [form.read] }
  | primaryKey names, reading => { reading with primaryKey := reading.primaryKey ++ names }

def BodyItem.Readable : BodyItem → Prop
  | column form => form.Readable
  | primaryKey _ => True

theorem items_step {reading : TableReading} {token : Token} {rest : List Token}
    {found : Parsed TableReading} (continues : token ≠ .rightParen)
    (read : reading.item token rest = .ok found) :
    reading.items (token :: rest) = found.value.items found.rest := by
  rw [TableReading.items_cons, if_neg continues, read]
  rfl

theorem items_close (reading : TableReading) (rest : List Token) :
    reading.items (.rightParen :: rest) = .ok ⟨reading, rest⟩ := by
  rw [TableReading.items_cons, if_pos rfl]

theorem items_comma {reading : TableReading} (unnamed : reading.keyName = none)
    (rest : List Token) : reading.items (.comma :: rest) = reading.items rest := by
  have same : { reading with keyName := none } = reading := by rw [← unnamed]
  have step : reading.item .comma rest = .ok ⟨reading, rest⟩ := by
    rw [← same]
    rfl
  exact items_step (by decide) step

theorem item_read {item : BodyItem} (readable : item.Readable) (reading : TableReading)
    {stop : Token} (ends : endsColumn stop = true) (rest : List Token) :
    reading.items (item.tokens ++ stop :: rest) = (item.apply reading).items (stop :: rest) := by
  cases item with
  | column form =>
      obtain ⟨more, tokens, read⟩ := column_read readable reading.name ends rest
      have step : reading.item (.identifier form.column.name) more =
          .ok ⟨(BodyItem.column form).apply reading, stop :: rest⟩ := by
        simp [TableReading.item, read, TableReading.addColumn, BodyItem.apply]
      rw [BodyItem.tokens, tokens]
      exact items_step (by simp) step
  | primaryKey names =>
      have listed := column_list_read names (stop :: rest)
      have step : reading.item (.keyword .primary)
          (.keyword .key :: (nameTokens names ++ stop :: rest)) =
            .ok ⟨(BodyItem.primaryKey names).apply reading, stop :: rest⟩ := by
        have found : (dropKeyword .key (.keyword .key :: (nameTokens names ++ stop :: rest))).dropWhile
            Token.isIdentifier = nameTokens names ++ stop :: rest := rfl
        rw [TableReading.item, found, listed]
        rfl
      exact items_step (by simp) step

theorem apply_unnamed (item : BodyItem) {reading : TableReading} (unnamed : reading.keyName = none) :
    (item.apply reading).keyName = none := by
  cases item <;> exact unnamed

/-- An item of a table body, and what it does to the table as far as it has been read. -/
structure ItemForm where
  tokens : List Token
  effect : TableReading → TableReading

/-- Whether the item is read as what it is said to do, and leaves no name for a constraint after it. -/
structure ItemForm.Reads (item : ItemForm) : Prop where
  step : ∀ reading : TableReading, reading.keyName = none → ∀ stop, endsColumn stop = true →
    ∀ rest, reading.items (item.tokens ++ stop :: rest) = (item.effect reading).items (stop :: rest)
  unnamed : ∀ reading : TableReading, reading.keyName = none → (item.effect reading).keyName = none

def BodyItem.form (item : BodyItem) : ItemForm := ⟨item.tokens, item.apply⟩

theorem body_item_reads {item : BodyItem} (readable : item.Readable) : item.form.Reads where
  step reading _ _ ends rest := item_read readable reading ends rest
  unnamed _ unnamed := apply_unnamed item unnamed

theorem items_read {items : List ItemForm} (reads : ∀ item ∈ items, item.Reads)
    (reading : TableReading) (unnamed : reading.keyName = none) (rest : List Token) :
    reading.items (separated (items.map (·.tokens)) ++ .rightParen :: rest) =
      .ok ⟨items.foldl (fun reading item => item.effect reading) reading, rest⟩ := by
  -- A comma drops the name of a constraint. None of the items leaves one, so it changes nothing.
  induction items generalizing reading with
  | nil => exact items_close reading rest
  | cons item more ih =>
      obtain ⟨here, later⟩ := List.forall_mem_cons.mp reads
      have kept := here.unnamed reading unnamed
      cases more with
      | nil =>
          rw [List.map_singleton, separated_singleton, here.step reading unnamed _ rfl, items_close]
          rfl
      | cons next others =>
          have found := ih later (item.effect reading) kept
          rw [List.map_cons, List.map_cons, separated_cons_cons, List.append_assoc, List.cons_append,
            here.step reading unnamed _ rfl, items_comma kept, ← List.map_cons, found]
          rfl

theorem columns_applied (columns : List ColumnForm) (reading : TableReading) :
    (columns.map BodyItem.column).foldl (fun reading item => item.apply reading) reading =
      { reading with columns := reading.columns ++ columns.map ColumnForm.read } := by
  induction columns generalizing reading with
  | nil => simp
  | cons form rest ih =>
      rw [List.map_cons, List.foldl_cons, ih]
      simp [BodyItem.apply]

def TableForm.read (form : TableForm) : TableReading where
  name := form.name
  columns := form.columns.map ColumnForm.read
  primaryKey := form.listed.getD []

theorem body_applied (form : TableForm) :
    form.items.foldl (fun reading item => item.apply reading) { name := form.name } = form.read := by
  rw [TableForm.items, List.foldl_append, columns_applied, TableForm.read]
  cases form.listed with
  | none => rfl
  | some names => rfl

/-- The column without the mark that only foreign keys give it. -/
def unlinked (column : Column) : Column := { column with foreignKey := false }

theorem column_marked {form : ColumnForm} {listed : List String} (states : form.States listed)
    (neverNull : form.column.primaryKey = true → form.column.nullable = false) :
    ({ form.read with
        primaryKey := form.read.primaryKey || listed.contains form.read.name
        nullable := form.read.nullable &&
          !(form.read.primaryKey || listed.contains form.read.name) } : Column) =
      unlinked form.column := by
  have read := apply_all_eq form.clauses
    { name := form.column.name, type := form.column.type, size := form.column.size }
  rw [← ColumnForm.read] at read
  have name : form.read.name = form.column.name := by rw [read]
  have primaryKey : (form.read.primaryKey || listed.contains form.read.name) =
      form.column.primaryKey := by
    rw [name, Bool.eq_iff_iff, states.primaryKey, read]
    simp
  have nullable : (form.read.nullable && !form.column.primaryKey) = form.column.nullable := by
    cases primary : form.column.primaryKey with
    | true => rw [neverNull primary, Bool.not_true, Bool.and_false]
    | false =>
        rw [Bool.not_false, Bool.and_true]
        cases null : form.column.nullable with
        | true => exact nullable_of_no_clause (states.nullable primary null) rfl
        | false =>
            obtain ⟨stated, noNull⟩ := states.notNull primary null
            exact not_nullable_of_clause noNull (.inr stated)
  rw [primaryKey, nullable, read]
  rfl

def unlinkedTable (table : Table) : Table := { table with columns := table.columns.map unlinked }

theorem table_marked {form : TableForm} (states : form.States)
    (neverNull : ∀ column ∈ form.columns,
      column.column.primaryKey = true → column.column.nullable = false) :
    form.read.table = unlinkedTable form.table := by
  rw [TableReading.table, TableForm.read, unlinkedTable, TableForm.table]
  simp only [List.map_map, Table.mk.injEq, true_and]
  apply List.map_congr_left
  intro column member
  exact column_marked (states column member) (neverNull column member)

theorem drop_test (form : TableForm) (rest : List Token) :
    dropExistenceTest (form.testTokens ++ .identifier form.name :: rest) =
      .identifier form.name :: rest := by
  rw [TableForm.testTokens]
  split <;> rfl

/-- The definition of the table with the given items in its body. -/
def TableForm.tokensWith (form : TableForm) (items : List ItemForm) : List Token :=
  .keyword .create :: .keyword .table :: (form.testTokens ++ .identifier form.name :: .leftParen ::
    (separated (items.map (·.tokens)) ++ [.rightParen, .semicolon]))

theorem definition_read (form : TableForm) {items : List ItemForm}
    (reads : ∀ item ∈ items, item.Reads) {reading : TableReading}
    (body : items.foldl (fun reading item => item.effect reading) { name := form.name } = reading)
    (rest : List Token) :
    ∃ more, form.tokensWith items ++ rest = .keyword .create :: .keyword .table :: more ∧
      tableDefinition more = .ok ⟨⟨[reading.table], reading.keys⟩, rest⟩ := by
  have items_found := items_read reads { name := form.name } rfl (.semicolon :: rest)
  rw [body] at items_found
  have tokens : form.tokensWith items ++ rest = .keyword .create :: .keyword .table ::
      (form.testTokens ++ .identifier form.name :: .leftParen ::
        (separated (items.map (·.tokens)) ++ .rightParen :: .semicolon :: rest)) := by
    simp [TableForm.tokensWith]
  have name : qualifiedName (dropExistenceTest (form.testTokens ++ .identifier form.name ::
      .leftParen :: (separated (items.map (·.tokens)) ++ .rightParen :: .semicolon :: rest))) =
        ⟨some form.name, .leftParen :: (separated (items.map (·.tokens)) ++
          .rightParen :: .semicolon :: rest)⟩ := by
    rw [drop_test]
    rfl
  refine ⟨_, tokens, ?_⟩
  rw [tableDefinition, name]
  simp only [items_found]
  rfl

def TableForm.itemForms (form : TableForm) : List ItemForm := form.items.map BodyItem.form

theorem item_forms_read {form : TableForm} (readable : ∀ column ∈ form.columns, column.Readable) :
    ∀ item ∈ form.itemForms, item.Reads := by
  intro item member
  obtain ⟨found, inItems, rfl⟩ := List.mem_map.mp member
  apply body_item_reads
  rw [TableForm.items, List.mem_append, List.mem_map, List.mem_map] at inItems
  rcases inItems with ⟨column, inColumns, rfl⟩ | ⟨names, -, rfl⟩
  · exact readable column inColumns
  · trivial

theorem table_definition_read {form : TableForm} (readable : ∀ column ∈ form.columns, column.Readable)
    (rest : List Token) :
    ∃ more, form.tokens ++ rest = .keyword .create :: .keyword .table :: more ∧
      tableDefinition more = .ok ⟨⟨[form.read.table], []⟩, rest⟩ := by
  have body : form.itemForms.foldl (fun reading item => item.effect reading) { name := form.name } =
      form.read := by
    rw [TableForm.itemForms, List.foldl_map]
    exact body_applied form
  have tokens : form.tokensWith form.itemForms = form.tokens := by
    rw [TableForm.tokensWith, TableForm.itemForms, List.map_map]
    rfl
  rw [← tokens]
  exact definition_read form (item_forms_read readable) body rest

theorem actions_end {actions : List Token} (ended : .semicolon ∉ actions) (rest : List Token) :
    afterStatement (dropActions (actions ++ .semicolon :: rest)) = rest := by
  obtain ⟨whole, left⟩ := drop_actions_alike rest ends_passes (ends_of_semicolon ended)
  have tokens : actions ++ .semicolon :: rest = actions ++ [.semicolon] ++ rest := by simp
  rw [tokens, whole]
  exact (after_statement_of_ends rest left).2

theorem key_constraint_read (key : ForeignKey) (rest : List Token) :
    keyConstraint key.table (some key.name) (.keyword .key :: (nameTokens [key.column] ++
        .keyword .references :: .identifier key.refTable :: (nameTokens [key.refColumn] ++ rest))) =
      .ok ⟨[key], dropActions rest⟩ := by
  have columns := column_list_read [key.column]
    (.keyword .references :: .identifier key.refTable :: (nameTokens [key.refColumn] ++ rest))
  have refColumns := column_list_read [key.refColumn] rest
  have name : qualifiedName (.identifier key.refTable :: (nameTokens [key.refColumn] ++ rest)) =
      ⟨some key.refTable, nameTokens [key.refColumn] ++ rest⟩ := rfl
  simp only [keyConstraint, columns, keysTo, name, refColumns, Option.getD_some,
    List.zipWith_cons_cons, List.zipWith_nil_left]

theorem table_change_read {form : KeyForm} (ended : .semicolon ∉ form.actions) (rest : List Token) :
    ∃ more, form.tokens ++ rest = .keyword .alter :: more ∧
      tableChange more = .ok ⟨⟨[], [form.key]⟩, rest⟩ := by
  -- Whatever actions are not known is passed over with the end of the statement.
  have finished := actions_end ended rest
  have constraint := key_constraint_read form.key (form.actions ++ .semicolon :: rest)
  have tokens : form.tokens ++ rest = .keyword .alter :: .keyword .table ::
      ((if form.only then [.keyword .only] else []) ++ .identifier form.key.table ::
        .keyword .add :: .keyword .constraint :: .identifier form.key.name :: .keyword .foreign ::
          .keyword .key :: (nameTokens [form.key.column] ++ .keyword .references ::
            .identifier form.key.refTable :: (nameTokens [form.key.refColumn] ++
              (form.actions ++ .semicolon :: rest)))) := by
    simp [KeyForm.tokens]
  have dropped (later : List Token) : dropKeyword .only
      ((if form.only then [.keyword .only] else []) ++ .identifier form.key.table :: later) =
        .identifier form.key.table :: later := by
    cases form.only <;> rfl
  refine ⟨_, tokens, ?_⟩
  rw [tableChange, dropped]
  simp only [qualifiedName]
  rw [List.dropWhile_cons_of_neg (by decide)]
  simp only [constraintName, identifier?, constraint, finished]

theorem declarations_step {token : Token} {rest : List Token} {found : Parsed Declarations}
    {later : Declarations} (read : statement token rest = .ok found)
    (more : declarations found.rest = .ok later) :
    declarations (token :: rest) = .ok (found.value ++ later) := by
  rw [declarations_cons, read, Except.bind, more]
  rfl

theorem declarations_tables {forms : List TableForm}
    (readable : ∀ form ∈ forms, ∀ column ∈ form.columns, column.Readable) {rest : List Token}
    {later : Declarations} (more : declarations rest = .ok later) :
    declarations (forms.flatMap TableForm.tokens ++ rest) =
      .ok ⟨forms.map (·.read.table) ++ later.tables, later.keys⟩ := by
  induction forms with
  | nil => exact more
  | cons form others ih =>
      have found := ih fun other member => readable other (List.mem_cons_of_mem _ member)
      obtain ⟨body, tokens, read⟩ := table_definition_read (readable form List.mem_cons_self)
        (others.flatMap TableForm.tokens ++ rest)
      have step : statement (.keyword .create) (.keyword .table :: body) =
          .ok ⟨⟨[form.read.table], []⟩, others.flatMap TableForm.tokens ++ rest⟩ := read
      rw [List.flatMap_cons, List.append_assoc, tokens, declarations_step step found]
      rfl

theorem declarations_keys {forms : List KeyForm} (ended : ∀ form ∈ forms, .semicolon ∉ form.actions) :
    declarations (forms.flatMap KeyForm.tokens) = .ok ⟨[], forms.map (·.key)⟩ := by
  induction forms with
  | nil => rw [List.flatMap_nil, declarations]; rfl
  | cons form others ih =>
      have found := ih fun other member => ended other (List.mem_cons_of_mem _ member)
      obtain ⟨body, tokens, read⟩ := table_change_read (ended form List.mem_cons_self)
        (others.flatMap KeyForm.tokens)
      have step : statement (.keyword .alter) body =
          .ok ⟨⟨[], [form.key]⟩, others.flatMap KeyForm.tokens⟩ := read
      rw [List.flatMap_cons, tokens, declarations_step step found]
      rfl

/-- What a script declares is its tables without the marks of foreign keys, and its foreign keys. -/
theorem declarations_read {form : ScriptForm} (states : form.States)
    (sizes : ∀ table ∈ form.tables, ∀ column ∈ table.columns, SizeFits column.column)
    (neverNull : ∀ table ∈ form.tables, ∀ column ∈ table.columns,
      column.column.primaryKey = true → column.column.nullable = false) :
    declarations form.tokens =
      .ok ⟨form.schema.tables.map unlinkedTable, form.schema.foreignKeys⟩ := by
  have readable : ∀ table ∈ form.tables, ∀ column ∈ table.columns, column.Readable := by
    intro table inScript column inTable
    have stated := states.tables table inScript column inTable
    exact ⟨stated.type, stated.max, sizes table inScript column inTable⟩
  have marked : form.tables.map (·.read.table) = form.schema.tables.map unlinkedTable := by
    rw [ScriptForm.schema, List.map_map]
    apply List.map_congr_left
    intro table member
    exact table_marked (states.tables table member) (neverNull table member)
  rw [ScriptForm.tokens, declarations_tables readable (declarations_keys states.keys), marked,
    List.append_nil]
  rfl

end ErDiagram.Script
