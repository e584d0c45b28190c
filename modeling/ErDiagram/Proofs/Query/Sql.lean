import ErDiagram.Proofs.Text.Comparison
import ErDiagram.Proofs.Text.Word
import ErDiagram.Query.Sql

/-!
# Plain queries

A plain query takes columns of one table, perhaps under a condition, and each of its clauses stands
on one line. However its parts are spaced, reading it gives the clauses back: the columns end at the
`from` that the query has for them, and no earlier one can be meant.

A query with a join is read as a plain one of its first table, so the reading of joins never comes to pass.
-/

namespace ErDiagram

set_option autoImplicit false

open Text

/-- A text that stands whole between blanks on one line. -/
structure OneLine (text : String) : Prop where
  nonempty : text.toList ≠ []
  inLine : '\n' ∉ text.toList
  trimmed : Trimmed text.toList

instance (text : String) : Decidable (OneLine text) :=
  decidable_of_iff (text.toList ≠ [] ∧ '\n' ∉ text.toList ∧ Trimmed text.toList)
    ⟨fun ⟨nonempty, inLine, trimmed⟩ => ⟨nonempty, inLine, trimmed⟩,
      fun line => ⟨line.nonempty, line.inLine, line.trimmed⟩⟩

structure PlainQuery where
  columns : String
  table : String
  condition : Option String
  columnsLine : OneLine columns
  columnsLackFrom : "from".toList ∉ words columns.toList
  tableWord : AsciiWord table
  conditionLine : ∀ text ∈ condition, OneLine text

inductive WrittenCondition : Option String → List Char → Prop
  | absent : WrittenCondition none []
  | present {before after : List Char} {condition : String} (separated : Separator before)
      (separatedAfter : Separator after) :
      WrittenCondition (some condition)
        (before ++ ("where".toList ++ (after ++ condition.toList)))

namespace PlainQuery

/-- The texts in SQL that spell a query, with any blanks between its parts. -/
inductive Written (query : PlainQuery) : List Char → Prop
  | mk {first second third tail : List Char} (separated : Separator first)
      (separatedFrom : Separator second) (separatedTable : Separator third)
      (ends : WrittenCondition query.condition tail) :
      Written query ("select".toList ++ (first ++ (query.columns.toList ++
        (second ++ ("from".toList ++ (third ++ (query.table.toList ++ tail)))))))

/-- The rows of the table that a query takes columns of. -/
def rows (query : PlainQuery) : String :=
  match query.condition with
  | none => query.table
  | some condition => "σ " ++ condition ++ " (" ++ query.table ++ ")"

def algebra (query : PlainQuery) : String :=
  "π " ++ (if query.columns = "*" then "all_columns" else query.columns) ++ " (" ++ query.rows ++ ")"

end PlainQuery

namespace OneLine

variable {text : String}

theorem head_append (line : OneLine text) (rest : List Char) :
    ∀ c ∈ (text.toList ++ rest).head?, isBlank c = false := by
  rw [List.head?_append_of_ne_nil _ line.nonempty]
  exact (trimmed_iff.mp line.trimmed).1

end OneLine

theorem where_clause_of_written {condition : Option String} {tail : List Char}
    (written : WrittenCondition condition tail) (inLine : ∀ text ∈ condition, OneLine text) :
    whereClause? tail = condition.map String.toList := by
  cases written with
  | absent => rfl
  | present separated separatedAfter =>
      rename_i before after condition
      have line := inLine condition rfl
      have whole : restOfLine condition.toList = condition.toList :=
        List.takeWhile_eq_self_iff.mpr (in_line_of_no_feed line.inLine)
      apply some_blanks_literal_append separated (by decide) (by decide)
      apply some_blanks_append separatedAfter (trimmed_iff.mp line.trimmed).1
      rw [whole]

theorem mem_of_written_condition {condition : Option String} {tail : List Char}
    (written : WrittenCondition condition tail) {text : String} (stated : text ∈ condition) {c : Char}
    (member : c ∈ text.toList) : c ∈ tail := by
  cases written with
  | absent => contradiction
  | present =>
      cases stated
      simp [member]

theorem head_of_written_condition {condition : Option String} {tail : List Char}
    (written : WrittenCondition condition tail) :
    ∀ c ∈ tail.head?, isAsciiWordChar c = false := by
  cases written with
  | absent => simp
  | present separated =>
      rename_i before after condition separatedAfter
      intro c first
      rw [List.head?_append_of_ne_nil _ separated.1] at first
      have blank := separated.2 c (List.mem_of_mem_head? first)
      apply Bool.eq_false_iff.mpr
      intro word
      rw [ascii_word_char_not_blank word] at blank
      contradiction

theorem table_clause_append {table : String} {tail : List Char} (word : AsciiWord table)
    (ends : ∀ c ∈ tail.head?, isAsciiWordChar c = false) :
    tableClause? (table.toList ++ tail) = some (table.toList, whereClause? tail) := by
  have nothing : tail.takeWhile isAsciiWordChar = [] := by
    cases tail with
    | nil => rfl
    | cons c tail => exact List.takeWhile_cons_of_neg (by simp [ends c rfl])
  have all : tail.dropWhile isAsciiWordChar = tail := by
    cases tail with
    | nil => rfl
    | cons c tail => exact List.dropWhile_cons_of_neg (by simp [ends c rfl])
  simp only [tableClause?, List.takeWhile_append_of_pos word.all, nothing,
    List.dropWhile_append_of_pos word.all, all, List.append_nil, List.isEmpty_iff, word.nonempty,
    if_false]

/-- The columns of a query end where its `from` stands. An earlier end would make that word one of
the columns. -/
theorem column_clause_append {columns : String} {gap rest : List Char}
    {found : List Char × Option (List Char)} (line : OneLine columns)
    (lackFrom : "from".toList ∉ words columns.toList) (separated : Separator gap)
    (read : someBlanks tableClause? rest = some found) :
    columnClause? (columns.toList ++ (gap ++ ("from".toList ++ rest))) =
      some (columns.toList, found) := by
  obtain ⟨-, last⟩ := trimmed_iff.mp line.trimmed
  apply shortest_append (in_line_of_no_feed line.inLine)
  · intro front back split nonempty
    obtain ⟨c, gap, rfl⟩ := List.exists_cons_of_ne_nil separated.1
    rw [Option.eq_none_iff_forall_ne_some]
    intro earlier readEarlier
    have isWord := word_read_within front (by decide) (by decide)
      (separated.2 c List.mem_cons_self) (not_gap_of_last (split ▸ last) nonempty) readEarlier
    exact lackFrom (split ▸ isWord)
  · exact some_blanks_literal_append separated (by decide) (by decide) read

/-- A query is read from its columns and its table whatever stands after the table, as long as that
does not continue the name. -/
theorem clauses_of_select {columns table : String} {first second third tail : List Char}
    (line : OneLine columns) (lackFrom : "from".toList ∉ words columns.toList)
    (word : AsciiWord table) (separated : Separator first) (separatedFrom : Separator second)
    (separatedTable : Separator third) (ends : ∀ c ∈ tail.head?, isAsciiWordChar c = false) :
    SqlClauses.ofText? ("select".toList ++ (first ++ (columns.toList ++
        (second ++ ("from".toList ++ (third ++ (table.toList ++ tail))))))) =
      some ⟨columns.toList, table.toList, whereClause? tail⟩ := by
  have readTable : someBlanks tableClause? (third ++ (table.toList ++ tail)) =
      some (table.toList, whereClause? tail) := by
    apply some_blanks_append separatedTable
    · intro c begins
      rw [List.head?_append_of_ne_nil _ word.nonempty] at begins
      exact word.solid c (List.mem_of_mem_head? begins)
    · exact table_clause_append word ends
  have readSelect := some_blanks_append separated (line.head_append _)
    (column_clause_append line lackFrom separatedFrom readTable)
  rw [SqlClauses.ofText?, anywhere_of_read (by rw [literal_append]; exact readSelect)]
  rfl

theorem join_clause_misses : Misses joinClause? tableClause? := by
  intro text missing
  rw [tableClause?] at missing
  rw [joinClause?, tableThen]
  split at missing
  · next nameless => rw [if_pos nameless]
  · contradiction

/-- A query with a join holds a table after a `from`, so it is read without the join. -/
theorem join_needs_table {text : List Char} (missing : SqlClauses.ofText? text = none) :
    JoinClauses.ofText? text = none := by
  rw [SqlClauses.ofText?, Option.map_eq_none_iff] at missing
  have misses : Misses (columnsFrom? (someBlanks joinClause?))
      (anywhere (literal "select" (someBlanks columnClause?))) := by
    apply Misses.anywhere
    apply Misses.literal
    apply Misses.someBlanks
    exact Misses.shortest ((join_clause_misses.someBlanks.literal "from").someBlanks) fun _ => id
  rw [JoinClauses.ofText?, misses text missing]
  rfl

theorem algebra_of_clauses {text : String} {clauses : SqlClauses}
    (read : SqlClauses.ofText? (trim (lowercase text).toList) = some clauses) :
    algebraOfSql text = clauses.selection.algebra := by
  simp only [algebraOfSql, algebraOfSql?, read, Option.getD_some]

theorem algebra_of_no_clauses {text : String}
    (missing : SqlClauses.ofText? (trim (lowercase text).toList) = none) :
    algebraOfSql text = "unsupported SQL query type for translation" := by
  simp only [algebraOfSql, algebraOfSql?, missing, join_needs_table missing, Option.map_none,
    Option.getD_none]

namespace PlainQuery

def selection (query : PlainQuery) : Selection :=
  ⟨.ofSql query.columns, query.table, query.condition⟩

theorem selection_algebra (query : PlainQuery) : query.selection.algebra = query.algebra := by
  have columns : (Columns.ofSql query.columns).algebra =
      if query.columns = "*" then "all_columns" else query.columns := by
    rw [Columns.ofSql, Columns.allInSql]
    split <;> rfl
  simp only [selection, Selection.algebra, columns, algebra]
  cases same : query.condition <;> simp [Selection.rows, rows, same]

theorem clauses_of_written {query : PlainQuery} {text : List Char} (written : query.Written text) :
    SqlClauses.ofText? text =
      some ⟨query.columns.toList, query.table.toList, query.condition.map String.toList⟩ := by
  obtain ⟨separated, separatedFrom, separatedTable, ends⟩ := written
  rw [clauses_of_select query.columnsLine query.columnsLackFrom query.tableWord separated
    separatedFrom separatedTable (head_of_written_condition ends),
    where_clause_of_written ends query.conditionLine]

theorem algebra_of_sql {query : PlainQuery} {text : String}
    (written : query.Written (trim (lowercase text).toList)) :
    algebraOfSql text = query.algebra := by
  rw [algebra_of_clauses (clauses_of_written written), ← selection_algebra]
  simp [SqlClauses.selection, selection, Function.comp_def]

end PlainQuery

end ErDiagram
