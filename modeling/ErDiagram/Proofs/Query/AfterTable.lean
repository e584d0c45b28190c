import ErDiagram.Proofs.Query.Sql
import ErDiagram.Proofs.Text.Lowercase

/-!
# What stands after the table

Of what stands after the table of a query, only a condition that follows the table directly has a part
in the translation. Anything else is passed over: a join, an alias with all that comes after it, an
order, and what stands on later lines, also where it holds the keywords of a query itself.
-/

namespace ErDiagram

set_option autoImplicit false

open Text

/-- Whether the text begins with `where` between blanks. -/
def BeginsCondition (text : List Char) : Prop :=
  ∃ before after rest, text = before ++ ("where".toList ++ (after ++ rest)) ∧
    Separator before ∧ Separator after

theorem where_clause_eq_none_iff {text : List Char} :
    whereClause? text = none ↔ ¬ BeginsCondition text := by
  rw [iff_not_comm, ← ne_eq, Option.ne_none_iff_exists']
  constructor
  · rintro ⟨before, after, rest, rfl, separated, separatedAfter⟩
    obtain ⟨condition, read⟩ : ∃ condition,
        someBlanks (fun rest => some (restOfLine rest)) (after ++ rest) = some condition :=
      some_blanks_of_total (fun _ => ⟨_, rfl⟩) separatedAfter rest
    exact ⟨condition, some_blanks_literal_append separated (by decide) (by decide) read⟩
  · rintro ⟨condition, found⟩
    obtain ⟨before, word, rfl, separated, readWord⟩ := some_blanks_sound found
    obtain ⟨spaced, rfl, readSpaced⟩ := literal_sound readWord
    obtain ⟨after, rest, rfl, separatedAfter, -⟩ := some_blanks_sound readSpaced
    exact ⟨before, after, rest, rfl, separated, separatedAfter⟩

instance (text : List Char) : Decidable (BeginsCondition text) :=
  decidable_of_iff (¬ whereClause? text = none) (not_iff_comm.mp where_clause_eq_none_iff.symm)

/-- A condition makes the algebra of a selection longer. -/
theorem selection_algebra_eq_iff {columns : Columns} {source : String} {condition : Option String} :
    (Selection.mk columns source condition).algebra = (Selection.mk columns source none).algebra ↔
      condition = none := by
  constructor
  · intro same
    cases condition with
    | none => rfl
    | some text =>
        have lengths := congrArg String.length same
        have sign : "σ ".length = 2 := rfl
        simp only [Selection.algebra, Selection.rows, String.length_append, sign] at lengths
        omega
  · rintro rfl
    rfl

namespace PlainQuery

variable (query : PlainQuery)

def plainSql : String := "select " ++ query.columns ++ " from " ++ query.table

theorem to_list_plain_sql : query.plainSql.toList = "select".toList ++ ([' '] ++
    (query.columns.toList ++ ([' '] ++ ("from".toList ++ ([' '] ++ query.table.toList))))) := by
  have select : "select ".toList = "select".toList ++ [' '] := rfl
  have fromWord : " from ".toList = [' '] ++ ("from".toList ++ [' ']) := rfl
  simp only [plainSql, String.toList_append, select, fromWord, List.append_assoc]

theorem trimmed_plain_sql : Trimmed query.plainSql.toList := by
  obtain ⟨-, last⟩ := trimmed_iff.mp query.tableWord.trimmed
  rw [to_list_plain_sql]
  apply trimmed_iff.mpr
  constructor
  · rintro c ⟨⟩
    rfl
  · simp only [← List.append_assoc]
    rwa [List.getLast?_append_of_ne_nil _ query.tableWord.nonempty]

variable {query}

theorem written_plain_sql (bare : query.condition = none) : query.Written query.plainSql.toList := by
  have ends : WrittenCondition query.condition [] := bare ▸ .absent
  rw [to_list_plain_sql, ← List.append_nil query.table.toList]
  exact .mk (by decide) (by decide) (by decide) ends

theorem lowered_plain_sql (columns : lowercase query.columns = query.columns)
    (table : lowercase query.table = query.table) :
    lowercase query.plainSql = query.plainSql := by
  have select : lowercase "select " = "select " := by decide
  have fromWord : lowercase " from " = " from " := by decide
  exact lowercase_append (lowercase_append (lowercase_append select columns) fromWord) table

theorem algebra_before_tail (bare : query.condition = none) {text : String} {front tail : List Char}
    (written : query.Written front) (spelled : trim (lowercase text).toList = front ++ tail)
    (ends : ∀ c ∈ tail.head?, isAsciiWordChar c = false) :
    algebraOfSql text = (Selection.mk (.ofSql query.columns) query.table
      ((whereClause? tail).map String.ofList)).algebra := by
  obtain ⟨separated, separatedFrom, separatedTable, endsFront⟩ := written
  rw [bare] at endsFront
  cases endsFront
  have clauses := clauses_of_select query.columnsLine query.columnsLackFrom query.tableWord separated
    separatedFrom separatedTable ends
  simp only [List.append_nil, List.append_assoc] at spelled
  rw [← spelled] at clauses
  rw [algebra_of_clauses clauses, SqlClauses.selection, String.ofList_toList, String.ofList_toList]

/-- What stands after the table of a query is passed over exactly if it does not begin with a
condition. -/
theorem text_after_table_passed_over (query : PlainQuery) (bare : query.condition = none)
    (columns : lowercase query.columns = query.columns) (table : lowercase query.table = query.table)
    (text : String) (front tail : List Char) (written : query.Written front)
    (spelled : trim (lowercase text).toList = front ++ tail)
    (ends : ∀ c ∈ tail.head?, isAsciiWordChar c = false) :
    algebraOfSql query.plainSql = query.algebra ∧
      (algebraOfSql text = algebraOfSql query.plainSql ↔ ¬ BeginsCondition tail) := by
  have plain : trim (lowercase query.plainSql).toList = query.plainSql.toList := by
    rw [lowered_plain_sql columns table]
    exact trimmed_plain_sql query
  have translated : algebraOfSql query.plainSql = query.algebra := by
    apply algebra_of_sql
    rw [plain]
    exact written_plain_sql bare
  have selected : query.algebra = (Selection.mk (.ofSql query.columns) query.table none).algebra := by
    rw [← selection_algebra, selection, bare]
  refine ⟨translated, ?_⟩
  rw [translated, selected, algebra_before_tail bare written spelled ends, selection_algebra_eq_iff,
    Option.map_eq_none_iff, where_clause_eq_none_iff]

def employeeNames : PlainQuery where
  columns := "e.name"
  table := "employees"
  condition := none
  columnsLine := by decide
  columnsLackFrom := by decide
  tableWord := by decide
  conditionLine := by simp

/-- A condition counts directly after the table and not after an alias. -/
theorem text_after_table_of_employees :
    algebraOfSql "SELECT e.Name\tFROM Employees e\nWHERE age > 30 " = "π e.name (employees)" ∧
      algebraOfSql "SELECT e.Name\tFROM Employees\nWHERE age > 30 " ≠ "π e.name (employees)" := by
  have written : employeeNames.Written "select e.name\tfrom employees".toList :=
    @Written.mk employeeNames [' '] ['\t'] [' '] [] (by decide) (by decide) (by decide) .absent
  have algebra : employeeNames.algebra = "π e.name (employees)" := by decide
  have passed (text tail : String)
      (spelled : trim (lowercase text).toList = "select e.name\tfrom employees".toList ++ tail.toList)
      (ends : ∀ c ∈ tail.toList.head?, isAsciiWordChar c = false) :=
    text_after_table_passed_over employeeNames rfl (by decide) (by decide) text _ tail.toList written
      spelled ends
  obtain ⟨plain, renamed⟩ := passed "SELECT e.Name\tFROM Employees e\nWHERE age > 30 "
    " e\nwhere age > 30" (by decide +kernel) (by rintro _ ⟨⟩; rfl)
  obtain ⟨-, condition⟩ := passed "SELECT e.Name\tFROM Employees\nWHERE age > 30 "
    "\nwhere age > 30" (by decide +kernel) (by rintro _ ⟨⟩; rfl)
  rw [plain, algebra] at renamed condition
  constructor
  · exact renamed.mpr (by decide)
  · intro same
    exact condition.mp same (by decide)

end PlainQuery

end ErDiagram
