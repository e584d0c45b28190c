import ErDiagram.Proofs.Query.Algebra
import ErDiagram.Proofs.Query.Sql
import ErDiagram.Proofs.Text.Lowercase

/-!
# From SQL to relational algebra and back

A plain query is turned into its projection. Turned back, it is the query again unless one of its
clauses is read differently there. That the texts are equal says that the clauses are, since a query
in lower case holds no second `FROM` and no second `WHERE`.
-/

namespace ErDiagram

set_option autoImplicit false

open Text

namespace PlainQuery

def sourceSql (query : PlainQuery) : String :=
  query.table ++
    match query.condition with
    | none => ""
    | some condition => " WHERE " ++ condition

def sql (query : PlainQuery) : String := "SELECT " ++ query.columns ++ " FROM " ++ query.sourceSql

/-- What the clauses of a query avoid if its algebra can be read back. -/
structure Reversible (query : PlainQuery) : Prop where
  columnsApart : ¬ BlankBeforeParen query.columns.toList
  conditionApart : ∀ text ∈ query.condition, ¬ BlankBeforeParen text.toList
  starAlone : query.columns = "*" ∨ query.columns.toList.head? ≠ some '*'
  notReserved : query.columns ≠ "all_columns"

/-- The clauses of a query hold no capital letter of ASCII. -/
structure Lower (query : PlainQuery) : Prop where
  columns : ∀ c ∈ query.columns.toList, c.isUpper = false
  table : ∀ c ∈ query.table.toList, c.isUpper = false
  condition : ∀ text ∈ query.condition, ∀ c ∈ text.toList, c.isUpper = false

end PlainQuery

/-- What follows `FROM` in the SQL of an expression that stands for rows. -/
def sqlOfRows (rows : List Char) : String :=
  match rowSelection? rows with
  | some (condition, source) => String.ofList source ++ " WHERE " ++ String.ofList condition
  | none => String.ofList rows

theorem sql_of_rows (columns : Columns) (rows : List Char) :
    (Selection.ofRows columns rows).sql =
      "SELECT " ++ columns.sql ++ " FROM " ++ sqlOfRows rows := by
  cases found : rowSelection? rows <;>
    simp [Selection.ofRows, Selection.sql, sqlOfRows, found, String.append_assoc]

theorem sql_of_rows_length (rows : List Char) : (sqlOfRows rows).length ≤ rows.length + 2 := by
  rw [sqlOfRows]
  split
  · next condition source found =>
    have bound := row_selection_length found
    have mark : " WHERE ".length = 7 := rfl
    simp only [String.length_append, String.length_ofList, mark]
    omega
  · simp

/-- Texts around a keyword agree part by part if the letter that begins it stands nowhere else in
one of them. -/
theorem divided_at_keyword {keyword first second left right : String} {mark : Char}
    {more : List Char} (spelled : keyword.toList = ' ' :: mark :: more) (notSpace : mark ≠ ' ')
    (once : mark ∉ more) (fresh : mark ∉ second.toList) (freshRight : mark ∉ right.toList)
    (same : first ++ keyword ++ left = second ++ keyword ++ right) :
    first = second ∧ left = right := by
  have lists : (second.toList ++ [' ']) ++ mark :: (more ++ right.toList) =
      (first.toList ++ [' ']) ++ mark :: (more ++ left.toList) := by
    simpa [spelled] using (congrArg String.toList same).symm
  have freshBefore : mark ∉ second.toList ++ [' '] := by simp [fresh, notSpace]
  have freshAfter : mark ∉ more ++ right.toList := by simp [once, freshRight]
  obtain ⟨before, -, after⟩ := (List.append_cons_inj_of_notMem freshBefore freshAfter).mp lists
  constructor
  · exact String.toList_injective (List.append_cancel_right before).symm
  · exact String.toList_injective (List.append_cancel_left after).symm

namespace PlainQuery

variable {query : PlainQuery}

theorem lower_of_written {text : String}
    (written : query.Written (trim (lowercase text).toList)) : query.Lower := by
  have lower : ∀ c ∈ trim (lowercase text).toList, c.isUpper = false :=
    fun c member => not_upper_of_lowercase (mem_trim member)
  generalize trim (lowercase text).toList = spelled at written lower
  obtain ⟨-, -, -, ends⟩ := written
  constructor
  · exact fun c member => lower c (by simp [member])
  · exact fun c member => lower c (by simp [member])
  · intro condition stated c member
    exact lower c (by simp [mem_of_written_condition ends stated member])

theorem not_in_of_lower {text : List Char} {mark : Char} (upper : mark.isUpper = true)
    (lower : ∀ c ∈ text, c.isUpper = false) : mark ∉ text :=
  fun member => Bool.false_ne_true ((lower mark member).symm.trans upper)

theorem capital_not_in_source (lower : query.Lower) {mark : Char} (upper : mark.isUpper = true)
    (other : mark ∉ " WHERE ".toList) : mark ∉ query.sourceSql.toList := by
  rw [sourceSql, String.toList_append, List.mem_append, not_or]
  refine ⟨not_in_of_lower upper lower.table, ?_⟩
  split
  · simp
  · next condition stated =>
    rw [String.toList_append, List.mem_append, not_or]
    exact ⟨other, not_in_of_lower upper (lower.condition condition stated)⟩

theorem parts_of_sql (lower : query.Lower) {columns source : String}
    (same : "SELECT " ++ columns ++ " FROM " ++ source = query.sql) :
    columns = query.columns ∧ source = query.sourceSql := by
  have spelled : " FROM ".toList = ' ' :: 'F' :: "ROM ".toList := rfl
  have inColumns : 'F' ∉ query.columns.toList := not_in_of_lower rfl lower.columns
  have fresh : 'F' ∉ ("SELECT " ++ query.columns).toList := by
    rw [String.toList_append, List.mem_append, not_or]
    exact ⟨by decide, inColumns⟩
  obtain ⟨columnsSame, sourceSame⟩ := divided_at_keyword spelled (by decide) (by decide) fresh
    (capital_not_in_source lower rfl (by decide)) same
  exact ⟨(String.append_right_inj _).mp columnsSame, sourceSame⟩

theorem rows_of_condition {condition : String} (stated : query.condition = some condition) :
    query.rows.toList = 'σ' :: ' ' :: beforeOperand condition.toList query.table.toList := by
  have sign : "σ ".toList = ['σ', ' '] := rfl
  have opened : " (".toList = [' ', '('] := rfl
  have closed : ")".toList = [')'] := rfl
  simp only [rows, stated, String.toList_append, sign, opened, closed, beforeOperand,
    List.cons_append, List.nil_append, List.append_assoc]

theorem rows_in_line (query : PlainQuery) : '\n' ∉ query.rows.toList := by
  have inTable : '\n' ∉ query.table.toList := query.tableWord.lacks rfl
  cases stated : query.condition with
  | none => rwa [rows, stated]
  | some condition =>
      have inCondition := (query.conditionLine condition stated).inLine
      rw [rows_of_condition stated]
      simp [beforeOperand, inTable, inCondition]

theorem trimmed_rows (query : PlainQuery) : Trimmed query.rows.toList := by
  cases stated : query.condition with
  | none =>
      rw [rows, stated]
      exact query.tableWord.trimmed
  | some condition =>
      rw [rows_of_condition stated]
      exact trimmed_expression rfl

theorem sql_of_query_rows_iff (lower : query.Lower) :
    sqlOfRows query.rows.toList = query.sourceSql ↔
      ∀ text ∈ query.condition, ¬ BlankBeforeParen text.toList := by
  cases stated : query.condition with
  | none =>
      have noRows : rowSelection? query.table.toList = none :=
        row_selection_none (query.tableWord.lacks (by decide))
      simp [rows, sourceSql, stated, sqlOfRows, noRows]
  | some condition =>
      have line := query.conditionLine condition stated
      have tableInLine : '\n' ∉ query.table.toList := query.tableWord.lacks rfl
      rw [sqlOfRows, rows_of_condition stated]
      simp only [sourceSql, stated, Option.mem_some_iff, forall_eq']
      constructor
      · intro same early
        obtain ⟨found, source, read, shorter⟩ :=
          row_selection_cut line.inLine line.trimmed early tableInLine
        rw [read] at same
        have spelled : " WHERE ".toList = ' ' :: 'W' :: "HERE ".toList := rfl
        have inTable : 'W' ∉ query.table.toList := not_in_of_lower rfl lower.table
        have inCondition : 'W' ∉ condition.toList :=
          not_in_of_lower rfl (lower.condition condition stated)
        rw [← String.append_assoc] at same
        obtain ⟨-, whole⟩ := divided_at_keyword spelled (by decide) (by decide) inTable inCondition
          same
        rw [← whole, String.toList_ofList] at shorter
        exact Nat.lt_irrefl _ shorter
      · intro apart
        rw [row_selection_read line.nonempty line.inLine line.trimmed apart tableInLine]
        have trimmed : trim query.table.toList = query.table.toList := query.tableWord.trimmed
        simp only [trimmed, String.ofList_toList, String.append_assoc]

theorem algebra_of_columns {columns : String}
    (written : (if query.columns = "*" then "all_columns" else query.columns) = columns) :
    query.algebra.toList = 'π' :: ' ' :: beforeOperand columns.toList query.rows.toList := by
  have sign : "π ".toList = ['π', ' '] := rfl
  have opened : " (".toList = [' ', '('] := rfl
  have closed : ")".toList = [')'] := rfl
  simp only [algebra, written, String.toList_append, sign, opened, closed, beforeOperand,
    List.cons_append, List.nil_append, List.append_assoc]

theorem trimmed_algebra (query : PlainQuery) : Trimmed query.algebra.toList := by
  rw [algebra_of_columns rfl]
  exact trimmed_expression rfl

theorem projection_of_query {columns : String}
    (written : (if query.columns = "*" then "all_columns" else query.columns) = columns)
    (line : OneLine columns) (star : columns.toList.head? ≠ some '*')
    (apart : ¬ BlankBeforeParen columns.toList) :
    projection? query.algebra.toList = some (columns.toList, query.rows.toList) := by
  rw [algebra_of_columns written, projection_read line.nonempty star line.inLine line.trimmed apart
    (rows_in_line query), trimmed_rows]

theorem sql_of_projection {columns rows : List Char}
    (read : projection? query.algebra.toList = some (columns, rows)) :
    sqlOfAlgebra query.algebra =
      "SELECT " ++ (Columns.ofAlgebra (String.ofList columns)).sql ++ " FROM " ++ sqlOfRows rows := by
  rw [sqlOfAlgebra, sqlOfAlgebra?, Query.ofAlgebra?, trimmed_algebra, Query.ofTrimmedAlgebra?, read]
  exact sql_of_rows _ _

theorem sql_of_star (star : query.columns = "*") :
    sqlOfAlgebra query.algebra =
      "SELECT " ++ query.columns ++ " FROM " ++ sqlOfRows query.rows.toList := by
  have read := projection_of_query (if_pos star) (by decide) (by decide) (by decide)
  rw [sql_of_projection read, star]
  rfl

theorem ne_star_of_head (star : query.columns.toList.head? ≠ some '*') : query.columns ≠ "*" := by
  intro same
  exact star (by rw [same]; rfl)

theorem sql_of_columns (star : query.columns.toList.head? ≠ some '*')
    (apart : ¬ BlankBeforeParen query.columns.toList) (notReserved : query.columns ≠ "all_columns") :
    sqlOfAlgebra query.algebra =
      "SELECT " ++ query.columns ++ " FROM " ++ sqlOfRows query.rows.toList := by
  have read := projection_of_query (if_neg (ne_star_of_head star)) query.columnsLine star apart
  have listed : (Columns.ofAlgebra query.columns).sql = query.columns := by
    rw [Columns.ofAlgebra, Columns.allInAlgebra, if_neg notReserved, Columns.sql]
  rw [sql_of_projection read, String.ofList_toList, listed]

/-- Rows that are read as the source of a query are no shorter than those the query is written with. -/
theorem rows_as_long {found : List Char} (same : sqlOfRows found = query.sourceSql) :
    query.rows.toList.length ≤ found.length := by
  cases stated : query.condition with
  | none =>
      have bare : ' ' ∉ query.table.toList := query.tableWord.lacks rfl
      have isTable : sqlOfRows found = query.table := by
        rw [same, sourceSql, stated, String.append_empty]
      have asTable : query.rows = query.table := by rw [rows, stated]
      rw [sqlOfRows] at isTable
      split at isTable
      · refine absurd ?_ bare
        rw [← isTable]
        simp
      · rw [asTable, ← isTable, String.toList_ofList]
  | some condition =>
      have mark : " WHERE ".length = 7 := rfl
      have bound := sql_of_rows_length found
      have sourceLength : query.sourceSql.length = query.table.length + (7 + condition.length) := by
        simp only [sourceSql, stated, String.length_append, mark]
      have rowsLength : query.rows.toList.length = condition.length + query.table.length + 5 := by
        rw [rows_of_condition stated]
        simp only [beforeOperand, List.length_cons, List.length_append, List.length_nil,
          String.length_toList]
        omega
      rw [same] at bound
      omega

theorem columns_read_back {found : List Char} (notAll : query.columns ≠ "*")
    (same : (Columns.ofAlgebra (String.ofList found)).sql = query.columns) :
    found = query.columns.toList := by
  rw [Columns.ofAlgebra] at same
  split at same
  · exact absurd same.symm notAll
  · rw [← same]
    exact String.toList_ofList.symm

theorem columns_not_reserved (lower : query.Lower)
    (same : sqlOfAlgebra query.algebra = query.sql) : query.columns ≠ "all_columns" := by
  intro reserved
  have notAll : query.columns ≠ "*" := by
    rw [reserved]
    decide
  have written : (if query.columns = "*" then "all_columns" else query.columns) = "all_columns" := by
    rw [if_neg notAll, reserved]
  have read := projection_of_query written (by decide) (by decide) (by decide)
  rw [sql_of_projection read, String.ofList_toList] at same
  exact notAll (parts_of_sql lower same).1.symm

theorem columns_apart (lower : query.Lower) (star : query.columns.toList.head? ≠ some '*')
    (same : sqlOfAlgebra query.algebra = query.sql) :
    ¬ BlankBeforeParen query.columns.toList := by
  intro early
  have notAll := ne_star_of_head star
  have line := query.columnsLine
  obtain ⟨found, source, read, shorter⟩ :=
    projection_cut star line.inLine line.trimmed early (rows_in_line query)
  rw [← algebra_of_columns (if_neg notAll)] at read
  rw [sql_of_projection read] at same
  rw [columns_read_back notAll (parts_of_sql lower same).1] at shorter
  exact Nat.lt_irrefl _ shorter

theorem sql_without_projection {expression : String}
    (missing : projection? (trim expression.toList) = none) :
    (∃ source, sqlOfAlgebra expression = "SELECT " ++ "*" ++ " FROM " ++ source) ∨
      sqlOfAlgebra expression = "unsupported relational algebra expression for translation" := by
  rw [sqlOfAlgebra, sqlOfAlgebra?, Query.ofAlgebra?, Query.ofTrimmedAlgebra?, missing]
  dsimp only
  split
  · exact .inl ⟨_, sql_of_rows _ _⟩
  split
  · next left right _ =>
    have begins : "SELECT * FROM " = "SELECT " ++ "*" ++ " FROM " := by decide
    have joined : (Query.join (String.ofList left) (String.ofList right)).sql = "SELECT * FROM " ++
        String.ofList left ++ " JOIN " ++ String.ofList right ++ " ON [condition]" := rfl
    refine .inl ⟨String.ofList left ++ " JOIN " ++ String.ofList right ++ " ON [condition]", ?_⟩
    simp only [Option.map_some, Option.getD_some, joined, begins, String.append_assoc]
  split
  · exact .inl ⟨_, sql_of_rows _ _⟩
  · exact .inr rfl

theorem star_alone (lower : query.Lower) (same : sqlOfAlgebra query.algebra = query.sql) :
    query.columns = "*" ∨ query.columns.toList.head? ≠ some '*' := by
  by_contra stray
  obtain ⟨notAll, first⟩ : query.columns ≠ "*" ∧ query.columns.toList.head? = some '*' := by
    simpa [not_or] using stray
  obtain ⟨later, columnsSplit⟩ := List.head?_eq_some_iff.mp first
  have written := algebra_of_columns (if_neg notAll)
  cases read : projection? query.algebra.toList with
  | none =>
      rcases sql_without_projection (by rwa [trimmed_algebra]) with ⟨source, all⟩ | nothing
      · rw [all] at same
        exact notAll (parts_of_sql lower same).1.symm
      · rw [nothing] at same
        have letter : query.sql.toList.head? = some 'S' := by
          simp only [sql, String.toList_append, List.append_assoc]
          rfl
        rw [← same] at letter
        exact absurd letter (by decide)
  | some parts =>
      obtain ⟨found, rows⟩ := parts
      rw [sql_of_projection read] at same
      obtain ⟨columnsSame, rowsSame⟩ := parts_of_sql lower same
      have whole := columns_read_back notAll columnsSame
      have long := rows_as_long rowsSame
      -- The star keeps the projection from being read where the expression begins.
      rw [written, columnsSplit, beforeOperand, List.cons_append, projection_of_star] at read
      have bound := projection_length read
      simp only [whole, columnsSplit, List.length_cons, List.length_append, List.length_nil] at bound
      omega

/-- The SQL of a query's algebra is the query exactly if its clauses can be read back. -/
theorem sql_of_algebra_iff (lower : query.Lower) :
    sqlOfAlgebra query.algebra = query.sql ↔ query.Reversible := by
  have settled (read : sqlOfAlgebra query.algebra =
      "SELECT " ++ query.columns ++ " FROM " ++ sqlOfRows query.rows.toList) :
      sqlOfAlgebra query.algebra = query.sql ↔
        ∀ text ∈ query.condition, ¬ BlankBeforeParen text.toList := by
    rw [read, ← sql_of_query_rows_iff lower]
    constructor
    · exact fun same => (parts_of_sql lower same).2
    · intro same
      rw [same, sql]
  by_cases star : query.columns = "*"
  · rw [settled (sql_of_star star)]
    constructor
    · intro apart
      exact ⟨by rw [star]; decide, apart, .inl star, by rw [star]; decide⟩
    · exact fun reversible => reversible.conditionApart
  · constructor
    · intro same
      have notStar := (star_alone lower same).resolve_left star
      have columnsApart := columns_apart lower notStar same
      have notReserved := columns_not_reserved lower same
      have conditionApart := (settled (sql_of_columns notStar columnsApart notReserved)).mp same
      exact ⟨columnsApart, conditionApart, .inr notStar, notReserved⟩
    · intro reversible
      have notStar := reversible.starAlone.resolve_left star
      exact (settled (sql_of_columns notStar reversible.columnsApart reversible.notReserved)).mpr
        reversible.conditionApart

/-- A plain query has its projection as its algebra, however it is spaced and capitalised, and the
algebra has the query as its SQL exactly if no clause of it is read differently there. -/
theorem sql_round_trip (query : PlainQuery) (text : String)
    (written : query.Written (trim (lowercase text).toList)) :
    algebraOfSql text = query.algebra ∧
      (sqlOfAlgebra (algebraOfSql text) = query.sql ↔ query.Reversible) := by
  have translated := algebra_of_sql written
  refine ⟨translated, ?_⟩
  rw [translated]
  exact sql_of_algebra_iff (lower_of_written written)

def usersWhere (condition : String) (line : OneLine condition) : PlainQuery where
  columns := "*"
  table := "users"
  condition := some condition
  columnsLine := by decide
  columnsLackFrom := by decide
  tableWord := by decide
  conditionLine := by
    intro text same
    cases same
    exact line

theorem written_users_where {condition : String} (line : OneLine condition) {text : List Char}
    (same : text = "select".toList ++ ([' ', ' '] ++ ("*".toList ++ (['\n'] ++ ("from".toList ++
      ([' '] ++ ("users".toList ++ ([' '] ++ ("where".toList ++ ([' '] ++ condition.toList)))))))))) :
    (usersWhere condition line).Written text := by
  have ends : WrittenCondition (some condition) _ :=
    @WrittenCondition.present [' '] [' '] condition (by decide) (by decide)
  rw [same]
  exact @Written.mk (usersWhere condition line) [' ', ' '] ['\n'] [' '] _ (by decide) (by decide)
    (by decide) ends

/-- One blank before a parenthesis decides whether a query comes back. -/
theorem sql_round_trip_of_users :
    sqlOfAlgebra (algebraOfSql "SELECT  *\nFROM users WHERE ID in(1, 2) ") =
        "SELECT * FROM users WHERE id in(1, 2)" ∧
      sqlOfAlgebra (algebraOfSql "SELECT  *\nFROM users WHERE ID in (1, 2) ") ≠
        "SELECT * FROM users WHERE id in (1, 2)" := by
  constructor
  · have reversible : (usersWhere "id in(1, 2)" (by decide)).Reversible :=
      ⟨by decide, by decide, by decide, by decide⟩
    exact (sql_round_trip _ _ (written_users_where _ (by decide +kernel))).2.mpr reversible
  · intro same
    have reversible : (usersWhere "id in (1, 2)" (by decide)).Reversible :=
      (sql_round_trip _ _ (written_users_where _ (by decide +kernel))).2.mp same
    exact absurd reversible.conditionApart (by decide)

end PlainQuery

end ErDiagram
