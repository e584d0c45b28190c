import ErDiagram.Proofs.Query.RoundTrip
import ErDiagram.Proofs.Text.Comparison
import ErDiagram.Proofs.Text.FilledLines

/-!
# Expressions without a projection

An expression without a projection takes all columns, as its projection on all columns does. That
projection is read as it was written, whatever the expression holds: no operand can begin in the word for
all columns, and an operand ends at the last closing parenthesis, which is the one that was added. Blanks
around the expression are passed over in both.
-/

namespace ErDiagram

set_option autoImplicit false

open Text

theorem end_blind_operand : EndBlind operand? := by
  have opener : ∀ c ∈ "(".toList.getLast?, isBlank c = false := by rintro _ ⟨⟩; rfl
  have closer : ∀ c ∈ ")".toList.getLast?, isBlank c = false := by rintro _ ⟨⟩; rfl
  have nothing : EndBlind fun _ => some () := fun _ _ _ => rfl
  exact (((nothing.literal closer).longest isInLine rfl).literal opener).someBlanks rfl

theorem row_selection_trim (text : List Char) :
    rowSelection? (trim text) = rowSelection? text := by
  obtain ⟨before, after, blankBefore, blankAfter, split⟩ := trim_split text
  have sign : ∀ c ∈ "σ".toList.getLast?, isBlank c = false := by rintro _ ⟨⟩; rfl
  have condition := (end_blind_operand.shortest isInLine).someBlanks rfl
  have blind := (condition.literal sign).anywhere
  conv_rhs => rw [split]
  rw [rowSelection?, rowSelection?, anywhere_literal_gap_append rfl rfl blankBefore,
    blind _ _ blankAfter]

def onAllColumns (expression : String) : String := "π all_columns (" ++ expression ++ ")"

variable {expression : String}

theorem to_list_on_all_columns (expression : String) :
    (onAllColumns expression).toList =
      'π' :: ' ' :: beforeOperand "all_columns".toList expression.toList := by
  have opener : "π all_columns (".toList = 'π' :: ' ' :: ("all_columns".toList ++ [' ', '(']) := by
    decide
  unfold onAllColumns
  -- Simplification is slow on a literal with a letter outside ASCII, so it is a variable here.
  generalize "π all_columns (" = begins at opener ⊢
  simp [beforeOperand, opener]

theorem query_on_all_columns (inLine : '\n' ∉ expression.toList) :
    Query.ofAlgebra? (onAllColumns expression) =
      some (.selection (.ofRows .all (trim expression.toList))) := by
  have whole : Trimmed (onAllColumns expression).toList := by
    rw [to_list_on_all_columns]
    exact trimmed_expression rfl
  have read : projection? (onAllColumns expression).toList =
      some ("all_columns".toList, trim expression.toList) := by
    rw [to_list_on_all_columns]
    apply projection_read
    · decide
    · decide
    · decide
    · decide
    · decide
    · exact inLine
  rw [Query.ofAlgebra?, whole, Query.ofTrimmedAlgebra?, read]
  rfl

/-- An expression that is a selection of rows, or a word and nothing else. -/
def BareRows (expression : String) : Prop :=
  AsciiWord (String.ofList (trim expression.toList)) ∨
    (rowSelection? expression.toList).isSome = true

theorem is_table_name_iff {text : List Char} :
    isTableName text = true ↔ AsciiWord (String.ofList text) := by
  rw [isTableName, Bool.and_eq_true]
  constructor
  · rintro ⟨nonempty, all⟩
    exact ⟨by simpa using nonempty, by simpa using all⟩
  · intro word
    exact ⟨by simpa using word.nonempty, by simpa using word.all⟩

theorem query_of_bare_rows (bare : BareRows expression) (noProjection : 'π' ∉ expression.toList) :
    Query.ofAlgebra? expression = some (.selection (.ofRows .all (trim expression.toList))) := by
  have noColumns : projection? (trim expression.toList) = none :=
    projection_none fun member => noProjection (mem_trim member)
  rw [Query.ofAlgebra?, Query.ofTrimmedAlgebra?, noColumns]
  dsimp only
  cases bare with
  | inl word =>
      have lacks : ∀ c, isAsciiWordChar c = false → c ∉ trim expression.toList := by
        intro c other
        simpa using word.lacks other
      have noRows : rowSelection? (trim expression.toList) = none :=
        row_selection_none (lacks 'σ' (by decide))
      have noJoin : join? (trim expression.toList) = none := join_none (lacks '(' (by decide))
      rw [noRows, noJoin, if_neg (by simp), if_pos (is_table_name_iff.mpr word)]
  | inr selects =>
      rw [← row_selection_trim] at selects
      rw [if_pos selects]

/-- An expression without a projection has the SQL of its projection on all columns. -/
theorem bare_rows_on_all_columns (expression : String) (noProjection : 'π' ∉ expression.toList)
    (inLine : '\n' ∉ expression.toList) (bare : BareRows expression) :
    sqlOfAlgebra expression = sqlOfAlgebra (onAllColumns expression) ∧
      sqlOfAlgebra expression = "SELECT * FROM " ++ sqlOfRows (trim expression.toList) := by
  have query := query_of_bare_rows bare noProjection
  have projected := query_on_all_columns inLine
  have begins : "SELECT * FROM " = "SELECT " ++ Columns.all.sql ++ " FROM " := by decide
  constructor
  · rw [sqlOfAlgebra, sqlOfAlgebra, sqlOfAlgebra?, sqlOfAlgebra?, query, projected]
  · rw [sqlOfAlgebra, sqlOfAlgebra?, query, begins]
    exact sql_of_rows .all _

/-- Parentheses that do not match are read the same with and without the projection. -/
theorem bare_rows_of_unmatched_parentheses :
    let expression := "\tσ in(1, (2) (t)) (u "
    BareRows expression ∧
      sqlOfAlgebra expression = "SELECT * FROM 2) (t) WHERE in(1," ∧
      sqlOfAlgebra "π all_columns (\tσ in(1, (2) (t)) (u )" = "SELECT * FROM 2) (t) WHERE in(1," := by
  intro expression
  have bare : BareRows expression := .inr (by decide)
  obtain ⟨same, sql⟩ := bare_rows_on_all_columns expression (by decide) (by decide) bare
  have shown : sqlOfRows (trim expression.toList) = "2) (t) WHERE in(1," := by decide
  rw [shown] at sql
  exact ⟨bare, sql, same.symm.trans sql⟩

end ErDiagram
