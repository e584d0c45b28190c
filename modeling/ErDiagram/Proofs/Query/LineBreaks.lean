import ErDiagram.Proofs.Query.Sql
import ErDiagram.Proofs.Text.Break
import ErDiagram.Proofs.Text.Comparison
import ErDiagram.Proofs.Text.FilledLines

/-!
# Line breaks in a query

The blanks between the parts of a query may hold line breaks, but its columns and its condition end
with their line. Reading a query whose line breaks are spaces is therefore the same as reading the query
over its line breaks. Against that reading, a query loses what stands on later lines.
-/

namespace ErDiagram

set_option autoImplicit false

open Text

def wholeCondition? : List Char → Option (List Char) := someBlanks (literal "where" (someBlanks some))

def wholeTable? (text : List Char) : Option (List Char × Option (List Char)) :=
  let table := text.takeWhile isAsciiWordChar
  if table.isEmpty then none else some (table, wholeCondition? (text.dropWhile isAsciiWordChar))

def wholeColumns? : List Char → Option (List Char × List Char × Option (List Char)) :=
  shortest (fun _ => true) (someBlanks (literal "from" (someBlanks wholeTable?)))

namespace SqlClauses

/-- Reads the clauses of a query as if its line breaks were spaces. -/
def ofWholeText? (text : List Char) : Option SqlClauses :=
  (anywhere (literal "select" (someBlanks wholeColumns?)) text).map
    fun (columns, table, condition) => ⟨columns, table, condition⟩

def withoutBreaks (clauses : SqlClauses) : SqlClauses where
  columns := clauses.columns.map unbreak
  table := clauses.table
  condition := clauses.condition.map (List.map unbreak)

/-- Whether the columns stand on one line and the condition too. -/
structure InLine (clauses : SqlClauses) : Prop where
  columns : '\n' ∉ clauses.columns
  condition : ∀ text ∈ clauses.condition, '\n' ∉ text

instance (clauses : SqlClauses) : Decidable clauses.InLine :=
  decidable_of_iff ('\n' ∉ clauses.columns ∧ ∀ text ∈ clauses.condition, '\n' ∉ text)
    ⟨fun ⟨columns, condition⟩ => ⟨columns, condition⟩,
      fun inLine => ⟨inLine.columns, inLine.condition⟩⟩

end SqlClauses

/-- Whether no line break stands within a clause of the query. -/
def ClausesInLine (text : String) : Prop :=
  ∀ clauses ∈ SqlClauses.ofWholeText? (trim (lowercase text).toList), clauses.InLine

instance (text : String) : Decidable (ClausesInLine text) :=
  inferInstanceAs (Decidable (∀ clauses ∈ SqlClauses.ofWholeText? (trim (lowercase text).toList),
    clauses.InLine))

theorem where_clause_unbreak (text : List Char) :
    whereClause? (text.map unbreak) = (wholeCondition? text).map (List.map unbreak) := by
  have rest (text : List Char) :
      some (restOfLine (text.map unbreak)) = (some text).map (List.map unbreak) := by
    rw [restOfLine, List.takeWhile_eq_self_iff.mpr (in_line_of_no_feed (no_feed_in_map_unbreak text))]
    rfl
  have solid : Solid "where".toList := by decide
  exact some_blanks_map
    (literal_map (some_blanks_map rest is_blank_unbreak) (spelled_unbreak solid)) is_blank_unbreak text

theorem table_clause_unbreak (text : List Char) :
    tableClause? (text.map unbreak) =
      (wholeTable? text).map (Prod.map id (Option.map (List.map unbreak))) := by
  have word : isAsciiWordChar ∘ unbreak = isAsciiWordChar := by
    funext c
    rw [Function.comp_apply, unbreak]
    split
    · next feed => rw [feed]; decide
    · rfl
  have name : (text.takeWhile isAsciiWordChar).map unbreak = text.takeWhile isAsciiWordChar := by
    apply map_unbreak_of_no_feed
    intro member
    exact absurd (List.mem_takeWhile_imp member) (by decide)
  rw [tableClause?, wholeTable?, List.takeWhile_map, List.dropWhile_map, word, name,
    where_clause_unbreak]
  split <;> rfl

theorem column_clause_unbreak (text : List Char) :
    columnClause? (text.map unbreak) = (wholeColumns? text).map
      (Prod.map (List.map unbreak) (Prod.map id (Option.map (List.map unbreak)))) := by
  have solid : Solid "from".toList := by decide
  have source := some_blanks_map
    (literal_map (some_blanks_map table_clause_unbreak is_blank_unbreak) (spelled_unbreak solid))
    is_blank_unbreak
  have inLine (c : Char) : isInLine (unbreak c) = true := by
    rw [isInLine, unbreak]
    split
    · rfl
    · next other => simpa using other
  exact shortest_map source inLine text

theorem clauses_unbreak (text : List Char) :
    SqlClauses.ofText? (text.map unbreak) =
      (SqlClauses.ofWholeText? text).map SqlClauses.withoutBreaks := by
  have solid : Solid "select".toList := by decide
  have select := literal_map (some_blanks_map column_clause_unbreak is_blank_unbreak)
    (spelled_unbreak solid)
  rw [SqlClauses.ofText?, anywhere_map select,
    SqlClauses.ofWholeText?, Option.map_map, Option.map_map]
  rfl

theorem where_clause_eq_map (text : List Char) :
    whereClause? text = (wholeCondition? text).map restOfLine := by
  have rest : Restricts (fun _ => True) restOfLine (fun rest => some (restOfLine rest)) some :=
    restricts_of_map fun _ => rfl
  exact ((rest.someBlanks.literal "where").someBlanks).eq_map (fun _ => trivial) text

theorem table_clause_eq_map (text : List Char) :
    tableClause? text = (wholeTable? text).map (Prod.map id (Option.map restOfLine)) := by
  rw [tableClause?, wholeTable?, where_clause_eq_map]
  split <;> rfl

theorem source_eq_map (text : List Char) :
    someBlanks (literal "from" (someBlanks tableClause?)) text =
      (someBlanks (literal "from" (someBlanks wholeTable?)) text).map
        (Prod.map id (Option.map restOfLine)) := by
  have table : Restricts (fun _ => True) (Prod.map id (Option.map restOfLine)) tableClause?
      wholeTable? := restricts_of_map table_clause_eq_map
  exact ((table.someBlanks.literal "from").someBlanks).eq_map (fun _ => trivial) text

theorem clauses_restrict :
    Restricts (fun found => ∀ c ∈ found.1, isInLine c = true)
      (Prod.map id (Prod.map id (Option.map restOfLine)))
      (anywhere (literal "select" (someBlanks columnClause?)))
      (anywhere (literal "select" (someBlanks wholeColumns?))) :=
  ((restricts_shortest (fun _ _ => rfl) source_eq_map).someBlanks.literal "select").anywhere

theorem clauses_of_whole_none {text : List Char} (missing : SqlClauses.ofWholeText? text = none) :
    SqlClauses.ofText? text = none := by
  rw [SqlClauses.ofWholeText?, Option.map_eq_none_iff] at missing
  rw [SqlClauses.ofText?, clauses_restrict.nothing text missing]
  rfl

/-- A query whose columns stand on one line loses no more than the later lines of its condition. -/
theorem clauses_of_columns_in_line {text : List Char} {clauses : SqlClauses}
    (whole : SqlClauses.ofWholeText? text = some clauses) (inLine : '\n' ∉ clauses.columns) :
    SqlClauses.ofText? text =
      some { clauses with condition := clauses.condition.map restOfLine } := by
  obtain ⟨found, search, rfl⟩ := Option.map_eq_some_iff.mp whole
  have kept := clauses_restrict.kept text found search (in_line_of_no_feed inLine)
  rw [SqlClauses.ofText?, kept]
  rfl

theorem condition_is_suffix {text condition : List Char} {clauses : SqlClauses}
    (whole : SqlClauses.ofWholeText? text = some clauses) (stated : condition ∈ clauses.condition) :
    condition <:+ text := by
  obtain ⟨⟨columns, table, ending⟩, search, rfl⟩ := Option.map_eq_some_iff.mp whole
  obtain ⟨before, rest, rfl, read⟩ := anywhere_literal_sound search
  obtain ⟨first, after, rfl, -, readColumns⟩ := some_blanks_sound read
  obtain ⟨source, rfl, -, readSource⟩ := shortest_sound readColumns
  obtain ⟨second, fromWord, rfl, -, readFrom⟩ := some_blanks_sound readSource
  obtain ⟨spaced, rfl, readSpaced⟩ := literal_sound readFrom
  obtain ⟨third, named, rfl, -, readTable⟩ := some_blanks_sound readSpaced
  have inTail : condition <:+ named.dropWhile isAsciiWordChar := by
    rw [wholeTable?] at readTable
    split at readTable
    · contradiction
    · have readCondition : wholeCondition? (named.dropWhile isAsciiWordChar) = ending :=
        congrArg Prod.snd (Option.some.inj readTable)
      dsimp only at stated
      rw [← readCondition] at stated
      obtain ⟨gap, word, split, -, readWord⟩ := some_blanks_sound stated
      obtain ⟨spaced, rfl, readSpaced⟩ := literal_sound readWord
      obtain ⟨gapAfter, last, rfl, -, same⟩ := some_blanks_sound readSpaced
      cases same
      exact ⟨gap ++ ("where".toList ++ gapAfter), by rw [split]; simp only [List.append_assoc]⟩
  have inTable := inTail.trans (List.dropWhile_suffix _)
  refine inTable.trans ⟨before ++ ("select".toList ++ (first ++ (columns ++
    (second ++ ("from".toList ++ third))))), ?_⟩
  simp only [List.append_assoc]

/-- If the columns of a query reach over a line break, the query can be read from the same `select`
line by line only as one without columns. -/
theorem columns_lost {text columns lineColumns : List Char}
    {found lineFound : List Char × Option (List Char)}
    (whole : someBlanks wholeColumns? text = some (columns, found))
    (read : someBlanks columnClause? text = some (lineColumns, lineFound))
    (broken : '\n' ∈ columns) : lineColumns = [] ∧ columns.head? = some 'f' := by
  obtain ⟨gap, rest, rfl, ⟨-, blank⟩, -, search, first⟩ := some_blanks_shortest_sound whole
  obtain ⟨lineGap, lineRest, split, ⟨-, lineBlank⟩, readSource, lineSearch, lineFirst⟩ :=
    some_blanks_shortest_sound read
  have nonempty : columns ≠ [] := List.ne_nil_of_mem broken
  -- The columns begin where the blanks after `select` end.
  have start : columns ++ rest = trimStart (lineColumns ++ lineRest) := by
    have starts := congrArg trimStart split
    rwa [trim_start_gap_append blank, trim_start_gap_append lineBlank, trim_start_of_head
      (by rwa [List.head?_append_of_ne_nil _ nonempty])] at starts
  cases lineColumns with
  | nil =>
      obtain ⟨second, fromWord, rfl, ⟨-, blankSecond⟩, readFrom⟩ := some_blanks_sound readSource
      obtain ⟨spaced, rfl, -⟩ := literal_sound readFrom
      have bareFrom : ∀ c ∈ ("from".toList ++ spaced).head?, isBlank c = false := by
        rintro _ ⟨⟩
        rfl
      rw [List.nil_append, trim_start_gap_append blankSecond, trim_start_of_head bareFrom] at start
      have heads := congrArg List.head? start
      rw [List.head?_append_of_ne_nil _ nonempty] at heads
      exact ⟨rfl, heads⟩
  | cons c lineColumns =>
      rw [trim_start_of_head (by simpa using lineFirst)] at start
      -- Over line breaks the columns end where they end on their line, or earlier.
      obtain ⟨wholeFound, readWhole, -⟩ :=
        Option.map_eq_some_iff.mp ((source_eq_map lineRest).symm.trans readSource)
      have all : ∀ d ∈ c :: lineColumns, (fun _ => true) d = true := fun _ _ => rfl
      obtain ⟨front, back, earlier, cut, -, earlierSearch⟩ := shortest_of_read all readWhole
      have sameColumns : columns = front := by
        rw [start] at search
        exact congrArg Prod.fst (Option.some.inj (search.symm.trans earlierSearch))
      obtain ⟨-, -, inLine, -⟩ := shortest_sound lineSearch
      have member : '\n' ∈ c :: lineColumns := by
        rw [cut, ← sameColumns]
        exact List.mem_append_left _ broken
      exact absurd (inLine '\n' member) (by decide)

theorem algebra_without_breaks {text : String} {clauses : SqlClauses}
    (whole : SqlClauses.ofWholeText? (trim (lowercase text).toList) = some clauses) :
    algebraOfSql (withoutBreaks text) = clauses.withoutBreaks.selection.algebra := by
  apply algebra_of_clauses
  rw [trim_lowercase_without_breaks, clauses_unbreak, whole]
  rfl

theorem bare_algebra (selected : Selection) :
    bare selected.algebra.toList =
      'π' :: (bare selected.columns.algebra.toList ++ '(' :: (bare selected.rows.toList ++ [')'])) := by
  have sign : bare "π ".toList = ['π'] := by decide
  have opens : bare " (".toList = ['('] := by decide
  have closes : bare ")".toList = [')'] := by decide
  simp only [Selection.algebra, String.toList_append, bare_append, sign, opens, closes,
    List.append_assoc, List.singleton_append]

theorem bare_rows (columns : Columns) (source condition : String) :
    bare (Selection.rows ⟨columns, source, some condition⟩).toList =
      'σ' :: (bare condition.toList ++ '(' :: (bare source.toList ++ [')'])) := by
  have sign : bare "σ ".toList = ['σ'] := by decide
  have opens : bare " (".toList = ['('] := by decide
  have closes : bare ")".toList = [')'] := by decide
  simp only [Selection.rows, String.toList_append, bare_append, sign, opens, closes,
    List.append_assoc, List.singleton_append]

theorem columns_algebra_of_head {columns : List Char} (first : columns.head? ≠ some '*') :
    (Columns.ofSql (String.ofList columns)).algebra = String.ofList columns := by
  have listed : String.ofList columns ≠ Columns.allInSql := by
    intro all
    have spelled := congrArg String.toList all
    rw [String.toList_ofList] at spelled
    exact first (congrArg List.head? spelled)
  rw [Columns.ofSql, if_neg listed]
  rfl

def SelectsOnce (text : String) : Prop :=
  occurrences "select".toList (trim (lowercase text).toList) ≤ 1

instance (text : String) : Decidable (SelectsOnce text) :=
  inferInstanceAs (Decidable (occurrences "select".toList (trim (lowercase text).toList) ≤ 1))

theorem algebra_of_lost_columns {text : String} {clauses : SqlClauses} (once : SelectsOnce text)
    (whole : SqlClauses.ofWholeText? (trim (lowercase text).toList) = some clauses)
    (broken : '\n' ∈ clauses.columns) :
    ¬ SameButBlanks (algebraOfSql (withoutBreaks text)) (algebraOfSql text) := by
  intro same
  have kept := bare_of_same_but_blanks same
  rw [algebra_without_breaks whole, bare_algebra] at kept
  obtain ⟨⟨columns, found⟩, search, rfl⟩ := Option.map_eq_some_iff.mp whole
  cases read : SqlClauses.ofText? (trim (lowercase text).toList) with
  | none =>
      have begins : (bare "unsupported SQL query type for translation".toList).head? = some 'u' := by
        decide
      rw [algebra_of_no_clauses read] at kept
      rw [← kept] at begins
      exact absurd begins (by simp)
  | some lineClauses =>
      have translated := algebra_of_clauses read
      obtain ⟨⟨lineColumns, lineFound⟩, lineSearch, rfl⟩ := Option.map_eq_some_iff.mp read
      obtain ⟨before, rest, split, readColumns⟩ := anywhere_literal_sound search
      obtain ⟨lineBefore, lineRest, lineSplit, readLine⟩ := anywhere_literal_sound lineSearch
      obtain rfl := before_part_unique once split lineSplit
      obtain rfl : rest = lineRest :=
        List.append_cancel_left (List.append_cancel_left (split.symm.trans lineSplit))
      obtain ⟨rfl, first⟩ := columns_lost readColumns readLine broken
      obtain ⟨more, rfl⟩ := List.head?_eq_some_iff.mp first
      have letter : (('f' :: more).map unbreak).head? ≠ some '*' := by simp [unbreak]
      have nothing : ([] : List Char).head? ≠ some '*' := by decide
      rw [translated, bare_algebra] at kept
      dsimp only [SqlClauses.selection, SqlClauses.withoutBreaks] at kept
      rw [columns_algebra_of_head letter, columns_algebra_of_head nothing, String.toList_ofList,
        String.toList_ofList, bare_unbreak] at kept
      have second := congrArg (fun text => text[1]?) kept
      have letterF : isBlank 'f' = false := rfl
      simp [bare, letterF] at second

theorem algebra_of_lost_condition {text : String} {clauses : SqlClauses} {condition : List Char}
    (whole : SqlClauses.ofWholeText? (trim (lowercase text).toList) = some clauses)
    (inLine : '\n' ∉ clauses.columns) (stated : clauses.condition = some condition)
    (broken : '\n' ∈ condition) :
    ¬ SameButBlanks (algebraOfSql (withoutBreaks text)) (algebraOfSql text) := by
  intro same
  have kept := bare_of_same_but_blanks same
  rw [algebra_without_breaks whole, algebra_of_clauses (clauses_of_columns_in_line whole inLine)]
    at kept
  have last : ∀ c ∈ condition.getLast?, isBlank c = false := by
    obtain ⟨front, split⟩ := condition_is_suffix whole (by rw [stated]; rfl)
    obtain ⟨-, bareLast⟩ := trimmed_iff.mp (trimmed_trim (lowercase text).toList)
    rwa [← split, List.getLast?_append_of_ne_nil _ (List.ne_nil_of_mem broken)] at bareLast
  have shorter := bare_rest_of_line_lt broken last
  dsimp only [SqlClauses.selection, SqlClauses.withoutBreaks] at kept
  rw [stated, map_unbreak_of_no_feed inLine] at kept
  simp only [Option.map_some, bare_algebra, bare_rows, String.toList_ofList, bare_unbreak] at kept
  have lengths := congrArg List.length kept
  simp only [List.length_cons, List.length_append] at lengths
  omega

theorem algebra_of_clauses_in_line {text : String} (inLine : ClausesInLine text) :
    algebraOfSql (withoutBreaks text) = algebraOfSql text := by
  cases whole : SqlClauses.ofWholeText? (trim (lowercase text).toList) with
  | none =>
      have missing : SqlClauses.ofText? (trim (lowercase (withoutBreaks text)).toList) = none := by
        rw [trim_lowercase_without_breaks, clauses_unbreak, whole]
        rfl
      rw [algebra_of_no_clauses missing, algebra_of_no_clauses (clauses_of_whole_none whole)]
  | some clauses =>
      obtain ⟨columns, condition⟩ := inLine clauses whole
      have flat : clauses.condition.map (List.map unbreak) = clauses.condition := by
        cases stated : clauses.condition with
        | none => rfl
        | some found => exact congrArg some (map_unbreak_of_no_feed (condition found stated))
      have ends : clauses.condition.map restOfLine = clauses.condition := by
        cases stated : clauses.condition with
        | none => rfl
        | some found =>
            exact congrArg some
              (List.takeWhile_eq_self_iff.mpr (in_line_of_no_feed (condition found stated)))
      rw [algebra_without_breaks whole,
        algebra_of_clauses (clauses_of_columns_in_line whole columns), SqlClauses.withoutBreaks,
        map_unbreak_of_no_feed columns, flat, ends]

/-- A query translates as it does with spaces in the place of its line breaks if no line break stands
within a clause. If a line break does and the query holds `select` once, the two translations differ by
more than blanks. -/
theorem line_breaks_in_query (text : String) :
    (ClausesInLine text → algebraOfSql (withoutBreaks text) = algebraOfSql text) ∧
      (SelectsOnce text →
        (SameButBlanks (algebraOfSql (withoutBreaks text)) (algebraOfSql text) ↔
          ClausesInLine text)) := by
  refine ⟨algebra_of_clauses_in_line, fun once => ⟨fun same clauses whole => ?_, fun inLine => ?_⟩⟩
  · have columns : '\n' ∉ clauses.columns := fun broken =>
      algebra_of_lost_columns once whole broken same
    exact ⟨columns, fun condition stated broken =>
      algebra_of_lost_condition whole columns stated broken same⟩
  · rw [SameButBlanks, algebra_of_clauses_in_line inLine]

/-- A line break between the clauses of a query is a blank, and a line break in the condition is not. -/
theorem line_breaks_in_condition :
    algebraOfSql "select name\nfrom users where age > 30 and active = 1" =
        "π name (σ age > 30 and active = 1 (users))" ∧
      ¬ SameButBlanks (algebraOfSql "select name from users where age > 30\nand active = 1")
        "π name (σ age > 30 and active = 1 (users))" := by
  have spaced : algebraOfSql "select name from users where age > 30 and active = 1" =
      "π name (σ age > 30 and active = 1 (users))" := by decide +kernel
  constructor
  · obtain ⟨kept, -⟩ := line_breaks_in_query "select name\nfrom users where age > 30 and active = 1"
    rw [← kept (by decide +kernel)]
    exact spaced
  · obtain ⟨-, exactly⟩ := line_breaks_in_query "select name from users where age > 30\nand active = 1"
    have once : SelectsOnce "select name from users where age > 30\nand active = 1" := by
      decide +kernel
    have divided : ¬ ClausesInLine "select name from users where age > 30\nand active = 1" := by
      decide +kernel
    intro same
    refine divided ((exactly once).mp ?_)
    rw [← spaced] at same
    exact same.symm

/-- Spaces in the place of line breaks change what a query translates to. -/
theorem query_differs_without_breaks :
    ¬ ∀ text, SameButBlanks (algebraOfSql text) (algebraOfSql (withoutBreaks text)) := by
  intro same
  exact absurd (same "select name from users where age > 30\nand active = 1") (by decide +kernel)

end ErDiagram
