import ErDiagram.Proofs.Script.Scanning
import ErDiagram.Script.Declarations

/-!
# Why a script cannot be read

Whatever is missing or out of place in a script is passed over, with one exception: a reference that
breaks off before it has named a table. Where the reading fails, there is such a reference in the script,
and the failure names the token at which it breaks off.
-/

namespace ErDiagram.Script

set_option autoImplicit false

/-- The parts of a name before the last one, with a dot after each. -/
def qualifiers (parts : List String) : List Token :=
  parts.flatMap fun part => [.identifier part, .dot]

/-- Whether some reference among the tokens breaks off at what was found: between them there are only
qualifiers, and what was found could not go on with the name. -/
def BreaksOff (tokens : List Token) : ScriptError → Prop
  | .missingTable found => ∃ before parts after,
      tokens = before ++ .keyword .references :: (qualifiers parts ++ after) ∧
        after.head? = found ∧ ∀ name, found ≠ some (.identifier name)

/-- The tokens begin with a name of which no part is missing. -/
inductive BeginsName : List Token → Prop where
  | last {name : String} {rest : List Token} (ends : rest.head? ≠ some .dot) :
      BeginsName (.identifier name :: rest)
  | part {name : String} {rest : List Token} (later : BeginsName rest) :
      BeginsName (.identifier name :: .dot :: rest)

theorem qualifiers_cons (part : String) (parts : List String) (rest : List Token) :
    qualifiers (part :: parts) ++ rest = .identifier part :: .dot :: (qualifiers parts ++ rest) := by
  rw [qualifiers, List.flatMap_cons, List.append_assoc]
  rfl

theorem qualified_name_missing {tokens : List Token} (missing : (qualifiedName tokens).value = none) :
    ∃ parts, tokens = qualifiers parts ++ (qualifiedName tokens).rest ∧
      ∀ name, (qualifiedName tokens).rest.head? ≠ some (.identifier name) := by
  fun_induction qualifiedName tokens with
  | case1 part rest ih =>
      obtain ⟨parts, split, noName⟩ := ih missing
      refine ⟨part :: parts, ?_, noName⟩
      rw [qualifiers_cons, ← split]
  | case2 => contradiction
  | case3 tokens _ notName =>
      refine ⟨[], rfl, ?_⟩
      intro name head
      obtain ⟨rest, rfl⟩ := List.head?_eq_some_iff.mp head
      exact notName name rest rfl

theorem name_after_qualifiers {parts : List String} {after : List Token}
    (begins : BeginsName (qualifiers parts ++ after)) :
    ∃ name, after.head? = some (.identifier name) := by
  induction parts with
  | nil =>
      cases begins with
      | last => exact ⟨_, rfl⟩
      | part => exact ⟨_, rfl⟩
  | cons part parts ih =>
      rw [qualifiers_cons] at begins
      cases begins with
      | last ends => exact absurd rfl ends
      | part later => exact ih later

theorem breaks_off_of_suffix {part tokens : List Token} (inTokens : part <:+ tokens)
    {fault : ScriptError} (broken : BreaksOff part fault) : BreaksOff tokens fault := by
  cases fault with
  | missingTable found =>
      obtain ⟨front, rfl⟩ := inTokens
      obtain ⟨before, parts, after, rfl, rest⟩ := broken
      exact ⟨front ++ before, parts, after, (List.append_assoc _ _ _).symm, rest⟩

theorem breaks_off_of_missing {tokens : List Token} (missing : (qualifiedName tokens).value = none) :
    BreaksOff (.keyword .references :: tokens) (.missingTable (qualifiedName tokens).rest.head?) := by
  obtain ⟨parts, split, noName⟩ := qualified_name_missing missing
  exact ⟨[], parts, _, congrArg (.keyword .references :: ·) split, rfl, noName⟩

theorem target_failure {tokens : List Token} {fault : ScriptError}
    (failed : target tokens = .error fault) : BreaksOff (.keyword .references :: tokens) fault := by
  unfold target at failed
  dsimp only at failed
  split at failed
  · next missing =>
    cases failed
    exact breaks_off_of_missing missing
  · contradiction

theorem keys_to_failure {table : String} {name : Option String} {columns : List String}
    {tokens : List Token} {fault : ScriptError}
    (failed : keysTo table name columns tokens = .error fault) :
    BreaksOff (.keyword .references :: tokens) fault := by
  unfold keysTo at failed
  dsimp only at failed
  split at failed
  · next missing =>
    cases failed
    exact breaks_off_of_missing missing
  · contradiction

theorem key_constraint_failure {table : String} {name : Option String} {tokens : List Token}
    {fault : ScriptError} (failed : keyConstraint table name tokens = .error fault) :
    BreaksOff tokens fault := by
  unfold keyConstraint at failed
  split at failed
  · next rest =>
    dsimp only at failed
    have listed := (columnList_suffix rest).trans (List.suffix_cons (.keyword .key) rest)
    split at failed
    · next later next =>
      rw [next] at listed
      exact breaks_off_of_suffix listed (keys_to_failure failed)
    · contradiction
  · contradiction

theorem clause_failure {table : String} {reading : ColumnReading} {token : Token}
    {rest : List Token} {fault : ScriptError}
    (failed : reading.clause table token rest = .error fault) : BreaksOff (token :: rest) fault := by
  unfold ColumnReading.clause at failed
  split at failed
  case h_6 =>
    split at failed
    · next unread =>
      cases failed
      exact target_failure unread
    · contradiction
  case h_2 => split at failed <;> contradiction
  all_goals contradiction

theorem clauses_failure {table : String} {reading : ColumnReading} {tokens : List Token}
    {fault : ScriptError} (failed : reading.clauses table tokens = .error fault) :
    BreaksOff tokens fault := by
  fun_induction ColumnReading.clauses table reading tokens with
  | case1 => contradiction
  | case2 => contradiction
  | case3 reading token rest _ found step =>
      cases failed
      exact clause_failure step
  | case4 reading token rest _ later step ih =>
      exact breaks_off_of_suffix
        ((ColumnReading.clause_suffix step).trans (List.suffix_cons _ _)) (ih failed)

theorem column_definition_failure {table name : String} {tokens : List Token} {fault : ScriptError}
    (failed : columnDefinition table name tokens = .error fault) : BreaksOff tokens fault := by
  unfold columnDefinition at failed
  split at failed
  · next typeName rest =>
    have sized := (typeSize_suffix (Text.lowercase typeName) rest).trans
      (List.suffix_cons (.identifier typeName) rest)
    dsimp only at failed
    split at failed
    · next unread =>
      cases failed
      exact breaks_off_of_suffix sized (clauses_failure unread)
    · contradiction
  · contradiction

theorem item_failure {reading : TableReading} {token : Token} {rest : List Token}
    {fault : ScriptError} (failed : reading.item token rest = .error fault) :
    BreaksOff rest fault := by
  unfold TableReading.item at failed
  split at failed
  case h_4 =>
    split at failed
    · next unread =>
      cases failed
      exact key_constraint_failure unread
    · contradiction
  case h_9 =>
    split at failed
    · next unread =>
      cases failed
      exact column_definition_failure unread
    · contradiction
  all_goals contradiction

theorem items_failure {reading : TableReading} {tokens : List Token} {fault : ScriptError}
    (failed : reading.items tokens = .error fault) : BreaksOff tokens fault := by
  fun_induction TableReading.items reading tokens with
  | case1 => contradiction
  | case2 => contradiction
  | case3 reading token rest _ found step =>
      cases failed
      exact breaks_off_of_suffix (List.suffix_cons _ _) (item_failure step)
  | case4 reading token rest _ later step ih =>
      exact breaks_off_of_suffix
        ((TableReading.item_suffix step).trans (List.suffix_cons _ _)) (ih failed)

theorem table_definition_failure {tokens : List Token} {fault : ScriptError}
    (failed : tableDefinition tokens = .error fault) : BreaksOff tokens fault := by
  have named := (qualifiedName_suffix _).trans (dropExistenceTest_suffix tokens)
  unfold tableDefinition at failed
  split at failed
  · next name =>
    rw [name] at named
    split at failed
    · next unread =>
      cases failed
      exact breaks_off_of_suffix ((List.suffix_cons _ _).trans named) (items_failure unread)
    · contradiction
  · contradiction

theorem table_change_failure {tokens : List Token} {fault : ScriptError}
    (failed : tableChange tokens = .error fault) : BreaksOff tokens fault := by
  rcases tableChange_cases tokens with ⟨later, -, same⟩ |
    ⟨table, name, later, found, inTokens, constraint, same⟩ | ⟨table, name, later, keys, -, -, same⟩
  · cases same.symm.trans failed
  · cases same.symm.trans failed
    exact breaks_off_of_suffix inTokens (key_constraint_failure constraint)
  · cases same.symm.trans failed

theorem statement_failure {token : Token} {rest : List Token} {fault : ScriptError}
    (failed : statement token rest = .error fault) : BreaksOff rest fault := by
  unfold statement at failed
  split at failed
  · exact breaks_off_of_suffix (List.suffix_cons _ _) (table_definition_failure failed)
  · contradiction
  · exact table_change_failure failed
  · contradiction

theorem declarations_failure {tokens : List Token} {fault : ScriptError}
    (failed : declarations tokens = .error fault) : BreaksOff tokens fault := by
  fun_induction declarations tokens with
  | case1 => contradiction
  | case2 token rest found step =>
      cases failed
      exact breaks_off_of_suffix (List.suffix_cons _ _) (statement_failure step)
  | case3 token rest found step later unread ih =>
      cases failed
      exact breaks_off_of_suffix
        ((statement_suffix step).trans (List.suffix_cons _ _)) (ih unread)
  | case4 => contradiction

theorem schema_failure {script : String} {fault : ScriptError}
    (failed : schemaOf script = .error fault) : BreaksOff (scan script) fault := by
  rw [schemaOf, schemaOfTokens] at failed
  cases read : declarations (scan script) with
  | error found =>
      rw [read] at failed
      cases failed
      exact declarations_failure read
  | ok declared =>
      rw [read] at failed
      contradiction

/-- A script can be read unless a reference in it breaks off, and if the reading fails, it names where one
does. -/
theorem read_unless_broken_off (script : String) :
    (∀ fault, schemaOf script = .error fault → BreaksOff (scan script) fault) ∧
      ((∀ before after, scan script = before ++ .keyword .references :: after → BeginsName after) →
        ∃ schema, schemaOf script = .ok schema) := by
  refine ⟨fun fault failed => schema_failure failed, ?_⟩
  intro named
  cases read : schemaOf script with
  | ok schema => exact ⟨schema, rfl⟩
  | error fault =>
      -- The reference that has broken off is one of those that name a table.
      cases fault with
      | missingTable found =>
          obtain ⟨before, parts, after, split, head, noName⟩ := schema_failure read
          obtain ⟨name, same⟩ := name_after_qualifiers (named before _ split)
          exact absurd (head.symm.trans same) (noName name)

/-- A table whose only column refers to nothing but a qualifier. -/
def brokenScript : List Lexeme :=
  [.keyword .create "CREATE".toList, .blank ' ', .keyword .table "TABLE".toList, .blank ' ',
    .bareName "a".toList, .leftParen, .bareName "x".toList, .blank ' ', .bareName "int".toList,
    .blank ' ', .keyword .references "REFERENCES".toList, .blank ' ', .quotedName .double "s", .dot,
    .leftParen, .bareName "y".toList]

/-- A script in which hardly anything but the reference is in its place. -/
def disorderedScript : List Lexeme :=
  [.rightParen, .keyword .create "CREATE".toList, .blank ' ', .keyword .table "TABLE".toList,
    .leftParen, .keyword .foreign "FOREIGN".toList, .blank ' ', .keyword .key "KEY".toList, .blank ' ',
    .keyword .references "REFERENCES".toList, .blank ' ', .quotedName .square "s", .dot,
    .bareName "t".toList, .comma, .semicolon, .keyword .alter "ALTER".toList]

theorem schema_of_broken_script : schemaOf (String.ofList (spelled brokenScript)) =
    .error (.missingTable (some .leftParen)) := by
  have fit : Fit brokenScript := by decide +kernel
  have tokens : tokensOf brokenScript =
      [.keyword .create, .keyword .table, .identifier "a", .leftParen, .identifier "x",
        .identifier "int", .keyword .references, .identifier "s", .dot, .leftParen,
        .identifier "y"] := by decide +kernel
  have read : tableDefinition [.identifier "a", .leftParen, .identifier "x", .identifier "int",
      .keyword .references, .identifier "s", .dot, .leftParen, .identifier "y"] =
        .error (.missingTable (some .leftParen)) := by
    simp [tableDefinition, dropExistenceTest, qualifiedName, TableReading.items_cons,
      TableReading.item, columnDefinition, typeSize, ColumnReading.clauses_cons, endsColumn,
      ColumnReading.clause, target, Except.bind]
  rw [schemaOf, scan, String.toList_ofList, scan_spelled fit, tokens, schemaOfTokens,
    declarations_cons, statement, read]
  rfl

theorem broken_off_script_and_read_script :
    let broken := "CREATE TABLE a(x int REFERENCES \"s\".(y"
    let disordered := ")CREATE TABLE(FOREIGN KEY REFERENCES [s].t,;ALTER"
    schemaOf broken = .error (.missingTable (some .leftParen)) ∧
      BreaksOff (scan broken) (.missingTable (some .leftParen)) ∧
      (∀ before after, scan disordered = before ++ .keyword .references :: after →
        BeginsName after) ∧
      ∃ schema, schemaOf disordered = .ok schema := by
  intro broken disordered
  have brokenText : broken = String.ofList (spelled brokenScript) := by decide +kernel
  have disorderedText : disordered = String.ofList (spelled disorderedScript) := by decide +kernel
  have failed : schemaOf broken = .error (.missingTable (some .leftParen)) := by
    rw [brokenText, schema_of_broken_script]
  have fit : Fit disorderedScript := by decide +kernel
  have tokens : scan disordered = [.rightParen, .keyword .create, .keyword .table, .leftParen,
      .keyword .foreign, .keyword .key, .keyword .references, .identifier "s", .dot,
      .identifier "t", .comma, .semicolon, .keyword .alter] := by
    rw [disorderedText, scan, String.toList_ofList, scan_spelled fit]
    decide +kernel
  have named : ∀ before after, scan disordered = before ++ .keyword .references :: after →
      BeginsName after := by
    intro before after split
    have only : ([.rightParen, .keyword .create, .keyword .table, .leftParen, .keyword .foreign,
        .keyword .key] : List Token) ++ .keyword .references :: [.identifier "s", .dot,
          .identifier "t", .comma, .semicolon, .keyword .alter] =
        before ++ .keyword .references :: after := tokens.symm.trans split
    obtain ⟨-, -, rfl⟩ := (List.append_cons_inj_of_notMem (by decide) (by decide)).mp only
    exact .part (.last (by simp))
  exact ⟨failed, (read_unless_broken_off broken).1 _ failed, named,
    (read_unless_broken_off disordered).2 named⟩

end ErDiagram.Script
