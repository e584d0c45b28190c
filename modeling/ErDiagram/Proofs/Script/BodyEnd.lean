import ErDiagram.Proofs.Script.Statements

/-!
# Where the body of a table ends

The body of a table is a group, and its reader has to tell the parenthesis that closes it from those that
close the groups inside it. It counts the groups of a check, a default value, an index or any other
clause, however deep they lie. A list of columns and the size of a type it takes to end at the first
closing parenthesis, and a group in the place of an item it does not count at all.

So the body ends at its own parenthesis if and only if no such list or size holds a group and no group
stands in the place of an item. Otherwise it ends early, and what the rest of it declares is lost.
-/

namespace ErDiagram.Script

set_option autoImplicit false

open Text

/-- Whether the tokens run to the parenthesis that closes a group and go on with `after`, where `depth`
further groups are open inside the group. -/
def Inside (after : List Token) : Nat → List Token → Prop
  | _, [] => False
  | depth, .leftParen :: rest => Inside after (depth + 1) rest
  | depth, .rightParen :: rest =>
    match depth with
    | 0 => rest = after
    | depth + 1 => Inside after depth rest
  | depth, _ :: rest => Inside after depth rest

section Depth

variable {after tokens : List Token} {depth : Nat}

theorem inside_plain {token : Token} {rest : List Token}
    (plain : token ∉ [.leftParen, .rightParen]) (inside : Inside after depth (token :: rest)) :
    Inside after depth rest := by
  cases token with
  | leftParen => exact absurd (by simp) plain
  | rightParen => exact absurd (by simp) plain
  | _ => exact inside

theorem inside_counts (after : List Token) : Counts (Inside after) where
  unfinished := id
  opened := id
  closed := id
  semicolon := id
  plain other := inside_plain fun member => other (by
    simp only [List.mem_cons, List.not_mem_nil, or_false] at member ⊢
    tauto)

theorem inside_append (inside : Inside after depth tokens) (later : List Token) :
    Inside (after ++ later) depth (tokens ++ later) := by
  induction tokens generalizing depth with
  | nil => exact inside.elim
  | cons token rest ih =>
      cases token with
      | rightParen =>
          cases depth with
          | zero => exact congrArg (· ++ later) (inside : rest = after)
          | succ depth => exact ih inside
      | leftParen => exact ih inside
      | _ => exact ih inside

theorem exists_inside (closed : tokens.count .leftParen + depth < tokens.count .rightParen) :
    ∃ after, Inside after depth tokens := by
  induction tokens generalizing depth with
  | nil => exact absurd closed (Nat.not_lt_zero _)
  | cons token rest ih =>
      cases token with
      | leftParen =>
          rw [List.count_cons_self, List.count_cons_of_ne (by decide)] at closed
          have inner : rest.count .leftParen + (depth + 1) < rest.count .rightParen := by omega
          exact ih inner
      | rightParen =>
          rw [List.count_cons_self, List.count_cons_of_ne (by decide)] at closed
          cases depth with
          | zero => exact ⟨rest, rfl⟩
          | succ depth =>
              have outer : rest.count .leftParen + depth < rest.count .rightParen := by omega
              exact ih outer
      | _ =>
          have same : rest.count .leftParen + depth < rest.count .rightParen := by
            simpa using closed
          exact ih same

/-- What stands before the parenthesis that closes a group has balanced parentheses, but for those of the
groups that were open already. -/
theorem balance_of_inside (inside : Inside after depth tokens) :
    ∃ within, tokens = within ++ .rightParen :: after ∧
      (∀ before, before <+: within →
        before.count .rightParen ≤ depth + before.count .leftParen) ∧
      within.count .rightParen = depth + within.count .leftParen := by
  induction tokens generalizing depth with
  | nil => exact inside.elim
  | cons token rest ih =>
      -- A token before the rest stands in every beginning but the empty one.
      have extend {within : List Token}
          (opened : ∀ before, before <+: within →
            (token :: before).count .rightParen ≤ depth + (token :: before).count .leftParen) :
          ∀ before, before <+: token :: within →
            before.count .rightParen ≤ depth + before.count .leftParen := by
        intro before start
        rcases List.prefix_cons_iff.mp start with rfl | ⟨more, rfl, starts⟩
        · exact Nat.zero_le _
        · exact opened more starts
      cases token with
      | leftParen =>
          have inner : Inside after (depth + 1) rest := inside
          obtain ⟨within, rfl, opened, closed⟩ := ih inner
          refine ⟨.leftParen :: within, rfl, extend fun before start => ?_, ?_⟩
          · have bound := opened before start
            rw [List.count_cons_self, List.count_cons_of_ne (by decide)]
            omega
          · rw [List.count_cons_self, List.count_cons_of_ne (by decide)]
            omega
      | rightParen =>
          cases depth with
          | zero =>
              cases (inside : rest = after)
              exact ⟨[], rfl, by simp, rfl⟩
          | succ depth =>
              have outer : Inside after depth rest := inside
              obtain ⟨within, rfl, opened, closed⟩ := ih outer
              refine ⟨.rightParen :: within, rfl, extend fun before start => ?_, ?_⟩
              · have bound := opened before start
                rw [List.count_cons_self, List.count_cons_of_ne (by decide)]
                omega
              · rw [List.count_cons_self, List.count_cons_of_ne (by decide)]
                omega
      | _ =>
          obtain ⟨within, rfl, opened, closed⟩ := ih (inside_plain (by simp) inside)
          refine ⟨_ :: within, rfl, extend fun before start => ?_, by simpa using closed⟩
          simpa using opened before start

end Depth

/-- How many groups are opened in the tokens before one is closed. -/
def openedFirst : List Token → Nat
  | [] => 0
  | .leftParen :: rest => openedFirst rest + 1
  | .rightParen :: _ => 0
  | _ :: rest => openedFirst rest

/-- Whether the tokens begin with a group that holds another group. -/
def Crowded : List Token → Prop
  | .leftParen :: rest => 0 < openedFirst rest
  | _ => False

/-- Whether the tokens begin with a reference whose list of columns holds a group. -/
def CrowdedReference : List Token → Prop
  | .keyword .references :: rest => Crowded (qualifiedName rest).rest
  | _ => False

/-- Whether one of the two lists of columns of a foreign key, whose first word has been read, holds a
group. -/
def CrowdedConstraint : List Token → Prop
  | .keyword .key :: rest => Crowded rest ∨ CrowdedReference (columnList rest).rest
  | _ => False

/-- Whether some reference is crowded that the reader of the clauses of a column comes to. -/
inductive ColumnReading.LosesCount (table : String) : ColumnReading → List Token → Prop where
  | here {reading : ColumnReading} {tokens : List Token} (crowded : CrowdedReference tokens) :
      LosesCount table reading tokens
  | later {reading : ColumnReading} {token : Token} {rest : List Token}
      {found : Parsed ColumnReading} (goesOn : endsColumn token = false)
      (step : reading.clause table token rest = .ok found)
      (loses : LosesCount table found.value found.rest) : LosesCount table reading (token :: rest)

/-- Whether the size of a type holds a group or the reader loses count in the clauses after it. -/
def DefinitionLosesCount (table name : String) : List Token → Prop
  | .identifier typeName :: rest =>
    let type := lowercase typeName
    let size := typeSize type rest
    Crowded rest ∨
      ColumnReading.LosesCount table { column := { name, type, size := size.value } } size.rest
  | _ => False

/-- Whether the reader of a table loses count in the item that the tokens begin with. A group without
anything before it is such an item. -/
def TableReading.ItemLosesCount (reading : TableReading) : List Token → Prop
  | .leftParen :: _ => True
  | .keyword .primary :: rest => Crowded ((dropKeyword .key rest).dropWhile Token.isIdentifier)
  | .keyword .foreign :: rest => CrowdedConstraint rest
  | .identifier name :: rest => DefinitionLosesCount reading.name name rest
  | _ => False

/-- Whether the reader of a table loses count in some item that it comes to. -/
inductive TableReading.LosesCount : TableReading → List Token → Prop where
  | here {reading : TableReading} {tokens : List Token} (loses : reading.ItemLosesCount tokens) :
      LosesCount reading tokens
  | later {reading : TableReading} {token : Token} {rest : List Token}
      {found : Parsed TableReading} (goesOn : token ≠ .rightParen)
      (step : reading.item token rest = .ok found) (loses : LosesCount found.value found.rest) :
      LosesCount reading (token :: rest)

/-- What is left is deeper inside a group than `depth`, if and only if count was lost. -/
def Deeper (after : List Token) (depth : Nat) (lost : Prop) (rest : List Token) : Prop :=
  ∃ extra, Inside after (depth + extra) rest ∧ (0 < extra ↔ lost)

section Deeper

variable {after tokens rest : List Token} {depth : Nat}

theorem deeper_of_inside {lost : Prop} (inside : Inside after depth rest) (counted : ¬ lost) :
    Deeper after depth lost rest :=
  ⟨0, inside, iff_of_false (Nat.lt_irrefl 0) counted⟩

theorem Deeper.keep {lost : Prop} {back : List Token} (deeper : Deeper after depth lost rest)
    (keeps : ∀ deep, Inside after deep rest → Inside after deep back) : Deeper after depth lost back := by
  obtain ⟨extra, inside, same⟩ := deeper
  exact ⟨extra, keeps _ inside, same⟩

theorem Deeper.append {first second : Prop} {back : List Token}
    (deeper : Deeper after depth first rest)
    (more : ∀ deep, Inside after deep rest → Deeper after deep second back) :
    Deeper after depth (first ∨ second) back := by
  obtain ⟨extra, inside, same⟩ := deeper
  obtain ⟨further, within, still⟩ := more _ inside
  refine ⟨extra + further, Nat.add_assoc depth extra further ▸ within, ?_⟩
  rw [← same, ← still]
  omega

theorem column_names_inside (afterName : Bool) (inside : Inside after (depth + 1) tokens) :
    Inside after (depth + openedFirst tokens) (columnNames afterName tokens).rest := by
  induction tokens generalizing afterName depth with
  | nil => exact inside.elim
  | cons token rest ih =>
      cases token with
      | rightParen => exact inside
      | leftParen =>
          have inner : Inside after (depth + 1 + 1) rest := inside
          have within := ih false inner
          rw [Nat.add_assoc, Nat.add_comm 1] at within
          exact within
      | identifier name =>
          have further := ih true (inside_plain (by simp) inside)
          rw [columnNames]
          split
          · exact further
          · exact further
      | _ => exact ih false (inside_plain (by simp) inside)

theorem column_list_deeper (inside : Inside after depth tokens) :
    Deeper after depth (Crowded tokens) (columnList tokens).rest := by
  cases tokens with
  | nil => exact inside.elim
  | cons token rest =>
      cases token with
      | leftParen => exact ⟨openedFirst rest, column_names_inside false inside, Iff.rfl⟩
      | _ => exact deeper_of_inside inside id

theorem size_arguments_inside (inside : Inside after (depth + 1) tokens) :
    Inside after (depth + openedFirst tokens) (sizeArguments tokens).rest := by
  induction tokens generalizing depth with
  | nil => exact inside.elim
  | cons token rest ih =>
      cases token with
      | rightParen => exact inside
      | leftParen =>
          have inner : Inside after (depth + 1 + 1) rest := inside
          have within := ih inner
          rw [Nat.add_assoc, Nat.add_comm 1] at within
          exact within
      | _ => exact ih (inside_plain (by simp) inside)

theorem type_size_deeper (type : String) (inside : Inside after depth tokens) :
    Deeper after depth (Crowded tokens) (typeSize type tokens).rest := by
  cases tokens with
  | nil => exact inside.elim
  | cons token rest =>
      cases token with
      | leftParen => exact ⟨openedFirst rest, size_arguments_inside inside, Iff.rfl⟩
      | _ => exact deeper_of_inside inside id

theorem name_inside (inside : Inside after depth tokens) :
    Inside after depth (qualifiedName tokens).rest :=
  (qualified_name_alike [] (inside_counts after) inside).ends

theorem actions_inside (inside : Inside after depth tokens) :
    Inside after depth (dropActions tokens) :=
  (drop_actions_alike [] ((inside_counts after).passes depth) inside).ends

theorem target_deeper {found : Parsed Target} (read : target tokens = .ok found)
    (inside : Inside after depth tokens) :
    Deeper after depth (CrowdedReference (.keyword .references :: tokens)) found.rest := by
  unfold target at read
  dsimp only at read
  split at read
  · contradiction
  · cases read
    exact column_list_deeper (name_inside inside)

theorem keys_to_deeper {table : String} {name : Option String} {columns : List String}
    {found : Parsed (List ForeignKey)} (read : keysTo table name columns tokens = .ok found)
    (inside : Inside after depth tokens) :
    Deeper after depth (CrowdedReference (.keyword .references :: tokens)) found.rest := by
  unfold keysTo at read
  dsimp only at read
  split at read
  · contradiction
  · cases read
    exact (column_list_deeper (name_inside inside)).keep fun _ => actions_inside

theorem not_crowded_reference {tokens : List Token}
    (other : ∀ rest, tokens = .keyword .references :: rest → False) : ¬ CrowdedReference tokens := by
  intro crowded
  unfold CrowdedReference at crowded
  split at crowded
  · exact other _ rfl
  · exact crowded

theorem key_constraint_deeper {table : String} {name : Option String}
    {found : Parsed (List ForeignKey)} (read : keyConstraint table name tokens = .ok found)
    (inside : Inside after depth tokens) :
    Deeper after depth (CrowdedConstraint tokens) found.rest := by
  unfold keyConstraint at read
  split at read
  · next rest =>
    have listed := column_list_deeper (inside_plain (by simp) inside)
    dsimp only at read
    refine listed.append fun deep inside => ?_
    split at read
    · next later references =>
      rw [references] at inside ⊢
      exact keys_to_deeper read (inside_plain (by simp) inside)
    · next other =>
      cases read
      exact deeper_of_inside inside (not_crowded_reference other)
  · next other =>
    cases read
    refine deeper_of_inside inside fun crowded => ?_
    unfold CrowdedConstraint at crowded
    split at crowded
    · exact other _ rfl
    · exact crowded

theorem clause_deeper {table : String} {reading : ColumnReading} {token : Token}
    {found : Parsed ColumnReading} (goesOn : endsColumn token = false)
    (read : reading.clause table token rest = .ok found)
    (inside : Inside after depth (token :: rest)) :
    Deeper after depth (CrowdedReference (token :: rest)) found.rest := by
  by_cases reference : token = .keyword .references
  · subst reference
    rw [ColumnReading.clause] at read
    split at read
    · contradiction
    · next referred =>
      cases read
      exact (target_deeper referred (inside_plain (by simp) inside)).keep fun _ => actions_inside
  · have alike := other_clause_alike [] (inside_counts after) (fun _ => inside_plain (by simp)) inside
      goesOn reference table reading
    rw [read] at alike
    refine deeper_of_inside alike.2 (not_crowded_reference ?_)
    rintro later ⟨⟩
    exact reference rfl

theorem ColumnReading.loses_count_step {table : String} {reading : ColumnReading} {token : Token}
    {found : Parsed ColumnReading} (goesOn : endsColumn token = false)
    (step : reading.clause table token rest = .ok found) :
    reading.LosesCount table (token :: rest) ↔
      CrowdedReference (token :: rest) ∨ found.value.LosesCount table found.rest := by
  constructor
  · rintro (crowded | ⟨-, step', loses⟩)
    · exact .inl crowded
    · cases step.symm.trans step'
      exact .inr loses
  · rintro (crowded | loses)
    · exact .here crowded
    · exact .later goesOn step loses

theorem clauses_deeper {table : String} {reading : ColumnReading} {found : Parsed ColumnReading}
    (read : reading.clauses table tokens = .ok found) (inside : Inside after depth tokens) :
    Deeper after depth (reading.LosesCount table tokens) found.rest := by
  fun_induction ColumnReading.clauses table reading tokens generalizing depth with
  | case1 => exact inside.elim
  | case2 reading token rest ends =>
      cases read
      refine deeper_of_inside inside ?_
      rintro (crowded | ⟨goesOn, -, -⟩)
      · cases token with
        | keyword word => contradiction
        | _ => exact crowded
      · exact absurd ends (by simp [goesOn])
  | case3 => contradiction
  | case4 reading token rest goesOn next step ih =>
      have goesOn : endsColumn token = false := by simpa using goesOn
      have deeper := (clause_deeper goesOn step inside).append fun _ within => ih read within
      rwa [← ColumnReading.loses_count_step goesOn step] at deeper

theorem item_end_inside (inside : Inside after depth tokens) :
    Inside after depth (fromItemEnd 0 tokens) :=
  (from_item_end_alike [] (inside_counts after) depth 0 (fun _ => inside_plain (by simp)) inside).ends

theorem definition_deeper {table name : String} {found : Parsed (Option ColumnReading)}
    (read : columnDefinition table name tokens = .ok found) (inside : Inside after depth tokens) :
    Deeper after depth (DefinitionLosesCount table name tokens) found.rest := by
  unfold columnDefinition at read
  split at read
  · next typeName rest =>
    have sized := type_size_deeper (lowercase typeName) (inside_plain (by simp) inside)
    dsimp only at read
    refine sized.append fun deep within => ?_
    split at read
    · contradiction
    · next clauses =>
      cases read
      exact clauses_deeper clauses within
  · next other =>
    cases read
    refine deeper_of_inside (item_end_inside inside) fun loses => ?_
    unfold DefinitionLosesCount at loses
    split at loses
    · exact other _ _ rfl
    · exact loses

theorem item_deeper {reading : TableReading} {token : Token} {found : Parsed TableReading}
    (goesOn : token ≠ .rightParen) (read : reading.item token rest = .ok found)
    (inside : Inside after depth (token :: rest)) :
    Deeper after depth (reading.ItemLosesCount (token :: rest)) found.rest := by
  have counts := inside_counts after
  have others (plain : beginsPlainItem token = true) : Inside after depth found.rest := by
    have alike := plain_item_alike [] counts (fun _ => inside_plain (by simp)) inside plain reading
    rw [read] at alike
    exact alike.2
  cases token with
  | rightParen => exact absurd rfl goesOn
  | leftParen =>
      cases read
      exact ⟨1, inside, iff_of_true Nat.one_pos trivial⟩
  | identifier name =>
      have further : Inside after depth rest := inside
      rw [TableReading.item] at read
      split at read
      · contradiction
      · next definition =>
        cases read
        exact definition_deeper definition further
  | keyword word =>
      have further : Inside after depth rest := inside
      cases word with
      | primary =>
          cases read
          have word := (drop_keyword_alike [] (counts.passes depth) further .key).ends
          exact column_list_deeper (drop_identifiers_alike [] counts word).ends
      | foreign =>
          rw [TableReading.item] at read
          split at read
          · contradiction
          · next constraint =>
            cases read
            exact key_constraint_deeper constraint further
      | _ => exact deeper_of_inside (others rfl) id
  | _ => exact deeper_of_inside (others rfl) id

end Deeper

theorem TableReading.loses_count_step {reading : TableReading} {token : Token} {rest : List Token}
    {found : Parsed TableReading} (goesOn : token ≠ .rightParen)
    (step : reading.item token rest = .ok found) :
    reading.LosesCount (token :: rest) ↔
      reading.ItemLosesCount (token :: rest) ∨ found.value.LosesCount found.rest := by
  constructor
  · rintro (here | ⟨-, step', loses⟩)
    · exact .inl here
    · cases step.symm.trans step'
      exact .inr loses
  · rintro (here | loses)
    · exact .here here
    · exact .later goesOn step loses

/-- The items of a body end with the body, or inside it if some group around them was not counted. -/
theorem items_end {reading : TableReading} {tokens after : List Token} {depth : Nat}
    {found : Parsed TableReading} (read : reading.items tokens = .ok found)
    (inside : Inside after depth tokens) :
    (found.rest = after ∧ depth = 0 ∧ ¬ reading.LosesCount tokens) ∨
      (∃ deep, Inside after deep found.rest) ∧ (0 < depth ∨ reading.LosesCount tokens) := by
  fun_induction TableReading.items reading tokens generalizing depth with
  | case1 => exact inside.elim
  | case2 reading rest =>
      cases read
      cases depth with
      | zero =>
          refine .inl ⟨inside, rfl, ?_⟩
          rintro (here | ⟨goesOn, -, -⟩)
          · exact here
          · exact goesOn rfl
      | succ depth => exact .inr ⟨⟨depth, inside⟩, .inl (Nat.succ_pos depth)⟩
  | case3 => contradiction
  | case4 reading token rest goesOn next step ih =>
      obtain ⟨extra, within, same⟩ := item_deeper goesOn step inside
      rw [TableReading.loses_count_step goesOn step, ← same]
      rcases ih read within with ⟨ended, shallow, counted⟩ | ⟨inside, lost⟩
      · refine .inl ⟨ended, by omega, ?_⟩
        rintro (deeper | loses)
        · omega
        · exact counted loses
      · refine .inr ⟨inside, ?_⟩
        rcases lost with deeper | loses
        · omega
        · exact .inr (.inr loses)

/-- A statement whose groups are all closed closes the group of its body. -/
theorem body_of_balanced (front : List Token) {body : List Token}
    (balanced : Balanced (front ++ .leftParen :: body)) :
    ∃ inside after, body = inside ++ .rightParen :: after ∧ Inside after 0 body ∧
      Balanced inside := by
  have bound := balanced.opened front (List.prefix_append _ _)
  have count := balanced.closed
  rw [List.count_append, List.count_append, List.count_cons_self,
    List.count_cons_of_ne (by decide)] at count
  have unclosed : body.count .leftParen + 0 < body.count .rightParen := by omega
  obtain ⟨after, isInside⟩ := exists_inside unclosed
  obtain ⟨inside, rfl, opened, closed⟩ := balance_of_inside isInside
  refine ⟨inside, after, rfl, isInside, fun member => balanced.oneStatement ?_, ?_, ?_⟩
  · simp [member]
  · simpa using opened
  · simpa using closed

/-- In a table definition whose groups are all closed, the items of the body are read up to its own
parenthesis if count is kept. Otherwise the reading ends in front of some last part of the body, of
which nothing is read. -/
theorem body_read_unless_count_is_lost {tokens body : List Token} {name : String}
    (balanced : Balanced (.keyword .create :: .keyword .table :: tokens))
    (entered : qualifiedName (dropExistenceTest tokens) = ⟨some name, .leftParen :: body⟩)
    (later : List Token) :
    ∃ inside after, body = inside ++ .rightParen :: after ∧ Balanced inside ∧
      ∀ found, TableReading.items { name } (body ++ later) = .ok found →
        (¬ TableReading.LosesCount { name } (body ++ later) → found.rest = after ++ later) ∧
          (TableReading.LosesCount { name } (body ++ later) →
            ∃ lost, lost <:+ inside ∧ found.rest = lost ++ .rightParen :: (after ++ later)) := by
  have named := (qualifiedName_suffix _).trans (dropExistenceTest_suffix tokens)
  rw [entered] at named
  obtain ⟨front, rfl⟩ := named
  obtain ⟨inside, after, rfl, isInside, within⟩ :=
    body_of_balanced (.keyword .create :: .keyword .table :: front) balanced
  refine ⟨inside, after, rfl, within, fun found read => ?_⟩
  rcases items_end read (inside_append isInside later) with ⟨ended, -, counted⟩ | ⟨⟨_, early⟩, lost⟩
  · exact ⟨fun _ => ended, fun loses => absurd loses counted⟩
  · have lost := lost.resolve_left (Nat.lt_irrefl 0)
    refine ⟨fun counted => absurd lost counted, fun _ => ?_⟩
    obtain ⟨left, rest, -, -⟩ := balance_of_inside early
    have suffix := TableReading.items_suffix read
    rw [rest, List.append_assoc, List.cons_append] at suffix
    exact ⟨left, List.suffix_append_self_iff.mp suffix, rest⟩

/-- The body of a table in which groups lie in a group, in places where they are counted, and the
parenthesis that closes it. -/
def nestedBody : List Token :=
  [.identifier "a", .identifier "decimal", .leftParen, .number "8", .comma, .number "2", .rightParen,
    .keyword .check, .leftParen, .leftParen, .identifier "a", .rightParen, .rightParen, .comma,
    .keyword .primary, .keyword .key, .leftParen, .identifier "a", .rightParen, .comma,
    .identifier "b", .identifier "int", .rightParen]

theorem nested_body_read_to_own_parenthesis :
    Balanced (.keyword .create :: .keyword .table :: .identifier "t" :: .leftParen :: nestedBody) ∧
      ∃ found, TableReading.items { name := "t" } (nestedBody ++ [Token.semicolon]) = .ok found ∧
        found.value.columns.map Column.name = ["a", "b"] ∧
        ¬ TableReading.LosesCount { name := "t" } (nestedBody ++ [Token.semicolon]) ∧
        found.rest = [Token.semicolon] := by
  have balanced : Balanced
      (.keyword .create :: .keyword .table :: .identifier "t" :: .leftParen :: nestedBody) := by
    decide +kernel
  have decimal : lowercase "decimal" = "decimal" := by decide
  have int : lowercase "int" = "int" := by decide
  have read : ∃ found,
      TableReading.items { name := "t" } (nestedBody ++ [Token.semicolon]) = .ok found ∧
        found.value.columns.map Column.name = ["a", "b"] ∧ found.rest = [Token.semicolon] := by
    simp [nestedBody, TableReading.items_cons, TableReading.item, columnDefinition, typeSize,
      sizeArguments, decimal, int, ColumnReading.clauses_cons, ColumnReading.clause, dropGroup,
      afterGroup, endsColumn, Except.bind, TableReading.addColumn, dropKeyword, columnList,
      columnNames, Token.isIdentifier]
  obtain ⟨found, read, names, rest⟩ := read
  obtain ⟨inside, after, -, -, reads⟩ := body_read_unless_count_is_lost balanced rfl [.semicolon]
  refine ⟨balanced, found, read, names, fun loses => ?_, rest⟩
  obtain ⟨lost, -, early⟩ := (reads found read).2 loses
  rw [rest] at early
  have lengths := congrArg List.length early
  simp only [List.length_append, List.length_cons] at lengths
  omega

/-- A list of columns that holds a group, and a column after it. -/
def overfullScript : List Lexeme :=
  [.keyword .create "CREATE".toList, .blank ' ', .keyword .table "TABLE".toList, .blank ' ',
    .bareName "t".toList, .leftParen, .bareName "a".toList, .blank ' ', .bareName "int".toList,
    .comma, .keyword .primary "PRIMARY".toList, .blank ' ', .keyword .key "KEY".toList, .leftParen,
    .bareName "a".toList, .leftParen, .number false "10".toList none, .rightParen, .rightParen,
    .comma, .bareName "b".toList, .blank ' ', .bareName "int".toList, .rightParen, .semicolon]

def overfullBody : List Token :=
  [.identifier "a", .identifier "int", .comma, .keyword .primary, .keyword .key, .leftParen,
    .identifier "a", .leftParen, .number "10", .rightParen, .rightParen, .comma, .identifier "b",
    .identifier "int", .rightParen]

def overfullDefinition : List Token :=
  .keyword .create :: .keyword .table :: .identifier "t" :: .leftParen :: overfullBody

/-- The reader takes the body to end after the list. -/
theorem column_lost_after_overfull_list :
    let script := "CREATE TABLE t(a int,PRIMARY KEY(a(10)),b int);"
    scan script = overfullDefinition ++ [Token.semicolon] ∧ Balanced overfullDefinition ∧
      (∃ found, TableReading.items { name := "t" } (overfullBody ++ [Token.semicolon]) = .ok found ∧
        found.rest = [.comma, .identifier "b", .identifier "int", .rightParen, .semicolon]) ∧
      schemaOf script = .ok ⟨[⟨"t", [⟨"a", "int", none, false, true, false⟩]⟩], []⟩ := by
  intro script
  have text : script = String.ofList (spelled overfullScript) := by decide +kernel
  have fit : Fit overfullScript := by decide +kernel
  have tokens : tokensOf overfullScript = overfullDefinition ++ [Token.semicolon] := by
    decide +kernel
  have scanned : scan script = overfullDefinition ++ [Token.semicolon] := by
    rw [text, scan, String.toList_ofList, scan_spelled fit, tokens]
  have int : lowercase "int" = "int" := by decide
  have read : TableReading.items { name := "t" } (overfullBody ++ [Token.semicolon]) =
      .ok ⟨{ name := "t", columns := [{ name := "a", type := "int" }], primaryKey := ["a"] },
        [.comma, .identifier "b", .identifier "int", .rightParen, .semicolon]⟩ := by
    simp [overfullBody, TableReading.items_cons, TableReading.item, columnDefinition, typeSize, int,
      ColumnReading.clauses_cons, endsColumn, Except.bind, TableReading.addColumn, dropKeyword,
      columnList, columnNames, Token.isIdentifier]
  refine ⟨scanned, by decide +kernel, ⟨_, read, rfl⟩, ?_⟩
  rw [schemaOf, scanned, overfullDefinition, schemaOfTokens]
  simp [declarations_cons, declarations_nil, statement, tableDefinition, dropExistenceTest,
    qualifiedName, read, Except.bind, Except.map, afterStatement, TableReading.table]
  rfl

end ErDiagram.Script
