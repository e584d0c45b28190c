import ErDiagram.Proofs.Script.Walk.Statements

/-!
# Every loop moves on

A round after which its loop goes on has moved the cursor, and at the end of the tokens no loop goes on.
So a script is read in at most one round of each loop for each of its tokens, whatever the tokens are.
-/

namespace ErDiagram.Script

set_option autoImplicit false

variable {α : Type}

namespace Loop

/-- What a loop keeps from one round to the next. -/
def State : Loop → Type
  | statements => Declarations
  | items => TableReading
  | clauses => ColumnReading
  | arguments => List String
  | columnNames => List String
  | nameParts => String
  | group => Nat
  | _ => Unit

/-- What a loop has found when it ends. -/
def Value : Loop → Type
  | statements => Declarations
  | items => TableReading
  | clauses => ColumnReading
  | arguments => List String
  | columnNames => List String
  | nameParts => Option String
  | _ => Unit

/-- The loop by its rounds, where the clauses are those of a column of the table. -/
def body (table : String) : (loop : Loop) → LoopBody loop.State loop.Value
  | statements => Walk.statementBody
  | items => Walk.itemBody
  | keyWords => Walk.whileBody .keyWords Token.isIdentifier
  | clauses => Walk.clauseBody table
  | arguments => Walk.argumentBody
  | columnNames => Walk.columnNameBody
  | sortOrders => Walk.whileBody .sortOrders isSortOrder
  | nameParts => Walk.nameBody
  | actions => Walk.actionBody
  | group => Walk.groupBody
  | statementEnd => Walk.whileBody .statementEnd (· != .semicolon)
  | itemEnd => Walk.itemEndBody
  | addition => Walk.whileBody .addition fun token => token != .keyword .add && token != .semicolon

/-- The reader of which the loop is the walk. -/
def read (table : String) :
    (loop : Loop) → loop.State → List Token → Except ScriptError (Parsed loop.Value)
  | statements, (declared : Declarations), tokens =>
    (declarations tokens).map fun later => ⟨(declared ++ later : Declarations), []⟩
  | items, reading, tokens => TableReading.items reading tokens
  | keyWords, _, tokens => .ok ⟨(), tokens.dropWhile Token.isIdentifier⟩
  | clauses, reading, tokens => ColumnReading.clauses table reading tokens
  | arguments, (before : List String), tokens =>
    .ok ⟨before ++ (sizeArguments tokens).value, (sizeArguments tokens).rest⟩
  | columnNames, (before : List String), tokens =>
    let names := Script.columnNames false tokens
    .ok ⟨before ++ names.value, names.rest⟩
  | sortOrders, _, tokens => .ok ⟨(), tokens.dropWhile isSortOrder⟩
  | nameParts, name, tokens => .ok (qualifiedName (.identifier name :: tokens))
  | actions, _, tokens => .ok ⟨(), dropActions tokens⟩
  | group, .zero, tokens => .ok ⟨(), tokens⟩
  | group, .succ depth, tokens => .ok ⟨(), afterGroup depth tokens⟩
  | statementEnd, _, tokens => .ok ⟨(), tokens.dropWhile (· != .semicolon)⟩
  | itemEnd, _, tokens => .ok ⟨(), fromItemEnd 0 tokens⟩
  | addition, _, tokens =>
    .ok ⟨(), tokens.dropWhile fun token => token != .keyword .add && token != .semicolon⟩

theorem parsed_walk (table : String) (loop : Loop) (state : loop.State) (tokens : List Token) :
    ((loop.body table).walk state).parsed tokens = loop.read table state tokens := by
  cases loop with
  | statements => exact Walk.parsed_statements state tokens
  | items => exact Walk.parsed_items state tokens
  | keyWords => exact Walk.parsed_skip_while _ _ tokens
  | clauses => exact Walk.parsed_clauses table state tokens
  | arguments => exact Walk.parsed_arguments state tokens
  | columnNames => exact Walk.parsed_column_names state tokens
  | sortOrders => exact Walk.parsed_skip_while _ _ tokens
  | nameParts => exact Walk.parsed_read_name (.identifier state :: tokens)
  | actions => exact Walk.parsed_skip_actions tokens
  | group =>
      cases state with
      | zero => exact LoopBody.parsed_stops rfl
      | succ depth => exact Walk.parsed_after_group depth tokens
  | statementEnd => exact Walk.parsed_skip_while _ _ tokens
  | itemEnd => exact Walk.parsed_skip_item tokens
  | addition => exact Walk.parsed_skip_while _ _ tokens

theorem rank_lt (loop : Loop) : loop.rank < 5 := by
  cases loop <;> decide

theorem body_loop (table : String) (loop : Loop) : (loop.body table).loop = loop := by
  cases loop <;> rfl

theorem within_round (table : String) (loop : Loop) (state : loop.State) :
    ((loop.body table).round state).Within loop.rank 0 := by
  cases loop with
  | statements => exact Walk.within_statement_round (by decide) state
  | items => exact Walk.within_item_round (by decide) state
  | keyWords => exact Walk.within_while_round _ state
  | clauses => exact Walk.within_clause_round (by decide) table state
  | arguments => exact Walk.within_argument_round state
  | columnNames => exact Walk.within_column_name_round (by decide) state
  | sortOrders => exact Walk.within_while_round _ state
  | nameParts => exact Walk.within_name_round state
  | actions => exact Walk.within_action_round state
  | group => exact Walk.within_group_round state
  | statementEnd => exact Walk.within_while_round _ state
  | itemEnd => exact Walk.within_item_end_round (by decide) state
  | addition => exact Walk.within_while_round _ state

theorem within (table : String) (loop : Loop) (state : loop.State) :
    ((loop.body table).walk state).Within 5 1 := by
  have own := body_loop table loop
  refine LoopBody.within_owed (own.symm ▸ loop.rank_lt) (fun state => ?_) state
  rw [own]
  exact within_round table loop state

end Loop

theorem Walk.value_of_parsed {walk : Walk α} {tokens rest : List Token} {value : α}
    (read : walk.parsed tokens = .ok ⟨value, rest⟩) :
    (walk.run tokens).value = .ok value ∧ (walk.run tokens).rest = rest := by
  rw [parsed] at read
  cases found : (walk.run tokens).value with
  | error fault =>
      rw [found] at read
      contradiction
  | ok earlier =>
      rw [found] at read
      cases read
      exact ⟨rfl, rfl⟩

/-- A loop only goes on from a token, and then it has moved past that token. -/
theorem LoopBody.goes_forward {σ : Type} (body : LoopBody σ α) {state next : σ}
    {tokens rest : List Token} (round : (body.round state).parsed tokens = .ok ⟨.goOn next, rest⟩) :
    tokens ≠ [] ∧ rest <:+ tokens ∧ rest.length < tokens.length := by
  obtain ⟨goesOn, left⟩ := Walk.value_of_parsed round
  have moves : rest.length < tokens.length := left ▸ body.forward state tokens next goesOn
  refine ⟨?_, left ▸ (body.round state).ahead tokens, moves⟩
  rintro rfl
  exact Nat.not_lt_zero _ moves

/-- The parts of a script that have a reader, by what the reader finds. -/
inductive Part : Type → Type 1 where
  | identifier : Part (Option String)
  | existenceTest : Part Unit
  | tableName : Part (Option String)
  | columns : Part (List String)
  | group : Part Unit
  | statementEnd : Part Unit
  | itemEnd : Part Unit
  | actions : Part Unit
  | defaultValue : Part Unit
  | size (type : String) : Part (Option TypeSize)
  | reference : Part Target
  | constraint (table : String) (name : Option String) : Part (List ForeignKey)
  | column (table : String) : Part (Option ColumnReading)
  | definition : Part Declarations
  | change : Part Declarations
  | statement : Part Declarations
  | script : Part Declarations

namespace Part

def walk : Part α → Walk α
  | identifier => Walk.takeIdentifier
  | existenceTest => Walk.skip dropExistenceTest dropExistenceTest_suffix
  | tableName => Walk.readName
  | columns => Walk.readColumns
  | group => Walk.skipGroup
  | statementEnd => Walk.skipStatement
  | itemEnd => Walk.skipItem
  | actions => Walk.skipActions
  | defaultValue => Walk.skipDefault
  | size type => Walk.readSize type
  | reference => Walk.readTarget
  | constraint table name => Walk.readConstraint table name
  | column table => Walk.readColumn table
  | definition => Walk.readDefinition
  | change => Walk.readChange
  | statement => Walk.readStatement
  | script => Walk.readScript

/-- The reader of the part. A constraint and a change are read from their first word on. -/
def read : Part α → List Token → Except ScriptError (Parsed α)
  | identifier, tokens => .ok (identifier? tokens)
  | existenceTest, tokens => .ok ⟨(), dropExistenceTest tokens⟩
  | tableName, tokens => .ok (qualifiedName tokens)
  | columns, tokens => .ok (columnList tokens)
  | group, tokens => .ok ⟨(), dropGroup tokens⟩
  | statementEnd, tokens => .ok ⟨(), afterStatement tokens⟩
  | itemEnd, tokens => .ok ⟨(), fromItemEnd 0 tokens⟩
  | actions, tokens => .ok ⟨(), dropActions tokens⟩
  | defaultValue, tokens => .ok ⟨(), dropDefault tokens⟩
  | size type, tokens => .ok (typeSize type tokens)
  | reference, tokens => target tokens
  | constraint table name, tokens => keyConstraint table name tokens.tail
  | column table, .identifier name :: rest => columnDefinition table name rest
  | column _, tokens => .ok ⟨none, tokens⟩
  | definition, tokens => tableDefinition tokens
  | change, tokens => tableChange tokens.tail
  | statement, token :: rest => Script.statement token rest
  | statement, [] => .ok ⟨{}, []⟩
  | script, tokens => (declarations tokens).map (⟨·, []⟩)

theorem parsed_walk (part : Part α) (tokens : List Token) :
    part.walk.parsed tokens = part.read tokens := by
  cases part with
  | identifier => rfl
  | existenceTest => rfl
  | tableName => exact Walk.parsed_read_name tokens
  | columns => exact Walk.parsed_read_columns tokens
  | group => exact Walk.parsed_skip_group tokens
  | statementEnd => exact Walk.parsed_skip_statement tokens
  | itemEnd => exact Walk.parsed_skip_item tokens
  | actions => exact Walk.parsed_skip_actions tokens
  | defaultValue => exact Walk.parsed_skip_default tokens
  | size type => exact Walk.parsed_read_size type tokens
  | reference => exact Walk.parsed_read_target tokens
  | constraint table name => exact Walk.parsed_read_constraint table name tokens
  | column table =>
      cases tokens with
      | nil => rfl
      | cons token rest =>
          cases token with
          | identifier name => exact Walk.parsed_read_column table name rest
          | _ => rfl
  | definition => exact Walk.parsed_read_definition tokens
  | change => exact Walk.parsed_read_change tokens
  | statement =>
      cases tokens with
      | nil => rfl
      | cons token rest => exact Walk.parsed_read_statement token rest
  | script => exact Walk.parsed_read_script tokens

theorem within (part : Part α) : part.walk.Within 5 0 := by
  cases part with
  | identifier => exact Walk.within_take_identifier
  | existenceTest => exact Walk.within_skip _ _
  | tableName => exact Walk.within_read_name (by decide)
  | columns => exact Walk.within_read_columns (by decide)
  | group => exact Walk.within_skip_group (by decide)
  | statementEnd => exact Walk.within_skip_statement (by decide)
  | itemEnd => exact Walk.within_skip_item (by decide)
  | actions => exact Walk.within_skip_actions (by decide)
  | defaultValue => exact Walk.within_skip_default (by decide)
  | size type => exact Walk.within_read_size (by decide) type
  | reference => exact Walk.within_read_target (by decide)
  | constraint table name => exact Walk.within_read_constraint (by decide) table name
  | column table => exact Walk.within_read_column (by decide) table
  | definition => exact Walk.within_read_definition (by decide)
  | change => exact Walk.within_read_change (by decide)
  | statement => exact Walk.within_read_statement (by decide)
  | script => exact Walk.within_read_script (by decide)

end Part

theorem schema_of_walk (tokens : List Token) :
    schemaOfTokens tokens = (Walk.readScript.run tokens).value.map Declarations.schema := by
  have values (read : Except ScriptError Declarations) (rest : List Token) :
      (read.map fun declared => (⟨declared, rest⟩ : Parsed Declarations)).map Parsed.value = read := by
    cases read <;> rfl
  have same := congrArg (Except.map Parsed.value) (Walk.parsed_read_script tokens)
  rw [Walk.parsed, values, values] at same
  rw [schemaOfTokens, same]

/-- Every loop moves on, in any state and from any place, so that a script is read in at most one round of
each loop for each of its tokens. A loop only goes on from a token, and has then moved past it. Until it
ends it makes at most one round of each loop, itself included, for each token that it passes over, and one
more for the end. Every reader makes at most one for each token that it passes over. Neither a loop nor a
reader moves back, whether or not it fails. -/
theorem every_loop_moves_on :
    (∀ (table : String) (loop : Loop) (state next : loop.State) (tokens rest : List Token),
      ((loop.body table).round state).parsed tokens = .ok ⟨.goOn next, rest⟩ →
        tokens ≠ [] ∧ rest <:+ tokens ∧ rest.length < tokens.length) ∧
    (∀ (table : String) (loop : Loop) (state : loop.State) (tokens : List Token),
      let walk := (loop.body table).walk state
      let trail := walk.run tokens
      walk.parsed tokens = loop.read table state tokens ∧ trail.rest <:+ tokens ∧
        ∀ made : Loop, trail.rounds.count made + trail.rest.length ≤ tokens.length + 1) ∧
    (∀ {α : Type} (part : Part α) (tokens : List Token),
      let trail := part.walk.run tokens
      part.walk.parsed tokens = part.read tokens ∧ trail.rest <:+ tokens ∧
        ∀ made : Loop, trail.rounds.count made + trail.rest.length ≤ tokens.length) ∧
    ∀ tokens : List Token,
      let trail := Walk.readScript.run tokens
      schemaOfTokens tokens = trail.value.map Declarations.schema ∧
        ∀ made : Loop, trail.rounds.count made ≤ tokens.length := by
  refine ⟨?_, ?_, ?_, ?_⟩
  · intro table loop state next tokens rest round
    exact (loop.body table).goes_forward round
  · intro table loop state tokens
    exact ⟨loop.parsed_walk table state tokens, Walk.ahead _ tokens,
      (loop.within table state).paid tokens⟩
  · intro α part tokens
    exact ⟨part.parsed_walk tokens, part.walk.ahead tokens, part.within.paid tokens⟩
  · intro tokens
    refine ⟨schema_of_walk tokens, fun made => ?_⟩
    have paid := Part.script.within.paid tokens made
    exact Nat.le_of_add_right_le paid

/-- A key that is never closed takes the body of a table to the end of the script. -/
theorem unclosed_key_moves_on :
    let reading : TableReading := { name := "orders" }
    let tokens : List Token := [.keyword .key, .leftParen, .identifier "id"]
    ((Loop.items.body "orders").round reading).parsed tokens = .ok ⟨.goOn reading, []⟩ ∧
      tokens ≠ [] ∧ [] <:+ tokens ∧ 0 < tokens.length := by
  intro reading tokens
  have round : ((Loop.items.body "orders").round reading).parsed tokens = .ok ⟨.goOn reading, []⟩ :=
    Walk.parsed_item_round reading (by decide) _
  exact ⟨round, every_loop_moves_on.1 "orders" .items reading reading tokens [] round⟩

end ErDiagram.Script
