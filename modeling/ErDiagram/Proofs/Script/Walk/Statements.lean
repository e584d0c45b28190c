import ErDiagram.Proofs.Script.Walk.Columns

/-!
# Walks over statements

The readers of a table, of a change to one and of a whole script, as walks.
-/

namespace ErDiagram.Script

set_option autoImplicit false

namespace Walk

variable {rank : Nat}

def itemRound (reading : TableReading) : Walk (Round TableReading TableReading) := do
  match ← next? with
  | none => pure (.leave reading)
  | some .rightParen =>
    advance
    pure (.leave reading)
  | some .comma =>
    advance
    pure (.goOn { reading with keyName := none })
  | some (.keyword .constraint) =>
    advance
    let name ← takeIdentifier
    pure (.goOn { reading with keyName := name })
  | some (.keyword .primary) =>
    advance
    skipKey
    skipWhile .keyWords Token.isIdentifier
    let columns ← readColumns
    pure (.goOn { reading with primaryKey := reading.primaryKey ++ columns })
  | some (.keyword .foreign) =>
    let keys ← readConstraint reading.name reading.keyName
    pure (.goOn { reading with keyName := none, keys := reading.keys ++ keys })
  | some (.keyword .unique) =>
    advance
    skipKey
    skipItem
    pure (.goOn reading)
  | some (.keyword .index) =>
    skipItem
    pure (.goOn reading)
  | some (.keyword .key) =>
    skipItem
    pure (.goOn reading)
  | some (.keyword .check) =>
    advance
    skipGroup
    pure (.goOn reading)
  | some (.identifier _) =>
    let column ← readColumn reading.name
    pure (.goOn (reading.addColumn column))
  | some _ =>
    advance
    pure (.goOn reading)

theorem item_forward (reading : TableReading) (tokens : List Token) (next : TableReading)
    (goesOn : ((itemRound reading).run tokens).value = .ok (.goOn next)) :
    (itemRound reading).Moves tokens := by
  cases tokens with
  | nil => cases goesOn
  | cons token rest =>
      cases token with
      | identifier name => exact next_moves (bind_moves (read_column_moves _ name rest) _)
      | keyword word =>
          cases word with
          | foreign => exact next_moves (bind_moves (read_constraint_moves _ _ _ rest) _)
          | index => exact next_moves (bind_moves (skip_item_moves _ rest) _)
          | key => exact next_moves (bind_moves (skip_item_moves _ rest) _)
          | _ => exact next_moves (bind_moves (advance_moves _ rest) _)
      | _ => exact next_moves (bind_moves (advance_moves _ rest) _)

def itemBody : LoopBody TableReading TableReading := ⟨.items, itemRound, item_forward⟩

theorem parsed_item_round (reading : TableReading) {token : Token} (goesOn : token ≠ .rightParen)
    (rest : List Token) :
    (itemRound reading).parsed (token :: rest) =
      (reading.item token rest).map fun found => ⟨.goOn found.value, found.rest⟩ := by
  cases token with
  | rightParen => exact absurd rfl goesOn
  | identifier name =>
      refine (parsed_bind (readColumn reading.name) _ (.identifier name :: rest)).trans ?_
      rw [parsed_read_column, TableReading.item]
      cases columnDefinition reading.name name rest with
      | error fault => rfl
      | ok found => rfl
  | keyword word =>
      cases word with
      | primary =>
          exact (parsed_then (parsed_skip_while _ _ _) _).trans (parsed_then (parsed_read_columns _) _)
      | foreign =>
          refine (parsed_bind (readConstraint reading.name reading.keyName) _
            (.keyword .foreign :: rest)).trans ?_
          rw [parsed_read_constraint, List.tail_cons, TableReading.item]
          cases keyConstraint reading.name reading.keyName rest with
          | error fault => rfl
          | ok found => rfl
      | unique => exact parsed_then (parsed_skip_item _) _
      | index => exact parsed_then (parsed_skip_item _) _
      | key => exact parsed_then (parsed_skip_item _) _
      | check => exact parsed_then (parsed_skip_group rest) _
      | _ => rfl
  | _ => rfl

theorem parsed_items (reading : TableReading) (tokens : List Token) :
    (itemBody.walk reading).parsed tokens = reading.items tokens := by
  fun_induction TableReading.items reading tokens with
  | case1 => exact LoopBody.parsed_leaves rfl
  | case2 => exact LoopBody.parsed_leaves rfl
  | case3 reading token rest goesOn fault step =>
      rw [LoopBody.parsed_of_step (parsed_item_round reading goesOn rest), step]
      rfl
  | case4 reading token rest goesOn found step ih =>
      rw [LoopBody.parsed_of_step (parsed_item_round reading goesOn rest), step]
      exact ih

theorem within_item_round (deep : 2 < rank) (reading : TableReading) :
    (itemRound reading).Within rank 0 := by
  have shallow := Nat.zero_lt_of_lt deep
  have middle := Nat.lt_of_succ_lt deep
  have item := within_skip_item middle
  refine within_next.bind fun token => ?_
  split
  · exact within_pure _
  · exact within_advance.then_pure _
  · exact within_advance.then_pure _
  · exact within_advance.bind fun _ => within_take_identifier.then_pure _
  · exact within_advance.bind fun _ => within_skip_key.bind fun _ =>
      (within_skip_while shallow _).bind fun _ =>
        (within_read_columns middle).then_pure _
  · exact (within_read_constraint middle _ _).then_pure _
  · exact within_advance.bind fun _ => within_skip_key.bind fun _ => item.then_pure _
  · exact item.then_pure _
  · exact item.then_pure _
  · exact within_advance.bind fun _ => (within_skip_group shallow).then_pure _
  · exact (within_read_column deep _).then_pure _
  · exact within_advance.then_pure _

def declareNothing : Walk Declarations := do
  skipStatement
  pure {}

theorem parsed_declare_nothing (tokens : List Token) :
    declareNothing.parsed tokens = .ok ⟨{}, afterStatement tokens⟩ :=
  parsed_then (parsed_skip_statement tokens) _

theorem within_declare_nothing (deep : 0 < rank) : declareNothing.Within rank 0 :=
  (within_skip_statement deep).then_pure _

def readDefinition : Walk Declarations := do
  skip dropExistenceTest dropExistenceTest_suffix
  match ← readName with
  | none => declareNothing
  | some name =>
    if (← next?) = some .leftParen then
      advance
      let reading ← itemBody.walk { name }
      skipStatement
      pure ⟨[reading.table], reading.keys⟩
    else declareNothing

theorem parsed_read_definition (tokens : List Token) :
    readDefinition.parsed tokens = tableDefinition tokens := by
  rw [readDefinition, parsed_skip_bind, parsed_then (parsed_read_name _), tableDefinition]
  obtain ⟨name, rest⟩ := qualifiedName (dropExistenceTest tokens)
  cases name with
  | none => exact parsed_declare_nothing rest
  | some name =>
      cases rest with
      | nil => exact parsed_declare_nothing []
      | cons token rest =>
          cases token with
          | leftParen =>
              refine (parsed_bind (itemBody.walk { name }) _ rest).trans ?_
              rw [parsed_items]
              dsimp only
              cases TableReading.items { name } rest with
              | error fault => rfl
              | ok found => exact parsed_then (parsed_skip_statement found.rest) _
          | _ => exact parsed_declare_nothing _

theorem within_read_definition (deep : 3 < rank) : readDefinition.Within rank 0 := by
  have shallow := Nat.zero_lt_of_lt deep
  refine (within_skip _ _).bind fun _ => (within_read_name shallow).bind fun name => ?_
  cases name with
  | none => exact within_declare_nothing shallow
  | some name =>
      have items : (itemBody.walk { name }).Within rank 1 :=
        LoopBody.within_owed deep (within_item_round (Nat.lt_succ_self 2)) _
      exact within_enclosed .leftParen (items.before fun _ =>
        (within_skip_statement shallow).then_pure _) (within_declare_nothing shallow)

/-- The foreign keys that a change adds to a table, read after the name of the table. -/
def addedKeys (table : String) (tokens : List Token) :
    Except ScriptError (Parsed (List ForeignKey)) :=
  match tokens.dropWhile fun token => token != .keyword .add && token != .semicolon with
  | .keyword .add :: rest =>
    match constraintName rest with
    | ⟨name, .keyword .foreign :: rest⟩ => keyConstraint table name rest
    | ⟨_, rest⟩ => .ok ⟨[], rest⟩
  | rest => .ok ⟨[], rest⟩

def readAdded (table : String) : Walk (List ForeignKey) := do
  skipWhile .addition fun token => token != .keyword .add && token != .semicolon
  if (← next?) = some (.keyword .add) then
    advance
    let name ← ofReader constraintName constraintName_suffix
    if (← next?) = some (.keyword .foreign) then
      readConstraint table name
    else pure []
  else pure []

def readChange : Walk Declarations := do
  advance
  if (← next?) = some (.keyword .table) then
    advance
    skip (dropKeyword .only) (dropKeyword_suffix .only)
    match ← readName with
    | none => declareNothing
    | some table =>
      let keys ← readAdded table
      skipStatement
      pure ⟨[], keys⟩
  else declareNothing

theorem parsed_read_added (table : String) (tokens : List Token) :
    (readAdded table).parsed tokens = addedKeys table tokens := by
  rw [readAdded, parsed_then (parsed_skip_while _ _ tokens), addedKeys]
  cases tokens.dropWhile _ with
  | nil => rfl
  | cons token rest =>
      cases token with
      | keyword word =>
          cases word with
          | add =>
              dsimp only
              rw [parsed_next_bind, List.head?_cons, if_pos rfl, parsed_advance_bind,
                parsed_of_reader_bind, List.tail_cons]
              obtain ⟨name, later⟩ := constraintName rest
              cases later with
              | nil => rfl
              | cons next later =>
                  cases next with
                  | keyword word =>
                      cases word with
                      | foreign => exact parsed_read_constraint table name _
                      | _ => rfl
                  | _ => rfl
          | _ => rfl
      | _ => rfl

theorem table_change_of_added (rest : List Token) :
    tableChange (.keyword .table :: rest) =
      match qualifiedName (dropKeyword .only rest) with
      | ⟨none, rest⟩ => .ok ⟨{}, afterStatement rest⟩
      | ⟨some table, rest⟩ => (addedKeys table rest).map fun found =>
          ⟨⟨[], found.value⟩, afterStatement found.rest⟩ := by
  rw [tableChange]
  obtain ⟨name, later⟩ := qualifiedName (dropKeyword .only rest)
  cases name with
  | none => rfl
  | some table =>
      dsimp only
      rw [addedKeys]
      cases later.dropWhile _ with
      | nil => rfl
      | cons token rest =>
          cases token with
          | keyword word =>
              cases word with
              | add =>
                  dsimp only
                  obtain ⟨name, later⟩ := constraintName rest
                  cases later with
                  | nil => rfl
                  | cons next later =>
                      cases next with
                      | keyword word =>
                          cases word with
                          | foreign =>
                              dsimp only
                              cases keyConstraint table name later <;> rfl
                          | _ => rfl
                      | _ => rfl
              | _ => rfl
          | _ => rfl

theorem parsed_read_change (tokens : List Token) :
    readChange.parsed tokens = tableChange tokens.tail := by
  rw [readChange, parsed_advance_bind, parsed_next_bind]
  split
  · next begins =>
    obtain ⟨rest, here⟩ := List.head?_eq_some_iff.mp begins
    rw [here, parsed_advance_bind, parsed_skip_bind, List.tail_cons,
      parsed_then (parsed_read_name _), table_change_of_added]
    obtain ⟨name, later⟩ := qualifiedName (dropKeyword .only rest)
    cases name with
    | none => exact parsed_declare_nothing later
    | some table =>
        refine (parsed_bind (readAdded table) _ later).trans ?_
        rw [parsed_read_added]
        dsimp only
        cases addedKeys table later with
        | error fault => rfl
        | ok found => exact parsed_then (parsed_skip_statement found.rest) _
  · next other =>
    rw [parsed_declare_nothing, tableChange]
    intro rest begins
    exact other (List.head?_eq_some_iff.mpr ⟨rest, begins⟩)

theorem read_change_moves (token : Token) (rest : List Token) : readChange.Moves (token :: rest) :=
  bind_moves (advance_moves token rest) _

theorem within_read_added (deep : 1 < rank) (table : String) : (readAdded table).Within rank 0 := by
  refine (within_skip_while (Nat.zero_lt_of_lt deep) _).bind fun _ => within_next.bind fun _ => ?_
  refine within_ite (within_advance.bind fun _ => ?_) (within_pure _)
  exact (within_of_reader _ _).bind fun name => within_next.bind fun _ =>
    within_ite (within_read_constraint deep table name) (within_pure _)

theorem within_read_change (deep : 1 < rank) : readChange.Within rank 0 := by
  have shallow := Nat.zero_lt_of_lt deep
  have passed := within_declare_nothing shallow
  refine within_advance.bind fun _ => within_next.bind fun _ => within_ite ?_ passed
  refine within_advance.bind fun _ => (within_skip _ _).bind fun _ => ?_
  refine (within_read_name shallow).bind fun name => ?_
  cases name with
  | none => exact passed
  | some table =>
      exact (within_read_added deep table).bind fun _ =>
        (within_skip_statement shallow).then_pure _

def readStatement : Walk Declarations := do
  match ← next? with
  | some (.keyword .create) =>
    advance
    if (← next?) = some (.keyword .table) then
      advance
      readDefinition
    else declareNothing
  | some (.keyword .alter) => readChange
  | _ =>
    advance
    pure {}

theorem parsed_read_statement (token : Token) (rest : List Token) :
    readStatement.parsed (token :: rest) = statement token rest := by
  cases token with
  | keyword word =>
      cases word with
      | create =>
          by_cases table : rest.head? = some (.keyword .table)
          · obtain ⟨later, rfl⟩ := List.head?_eq_some_iff.mp table
            exact parsed_read_definition later
          · have passed : readStatement.parsed (.keyword .create :: rest) =
                declareNothing.parsed rest := by
              simp [readStatement, table]
            rw [passed, parsed_declare_nothing, statement]
            intro later begins
            exact table (List.head?_eq_some_iff.mpr ⟨later, begins⟩)
      | alter => exact parsed_read_change (.keyword .alter :: rest)
      | _ => rfl
  | _ => rfl

theorem read_statement_moves (token : Token) (rest : List Token) :
    readStatement.Moves (token :: rest) := by
  cases token with
  | keyword word =>
      cases word with
      | alter => exact next_moves (read_change_moves _ rest)
      | _ => exact next_moves (bind_moves (advance_moves _ rest) _)
  | _ => exact next_moves (bind_moves (advance_moves _ rest) _)

theorem within_read_statement (deep : 3 < rank) : readStatement.Within rank 0 := by
  refine within_next.bind fun token => ?_
  split
  · refine within_advance.bind fun _ => within_next.bind fun _ => within_ite ?_ ?_
    · exact within_advance.bind fun _ => within_read_definition deep
    · exact within_declare_nothing (Nat.zero_lt_of_lt deep)
  · exact within_read_change (Nat.lt_of_succ_lt (Nat.lt_of_succ_lt deep))
  · exact within_advance.then_pure _

def statementRound (declared : Declarations) : Walk (Round Declarations Declarations) := do
  match ← next? with
  | none => pure (.stop declared)
  | some _ =>
    let found ← readStatement
    pure (.goOn (declared ++ found))

theorem statement_round_moves (declared : Declarations) (tokens : List Token)
    (begun : ((statementRound declared).run tokens).begun = true) :
    (statementRound declared).Moves tokens := by
  cases tokens with
  | nil => cases begun
  | cons token rest => exact next_moves (bind_moves (read_statement_moves token rest) _)

def statementBody : LoopBody Declarations Declarations :=
  .ofTest .statements statementRound statement_round_moves

theorem parsed_statement_round (declared : Declarations) (token : Token) (rest : List Token) :
    (statementRound declared).parsed (token :: rest) =
      (statement token rest).map fun found => ⟨.goOn (declared ++ found.value), found.rest⟩ := by
  refine (parsed_bind readStatement _ (token :: rest)).trans ?_
  rw [parsed_read_statement]
  cases statement token rest <;> rfl

theorem parsed_statements (declared : Declarations) (tokens : List Token) :
    (statementBody.walk declared).parsed tokens =
      (declarations tokens).map fun found => ⟨declared ++ found, []⟩ := by
  fun_induction declarations tokens generalizing declared with
  | case1 =>
      rw [Except.map, declared_nothing]
      exact LoopBody.parsed_stops rfl
  | case2 token rest fault step =>
      rw [LoopBody.parsed_of_step (parsed_statement_round declared token rest), step]
      rfl
  | case3 token rest found step fault unread ih =>
      rw [LoopBody.parsed_of_step (parsed_statement_round declared token rest), step]
      refine (ih _).trans ?_
      rw [unread]
      rfl
  | case4 token rest found step later read ih =>
      rw [LoopBody.parsed_of_step (parsed_statement_round declared token rest), step]
      refine (ih _).trans ?_
      rw [read, Except.map, Except.map, declared_assoc]

def readScript : Walk Declarations := statementBody.walk {}

theorem parsed_read_script (tokens : List Token) :
    readScript.parsed tokens = (declarations tokens).map (⟨·, []⟩) := by
  refine (parsed_statements {} tokens).trans ?_
  cases declarations tokens with
  | error fault => rfl
  | ok found => rfl

theorem within_statement_round (deep : 3 < rank) (declared : Declarations) :
    (statementRound declared).Within rank 0 := by
  refine within_next.bind fun token => ?_
  split
  · exact within_pure _
  · exact (within_read_statement deep).then_pure _

theorem within_read_script (deep : 4 < rank) : readScript.Within rank 0 := by
  have statements (declared : Declarations) : (statementBody.walk declared).Within rank 0 :=
    LoopBody.within_test deep (within_statement_round (by decide)) declared
  exact statements {}

end Walk

end ErDiagram.Script
