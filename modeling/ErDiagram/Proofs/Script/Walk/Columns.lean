import ErDiagram.Proofs.Script.Walk.Tokens

/-!
# Walks over references and columns

The readers of a reference and of a column, as walks. Most clauses of a column leave it to another walk to
move the cursor. Where that walk need not move, the clause is only read at a token that it passes over.
-/

namespace ErDiagram.Script

set_option autoImplicit false

open Text

namespace Walk

variable {rank : Nat}

def readTarget : Walk Target := do
  match ← readName with
  | none => missingTable
  | some table =>
    let columns ← readColumns
    pure ⟨table, columns.head?.getD "id"⟩

theorem parsed_read_target (tokens : List Token) : readTarget.parsed tokens = target tokens := by
  rw [readTarget, parsed_then (parsed_read_name tokens), target]
  cases (qualifiedName tokens).value with
  | none => rfl
  | some table => exact parsed_then (parsed_read_columns _) _

theorem within_read_target (deep : 1 < rank) : readTarget.Within rank 0 := by
  refine (within_read_name (Nat.zero_lt_of_lt deep)).bind fun name => ?_
  cases name with
  | none => exact within_missing_table
  | some name => exact (within_read_columns deep).then_pure _

def readKeys (table : String) (name : Option String) (columns : List String) :
    Walk (List ForeignKey) := do
  if (← next?) = some (.keyword .references) then
    advance
    match ← readName with
    | none => missingTable
    | some refTable =>
      let refColumns ← readColumns
      skipActions
      let key (column refColumn : String) : ForeignKey :=
        { name := name.getD (defaultKeyName table refTable), table, column, refTable, refColumn }
      pure (List.zipWith key columns refColumns)
  else pure []

theorem parsed_read_keys (table : String) (name : Option String) (columns : List String)
    (tokens : List Token) :
    (readKeys table name columns).parsed tokens =
      match tokens with
      | .keyword .references :: later => keysTo table name columns later
      | later => .ok ⟨[], later⟩ := by
  split
  · next later =>
    rw [readKeys, parsed_next_bind, List.head?_cons, if_pos rfl, parsed_advance_bind, List.tail_cons,
      parsed_then (parsed_read_name later), keysTo]
    cases (qualifiedName later).value with
    | none => rfl
    | some refTable =>
        exact (parsed_then (parsed_read_columns _) _).trans (parsed_then (parsed_skip_actions _) _)
  · next noReference =>
    have other : tokens.head? ≠ some (.keyword .references) := by
      intro begins
      obtain ⟨later, rfl⟩ := List.head?_eq_some_iff.mp begins
      exact noReference later rfl
    rw [readKeys, parsed_next_bind, if_neg other, parsed_pure]

theorem within_read_keys (deep : 1 < rank) (table : String) (name : Option String)
    (columns : List String) : (readKeys table name columns).Within rank 0 := by
  have shallow := Nat.zero_lt_of_lt deep
  refine within_next.bind fun token => within_ite (within_advance.bind fun _ => ?_) (within_pure _)
  refine (within_read_name shallow).bind fun refName => ?_
  cases refName with
  | none => exact within_missing_table
  | some refName =>
      exact (within_read_columns deep).bind fun _ =>
        (within_skip_actions shallow).then_pure _

def readConstraint (table : String) (name : Option String) : Walk (List ForeignKey) := do
  advance
  if (← next?) = some (.keyword .key) then
    advance
    let columns ← readColumns
    readKeys table name columns
  else pure []

theorem parsed_read_constraint (table : String) (name : Option String) (tokens : List Token) :
    (readConstraint table name).parsed tokens = keyConstraint table name tokens.tail := by
  rw [readConstraint, parsed_advance_bind]
  cases tokens.tail with
  | nil => rfl
  | cons token rest =>
      cases token with
      | keyword word =>
          cases word with
          | key => exact (parsed_then (parsed_read_columns rest) _).trans (parsed_read_keys _ _ _ _)
          | _ => rfl
      | _ => rfl

theorem read_constraint_moves (table : String) (name : Option String) (token : Token)
    (rest : List Token) : (readConstraint table name).Moves (token :: rest) :=
  bind_moves (advance_moves token rest) _

theorem within_read_constraint (deep : 1 < rank) (table : String) (name : Option String) :
    (readConstraint table name).Within rank 0 := by
  refine within_advance.bind fun _ => within_next.bind fun token => within_ite ?_ (within_pure _)
  exact within_advance.bind fun _ => (within_read_columns deep).bind fun columns =>
    within_read_keys deep table name columns

def argumentRound (arguments : List String) : Walk (Round (List String) (List String)) := do
  match ← next? with
  | none => pure (.leave arguments)
  | some .rightParen =>
    advance
    pure (.leave arguments)
  | some (.number digits) =>
    advance
    pure (.goOn (arguments ++ [digits]))
  | some (.identifier name) =>
    advance
    pure (.goOn (arguments ++ [lowercase name]))
  | some _ =>
    advance
    pure (.goOn arguments)

theorem argument_forward (arguments : List String) (tokens : List Token) (next : List String)
    (goesOn : ((argumentRound arguments).run tokens).value = .ok (.goOn next)) :
    (argumentRound arguments).Moves tokens := by
  cases tokens with
  | nil => cases goesOn
  | cons token rest => cases token <;> exact next_moves (bind_moves (advance_moves _ rest) _)

def argumentBody : LoopBody (List String) (List String) :=
  ⟨.arguments, argumentRound, argument_forward⟩

theorem parsed_arguments (arguments : List String) (tokens : List Token) :
    (argumentBody.walk arguments).parsed tokens =
      .ok ⟨arguments ++ (sizeArguments tokens).value, (sizeArguments tokens).rest⟩ := by
  induction tokens generalizing arguments with
  | nil =>
      rw [sizeArguments, List.append_nil]
      exact LoopBody.parsed_leaves rfl
  | cons token rest ih =>
      cases token with
      | rightParen =>
          rw [sizeArguments, List.append_nil]
          exact LoopBody.parsed_leaves rfl
      | number digits =>
          have later := ih (arguments ++ [digits])
          rw [List.append_assoc] at later
          exact LoopBody.parsed_goes_on rfl later
      | identifier name =>
          have later := ih (arguments ++ [lowercase name])
          rw [List.append_assoc] at later
          exact LoopBody.parsed_goes_on rfl later
      | _ => exact LoopBody.parsed_goes_on rfl (ih arguments)

def readSize (type : String) : Walk (Option TypeSize) := do
  if (← next?) = some .leftParen then
    advance
    let arguments ← argumentBody.walk []
    pure (sizeOf? type arguments)
  else pure none

theorem parsed_read_size (type : String) (tokens : List Token) :
    (readSize type).parsed tokens = .ok (typeSize type tokens) := by
  cases tokens with
  | nil => rfl
  | cons token rest =>
      cases token with
      | leftParen => exact parsed_then (parsed_arguments [] rest) _
      | _ => rfl

theorem within_argument_round (arguments : List String) : (argumentRound arguments).Within rank 0 := by
  refine within_next.bind fun token => ?_
  split
  · exact within_pure _
  all_goals exact within_advance.then_pure _

theorem within_read_size (deep : 0 < rank) (type : String) : (readSize type).Within rank 0 := by
  have arguments : (argumentBody.walk []).Within rank 1 :=
    LoopBody.within_owed deep within_argument_round []
  exact within_enclosed .leftParen (arguments.then_pure _) (within_pure _)

def skipKey : Walk Unit := skip (dropKeyword .key) (dropKeyword_suffix .key)

theorem within_skip_key : skipKey.Within rank 0 := within_skip _ _

def readReference (table : String) (reading : ColumnReading) : Walk ColumnReading := do
  let target ← readTarget
  skipActions
  let keys := reading.keys ++ [reading.keyTo table target]
  pure { reading with keyName := none, keys }

theorem parsed_read_reference (table : String) (reading : ColumnReading) (tokens : List Token) :
    (readReference table reading).parsed tokens =
      reading.clause table (.keyword .references) tokens := by
  rw [readReference, parsed_bind, parsed_read_target, ColumnReading.clause]
  cases target tokens with
  | error fault => rfl
  | ok found => exact parsed_then (parsed_skip_actions found.rest) _

theorem within_read_reference (deep : 1 < rank) (table : String) (reading : ColumnReading) :
    (readReference table reading).Within rank 0 :=
  (within_read_target deep).bind fun _ =>
    (within_skip_actions (Nat.zero_lt_of_lt deep)).then_pure _

def clauseRound (table : String) (reading : ColumnReading) :
    Walk (Round ColumnReading ColumnReading) := do
  match ← next? with
  | none => pure (.leave reading)
  | some .comma => pure (.leave reading)
  | some .rightParen => pure (.leave reading)
  | some (.keyword .primary) =>
    advance
    skipKey
    pure (.goOn { reading with column.primaryKey := true })
  | some (.keyword .not) =>
    advance
    if (← next?) = some (.keyword .null) then
      advance
      pure (.goOn { reading with column.nullable := false })
    else pure (.goOn reading)
  | some (.keyword .null) =>
    advance
    pure (.goOn { reading with column.nullable := true })
  | some (.keyword .unique) =>
    advance
    skipKey
    pure (.goOn reading)
  | some (.keyword .default) =>
    advance
    skipDefault
    pure (.goOn reading)
  | some (.keyword .references) =>
    advance
    let reading ← readReference table reading
    pure (.goOn reading)
  | some (.keyword .check) =>
    advance
    skipGroup
    pure (.goOn reading)
  | some (.keyword .constraint) =>
    advance
    let name ← takeIdentifier
    pure (.goOn { reading with keyName := name })
  | some (.keyword .on) =>
    skipActions
    pure (.goOn reading)
  | some .leftParen =>
    skipGroup
    pure (.goOn reading)
  | some _ =>
    advance
    pure (.goOn reading)

theorem clause_forward (table : String) (reading : ColumnReading) (tokens : List Token)
    (next : ColumnReading)
    (goesOn : ((clauseRound table reading).run tokens).value = .ok (.goOn next)) :
    (clauseRound table reading).Moves tokens := by
  cases tokens with
  | nil => cases goesOn
  | cons token rest =>
      cases token with
      | comma => cases goesOn
      | rightParen => cases goesOn
      | leftParen => exact next_moves (bind_moves (skip_group_moves rest) _)
      | keyword word =>
          cases word with
          | on => exact next_moves (bind_moves (skip_actions_moves rest) _)
          | _ => exact next_moves (bind_moves (advance_moves _ rest) _)
      | _ => exact next_moves (bind_moves (advance_moves _ rest) _)

def clauseBody (table : String) : LoopBody ColumnReading ColumnReading :=
  ⟨.clauses, clauseRound table, clause_forward table⟩

theorem parsed_clause_round (table : String) (reading : ColumnReading) {token : Token}
    (goesOn : endsColumn token = false) (rest : List Token) :
    (clauseRound table reading).parsed (token :: rest) =
      (reading.clause table token rest).map fun found => ⟨.goOn found.value, found.rest⟩ := by
  cases token with
  | comma => contradiction
  | rightParen => contradiction
  | leftParen => exact parsed_then (parsed_skip_group _) _
  | keyword word =>
      cases word with
      | not =>
          cases rest with
          | nil => rfl
          | cons next later =>
              cases next with
              | keyword word => cases word <;> rfl
              | _ => rfl
      | default => exact parsed_then (parsed_skip_default rest) _
      | references =>
          refine (parsed_bind (readReference table reading) _ rest).trans ?_
          rw [parsed_read_reference]
          cases reading.clause table (.keyword .references) rest with
          | error fault => rfl
          | ok found => rfl
      | check => exact parsed_then (parsed_skip_group rest) _
      | on =>
          have acted : dropActions (.keyword .on :: rest) = dropActions (dropAction rest) := by
            rw [dropActions, if_pos rfl]
          refine (parsed_then (parsed_skip_actions (.keyword .on :: rest)) _).trans ?_
          rw [acted]
          rfl
      | _ => rfl
  | _ => rfl

theorem parsed_clauses (table : String) (reading : ColumnReading) (tokens : List Token) :
    ((clauseBody table).walk reading).parsed tokens = reading.clauses table tokens := by
  fun_induction ColumnReading.clauses table reading tokens with
  | case1 => exact LoopBody.parsed_leaves rfl
  | case2 reading token rest ends =>
      cases token with
      | comma => exact LoopBody.parsed_leaves rfl
      | rightParen => exact LoopBody.parsed_leaves rfl
      | _ => contradiction
  | case3 reading token rest goesOn fault step =>
      rw [LoopBody.parsed_of_step (parsed_clause_round table reading (by simpa using goesOn) rest), step]
      rfl
  | case4 reading token rest goesOn found step ih =>
      rw [LoopBody.parsed_of_step (parsed_clause_round table reading (by simpa using goesOn) rest), step]
      exact ih

theorem within_clause_round (deep : 1 < rank) (table : String) (reading : ColumnReading) :
    (clauseRound table reading).Within rank 0 := by
  have shallow := Nat.zero_lt_of_lt deep
  have group := within_skip_group shallow
  refine within_next.bind fun token => ?_
  split
  · exact within_pure _
  · exact within_pure _
  · exact within_pure _
  · exact within_advance.bind fun _ => within_skip_key.then_pure _
  · exact within_advance.bind fun _ => within_next.bind fun _ =>
      within_ite (within_advance.then_pure _) (within_pure _)
  · exact within_advance.then_pure _
  · exact within_advance.bind fun _ => within_skip_key.then_pure _
  · exact within_advance.bind fun _ => (within_skip_default shallow).then_pure _
  · exact within_advance.bind fun _ =>
      (within_read_reference deep table reading).then_pure _
  · exact within_advance.bind fun _ => group.then_pure _
  · exact within_advance.bind fun _ => within_take_identifier.then_pure _
  · exact (within_skip_actions shallow).then_pure _
  · exact group.then_pure _
  · exact within_advance.then_pure _

/-- Reads a column from its name on, or nothing if none comes next. -/
def readColumn (table : String) : Walk (Option ColumnReading) := do
  match ← takeIdentifier with
  | none => pure none
  | some name =>
    match ← takeIdentifier with
    | none =>
      skipItem
      pure none
    | some typeName =>
      let type := lowercase typeName
      let size ← readSize type
      let reading ← (clauseBody table).walk { column := { name, type, size } }
      pure (some reading)

theorem parsed_read_column (table name : String) (tokens : List Token) :
    (readColumn table).parsed (.identifier name :: tokens) = columnDefinition table name tokens := by
  cases tokens with
  | nil => exact parsed_then (parsed_skip_item []) _
  | cons token rest =>
      cases token with
      | identifier typeName =>
          refine (parsed_then (parsed_read_size (lowercase typeName) rest) _).trans ?_
          rw [parsed_bind, parsed_clauses, columnDefinition]
          cases ColumnReading.clauses table _ _ with
          | error fault => rfl
          | ok found => rfl
      | _ => exact parsed_then (parsed_skip_item _) _

theorem read_column_moves (table name : String) (rest : List Token) :
    (readColumn table).Moves (.identifier name :: rest) := by
  have named : takeIdentifier.Moves (.identifier name :: rest) := Nat.lt_succ_self _
  exact bind_moves named _

theorem within_read_column (deep : 2 < rank) (table : String) : (readColumn table).Within rank 0 := by
  refine within_named (fun name => ?_) (within_pure _)
  refine within_take_identifier.after fun typeName => ?_
  cases typeName with
  | none => exact ((within_skip_item (by omega)).then_pure _).owing
  | some typeName =>
      refine (within_read_size (by omega) _).after fun size => ?_
      have clauses (reading : ColumnReading) : ((clauseBody table).walk reading).Within rank 1 :=
        LoopBody.within_owed deep (within_clause_round Nat.one_lt_two table) reading
      exact (clauses _).then_pure _

end Walk

end ErDiagram.Script
