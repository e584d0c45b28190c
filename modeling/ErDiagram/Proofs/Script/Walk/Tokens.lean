import ErDiagram.Proofs.Script.Walk.Rounds

/-!
# Walks over parts and names

The parts of a script that say nothing, the names and the lists of names, as walks. Each loop is told by
its round, with the proof that the round moves the cursor; a walk finds and leaves what the reader does,
and makes at most one round of each loop for a token.
-/

namespace ErDiagram.Script

set_option autoImplicit false

namespace Walk

variable {rank : Nat}

def whileRound (test : Token → Bool) (_ : Unit) : Walk (Round Unit Unit) := do
  match ← next? with
  | none => pure (.stop ())
  | some token =>
    if test token then
      advance
      pure (.goOn ())
    else pure (.stop ())

theorem while_round_moves (test : Token → Bool) (state : Unit) (tokens : List Token)
    (begun : ((whileRound test state).run tokens).begun = true) :
    (whileRound test state).Moves tokens := by
  cases tokens with
  | nil => cases begun
  | cons token rest =>
      by_cases passed : test token = true
      · refine next_moves ?_
        simp only [List.head?_cons, if_pos passed]
        exact bind_moves (advance_moves token rest) _
      · simp [whileRound, passed, Trail.begun] at begun

def whileBody (loop : Loop) (test : Token → Bool) : LoopBody Unit Unit :=
  .ofTest loop (whileRound test) (while_round_moves test)

def skipWhile (loop : Loop) (test : Token → Bool) : Walk Unit := (whileBody loop test).walk ()

theorem parsed_skip_while (loop : Loop) (test : Token → Bool) (tokens : List Token) :
    (skipWhile loop test).parsed tokens = .ok ⟨(), tokens.dropWhile test⟩ := by
  induction tokens with
  | nil => exact LoopBody.parsed_stops rfl
  | cons token rest ih =>
      by_cases passed : test token = true
      · have round : (whileRound test ()).parsed (token :: rest) = .ok ⟨.goOn (), rest⟩ := by
          simp [whileRound, passed]
        rw [List.dropWhile_cons_of_pos passed]
        exact LoopBody.parsed_goes_on round ih
      · have round : (whileRound test ()).parsed (token :: rest) = .ok ⟨.stop (), token :: rest⟩ := by
          simp [whileRound, passed]
        rw [List.dropWhile_cons_of_neg passed]
        exact LoopBody.parsed_stops round

theorem within_while_round (test : Token → Bool) (state : Unit) :
    (whileRound test state).Within rank 0 := by
  refine within_next.bind fun token => ?_
  cases token with
  | none => exact within_pure _
  | some token => exact within_ite (within_advance.then_pure _) (within_pure _)

theorem within_skip_while {loop : Loop} (deep : loop.rank < rank) (test : Token → Bool) :
    (skipWhile loop test).Within rank 0 :=
  LoopBody.within_test deep (within_while_round test) ()

/-- The state is the number of open groups, so the loop stops at none. -/
def groupRound : Nat → Walk (Round Nat Unit)
  | 0 => pure (.stop ())
  | depth + 1 => do
    match ← next? with
    | none => pure (.leave ())
    | some .leftParen =>
      advance
      pure (.goOn (depth + 2))
    | some .rightParen =>
      advance
      pure (.goOn depth)
    | some _ =>
      advance
      pure (.goOn (depth + 1))

theorem group_forward (depth : Nat) (tokens : List Token) (next : Nat)
    (goesOn : ((groupRound depth).run tokens).value = .ok (.goOn next)) :
    (groupRound depth).Moves tokens := by
  cases depth with
  | zero => cases goesOn
  | succ depth =>
      cases tokens with
      | nil => cases goesOn
      | cons token rest => cases token <;> exact next_moves (bind_moves (advance_moves _ rest) _)

def groupBody : LoopBody Nat Unit := ⟨.group, groupRound, group_forward⟩

def skipGroup : Walk Unit := do
  if (← next?) = some .leftParen then
    advance
    groupBody.walk 1

theorem parsed_after_group (depth : Nat) (tokens : List Token) :
    (groupBody.walk (depth + 1)).parsed tokens = .ok ⟨(), afterGroup depth tokens⟩ := by
  induction tokens generalizing depth with
  | nil => exact LoopBody.parsed_leaves rfl
  | cons token rest ih =>
      cases token with
      | leftParen => exact LoopBody.parsed_goes_on rfl (ih (depth + 1))
      | rightParen =>
          cases depth with
          | zero => exact LoopBody.parsed_goes_on rfl (LoopBody.parsed_stops rfl)
          | succ depth => exact LoopBody.parsed_goes_on rfl (ih depth)
      | _ =>
          rw [afterGroup_plain (by simp) (by simp)]
          exact LoopBody.parsed_goes_on rfl (ih depth)

theorem parsed_skip_group (tokens : List Token) :
    skipGroup.parsed tokens = .ok ⟨(), dropGroup tokens⟩ := by
  cases tokens with
  | nil => rfl
  | cons token rest =>
      cases token with
      | leftParen => exact parsed_after_group 0 rest
      | _ => rfl

theorem skip_group_moves (rest : List Token) : skipGroup.Moves (.leftParen :: rest) :=
  next_moves (bind_moves (advance_moves _ rest) _)

theorem within_group_round (depth : Nat) : (groupRound depth).Within rank 0 := by
  cases depth with
  | zero => exact within_pure _
  | succ depth =>
      refine within_next.bind fun token => ?_
      split
      · exact within_pure _
      all_goals exact within_advance.then_pure _

theorem within_skip_group (deep : 0 < rank) : skipGroup.Within rank 0 :=
  within_enclosed .leftParen (LoopBody.within_owed deep within_group_round 1) (within_pure _)

def itemEndRound (_ : Unit) : Walk (Round Unit Unit) := do
  match ← next? with
  | none => pure (.stop ())
  | some .comma => pure (.stop ())
  | some .rightParen => pure (.stop ())
  | some .leftParen =>
    skipGroup
    pure (.goOn ())
  | some _ =>
    advance
    pure (.goOn ())

theorem item_end_round_moves (state : Unit) (tokens : List Token)
    (begun : ((itemEndRound state).run tokens).begun = true) :
    (itemEndRound state).Moves tokens := by
  cases tokens with
  | nil => cases begun
  | cons token rest =>
      cases token with
      | comma => cases begun
      | rightParen => cases begun
      | leftParen => exact next_moves (bind_moves (skip_group_moves rest) _)
      | _ => exact next_moves (bind_moves (advance_moves _ rest) _)

def itemEndBody : LoopBody Unit Unit := .ofTest .itemEnd itemEndRound item_end_round_moves

def skipItem : Walk Unit := itemEndBody.walk ()

theorem from_item_end_in_group (depth : Nat) (tokens : List Token) :
    fromItemEnd (depth + 1) tokens = fromItemEnd 0 (afterGroup depth tokens) := by
  induction tokens generalizing depth with
  | nil => rfl
  | cons token rest ih =>
      cases token with
      | leftParen => exact ih (depth + 1)
      | rightParen =>
          cases depth with
          | zero => rfl
          | succ depth => exact ih depth
      | _ =>
          rw [afterGroup_plain (by simp) (by simp)]
          exact ih depth

theorem parsed_skip_item (tokens : List Token) :
    skipItem.parsed tokens = .ok ⟨(), fromItemEnd 0 tokens⟩ := by
  -- A group is passed over in one round, so the induction is on the number of tokens.
  induction size : tokens.length using Nat.strongRecOn generalizing tokens with
  | ind count ih =>
      cases tokens with
      | nil => exact LoopBody.parsed_stops rfl
      | cons token rest =>
          cases token with
          | comma => exact LoopBody.parsed_stops rfl
          | rightParen => exact LoopBody.parsed_stops rfl
          | leftParen =>
              have shorter : (afterGroup 0 rest).length < count := by
                rw [← size]
                exact Nat.lt_succ_of_le (afterGroup_suffix 0 rest).length_le
              have left : fromItemEnd 0 (.leftParen :: rest) = fromItemEnd 0 (afterGroup 0 rest) :=
                from_item_end_in_group 0 rest
              rw [left]
              exact LoopBody.parsed_goes_on (parsed_then (parsed_skip_group _) _)
                (ih _ shorter (afterGroup 0 rest) rfl)
          | _ =>
              refine LoopBody.parsed_goes_on rfl (ih rest.length ?_ rest rfl)
              rw [← size]
              exact Nat.lt_succ_self _

theorem skip_item_moves (word : Keyword) (rest : List Token) :
    skipItem.Moves (.keyword word :: rest) :=
  LoopBody.walk_moves (next_moves (bind_moves (advance_moves _ rest) _))

theorem within_item_end_round (deep : 0 < rank) (state : Unit) :
    (itemEndRound state).Within rank 0 := by
  refine within_next.bind fun token => ?_
  split
  · exact within_pure _
  · exact within_pure _
  · exact within_pure _
  · exact (within_skip_group deep).then_pure _
  · exact within_advance.then_pure _

theorem within_skip_item (deep : 1 < rank) : skipItem.Within rank 0 := by
  refine LoopBody.within_test deep (fun state => ?_) ()
  exact within_item_end_round Nat.one_pos state

def skipStatement : Walk Unit := do
  skipWhile .statementEnd (· != .semicolon)
  if (← next?) = some .semicolon then
    advance

theorem parsed_skip_statement (tokens : List Token) :
    skipStatement.parsed tokens = .ok ⟨(), afterStatement tokens⟩ := by
  rw [skipStatement, parsed_then (parsed_skip_while _ _ tokens), afterStatement]
  cases left : tokens.dropWhile (· != .semicolon) with
  | nil => rfl
  | cons token rest =>
      have ends : token = .semicolon := by
        have stopped := List.head?_dropWhile_not (· != Token.semicolon) tokens
        rw [left] at stopped
        simpa using stopped
      subst ends
      rfl

theorem within_skip_statement (deep : 0 < rank) : skipStatement.Within rank 0 :=
  (within_skip_while deep _).bind fun _ => within_next.bind fun _ =>
    within_ite within_advance (within_pure _)

theorem led_round_moves {σ α : Type} {token : Token} {later : Walk (Round σ α)} {value : α}
    {tokens : List Token} {round : Walk (Round σ α)}
    (led : round = do
      if (← next?) = some token then
        advance
        later
      else pure (.stop value))
    (begun : (round.run tokens).begun = true) : round.Moves tokens := by
  subst led
  by_cases begins : tokens.head? = some token
  · obtain ⟨rest, rfl⟩ := List.head?_eq_some_iff.mp begins
    refine next_moves ?_
    rw [if_pos begins]
    exact bind_moves (advance_moves token rest) _
  · simp [begins, Trail.begun] at begun

def actionRound (_ : Unit) : Walk (Round Unit Unit) := do
  if (← next?) = some (.keyword .on) then
    advance
    skip dropAction dropAction_suffix
    pure (.goOn ())
  else pure (.stop ())

theorem action_round_moves (state : Unit) (tokens : List Token)
    (begun : ((actionRound state).run tokens).begun = true) : (actionRound state).Moves tokens :=
  led_round_moves rfl begun

def actionBody : LoopBody Unit Unit := .ofTest .actions actionRound action_round_moves

def skipActions : Walk Unit := actionBody.walk ()

theorem parsed_skip_actions (tokens : List Token) :
    skipActions.parsed tokens = .ok ⟨(), dropActions tokens⟩ := by
  fun_induction dropActions tokens with
  | case1 => exact LoopBody.parsed_stops rfl
  | case2 rest ih => exact LoopBody.parsed_goes_on rfl ih
  | case3 token rest other =>
      have round : (actionRound ()).parsed (token :: rest) = .ok ⟨.stop (), token :: rest⟩ := by
        simp [actionRound, other]
      exact LoopBody.parsed_stops round

theorem skip_actions_moves (rest : List Token) : skipActions.Moves (.keyword .on :: rest) :=
  LoopBody.walk_moves (next_moves (bind_moves (advance_moves _ rest) _))

theorem within_action_round (state : Unit) : (actionRound state).Within rank 0 := by
  refine within_next.bind fun token => within_ite ?_ (within_pure _)
  exact within_advance.bind fun _ => (within_skip _ _).then_pure _

theorem within_skip_actions (deep : 0 < rank) : skipActions.Within rank 0 :=
  LoopBody.within_test deep within_action_round ()

def skipDefault : Walk Unit := do
  match ← next? with
  | some .leftParen => skipGroup
  | some (.identifier _) =>
    advance
    if (← next?) = some .leftParen then
      skipGroup
  | some (.text _) => advance
  | some (.number _) => advance
  | some (.keyword .null) => advance
  | _ => pure ()

theorem parsed_skip_default (tokens : List Token) :
    skipDefault.parsed tokens = .ok ⟨(), dropDefault tokens⟩ := by
  cases tokens with
  | nil => rfl
  | cons token rest =>
      cases token with
      | leftParen => exact parsed_skip_group (.leftParen :: rest)
      | identifier name =>
          cases rest with
          | nil => rfl
          | cons next later =>
              cases next with
              | leftParen => exact parsed_skip_group (.leftParen :: later)
              | _ => rfl
      | keyword word => cases word <;> rfl
      | _ => rfl

theorem within_skip_default (deep : 0 < rank) : skipDefault.Within rank 0 := by
  have group := within_skip_group deep
  refine within_next.bind fun token => ?_
  split
  · exact group
  · exact within_advance.bind fun _ => within_next.bind fun _ => within_ite group (within_pure _)
  · exact within_advance
  · exact within_advance
  · exact within_advance
  · exact within_pure _

/-- The state is the part of the name that was read last. -/
def nameRound (name : String) : Walk (Round String (Option String)) := do
  if (← next?) = some .dot then
    advance
    match ← takeIdentifier with
    | none => pure (.leave none)
    | some part => pure (.goOn part)
  else pure (.stop (some name))

theorem name_round_moves (name : String) (tokens : List Token)
    (begun : ((nameRound name).run tokens).begun = true) : (nameRound name).Moves tokens :=
  led_round_moves rfl begun

def nameBody : LoopBody String (Option String) := .ofTest .nameParts nameRound name_round_moves

def readName : Walk (Option String) := do
  match ← takeIdentifier with
  | none => pure none
  | some name => nameBody.walk name

theorem parsed_read_name (tokens : List Token) :
    readName.parsed tokens = .ok (qualifiedName tokens) := by
  fun_induction qualifiedName tokens with
  | case1 name rest ih =>
      cases rest with
      | nil => exact LoopBody.parsed_leaves rfl
      | cons token later =>
          cases token with
          | identifier part => exact LoopBody.parsed_goes_on rfl ih
          | _ => exact LoopBody.parsed_leaves rfl
  | case2 name rest notDot =>
      cases rest with
      | nil => exact LoopBody.parsed_stops rfl
      | cons token later =>
          cases token with
          | dot => exact absurd rfl (notDot later)
          | _ => exact LoopBody.parsed_stops rfl
  | case3 tokens _ notName =>
      cases tokens with
      | nil => rfl
      | cons token rest =>
          cases token with
          | identifier name => exact absurd rfl (notName name rest)
          | _ => rfl

theorem within_name_round (name : String) : (nameRound name).Within rank 0 := by
  refine within_next.bind fun token => within_ite (within_advance.bind fun _ => ?_) (within_pure _)
  refine within_take_identifier.bind fun part => ?_
  cases part with
  | none => exact within_pure _
  | some part => exact within_pure _

theorem within_read_name (deep : 0 < rank) : readName.Within rank 0 := by
  refine within_take_identifier.bind fun name => ?_
  cases name with
  | none => exact within_pure _
  | some name => exact LoopBody.within_test deep within_name_round name

def columnNameRound (names : List String) : Walk (Round (List String) (List String)) := do
  match ← next? with
  | none => pure (.leave names)
  | some .rightParen =>
    advance
    pure (.leave names)
  | some (.identifier name) =>
    advance
    skipWhile .sortOrders isSortOrder
    pure (.goOn (names ++ [name]))
  | some _ =>
    advance
    pure (.goOn names)

theorem column_name_forward (names : List String) (tokens : List Token) (next : List String)
    (goesOn : ((columnNameRound names).run tokens).value = .ok (.goOn next)) :
    (columnNameRound names).Moves tokens := by
  cases tokens with
  | nil => cases goesOn
  | cons token rest => cases token <;> exact next_moves (bind_moves (advance_moves _ rest) _)

def columnNameBody : LoopBody (List String) (List String) :=
  ⟨.columnNames, columnNameRound, column_name_forward⟩

def readColumns : Walk (List String) := do
  if (← next?) = some .leftParen then
    advance
    columnNameBody.walk []
  else pure []

theorem column_names_after_name (tokens : List Token) :
    columnNames true tokens = columnNames false (tokens.dropWhile isSortOrder) := by
  induction tokens with
  | nil => rfl
  | cons token rest ih =>
      cases token with
      | identifier name =>
          by_cases sortOrder : isSortOrder (.identifier name) = true
          · rw [List.dropWhile_cons_of_pos sortOrder, ← ih]
            simp [columnNames, sortOrder]
          · rw [List.dropWhile_cons_of_neg sortOrder]
            simp [columnNames, sortOrder]
      | _ => rfl

theorem parsed_column_names (names : List String) (tokens : List Token) :
    (columnNameBody.walk names).parsed tokens =
      .ok ⟨names ++ (columnNames false tokens).value, (columnNames false tokens).rest⟩ := by
  -- The sort orders after a name are passed over in its round.
  induction size : tokens.length using Nat.strongRecOn generalizing names tokens with
  | ind count ih =>
      cases tokens with
      | nil =>
          rw [columnNames, List.append_nil]
          exact LoopBody.parsed_leaves rfl
      | cons token rest =>
          have shorter : rest.length < count := by
            rw [← size]
            exact Nat.lt_succ_self _
          cases token with
          | rightParen =>
              rw [columnNames, List.append_nil]
              exact LoopBody.parsed_leaves rfl
          | identifier name =>
              have ordered := Nat.lt_of_le_of_lt (length_dropWhile_le isSortOrder rest) shorter
              have later := ih _ ordered (names ++ [name]) _ rfl
              rw [← column_names_after_name, List.append_assoc] at later
              exact LoopBody.parsed_goes_on (parsed_then (parsed_skip_while _ _ _) _) later
          | _ => exact LoopBody.parsed_goes_on rfl (ih rest.length shorter names rest rfl)

theorem parsed_read_columns (tokens : List Token) :
    readColumns.parsed tokens = .ok (columnList tokens) := by
  cases tokens with
  | nil => rfl
  | cons token rest =>
      cases token with
      | leftParen => exact parsed_column_names [] rest
      | _ => rfl

theorem within_column_name_round (deep : 0 < rank) (names : List String) :
    (columnNameRound names).Within rank 0 := by
  refine within_next.bind fun token => ?_
  split
  · exact within_pure _
  · exact within_advance.then_pure _
  · exact within_advance.bind fun _ => (within_skip_while deep _).then_pure _
  · exact within_advance.then_pure _

theorem within_read_columns (deep : 1 < rank) : readColumns.Within rank 0 :=
  within_enclosed .leftParen
    (LoopBody.within_owed deep (within_column_name_round Nat.one_pos) []) (within_pure _)

end Walk

end ErDiagram.Script
