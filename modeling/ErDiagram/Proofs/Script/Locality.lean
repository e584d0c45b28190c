import ErDiagram.Script.Declarations

/-!
# Reading stays within a statement

Several parts of a statement are read up to a parenthesis and do not look out for a semicolon. Where
such a part is read, the groups that the reader takes to be open really are open, and perhaps more of
them. So in a statement whose groups are all closed the awaited parenthesis comes before the semicolon,
and nothing is read of the statements after it.

For each part this is said by comparing two readings: that of a statement alone, and that of the same
statement with the tokens `later` after it. Both give the same value, and what they leave differs by
`later` only.
-/

namespace ErDiagram.Script

open Text

set_option autoImplicit false

/-- Whether the tokens run to the semicolon that ends their statement, and close before it every group
that is opened among them and `depth` groups more. -/
def Closes : Nat → List Token → Prop
  | _, [] => False
  | depth, .semicolon :: rest => depth = 0 ∧ rest = []
  | depth, .leftParen :: rest => Closes (depth + 1) rest
  | depth, .rightParen :: rest => Closes (depth - 1) rest
  | depth, _ :: rest => Closes depth rest

theorem closes_of_le {tokens : List Token} {depth less : Nat} (below : less ≤ depth)
    (closes : Closes depth tokens) : Closes less tokens := by
  induction tokens generalizing depth less with
  | nil => exact closes
  | cons token rest ih =>
      cases token with
      | semicolon => exact ⟨Nat.le_zero.mp (closes.1 ▸ below), closes.2⟩
      | leftParen => exact ih (Nat.succ_le_succ below) closes
      | rightParen => exact ih (Nat.sub_le_sub_right below 1) closes
      | _ => exact ih below closes

theorem closes_tail {token : Token} {rest : List Token} (closes : Closes 0 (token :: rest))
    (notEnd : token ≠ .semicolon) : Closes 0 rest := by
  cases token with
  | semicolon => exact absurd rfl notEnd
  | leftParen => exact closes_of_le (Nat.zero_le 1) closes
  | _ => exact closes

def Ends : List Token → Prop
  | [] => False
  | .semicolon :: rest => rest = []
  | _ :: rest => Ends rest

theorem ends_of_closes {tokens : List Token} {depth : Nat} (closes : Closes depth tokens) :
    Ends tokens := by
  induction tokens generalizing depth with
  | nil => exact closes
  | cons token rest ih =>
      cases token with
      | semicolon => exact closes.2
      | leftParen =>
          have inside : Closes (depth + 1) rest := closes
          exact ih inside
      | rightParen =>
          have outside : Closes (depth - 1) rest := closes
          exact ih outside
      | _ => exact ih closes

theorem ends_of_semicolon {inside : List Token} (noSemicolon : .semicolon ∉ inside) :
    Ends (inside ++ [.semicolon]) := by
  induction inside with
  | nil => exact rfl
  | cons token rest ih =>
      rw [List.mem_cons, not_or] at noSemicolon
      cases token with
      | semicolon => exact absurd rfl noSemicolon.1
      | _ => exact ih noSemicolon.2

/-- A property of what is left of a statement that no word of it decides. -/
structure Passes (left : List Token → Prop) : Prop where
  unfinished : ¬ left []
  keyword : ∀ {word rest}, left (.keyword word :: rest) → left rest
  identifier : ∀ {name rest}, left (.identifier name :: rest) → left rest

theorem ends_passes : Passes Ends := ⟨id, id, id⟩

/-- A property of what is left of a statement that counts the groups to be closed, and that a semicolon
inside a group does not decide. -/
structure Counts (left : Nat → List Token → Prop) : Prop where
  unfinished : ∀ {depth}, ¬ left depth []
  opened : ∀ {depth rest}, left depth (.leftParen :: rest) → left (depth + 1) rest
  closed : ∀ {depth rest}, left (depth + 1) (.rightParen :: rest) → left depth rest
  semicolon : ∀ {depth rest}, left (depth + 1) (.semicolon :: rest) → left (depth + 1) rest
  plain : ∀ {depth token rest}, token ∉ [.leftParen, .rightParen, .semicolon] →
    left depth (token :: rest) → left depth rest

theorem Counts.passes {left : Nat → List Token → Prop} (counts : Counts left) (depth : Nat) :
    Passes (left depth) :=
  ⟨counts.unfinished, counts.plain (by simp), counts.plain (by simp)⟩

theorem closes_counts : Counts Closes where
  unfinished := id
  opened := id
  closed := id
  semicolon ends := absurd ends.1 (Nat.succ_ne_zero _)
  plain {_ token _} plain ends := by
    simp only [List.mem_cons, List.not_mem_nil, or_false, not_or] at plain
    obtain ⟨notLeft, notRight, notEnd⟩ := plain
    cases token with
    | leftParen => exact absurd rfl notLeft
    | rightParen => exact absurd rfl notRight
    | semicolon => exact absurd rfl notEnd
    | _ => exact ends

/-- What a reader leaves of a statement alone, and what it leaves of the statement and `later`. -/
structure RestAlike (later : List Token) (left : List Token → Prop) (alone whole : List Token) :
    Prop where
  whole : whole = alone ++ later
  ends : left alone

structure ParsedAlike {α : Type} (later : List Token) (left : List Token → Prop)
    (alone whole : Parsed α) : Prop where
  whole : whole = ⟨alone.value, alone.rest ++ later⟩
  ends : left alone.rest

/-- Both readings fail for the same reason, or both give the same value and leave a rest that satisfies
`left` before `later`. -/
def ResultAlike {α : Type} (later : List Token) (left : List Token → Prop)
    (alone whole : Except ScriptError (Parsed α)) : Prop :=
  match alone with
  | .error fault => whole = .error fault
  | .ok found => whole = .ok ⟨found.value, found.rest ++ later⟩ ∧ left found.rest

theorem RestAlike.ok {α : Type} {later alone whole : List Token} {left : List Token → Prop}
    (alike : RestAlike later left alone whole) (value : α) :
    ResultAlike later left (.ok ⟨value, alone⟩) (.ok ⟨value, whole⟩) := by
  obtain ⟨rfl, ends⟩ := alike
  exact ⟨rfl, ends⟩

@[elab_as_elim]
theorem ResultAlike.elim {α : Type} {later : List Token} {left : List Token → Prop}
    {motive : Except ScriptError (Parsed α) → Except ScriptError (Parsed α) → Prop}
    {alone whole : Except ScriptError (Parsed α)} (alike : ResultAlike later left alone whole)
    (error : ∀ fault, motive (.error fault) (.error fault))
    (ok : ∀ value rest, left rest → motive (.ok ⟨value, rest⟩) (.ok ⟨value, rest ++ later⟩)) :
    motive alone whole := by
  cases alone with
  | error fault =>
      cases (alike : whole = .error fault)
      exact error fault
  | ok found =>
      obtain ⟨rfl, ends⟩ := alike
      exact ok found.value found.rest ends

theorem ResultAlike.ended {α : Type} {later : List Token}
    {alone whole : Except ScriptError (Parsed α)} (alike : ResultAlike later (· = []) alone whole) :
    ResultAlike later (fun left => left = [] ∨ Closes 0 left) alone whole :=
  alike.elim (fun _ => rfl) (fun _ _ ends => ⟨rfl, .inl ends⟩)

section Locality

variable (later : List Token)

theorem identifier_of_word {token : Token} {word : String} (isWord : token.isWord word = true) :
    ∃ name, token = .identifier name := by
  cases token with
  | identifier name => exact ⟨name, rfl⟩
  | _ => contradiction

section Words

variable {left : List Token → Prop} (passes : Passes left)

include passes

theorem drop_keyword_alike {tokens : List Token} (ends : left tokens) (word : Keyword) :
    RestAlike later left (dropKeyword word tokens) (dropKeyword word (tokens ++ later)) := by
  cases tokens with
  | nil => exact absurd ends passes.unfinished
  | cons token rest =>
      rw [List.cons_append, dropKeyword, dropKeyword]
      by_cases here : token = .keyword word
      · subst here
        rw [if_pos rfl, if_pos rfl]
        exact ⟨rfl, passes.keyword ends⟩
      · rw [if_neg here, if_neg here]
        exact ⟨rfl, ends⟩

theorem drop_word_alike {tokens : List Token} (ends : left tokens) (words : List String) :
    RestAlike later left (dropWord words tokens) (dropWord words (tokens ++ later)) := by
  cases tokens with
  | nil => exact absurd ends passes.unfinished
  | cons token rest =>
      rw [List.cons_append, dropWord, dropWord]
      by_cases here : words.any token.isWord = true
      · obtain ⟨word, -, isWord⟩ := List.any_eq_true.mp here
        obtain ⟨name, rfl⟩ := identifier_of_word isWord
        rw [if_pos here, if_pos here]
        exact ⟨rfl, passes.identifier ends⟩
      · rw [if_neg here, if_neg here]
        exact ⟨rfl, ends⟩

theorem drop_existence_test_alike {tokens : List Token} (ends : left tokens) :
    RestAlike later left (dropExistenceTest tokens) (dropExistenceTest (tokens ++ later)) := by
  cases tokens with
  | nil => exact absurd ends passes.unfinished
  | cons token rest =>
      cases token with
      | keyword word =>
          cases word with
          | ifWord =>
              obtain ⟨whole, further⟩ :=
                drop_keyword_alike later passes (passes.keyword ends) .not
              rw [List.cons_append, dropExistenceTest, dropExistenceTest, whole]
              exact drop_keyword_alike later passes further .existsWord
          | _ => exact ⟨rfl, ends⟩
      | _ => exact ⟨rfl, ends⟩

theorem drop_set_value_alike {tokens : List Token} (ends : left tokens) :
    RestAlike later left (dropSetValue tokens) (dropSetValue (tokens ++ later)) := by
  cases tokens with
  | nil => exact absurd ends passes.unfinished
  | cons token rest =>
      cases token with
      | keyword word =>
          cases word with
          | null => exact ⟨rfl, passes.keyword ends⟩
          | default => exact ⟨rfl, passes.keyword ends⟩
          | _ => exact ⟨rfl, ends⟩
      | _ => exact ⟨rfl, ends⟩

theorem drop_response_alike {tokens : List Token} (ends : left tokens) :
    RestAlike later left (dropResponse tokens) (dropResponse (tokens ++ later)) := by
  cases tokens with
  | nil => exact absurd ends passes.unfinished
  | cons token rest =>
      have word : ∀ {text : String}, token.isWord text = true → left rest := by
        intro text isWord
        obtain ⟨name, rfl⟩ := identifier_of_word isWord
        exact passes.identifier ends
      rw [List.cons_append, dropResponse, dropResponse]
      by_cases set : token.isWord "SET" = true
      · rw [if_pos set, if_pos set]
        exact drop_set_value_alike later passes (word set)
      rw [if_neg set, if_neg set]
      by_cases no : token.isWord "NO" = true
      · rw [if_pos no, if_pos no]
        exact drop_word_alike later passes (word no) ["ACTION"]
      rw [if_neg no, if_neg no]
      by_cases single : (token.isWord "CASCADE" || token.isWord "RESTRICT") = true
      · rw [if_pos single, if_pos single]
        rcases (Bool.or_eq_true _ _).mp single with cascade | restrict
        · exact ⟨rfl, word cascade⟩
        · exact ⟨rfl, word restrict⟩
      · rw [if_neg single, if_neg single]
        exact ⟨rfl, ends⟩

theorem drop_action_alike {tokens : List Token} (ends : left tokens) :
    RestAlike later left (dropAction tokens) (dropAction (tokens ++ later)) := by
  obtain ⟨whole, further⟩ := drop_word_alike later passes ends ["DELETE", "UPDATE"]
  rw [dropAction, dropAction, whole]
  exact drop_response_alike later passes further

theorem drop_actions_alike {tokens : List Token} (ends : left tokens) :
    RestAlike later left (dropActions tokens) (dropActions (tokens ++ later)) := by
  fun_induction dropActions tokens with
  | case1 => exact absurd ends passes.unfinished
  | case2 rest ih =>
      obtain ⟨whole, further⟩ := drop_action_alike later passes (passes.keyword ends)
      rw [List.cons_append, dropActions, if_pos rfl, whole]
      exact ih further
  | case3 token rest other =>
      rw [List.cons_append, dropActions, if_neg other]
      exact ⟨rfl, ends⟩

end Words

section Groups

variable {left : Nat → List Token → Prop} (counts : Counts left)

include counts

/-- The groups that are counted inside a group are really open, besides `depth` others around it. -/
theorem after_group_alike {tokens : List Token} (depth groups : Nat)
    (ends : left (depth + groups + 1) tokens) :
    RestAlike later (left depth) (afterGroup groups tokens) (afterGroup groups (tokens ++ later)) := by
  induction tokens generalizing groups with
  | nil => exact absurd ends counts.unfinished
  | cons token rest ih =>
      cases token with
      | leftParen => exact ih (groups + 1) (counts.opened ends)
      | rightParen =>
          cases groups with
          | zero => exact ⟨rfl, counts.closed ends⟩
          | succ groups => exact ih _ (counts.closed ends)
      | semicolon => cases groups <;> exact ih _ (counts.semicolon ends)
      | _ => cases groups <;> exact ih _ (counts.plain (by simp) ends)

theorem drop_group_alike {tokens : List Token} {depth : Nat} (ends : left depth tokens) :
    RestAlike later (left depth) (dropGroup tokens) (dropGroup (tokens ++ later)) := by
  cases tokens with
  | nil => exact absurd ends counts.unfinished
  | cons token rest =>
      cases token with
      | leftParen => exact after_group_alike later counts depth 0 (counts.opened ends)
      | _ => exact ⟨rfl, ends⟩

theorem drop_default_alike {tokens : List Token} {depth : Nat} (ends : left depth tokens) :
    RestAlike later (left depth) (dropDefault tokens) (dropDefault (tokens ++ later)) := by
  cases tokens with
  | nil => exact absurd ends counts.unfinished
  | cons token rest =>
      cases token with
      | leftParen => exact after_group_alike later counts depth 0 (counts.opened ends)
      | identifier name => exact drop_group_alike later counts (counts.plain (by simp) ends)
      | text content => exact ⟨rfl, counts.plain (by simp) ends⟩
      | number digits => exact ⟨rfl, counts.plain (by simp) ends⟩
      | keyword word =>
          cases word with
          | null => exact ⟨rfl, counts.plain (by simp) ends⟩
          | _ => exact ⟨rfl, ends⟩
      | _ => exact ⟨rfl, ends⟩

/-- An item ends before the parenthesis that closes the body around it. -/
theorem from_item_end_alike {tokens : List Token} (depth groups : Nat)
    (inBody : ∀ rest, left depth (.semicolon :: rest) → left depth rest)
    (ends : left (depth + groups) tokens) :
    RestAlike later (left depth) (fromItemEnd groups tokens) (fromItemEnd groups (tokens ++ later)) := by
  induction tokens generalizing groups with
  | nil => exact absurd ends counts.unfinished
  | cons token rest ih =>
      cases token with
      | leftParen => cases groups <;> exact ih _ (counts.opened ends)
      | rightParen =>
          cases groups with
          | zero => exact ⟨rfl, ends⟩
          | succ groups => exact ih _ (counts.closed ends)
      | comma =>
          cases groups with
          | zero => exact ⟨rfl, ends⟩
          | succ groups => exact ih _ (counts.plain (by simp) ends)
      | semicolon =>
          cases groups with
          | zero => exact ih _ (inBody rest ends)
          | succ groups => exact ih _ (counts.semicolon ends)
      | _ => cases groups <;> exact ih _ (counts.plain (by simp) ends)

theorem identifier_alike {tokens : List Token} {depth : Nat} (ends : left depth tokens) :
    ParsedAlike later (left depth) (identifier? tokens) (identifier? (tokens ++ later)) := by
  cases tokens with
  | nil => exact absurd ends counts.unfinished
  | cons token rest =>
      cases token with
      | identifier name => exact ⟨rfl, counts.plain (by simp) ends⟩
      | _ => exact ⟨rfl, ends⟩

theorem qualified_name_alike {tokens : List Token} {depth : Nat} (ends : left depth tokens) :
    ParsedAlike later (left depth) (qualifiedName tokens) (qualifiedName (tokens ++ later)) := by
  fun_induction qualifiedName tokens with
  | case1 name rest ih => exact ih (counts.plain (by simp) (counts.plain (by simp) ends))
  | case2 name rest notDot =>
      have after : left depth rest := counts.plain (by simp) ends
      cases rest with
      | nil => exact absurd after counts.unfinished
      | cons next rest =>
          cases next with
          | dot => exact absurd rfl (notDot rest)
          | _ => exact ⟨rfl, after⟩
  | case3 tokens _ notName =>
      cases tokens with
      | nil => exact absurd ends counts.unfinished
      | cons token rest =>
          cases token with
          | identifier name => exact absurd rfl (notName name rest)
          | _ => exact ⟨rfl, ends⟩

theorem drop_identifiers_alike {tokens : List Token} {depth : Nat} (ends : left depth tokens) :
    RestAlike later (left depth) (tokens.dropWhile Token.isIdentifier)
      ((tokens ++ later).dropWhile Token.isIdentifier) := by
  induction tokens with
  | nil => exact absurd ends counts.unfinished
  | cons token rest ih =>
      cases token with
      | identifier name => exact ih (counts.plain (by simp) ends)
      | _ => exact ⟨rfl, ends⟩

end Groups

theorem item_end_alike {tokens : List Token} {depth : Nat} (closes : Closes (depth + 1) tokens) :
    RestAlike later (Closes (depth + 1)) (fromItemEnd 0 tokens) (fromItemEnd 0 (tokens ++ later)) :=
  from_item_end_alike later closes_counts (depth + 1) 0 (fun _ => closes_counts.semicolon) closes

theorem column_names_alike {tokens : List Token} {depth : Nat} (afterName : Bool)
    (closes : Closes (depth + 1) tokens) :
    ParsedAlike later (Closes depth) (columnNames afterName tokens)
      (columnNames afterName (tokens ++ later)) := by
  induction tokens generalizing afterName with
  | nil => exact closes.elim
  | cons token rest ih =>
      cases token with
      | rightParen => exact ⟨rfl, closes⟩
      | semicolon => exact absurd closes.1 (Nat.succ_ne_zero depth)
      | leftParen => exact ih false (closes_of_le (Nat.le_succ _) closes)
      | identifier name =>
          obtain ⟨whole, left⟩ := ih true closes
          rw [List.cons_append, columnNames, columnNames]
          by_cases order : (afterName && isSortOrder (.identifier name)) = true
          · rw [if_pos order, if_pos order]
            exact ⟨whole, left⟩
          · rw [if_neg order, if_neg order, whole]
            exact ⟨rfl, left⟩
      | _ => exact ih false closes

theorem column_list_alike {tokens : List Token} {depth : Nat} (closes : Closes depth tokens) :
    ParsedAlike later (Closes depth) (columnList tokens) (columnList (tokens ++ later)) := by
  cases tokens with
  | nil => exact closes.elim
  | cons token rest =>
      cases token with
      | leftParen =>
          have inside : Closes (depth + 1) rest := closes
          exact column_names_alike later false inside
      | _ => exact ⟨rfl, closes⟩

theorem constraint_name_alike {tokens : List Token} {depth : Nat} (closes : Closes depth tokens) :
    ParsedAlike later (Closes depth) (constraintName tokens) (constraintName (tokens ++ later)) := by
  cases tokens with
  | nil => exact closes.elim
  | cons token rest =>
      cases token with
      | keyword word =>
          have after : Closes depth rest := closes
          cases word with
          | constraint => exact identifier_alike later closes_counts after
          | _ => exact ⟨rfl, closes⟩
      | _ => exact ⟨rfl, closes⟩

theorem head_of_closes {tokens : List Token} {depth : Nat} (closes : Closes depth tokens) :
    (tokens ++ later).head? = tokens.head? := by
  cases tokens with
  | nil => exact closes.elim
  | cons token rest => rfl

theorem target_alike {tokens : List Token} {depth : Nat} (closes : Closes depth tokens) :
    ResultAlike later (Closes depth) (target tokens) (target (tokens ++ later)) := by
  obtain ⟨whole, left⟩ := qualified_name_alike later closes_counts closes
  rw [target, target, whole]
  dsimp only
  cases (qualifiedName tokens).value with
  | none =>
      rw [head_of_closes later left]
      exact rfl
  | some table =>
      obtain ⟨listed, left⟩ := column_list_alike later left
      rw [listed]
      exact ⟨rfl, left⟩

theorem keys_to_alike {tokens : List Token} {depth : Nat} (closes : Closes depth tokens)
    (table : String) (name : Option String) (columns : List String) :
    ResultAlike later (Closes depth) (keysTo table name columns tokens)
      (keysTo table name columns (tokens ++ later)) := by
  obtain ⟨whole, left⟩ := qualified_name_alike later closes_counts closes
  rw [keysTo, keysTo, whole]
  dsimp only
  cases (qualifiedName tokens).value with
  | none =>
      rw [head_of_closes later left]
      exact rfl
  | some refTable =>
      obtain ⟨listed, left⟩ := column_list_alike later left
      obtain ⟨dropped, left⟩ := drop_actions_alike later (closes_counts.passes _) left
      rw [listed]
      dsimp only
      rw [dropped]
      exact ⟨rfl, left⟩

theorem key_constraint_alike {tokens : List Token} {depth : Nat} (closes : Closes depth tokens)
    (table : String) (name : Option String) :
    ResultAlike later (Closes depth) (keyConstraint table name tokens)
      (keyConstraint table name (tokens ++ later)) := by
  cases tokens with
  | nil => exact closes.elim
  | cons token rest =>
      cases token with
      | keyword word =>
          have after : Closes depth rest := closes
          cases word with
          | key =>
              obtain ⟨whole, left⟩ := column_list_alike later after
              rw [List.cons_append, keyConstraint, keyConstraint, whole]
              dsimp only
              generalize (columnList rest).rest = references at left ⊢
              cases references with
              | nil => exact left.elim
              | cons next rest =>
                  cases next with
                  | keyword word =>
                      have after : Closes depth rest := left
                      cases word with
                      | references => exact keys_to_alike later after table name _
                      | _ => exact ⟨rfl, left⟩
                  | _ => exact ⟨rfl, left⟩
          | _ => exact ⟨rfl, closes⟩
      | _ => exact ⟨rfl, closes⟩

theorem size_arguments_alike {tokens : List Token} {depth : Nat}
    (closes : Closes (depth + 1) tokens) :
    ParsedAlike later (Closes depth) (sizeArguments tokens) (sizeArguments (tokens ++ later)) := by
  induction tokens with
  | nil => exact closes.elim
  | cons token rest ih =>
      cases token with
      | rightParen => exact ⟨rfl, closes⟩
      | semicolon => exact absurd closes.1 (Nat.succ_ne_zero depth)
      | leftParen => exact ih (closes_of_le (Nat.le_succ _) closes)
      | number digits =>
          obtain ⟨whole, left⟩ := ih closes
          rw [List.cons_append, sizeArguments, sizeArguments, whole]
          exact ⟨rfl, left⟩
      | identifier name =>
          obtain ⟨whole, left⟩ := ih closes
          rw [List.cons_append, sizeArguments, sizeArguments, whole]
          exact ⟨rfl, left⟩
      | _ => exact ih closes

theorem type_size_alike {tokens : List Token} {depth : Nat} (closes : Closes depth tokens)
    (type : String) :
    ParsedAlike later (Closes depth) (typeSize type tokens) (typeSize type (tokens ++ later)) := by
  cases tokens with
  | nil => exact closes.elim
  | cons token rest =>
      cases token with
      | leftParen =>
          have inside : Closes (depth + 1) rest := closes
          obtain ⟨whole, left⟩ := size_arguments_alike later inside
          rw [List.cons_append, typeSize, typeSize, whole]
          exact ⟨rfl, left⟩
      | _ => exact ⟨rfl, closes⟩

theorem other_clause_alike {left : Nat → List Token → Prop} (counts : Counts left) {token : Token}
    {rest : List Token} {depth : Nat}
    (inBody : ∀ rest, left depth (.semicolon :: rest) → left depth rest)
    (ends : left depth (token :: rest)) (goesOn : endsColumn token = false)
    (other : token ≠ .keyword .references) (table : String) (reading : ColumnReading) :
    ResultAlike later (left depth) (reading.clause table token rest)
      (reading.clause table token (rest ++ later)) := by
  cases token with
  | comma => contradiction
  | rightParen => contradiction
  | semicolon => exact ⟨rfl, inBody rest ends⟩
  | leftParen => exact (after_group_alike later counts depth 0 (counts.opened ends)).ok reading
  | keyword word =>
      have after : left depth rest := counts.plain (by simp) ends
      cases word with
      | references => exact absurd rfl other
      | primary => exact (drop_keyword_alike later (counts.passes depth) after .key).ok _
      | not =>
          cases rest with
          | nil => exact absurd after counts.unfinished
          | cons next rest =>
              cases next with
              | keyword word => cases word <;> first
                  | exact ⟨rfl, after⟩
                  | exact ⟨rfl, counts.plain (by simp) after⟩
              | _ => exact ⟨rfl, after⟩
      | unique => exact (drop_keyword_alike later (counts.passes depth) after .key).ok reading
      | default => exact (drop_default_alike later counts after).ok reading
      | check => exact (drop_group_alike later counts after).ok reading
      | constraint =>
          obtain ⟨whole, left⟩ := identifier_alike later counts after
          rw [ColumnReading.clause, ColumnReading.clause, whole]
          exact ⟨rfl, left⟩
      | on =>
          obtain ⟨whole, left⟩ := drop_action_alike later (counts.passes depth) after
          rw [ColumnReading.clause, ColumnReading.clause, whole]
          exact (drop_actions_alike later (counts.passes depth) left).ok reading
      | _ => exact ⟨rfl, after⟩
  | _ => exact ⟨rfl, counts.plain (by simp) ends⟩

theorem clause_alike {token : Token} {rest : List Token} {depth : Nat}
    (closes : Closes (depth + 1) (token :: rest)) (goesOn : endsColumn token = false)
    (table : String) (reading : ColumnReading) :
    ResultAlike later (Closes (depth + 1)) (reading.clause table token rest)
      (reading.clause table token (rest ++ later)) := by
  by_cases reference : token = .keyword .references
  · subst reference
    have after : Closes (depth + 1) rest := closes
    rw [ColumnReading.clause, ColumnReading.clause]
    refine (target_alike later after).elim (fun _ => rfl) ?_
    intro target rest ends
    exact (drop_actions_alike later (closes_counts.passes _) ends).ok _
  · exact other_clause_alike later closes_counts (fun _ => closes_counts.semicolon) closes goesOn
      reference table reading

theorem clauses_alike {tokens : List Token} {depth : Nat} (closes : Closes (depth + 1) tokens)
    (table : String) (reading : ColumnReading) :
    ResultAlike later (Closes (depth + 1)) (reading.clauses table tokens)
      (reading.clauses table (tokens ++ later)) := by
  fun_induction ColumnReading.clauses table reading tokens with
  | case1 => exact closes.elim
  | case2 reading token rest ends =>
      rw [List.cons_append, ColumnReading.clauses_cons, if_pos ends]
      exact ⟨rfl, closes⟩
  | case3 reading token rest goesOn fault step =>
      have alike := clause_alike later closes (by simpa using goesOn) table reading
      rw [step] at alike
      rw [List.cons_append, ColumnReading.clauses_cons, if_neg goesOn, alike]
      exact rfl
  | case4 reading token rest goesOn found step ih =>
      have alike := clause_alike later closes (by simpa using goesOn) table reading
      rw [step] at alike
      rw [List.cons_append, ColumnReading.clauses_cons, if_neg goesOn, alike.1]
      exact ih alike.2

theorem column_definition_alike {tokens : List Token} {depth : Nat}
    (closes : Closes (depth + 1) tokens) (table name : String) :
    ResultAlike later (Closes (depth + 1)) (columnDefinition table name tokens)
      (columnDefinition table name (tokens ++ later)) := by
  cases tokens with
  | nil => exact closes.elim
  | cons token rest =>
      cases token with
      | identifier typeName =>
          have after : Closes (depth + 1) rest := closes
          obtain ⟨sized, left⟩ := type_size_alike later after (lowercase typeName)
          have alike := clauses_alike later left table
            { column :=
              { name, type := lowercase typeName, size := (typeSize (lowercase typeName) rest).value } }
          rw [List.cons_append, columnDefinition, columnDefinition, sized]
          dsimp only
          exact alike.elim (fun _ => rfl) (fun _ _ ends => ⟨rfl, ends⟩)
      | _ => exact (item_end_alike later closes).ok none

/-- Whether the token begins an item that declares nothing. -/
def beginsPlainItem : Token → Bool
  | .leftParen => false
  | .rightParen => false
  | .identifier _ => false
  | .keyword .primary => false
  | .keyword .foreign => false
  | _ => true

theorem plain_item_alike {left : Nat → List Token → Prop} (counts : Counts left) {token : Token}
    {rest : List Token} {depth : Nat}
    (inBody : ∀ rest, left depth (.semicolon :: rest) → left depth rest)
    (ends : left depth (token :: rest)) (plain : beginsPlainItem token = true)
    (reading : TableReading) :
    ResultAlike later (left depth) (reading.item token rest)
      (reading.item token (rest ++ later)) := by
  cases token with
  | leftParen => contradiction
  | rightParen => contradiction
  | identifier name => contradiction
  | semicolon => exact ⟨rfl, inBody rest ends⟩
  | keyword word =>
      have after : left depth rest := counts.plain (by simp) ends
      cases word with
      | primary => contradiction
      | foreign => contradiction
      | constraint =>
          obtain ⟨whole, left⟩ := identifier_alike later counts after
          rw [TableReading.item, TableReading.item, whole]
          exact ⟨rfl, left⟩
      | unique =>
          obtain ⟨word, left⟩ := drop_keyword_alike later (counts.passes depth) after .key
          rw [TableReading.item, TableReading.item, word]
          exact (from_item_end_alike later counts depth 0 inBody left).ok reading
      | index => exact (from_item_end_alike later counts depth 0 inBody after).ok reading
      | key => exact (from_item_end_alike later counts depth 0 inBody after).ok reading
      | check => exact (drop_group_alike later counts after).ok reading
      | _ => exact ⟨rfl, after⟩
  | _ => exact ⟨rfl, counts.plain (by simp) ends⟩

theorem item_alike {token : Token} {rest : List Token} {depth : Nat}
    (closes : Closes (depth + 1) (token :: rest)) (goesOn : token ≠ .rightParen)
    (reading : TableReading) :
    ResultAlike later (Closes (depth + 1)) (reading.item token rest)
      (reading.item token (rest ++ later)) := by
  have others (plain : beginsPlainItem token = true) :=
    plain_item_alike later closes_counts (fun _ => closes_counts.semicolon) closes plain reading
  cases token with
  | rightParen => exact absurd rfl goesOn
  | leftParen =>
      have inside : Closes (depth + 1 + 1) rest := closes
      exact ⟨rfl, closes_of_le (Nat.le_succ _) inside⟩
  | identifier name =>
      have after : Closes (depth + 1) rest := closes
      rw [TableReading.item, TableReading.item]
      exact (column_definition_alike later after reading.name name).elim (fun _ => rfl)
        (fun _ _ ends => ⟨rfl, ends⟩)
  | keyword word =>
      have after : Closes (depth + 1) rest := closes
      cases word with
      | primary =>
          obtain ⟨word, left⟩ := drop_keyword_alike later (closes_counts.passes _) after .key
          obtain ⟨names, left⟩ := drop_identifiers_alike later closes_counts left
          obtain ⟨columns, left⟩ := column_list_alike later left
          rw [TableReading.item, TableReading.item, word, names, columns]
          exact ⟨rfl, left⟩
      | foreign =>
          rw [TableReading.item, TableReading.item]
          exact (key_constraint_alike later after reading.name reading.keyName).elim (fun _ => rfl)
            (fun _ _ ends => ⟨rfl, ends⟩)
      | _ => exact others rfl
  | _ => exact others rfl

theorem items_alike {tokens : List Token} {depth : Nat} (closes : Closes (depth + 1) tokens)
    (reading : TableReading) :
    ResultAlike later (Closes depth) (reading.items tokens) (reading.items (tokens ++ later)) := by
  fun_induction TableReading.items reading tokens with
  | case1 => exact closes.elim
  | case2 reading rest =>
      rw [List.cons_append, TableReading.items_cons, if_pos rfl]
      exact ⟨rfl, closes⟩
  | case3 reading token rest goesOn fault step =>
      have alike := item_alike later closes goesOn reading
      rw [step] at alike
      rw [List.cons_append, TableReading.items_cons, if_neg goesOn, alike]
      exact rfl
  | case4 reading token rest goesOn found step ih =>
      have alike := item_alike later closes goesOn reading
      rw [step] at alike
      rw [List.cons_append, TableReading.items_cons, if_neg goesOn, alike.1]
      exact ih alike.2

theorem after_statement_of_ends {tokens : List Token} (ends : Ends tokens) :
    afterStatement tokens = [] ∧ afterStatement (tokens ++ later) = later := by
  induction tokens with
  | nil => exact ends.elim
  | cons token rest ih =>
      cases token with
      | semicolon =>
          cases (ends : rest = [])
          exact ⟨rfl, rfl⟩
      | _ => exact ih ends

theorem after_statement_alike {α : Type} {tokens : List Token} {depth : Nat}
    (closes : Closes depth tokens) (value : α) :
    ResultAlike later (· = []) (.ok ⟨value, afterStatement tokens⟩)
      (.ok ⟨value, afterStatement (tokens ++ later)⟩) := by
  obtain ⟨alone, whole⟩ := after_statement_of_ends later (ends_of_closes closes)
  rw [alone, whole]
  exact ⟨rfl, rfl⟩

theorem table_definition_alike {tokens : List Token} {depth : Nat} (closes : Closes depth tokens) :
    ResultAlike later (· = []) (tableDefinition tokens) (tableDefinition (tokens ++ later)) := by
  obtain ⟨tested, left⟩ := drop_existence_test_alike later (closes_counts.passes _) closes
  obtain ⟨named, left⟩ := qualified_name_alike later closes_counts left
  rw [tableDefinition, tableDefinition, tested, named]
  generalize qualifiedName (dropExistenceTest tokens) = name at left ⊢
  obtain ⟨value, rest⟩ := name
  cases value with
  | none => exact after_statement_alike later left _
  | some name =>
      cases rest with
      | nil => exact left.elim
      | cons next rest =>
          cases next with
          | leftParen =>
              have inside : Closes (depth + 1) rest := left
              simp only [List.cons_append]
              refine (items_alike later inside { name }).elim (fun _ => rfl) ?_
              intro reading rest ends
              exact after_statement_alike later ends _
          | _ => exact after_statement_alike later left _

/-- A statement is searched for an addition up to its semicolon, inside groups as well. -/
theorem search_addition_alike {tokens : List Token} (closes : Closes 0 tokens) :
    let goesOn (token : Token) := token != .keyword .add && token != .semicolon
    RestAlike later (Closes 0) (tokens.dropWhile goesOn) ((tokens ++ later).dropWhile goesOn) := by
  intro goesOn
  induction tokens with
  | nil => exact closes.elim
  | cons token rest ih =>
      by_cases on : goesOn token = true
      · rw [List.cons_append, List.dropWhile_cons_of_pos on, List.dropWhile_cons_of_pos on]
        apply ih
        apply closes_tail closes
        rintro rfl
        contradiction
      · rw [List.cons_append, List.dropWhile_cons_of_neg on, List.dropWhile_cons_of_neg on]
        exact ⟨rfl, closes⟩

/-- What is read of a change to a table after its `ADD`. -/
def addition (table : String) (tokens : List Token) : Except ScriptError (Parsed Declarations) :=
  match constraintName tokens with
  | ⟨name, .keyword .foreign :: rest⟩ =>
    match keyConstraint table name rest with
    | .error fault => .error fault
    | .ok found => .ok ⟨⟨[], found.value⟩, afterStatement found.rest⟩
  | ⟨_, rest⟩ => .ok ⟨{}, afterStatement rest⟩

theorem addition_alike {tokens : List Token} {depth : Nat} (closes : Closes depth tokens)
    (table : String) :
    ResultAlike later (· = []) (addition table tokens) (addition table (tokens ++ later)) := by
  obtain ⟨whole, left⟩ := constraint_name_alike later closes
  rw [addition, addition, whole]
  generalize constraintName tokens = name at left ⊢
  obtain ⟨name, rest⟩ := name
  cases rest with
  | nil => exact left.elim
  | cons next rest =>
      cases next with
      | keyword word =>
          have after : Closes depth rest := left
          cases word with
          | foreign =>
              simp only [List.cons_append]
              refine (key_constraint_alike later after table name).elim (fun _ => rfl) ?_
              intro keys rest ends
              exact after_statement_alike later ends _
          | _ => exact after_statement_alike later left _
      | _ => exact after_statement_alike later left _

theorem table_change_alike {tokens : List Token} (closes : Closes 0 tokens) :
    ResultAlike later (· = []) (tableChange tokens) (tableChange (tokens ++ later)) := by
  have skipped := after_statement_alike later closes ({} : Declarations)
  cases tokens with
  | nil => exact closes.elim
  | cons token rest =>
      cases token with
      | keyword word =>
          cases word with
          | table =>
              have after : Closes 0 rest := closes
              obtain ⟨only, left⟩ := drop_keyword_alike later (closes_counts.passes _) after .only
              obtain ⟨named, left⟩ := qualified_name_alike later closes_counts left
              rw [List.cons_append, tableChange, tableChange, only, named]
              generalize qualifiedName (dropKeyword .only rest) = name at left ⊢
              obtain ⟨value, rest⟩ := name
              cases value with
              | none => exact after_statement_alike later left _
              | some table =>
                  obtain ⟨searched, left⟩ := search_addition_alike later left
                  dsimp only at searched left ⊢
                  rw [searched]
                  generalize List.dropWhile _ rest = found at left ⊢
                  cases found with
                  | nil => exact left.elim
                  | cons next rest =>
                      cases next with
                      | keyword word =>
                          have after : Closes 0 rest := left
                          cases word with
                          | add => exact addition_alike later after table
                          | _ => exact after_statement_alike later left _
                      | _ => exact after_statement_alike later left _
          | _ => exact skipped
      | _ => exact skipped

/-- What is read of the tokens that begin with a statement, where a statement of no interest ends after
its first token. -/
theorem statement_alike {token : Token} {rest : List Token} (closes : Closes 0 (token :: rest)) :
    ResultAlike later (fun left => left = [] ∨ Closes 0 left) (statement token rest)
      (statement token (rest ++ later)) := by
  cases token with
  | keyword word =>
      have after : Closes 0 rest := closes
      cases word with
      | create =>
          cases rest with
          | nil => exact after.elim
          | cons next rest =>
              have skipped := (after_statement_alike later after ({} : Declarations)).ended
              cases next with
              | keyword word =>
                  have definition : Closes 0 rest := after
                  cases word with
                  | table => exact (table_definition_alike later definition).ended
                  | _ => exact skipped
              | _ => exact skipped
      | alter => exact (table_change_alike later after).ended
      | _ => exact ⟨rfl, .inr after⟩
  | semicolon => exact ⟨rfl, .inl closes.2⟩
  | leftParen => exact ⟨rfl, .inr (closes_tail closes (by decide))⟩
  | _ => exact ⟨rfl, .inr closes⟩

end Locality

end ErDiagram.Script
