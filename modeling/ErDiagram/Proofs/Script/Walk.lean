import ErDiagram.Script.Declarations

/-!
# Walks over tokens

A walk moves a cursor over the tokens of a script and notes the rounds that its loops make. The place of
the cursor is told by the tokens in front of it: where none are left, it stands on the end of the script.
A walk never moves back.

A loop is given by what a round of it does, with the proof that a round after which it goes on has moved
the cursor, so that every loop ends. What a walk finds and leaves is compared with what a reader does.
-/

namespace ErDiagram.Script

set_option autoImplicit false

/-- The loops that read a script. -/
inductive Loop where
  /-- The statements of a script. -/
  | statements
  /-- The items of a table body. -/
  | items
  /-- The words between the start of a primary key and its list of columns. -/
  | keyWords
  /-- The clauses of a column. -/
  | clauses
  /-- The arguments of a type. -/
  | arguments
  /-- The names in a list of columns. -/
  | columnNames
  /-- The sort orders after one of them. -/
  | sortOrders
  /-- The parts of a name after the first. -/
  | nameParts
  /-- The actions of a foreign key. -/
  | actions
  /-- The tokens up to the parenthesis that closes a group. -/
  | group
  /-- The tokens up to the end of a statement. -/
  | statementEnd
  /-- The tokens up to the end of an item. -/
  | itemEnd
  /-- The tokens of a change to a table up to what it adds. -/
  | addition
deriving DecidableEq

/-- What a walk comes to: what it finds, the tokens it leaves in front of the cursor, and the loop of each
round that was begun on the way. -/
structure Trail (α : Type) where
  value : Except ScriptError α
  rest : List Token
  rounds : List Loop

/-- A walk from any place of the cursor. What it leaves is an end of what was in front of it. -/
structure Walk (α : Type) where
  run : List Token → Trail α
  ahead : ∀ tokens, (run tokens).rest <:+ tokens

variable {α β σ : Type}

def Trail.andThen (trail : Trail α) (next : α → Walk β) : Trail β :=
  match trail.value with
  | .error fault => ⟨.error fault, trail.rest, trail.rounds⟩
  | .ok value =>
    let later := (next value).run trail.rest
    ⟨later.value, later.rest, trail.rounds ++ later.rounds⟩

theorem Trail.and_then_ahead (trail : Trail α) (next : α → Walk β) :
    (trail.andThen next).rest <:+ trail.rest := by
  unfold andThen
  split
  · exact List.suffix_refl _
  · exact (next _).ahead _

instance : Monad Walk where
  pure value := ⟨fun tokens => ⟨.ok value, tokens, []⟩, fun _ => List.suffix_refl _⟩
  bind first next := ⟨fun tokens => (first.run tokens).andThen next,
    fun tokens => (Trail.and_then_ahead _ _).trans (first.ahead tokens)⟩

namespace Walk

def next? : Walk (Option Token) :=
  ⟨fun tokens => ⟨.ok tokens.head?, tokens, []⟩, fun _ => List.suffix_refl _⟩

def advance : Walk Unit := ⟨fun tokens => ⟨.ok (), tokens.tail, []⟩, List.tail_suffix⟩

/-- A reader without loops, as a walk. -/
def ofReader (read : List Token → Parsed α) (ahead : ∀ tokens, (read tokens).rest <:+ tokens) :
    Walk α :=
  ⟨fun tokens => ⟨.ok (read tokens).value, (read tokens).rest, []⟩, ahead⟩

/-- A reader that only passes over tokens and has no loops, as a walk. -/
def skip (drop : List Token → List Token) (ahead : ∀ tokens, drop tokens <:+ tokens) : Walk Unit :=
  ofReader (fun tokens => ⟨(), drop tokens⟩) ahead

def takeIdentifier : Walk (Option String) := ofReader identifier? identifier?_suffix

def missingTable : Walk α :=
  ⟨fun tokens => ⟨.error (.missingTable tokens.head?), tokens, []⟩, fun _ => List.suffix_refl _⟩

@[simp] theorem run_next_bind (next : Option Token → Walk α) (tokens : List Token) :
    (next? >>= next).run tokens = (next tokens.head?).run tokens := rfl

@[simp] theorem run_advance_bind (next : Unit → Walk α) (tokens : List Token) :
    (advance >>= next).run tokens = (next ()).run tokens.tail := rfl

def parsed (walk : Walk α) (tokens : List Token) : Except ScriptError (Parsed α) :=
  (walk.run tokens).value.map (⟨·, (walk.run tokens).rest⟩)

@[simp] theorem parsed_pure (value : α) (tokens : List Token) :
    (pure value : Walk α).parsed tokens = .ok ⟨value, tokens⟩ := rfl

theorem parsed_bind (first : Walk α) (next : α → Walk β) (tokens : List Token) :
    (first >>= next).parsed tokens =
      (first.parsed tokens).bind fun found => (next found.value).parsed found.rest := by
  have run : (first >>= next).run tokens = (first.run tokens).andThen next := rfl
  rw [parsed, run, Trail.andThen, parsed]
  cases (first.run tokens).value with
  | error fault => rfl
  | ok value => rfl

theorem parsed_then {first : Walk α} {tokens : List Token} {found : Parsed α}
    (read : first.parsed tokens = .ok found) (next : α → Walk β) :
    (first >>= next).parsed tokens = (next found.value).parsed found.rest := by
  rw [parsed_bind, read]
  rfl

@[simp] theorem parsed_next_bind (next : Option Token → Walk α) (tokens : List Token) :
    (next? >>= next).parsed tokens = (next tokens.head?).parsed tokens := rfl

@[simp] theorem parsed_advance_bind (next : Unit → Walk α) (tokens : List Token) :
    (advance >>= next).parsed tokens = (next ()).parsed tokens.tail := rfl

@[simp] theorem parsed_of_reader_bind (read : List Token → Parsed α)
    (ahead : ∀ tokens, (read tokens).rest <:+ tokens) (next : α → Walk β) (tokens : List Token) :
    (ofReader read ahead >>= next).parsed tokens =
      (next (read tokens).value).parsed (read tokens).rest := rfl

@[simp] theorem parsed_skip_bind (drop : List Token → List Token)
    (ahead : ∀ tokens, drop tokens <:+ tokens) (next : Unit → Walk α) (tokens : List Token) :
    (skip drop ahead >>= next).parsed tokens = (next ()).parsed (drop tokens) := rfl

/-- Whether the walk moves the cursor on, if it stands in front of the tokens. -/
def Moves (walk : Walk α) (tokens : List Token) : Prop :=
  (walk.run tokens).rest.length < tokens.length

theorem advance_moves (token : Token) (rest : List Token) : advance.Moves (token :: rest) :=
  Nat.lt_succ_self _

theorem bind_moves {first : Walk α} {tokens : List Token} (moves : first.Moves tokens)
    (next : α → Walk β) : (first >>= next).Moves tokens :=
  Nat.lt_of_le_of_lt (Trail.and_then_ahead _ next).length_le moves

theorem next_moves {next : Option Token → Walk α} {tokens : List Token}
    (moves : (next tokens.head?).Moves tokens) : (next? >>= next).Moves tokens := moves

end Walk

/-- What a round of a loop comes to. The loop stops if its test fails, which is before the round begins,
and it may be left in the round. -/
inductive Round (σ α : Type) where
  | stop (value : α)
  | leave (value : α)
  | goOn (state : σ)

def Trail.begun (trail : Trail (Round σ α)) : Bool :=
  match trail.value with
  | .ok (.stop _) => false
  | _ => true

structure LoopBody (σ α : Type) where
  loop : Loop
  round : σ → Walk (Round σ α)
  forward : ∀ state tokens next, ((round state).run tokens).value = .ok (.goOn next) →
    (round state).Moves tokens

namespace LoopBody

/-- A loop of which every round moves the cursor, the last one too. -/
def ofTest (loop : Loop) (round : σ → Walk (Round σ α))
    (moves : ∀ state tokens, ((round state).run tokens).begun = true → (round state).Moves tokens) :
    LoopBody σ α :=
  ⟨loop, round, fun state tokens next goesOn => moves state tokens (by rw [Trail.begun, goesOn])⟩

def trail (body : LoopBody σ α) (state : σ) (tokens : List Token) : Trail α :=
  let round := (body.round state).run tokens
  match _found : round.value with
  | .error fault => ⟨.error fault, round.rest, body.loop :: round.rounds⟩
  | .ok (.stop value) => ⟨.ok value, round.rest, round.rounds⟩
  | .ok (.leave value) => ⟨.ok value, round.rest, body.loop :: round.rounds⟩
  | .ok (.goOn next) =>
    let later := body.trail next round.rest
    ⟨later.value, later.rest, body.loop :: round.rounds ++ later.rounds⟩
termination_by tokens.length
decreasing_by exact body.forward state tokens next _found

theorem trail_ahead (body : LoopBody σ α) (state : σ) (tokens : List Token) :
    (body.trail state tokens).rest <:+ tokens := by
  fun_induction body.trail state tokens with
  | case1 => exact (body.round _).ahead _
  | case2 => exact (body.round _).ahead _
  | case3 => exact (body.round _).ahead _
  | case4 _ _ _ _ _ _ ih => exact ih.trans ((body.round _).ahead _)

/-- The loop, entered in a state. -/
def walk (body : LoopBody σ α) (state : σ) : Walk α := ⟨body.trail state, body.trail_ahead state⟩

theorem walk_moves {body : LoopBody σ α} {state : σ} {tokens : List Token}
    (moves : (body.round state).Moves tokens) : (body.walk state).Moves tokens := by
  have after : (body.trail state tokens).rest <:+ ((body.round state).run tokens).rest := by
    rw [trail]
    split
    · exact List.suffix_refl _
    · exact List.suffix_refl _
    · exact List.suffix_refl _
    · exact body.trail_ahead _ _
  exact Nat.lt_of_le_of_lt after.length_le moves

theorem parsed_walk (body : LoopBody σ α) (state : σ) (tokens : List Token) :
    (body.walk state).parsed tokens =
      ((body.round state).parsed tokens).bind fun found =>
        match found.value with
        | .stop value => .ok ⟨value, found.rest⟩
        | .leave value => .ok ⟨value, found.rest⟩
        | .goOn next => (body.walk next).parsed found.rest := by
  have run : (body.walk state).run tokens = body.trail state tokens := rfl
  rw [Walk.parsed, run, trail, Walk.parsed]
  split
  · next found => rw [found]; rfl
  · next found => rw [found]; rfl
  · next found => rw [found]; rfl
  · next found => rw [found]; rfl

section Parsed

variable {body : LoopBody σ α} {state : σ} {tokens rest : List Token}

theorem parsed_of_step {τ : Type} {step : Except ScriptError (Parsed τ)} {next : Parsed τ → σ}
    (round : (body.round state).parsed tokens = step.map fun found => ⟨.goOn (next found), found.rest⟩) :
    (body.walk state).parsed tokens =
      step.bind fun found => (body.walk (next found)).parsed found.rest := by
  rw [parsed_walk, round]
  cases step with
  | error fault => rfl
  | ok found => rfl

theorem parsed_goes_on {next : σ} {result : Except ScriptError (Parsed α)}
    (round : (body.round state).parsed tokens = .ok ⟨.goOn next, rest⟩)
    (later : (body.walk next).parsed rest = result) : (body.walk state).parsed tokens = result := by
  rw [parsed_walk, round]
  exact later

theorem parsed_stops {value : α}
    (round : (body.round state).parsed tokens = .ok ⟨.stop value, rest⟩) :
    (body.walk state).parsed tokens = .ok ⟨value, rest⟩ := by
  rw [parsed_walk, round]
  rfl

theorem parsed_leaves {value : α}
    (round : (body.round state).parsed tokens = .ok ⟨.leave value, rest⟩) :
    (body.walk state).parsed tokens = .ok ⟨value, rest⟩ := by
  rw [parsed_walk, round]
  rfl

end Parsed

end LoopBody

end ErDiagram.Script
