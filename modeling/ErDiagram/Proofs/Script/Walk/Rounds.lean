import ErDiagram.Proofs.Script.Walk

/-!
# The number of rounds

A walk pays for the rounds of its loops with the tokens that it passes over: of each loop it makes at most
one round for a token. A loop that can be left in front of a token may need one round more, which it owes
to the walk that has led to it.

A loop makes no rounds of its own inside a round, because every loop in it is of a lower rank.
-/

namespace ErDiagram.Script

set_option autoImplicit false

variable {α β σ : Type}

/-- How deep other loops can be nested in the rounds of a loop. -/
def Loop.rank : Loop → Nat
  | statements => 4
  | items => 3
  | clauses => 2
  | columnNames => 1
  | itemEnd => 1
  | _ => 0

namespace Walk

/-- A walk makes rounds only of loops below a rank, and of each loop at most as many as it passes over
tokens, where `owed` rounds more are allowed. -/
structure Within (rank owed : Nat) (walk : Walk α) : Prop where
  below : ∀ tokens, ∀ loop ∈ (walk.run tokens).rounds, loop.rank < rank
  paid : ∀ tokens (loop : Loop),
    (walk.run tokens).rounds.count loop + (walk.run tokens).rest.length ≤ tokens.length + owed

variable {rank owed : Nat}

theorem Within.owing {walk : Walk α} (within : walk.Within rank 0) : walk.Within rank owed :=
  ⟨within.below, fun tokens loop => Nat.le_add_right_of_le (within.paid tokens loop)⟩

theorem within_of_no_rounds {walk : Walk α} (none : ∀ tokens, (walk.run tokens).rounds = []) :
    walk.Within rank 0 := by
  constructor
  · intro tokens loop made
    rw [none tokens] at made
    contradiction
  · intro tokens loop
    rw [none tokens, List.count_nil, Nat.zero_add]
    exact (walk.ahead tokens).length_le

theorem within_pure (value : α) : (pure value : Walk α).Within rank 0 :=
  within_of_no_rounds fun _ => rfl

theorem within_next : next?.Within rank 0 := within_of_no_rounds fun _ => rfl

theorem within_advance : advance.Within rank 0 := within_of_no_rounds fun _ => rfl

theorem within_of_reader (read : List Token → Parsed α)
    (ahead : ∀ tokens, (read tokens).rest <:+ tokens) : (ofReader read ahead).Within rank 0 :=
  within_of_no_rounds fun _ => rfl

theorem within_skip (drop : List Token → List Token) (ahead : ∀ tokens, drop tokens <:+ tokens) :
    (skip drop ahead).Within rank 0 := within_of_no_rounds fun _ => rfl

theorem within_take_identifier : takeIdentifier.Within rank 0 :=
  within_of_no_rounds fun _ => rfl

theorem within_missing_table : (missingTable : Walk α).Within rank 0 :=
  within_of_no_rounds fun _ => rfl

theorem within_bind {first : Walk α} {next : α → Walk β} {before after : Nat}
    (start : first.Within rank before) (later : ∀ value, (next value).Within rank after) :
    (first >>= next).Within rank (before + after) := by
  have run (tokens : List Token) :
      (first >>= next).run tokens = (first.run tokens).andThen next := rfl
  constructor
  · intro tokens loop made
    rw [run, Trail.andThen] at made
    split at made
    · exact start.below tokens loop made
    · rcases List.mem_append.mp made with inFirst | inNext
      · exact start.below tokens loop inFirst
      · exact (later _).below _ loop inNext
  · intro tokens loop
    have paidFirst := start.paid tokens loop
    rw [run, Trail.andThen]
    split
    · dsimp only
      omega
    · next value _ =>
      have paidNext := (later value).paid (first.run tokens).rest loop
      dsimp only
      rw [List.count_append]
      omega

theorem Within.bind {first : Walk α} {next : α → Walk β} (start : first.Within rank 0)
    (later : ∀ value, (next value).Within rank 0) : (first >>= next).Within rank 0 :=
  within_bind start later

theorem Within.then_pure {first : Walk α} (start : first.Within rank owed) (answer : α → β) :
    (first >>= fun value => pure (answer value)).Within rank owed :=
  within_bind start fun _ => within_pure _

theorem Within.before {first : Walk α} {next : α → Walk β} (start : first.Within rank owed)
    (later : ∀ value, (next value).Within rank 0) : (first >>= next).Within rank owed :=
  within_bind start later

theorem Within.after {first : Walk α} {next : α → Walk β} (start : first.Within rank 0)
    (later : ∀ value, (next value).Within rank owed) : (first >>= next).Within rank owed :=
  Nat.zero_add owed ▸ within_bind start later

theorem within_ite {test : Prop} [Decidable test] {walk other : Walk α}
    (within : walk.Within rank 0) (otherwise : other.Within rank 0) :
    (if test then walk else other).Within rank 0 := by
  split
  · exact within
  · exact otherwise

theorem within_ways {walk : Walk α}
    (ways : ∀ tokens,
      (∃ token rest inner, tokens = token :: rest ∧ Within rank 1 inner ∧
        walk.run tokens = inner.run rest) ∨
      ∃ other, Within rank 0 other ∧ walk.run tokens = other.run tokens) : walk.Within rank 0 := by
  constructor
  · intro tokens loop made
    rcases ways tokens with ⟨token, rest, inner, rfl, inside, run⟩ | ⟨other, outside, run⟩
    · rw [run] at made
      exact inside.below rest loop made
    · rw [run] at made
      exact outside.below tokens loop made
  · intro tokens loop
    rcases ways tokens with ⟨token, rest, inner, rfl, inside, run⟩ | ⟨other, outside, run⟩
    · rw [run]
      exact inside.paid rest loop
    · rw [run]
      exact outside.paid tokens loop

theorem within_enclosed {inner other : Walk α} (token : Token) (inside : inner.Within rank 1)
    (outside : other.Within rank 0) :
    (do
      if (← next?) = some token then
        advance
        inner
      else other).Within rank 0 := by
  refine within_ways fun tokens => ?_
  by_cases begins : tokens.head? = some token
  · obtain ⟨rest, rfl⟩ := List.head?_eq_some_iff.mp begins
    exact .inl ⟨token, rest, inner, rfl, inside, by simp⟩
  · exact .inr ⟨other, outside, by simp [begins]⟩

theorem within_named {next : Option String → Walk α} (named : ∀ name, (next (some name)).Within rank 1)
    (unnamed : (next none).Within rank 0) : (takeIdentifier >>= next).Within rank 0 := by
  refine within_ways fun tokens => ?_
  cases tokens with
  | nil => exact .inr ⟨_, unnamed, rfl⟩
  | cons token rest =>
      cases token with
      | identifier name => exact .inl ⟨_, rest, _, rfl, named name, rfl⟩
      | _ => exact .inr ⟨_, unnamed, rfl⟩

end Walk

namespace LoopBody

open Walk

/-- A round that is made counts once, and the loops in it are others. -/
theorem count_round {own : Loop} {trail : Trail α} {tokens : List Token} (owed : Nat)
    (others : own ∉ trail.rounds)
    (paid : ∀ loop : Loop, trail.rounds.count loop + trail.rest.length ≤ tokens.length)
    (spent : trail.rest.length < tokens.length + owed) (loop : Loop) :
    (own :: trail.rounds).count loop + trail.rest.length ≤ tokens.length + owed := by
  by_cases same : own = loop
  · subst same
    rw [List.count_cons_self, List.count_eq_zero.mpr others]
    omega
  · rw [List.count_cons_of_ne same]
    exact Nat.le_add_right_of_le (paid loop)

/-- A loop makes as many rounds as it passes over tokens, and perhaps one more. It needs none more if
every round that begins moves the cursor. -/
theorem within_walk {body : LoopBody σ α} {rank owed : Nat} (deep : body.loop.rank < rank)
    (inner : ∀ state, (body.round state).Within body.loop.rank 0)
    (spent : ∀ state tokens, ((body.round state).run tokens).begun = true →
      ((body.round state).run tokens).rest.length < tokens.length + owed) (state : σ) :
    (body.walk state).Within rank owed := by
  have others (state : σ) (tokens : List Token) :
      body.loop ∉ ((body.round state).run tokens).rounds :=
    fun made => Nat.lt_irrefl _ ((inner state).below tokens _ made)
  have below {state : σ} {tokens : List Token} {loop : Loop}
      (made : loop ∈ body.loop :: ((body.round state).run tokens).rounds) :
      loop.rank < rank := by
    rcases List.mem_cons.mp made with rfl | inside
    · exact deep
    · exact Nat.lt_trans ((inner state).below tokens loop inside) deep
  constructor
  · intro tokens loop made
    change loop ∈ (body.trail state tokens).rounds at made
    fun_induction body.trail state tokens with
    | case1 => exact below made
    | case2 state tokens round value found =>
        exact Nat.lt_trans ((inner state).below tokens loop made) deep
    | case3 => exact below made
    | case4 state tokens round next found later ih =>
        rcases List.mem_append.mp made with now | after
        · exact below now
        · exact ih after
  · intro tokens loop
    change (body.trail state tokens).rounds.count loop + (body.trail state tokens).rest.length ≤ _
    fun_induction body.trail state tokens with
    | case1 state tokens round fault found =>
        exact count_round owed (others state tokens) ((inner state).paid tokens)
          (spent state tokens (by rw [Trail.begun, found])) loop
    | case2 state tokens round value found =>
        exact Nat.le_add_right_of_le ((inner state).paid tokens loop)
    | case3 state tokens round value found =>
        exact count_round owed (others state tokens) ((inner state).paid tokens)
          (spent state tokens (by rw [Trail.begun, found])) loop
    | case4 state tokens round next found later ih =>
        have now : (body.loop :: round.rounds).count loop + round.rest.length ≤ tokens.length :=
          count_round 0 (others state tokens) ((inner state).paid tokens)
            (body.forward state tokens next found) loop
        have after : later.rounds.count loop + later.rest.length ≤ round.rest.length + owed := ih
        dsimp only
        rw [List.count_append]
        omega

theorem within_test {loop : Loop} {round : σ → Walk (Round σ α)}
    {moves : ∀ state tokens, ((round state).run tokens).begun = true → (round state).Moves tokens}
    {rank : Nat} (deep : loop.rank < rank) (inner : ∀ state, (round state).Within loop.rank 0)
    (state : σ) : ((ofTest loop round moves).walk state).Within rank 0 :=
  within_walk deep inner moves state

theorem within_owed {body : LoopBody σ α} {rank : Nat} (deep : body.loop.rank < rank)
    (inner : ∀ state, (body.round state).Within body.loop.rank 0) (state : σ) :
    (body.walk state).Within rank 1 :=
  within_walk deep inner (fun state tokens _ =>
    Nat.lt_succ_of_le ((body.round state).ahead tokens).length_le) state

end LoopBody

end ErDiagram.Script
