import ErDiagram.Proofs.Text.Search
import ErDiagram.Query.Algebra

/-!
# What an expression is read as

A list of columns or a condition stands before its operand in parentheses, and it is read up to the
first place where an operand can begin. It is read whole if no blank in it stands directly before an
opening parenthesis, and cut short otherwise. The lengths of what was read bound the length of the
expression, wherever in it the reading begins.
-/

namespace ErDiagram

set_option autoImplicit false

open Text

def BlankBeforeParen (text : List Char) : Prop := ∃ c, isBlank c = true ∧ [c, '('] <:+: text

def hasBlankBeforeParen : List Char → Bool
  | [] => false
  | c :: text => (isBlank c && text.head? == some '(') || hasBlankBeforeParen text

theorem has_blank_before_paren_iff {text : List Char} :
    hasBlankBeforeParen text = true ↔ BlankBeforeParen text := by
  induction text with
  | nil => simp [hasBlankBeforeParen, BlankBeforeParen]
  | cons c text ih =>
      have opens : ['('] <+: text ↔ text.head? = some '(' := by
        cases text with
        | nil => simp
        | cons d text => simp [List.cons_prefix_cons, eq_comm]
      simp only [hasBlankBeforeParen, Bool.or_eq_true, Bool.and_eq_true, beq_iff_eq, ih,
        BlankBeforeParen, List.infix_cons_iff, List.cons_prefix_cons, opens]
      constructor
      · rintro (⟨blank, paren⟩ | ⟨d, blank, inside⟩)
        · exact ⟨c, blank, .inl ⟨rfl, paren⟩⟩
        · exact ⟨d, blank, .inr inside⟩
      · rintro ⟨d, blank, ⟨rfl, paren⟩ | inside⟩
        · exact .inl ⟨blank, paren⟩
        · exact .inr ⟨d, blank, inside⟩

instance (text : List Char) : Decidable (BlankBeforeParen text) :=
  decidable_of_iff _ has_blank_before_paren_iff

theorem blank_before_paren_cons {c : Char} {text : List Char} (bare : isBlank c = false) :
    BlankBeforeParen (c :: text) ↔ BlankBeforeParen text := by
  simp [← has_blank_before_paren_iff, hasBlankBeforeParen, bare]

/-- A text and an operand after it, as an expression in relational algebra holds them. -/
def beforeOperand (text operand : List Char) : List Char := text ++ ' ' :: '(' :: (operand ++ [')'])

theorem trimmed_expression {sign : Char} {text operand : List Char} (bare : isBlank sign = false) :
    Trimmed (sign :: ' ' :: beforeOperand text operand) := by
  apply trimmed_iff.mpr
  constructor
  · simpa using bare
  · have split : sign :: ' ' :: beforeOperand text operand =
        (sign :: ' ' :: (text ++ ' ' :: '(' :: operand)) ++ [')'] := by simp [beforeOperand]
    intro c last
    rw [split, List.getLast?_concat] at last
    cases last
    rfl

/-- An operand reaches to the last closing parenthesis of its line. -/
theorem operand_read {operand : List Char} {c : Char} (blank : isBlank c = true)
    (inLine : '\n' ∉ operand) : operand? (c :: '(' :: (operand ++ [')'])) = some (operand, ()) := by
  have closed : longest isInLine (literal ")" fun _ => some ()) [')'] = some ([], ()) := rfl
  have separated : Separator [c] := ⟨by simp, by simpa [Gap] using blank⟩
  apply some_blanks_literal_append separated (by decide) (by decide)
  simpa using longest_run_append (in_line_of_no_feed inLine) closed

theorem operand_sound {text operand : List Char} {value : Unit}
    (found : operand? text = some (operand, value)) :
    ∃ gap rest, text = gap ++ '(' :: (operand ++ ')' :: rest) ∧ Separator gap := by
  obtain ⟨gap, opened, split, separated, readOpened⟩ := some_blanks_sound found
  obtain ⟨inner, rfl, readInner⟩ := literal_sound readOpened
  obtain ⟨closed, rfl, -, readClosed⟩ := longest_sound readInner
  obtain ⟨rest, rfl, -⟩ := literal_sound readClosed
  exact ⟨gap, rest, split, separated⟩

theorem blank_before_paren_of_operand {front back rest operand : List Char} {value : Unit}
    (inside : ¬ Gap back) (found : operand? (back ++ rest) = some (operand, value)) :
    BlankBeforeParen (front ++ back) := by
  obtain ⟨gap, later, split, separated, blank⟩ := operand_sound found
  obtain ⟨shorter, c, rfl⟩ : ∃ shorter c, gap = shorter ++ [c] :=
    ⟨_, _, (List.dropLast_concat_getLast separated).symm⟩
  rcases List.append_eq_append_iff.mp split with ⟨more, ends, -⟩ | ⟨more, same, begins⟩
  · -- The text would be the start of the gap.
    refine absurd ?_ inside
    intro d member
    exact blank d (by rw [ends]; exact List.mem_append_left _ member)
  · cases more with
    | nil =>
        refine absurd ?_ inside
        rwa [same, List.append_nil]
    | cons d more =>
        have paren : d = '(' := (List.cons.inj begins).1.symm
        refine ⟨c, blank c (by simp), front ++ shorter, more, ?_⟩
        simp [same, paren]

section Reading

variable {text operand : List Char}

theorem before_operand_read (inLine : '\n' ∉ text) (bare : ∀ c ∈ text.getLast?, isBlank c = false)
    (operandInLine : '\n' ∉ operand) (apart : ¬ BlankBeforeParen text) :
    shortest isInLine operand? (beforeOperand text operand) = some (text, operand, ()) := by
  apply shortest_append (in_line_of_no_feed inLine)
  · intro front back split nonempty
    rw [Option.eq_none_iff_forall_ne_some]
    rintro ⟨earlier, value⟩ found
    have inside := not_gap_of_last (split ▸ bare) nonempty
    exact apart (split ▸ blank_before_paren_of_operand inside found)
  · exact operand_read rfl operandInLine

theorem before_operand_cut (inLine : '\n' ∉ text) (operandInLine : '\n' ∉ operand)
    (early : BlankBeforeParen text) :
    ∃ run found, shortest isInLine operand? (beforeOperand text operand) = some (run, found, ()) ∧
      run.length < text.length := by
  obtain ⟨c, blank, front, back, rfl⟩ := early
  have noFeed : '\n' ∉ back ++ ' ' :: '(' :: operand := by
    simp only [List.mem_append, List.mem_cons] at inLine ⊢
    grind
  have read : operand? (c :: '(' :: (back ++ ' ' :: '(' :: operand ++ [')'])) =
      some (back ++ ' ' :: '(' :: operand, ()) := operand_read blank noFeed
  have frontInLine : '\n' ∉ front := fun member => inLine (by simp [member])
  obtain ⟨run, rest, ⟨found, value⟩, split, -, search⟩ :=
    shortest_of_read (in_line_of_no_feed frontInLine) read
  refine ⟨run, found, ?_, ?_⟩
  · simpa [beforeOperand] using search
  · have shorter : run.length ≤ front.length := by simp [split]
    simp only [List.length_append, List.length_cons]
    omega

end Reading

theorem projection_of_search {c : Char} {columns rows run operand : List Char} (other : c ≠ '*')
    (bare : isBlank c = false)
    (search : shortest isInLine operand? (beforeOperand columns rows) = some (run, operand, ())) :
    projection? ('π' :: ' ' :: beforeOperand (c :: columns) rows) =
      some (trim (c :: run), trim operand) := by
  have read : projected? (beforeOperand (c :: columns) rows) = some (c :: run, operand, ()) := by
    rw [beforeOperand, List.cons_append, projected?, if_neg other, ← beforeOperand, search]
    rfl
  have spaced : someBlanks projected? ([' '] ++ beforeOperand (c :: columns) rows) =
      some (c :: run, operand, ()) := by
    apply some_blanks_append (by decide)
    · simpa [beforeOperand] using bare
    · exact read
  have signed : literal "π" (someBlanks projected?) ('π' :: ' ' :: beforeOperand (c :: columns) rows) =
      some (c :: run, operand, ()) := (literal_append "π" _ _).trans spaced
  rw [projection?, anywhere_of_read signed]
  rfl

theorem row_selection_of_search {condition source run operand : List Char}
    (nonempty : condition ≠ []) (bare : ∀ c ∈ condition.head?, isBlank c = false)
    (search : shortest isInLine operand? (beforeOperand condition source) =
      some (run, operand, ())) :
    rowSelection? ('σ' :: ' ' :: beforeOperand condition source) =
      some (trim run, trim operand) := by
  have spaced : someBlanks (shortest isInLine operand?) ([' '] ++ beforeOperand condition source) =
      some (run, operand, ()) := by
    apply some_blanks_append (by decide)
    · rwa [beforeOperand, List.head?_append_of_ne_nil _ nonempty]
    · exact search
  have signed : literal "σ" (someBlanks (shortest isInLine operand?))
      ('σ' :: ' ' :: beforeOperand condition source) = some (run, operand, ()) :=
    (literal_append "σ" _ _).trans spaced
  rw [rowSelection?, anywhere_of_read signed]
  rfl

/-- The star alone is no column, so a projection of columns that begin with it is read elsewhere. -/
theorem projection_of_star (rest : List Char) :
    projection? ('π' :: ' ' :: '*' :: rest) = projection? (' ' :: '*' :: rest) := by
  rfl

theorem before_operand_length {text run operand : List Char} {value : Unit}
    (found : shortest isInLine operand? text = some (run, operand, value)) :
    run.length + operand.length + 3 ≤ text.length := by
  obtain ⟨rest, rfl, -, read⟩ := shortest_sound found
  obtain ⟨gap, later, rfl, separated, -⟩ := operand_sound read
  have positive := List.length_pos_of_ne_nil separated
  simp only [List.length_append, List.length_cons]
  omega

theorem signed_sound {α : Type} {sign : String} {next : List Char → Option α} {text : List Char}
    {value : α} (found : anywhere (literal sign (someBlanks next)) text = some value) :
    ∃ before gap rest, text = before ++ (sign.toList ++ (gap ++ rest)) ∧ gap ≠ [] ∧
      next rest = some value := by
  obtain ⟨before, after, rfl, read⟩ := anywhere_sound found
  obtain ⟨spaced, rfl, readSpaced⟩ := literal_sound read
  obtain ⟨gap, rest, rfl, ⟨separated, -⟩, readRest⟩ := some_blanks_sound readSpaced
  exact ⟨before, gap, rest, rfl, separated, readRest⟩

theorem projected_length {text columns operand : List Char} {value : Unit}
    (found : projected? text = some (columns, operand, value)) :
    columns.length + operand.length + 3 ≤ text.length := by
  cases text with
  | nil => contradiction
  | cons c text =>
      rw [projected?] at found
      split at found
      · contradiction
      · obtain ⟨⟨run, rest⟩, search, same⟩ := Option.map_eq_some_iff.mp found
        cases same
        have bound := before_operand_length search
        simp only [List.length_cons]
        omega

theorem projection_length {text columns rows : List Char}
    (found : projection? text = some (columns, rows)) :
    columns.length + rows.length + 5 ≤ text.length := by
  obtain ⟨⟨run, operand, value⟩, search, same⟩ := Option.map_eq_some_iff.mp found
  cases same
  obtain ⟨before, gap, rest, rfl, separated, read⟩ := signed_sound search
  have sign : "π".toList.length = 1 := rfl
  have spaces := List.length_pos_of_ne_nil separated
  have bound := projected_length read
  have trimmed := length_trim_le run
  have trimmedOperand := length_trim_le operand
  simp only [List.length_append]
  omega

theorem row_selection_length {text condition source : List Char}
    (found : rowSelection? text = some (condition, source)) :
    condition.length + source.length + 5 ≤ text.length := by
  obtain ⟨⟨run, operand, value⟩, search, same⟩ := Option.map_eq_some_iff.mp found
  cases same
  obtain ⟨before, gap, rest, rfl, separated, read⟩ := signed_sound search
  have sign : "σ".toList.length = 1 := rfl
  have spaces := List.length_pos_of_ne_nil separated
  have bound := before_operand_length read
  have trimmed := length_trim_le run
  have trimmedOperand := length_trim_le operand
  simp only [List.length_append]
  omega

theorem row_selection_none {text : List Char} (lacks : 'σ' ∉ text) : rowSelection? text = none := by
  have nowhere : ¬ "σ".toList <:+: text := fun inside => lacks (inside.subset (by decide))
  rw [rowSelection?, anywhere_literal_none nowhere]
  rfl

theorem projection_none {text : List Char} (lacks : 'π' ∉ text) : projection? text = none := by
  have nowhere : ¬ "π".toList <:+: text := fun inside => lacks (inside.subset (by decide))
  rw [projection?, anywhere_literal_none nowhere]
  rfl

theorem join_none {text : List Char} (lacks : '(' ∉ text) : join? text = none := by
  have nowhere : ¬ "(".toList <:+: text := fun inside => lacks (inside.subset (by decide))
  rw [join?, anywhere_literal_none nowhere]
  rfl

section Projection

variable {columns rows : List Char}

theorem projection_read (nonempty : columns ≠ []) (star : columns.head? ≠ some '*')
    (inLine : '\n' ∉ columns) (trimmed : Trimmed columns) (apart : ¬ BlankBeforeParen columns)
    (rowsInLine : '\n' ∉ rows) :
    projection? ('π' :: ' ' :: beforeOperand columns rows) = some (columns, trim rows) := by
  cases columns with
  | nil => contradiction
  | cons c columns =>
      obtain ⟨first, last⟩ := trimmed_iff.mp trimmed
      have other : c ≠ '*' := fun same => star (by rw [same]; rfl)
      have laterInLine : '\n' ∉ columns := fun member => inLine (List.mem_cons_of_mem _ member)
      have laterLast : ∀ d ∈ columns.getLast?, isBlank d = false :=
        fun d isLast => last d (List.mem_getLast?_cons isLast)
      rw [blank_before_paren_cons (first c rfl)] at apart
      rw [projection_of_search other (first c rfl)
        (before_operand_read laterInLine laterLast rowsInLine apart), trimmed]

theorem projection_cut (star : columns.head? ≠ some '*') (inLine : '\n' ∉ columns)
    (trimmed : Trimmed columns) (early : BlankBeforeParen columns) (rowsInLine : '\n' ∉ rows) :
    ∃ found source, projection? ('π' :: ' ' :: beforeOperand columns rows) = some (found, source) ∧
      found.length < columns.length := by
  cases columns with
  | nil =>
      obtain ⟨c, -, inside⟩ := early
      exact absurd (inside.subset List.mem_cons_self) List.not_mem_nil
  | cons c columns =>
      obtain ⟨first, -⟩ := trimmed_iff.mp trimmed
      have other : c ≠ '*' := fun same => star (by rw [same]; rfl)
      have laterInLine : '\n' ∉ columns := fun member => inLine (List.mem_cons_of_mem _ member)
      rw [blank_before_paren_cons (first c rfl)] at early
      obtain ⟨run, operand, search, shorter⟩ := before_operand_cut laterInLine rowsInLine early
      exact ⟨_, _, projection_of_search other (first c rfl) search,
        (length_trim_le (c :: run)).trans_lt (Nat.succ_lt_succ shorter)⟩

end Projection

section RowSelection

variable {condition source : List Char}

theorem row_selection_read (nonempty : condition ≠ []) (inLine : '\n' ∉ condition)
    (trimmed : Trimmed condition) (apart : ¬ BlankBeforeParen condition)
    (sourceInLine : '\n' ∉ source) :
    rowSelection? ('σ' :: ' ' :: beforeOperand condition source) =
      some (condition, trim source) := by
  obtain ⟨first, last⟩ := trimmed_iff.mp trimmed
  rw [row_selection_of_search nonempty first
    (before_operand_read inLine last sourceInLine apart), trimmed]

theorem row_selection_cut (inLine : '\n' ∉ condition) (trimmed : Trimmed condition)
    (early : BlankBeforeParen condition) (sourceInLine : '\n' ∉ source) :
    ∃ found rest, rowSelection? ('σ' :: ' ' :: beforeOperand condition source) =
      some (found, rest) ∧ found.length < condition.length := by
  obtain ⟨c, -, inside⟩ := id early
  obtain ⟨first, -⟩ := trimmed_iff.mp trimmed
  obtain ⟨run, operand, search, shorter⟩ := before_operand_cut inLine sourceInLine early
  exact ⟨_, _, row_selection_of_search (List.ne_nil_of_mem (inside.subset List.mem_cons_self)) first search,
    (length_trim_le run).trans_lt shorter⟩

end RowSelection

end ErDiagram
