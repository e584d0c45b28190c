import ErDiagram.Proofs.Text.Blank
import ErDiagram.Text.Search
import Mathlib.Data.List.Infix

/-!
# What a search finds

Each reader of a search is described twice: what a text looks like on which it succeeds, and a shape
of text on which it is sure to succeed. A search for a literal is the question whether the literal
occurs, and a character that the literal does not hold divides that question in two.
-/

namespace ErDiagram.Text

set_option autoImplicit false

variable {α : Type}

theorem in_line_of_no_feed {text : List Char} (noFeed : '\n' ∉ text) :
    ∀ c ∈ text, isInLine c = true := by
  intro c member
  have other : c ≠ '\n' := fun same => noFeed (same ▸ member)
  simpa [isInLine] using other

theorem after_eq_some_iff {part text rest : List Char} :
    after? part text = some rest ↔ text = part ++ rest := by
  induction part generalizing text with
  | nil => simp [after?]
  | cons p part ih =>
      cases text with
      | nil => simp [after?]
      | cons c later =>
          by_cases same : p = c
          · subst same
            simp [after?, ih]
          · have differ : ¬ c = p := fun equal => same equal.symm
            simp [after?, same, differ]

theorem after_append (part rest : List Char) : after? part (part ++ rest) = some rest :=
  after_eq_some_iff.mpr rfl

theorem is_some_after_iff {part text : List Char} :
    (after? part text).isSome = true ↔ part <+: text := by
  rw [Option.isSome_iff_exists]
  constructor
  · rintro ⟨rest, found⟩
    exact ⟨rest, (after_eq_some_iff.mp found).symm⟩
  · rintro ⟨rest, same⟩
    exact ⟨rest, after_eq_some_iff.mpr same.symm⟩

theorem prefix_append_cons_iff {part text rest : List Char} {separator : Char}
    (lacks : separator ∉ part) : part <+: text ++ separator :: rest ↔ part <+: text := by
  constructor
  · rintro ⟨after, split⟩
    rcases List.append_eq_append_iff.mp split with ⟨more, inside, -⟩ | ⟨crossed, reaches, begins⟩
    · exact ⟨more, inside.symm⟩
    · cases crossed with
      | nil => exact ⟨[], by simp [reaches]⟩
      | cons c more =>
          have same : separator = c := (List.cons.inj begins).1
          exact absurd (by simp [reaches, same]) lacks
  · intro begins
    exact begins.trans (List.prefix_append _ _)

theorem infix_append_cons_iff {part text rest : List Char} {separator : Char}
    (nonempty : part ≠ []) (lacks : separator ∉ part) :
    part <:+: text ++ separator :: rest ↔ part <:+: text ∨ part <:+: rest := by
  induction text with
  | nil =>
      have single : ¬ part <+: separator :: rest := by
        intro begins
        have inNothing : part <+: [] := by
          rw [← List.nil_append (separator :: rest)] at begins
          exact (prefix_append_cons_iff lacks).mp begins
        exact nonempty (List.prefix_nil.mp inNothing)
      simp [List.infix_cons_iff, single, nonempty]
  | cons c text ih =>
      have here : part <+: c :: (text ++ separator :: rest) ↔ part <+: c :: text := by
        rw [← List.cons_append]
        exact prefix_append_cons_iff lacks
      rw [List.cons_append, List.infix_cons_iff, here, ih, List.infix_cons_iff, or_assoc]

theorem literal_append (part : String) (next : List Char → Option α) (rest : List Char) :
    literal part next (part.toList ++ rest) = next rest := by
  rw [literal, after_append, Option.bind_some]

theorem literal_sound {part : String} {next : List Char → Option α} {text : List Char} {value : α}
    (found : literal part next text = some value) :
    ∃ rest, text = part.toList ++ rest ∧ next rest = some value := by
  obtain ⟨rest, split, read⟩ := Option.bind_eq_some_iff.mp found
  exact ⟨rest, after_eq_some_iff.mp split, read⟩

/-- The run of a shortest search is the given one if the rest is read after it and nothing can be
read after any shorter run. -/
theorem shortest_append {accepts : Char → Bool} {next : List Char → Option α}
    {run rest : List Char} {value : α} (accepted : ∀ c ∈ run, accepts c = true)
    (later : ∀ front back, run = front ++ back → back ≠ [] → next (back ++ rest) = none)
    (read : next rest = some value) :
    shortest accepts next (run ++ rest) = some (run, value) := by
  induction run with
  | nil =>
      cases rest with
      | nil => simp [shortest, read]
      | cons c more => simp [shortest, read]
  | cons c run ih =>
      have here := later [] (c :: run) rfl (by simp)
      have found := ih (fun d member => accepted d (List.mem_cons_of_mem _ member))
        (fun front back split => later (c :: front) back (by rw [split]; rfl))
      rw [List.cons_append] at here ⊢
      simp only [shortest, here, if_pos (accepted c List.mem_cons_self), found]
      rfl

theorem shortest_sound {accepts : Char → Bool} {next : List Char → Option α}
    {text run : List Char} {value : α} (found : shortest accepts next text = some (run, value)) :
    ∃ rest, text = run ++ rest ∧ (∀ c ∈ run, accepts c = true) ∧ next rest = some value := by
  induction text generalizing run with
  | nil =>
      obtain ⟨other, read, same⟩ := Option.map_eq_some_iff.mp found
      cases same
      exact ⟨[], rfl, by simp, read⟩
  | cons c text ih =>
      rw [shortest] at found
      split at found
      · next read =>
        cases found
        exact ⟨c :: text, rfl, by simp, read⟩
      split at found
      · next accepted =>
        obtain ⟨⟨shorter, other⟩, inner, same⟩ := Option.map_eq_some_iff.mp found
        cases same
        obtain ⟨rest, split, all, read⟩ := ih inner
        exact ⟨rest, by rw [split]; rfl, by simpa [extend, accepted] using all, read⟩
      · contradiction

theorem shortest_of_read {accepts : Char → Bool} {next : List Char → Option α}
    {run rest : List Char} {value : α} (accepted : ∀ c ∈ run, accepts c = true)
    (read : next rest = some value) :
    ∃ front back found, run = front ++ back ∧ next (back ++ rest) = some found ∧
      shortest accepts next (run ++ rest) = some (front, found) := by
  induction run with
  | nil => exact ⟨[], [], value, rfl, read, by cases rest <;> simp [shortest, read]⟩
  | cons c run ih =>
      rw [List.cons_append, shortest]
      split
      · next found here => exact ⟨[], c :: run, found, rfl, here, rfl⟩
      · obtain ⟨front, back, found, split, later, inner⟩ :=
          ih fun d member => accepted d (List.mem_cons_of_mem _ member)
        refine ⟨c :: front, back, found, by rw [split, List.cons_append], later, ?_⟩
        rw [if_pos (accepted c List.mem_cons_self), inner]
        rfl

theorem longest_run_append {accepts : Char → Bool} {next : List Char → Option α}
    {run rest later : List Char} {value : α} (accepted : ∀ c ∈ run, accepts c = true)
    (found : longest accepts next rest = some (later, value)) :
    longest accepts next (run ++ rest) = some (run ++ later, value) := by
  induction run with
  | nil => exact found
  | cons c run ih =>
      have inner := ih fun d member => accepted d (List.mem_cons_of_mem _ member)
      simp only [List.cons_append, longest, if_pos (accepted c List.mem_cons_self), inner]
      rfl

theorem longest_append {accepts : Char → Bool} {next : List Char → Option α}
    {run rest : List Char} {value : α} (accepted : ∀ c ∈ run, accepts c = true)
    (stops : ∀ c ∈ rest.head?, accepts c = false) (read : next rest = some value) :
    longest accepts next (run ++ rest) = some (run, value) := by
  have here : longest accepts next rest = some ([], value) := by
    cases rest with
    | nil => simp [longest, read]
    | cons c more => simp [longest, stops c rfl, read]
  simpa using longest_run_append accepted here

theorem longest_sound {accepts : Char → Bool} {next : List Char → Option α}
    {text run : List Char} {value : α} (found : longest accepts next text = some (run, value)) :
    ∃ rest, text = run ++ rest ∧ (∀ c ∈ run, accepts c = true) ∧ next rest = some value := by
  induction text generalizing run with
  | nil =>
      obtain ⟨other, read, same⟩ := Option.map_eq_some_iff.mp found
      cases same
      exact ⟨[], rfl, by simp, read⟩
  | cons c text ih =>
      simp only [longest] at found
      split at found
      · next shorter inner =>
        cases found
        split at inner
        · next accepted =>
          obtain ⟨rest, split, all, read⟩ := ih inner
          exact ⟨rest, by rw [split]; rfl, by simpa [accepted] using all, read⟩
        · contradiction
      · obtain ⟨other, read, same⟩ := Option.map_eq_some_iff.mp found
        cases same
        exact ⟨c :: text, rfl, by simp, read⟩

theorem blanks_gap_append {next : List Char → Option α} {gap rest : List Char} {value : α}
    (blank : Gap gap) (stops : ∀ c ∈ rest.head?, isBlank c = false) (read : next rest = some value) :
    blanks next (gap ++ rest) = some value := by
  rw [blanks, longest_append blank stops read]
  rfl

theorem blanks_sound {next : List Char → Option α} {text : List Char} {value : α}
    (found : blanks next text = some value) :
    ∃ gap rest, text = gap ++ rest ∧ Gap gap ∧ next rest = some value := by
  obtain ⟨⟨gap, other⟩, split, same⟩ := Option.map_eq_some_iff.mp found
  cases same
  obtain ⟨rest, whole, blank, read⟩ := longest_sound split
  exact ⟨gap, rest, whole, blank, read⟩

theorem some_blanks_append {next : List Char → Option α} {gap rest : List Char} {value : α}
    (separated : Separator gap) (stops : ∀ c ∈ rest.head?, isBlank c = false)
    (read : next rest = some value) : someBlanks next (gap ++ rest) = some value := by
  obtain ⟨nonempty, blank⟩ := separated
  cases gap with
  | nil => contradiction
  | cons c gap =>
      rw [List.cons_append, someBlanks, if_pos (blank c List.mem_cons_self)]
      exact blanks_gap_append (fun d member => blank d (List.mem_cons_of_mem _ member)) stops read

theorem some_blanks_sound {next : List Char → Option α} {text : List Char} {value : α}
    (found : someBlanks next text = some value) :
    ∃ gap rest, text = gap ++ rest ∧ Separator gap ∧ next rest = some value := by
  cases text with
  | nil => contradiction
  | cons c text =>
      rw [someBlanks] at found
      split at found
      · next here =>
        obtain ⟨gap, rest, split, blank, read⟩ := blanks_sound found
        exact ⟨c :: gap, rest, by rw [split, List.cons_append],
          ⟨by simp, List.forall_mem_cons.mpr ⟨here, blank⟩⟩, read⟩
      · contradiction

theorem longest_of_read (accepts : Char → Bool) {next : List Char → Option α} {text : List Char}
    {value : α} (read : next text = some value) : ∃ found, longest accepts next text = some found := by
  cases text with
  | nil => exact ⟨([], value), by simp [longest, read]⟩
  | cons c rest =>
      simp only [longest, read, Option.map_some]
      split <;> exact ⟨_, rfl⟩

theorem longest_maximal {accepts : Char → Bool} {next : List Char → Option α}
    {run more rest : List Char} {value : α} (accepted : ∀ c ∈ run ++ more, accepts c = true)
    (nonempty : more ≠ [])
    (found : longest accepts next ((run ++ more) ++ rest) = some (run, value)) :
    next rest = none := by
  rw [Option.eq_none_iff_forall_ne_some]
  intro other read
  obtain ⟨⟨later, value⟩, longer⟩ := longest_of_read accepts read
  rw [longest_run_append accepted longer, Option.some_inj, Prod.mk.injEq, List.append_assoc,
    List.append_right_eq_self, List.append_eq_nil_iff] at found
  exact nonempty found.1.1

/-- A shortest run after blanks begins with no blank, since the blanks before it are as many as can
be. -/
theorem some_blanks_shortest_sound {accepts : Char → Bool} {next : List Char → Option α}
    {text run : List Char} {value : α}
    (found : someBlanks (shortest accepts next) text = some (run, value)) :
    ∃ gap rest, text = gap ++ (run ++ rest) ∧ Separator gap ∧ next rest = some value ∧
      shortest accepts next (run ++ rest) = some (run, value) ∧
      ∀ c ∈ run.head?, isBlank c = false := by
  cases text with
  | nil => contradiction
  | cons d text =>
      rw [someBlanks] at found
      split at found
      · next here =>
        obtain ⟨⟨gap, _⟩, search, ⟨⟩⟩ := Option.map_eq_some_iff.mp found
        obtain ⟨after, rfl, blank, readRun⟩ := longest_sound search
        obtain ⟨rest, rfl, accepted, read⟩ := shortest_sound readRun
        refine ⟨d :: gap, rest, rfl, ⟨by simp, List.forall_mem_cons.mpr ⟨here, blank⟩⟩, read, readRun,
          ?_⟩
        cases run with
        | nil => simp
        | cons c run =>
            rintro _ ⟨⟩
            rw [← Bool.not_eq_true]
            intro blankFirst
            have single : ∀ e ∈ gap ++ [c], isBlank e = true := by
              simpa [List.mem_append, or_imp, forall_and] using ⟨blank, blankFirst⟩
            rw [List.cons_append, List.append_cons] at search
            have missing := longest_maximal single (by simp) search
            -- What is read from the first character of the run can be read from the second.
            rw [List.cons_append, shortest] at readRun
            split at readRun
            · exact absurd readRun (by simp)
            · split at readRun
              · rw [missing] at readRun
                contradiction
              · contradiction
      · contradiction

theorem some_blanks_of_total {next : List Char → Option α}
    (total : ∀ text, ∃ value, next text = some value) {gap : List Char} (separated : Separator gap)
    (rest : List Char) : ∃ value, someBlanks next (gap ++ rest) = some value := by
  obtain ⟨c, gap, rfl⟩ := List.exists_cons_of_ne_nil separated.1
  obtain ⟨value, readRest⟩ := total (gap ++ rest)
  obtain ⟨found, read⟩ := longest_of_read isBlank readRest
  refine ⟨found.2, ?_⟩
  rw [List.cons_append, someBlanks, if_pos (separated.2 c List.mem_cons_self), blanks, read]
  rfl

theorem some_blanks_literal_append {part : String} {next : List Char → Option α}
    {gap rest : List Char} {value : α} (separated : Separator gap) (solid : Solid part.toList)
    (nonempty : part.toList ≠ []) (read : next rest = some value) :
    someBlanks (literal part next) (gap ++ (part.toList ++ rest)) = some value := by
  apply some_blanks_append separated
  · intro c first
    rw [List.head?_append_of_ne_nil _ nonempty] at first
    exact solid c (List.mem_of_mem_head? first)
  · rw [literal_append, read]

/-- A word between blanks that is read where a text ends is a word of that text, unless blanks alone
are left of the text. -/
theorem word_read_within {part : String} {next : List Char → Option α}
    (front : List Char) {back rest : List Char} {c : Char} {value : α} (solid : Solid part.toList)
    (nonempty : part.toList ≠ []) (blank : isBlank c = true) (inside : ¬ Gap back)
    (found : someBlanks (literal part (someBlanks next)) (back ++ c :: rest) = some value) :
    part.toList ∈ words (front ++ back) := by
  obtain ⟨gap, word, split, ⟨separated, isGap⟩, readWord⟩ := some_blanks_sound found
  obtain ⟨later, rfl, readLater⟩ := literal_sound readWord
  obtain ⟨second, last, rfl, ⟨separatedLater, isGapLater⟩, -⟩ := some_blanks_sound readLater
  obtain ⟨d, gap, rfl⟩ := List.exists_cons_of_ne_nil separated
  obtain ⟨e, second, rfl⟩ := List.exists_cons_of_ne_nil separatedLater
  -- Either side of the split is taken apart into words, and the first words agree.
  have sameWords : words back ++ words rest = part.toList :: words (second ++ last) := by
    rw [← words_append_cons blank, split, words_gap_append isGap, List.cons_append,
      words_solid_cons solid nonempty (isGapLater e List.mem_cons_self)]
  cases inBack : words back with
  | nil => exact absurd (gap_of_no_words inBack) inside
  | cons word more =>
      have first : word = part.toList := by
        rw [inBack] at sameWords
        exact (List.cons.inj sameWords).1
      cases back with
      | nil => contradiction
      | cons f back =>
          have begins : f = d := (List.cons.inj split).1
          have blankFirst : isBlank f = true := begins ▸ isGap d List.mem_cons_self
          rw [words_append_cons blankFirst, List.mem_append]
          rw [words_blank_cons blankFirst] at inBack
          exact .inr (by rw [inBack, first]; exact List.mem_cons_self)

theorem anywhere_of_read {read : List Char → Option α} {text : List Char} {value : α}
    (found : read text = some value) : anywhere read text = some value := by
  cases text with
  | nil => exact found
  | cons c rest => simp [anywhere, found]

theorem anywhere_sound {read : List Char → Option α} {text : List Char} {value : α}
    (found : anywhere read text = some value) :
    ∃ before after, text = before ++ after ∧ read after = some value := by
  induction text with
  | nil => exact ⟨[], [], rfl, found⟩
  | cons c rest ih =>
      rw [anywhere] at found
      split at found
      · next here =>
        cases found
        exact ⟨[], c :: rest, rfl, here⟩
      · obtain ⟨before, after, split, later⟩ := ih found
        exact ⟨c :: before, after, by rw [split]; rfl, later⟩

theorem anywhere_literal_sound {part : String} {next : List Char → Option α} {text : List Char}
    {value : α} (found : anywhere (literal part next) text = some value) :
    ∃ before rest, text = before ++ (part.toList ++ rest) ∧ next rest = some value := by
  obtain ⟨before, after, rfl, readPart⟩ := anywhere_sound found
  obtain ⟨rest, rfl, read⟩ := literal_sound readPart
  exact ⟨before, rest, rfl, read⟩

theorem anywhere_literal_none {part : String} {next : List Char → Option α} {text : List Char}
    (lacks : ¬ part.toList <:+: text) : anywhere (literal part next) text = none := by
  rw [Option.eq_none_iff_forall_ne_some]
  intro value found
  obtain ⟨before, rest, split, -⟩ := anywhere_literal_sound found
  apply lacks
  rw [split, ← List.append_assoc]
  exact List.infix_append _ _ _

def occurrences (part text : List Char) : Nat := text.tails.countP part.isPrefixOf

theorem occurrences_pos (part before rest : List Char) :
    0 < occurrences part (before ++ (part ++ rest)) := by
  rw [occurrences, List.countP_pos_iff]
  refine ⟨part ++ rest, ?_, ?_⟩
  · rw [List.mem_tails]
    exact List.suffix_append _ _
  · rw [List.isPrefixOf_iff_prefix]
    exact List.prefix_append _ _

theorem occurrences_cons {part rest : List Char} {c : Char} (begins : part <+: c :: rest) :
    occurrences part (c :: rest) = occurrences part rest + 1 := by
  rw [occurrences, List.tails_cons, List.countP_cons_of_pos (List.isPrefixOf_iff_prefix.mpr begins),
    occurrences]

theorem before_part_unique {part text before other rest otherRest : List Char}
    (once : occurrences part text ≤ 1) (split : text = before ++ (part ++ rest))
    (otherSplit : text = other ++ (part ++ otherRest)) : before = other := by
  induction text generalizing before other with
  | nil =>
      rw [eq_comm, List.append_eq_nil_iff] at split otherSplit
      rw [split.1, otherSplit.1]
  | cons c text ih =>
      cases before with
      | nil =>
          cases other with
          | nil => rfl
          | cons d other =>
              rw [List.cons_append, List.cons.injEq] at otherSplit
              obtain ⟨rfl, later⟩ := otherSplit
              rw [occurrences_cons ⟨rest, split.symm⟩, later] at once
              have again := occurrences_pos part other otherRest
              omega
      | cons d before =>
          rw [List.cons_append, List.cons.injEq] at split
          obtain ⟨rfl, later⟩ := split
          cases other with
          | nil =>
              rw [occurrences_cons ⟨otherRest, otherSplit.symm⟩, later] at once
              have again := occurrences_pos part before rest
              omega
          | cons e other =>
              rw [List.cons_append, List.cons.injEq] at otherSplit
              obtain ⟨rfl, otherLater⟩ := otherSplit
              have fewer : occurrences part text ≤ 1 := by
                refine le_trans ?_ once
                rw [occurrences, occurrences, List.tails_cons, List.countP_cons]
                exact Nat.le_add_right _ _
              rw [ih fewer later otherLater]

theorem cut_sound {part : String} {text before after : List Char}
    (found : cut part text = some (before, after)) : text = before ++ part.toList ++ after := by
  obtain ⟨rest, split, -, begins⟩ := shortest_sound found
  rw [split, after_eq_some_iff.mp begins, List.append_assoc]

theorem occurs_in_iff {part : String} {text : List Char} :
    occursIn part text = true ↔ part.toList <:+: text := by
  rw [occursIn]
  constructor
  · intro occurs
    obtain ⟨⟨before, after⟩, found⟩ := Option.isSome_iff_exists.mp occurs
    exact ⟨before, after, (cut_sound found).symm⟩
  · intro inside
    induction text with
    | nil =>
        have empty : part.toList = [] := List.infix_nil.mp inside
        simp [cut, shortest, empty, after?]
    | cons c text ih =>
        rw [cut, shortest]
        split
        · rfl
        · next missing =>
          rcases List.infix_cons_iff.mp inside with here | later
          · have found := is_some_after_iff.mpr here
            simp [missing] at found
          · simpa [cut] using ih later

theorem cut_eq_none_iff {part : String} {text : List Char} :
    cut part text = none ↔ ¬ part.toList <:+: text := by
  rw [← occurs_in_iff, occursIn]
  simp

theorem cut_append_cons {part : String} {before after : List Char} {separator : Char}
    (lacks : separator ∉ part.toList) (fresh : ¬ part.toList <:+: before) :
    cut part (before ++ separator :: (part.toList ++ after)) =
      some (before ++ [separator], after) := by
  have nonempty : part.toList ≠ [] := by
    intro empty
    exact fresh (by simp [empty])
  have split : before ++ separator :: (part.toList ++ after) =
      before ++ [separator] ++ (part.toList ++ after) := by simp
  rw [split, cut]
  apply shortest_append
  · intro c _
    rfl
  · intro front back divided notEmpty
    rw [← Option.not_isSome_iff_eq_none, is_some_after_iff]
    intro begins
    -- The rest of the run ends with the separator, so the part would lie inside `before`.
    obtain ⟨shorter, last, rfl⟩ : ∃ shorter last, back = shorter ++ [last] :=
      ⟨_, _, (List.dropLast_concat_getLast notEmpty).symm⟩
    rw [← List.append_assoc] at divided
    obtain ⟨rfl, same⟩ := List.append_inj' divided rfl
    cases same
    rw [List.append_assoc, List.singleton_append, prefix_append_cons_iff lacks] at begins
    exact fresh (begins.isInfix.trans (List.suffix_append _ _).isInfix)
  · exact after_append _ _

theorem cut_append (part : String) (after : List Char) :
    cut part (part.toList ++ after) = some ([], after) := by
  have nothing : ∀ front back : List Char, [] = front ++ back → back ≠ [] →
      after? part.toList (back ++ (part.toList ++ after)) = none := by
    intro front back split nonempty
    exact absurd (List.append_eq_nil_iff.mp split.symm).2 nonempty
  exact shortest_append (by simp) nothing (after_append part.toList after)

theorem cut_before_gap {part : String} {before after : List Char} {c : Char}
    (lacks : c ∉ part.toList) (fresh : ¬ part.toList <:+: before) :
    cut part (beforeGap before c ++ (part.toList ++ after)) =
      some (beforeGap before c, after) := by
  cases before with
  | nil => exact cut_append part after
  | cons d later =>
      have found : cut part (d :: later ++ c :: (part.toList ++ after)) =
          some (d :: later ++ [c], after) := cut_append_cons lacks fresh
      simpa [beforeGap] using found

end ErDiagram.Text
