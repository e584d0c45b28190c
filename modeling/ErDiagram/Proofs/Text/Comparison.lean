import ErDiagram.Proofs.Text.Search

/-!
# Readers compared

Two readers can be compared part by part. Where one of them reads a changed text just as the other reads
the text itself, so do the readers that a search builds from them. And where one of them finds nothing
but what the other finds, so does a search with it: it stops where the other stops if what is found there
can be kept, and may go on to a later place otherwise.

A search for words also finds the same in a text with blanks around it.
-/

namespace ErDiagram.Text

set_option autoImplicit false

variable {α β : Type} {next : List Char → Option α} {other : List Char → Option β} {view : β → α}

section Change

variable {change : Char → Char}

theorem after_map {part : List Char} (spelled : ∀ p ∈ part, ∀ c, p = change c ↔ p = c)
    (text : List Char) :
    after? part (text.map change) = (after? part text).map (List.map change) := by
  induction part generalizing text with
  | nil => rfl
  | cons p part ih =>
      obtain ⟨here, later⟩ := List.forall_mem_cons.mp spelled
      cases text with
      | nil => rfl
      | cons c rest =>
          rw [List.map_cons, after?, after?]
          by_cases same : p = c
          · rw [if_pos same, if_pos ((here c).mpr same), ih later]
          · rw [if_neg same, if_neg (mt (here c).mp same)]
            rfl

variable (same : ∀ text, next (text.map change) = (other text).map view)

include same

theorem literal_map {part : String} (spelled : ∀ p ∈ part.toList, ∀ c, p = change c ↔ p = c)
    (text : List Char) :
    literal part next (text.map change) = (literal part other text).map view := by
  rw [literal, literal, after_map spelled]
  cases after? part.toList text with
  | none => rfl
  | some rest => exact same rest

theorem shortest_map {accepts allows : Char → Bool} (accepted : ∀ c, accepts (change c) = allows c)
    (text : List Char) :
    shortest accepts next (text.map change) =
      (shortest allows other text).map (Prod.map (List.map change) view) := by
  induction text with
  | nil =>
      have nothing := same []
      rw [List.map_nil] at nothing
      rw [List.map_nil, shortest, shortest, nothing]
      cases other [] <;> rfl
  | cons c rest ih =>
      rw [List.map_cons, shortest, ← List.map_cons, same (c :: rest), shortest]
      cases other (c :: rest) with
      | some value => rfl
      | none =>
          rw [accepted c]
          dsimp only [Option.map_none]
          split
          · rw [ih]
            cases shortest allows other rest <;> rfl
          · rfl

theorem longest_map {accepts allows : Char → Bool} (accepted : ∀ c, accepts (change c) = allows c)
    (text : List Char) :
    longest accepts next (text.map change) =
      (longest allows other text).map (Prod.map (List.map change) view) := by
  induction text with
  | nil =>
      have nothing := same []
      rw [List.map_nil] at nothing
      rw [List.map_nil, longest, longest, nothing]
      cases other [] <;> rfl
  | cons c rest ih =>
      have here := same (c :: rest)
      rw [List.map_cons] at here
      simp only [List.map_cons, longest, ih, accepted c, here]
      cases allows c <;> cases longest allows other rest <;> cases other (c :: rest) <;> rfl

theorem some_blanks_map (blank : ∀ c, isBlank (change c) = isBlank c) (text : List Char) :
    someBlanks next (text.map change) = (someBlanks other text).map view := by
  cases text with
  | nil => rfl
  | cons c rest =>
      rw [List.map_cons, someBlanks, someBlanks, blank c]
      split
      · rw [blanks, blanks, longest_map same blank]
        cases longest isBlank other rest <;> rfl
      · rfl

theorem anywhere_map (text : List Char) :
    anywhere next (text.map change) = (anywhere other text).map view := by
  induction text with
  | nil => exact same []
  | cons c rest ih =>
      rw [List.map_cons, anywhere, ← List.map_cons, same (c :: rest), anywhere]
      cases other (c :: rest) with
      | some value => rfl
      | none => exact ih

end Change

/-- Whether `next` finds nothing where `other` finds nothing. -/
def Misses (next : List Char → Option α) (other : List Char → Option β) : Prop :=
  ∀ text, other text = none → next text = none

namespace Misses

variable (misses : Misses next other)

include misses

theorem literal (part : String) : Misses (literal part next) (literal part other) := by
  intro text missing
  rw [Text.literal] at missing ⊢
  cases found : after? part.toList text with
  | none => rfl
  | some rest =>
      rw [found] at missing
      exact misses rest missing

theorem shortest {accepts allows : Char → Bool} (fewer : ∀ c, accepts c = true → allows c = true) :
    Misses (shortest accepts next) (shortest allows other) := by
  intro text missing
  rw [Option.eq_none_iff_forall_ne_some]
  rintro ⟨run, value⟩ found
  obtain ⟨rest, rfl, accepted, read⟩ := shortest_sound found
  cases seen : other rest with
  | none =>
      rw [misses rest seen] at read
      contradiction
  | some value =>
      obtain ⟨front, -, earlier, -, -, search⟩ :=
        shortest_of_read (fun c member => fewer c (accepted c member)) seen
      rw [missing] at search
      contradiction

theorem longest (accepts : Char → Bool) : Misses (longest accepts next) (longest accepts other) := by
  intro text missing
  induction text with
  | nil =>
      rw [Text.longest, Option.map_eq_none_iff] at missing ⊢
      exact misses [] missing
  | cons c rest ih =>
      simp only [Text.longest] at missing ⊢
      split at missing
      · contradiction
      · next stopped =>
        rw [Option.map_eq_none_iff] at missing
        rw [misses _ missing]
        split at stopped
        · next accepted => rw [if_pos accepted, ih stopped]; rfl
        · next refused => rw [if_neg refused]; rfl

theorem someBlanks : Misses (someBlanks next) (someBlanks other) := by
  intro text missing
  cases text with
  | nil => rfl
  | cons c rest =>
      rw [Text.someBlanks] at missing ⊢
      split at missing
      · next blank =>
        rw [blanks, Option.map_eq_none_iff] at missing
        rw [if_pos blank, blanks, misses.longest isBlank _ missing]
        rfl
      · next bare => rw [if_neg bare]

theorem anywhere : Misses (anywhere next) (anywhere other) := by
  intro text missing
  induction text with
  | nil => exact misses [] missing
  | cons c rest ih =>
      rw [Text.anywhere] at missing ⊢
      split at missing
      · contradiction
      · next here =>
        rw [misses _ here]
        exact ih missing

end Misses

/-- Whether `next` finds nothing where `other` finds nothing, and finds what `other` finds if that is to
be kept. -/
structure Restricts (keep : β → Prop) (view : β → α) (next : List Char → Option α)
    (other : List Char → Option β) : Prop where
  nothing : ∀ text, other text = none → next text = none
  kept : ∀ text value, other text = some value → keep value → next text = some (view value)

theorem restricts_of_map {keep : β → Prop} (same : ∀ text, next text = (other text).map view) :
    Restricts keep view next other where
  nothing text missing := by rw [same, missing]; rfl
  kept text value found _ := by rw [same, found]; rfl

theorem Restricts.eq_map {keep : β → Prop} (restricts : Restricts keep view next other)
    (all : ∀ value, keep value) (text : List Char) : next text = (other text).map view := by
  cases found : other text with
  | none => exact restricts.nothing text found
  | some value => exact restricts.kept text value found (all value)

/-- A search for a shortest run that accepts fewer characters finds the run if it accepts all of it. -/
theorem restricts_shortest {accepts allows : Char → Bool}
    (fewer : ∀ c, accepts c = true → allows c = true) (same : ∀ text, next text = (other text).map view) :
    Restricts (fun found => ∀ c ∈ found.1, accepts c = true) (Prod.map id view)
      (shortest accepts next) (shortest allows other) where
  nothing := Misses.shortest (fun text missing => by rw [same, missing]; rfl) fewer
  kept text found search accepted := by
    induction text generalizing found with
    | nil =>
        rw [shortest] at search ⊢
        obtain ⟨value, read, rfl⟩ := Option.map_eq_some_iff.mp search
        rw [same, read]
        rfl
    | cons c rest ih =>
        rw [shortest] at search ⊢
        rw [same]
        cases read : other (c :: rest) with
        | some value =>
            rw [read] at search
            cases search
            rfl
        | none =>
            rw [read] at search
            dsimp only at search
            split at search
            · obtain ⟨shorter, inner, rfl⟩ := Option.map_eq_some_iff.mp search
              obtain ⟨here, later⟩ := List.forall_mem_cons.mp accepted
              dsimp only [Option.map_none]
              rw [if_pos here, ih shorter inner later]
              rfl
            · contradiction

namespace Restricts

variable {keep : β → Prop} (restricts : Restricts keep view next other)

include restricts

theorem literal (part : String) :
    Restricts keep view (literal part next) (literal part other) where
  nothing := Misses.literal restricts.nothing part
  kept text value found isKept := by
    obtain ⟨rest, begins, read⟩ := Option.bind_eq_some_iff.mp found
    rw [Text.literal, begins]
    exact restricts.kept rest value read isKept

theorem longest (accepts : Char → Bool) :
    Restricts (fun found => keep found.2) (Prod.map id view) (Text.longest accepts next)
      (Text.longest accepts other) where
  nothing := Misses.longest restricts.nothing accepts
  kept text found search isKept := by
    induction text generalizing found with
    | nil =>
        rw [Text.longest] at search ⊢
        obtain ⟨value, read, rfl⟩ := Option.map_eq_some_iff.mp search
        rw [restricts.kept [] value read isKept]
        rfl
    | cons c rest ih =>
        simp only [Text.longest] at search ⊢
        split at search
        · next longer extended =>
          cases search
          split at extended
          · next accepted =>
            rw [if_pos accepted, ih longer extended isKept]
            rfl
          · contradiction
        · next stopped =>
          obtain ⟨value, read, rfl⟩ := Option.map_eq_some_iff.mp search
          have stopsToo : (if accepts c then Text.longest accepts next rest else none) = none := by
            split at stopped
            · next accepted => rw [if_pos accepted, Misses.longest restricts.nothing accepts rest stopped]
            · next refused => rw [if_neg refused]
          rw [stopsToo, restricts.kept _ value read isKept]
          rfl

theorem someBlanks : Restricts keep view (someBlanks next) (someBlanks other) where
  nothing := Misses.someBlanks restricts.nothing
  kept text value found isKept := by
    cases text with
    | nil => contradiction
    | cons c rest =>
        rw [Text.someBlanks] at found ⊢
        split at found
        · next blank =>
          obtain ⟨⟨gap, seen⟩, search, rfl⟩ := Option.map_eq_some_iff.mp found
          rw [if_pos blank, blanks, (restricts.longest isBlank).kept rest _ search isKept]
          rfl
        · contradiction

theorem anywhere : Restricts keep view (anywhere next) (anywhere other) where
  nothing := Misses.anywhere restricts.nothing
  kept text value found isKept := by
    induction text with
    | nil => exact restricts.kept [] value found isKept
    | cons c rest ih =>
        rw [Text.anywhere] at found ⊢
        split at found
        · next here =>
          cases found
          rw [restricts.kept _ value here isKept]
        · next missing =>
          rw [restricts.nothing _ missing]
          exact ih found

end Restricts

/-- Whether blanks at the end of a text make no difference to a reader. -/
def EndBlind (next : List Char → Option α) : Prop :=
  ∀ text gap, Gap gap → next (text ++ gap) = next text

namespace EndBlind

variable (blind : EndBlind next)

theorem after_append_gap {part gap : List Char} (last : ∀ c ∈ part.getLast?, isBlank c = false)
    (blank : Gap gap) (text : List Char) :
    after? part (text ++ gap) = (after? part text).map (· ++ gap) := by
  induction part generalizing text with
  | nil => rfl
  | cons p part ih =>
      cases text with
      | nil =>
          have nothing : after? (p :: part) gap = none := by
            rw [Option.eq_none_iff_forall_ne_some]
            intro rest found
            have inGap : (p :: part).getLast (by simp) ∈ gap := by
              rw [after_eq_some_iff.mp found]
              exact List.mem_append_left _ (List.getLast_mem _)
            have bare := last _ (List.getLast?_eq_some_getLast (List.cons_ne_nil p part))
            rw [blank _ inGap] at bare
            contradiction
          rw [List.nil_append, nothing]
          rfl
      | cons c text =>
          have lastLater : ∀ d ∈ part.getLast?, isBlank d = false := by
            cases part with
            | nil => simp
            | cons q part => rwa [List.getLast?_cons_cons] at last
          rw [List.cons_append, after?, after?]
          split
          · exact ih lastLater text
          · rfl

include blind

theorem gap_eq_nil {gap : List Char} (blank : Gap gap) : next gap = next [] := blind [] gap blank

theorem literal {part : String} (last : ∀ c ∈ part.toList.getLast?, isBlank c = false) :
    EndBlind (literal part next) := by
  intro text gap blank
  rw [Text.literal, Text.literal, after_append_gap last blank]
  cases after? part.toList text with
  | none => rfl
  | some rest => exact blind rest gap blank

theorem shortest (accepts : Char → Bool) : EndBlind (shortest accepts next) := by
  intro text gap blank
  induction text with
  | nil =>
      induction gap with
      | nil => rfl
      | cons c gap ih =>
          have search := ih fun d member => blank d (List.mem_cons_of_mem _ member)
          rw [List.nil_append] at search ⊢
          simp only [Text.shortest, blind.gap_eq_nil blank, search]
          cases next [] <;> simp
  | cons c text ih =>
      have here := blind (c :: text) gap blank
      rw [List.cons_append] at here ⊢
      simp only [Text.shortest, here, ih]

theorem blanks : EndBlind (blanks next) := by
  intro text gap blank
  rw [Text.blanks, Text.blanks]
  induction text with
  | nil =>
      induction gap with
      | nil => rfl
      | cons c gap ih =>
          have search := ih fun d member => blank d (List.mem_cons_of_mem _ member)
          rw [List.nil_append] at search ⊢
          simp only [longest, if_pos (blank c List.mem_cons_self), blind.gap_eq_nil blank] at search ⊢
          cases found : longest isBlank next gap with
          | none => rfl
          | some value =>
              rw [found] at search
              exact search
  | cons c text ih =>
      have here := blind (c :: text) gap blank
      rw [List.cons_append] at here ⊢
      simp only [longest, here]
      by_cases first : isBlank c = true
      · simp only [if_pos first]
        cases found : longest isBlank next (text ++ gap) with
        | none =>
            rw [found, Option.map_none, eq_comm, Option.map_eq_none_iff] at ih
            rw [ih]
        | some value =>
            rw [found, Option.map_some, eq_comm, Option.map_eq_some_iff] at ih
            obtain ⟨other, same, values⟩ := ih
            rw [same]
            exact congrArg some values.symm
      · simp only [if_neg first]

/-- The empty text may not be read, since a longest run would take up blanks before it. -/
theorem longest (accepts : Char → Bool) (stops : next [] = none) :
    EndBlind (longest accepts next) := by
  intro text gap blank
  induction text with
  | nil =>
      induction gap with
      | nil => rfl
      | cons c gap ih =>
          have search := ih fun d member => blank d (List.mem_cons_of_mem _ member)
          rw [List.nil_append] at search ⊢
          simp only [Text.longest, search, blind.gap_eq_nil blank, stops, Option.map_none, ite_self]
  | cons c text ih =>
      have here := blind (c :: text) gap blank
      rw [List.cons_append] at here ⊢
      simp only [Text.longest, here, ih]

theorem someBlanks (stops : next [] = none) : EndBlind (someBlanks next) := by
  intro text gap blank
  cases text with
  | nil =>
      cases gap with
      | nil => rfl
      | cons c gap =>
          have later : Gap gap := fun d member => blank d (List.mem_cons_of_mem _ member)
          have nothing : Text.blanks next gap = none := by
            rw [blind.blanks.gap_eq_nil later, Text.blanks, Text.longest, stops]
            rfl
          change Text.someBlanks next (c :: gap) = none
          rw [Text.someBlanks, if_pos (blank c List.mem_cons_self), nothing]
  | cons c text =>
      rw [List.cons_append, Text.someBlanks, Text.someBlanks, blind.blanks text gap blank]

theorem anywhere : EndBlind (anywhere next) := by
  intro text gap blank
  induction text with
  | nil =>
      induction gap with
      | nil => rfl
      | cons c gap ih =>
          have search := ih fun d member => blank d (List.mem_cons_of_mem _ member)
          rw [List.nil_append] at search ⊢
          simp only [Text.anywhere, blind.gap_eq_nil blank, search]
          cases next [] <;> rfl
  | cons c text ih =>
      have here := blind (c :: text) gap blank
      rw [List.cons_append] at here ⊢
      simp only [Text.anywhere, here, ih]

end EndBlind

theorem anywhere_literal_gap_append {part : String} {p : Char} {more gap : List Char}
    (spelled : part.toList = p :: more) (bare : isBlank p = false) (blank : Gap gap)
    (text : List Char) :
    anywhere (literal part next) (gap ++ text) = anywhere (literal part next) text := by
  induction gap with
  | nil => rfl
  | cons c gap ih =>
      have other : p ≠ c := by
        rintro rfl
        exact absurd (blank p List.mem_cons_self) (by simp [bare])
      have nothing : literal part next (c :: (gap ++ text)) = none := by
        rw [literal, spelled, after?, if_neg other]
        rfl
      rw [List.cons_append, anywhere, nothing]
      exact ih fun d member => blank d (List.mem_cons_of_mem _ member)

end ErDiagram.Text
