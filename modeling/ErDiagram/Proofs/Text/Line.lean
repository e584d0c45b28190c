import ErDiagram.Text.Line

/-!
# Lines of a text that was put together from lines

Lines without line breaks come back unchanged from the text that they make up. The only loss is an
empty line at the end of a text whose lines are joined, since no line feed follows it.
-/

namespace ErDiagram.Text

set_option autoImplicit false

/-- A text that makes up one line: it holds no line feed, and no carriage return at its end. -/
def Unbroken (line : List Char) : Prop := '\n' ∉ line ∧ line.getLast? ≠ some '\r'

theorem unbroken_of_last {line : List Char} {c : Char} (noFeed : '\n' ∉ line)
    (last : line.getLast? = some c) (noReturn : c ≠ '\r') : Unbroken line := by
  refine ⟨noFeed, ?_⟩
  rw [last]
  simpa using noReturn

theorem unbroken_tail {c : Char} {rest : List Char} (unbroken : Unbroken (c :: rest)) :
    Unbroken rest := by
  refine ⟨fun member => unbroken.1 (List.mem_cons_of_mem _ member), fun last => ?_⟩
  cases rest with
  | nil => simp at last
  | cons d later => exact unbroken.2 (by rw [List.getLast?_cons_cons]; exact last)

theorem lines_cons {c : Char} {rest : List Char} (noFeed : c ≠ '\n')
    (noReturn : c = '\r' → rest.head? ≠ some '\n') :
    lines (c :: rest) = (c :: (lines rest).headD []) :: (lines rest).tail := by
  rw [lines]
  · cases lines rest <;> rfl
  case x_1 => exact noFeed
  case x_2 =>
    intro later carriage begins
    exact noReturn carriage (by rw [begins]; rfl)

theorem lines_append_line_feed {line : List Char} (unbroken : Unbroken line) (rest : List Char) :
    lines (line ++ '\n' :: rest) = line :: lines rest := by
  induction line with
  | nil => rfl
  | cons c later ih =>
      have noFeed : c ≠ '\n' := fun same => unbroken.1 (by simp [same])
      have noReturn : c = '\r' → (later ++ '\n' :: rest).head? ≠ some '\n' := by
        intro carriage
        cases later with
        | nil => exact absurd (by rw [carriage]; rfl) unbroken.2
        | cons d more =>
            intro feed
            exact unbroken.1 (by simp_all)
      rw [List.cons_append, lines_cons noFeed noReturn, ih (unbroken_tail unbroken), List.headD_cons,
        List.tail_cons]

theorem lines_of_unbroken {line : List Char} (unbroken : '\n' ∉ line) (nonempty : line ≠ []) :
    lines line = [line] := by
  induction line with
  | nil => contradiction
  | cons c later ih =>
      have noFeed : c ≠ '\n' := fun same => unbroken (by simp [same])
      have laterFree : '\n' ∉ later := fun member => unbroken (List.mem_cons_of_mem _ member)
      have noReturn : c = '\r' → later.head? ≠ some '\n' :=
        fun _ feed => laterFree (List.mem_of_mem_head? feed)
      rw [lines_cons noFeed noReturn]
      cases later with
      | nil => rfl
      | cons d more => rw [ih laterFree (by simp), List.headD_cons, List.tail_cons]

theorem lines_end_lines_append {found : List String}
    (unbroken : ∀ line ∈ found, Unbroken line.toList) (text : String) :
    lines (endLines found ++ text).toList = found.map String.toList ++ lines text.toList := by
  induction found with
  | nil => simp [endLines]
  | cons line rest ih =>
      have first := unbroken line List.mem_cons_self
      have later := ih fun other member => unbroken other (List.mem_cons_of_mem _ member)
      have split : (endLines (line :: rest) ++ text).toList =
          line.toList ++ '\n' :: (endLines rest ++ text).toList := by
        simp [endLines_cons]
      rw [split, lines_append_line_feed first, later, List.map_cons, List.cons_append]

theorem lines_end_lines {found : List String} (unbroken : ∀ line ∈ found, Unbroken line.toList) :
    lines (endLines found).toList = found.map String.toList := by
  simpa [lines] using lines_end_lines_append unbroken ""

theorem join_lines_append_last (found : List String) (last : String) :
    joinLines (found ++ [last]) = endLines found ++ last := by
  cases found with
  | nil => simp [joinLines, endLines]
  | cons line rest =>
      rw [← joinLines_append_lineFeed (List.cons_ne_nil line rest)]
      unfold joinLines
      rw [String.intercalate_append_of_ne_nil (by simp) (by simp)]
      simp

theorem line_feed_not_in_lines (text : List Char) : ∀ line ∈ lines text, '\n' ∉ line := by
  fun_induction lines text with
  | case1 => simp
  | case2 rest ih => exact List.forall_mem_cons.mpr ⟨by simp, ih⟩
  | case3 rest ih => exact List.forall_mem_cons.mpr ⟨by simp, ih⟩
  | case4 c rest noFeed _ _ _ => simpa using Ne.symm noFeed
  | case5 c rest noFeed _ first later found ih =>
      rw [found] at ih
      obtain ⟨inFirst, inLater⟩ := List.forall_mem_cons.mp ih
      refine List.forall_mem_cons.mpr ⟨?_, inLater⟩
      exact List.not_mem_cons_of_ne_of_not_mem (Ne.symm noFeed) inFirst

/-- Where the runs end that two lists begin with, equal lists have the same run and the same rest. -/
theorem run_append_inj {α : Type} {accepts : α → Bool} {first second rest other : List α}
    (accepted : ∀ a ∈ first, accepts a = true) (acceptedToo : ∀ a ∈ second, accepts a = true)
    (stops : ∀ a ∈ rest.head?, accepts a = false) (stopsToo : ∀ a ∈ other.head?, accepts a = false)
    (same : first ++ rest = second ++ other) : first = second ∧ rest = other := by
  induction first generalizing second with
  | nil =>
      cases second with
      | nil => exact ⟨rfl, same⟩
      | cons b second =>
          rw [List.nil_append] at same
          have stopped := stops b (by rw [same]; rfl)
          have more := acceptedToo b List.mem_cons_self
          exact absurd (stopped.symm.trans more) Bool.false_ne_true
  | cons a first ih =>
      obtain ⟨here, later⟩ := List.forall_mem_cons.mp accepted
      cases second with
      | nil =>
          rw [List.nil_append] at same
          have stopped := stopsToo a (by rw [← same]; rfl)
          exact absurd (stopped.symm.trans here) Bool.false_ne_true
      | cons b second =>
          obtain ⟨-, laterToo⟩ := List.forall_mem_cons.mp acceptedToo
          obtain ⟨rfl, tails⟩ := List.cons.inj same
          obtain ⟨rfl, rests⟩ := ih later laterToo tails
          exact ⟨rfl, rests⟩

theorem end_lines_ne_empty (line : String) (rest : List String) :
    endLines (line :: rest) ≠ "" := by
  intro empty
  have feed : '\n' ∈ (endLines (line :: rest)).toList := by
    rw [endLines_cons, String.toList_append, String.toList_append]
    simp
  rw [empty] at feed
  contradiction

theorem end_lines_inj {first second : List String} (inLines : ∀ line ∈ first, '\n' ∉ line.toList)
    (inLinesToo : ∀ line ∈ second, '\n' ∉ line.toList) (same : endLines first = endLines second) :
    first = second := by
  have run {line : String} (inLine : '\n' ∉ line.toList) : ∀ c ∈ line.toList, (c != '\n') = true := by
    intro c member
    exact bne_iff_ne.mpr fun feed => inLine (feed ▸ member)
  have stop (text : List Char) : ∀ c ∈ ('\n' :: text).head?, (c != '\n') = false := by
    rintro _ ⟨⟩
    rfl
  induction first generalizing second with
  | nil =>
      cases second with
      | nil => rfl
      | cons next later => exact absurd same.symm (end_lines_ne_empty next later)
  | cons line rest ih =>
      cases second with
      | nil => exact absurd same (end_lines_ne_empty line rest)
      | cons next later =>
          obtain ⟨inLine, inRest⟩ := List.forall_mem_cons.mp inLines
          obtain ⟨inNext, inLater⟩ := List.forall_mem_cons.mp inLinesToo
          have lists : line.toList ++ '\n' :: (endLines rest).toList =
              next.toList ++ '\n' :: (endLines later).toList := by
            simpa [endLines_cons] using congrArg String.toList same
          obtain ⟨lineSame, restSame⟩ :=
            run_append_inj (run inLine) (run inNext) (stop _) (stop _) lists
          have ended : endLines rest = endLines later :=
            String.toList_injective (List.cons.inj restSame).2
          rw [String.toList_injective lineSame, ih inRest inLater ended]

theorem join_lines_inj {first second : List String} (nonempty : first ≠ [])
    (nonemptyToo : second ≠ []) (inLines : ∀ line ∈ first, '\n' ∉ line.toList)
    (inLinesToo : ∀ line ∈ second, '\n' ∉ line.toList) (same : joinLines first = joinLines second) :
    first = second := by
  apply end_lines_inj inLines inLinesToo
  rw [← joinLines_append_lineFeed nonempty, same, joinLines_append_lineFeed nonemptyToo]

end ErDiagram.Text
