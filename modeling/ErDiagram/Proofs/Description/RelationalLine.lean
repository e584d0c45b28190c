import ErDiagram.Listing
import ErDiagram.Proofs.Description.Reading
import ErDiagram.Proofs.Text.WordLine
import ErDiagram.Proofs.Text.Word

/-!
# Lines in relational notation

A block in relational notation stands between parentheses, and a line that links tables says where a
foreign key refers to. A reference is read from the first place where all of it can be read, so a line
in which no `REFERENCES` can follow a closing parenthesis has none.
-/

namespace ErDiagram

set_option autoImplicit false

open Text

variable {defaultLabel : String} {block : Option String}

theorem bracketed_append {α : Type} {next : List Char → Option α} {run rest : List Char} {value : α}
    (inLine : '\n' ∉ run) (noClose : ')' ∉ run) (read : next rest = some value) :
    bracketed next ('(' :: (run ++ ')' :: rest)) = some (run, value) := by
  have opened : bracketed next ('(' :: (run ++ ')' :: rest)) =
      shortest isInLine (literal ")" next) (run ++ ')' :: rest) := rfl
  rw [opened]
  apply shortest_append (in_line_of_no_feed inLine)
  · intro front back split nonempty
    obtain ⟨c, back, rfl⟩ := List.exists_cons_of_ne_nil nonempty
    have other : ')' ≠ c := by
      rintro rfl
      exact noClose (by simp [split])
    simp [literal, after?, other]
  · exact read

theorem bracketed_sound {α : Type} {next : List Char → Option α} {text run : List Char} {value : α}
    (found : bracketed next text = some (run, value)) :
    ∃ rest, text = '(' :: (run ++ ')' :: rest) ∧ '\n' ∉ run ∧ next rest = some value := by
  obtain ⟨inner, rfl, search⟩ := literal_sound found
  obtain ⟨closed, rfl, accepted, read⟩ := shortest_sound search
  obtain ⟨rest, rfl, later⟩ := literal_sound read
  refine ⟨rest, rfl, ?_, later⟩
  intro member
  exact absurd (accepted '\n' member) (by decide)

/-- A line with a reference holds a foreign key mark and after it the parts of the reference, of which
none goes over a line's end. -/
structure KeyReference.Stands (reference : KeyReference) (line : List Char) : Prop where
  parts : ∃ before gap space indent blank after,
    line = before ++ (foreignKeyMark.toList ++ (gap ++ '(' :: (reference.column ++ ')' ::
      (space ++ ("REFERENCES".toList ++ (indent ++ (reference.target ++
        (blank ++ '(' :: (reference.targetColumn ++ ')' :: after)))))))))
  column : '\n' ∉ reference.column
  target : '\n' ∉ reference.target
  targetColumn : '\n' ∉ reference.targetColumn

theorem key_reference_sound {line : List Char} {reference : KeyReference}
    (found : KeyReference.ofLine? line = some reference) : reference.Stands line := by
  obtain ⟨before, marked, rfl, read⟩ := anywhere_sound found
  obtain ⟨text, rfl, after⟩ := literal_sound read
  obtain ⟨⟨column, target, targetColumn, ⟨⟩⟩, search, same⟩ := Option.map_eq_some_iff.mp after
  obtain ⟨gap, opened, rfl, -, inColumn⟩ := blanks_sound search
  obtain ⟨rest, rfl, columnInLine, references⟩ := bracketed_sound inColumn
  obtain ⟨space, word, rfl, -, mark⟩ := blanks_sound references
  obtain ⟨later, rfl, spaced⟩ := literal_sound mark
  obtain ⟨indent, name, rfl, -, inTarget⟩ := blanks_sound spaced
  obtain ⟨behind, rfl, accepted, inBrackets⟩ := shortest_sound inTarget
  obtain ⟨blank, bracket, rfl, -, inTargetColumn⟩ := blanks_sound inBrackets
  obtain ⟨tail, rfl, targetColumnInLine, -⟩ := bracketed_sound inTargetColumn
  rw [← same]
  refine ⟨⟨before, gap, space, indent, blank, tail, rfl⟩, columnInLine, ?_, targetColumnInLine⟩
  intro member
  exact absurd (accepted '\n' member) (by decide)

/-- A line has no reference if nothing but the end of its front is a closing parenthesis and no `R`
comes after the front. -/
theorem no_key_reference {front rest : List Char} (frontCloses : ')' ∉ front.dropLast)
    (restCloses : ')' ∉ rest) (restLacks : 'R' ∉ rest) :
    KeyReference.ofLine? (front ++ rest) = none := by
  rw [Option.eq_none_iff_forall_ne_some]
  intro reference found
  obtain ⟨start, gap, space, indent, blank, tail, parts⟩ := (key_reference_sound found).parts
  obtain ⟨after, split, references⟩ : ∃ after, front ++ rest =
      (start ++ (foreignKeyMark.toList ++ (gap ++ '(' :: reference.column))) ++ ')' :: after ∧
        'R' ∈ after :=
    ⟨space ++ ("REFERENCES".toList ++ (indent ++ (reference.target ++
      (blank ++ '(' :: (reference.targetColumn ++ ')' :: tail))))), by simpa using parts, by simp⟩
  rcases List.append_eq_append_iff.mp split with ⟨crossed, -, inRest⟩ | ⟨inner, inFront, divided⟩
  · exact restCloses (by simp [inRest])
  · cases inner with
    | nil => exact restCloses (by rw [← List.nil_append rest, ← divided]; simp)
    | cons c inner =>
        obtain ⟨rfl, rfl⟩ := List.cons.inj divided
        rcases List.mem_append.mp references with inInner | inRest
        · have nonempty : inner ≠ [] := List.ne_nil_of_mem inInner
          apply frontCloses
          rw [inFront, List.dropLast_append_of_ne_nil (by simp),
            List.dropLast_cons_of_ne_nil nonempty]
          simp
        · exact restLacks inRest

/-- The target of a reference runs up to the parenthesis: no shorter run has one directly after it. -/
theorem target_written {target targetColumn : String} (targetWord : AsciiWord target)
    (targetColumnWord : AsciiWord targetColumn) :
    shortest isInLine (blanks (bracketed fun _ => some ()))
        (target.toList ++ '(' :: (targetColumn.toList ++ [')'])) =
      some (target.toList, targetColumn.toList, ()) := by
  have inner : bracketed (fun _ => some ()) ('(' :: (targetColumn.toList ++ [')'])) =
      some (targetColumn.toList, ()) :=
    bracketed_append (targetColumnWord.lacks (by decide)) (targetColumnWord.lacks (by decide)) rfl
  apply shortest_append (in_line_of_no_feed (targetWord.lacks (by decide)))
  · intro front back split nonempty
    rw [Option.eq_none_iff_forall_ne_some]
    intro value found
    obtain ⟨c, back, rfl⟩ := List.exists_cons_of_ne_nil nonempty
    have word : isAsciiWordChar c = true := targetWord.all c (by simp [split])
    obtain ⟨blank, opened, divided, isGap, read⟩ := blanks_sound found
    obtain ⟨rest, rfl, -⟩ := bracketed_sound read
    cases blank with
    | nil =>
        have same : c = '(' := (List.cons.inj divided).1
        exact ne_of_ascii_word_char word (by decide) same
    | cons d blank =>
        have same : c = d := (List.cons.inj divided).1
        have isBlank := isGap d List.mem_cons_self
        rw [← same, ascii_word_char_not_blank word] at isBlank
        contradiction
  · rw [← List.nil_append ('(' :: _)]
    apply blanks_gap_append (by decide) _ inner
    intro c first
    cases first
    rfl

def ForeignKey.afterMark (key : ForeignKey) : List Char :=
  [' '] ++ '(' :: (key.column.toList ++ ')' :: ([' '] ++ ("REFERENCES".toList ++
    ([' '] ++ (key.refTable.toList ++ '(' :: (key.refColumn.toList ++ [')']))))))

theorem relational_line_eq (key : ForeignKey) :
    key.relationalLine = "FOREIGN KEY (" ++ key.column ++ ") REFERENCES " ++ key.refTable ++ "(" ++
      key.refColumn ++ ")" := rfl

theorem to_list_key_line (key : ForeignKey) :
    key.relationalLine.toList = foreignKeyMark.toList ++ key.afterMark := by
  rw [relational_line_eq]
  simp [foreignKeyMark, ForeignKey.afterMark]

theorem key_reference_written {key : ForeignKey} (column : AsciiWord key.column)
    (target : AsciiWord key.refTable) (targetColumn : AsciiWord key.refColumn) :
    KeyReference.ofLine? key.relationalLine.toList =
      some ⟨key.column.toList, key.refTable.toList, key.refColumn.toList⟩ := by
  have gap : Gap [' '] := by decide
  have spaced := blanks_gap_append gap (by
    intro c first
    rw [List.head?_append_of_ne_nil _ target.nonempty] at first
    exact target.solid c (List.mem_of_mem_head? first)) (target_written target targetColumn)
  have references : blanks (literal "REFERENCES"
      (blanks (shortest isInLine (blanks (bracketed fun _ => some ())))))
      ([' '] ++ ("REFERENCES".toList ++
        ([' '] ++ (key.refTable.toList ++ '(' :: (key.refColumn.toList ++ [')']))))) =
        some (key.refTable.toList, key.refColumn.toList, ()) := by
    apply blanks_gap_append gap
    · intro c first
      cases first
      rfl
    · rw [literal_append]
      exact spaced
  have bracket := bracketed_append (column.lacks (by decide)) (column.lacks (by decide)) references
  have marked : blanks (bracketed (blanks (literal "REFERENCES"
      (blanks (shortest isInLine (blanks (bracketed fun _ => some ()))))))) key.afterMark =
        some (key.column.toList, key.refTable.toList, key.refColumn.toList, ()) := by
    apply blanks_gap_append gap _ bracket
    intro c first
    cases first
    rfl
  rw [to_list_key_line, KeyReference.ofLine?]
  apply anywhere_of_read
  rw [literal_append, KeyReference.afterMark?, marked]
  rfl

theorem unmarked_open_line {name : String} (unmarked : ¬ foreignKeyMark.toList <:+: name.toList) :
    ¬ foreignKeyMark.toList <:+: name.toList ++ [' '] ++ ['('] := by
  rw [List.infix_concat_iff, List.suffix_concat_iff, List.infix_concat_iff, List.suffix_concat_iff]
  rintro ((empty | ⟨front, ends, -⟩) | (empty | ⟨front, ends, -⟩) | inside)
  · exact absurd empty (by decide)
  · exact absurd (congrArg List.getLast? ends) (by rw [List.getLast?_concat]; decide)
  · exact absurd empty (by decide)
  · exact absurd (congrArg List.getLast? ends) (by rw [List.getLast?_concat]; decide)
  · exact unmarked inside

theorem read_relational_opener {line : List Char} {name : String} (nonempty : name.toList ≠ [])
    (trimmed : Trimmed name.toList) (unmarked : ¬ foreignKeyMark.toList <:+: name.toList)
    (same : trim line = trim (name ++ " (").toList) :
    readLine .relational defaultLabel block line = ⟨some (.openEntity name), namedBlock name⟩ := by
  have whole : trim line = name.toList ++ [' '] ++ ['('] := by
    have split : (name ++ " (").toList = name.toList ++ [' '] ++ ['('] := by simp
    have isTrimmed : Trimmed (name.toList ++ [' '] ++ ['(']) := by
      apply trimmed_iff.mpr
      constructor
      · rw [List.append_assoc, List.head?_append_of_ne_nil _ nonempty]
        exact (trimmed_iff.mp trimmed).1
      · intro c last
        rw [List.getLast?_concat] at last
        cases last
        rfl
    rw [same, split, isTrimmed]
  have front : trim (name.toList ++ [' ']) = name.toList := by
    rw [trim_append_gap (by decide), trimmed]
  have opened := read_trimmed_opener .relational defaultLabel block (unmarked_open_line unmarked)
  rw [front, String.ofList_toList] at opened
  rw [read_line_of_trim whole (by simp)]
  exact opened

theorem read_relational_open_line {name : String} (word : AsciiWord name) :
    readLine .relational defaultLabel block (name ++ " (").toList =
      ⟨some (.openEntity name), namedBlock name⟩ :=
  read_relational_opener word.nonempty word.trimmed
    (word.not_infix (c := ' ') (by decide) rfl) rfl

theorem read_relational_close_line :
    readLine .relational defaultLabel block ")".toList = ⟨some .closeEntity, none⟩ := rfl

theorem last_key_line (key : ForeignKey) : key.relationalLine.toList.getLast? = some ')' := by
  have split : key.relationalLine.toList = foreignKeyMark.toList ++ ([' '] ++ '(' ::
      (key.column.toList ++ ')' :: ([' '] ++ ("REFERENCES".toList ++
        ([' '] ++ (key.refTable.toList ++ '(' :: key.refColumn.toList)))))) ++ [')'] := by
    rw [to_list_key_line]
    simp [ForeignKey.afterMark]
  rw [split, List.getLast?_concat]

theorem read_key_line {key : ForeignKey} (column : AsciiWord key.column)
    (target : AsciiWord key.refTable) (targetColumn : AsciiWord key.refColumn) :
    readLine .relational defaultLabel none key.relationalLine.toList =
      ⟨some (.addRelationship ⟨key.refTable, "", key.column ++ " references " ++ key.refColumn⟩),
        none⟩ := by
  have first : key.relationalLine.toList.head? = some 'F' := by
    rw [to_list_key_line]
    rfl
  have last := last_key_line key
  have line : trim key.relationalLine.toList = key.relationalLine.toList := by
    apply trimmed_iff.mpr
    rw [first, last]
    constructor
    · intro c same
      cases same
      rfl
    · intro c same
      cases same
      rfl
  have nonempty : key.relationalLine.toList ≠ [] := by
    intro empty
    rw [empty] at first
    exact absurd first (by decide)
  have label : String.ofList (key.column.toList ++ " references ".toList ++ key.refColumn.toList) =
      key.column ++ " references " ++ key.refColumn := by
    rw [← String.toList_append, ← String.toList_append, String.ofList_toList]
  rw [read_line_of_trim line nonempty, read_trimmed_link]
  · simp only [Dialect.link?, key_reference_written column target targetColumn, Option.map_some,
      KeyReference.relationship, label, String.ofList_toList, Option.getD_none]
  · apply block_name_eq_none
    rw [last]
    decide
  · intro closer
    rw [closer] at first
    exact absurd first (by decide)
  · intro isOpen
    exact absurd isOpen (by decide)

end ErDiagram
