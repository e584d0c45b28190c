import ErDiagram.Proofs.Document.Placement
import ErDiagram.Proofs.Text.FilledLines

/-!
# Descriptions in pieces

A reader carries nothing from one line to the next but the block that is open, and this block can be seen
in the statements that it has given so far. So a description that leaves no block open says the same
before any other description, and the other says the same after it.
-/

namespace ErDiagram

set_option autoImplicit false

open Text

variable {dialect : Dialect} {defaultLabel : String}

/-- No named entity is left open: the last opening or closing statement, if there is one, closes an
entity or opens one without a name. -/
def Document.Closed (document : Document) : Prop :=
  ∀ entity, document.lastBracket? = some (.openEntity entity) → entity = ""

theorem open_entity_of_closed {document : Document} (closed : document.Closed) :
    document.openEntity? = none := by
  rw [← Option.not_isSome_iff_eq_none]
  intro isOpen
  obtain ⟨entity, named, last⟩ := last_bracket_of_open_entity isOpen
  exact named (closed entity last)

theorem read_line_trim (block : Option String) (line : List Char) :
    readLine dialect defaultLabel block (trim line) = readLine dialect defaultLabel block line := by
  have same : trim (trim line) = trim line := trimmed_trim line
  rw [readLine, readLine, same]

/-- Lines say the same without the blanks around them, and empty lines say nothing. -/
theorem statements_after_filled (block : Option String) (found : List (List Char)) :
    statementsAfter dialect defaultLabel block ((found.map trim).filter (!·.isEmpty)) =
      statementsAfter dialect defaultLabel block found := by
  induction found generalizing block with
  | nil => rfl
  | cons line rest ih =>
      rw [List.map_cons]
      by_cases blank : trim line = []
      · rw [List.filter_cons_of_neg (by simp [blank]), ih,
          statements_after_cons (read_blank_line blank)]
        rfl
      · rw [List.filter_cons_of_pos (by simpa using blank), statementsAfter, statementsAfter,
          read_line_trim, ih]

theorem statements_of_filled (description : String) :
    statementsOf dialect defaultLabel description =
      statementsAfter dialect defaultLabel none (filledLines description.toList) :=
  (statements_after_filled none _).symm

theorem statements_of_joined {found : List String} (inLines : ∀ line ∈ found, '\n' ∉ line.toList) :
    statementsOf dialect defaultLabel (joinLines found) =
      statementsAfter dialect defaultLabel none (found.map String.toList) := by
  have trimmed : (found.map fun line => trim line.toList) = (found.map String.toList).map trim := by
    rw [List.map_map]
    rfl
  rw [statements_of_filled, filled_lines_join inLines, trimmed, statements_after_filled]

theorem block_after_eq (before : Document) (found : List (List Char)) :
    blockAfter dialect defaultLabel before.openEntity? found =
      Document.openEntity?
        (before ++ statementsAfter dialect defaultLabel before.openEntity? found) := by
  induction found generalizing before with
  | nil => rw [statementsAfter, List.append_nil, blockAfter]
  | cons line rest ih =>
      have block := block_of_line_reads (line_reads dialect defaultLabel before.openEntity? line)
      rw [blockAfter, statementsAfter, block, ih, List.append_assoc]

theorem statements_of_pieces (first second : String)
    (closed : (statementsOf dialect defaultLabel first).Closed) :
    statementsOf dialect defaultLabel (first ++ "\n" ++ second) =
      statementsOf dialect defaultLabel first ++ statementsOf dialect defaultLabel second := by
  have text : (first ++ "\n" ++ second).toList = first.toList ++ '\n' :: second.toList := by simp
  have left : blockAfter dialect defaultLabel none (filledLines first.toList) = none := by
    have seen : blockAfter dialect defaultLabel none (filledLines first.toList) =
        Document.openEntity? (statementsAfter dialect defaultLabel none (filledLines first.toList)) :=
      block_after_eq [] _
    rw [statements_of_filled] at closed
    exact seen.trans (open_entity_of_closed closed)
  rw [statements_of_filled, text, filled_lines_append, statements_after_append, left,
    ← statements_of_filled, ← statements_of_filled]

/-- Two descriptions with a line feed between them give the statements of the first and then those of the
second, each as if it stood alone, unless the first leaves a named entity open. -/
theorem read_pieces (dialect : Dialect) (defaultLabel first second : String) :
    ∃ before after, readDescription dialect { defaultLabel } first = .ok before ∧
      readDescription dialect { defaultLabel } second = .ok after ∧
      (before.Closed →
        readDescription dialect { defaultLabel } (first ++ "\n" ++ second) = .ok (before ++ after)) := by
  refine ⟨statementsOf dialect defaultLabel first, statementsOf dialect defaultLabel second, rfl, rfl, ?_⟩
  intro closed
  rw [readDescription, statements_of_pieces first second closed]

/-- A block that is closed, a line that is cut off and a carriage return where the pieces meet. -/
theorem read_pieces_of_users :
    let first := "users (\n\tint id\n)\nFOREIGN KEY (broken\r"
    let second := "FOREIGN KEY (id) REFERENCES users (id)\nint stray"
    let users : Document := [.openEntity "users", .addAttribute ⟨"int", "id", none⟩, .closeEntity]
    readDescription .relational { defaultLabel := "" } first = .ok users ∧ users.Closed ∧
      readDescription .relational { defaultLabel := "" } (first ++ "\n" ++ second) =
        .ok (users ++ [.addRelationship ⟨"users", "", "id references id"⟩]) := by
  intro first second users
  have readUsers : readDescription .relational { defaultLabel := "" } first = .ok users := by decide
  have readKey : readDescription .relational { defaultLabel := "" } second =
      .ok [.addRelationship ⟨"users", "", "id references id"⟩] := by decide
  have closed : users.Closed := by
    intro entity last
    have closing : users.lastBracket? = some .closeEntity := by decide
    cases closing.symm.trans last
  obtain ⟨before, after, readFirst, readSecond, together⟩ := read_pieces .relational "" first second
  cases readUsers.symm.trans readFirst
  cases readKey.symm.trans readSecond
  exact ⟨readUsers, closed, together closed⟩

end ErDiagram
