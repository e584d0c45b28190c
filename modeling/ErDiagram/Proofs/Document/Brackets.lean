import ErDiagram.Proofs.Description.Reading

/-!
# Opening and closing statements

A reader takes each line that opens or closes a block at its word: it writes the statement whether a
block is open or not. So the brackets of a document are those of its description, and they are in order
in the one exactly if they are in the other.
-/

namespace ErDiagram

set_option autoImplicit false

open Text

variable {dialect : Dialect} {defaultLabel : String} {block : Option String}

inductive Bracket where
  | opening
  | closing
deriving DecidableEq, Repr

/-- Whether brackets are in order that follow where `depth` blocks are open: each closing one closes a
block that is open, and each opening one stands where none is. -/
def Bracketed : Nat → List Bracket → Prop
  | _, [] => True
  | depth, .opening :: rest => depth = 0 ∧ Bracketed (depth + 1) rest
  | depth, .closing :: rest => 0 < depth ∧ Bracketed (depth - 1) rest

instance decidableBracketed : (depth : Nat) → (found : List Bracket) → Decidable (Bracketed depth found)
  | _, [] => inferInstanceAs (Decidable True)
  | depth, .opening :: rest =>
    have := decidableBracketed (depth + 1) rest
    inferInstanceAs (Decidable (depth = 0 ∧ Bracketed (depth + 1) rest))
  | depth, .closing :: rest =>
    have := decidableBracketed (depth - 1) rest
    inferInstanceAs (Decidable (0 < depth ∧ Bracketed (depth - 1) rest))

def Statement.bracket? : Statement → Option Bracket
  | openEntity _ => some .opening
  | closeEntity => some .closing
  | _ => none

/-- The bracket that a line stands for, whatever is open there. -/
def Dialect.bracket? (dialect : Dialect) (line : List Char) : Option Bracket :=
  let line := trim line
  if line.getLast? = some dialect.opener ∧ ¬ dialect.linkMark.toList <:+: line then some .opening
  else if line = [dialect.closer] then some .closing
  else none

/-- Every close ends a block that is open there, and no entity is opened in an open block. -/
def Document.WellBracketed (document : Document) : Prop :=
  Bracketed 0 (document.filterMap Statement.bracket?)

instance (document : Document) : Decidable document.WellBracketed := decidableBracketed _ _

/-- Whether the lines that open and close blocks are in order. -/
def Dialect.WellBracketed (dialect : Dialect) (description : String) : Prop :=
  Bracketed 0 ((lines description.toList).filterMap dialect.bracket?)

instance (dialect : Dialect) (description : String) : Decidable (dialect.WellBracketed description) :=
  decidableBracketed _ _

theorem is_some_block_name_iff {line : List Char} :
    (dialect.blockName? line).isSome = true ↔
      line.getLast? = some dialect.opener ∧ ¬ dialect.linkMark.toList <:+: line := by
  rw [← occurs_in_iff, Dialect.blockName?]
  split
  · next names => simpa using names
  · next unnamed => simpa using unnamed

theorem bracket_of_line_reads {line : List Char} {reading : LineReading}
    (reads : LineReads dialect defaultLabel block line reading) :
    reading.statement.bind Statement.bracket? = dialect.bracket? line := by
  have opening : ∀ {name}, dialect.blockName? (trim line) = some name →
      dialect.bracket? line = some .opening := by
    intro name named
    exact if_pos (is_some_block_name_iff.mp (by rw [named]; rfl))
  have notOpening : dialect.blockName? (trim line) = none → dialect.bracket? line =
      if trim line = [dialect.closer] then some .closing else none := by
    intro unnamed
    apply if_neg
    rw [← is_some_block_name_iff, unnamed]
    exact Bool.false_ne_true
  cases reads with
  | opens named => exact (opening named).symm
  | closes unnamed isCloser => rw [notOpening unnamed, if_pos isCloser]; rfl
  | adds unnamed notCloser => rw [notOpening unnamed, if_neg notCloser]; rfl
  | links unnamed notCloser => rw [notOpening unnamed, if_neg notCloser]; rfl
  | silent unnamed notCloser => rw [notOpening unnamed, if_neg notCloser]; rfl

theorem brackets_of_statements_after (block : Option String) (found : List (List Char)) :
    (statementsAfter dialect defaultLabel block found).filterMap Statement.bracket? =
      found.filterMap dialect.bracket? := by
  induction found generalizing block with
  | nil => rfl
  | cons line rest ih =>
      have here : (readLine dialect defaultLabel block line).statement.toList.filterMap
          Statement.bracket? = (dialect.bracket? line).toList := by
        rw [← bracket_of_line_reads (line_reads dialect defaultLabel block line)]
        cases (readLine dialect defaultLabel block line).statement with
        | none => rfl
        | some statement => cases statement <;> rfl
      rw [statementsAfter, List.filterMap_append, here, ih, List.filterMap_cons]
      cases dialect.bracket? line <;> rfl

/-- The opening and closing statements of a document are those that the lines of its description stand
for, so the document is in order exactly if the description is. -/
theorem read_document_brackets (dialect : Dialect) (options : ReadingOptions) (description : String)
    (accepted : ¬ options.Refuse description) :
    ∃ document, readDescription dialect options description = .ok document ∧
      document.filterMap Statement.bracket? =
        (lines description.toList).filterMap dialect.bracket? ∧
      (document.WellBracketed ↔ dialect.WellBracketed description) := by
  have same : (statementsOf dialect options.defaultLabel description).filterMap Statement.bracket? =
      (lines description.toList).filterMap dialect.bracket? := brackets_of_statements_after none _
  refine ⟨_, read_accepted dialect accepted, same, ?_⟩
  rw [Document.WellBracketed, Dialect.WellBracketed, same]

theorem read_document_brackets_of_orders :
    let options : ReadingOptions := { maxLines := some 4 }
    let description := "orders (\n\tint id\n ) \nFOREIGN KEY ("
    ¬ options.Refuse description ∧
      ∃ document, readDescription .relational options description = .ok document ∧
        document.WellBracketed := by
  intro options description
  have accepted : ¬ options.Refuse description := by
    rintro ⟨limit, bounded, exceeded⟩
    cases bounded
    exact absurd exceeded (by decide)
  obtain ⟨document, read, -, ordered⟩ :=
    read_document_brackets .relational options description accepted
  exact ⟨accepted, document, read, ordered.mpr (by decide)⟩

/-- A stray closing line and an opening line in an open block are both written out. -/
theorem read_disordered_brackets :
    readDescription .entityRelationship {} "\x7d" = .ok [.closeEntity] ∧
      ¬ Document.WellBracketed [.closeEntity] ∧
      readDescription .relational {} "orders (\nitems (" =
        .ok [.openEntity "orders", .openEntity "items"] ∧
      ¬ Document.WellBracketed [.openEntity "orders", .openEntity "items"] := by
  exact ⟨by decide, by decide, by decide, by decide⟩

end ErDiagram
