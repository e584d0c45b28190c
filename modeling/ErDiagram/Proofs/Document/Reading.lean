import ErDiagram.Proofs.Description.EntityLine

/-!
# Documents are read back

A document written as markup and read again as a description is the same document, whatever the
order of its statements and whether its entities are closed or not. What a document must satisfy for
that is said statement by statement. It depends on the statements before only through the entity
that the last opening or closing statement among them leaves open.
-/

namespace ErDiagram

set_option autoImplicit false

open Text

namespace Statement

def isBracket : Statement → Bool
  | openEntity _ => true
  | closeEntity => true
  | _ => false

end Statement

/-- The entity with a name that the last opening or closing statement has opened. -/
def Document.openEntity? (document : Document) : Option String :=
  match (document.filter Statement.isBracket).getLast? with
  | some (.openEntity name) => namedBlock name
  | _ => none

/-- Whether reading gives back the statement where it stands after the statements `before`. -/
def Statement.Faithful (before : Document) : Statement → Prop
  | openEntity name => PlainName name
  | closeEntity => True
  | addAttribute added =>
    before.openEntity?.isSome = true ∧
      (added.type ≠ "" ∧ Solid added.type.toList) ∧ (added.name ≠ "" ∧ Solid added.name.toList) ∧
      carriesAttribute (addAttribute added).line.toList = true ∧
      (added.key ≠ none ∨ added.name.toList.getLast? ≠ some '\x7b')
  | addRelationship added =>
    added.Plain ∧
      (before.openEntity?.isSome = true →
        carriesAttribute (addRelationship added).line.toList = false)

def Document.Faithful (document : Document) : Prop :=
  ∀ index, (bound : index < document.length) →
    document[index].Faithful (document.take index)

theorem open_entity_append (document : Document) (statement : Statement) :
    Document.openEntity? (document ++ [statement]) =
      match statement with
      | .openEntity name => namedBlock name
      | .closeEntity => none
      | _ => document.openEntity? := by
  cases statement <;> simp [Document.openEntity?, Statement.isBracket, List.filter_append]

theorem read_faithful_line {before : Document} {statement : Statement} {defaultLabel : String}
    (faithful : statement.Faithful before) :
    readLine .entityRelationship defaultLabel before.openEntity? statement.line.toList =
      ⟨some statement, Document.openEntity? (before ++ [statement])⟩ := by
  rw [open_entity_append]
  cases statement with
  | openEntity name => exact read_open_line faithful
  | closeEntity => exact read_close_line
  | addRelationship added => exact read_link_line faithful.1 faithful.2
  | addAttribute added =>
      obtain ⟨inEntity, ⟨typeNonempty, typeSolid⟩, ⟨nameNonempty, nameSolid⟩, carries, last⟩ :=
        faithful
      obtain ⟨entity, isOpen⟩ := Option.isSome_iff_exists.mp inEntity
      have areWords := are_words_marked added.key.toList typeNonempty typeSolid nameNonempty nameSolid
      have noBrace : added.key.toList ≠ [] ∨ added.name.toList.getLast? ≠ some '\x7b' := by
        simpa using last
      rw [attribute_line_eq] at carries ⊢
      rw [isOpen, read_attribute_line (key_written added.key) areWords carries
        (last_marked_words nameNonempty noBrace), Option.head?_toList]

theorem statements_after_faithful {before after : Document} {defaultLabel : String}
    (faithful : Document.Faithful (before ++ after)) :
    statementsAfter .entityRelationship defaultLabel before.openEntity?
      (after.map fun statement => statement.line.toList) = after := by
  induction after generalizing before with
  | nil => rfl
  | cons statement rest ih =>
      have here := faithful before.length (by simp)
      rw [List.getElem_append_right (Nat.le_refl _), List.take_left] at here
      simp only [Nat.sub_self, List.getElem_cons_zero] at here
      have moved : Document.Faithful (before ++ [statement] ++ rest) := by simpa using faithful
      have later := ih moved
      rw [List.map_cons, statements_after_cons (read_faithful_line here)]
      exact congrArg (statement :: ·) later

theorem unbroken_faithful_line {before : Document} {statement : Statement}
    (faithful : statement.Faithful before) : Unbroken statement.line.toList := by
  cases statement with
  | openEntity name => exact unbroken_open_line (PlainName.inLine faithful)
  | closeEntity => exact unbroken_close_line
  | addRelationship added =>
      have plain := faithful.1
      exact unbroken_link_line plain.left.inLine plain.right.inLine plain.label.inLine
  | addAttribute added =>
      obtain ⟨-, ⟨typeNonempty, typeSolid⟩, ⟨nameNonempty, nameSolid⟩, -, -⟩ := faithful
      rw [attribute_line_eq]
      exact unbroken_marked_line
        (are_words_marked added.key.toList typeNonempty typeSolid nameNonempty nameSolid)

theorem read_header_line {defaultLabel : String} :
    readLine .entityRelationship defaultLabel none header.toList = ⟨none, none⟩ := rfl

/-- A faithful document is what its markup is read as, with any default label. -/
theorem read_render_faithful (document : Document) (faithful : document.Faithful)
    (defaultLabel : String) :
    readDescription .entityRelationship { defaultLabel } document.render = .ok document := by
  have unbroken : ∀ line ∈ document.lines, Unbroken line.toList := by
    intro line member
    rcases List.mem_cons.mp member with rfl | written
    · exact ⟨by decide, by decide⟩
    · obtain ⟨statement, inDocument, rfl⟩ := List.mem_map.mp written
      obtain ⟨index, bound, rfl⟩ := List.getElem_of_mem inDocument
      exact unbroken_faithful_line (faithful index bound)
  have statements : statementsOf .entityRelationship defaultLabel document.render = document := by
    rw [Document.render, statements_of_end_lines unbroken, Document.lines, List.map_cons,
      statements_after_cons read_header_line, List.map_map]
    rw [← List.nil_append document] at faithful
    exact statements_after_faithful faithful
  rw [readDescription, statements]

instance (name : String) : Decidable (PlainName name) :=
  decidable_of_iff ('\n' ∉ name.toList ∧ Trimmed name.toList ∧ ¬ occursIn oneToMany name.toList = true)
    ⟨fun ⟨inLine, trimmed, unsigned⟩ => ⟨inLine, trimmed, mt occurs_in_iff.mpr unsigned⟩,
      fun plain => ⟨plain.inLine, plain.trimmed, mt occurs_in_iff.mp plain.unsigned⟩⟩

instance (link : Relationship) : Decidable link.Plain :=
  decidable_of_iff
    (PlainName link.left ∧ PlainName link.right ∧ PlainName link.label ∧ ':' ∉ link.right.toList ∧
      ':' ∉ link.label.toList ∧ '"' ∉ link.label.toList)
    ⟨fun ⟨left, right, label, rightColon, labelColon, labelQuote⟩ =>
        ⟨left, right, label, rightColon, labelColon, labelQuote⟩,
      fun plain => ⟨plain.left, plain.right, plain.label, plain.rightColon, plain.labelColon,
        plain.labelQuote⟩⟩

instance (before : Document) : (statement : Statement) → Decidable (statement.Faithful before)
  | .openEntity name => inferInstanceAs (Decidable (PlainName name))
  | .closeEntity => inferInstanceAs (Decidable True)
  | .addAttribute added =>
    inferInstanceAs (Decidable (before.openEntity?.isSome = true ∧
      (added.type ≠ "" ∧ Solid added.type.toList) ∧ (added.name ≠ "" ∧ Solid added.name.toList) ∧
      carriesAttribute (Statement.addAttribute added).line.toList = true ∧
      (added.key ≠ none ∨ added.name.toList.getLast? ≠ some '\x7b')))
  | .addRelationship added =>
    inferInstanceAs (Decidable (added.Plain ∧ (before.openEntity?.isSome = true →
      carriesAttribute (Statement.addRelationship added).line.toList = false)))

instance (document : Document) : Decidable document.Faithful :=
  inferInstanceAs (Decidable (∀ index, (bound : index < document.length) →
    document[index].Faithful (document.take index)))

theorem read_render_unclosed :
    let document : Document := [.openEntity "Order Item", .addAttribute ⟨"bigint", "id", some .primary⟩,
      .openEntity "", .addRelationship ⟨"", "Order Item", ""⟩, .openEntity "User",
      .addAttribute ⟨"varchar", "name\x7b", some .nullable⟩, .addRelationship ⟨"User", "", "has many"⟩]
    document.Faithful ∧ readDescription .entityRelationship { defaultLabel := "" } document.render =
      .ok document := by
  intro document
  have faithful : document.Faithful := by decide
  exact ⟨faithful, read_render_faithful document faithful ""⟩

end ErDiagram
