import ErDiagram.Proofs.Listing.Relational

/-!
# The sides of a relationship in the two listings

A schema can be drawn from its markup or from its relational model. Both listings lead to one
relationship for each foreign key, in order. The markup puts the table with the foreign key on the
left, the relational model the table that is referred to. The sign between the sides stands for one on
the left and many on the right, so the two drawings agree only on tables that refer to themselves.
-/

namespace ErDiagram

set_option autoImplicit false

open Text

def Statement.link? : Statement → Option Relationship
  | addRelationship link => some link
  | _ => none

def Document.links (document : Document) : List Relationship := document.filterMap Statement.link?

theorem links_of_tables {block : Table → Document} (unlinked : ∀ table, (block table).links = [])
    (tables : List Table) (links : List Relationship) :
    Document.links (tables.flatMap block ++ links.map .addRelationship) = links := by
  have blocks : (tables.flatMap block).filterMap Statement.link? = [] := by
    rw [List.filterMap_flatMap]
    exact List.flatMap_eq_nil_iff.mpr fun table _ => unlinked table
  have each : (links.map Statement.addRelationship).filterMap Statement.link? = links := by
    rw [List.filterMap_map]
    exact List.filterMap_some
  rw [Document.links, List.filterMap_append, blocks, each, List.nil_append]

theorem links_of_block (name : String) (attributes : List Attribute) :
    Document.links (.openEntity name :: attributes.map .addAttribute ++ [.closeEntity]) = [] := by
  apply List.filterMap_eq_nil_iff.mpr
  intro statement member
  simp only [List.mem_append, List.mem_cons, List.mem_map, List.not_mem_nil, or_false] at member
  rcases member with (rfl | ⟨added, -, rfl⟩) | rfl <;> rfl

theorem links_of_diagram (schema : Schema) :
    schema.diagram.links = schema.foreignKeys.map ForeignKey.link := by
  have blocks : ∀ table : Table, table.diagram.links = [] := by
    intro table
    have block := links_of_block table.name
      ((table.primaryKeyFirst.filter Column.inMarkup).map Column.attribute)
    rwa [List.map_map] at block
  have all := links_of_tables blocks schema.tables (schema.foreignKeys.map ForeignKey.link)
  rwa [List.map_map] at all

theorem links_of_relational_diagram (schema : Schema) :
    schema.relationalDiagram.links = schema.foreignKeys.map ForeignKey.relationalLink := by
  have blocks : ∀ table : Table, table.relationalDiagram.links = [] := by
    intro table
    have block := links_of_block table.name
      ((table.primaryKeyFirst.filter Column.inRelationalModel).map Column.relationalAttribute)
    rwa [List.map_map] at block
  have all := links_of_tables blocks schema.tables (schema.foreignKeys.map ForeignKey.relationalLink)
  rwa [List.map_map] at all

theorem statements_of_markup {schema : Schema} (words : schema.MarkupWords) (defaultLabel : String) :
    statementsOf .entityRelationship defaultLabel (schema.markup {}) = schema.diagram := by
  rw [Schema.markup, statements_of_join_lines (unbroken_markup words),
    (says_markup defaultLabel words).statements]

theorem statements_of_relational_model {schema : Schema} (words : schema.RelationalWords)
    (defaultLabel : String) :
    statementsOf .relational defaultLabel schema.relationalModel = schema.relationalDiagram := by
  rw [Schema.relationalModel, statements_of_join_lines (unbroken_relational_model words),
    (says_relational_model defaultLabel words).statements]

/-- The left sides of the relationships are the tables with the foreign keys in the one drawing, and
the tables that these refer to in the other. -/
theorem left_sides_of_links (schema : Schema) (markupWords : schema.MarkupWords)
    (relationalWords : schema.RelationalWords) (defaultLabel : String) :
    ∃ drawn listed,
      readDescription .entityRelationship { defaultLabel } (schema.markup {}) = .ok drawn ∧
      readDescription .relational { defaultLabel } schema.relationalModel = .ok listed ∧
      drawn.links.map (·.left) = schema.foreignKeys.map (·.table) ∧
      listed.links.map (·.left) = schema.foreignKeys.map (·.refTable) ∧
      (drawn.links.map (·.left) = listed.links.map (·.left) ↔
        ∀ key ∈ schema.foreignKeys, key.table = key.refTable) := by
  have drawn : schema.diagram.links.map (·.left) = schema.foreignKeys.map (·.table) := by
    rw [links_of_diagram, List.map_map]
    rfl
  have listed : schema.relationalDiagram.links.map (·.left) =
      schema.foreignKeys.map (·.refTable) := by
    rw [links_of_relational_diagram, List.map_map]
    rfl
  refine ⟨schema.diagram, schema.relationalDiagram, ?_, ?_, drawn, listed, ?_⟩
  · exact congrArg Except.ok (statements_of_markup markupWords defaultLabel)
  · exact congrArg Except.ok (statements_of_relational_model relationalWords defaultLabel)
  · rw [drawn, listed, List.map_inj_left]

theorem left_sides_of_orders :
    let schema : Schema := ⟨[⟨"customers", [{ name := "id", type := "int", primaryKey := true }]⟩],
      [⟨"placed_by", "orders", "customer", "customers", "id"⟩,
        ⟨"referred_by", "customers", "id", "customers", "id"⟩]⟩
    schema.MarkupWords ∧ schema.RelationalWords ∧ ∃ drawn listed,
      readDescription .entityRelationship { defaultLabel := "" } (schema.markup {}) = .ok drawn ∧
      readDescription .relational { defaultLabel := "" } schema.relationalModel = .ok listed ∧
      drawn.links.map (·.left) = ["orders", "customers"] ∧
      listed.links.map (·.left) = ["customers", "customers"] := by
  intro schema
  have markupWords : schema.MarkupWords := by decide
  have relationalWords : schema.RelationalWords := by decide
  obtain ⟨drawn, listed, readMarkup, readModel, left, referred, -⟩ :=
    left_sides_of_links schema markupWords relationalWords ""
  exact ⟨markupWords, relationalWords, drawn, listed, readMarkup, readModel, left, referred⟩

/-- In the drawing of the markup the customer of an order stands on the right, where the sign means
many. -/
theorem left_sides_differ :
    let customers : Table := ⟨"customers", [{ name := "id", type := "int", primaryKey := true }]⟩
    let orders : Table := ⟨"orders", [{ name := "customer", type := "int", foreignKey := true }]⟩
    let schema : Schema :=
      ⟨[customers, orders], [⟨"placed_by", "orders", "customer", "customers", "id"⟩]⟩
    schema.MarkupWords ∧ schema.RelationalWords ∧ ∃ drawn listed,
      readDescription .entityRelationship {} (schema.markup {}) = .ok drawn ∧
      readDescription .relational {} schema.relationalModel = .ok listed ∧
      drawn.links = [⟨"orders", "customers", "placed_by"⟩] ∧
      listed.links = [⟨"customers", "", "customer references id"⟩] ∧
      drawn.links.map (·.left) ≠ listed.links.map (·.left) := by
  intro customers orders schema
  have markupWords : schema.MarkupWords := by decide
  have relationalWords : schema.RelationalWords := by decide
  have drawn : schema.diagram.links = [⟨"orders", "customers", "placed_by"⟩] := by decide
  have listed : schema.relationalDiagram.links = [⟨"customers", "", "customer references id"⟩] := by
    decide
  refine ⟨markupWords, relationalWords, schema.diagram, schema.relationalDiagram,
    congrArg Except.ok (statements_of_markup markupWords _),
    congrArg Except.ok (statements_of_relational_model relationalWords _), drawn, listed, ?_⟩
  rw [drawn, listed]
  decide

end ErDiagram
