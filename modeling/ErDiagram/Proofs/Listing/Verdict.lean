import ErDiagram.Proofs.Document.Verdict
import ErDiagram.Proofs.Listing.Markup

/-!
# The verdict on the markup of a schema

The markup of a schema can be drawn as it is exactly if a table has a word for its name, and so can the
markup that is read from it and written again. Braces in a name or a type could open an entity at other
places. Without them neither columns nor foreign keys matter, although reading may lose columns, trim
names and cut off labels.
-/

namespace ErDiagram

set_option autoImplicit false

open Text

/-- A text without an opening brace that stands on one line. -/
structure BraceFree (text : String) : Prop where
  brace : '\x7b' ∉ text.toList
  inLine : '\n' ∉ text.toList

instance (text : String) : Decidable (BraceFree text) :=
  decidable_of_iff ('\x7b' ∉ text.toList ∧ '\n' ∉ text.toList)
    ⟨fun ⟨brace, inLine⟩ => ⟨brace, inLine⟩, fun free => ⟨free.brace, free.inLine⟩⟩

/-- A schema in whose markup no name and no type has an opening brace or a line feed. -/
structure Schema.BraceFree (schema : Schema) : Prop where
  tables : ∀ table ∈ schema.tables, ErDiagram.BraceFree table.name
  columns : ∀ table ∈ schema.tables, ∀ column ∈ table.columns,
    ErDiagram.BraceFree column.name ∧ ErDiagram.BraceFree column.type
  keys : ∀ key ∈ schema.foreignKeys,
    ErDiagram.BraceFree key.name ∧ ErDiagram.BraceFree key.table ∧ ErDiagram.BraceFree key.refTable

instance (schema : Schema) : Decidable schema.BraceFree :=
  decidable_of_iff
    ((∀ table ∈ schema.tables, BraceFree table.name) ∧
      (∀ table ∈ schema.tables, ∀ column ∈ table.columns,
        BraceFree column.name ∧ BraceFree column.type) ∧
      ∀ key ∈ schema.foreignKeys, BraceFree key.name ∧ BraceFree key.table ∧ BraceFree key.refTable)
    ⟨fun ⟨tables, columns, keys⟩ => ⟨tables, columns, keys⟩,
      fun free => ⟨free.tables, free.columns, free.keys⟩⟩

def Schema.bodyLines (options : ListingOptions) (schema : Schema) : List String :=
  schema.tables.flatMap (Table.markupLines options) ++
    if options.cardinalities then schema.foreignKeys.map ForeignKey.markupLine else []

inductive BodyLine (schema : Schema) : String → Prop
  | opens {table : Table} (inSchema : table ∈ schema.tables) :
    BodyLine schema (Statement.openEntity table.name).line
  | column {table : Table} {column : Column} (inSchema : table ∈ schema.tables)
    (inTable : column ∈ table.columns) : BodyLine schema column.markupLine
  | closes : BodyLine schema Statement.closeEntity.line
  | links {key : ForeignKey} (inSchema : key ∈ schema.foreignKeys) :
    BodyLine schema (Statement.addRelationship key.link).line

variable {schema : Schema} {options : ListingOptions}

theorem body_line_of_mem {line : String} (member : line ∈ schema.bodyLines options) :
    BodyLine schema line := by
  simp only [Schema.bodyLines, Table.markupLines, List.mem_append, List.mem_flatMap, List.mem_cons,
    List.not_mem_nil, or_false] at member
  rcases member with ⟨table, inSchema, (rfl | inTable) | rfl⟩ | inLinks
  · rw [open_line_eq]
    exact .opens inSchema
  · split at inTable
    · obtain ⟨column, listed, rfl⟩ := List.mem_map.mp inTable
      exact .column inSchema (mem_primary_key_first.mp listed)
    · cases inTable
  · exact .closes
  · split at inLinks
    · obtain ⟨key, inSchema, rfl⟩ := List.mem_map.mp inLinks
      rw [link_line_eq]
      exact .links inSchema
    · cases inLinks

theorem open_line_mem {table : Table} (inSchema : table ∈ schema.tables) :
    (Statement.openEntity table.name).line ∈ schema.bodyLines options := by
  apply List.mem_append_left
  refine List.mem_flatMap.mpr ⟨table, inSchema, ?_⟩
  rw [Table.markupLines, open_line_eq]
  exact List.mem_append_left _ List.mem_cons_self

theorem not_mem_marked_line {type name : String} {marks : List KeyMarker} {c : Char} (noSpace : c ≠ ' ')
    (inType : c ∉ type.toList) (inName : c ∉ name.toList)
    (inMarks : ∀ marker : KeyMarker, c ∉ marker.text.toList) :
    c ∉ (markedLine type name marks).toList := by
  rw [to_list_marked_line, List.mem_append, not_or]
  refine ⟨by simpa using noSpace, not_mem_word_line noSpace ?_⟩
  intro word member
  simp only [markedWords, List.mem_cons, List.mem_map] at member
  rcases member with rfl | rfl | ⟨marker, -, rfl⟩
  · exact inType
  · exact inName
  · exact inMarks marker

theorem line_feed_not_in_body (free : schema.BraceFree) :
    ∀ line ∈ schema.bodyLines options, '\n' ∉ line.toList := by
  intro line member
  cases body_line_of_mem member with
  | opens inSchema => exact (unbroken_open_line (free.tables _ inSchema).inLine).1
  | column inSchema inTable =>
      obtain ⟨name, type⟩ := free.columns _ inSchema _ inTable
      rw [markup_line_eq]
      exact not_mem_marked_line (by decide) type.inLine name.inLine (by rintro ⟨⟩ <;> decide)
  | closes => exact unbroken_close_line.1
  | links inSchema =>
      obtain ⟨name, table, target⟩ := free.keys _ inSchema
      exact (unbroken_link_line table.inLine target.inLine name.inLine).1

theorem opens_entity_body_iff (free : schema.BraceFree) :
    (schema.bodyLines options).any (fun line => opensEntity line.toList) = true ↔
      ∃ table ∈ schema.tables, NamesEntity table.name.toList := by
  have opensNamed : ∀ table ∈ schema.tables,
      (opensEntity (Statement.openEntity table.name).line.toList = true ↔
        NamesEntity table.name.toList) := by
    intro table inSchema
    rw [opens_entity_open_line, opens_entity_eq_false (free.tables table inSchema).brace]
    simp
  rw [List.any_eq_true]
  constructor
  · rintro ⟨line, member, opens⟩
    cases body_line_of_mem member with
    | opens inSchema => exact ⟨_, inSchema, (opensNamed _ inSchema).mp opens⟩
    | column inSchema inTable =>
        obtain ⟨name, type⟩ := free.columns _ inSchema _ inTable
        have lacks : '\x7b' ∉ (Column.markupLine _).toList :=
          not_mem_marked_line (by decide) type.brace name.brace (by rintro ⟨⟩ <;> decide)
        rw [opens_entity_eq_false lacks] at opens
        contradiction
    | closes => cases opens
    | @links key inSchema =>
        have lacks : '\x7b' ∉ key.link.left.toList := (free.keys key inSchema).2.1.brace
        rw [opens_entity_link_line, opens_entity_eq_false lacks] at opens
        contradiction
  · rintro ⟨table, inSchema, names⟩
    exact ⟨_, open_line_mem inSchema, (opensNamed table inSchema).mpr names⟩

theorem verdict_of_markup_lines (free : schema.BraceFree) :
    Verdict.ofMarkup (schema.markup options) =
      if ∃ table ∈ schema.tables, NamesEntity table.name.toList then .valid else .noEntities := by
  have written : schema.markup options = joinLines (header :: schema.bodyLines options) := rfl
  simp only [written, verdict_of_join_lines (line_feed_not_in_body free), opens_entity_body_iff free]

theorem opens_entity_drawn_iff (free : schema.BraceFree) (defaultLabel : String) :
    (∃ statement ∈ statementsOf .entityRelationship defaultLabel (schema.markup options),
        opensEntity statement.line.toList = true) ↔
      ∃ table ∈ schema.tables, NamesEntity table.name.toList := by
  have inLines : ∀ line ∈ header :: schema.bodyLines options, '\n' ∉ line.toList :=
    List.forall_mem_cons.mpr ⟨by decide, line_feed_not_in_body free⟩
  have said : statementsOf .entityRelationship defaultLabel (schema.markup options) =
      statementsAfter .entityRelationship defaultLabel none
        ((header :: schema.bodyLines options).map String.toList) := statements_of_joined inLines
  rw [said]
  constructor
  · rintro ⟨statement, member, opens⟩
    obtain ⟨line, found, opened⟩ := opens_entity_of_statements_after member opens
    obtain ⟨written, inMarkup, rfl⟩ := List.mem_map.mp found
    rcases List.mem_cons.mp inMarkup with rfl | inBody
    · cases opened
    · exact (opens_entity_body_iff free).mp (List.any_eq_true.mpr ⟨written, inBody, opened⟩)
  · rintro ⟨table, inSchema, names⟩
    have inBody : (Statement.openEntity table.name).line ∈ schema.bodyLines options :=
      open_line_mem inSchema
    have split : (Statement.openEntity table.name).line.toList =
        "    ".toList ++ (table.name.toList ++ [' ']) ++ ['\x7b'] := by
      rw [to_list_open_line]
      simp
    apply opens_entity_again (List.mem_map_of_mem (List.mem_cons_of_mem header inBody))
    · exact (opens_entity_open_line table.name).mpr (.inr names)
    · rw [split]
      exact last_trim_concat (by decide) _
    · intro sign
      have bar : '|' ∈ (Statement.openEntity table.name).line.toList :=
        mem_trim (sign.subset (by decide))
      have inName : '|' ∉ table.name.toList := not_mem_of_names_entity names (by decide) (by decide)
      rw [split] at bar
      simp [inName] at bar

/-- The markup of a schema is valid if some table has a word for its name and has no entities otherwise.
The markup that is drawn from it gets the same verdict. -/
theorem verdict_of_markup (schema : Schema) (options : ListingOptions) (free : schema.BraceFree) :
    Verdict.ofMarkup (schema.markup options) =
        (if ∃ table ∈ schema.tables, NamesEntity table.name.toList then .valid else .noEntities) ∧
      ∃ drawn, markup? .entityRelationship {} (schema.markup options) = some drawn ∧
        Verdict.ofMarkup drawn = Verdict.ofMarkup (schema.markup options) := by
  have inLines : ∀ statement ∈ statementsOf .entityRelationship "related_to" (schema.markup options),
      '\n' ∉ statement.line.toList := by
    intro statement member
    exact (unbroken_statements_after (line_feed_not_in_lines _) (by decide) (by simp) _ member).1
  refine ⟨verdict_of_markup_lines free, _, rfl, ?_⟩
  simp only [verdict_of_render inLines, verdict_of_markup_lines free, List.any_eq_true,
    opens_entity_drawn_iff free]

/-- Two words make no name for an entity. One word does, with any blanks around it, even if none of the
columns is read back. -/
theorem verdict_of_markup_of_orders :
    let orders : Table := ⟨"order items", [{ name := "id", type := "int" }]⟩
    let sizes : Table := ⟨"\u00a0Größe_1\r", [{ name := "a b", type := "" }]⟩
    let key : ForeignKey := ⟨"k", "x", "id", "y", "id"⟩
    (Schema.BraceFree ⟨[orders], [key]⟩ ∧
        Verdict.ofMarkup (Schema.markup {} ⟨[orders], [key]⟩) = .noEntities) ∧
      Schema.BraceFree ⟨[orders, sizes], [key]⟩ ∧
        ∃ drawn, markup? .entityRelationship {} (Schema.markup {} ⟨[orders, sizes], [key]⟩) = some drawn ∧
          Verdict.ofMarkup drawn = .valid := by
  intro orders sizes key
  have spaced : Schema.BraceFree ⟨[orders], [key]⟩ := by decide
  have unnamed : ¬ ∃ table ∈ [orders], NamesEntity table.name.toList := by
    rintro ⟨table, member, -, all⟩
    cases List.mem_singleton.mp member
    exact absurd (all ' ' (by decide)) (by decide)
  have named : Schema.BraceFree ⟨[orders, sizes], [key]⟩ := by decide
  have word : ∃ table ∈ [orders, sizes], NamesEntity table.name.toList := by
    have trimmed : trim sizes.name.toList = "Größe_1".toList := by decide
    refine ⟨sizes, by simp, ?_⟩
    rw [NamesEntity, trimmed]
    exact ⟨by decide, List.all_eq_true.mp (by decide)⟩
  obtain ⟨given, -⟩ := verdict_of_markup ⟨[orders], [key]⟩ {} spaced
  obtain ⟨judged, drawn, read, same⟩ := verdict_of_markup ⟨[orders, sizes], [key]⟩ {} named
  rw [if_neg unnamed] at given
  rw [if_pos word] at judged
  exact ⟨⟨spaced, given⟩, named, drawn, read, same.trans judged⟩

end ErDiagram
