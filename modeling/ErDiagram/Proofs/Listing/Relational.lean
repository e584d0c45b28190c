import ErDiagram.Proofs.Description.AttributeMark
import ErDiagram.Proofs.Description.RelationalLine
import ErDiagram.Proofs.Listing.Markup

/-!
# What the relational model of a schema is read back as

The relational listing names a column before its type, and a reader takes the first word of a line
for the type. So each column is read back with its name as the type and with the first word of its
type as the name, as long as one of the two ends in a type name that marks attributes. The listing
says `NULL` or `NOT NULL` of every column, and both are read as the mark of a nullable column.
-/

namespace ErDiagram

set_option autoImplicit false

open Text

variable (defaultLabel : String)

def Column.inRelationalModel (column : Column) : Bool :=
  endsInType column.name.toList || endsInType column.displayType.toList

def Column.relationalAttribute (column : Column) : Attribute where
  type := column.name
  name := String.ofList ((words column.displayType.toList).headD [])
  key := some (if column.primaryKey then .primary
    else if column.foreignKey then .foreign
    else .nullable)

def Table.relationalDiagram (table : Table) : Document :=
  .openEntity table.name ::
    (table.primaryKeyFirst.filter Column.inRelationalModel).map
      (.addAttribute ·.relationalAttribute) ++ [.closeEntity]

/-- The relationship that the line of a foreign key is read as. No block is open there, so the right
side is empty. -/
def ForeignKey.relationalLink (key : ForeignKey) : Relationship :=
  ⟨key.refTable, "", key.column ++ " references " ++ key.refColumn⟩

def Schema.relationalDiagram (schema : Schema) : Document :=
  schema.tables.flatMap Table.relationalDiagram ++
    schema.foreignKeys.map (.addRelationship ·.relationalLink)

/-- A schema in whose relational model every name and type is an ASCII word. -/
structure Schema.RelationalWords (schema : Schema) : Prop where
  tables : ∀ table ∈ schema.tables, AsciiWord table.name
  columns : ∀ table ∈ schema.tables, ∀ column ∈ table.columns,
    AsciiWord column.name ∧ AsciiWord column.type
  keys : ∀ key ∈ schema.foreignKeys,
    AsciiWord key.column ∧ AsciiWord key.refTable ∧ AsciiWord key.refColumn

instance (schema : Schema) : Decidable schema.RelationalWords :=
  decidable_of_iff
    ((∀ table ∈ schema.tables, AsciiWord table.name) ∧
      (∀ table ∈ schema.tables, ∀ column ∈ table.columns,
        AsciiWord column.name ∧ AsciiWord column.type) ∧
      ∀ key ∈ schema.foreignKeys,
        AsciiWord key.column ∧ AsciiWord key.refTable ∧ AsciiWord key.refColumn)
    ⟨fun ⟨tables, columns, keys⟩ => ⟨tables, columns, keys⟩,
      fun words => ⟨words.tables, words.columns, words.keys⟩⟩

inductive DisplayForm (type : String) : String → Prop
  | plain : DisplayForm type type
  | sized {size : String} (word : AsciiWord size) : DisplayForm type (type ++ "(" ++ size ++ ")")
  | precise {digits scale : String} (digitsWord : AsciiWord digits) (scaleWord : AsciiWord scale)
    (scaleDigits : ∀ c ∈ scale.toList, c.isDigit = true) :
    DisplayForm type (type ++ "(" ++ digits ++ ", " ++ scale ++ ")")

theorem display_form (column : Column) : DisplayForm column.type column.displayType := by
  unfold Column.displayType
  split
  · split
    · exact .sized (ascii_word_to_string _)
    · exact .plain
  · split
    · have text : column.type ++ "(MAX)" = column.type ++ "(" ++ "MAX" ++ ")" := by
        rw [String.append_assoc, String.append_assoc]
        rfl
      rw [text]
      exact .sized (by decide)
    · exact .plain
  · split
    · exact .precise (ascii_word_to_string _) (ascii_word_to_string _) fun _ => digit_of_to_string
    · exact .plain
  · exact .plain

/-- What a reader needs to know of the words that a displayed type consists of. -/
structure DisplayWords (text : String) (found : List (List Char)) : Prop where
  line : text.toList = wordLine found
  areWords : AreWords found
  begins : (found.headD []).head?.any isAsciiWordChar = true
  marks : ∀ flags : List (List Char), (flags.headD []).head?.any isAsciiWordChar = true →
    neighboursMark flags = false → neighboursMark (found ++ flags) = endsInType text.toList
  modifiers : ∀ (marker : KeyMarker) (flags : List (List Char)), flags ≠ [] →
    occursIn marker.text (wordLine (found.tail ++ flags)) = occursIn marker.text (wordLine flags)
  closes : ')' ∉ text.toList.dropLast

theorem DisplayWords.nonempty {text : String} {found : List (List Char)}
    (shown : DisplayWords text found) : found ≠ [] := by
  intro empty
  have begins := shown.begins
  rw [empty] at begins
  contradiction

theorem not_ends_in_type {front : List Char} {c : Char} (sign : isAsciiWordChar c = false) :
    endsInType (front ++ [c]) = false := by
  rw [Bool.eq_false_iff, ne_eq, ends_in_type_iff]
  rintro ⟨type, known, ends⟩
  have all : ∀ type ∈ attributeTypes, AsciiWord type := by decide
  rcases List.suffix_concat_iff.mp ends with empty | ⟨shorter, same, -⟩
  · exact (all type known).nonempty empty
  · exact (all type known).lacks sign (by simp [same])

theorem mark_starts (marker : KeyMarker) :
    ∃ c rest, marker.text.toList = c :: rest ∧ c.isDigit = false ∧ c ≠ ')' := by
  cases marker
  · exact ⟨'P', ['K'], rfl, rfl, by decide⟩
  · exact ⟨'F', ['K'], rfl, rfl, by decide⟩
  · exact ⟨'N', ['U', 'L', 'L'], rfl, rfl, by decide⟩

theorem mark_not_in_number {digits : String} (all : ∀ c ∈ digits.toList, c.isDigit = true)
    (marker : KeyMarker) : ¬ marker.text.toList <:+: digits.toList ++ [')'] := by
  obtain ⟨c, later, starts, noDigit, noSign⟩ := mark_starts marker
  intro inside
  have member := inside.subset (by rw [starts]; exact List.mem_cons_self)
  rcases List.mem_append.mp member with isDigit | isSign
  · exact Bool.false_ne_true (noDigit.symm.trans (all c isDigit))
  · exact noSign (List.mem_singleton.mp isSign)

theorem display_words_single {text : String} (nonempty : text.toList ≠ [])
    (solid : Solid text.toList) (begins : text.toList.head?.any isAsciiWordChar = true)
    (closes : ')' ∉ text.toList.dropLast) : DisplayWords text [text.toList] where
  line := (word_line_singleton _).symm
  areWords := by
    intro word member
    rw [List.mem_singleton] at member
    exact member ▸ ⟨nonempty, solid⟩
  begins := begins
  marks := by
    intro flags flagBegins unmarked
    cases flags with
    | nil => contradiction
    | cons flag rest =>
        rw [List.headD_cons] at flagBegins
        rw [List.singleton_append, neighboursMark, unmarked, flagBegins, Bool.and_true,
          Bool.or_false]
  modifiers := fun _ _ _ => rfl
  closes := closes

theorem to_list_closed (front : String) : (front ++ ")").toList = front.toList ++ [')'] := by
  simp

theorem display_words_precise {type digits scale : String} (word : AsciiWord type)
    (digitsWord : AsciiWord digits) (scaleWord : AsciiWord scale)
    (scaleDigits : ∀ c ∈ scale.toList, c.isDigit = true) :
    DisplayWords (type ++ "(" ++ digits ++ ", " ++ scale ++ ")")
      [type.toList ++ '(' :: digits.toList ++ [','], scale.toList ++ [')']] := by
  have sign : ∀ {c : Char}, isBlank c = false → Solid [c] := by
    intro c bare d member
    rw [List.mem_singleton] at member
    rw [member, bare]
  constructor
  case line => simp [word_line_cons_cons, word_line_singleton]
  case areWords =>
    intro found member
    simp only [List.mem_cons, List.not_mem_nil, or_false] at member
    rcases member with rfl | rfl
    · refine ⟨by simp, solid_append (solid_append word.solid ?_) (sign rfl)⟩
      rw [← List.singleton_append]
      exact solid_append (sign rfl) digitsWord.solid
    · exact ⟨by simp, solid_append scaleWord.solid (sign rfl)⟩
  case begins =>
    rw [List.headD_cons, List.append_assoc, List.head?_append_of_ne_nil _ word.nonempty]
    exact word.head
  case marks =>
    intro flags flagBegins unmarked
    cases flags with
    | nil => exact absurd flagBegins (by decide)
    | cons flag rest =>
        rw [to_list_closed, not_ends_in_type rfl, List.cons_append, List.singleton_append,
          neighboursMark, neighboursMark, not_ends_in_type rfl, not_ends_in_type rfl, unmarked]
        rfl
  case modifiers =>
    intro marker flags nonempty
    obtain ⟨flag, rest, rfl⟩ := List.exists_cons_of_ne_nil nonempty
    have noScale := mark_not_in_number scaleDigits marker
    have noSpace : ' ' ∉ marker.text.toList := (marker_text_word marker).lacks rfl
    rw [Bool.eq_iff_iff, occurs_in_iff, occurs_in_iff, List.tail_cons, List.singleton_append,
      word_line_cons_cons, infix_append_cons_iff (marker_text_word marker).nonempty noSpace]
    simp only [noScale, false_or]
  case closes =>
    have noClose : ∀ {text : String}, AsciiWord text → ')' ∉ text.toList := fun word => word.lacks rfl
    rw [to_list_closed, List.dropLast_concat]
    simp [noClose word, noClose digitsWord, noClose scaleWord]

theorem display_words_of_form {type shown : String} (word : AsciiWord type)
    (form : DisplayForm type shown) : ∃ found, DisplayWords shown found := by
  cases form with
  | plain =>
      have noClose : ')' ∉ type.toList := word.lacks rfl
      exact ⟨_, display_words_single word.nonempty word.solid word.head
        fun member => noClose (List.dropLast_subset _ member)⟩
  | @sized size sizeWord =>
      have noClose : ∀ {text : String}, AsciiWord text → ')' ∉ text.toList :=
        fun word => word.lacks rfl
      have solid : Solid (type ++ "(" ++ size ++ ")").toList := by
        simp only [String.toList_append]
        exact solid_append (solid_append (solid_append word.solid (by decide)) sizeWord.solid)
          (by decide)
      have begins : (type ++ "(" ++ size ++ ")").toList.head?.any isAsciiWordChar = true := by
        simp only [String.toList_append, List.append_assoc]
        rw [List.head?_append_of_ne_nil _ word.nonempty]
        exact word.head
      refine ⟨_, display_words_single (by simp) solid begins ?_⟩
      rw [to_list_closed, List.dropLast_concat]
      simp [noClose word, noClose sizeWord]
  | precise digitsWord scaleWord scaleDigits =>
      exact ⟨_, display_words_precise word digitsWord scaleWord scaleDigits⟩

/-- The words after the type on the line of a column. A comma stands at the end if another column
follows. -/
def flagWords (primaryKey foreignKey nullable comma : Bool) : List (List Char) :=
  (if primaryKey then ["PK".toList] else []) ++ (if foreignKey then ["FK".toList] else []) ++
    (if nullable then [] else ["NOT".toList]) ++ [if comma then "NULL,".toList else "NULL".toList]

namespace FlagWords

variable (primaryKey foreignKey nullable comma : Bool)

theorem are_words : AreWords (flagWords primaryKey foreignKey nullable comma) := by
  revert primaryKey foreignKey nullable comma
  decide

theorem nonempty : flagWords primaryKey foreignKey nullable comma ≠ [] := by
  rw [flagWords]
  exact List.append_ne_nil_of_right_ne_nil _ (List.cons_ne_nil _ _)

theorem begins :
    ((flagWords primaryKey foreignKey nullable comma).headD []).head?.any isAsciiWordChar = true := by
  revert primaryKey foreignKey nullable comma
  decide

theorem unmarked : neighboursMark (flagWords primaryKey foreignKey nullable comma) = false := by
  revert primaryKey foreignKey nullable comma
  decide

theorem no_parenthesis :
    '(' ∉ wordLine (flagWords primaryKey foreignKey nullable comma) ∧
      ')' ∉ wordLine (flagWords primaryKey foreignKey nullable comma) := by
  revert primaryKey foreignKey nullable comma
  decide

theorem no_reference : 'R' ∉ wordLine (flagWords primaryKey foreignKey nullable comma) := by
  revert primaryKey foreignKey nullable comma
  decide

theorem modifiers :
    KeyMarker.ofModifiers? (String.ofList (wordLine (flagWords primaryKey foreignKey nullable comma))) =
      some (if primaryKey then .primary else if foreignKey then .foreign else .nullable) := by
  revert primaryKey foreignKey nullable comma
  decide

end FlagWords

/-- The line of a column with a comma if another column follows. -/
def Column.listedLine (column : Column) (comma : Bool) : String :=
  column.relationalLine ++ if comma then "," else ""

def Column.listedWords (column : Column) (found : List (List Char)) (comma : Bool) :
    List (List Char) :=
  column.name.toList ::
    (found ++ flagWords column.primaryKey column.foreignKey column.nullable comma)

theorem column_line_eq (column : Column) :
    column.relationalLine = "    " ++ column.name ++ " " ++ column.displayType ++
      (if column.primaryKey then " PK" else "") ++ (if column.foreignKey then " FK" else "") ++
      (if column.nullable then " NULL" else " NOT NULL") := rfl

theorem word_line_listed {column : Column} {found : List (List Char)} (comma : Bool)
    (shown : DisplayWords column.displayType found) :
    wordLine (column.listedWords found comma) =
      column.name.toList ++ ' ' :: (column.displayType.toList ++
        ' ' :: wordLine (flagWords column.primaryKey column.foreignKey column.nullable comma)) := by
  have flags := FlagWords.nonempty column.primaryKey column.foreignKey column.nullable comma
  have split : column.listedWords found comma = [column.name.toList] ++
      (found ++ flagWords column.primaryKey column.foreignKey column.nullable comma) := rfl
  rw [split, word_line_append (by simp) (by simp [shown.nonempty]),
    word_line_append shown.nonempty flags, word_line_singleton, shown.line]

theorem to_list_listed_line {column : Column} {found : List (List Char)} (comma : Bool)
    (shown : DisplayWords column.displayType found) :
    (column.listedLine comma).toList = "    ".toList ++ wordLine (column.listedWords found comma) := by
  rw [word_line_listed comma shown, Column.listedLine, column_line_eq]
  cases column.primaryKey <;> cases column.foreignKey <;> cases column.nullable <;> cases comma <;>
    simp [flagWords, wordLine]

theorem are_words_listed {column : Column} {found : List (List Char)} (comma : Bool)
    (name : AsciiWord column.name) (shown : DisplayWords column.displayType found) :
    AreWords (column.listedWords found comma) := by
  intro word member
  simp only [Column.listedWords, List.mem_cons, List.mem_append] at member
  rcases member with rfl | inType | inFlags
  · exact ⟨name.nonempty, name.solid⟩
  · exact shown.areWords word inType
  · exact FlagWords.are_words _ _ _ _ word inFlags

theorem neighbours_mark_listed {column : Column} {found : List (List Char)} (comma : Bool)
    (shown : DisplayWords column.displayType found) :
    neighboursMark (column.listedWords found comma) = column.inRelationalModel := by
  have type := shown.marks _
    (FlagWords.begins column.primaryKey column.foreignKey column.nullable comma)
    (FlagWords.unmarked column.primaryKey column.foreignKey column.nullable comma)
  have begins := shown.begins
  obtain ⟨first, rest, rfl⟩ := List.exists_cons_of_ne_nil shown.nonempty
  rw [List.headD_cons] at begins
  rw [List.cons_append] at type
  rw [Column.listedWords, List.cons_append, neighboursMark, type, begins, Bool.and_true,
    Column.inRelationalModel]

theorem last_listed_line (column : Column) (found : List (List Char)) (comma : Bool) :
    (wordLine (column.listedWords found comma)).getLast? ≠ some '(' := by
  have split : column.listedWords found comma = (column.name.toList :: (found ++
      ((if column.primaryKey then ["PK".toList] else []) ++
        (if column.foreignKey then ["FK".toList] else []) ++
        (if column.nullable then [] else ["NOT".toList])))) ++
      [if comma then "NULL,".toList else "NULL".toList] := by
    simp only [Column.listedWords, flagWords, List.append_assoc, List.cons_append]
  rw [split, last_word_line (by cases comma <;> decide)]
  cases comma <;> decide

/-- The key is found among the flags, also where a part of the type stands before them. -/
theorem of_modifiers_listed {column : Column} {found : List (List Char)} (comma : Bool)
    (shown : DisplayWords column.displayType found) :
    KeyMarker.ofModifiers? (String.ofList (wordLine (found.tail ++
        flagWords column.primaryKey column.foreignKey column.nullable comma))) =
      column.relationalAttribute.key := by
  have flags := FlagWords.modifiers column.primaryKey column.foreignKey column.nullable comma
  rw [KeyMarker.ofModifiers?, String.toList_ofList] at flags ⊢
  simp only [fun marker => shown.modifiers marker _
    (FlagWords.nonempty column.primaryKey column.foreignKey column.nullable comma)]
  exact flags

theorem of_words_listed {column : Column} {found : List (List Char)} (comma : Bool)
    (shown : DisplayWords column.displayType found) :
    Attribute.ofWords? (column.listedWords found comma) = some column.relationalAttribute := by
  have key := of_modifiers_listed comma shown
  have typeWords : words column.displayType.toList = found := by
    rw [shown.line, words_word_line shown.areWords]
  obtain ⟨first, rest, rfl⟩ := List.exists_cons_of_ne_nil shown.nonempty
  rw [List.tail_cons, wordLine] at key
  rw [Column.listedWords, List.cons_append, Attribute.ofWords?, key, Column.relationalAttribute,
    typeWords, String.ofList_toList, List.headD_cons]

theorem no_reference_listed {column : Column} {found : List (List Char)} (comma : Bool)
    (name : AsciiWord column.name) (shown : DisplayWords column.displayType found) :
    KeyReference.ofLine? (wordLine (column.listedWords found comma)) = none := by
  have flags := FlagWords.no_reference column.primaryKey column.foreignKey column.nullable comma
  have closes := (FlagWords.no_parenthesis column.primaryKey column.foreignKey column.nullable
    comma).2
  have nameCloses : ')' ∉ column.name.toList := name.lacks rfl
  have type : column.displayType.toList ≠ [] := by
    rw [shown.line]
    exact word_line_ne_nil shown.areWords shown.nonempty
  rw [word_line_listed comma shown, ← List.cons_append, ← List.append_assoc]
  apply no_key_reference
  · rw [List.dropLast_append_of_ne_nil (by simp), List.dropLast_cons_of_ne_nil type]
    simp [nameCloses, shown.closes]
  · simpa using closes
  · simpa using flags

theorem read_listed_line (entity : String) {column : Column} (comma : Bool) (name : AsciiWord column.name)
    (type : AsciiWord column.type) :
    readLine .relational defaultLabel (some entity) (column.listedLine comma).toList =
      ⟨if column.inRelationalModel then some (.addAttribute column.relationalAttribute) else none,
        some entity⟩ := by
  obtain ⟨found, shown⟩ := display_words_of_form type (display_form column)
  have areWords := are_words_listed comma name shown
  have nonempty : wordLine (column.listedWords found comma) ≠ [] :=
    word_line_ne_nil areWords (by simp [Column.listedWords])
  have line : trim (column.listedLine comma).toList = wordLine (column.listedWords found comma) := by
    rw [to_list_listed_line comma shown, trim_gap_append gap_shallow, trimmed_word_line areWords]
  have last := last_listed_line column found comma
  have notCloser : wordLine (column.listedWords found comma) ≠ [')'] := by
    intro closer
    have blank : ' ' ∈ wordLine (column.listedWords found comma) := by
      rw [word_line_listed comma shown]
      simp
    rw [closer] at blank
    exact absurd blank (by decide)
  have carries := carries_attribute_word_line areWords
  rw [neighbours_mark_listed comma shown] at carries
  rw [read_line_of_trim line nonempty]
  split
  · next kept =>
    rw [kept] at carries
    rw [read_trimmed_attribute (block_name_eq_none last) notCloser carries, words_word_line areWords,
      of_words_listed comma shown]
    rfl
  · next lost =>
    have notCarried : carriesAttribute (wordLine (column.listedWords found comma)) = false := by
      rw [carries]
      simpa using lost
    rw [read_trimmed_link (block_name_eq_none last) notCloser fun _ => notCarried, Dialect.link?,
      no_reference_listed comma name shown]
    rfl

theorem unbroken_listed_line {column : Column} (comma : Bool) (name : AsciiWord column.name)
    (type : AsciiWord column.type) : Unbroken (column.listedLine comma).toList := by
  obtain ⟨found, shown⟩ := display_words_of_form type (display_form column)
  rw [to_list_listed_line comma shown]
  exact unbroken_word_line (by decide) (are_words_listed comma name shown)
    (by simp [Column.listedWords])

theorem relational_columns_cons (column : Column) (rest : List Column) :
    relationalColumns (column :: rest) =
      column.listedLine (!rest.isEmpty) :: relationalColumns rest := by
  cases rest with
  | nil => simp [relationalColumns, Column.listedLine]
  | cons next later => simp [relationalColumns, Column.listedLine]

theorem says_relational_columns (entity : String) {columns : List Column}
    (words : ∀ column ∈ columns, AsciiWord column.name ∧ AsciiWord column.type) :
    Says .relational defaultLabel (some entity) ((relationalColumns columns).map String.toList)
      ((columns.filter Column.inRelationalModel).map (.addAttribute ·.relationalAttribute))
      (some entity) := by
  induction columns with
  | nil => exact says_nil
  | cons column rest ih =>
      obtain ⟨name, type⟩ := words column List.mem_cons_self
      have later := ih fun other member => words other (List.mem_cons_of_mem _ member)
      have line := says_cons (read_listed_line defaultLabel entity (!rest.isEmpty) name type) later
      rw [relational_columns_cons, List.map_cons, List.filter_cons]
      split
      · next kept =>
        rw [if_pos kept] at line
        exact line
      · next lost =>
        rw [if_neg lost] at line
        exact line

theorem relational_lines_eq (table : Table) :
    table.relationalLines =
      (table.name ++ " (") :: (relationalColumns table.primaryKeyFirst ++ [")", ""]) := rfl

theorem says_relational_table {table : Table} (name : AsciiWord table.name)
    (words : ∀ column ∈ table.columns, AsciiWord column.name ∧ AsciiWord column.type) :
    Says .relational defaultLabel none (table.relationalLines.map String.toList)
      table.relationalDiagram none := by
  have opened : readLine .relational defaultLabel none (table.name ++ " (").toList =
      ⟨some (.openEntity table.name), some table.name⟩ := by
    rw [read_relational_open_line name, named_block_word name]
  have listed : ∀ column ∈ table.primaryKeyFirst, AsciiWord column.name ∧ AsciiWord column.type :=
    fun column member => words column (mem_primary_key_first.mp member)
  have columns := says_relational_columns defaultLabel table.name listed
  have closed : Says .relational defaultLabel (some table.name) [")".toList, "".toList]
      [.closeEntity] none :=
    says_cons read_relational_close_line (says_skip rfl says_nil)
  rw [relational_lines_eq, List.map_cons, List.map_append]
  exact says_cons opened (says_append columns closed)

theorem says_key_lines {keys : List ForeignKey}
    (words : ∀ key ∈ keys, AsciiWord key.column ∧ AsciiWord key.refTable ∧ AsciiWord key.refColumn) :
    Says .relational defaultLabel none (keys.map fun key => key.relationalLine.toList)
      (keys.map (.addRelationship ·.relationalLink)) none := by
  induction keys with
  | nil => exact says_nil
  | cons key rest ih =>
      obtain ⟨column, target, targetColumn⟩ := words key List.mem_cons_self
      have later := ih fun other member => words other (List.mem_cons_of_mem _ member)
      exact says_cons (read_key_line column target targetColumn) later

/-- The heading of the section holds the mark of a foreign key, but nothing is in parentheses
there. -/
theorem says_foreign_key_section {keys : List ForeignKey}
    (words : ∀ key ∈ keys, AsciiWord key.column ∧ AsciiWord key.refTable ∧ AsciiWord key.refColumn) :
    Says .relational defaultLabel none ((foreignKeyLines keys).map String.toList)
      (keys.map (.addRelationship ·.relationalLink)) none := by
  have lines := says_key_lines defaultLabel words
  have heading : Says .relational defaultLabel none
      ["FOREIGN KEYS:".toList, (rule '-' sectionWidth "").toList] [] none :=
    says_skip rfl (says_skip rfl says_nil)
  have ended : Says .relational defaultLabel none ["".toList] [] none := says_skip rfl says_nil
  rw [foreignKeyLines]
  split
  · next empty =>
    rw [List.isEmpty_iff.mp empty]
    exact says_nil
  · have all := says_append (says_append heading lines) ended
    simpa only [List.map_append, List.map_cons, List.map_nil, List.map_map, List.nil_append,
      List.append_nil, Function.comp_def] using all

theorem says_relational_model {schema : Schema} (words : schema.RelationalWords) :
    Says .relational defaultLabel none (schema.relationalLines.map String.toList)
      schema.relationalDiagram none := by
  have title : Says .relational defaultLabel none
      ["RELATIONAL MODEL".toList, (rule '=' titleWidth "").toList, "".toList] [] none :=
    says_skip rfl (says_skip rfl (says_skip rfl says_nil))
  have tables : Says .relational defaultLabel none
      (schema.tables.flatMap fun table => table.relationalLines.map String.toList)
      (schema.tables.flatMap Table.relationalDiagram) none :=
    says_flat_map fun table member =>
      says_relational_table defaultLabel (words.tables table member) (words.columns table member)
  have keys := says_foreign_key_section defaultLabel words.keys
  have all := says_append (says_append title tables) keys
  simpa only [Schema.relationalLines, Schema.relationalDiagram, List.map_append, List.map_flatMap,
    List.map_cons, List.map_nil, List.nil_append] using all

theorem unbroken_relational_columns {columns : List Column}
    (words : ∀ column ∈ columns, AsciiWord column.name ∧ AsciiWord column.type) :
    ∀ line ∈ relationalColumns columns, Unbroken line.toList := by
  induction columns with
  | nil => simp [relationalColumns]
  | cons column rest ih =>
      obtain ⟨name, type⟩ := words column List.mem_cons_self
      rw [relational_columns_cons, List.forall_mem_cons]
      exact ⟨unbroken_listed_line _ name type,
        ih fun other member => words other (List.mem_cons_of_mem _ member)⟩

theorem unbroken_relational_table {table : Table} (name : AsciiWord table.name)
    (words : ∀ column ∈ table.columns, AsciiWord column.name ∧ AsciiWord column.type) :
    ∀ line ∈ table.relationalLines, Unbroken line.toList := by
  have opened : Unbroken (table.name ++ " (").toList := by
    have noFeed : '\n' ∉ table.name.toList := name.lacks rfl
    apply unbroken_of_last (c := '(') _ _ (by decide)
    · simp [noFeed]
    · simp
  have listed : ∀ column ∈ table.primaryKeyFirst, AsciiWord column.name ∧ AsciiWord column.type :=
    fun column member => words column (mem_primary_key_first.mp member)
  have columns := unbroken_relational_columns listed
  rw [relational_lines_eq, List.forall_mem_cons]
  refine ⟨opened, ?_⟩
  intro line member
  rcases List.mem_append.mp member with inColumns | inEnd
  · exact columns line inColumns
  · simp only [List.mem_cons, List.not_mem_nil, or_false] at inEnd
    rcases inEnd with rfl | rfl
    · exact ⟨by decide, by decide⟩
    · exact ⟨by decide, by decide⟩

theorem unbroken_key_line {key : ForeignKey} (column : AsciiWord key.column)
    (target : AsciiWord key.refTable) (targetColumn : AsciiWord key.refColumn) :
    Unbroken key.relationalLine.toList := by
  apply unbroken_of_last _ (last_key_line key) (by decide)
  have columnFeed : '\n' ∉ key.column.toList := column.lacks rfl
  have targetFeed : '\n' ∉ key.refTable.toList := target.lacks rfl
  have targetColumnFeed : '\n' ∉ key.refColumn.toList := targetColumn.lacks rfl
  rw [to_list_key_line]
  simp [ForeignKey.afterMark, foreignKeyMark, columnFeed, targetFeed, targetColumnFeed]

theorem unbroken_rule {mark : Char} (noFeed : mark ≠ '\n') (noReturn : mark ≠ '\r') (least : Nat)
    (heading : String) : Unbroken (rule mark least heading).toList := by
  rw [rule, String.toList_ofList]
  constructor
  · intro member
    exact noFeed (List.eq_of_mem_replicate member).symm
  · intro last
    exact noReturn (List.eq_of_mem_replicate (List.mem_of_mem_getLast? last)).symm

theorem unbroken_relational_model {schema : Schema} (words : schema.RelationalWords) :
    ∀ line ∈ schema.relationalLines, Unbroken line.toList := by
  intro line member
  simp only [Schema.relationalLines, List.mem_append, List.mem_flatMap, List.mem_cons,
    List.not_mem_nil, or_false] at member
  rcases member with ((rfl | rfl | rfl) | ⟨table, inSchema, inTable⟩) | inKeys
  · exact ⟨by decide, by decide⟩
  · exact unbroken_rule (by decide) (by decide) _ _
  · exact ⟨by decide, by decide⟩
  · exact unbroken_relational_table (words.tables table inSchema) (words.columns table inSchema) line
      inTable
  · rw [foreignKeyLines] at inKeys
    split at inKeys
    · contradiction
    · simp only [List.mem_append, List.mem_map, List.mem_cons, List.not_mem_nil, or_false] at inKeys
      rcases inKeys with ((rfl | rfl) | ⟨key, inSchema, rfl⟩) | rfl
      · exact ⟨by decide, by decide⟩
      · exact unbroken_rule (by decide) (by decide) _ _
      · obtain ⟨column, target, targetColumn⟩ := words.keys key inSchema
        exact unbroken_key_line column target targetColumn
      · exact ⟨by decide, by decide⟩

/-- Reading the relational model of a schema gives the columns whose displayed type or name ends in a
type name, each with name and type exchanged, and the foreign keys with their targets on the left. -/
theorem read_relational_model (schema : Schema) (words : schema.RelationalWords)
    (defaultLabel : String) :
    readDescription .relational { defaultLabel } schema.relationalModel =
      .ok schema.relationalDiagram := by
  have statements := (says_relational_model defaultLabel words).statements
  rw [readDescription, Schema.relationalModel,
    statements_of_join_lines (unbroken_relational_model words), statements]

theorem read_relational_model_of_orders :
    let orders : Table := ⟨"orders", [{ name := "hint", type := "json", nullable := false },
      { name := "note", type := "json" },
      { name := "price", type := "decimal", size := some (.precision 10 2) },
      { name := "point", type := "numeric", size := some (.precision 10 2), foreignKey := true },
      { name := "customer", type := "bigint", foreignKey := true },
      { name := "id", type := "int", primaryKey := true, nullable := false }]⟩
    let schema : Schema := ⟨[orders, ⟨"empty", []⟩],
      [⟨"orders_customer", "orders", "customer", "customers", "id"⟩]⟩
    schema.RelationalWords ∧
      readDescription .relational { defaultLabel := "" } schema.relationalModel =
        .ok [.openEntity "orders", .addAttribute ⟨"id", "int", some .primary⟩,
          .addAttribute ⟨"hint", "json", some .nullable⟩,
          .addAttribute ⟨"point", "numeric(10,", some .foreign⟩,
          .addAttribute ⟨"customer", "bigint", some .foreign⟩, .closeEntity,
          .openEntity "empty", .closeEntity,
          .addRelationship ⟨"customers", "", "customer references id"⟩] := by
  intro orders schema
  have words : schema.RelationalWords := by decide
  exact ⟨words, read_relational_model schema words ""⟩

end ErDiagram
