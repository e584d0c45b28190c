import ErDiagram.Proofs.Description.AttributeMark
import ErDiagram.Proofs.Description.RelationalLine
import ErDiagram.Proofs.Text.Comparison
import ErDiagram.Proofs.Text.FilledLines

/-!
# Foreign keys inside and outside of a block

A line with a foreign key says the same on its own and in the block of a table, where it links that
table besides. A line that carries an attribute is the exception: in a block it is an attribute,
whatever else it holds.
-/

namespace ErDiagram

set_option autoImplicit false

open Text

variable {defaultLabel : String} {block : Option String} {line : List Char} {reference : KeyReference}

theorem end_blind_bracketed {α : Type} {next : List Char → Option α} (blind : EndBlind next) :
    EndBlind (bracketed next) := by
  have closer : ∀ c ∈ ")".toList.getLast?, isBlank c = false := by rintro _ ⟨⟩; rfl
  have opener : ∀ c ∈ "(".toList.getLast?, isBlank c = false := by rintro _ ⟨⟩; rfl
  exact ((blind.literal closer).shortest isInLine).literal opener

theorem end_blind_key_reference : EndBlind KeyReference.ofLine? := by
  have word : ∀ c ∈ "REFERENCES".toList.getLast?, isBlank c = false := by rintro _ ⟨⟩; rfl
  have mark : ∀ c ∈ foreignKeyMark.toList.getLast?, isBlank c = false := by rintro _ ⟨⟩; rfl
  have nothing : EndBlind fun _ => some () := fun _ _ _ => rfl
  have target := (end_blind_bracketed nothing).blanks.shortest isInLine
  have found := (end_blind_bracketed (target.blanks.literal word).blanks).blanks
  have afterMark : EndBlind KeyReference.afterMark? :=
    fun text gap blank => congrArg (Option.map _) (found text gap blank)
  exact (afterMark.literal mark).anywhere

theorem key_reference_trim (line : List Char) :
    KeyReference.ofLine? (trim line) = KeyReference.ofLine? line := by
  obtain ⟨before, after, blankBefore, blankAfter, split⟩ := trim_split line
  have start : KeyReference.ofLine? (before ++ (trim line ++ after)) =
      KeyReference.ofLine? (trim line ++ after) :=
    anywhere_literal_gap_append rfl rfl blankBefore _
  conv_rhs => rw [split]
  rw [start, end_blind_key_reference _ _ blankAfter]

theorem carries_attribute_trim (line : List Char) :
    carriesAttribute (trim line) = carriesAttribute line := by
  obtain ⟨before, after, blankBefore, blankAfter, split⟩ := trim_split line
  conv_rhs => rw [split]
  rw [carries_attribute_gap_append blankBefore, carries_attribute_append_gap blankAfter]

theorem words_trim (line : List Char) : words (trim line) = words line := by
  obtain ⟨before, after, blankBefore, blankAfter, split⟩ := trim_split line
  conv_rhs => rw [split]
  rw [words_gap_append blankBefore, words_append_gap blankAfter]

theorem unnamed_key_line (stated : KeyReference.ofLine? line = some reference) :
    Dialect.relational.blockName? line = none := by
  obtain ⟨before, rest, rfl, -⟩ := anywhere_literal_sound stated
  have marked : occursIn Dialect.relational.linkMark (before ++ (foreignKeyMark.toList ++ rest)) = true :=
    occurs_in_iff.mpr ⟨before, rest, by rw [List.append_assoc]; rfl⟩
  rw [Dialect.blockName?, marked, if_neg (by simp)]

theorem key_line_ne_closer (stated : KeyReference.ofLine? line = some reference) :
    line ≠ [Dialect.relational.closer] := by
  rintro rfl
  have nothing : KeyReference.ofLine? [Dialect.relational.closer] = none := rfl
  simp [nothing] at stated

theorem key_line_ne_nil (stated : KeyReference.ofLine? line = some reference) : line ≠ [] := by
  rintro rfl
  have nothing : KeyReference.ofLine? [] = none := rfl
  simp [nothing] at stated

theorem read_key_reference (stated : KeyReference.ofLine? line = some reference)
    (noAttribute : block.isSome = true → carriesAttribute line = false) :
    readLine .relational defaultLabel block line =
      ⟨some (.addRelationship (reference.relationship block)), block⟩ := by
  rw [← key_reference_trim] at stated
  rw [← carries_attribute_trim] at noAttribute
  rw [read_line_of_trim rfl (key_line_ne_nil stated),
    read_trimmed_link (unnamed_key_line stated) (key_line_ne_closer stated) noAttribute,
    Dialect.link?, stated]
  rfl

theorem read_key_attribute {entity : String} (stated : KeyReference.ofLine? line = some reference)
    (carries : carriesAttribute line = true) :
    readLine .relational defaultLabel (some entity) line =
      ⟨(Attribute.ofWords? (words line)).map .addAttribute, some entity⟩ := by
  rw [← key_reference_trim] at stated
  rw [← carries_attribute_trim] at carries
  rw [read_line_of_trim rfl (key_line_ne_nil stated),
    read_trimmed_attribute (unnamed_key_line stated) (key_line_ne_closer stated) carries, words_trim]

theorem attribute_of_carried (carries : carriesAttribute line = true) :
    ∃ added, Attribute.ofWords? (words line) = some added := by
  obtain ⟨mark, ⟨known, separated, blank, nonempty, all⟩, before, after, rfl⟩ :=
    carries_attribute_iff.mp carries
  rename_i type gap word
  obtain ⟨c, gap, rfl⟩ := List.exists_cons_of_ne_nil separated
  have first : words (before ++ type.toList) ≠ [] := by
    intro none
    obtain ⟨d, member⟩ := List.exists_mem_of_ne_nil _ (attribute_type_nonempty known)
    have isBlank := gap_of_no_words none d (List.mem_append_right _ member)
    rw [attribute_type_solid known d member] at isBlank
    contradiction
  have second : words (gap ++ (word ++ after)) ≠ [] := by
    intro none
    obtain ⟨d, member⟩ := List.exists_mem_of_ne_nil _ nonempty
    have isBlank := gap_of_no_words none d (by simp [member])
    rw [ascii_word_char_not_blank (all d member)] at isBlank
    contradiction
  have split : before ++ (type.toList ++ c :: gap ++ word) ++ after =
      (before ++ type.toList) ++ c :: (gap ++ (word ++ after)) := by
    simp only [List.append_assoc, List.cons_append]
  rw [split, words_append_cons (blank c List.mem_cons_self)]
  obtain ⟨one, found, same⟩ := List.exists_cons_of_ne_nil first
  obtain ⟨other, later, sameLater⟩ := List.exists_cons_of_ne_nil second
  rw [same, sameLater]
  cases found with
  | nil => exact ⟨_, rfl⟩
  | cons next found => exact ⟨_, rfl⟩

def oneLineTable (name line : String) : String := name ++ " (\n" ++ line ++ "\n)"

theorem lines_one_line_table {name line : String} (nameInLine : '\n' ∉ name.toList)
    (inLine : '\n' ∉ line.toList) :
    lines (oneLineTable name line).toList =
      [withoutReturn (name ++ " (").toList, withoutReturn line.toList, [')']] := by
  have split : (oneLineTable name line).toList =
      (name ++ " (").toList ++ '\n' :: (line.toList ++ '\n' :: [')']) := by
    simp [oneLineTable]
  rw [split, lines_append_feed (by simpa using nameInLine), lines_append_feed inLine]
  rfl

theorem read_line_without_return (dialect : Dialect) (defaultLabel : String) (block : Option String)
    (line : List Char) :
    readLine dialect defaultLabel block (withoutReturn line) =
      readLine dialect defaultLabel block line := by
  rw [readLine, trim_without_return, readLine]

/-- The names that a block in relational notation can have. -/
structure BlockName (name : String) : Prop where
  nonempty : name.toList ≠ []
  inLine : '\n' ∉ name.toList
  trimmed : Trimmed name.toList
  unmarked : ¬ foreignKeyMark.toList <:+: name.toList

instance (name : String) : Decidable (BlockName name) :=
  decidable_of_iff (name.toList ≠ [] ∧ '\n' ∉ name.toList ∧ Trimmed name.toList ∧
      ¬ foreignKeyMark.toList <:+: name.toList)
    ⟨fun ⟨nonempty, inLine, trimmed, unmarked⟩ => ⟨nonempty, inLine, trimmed, unmarked⟩,
      fun named => ⟨named.nonempty, named.inLine, named.trimmed, named.unmarked⟩⟩

theorem read_one_line_table {options : ReadingOptions} {name line : String} {said : Statement}
    (roomy : ∀ limit ∈ options.maxLines, 3 ≤ limit) (named : BlockName name)
    (inLine : '\n' ∉ line.toList)
    (read : readLine .relational options.defaultLabel (some name) line.toList =
      ⟨some said, some name⟩) :
    readDescription .relational options (oneLineTable name line) =
      .ok [.openEntity name, said, .closeEntity] := by
  have split := lines_one_line_table named.inLine inLine
  have accepted : ¬ options.Refuse (oneLineTable name line) := by
    rintro ⟨limit, bounded, exceeded⟩
    have room := roomy limit bounded
    simp only [split, List.length_cons, List.length_nil] at exceeded
    omega
  have opened : readLine .relational options.defaultLabel none (withoutReturn (name ++ " (").toList) =
      ⟨some (.openEntity name), some name⟩ := by
    rw [read_relational_opener named.nonempty named.trimmed named.unmarked (trim_without_return _),
      namedBlock, if_neg (by simpa using named.nonempty)]
  rw [← read_line_without_return] at read
  rw [read_accepted _ accepted, statementsOf, split, statements_after_cons opened,
    statements_after_cons read]
  rfl

/-- The line of a foreign key links no table on its own. In the block of a table it is the same link
with that table on the right, unless it carries an attribute: then it is that attribute and no link. -/
theorem key_line_in_block (options : ReadingOptions)
    (roomy : ∀ limit ∈ options.maxLines, 3 ≤ limit) (name line : String) (named : BlockName name)
    (inLine : '\n' ∉ line.toList) (stated : (KeyReference.ofLine? line.toList).isSome = true) :
    ∃ link : Relationship, link.right = "" ∧
      readDescription .relational options line = .ok [.addRelationship link] ∧
      (carriesAttribute line.toList = false →
        readDescription .relational options (oneLineTable name line) =
          .ok [.openEntity name, .addRelationship { link with right := name }, .closeEntity]) ∧
      (carriesAttribute line.toList = true →
        ∃ added, Attribute.ofWords? (words line.toList) = some added ∧
          readDescription .relational options (oneLineTable name line) =
            .ok [.openEntity name, .addAttribute added, .closeEntity]) := by
  obtain ⟨reference, stated⟩ := Option.isSome_iff_exists.mp stated
  refine ⟨reference.relationship none, rfl, ?_, fun plain => ?_, fun carries => ?_⟩
  · have onlyLine : lines line.toList = [line.toList] :=
      lines_of_unbroken inLine (key_line_ne_nil stated)
    have accepted : ¬ options.Refuse line := by
      rintro ⟨limit, bounded, exceeded⟩
      have room := roomy limit bounded
      simp only [onlyLine, List.length_singleton] at exceeded
      omega
    have outside : (none : Option String).isSome = true → carriesAttribute line.toList = false := by
      rintro ⟨⟩
    rw [read_accepted _ accepted, statementsOf, onlyLine,
      statements_after_cons (read_key_reference stated outside)]
    rfl
  · exact read_one_line_table roomy named inLine (read_key_reference stated fun _ => plain)
  · obtain ⟨added, read⟩ := attribute_of_carried carries
    refine ⟨added, read, read_one_line_table roomy named inLine ?_⟩
    rw [read_key_attribute stated carries, read]
    rfl

/-- A column named `integer` does not make the line of a key an attribute, and a type before a word
does. -/
theorem key_line_in_orders :
    readDescription .relational {} (oneLineTable "orders"
        " FOREIGN KEY (integer) REFERENCES customers (id)\r") =
      .ok [.openEntity "orders",
        .addRelationship ⟨"customers", "orders", "integer references id"⟩, .closeEntity] ∧
    readDescription .relational {} (oneLineTable "orders"
        "customer int FOREIGN KEY (customer) REFERENCES customers (id)") =
      .ok [.openEntity "orders", .addAttribute ⟨"customer", "int", none⟩, .closeEntity] := by
  have roomy : ∀ limit ∈ ({} : ReadingOptions).maxLines, 3 ≤ limit := by
    rintro _ ⟨⟩
  constructor
  · obtain ⟨link, -, alone, linked, -⟩ := key_line_in_block {} roomy "orders"
      " FOREIGN KEY (integer) REFERENCES customers (id)\r" (by decide) (by decide) (by decide)
    have known : readDescription .relational {}
        " FOREIGN KEY (integer) REFERENCES customers (id)\r" =
          .ok [.addRelationship ⟨"customers", "", "integer references id"⟩] := by decide +kernel
    obtain rfl : ⟨"customers", "", "integer references id"⟩ = link := by
      simpa using Except.ok.inj (known.symm.trans alone)
    exact linked (by decide)
  · obtain ⟨-, -, -, -, attributed⟩ := key_line_in_block {} roomy "orders"
      "customer int FOREIGN KEY (customer) REFERENCES customers (id)" (by decide) (by decide)
      (by decide)
    obtain ⟨added, read, said⟩ := attributed (by decide)
    have known : Attribute.ofWords?
        (words "customer int FOREIGN KEY (customer) REFERENCES customers (id)".toList) =
          some ⟨"customer", "int", none⟩ := by decide +kernel
    obtain rfl := Option.some.inj (known.symm.trans read)
    exact said

/-- The line of a foreign key that carries an attribute says different things inside and outside of a
block. -/
theorem key_line_lost_in_block :
    ¬ ∀ (name line : String) (link : Relationship), BlockName name → '\n' ∉ line.toList →
      foreignKeyMark.toList <:+: line.toList → (KeyReference.ofLine? line.toList).isSome = true →
      readDescription .relational {} line = .ok [.addRelationship link] →
      readDescription .relational {} (oneLineTable name line) =
        .ok [.openEntity name, .addRelationship { link with right := name }, .closeEntity] := by
  intro same
  have linked := same "t" "x int FOREIGN KEY (x) REFERENCES r (b)" ⟨"r", "", "x references b"⟩
    (by decide) (by decide) (by decide) (by decide) (by decide +kernel)
  exact absurd linked (by decide +kernel)

end ErDiagram
