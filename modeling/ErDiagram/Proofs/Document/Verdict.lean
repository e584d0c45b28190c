import ErDiagram.Document.Verdict
import ErDiagram.Proofs.Document.Brackets
import ErDiagram.Proofs.Document.Pieces
import ErDiagram.Proofs.Script.Scanning

/-!
# When a line opens an entity

A line opens an entity exactly if one word, perhaps with blanks around it, stands before a brace. That is
less than the reader of descriptions asks for, since the brace need not end the line. Still, a statement
that is read and written out again opens an entity only if its line did.
-/

namespace ErDiagram

set_option autoImplicit false

open Text

/-- A text that consists of one word and perhaps of blanks around it. -/
def NamesEntity (text : List Char) : Prop :=
  trim text ≠ [] ∧ ∀ c ∈ trim text, isWordChar c = true

instance (text : List Char) : Decidable (NamesEntity text) :=
  inferInstanceAs (Decidable (trim text ≠ [] ∧ ∀ c ∈ trim text, isWordChar c = true))

theorem mark_apart_blank : Script.apart blankRanges markRanges = true := by decide +kernel

theorem word_char_not_blank {c : Char} (word : isWordChar c = true) : isBlank c = false := by
  rw [Bool.eq_false_iff]
  intro blank
  have letter : isAlphabetic c = false :=
    Script.covers_eq_false_of_apart Script.alphabetic_apart_blank blank
  have digit : isDecimalDigit c = false :=
    Script.covers_eq_false_of_apart Script.decimal_digit_apart_blank blank
  have mark : covers markRanges c.toNat = false :=
    Script.covers_eq_false_of_apart mark_apart_blank blank
  simp [isWordChar, letter, digit, mark] at word

theorem solid_of_word {word : List Char} (all : ∀ c ∈ word, isWordChar c = true) : Solid word :=
  fun c member => word_char_not_blank (all c member)

theorem names_entity_between_gaps {before after : List Char} (gapBefore : Gap before)
    (gapAfter : Gap after) (text : List Char) :
    NamesEntity (before ++ (text ++ after)) ↔ NamesEntity text := by
  rw [NamesEntity, NamesEntity, trim_gap_append gapBefore, trim_append_gap gapAfter]

theorem names_entity_trim (text : List Char) : NamesEntity (trim text) ↔ NamesEntity text := by
  have same : trim (trim text) = trim text := trimmed_trim text
  rw [NamesEntity, NamesEntity, same]

theorem names_entity_iff_of_solid {word : List Char} (solid : Solid word) :
    NamesEntity word ↔ word ≠ [] ∧ ∀ c ∈ word, isWordChar c = true := by
  rw [NamesEntity, trimmed_of_solid solid]

theorem not_mem_of_names_entity {text : List Char} {c : Char} (names : NamesEntity text)
    (bare : isBlank c = false) (other : isWordChar c = false) : c ∉ text := by
  obtain ⟨before, after, gapBefore, gapAfter, split⟩ := trim_split text
  rw [split]
  simp only [List.mem_append, not_or]
  refine ⟨?_, ?_, ?_⟩
  · exact fun member => Bool.false_ne_true (bare.symm.trans (gapBefore c member))
  · exact fun member => Bool.false_ne_true (other.symm.trans (names.2 c member))
  · exact fun member => Bool.false_ne_true (bare.symm.trans (gapAfter c member))

theorem brace_not_mem_of_names_entity {text : List Char} (names : NamesEntity text) :
    '\x7b' ∉ text :=
  not_mem_of_names_entity names (by decide) (by decide)

theorem brace_not_mem_of_gap {gap : List Char} (blank : Gap gap) : '\x7b' ∉ gap := by
  intro member
  exact absurd (blank _ member) (by decide)

theorem opens_entity_after_word {gap word : List Char} (blank : Gap gap) (nonempty : word ≠ [])
    (all : ∀ c ∈ word, isWordChar c = true) {d : Char} (stops : isWordChar d = false)
    (rest : List Char) :
    opensEntity (gap ++ (word ++ d :: rest)) = decide ((trimStart (d :: rest)).head? = some '\x7b') := by
  have start : trimStart (gap ++ (word ++ d :: rest)) = word ++ d :: rest := by
    rw [trim_start_gap_append blank]
    apply trim_start_of_head
    obtain ⟨c, later, rfl⟩ := List.exists_cons_of_ne_nil nonempty
    rintro _ ⟨⟩
    exact word_char_not_blank (all c List.mem_cons_self)
  have taken : (word ++ d :: rest).takeWhile isWordChar = word :=
    Script.take_while_run (List.all_eq_true.mpr all) stops
  have dropped : (word ++ d :: rest).dropWhile isWordChar = d :: rest :=
    Script.drop_while_run (List.all_eq_true.mpr all) stops
  have filled : word.isEmpty = false := by simpa using nonempty
  rw [opensEntity, start, taken, dropped, filled, Bool.not_false, Bool.true_and]

/-- Another character within what begins as a word decides at once. -/
theorem opens_entity_cut_word {gap word : List Char} (blank : Gap gap)
    (all : ∀ c ∈ word, isWordChar c = true) {d : Char} (bare : isBlank d = false)
    (stops : isWordChar d = false) (rest : List Char) :
    opensEntity (gap ++ (word ++ d :: rest)) = (!word.isEmpty && decide (d = '\x7b')) := by
  have start : trimStart (d :: rest) = d :: rest := trim_start_of_head (by rintro _ ⟨⟩; exact bare)
  cases word with
  | nil =>
      have begins : trimStart (gap ++ d :: rest) = d :: rest := by
        rw [trim_start_gap_append blank, start]
      rw [List.nil_append, opensEntity, begins, List.takeWhile_cons_of_neg (by simp [stops])]
      rfl
  | cons c later =>
      rw [opens_entity_after_word blank (by simp) all stops, start]
      simp

theorem opens_entity_iff {line : List Char} :
    opensEntity line = true ↔ ∃ front rest, line = front ++ '\x7b' :: rest ∧ NamesEntity front := by
  constructor
  · intro opens
    obtain ⟨nonempty, brace⟩ := Bool.and_eq_true_iff.mp opens
    obtain ⟨rest, found⟩ := List.head?_eq_some_iff.mp (of_decide_eq_true brace)
    obtain ⟨before, gapBefore, start⟩ := trim_start_split line
    obtain ⟨after, gapAfter, ending⟩ := trim_start_split ((trimStart line).dropWhile isWordChar)
    have all : ∀ c ∈ (trimStart line).takeWhile isWordChar, isWordChar c = true :=
      fun c member => List.mem_takeWhile_imp member
    refine ⟨before ++ ((trimStart line).takeWhile isWordChar ++ after), rest, ?_, ?_⟩
    · rw [List.append_assoc, List.append_assoc, ← found, ← ending, List.takeWhile_append_dropWhile,
        ← start]
    · rw [names_entity_between_gaps gapBefore gapAfter, names_entity_iff_of_solid (solid_of_word all)]
      exact ⟨by simpa using nonempty, all⟩
  · rintro ⟨front, rest, rfl, nonempty, all⟩
    obtain ⟨before, after, gapBefore, gapAfter, split⟩ := trim_split front
    have begins : trimStart (after ++ '\x7b' :: rest) = '\x7b' :: rest := by
      rw [trim_start_gap_append gapAfter]
      exact trim_start_of_head (by rintro _ ⟨⟩; decide)
    obtain ⟨d, more, tail, stops⟩ : ∃ d more, after ++ '\x7b' :: rest = d :: more ∧
        isWordChar d = false := by
      cases after with
      | nil => exact ⟨_, _, rfl, by decide⟩
      | cons c later =>
          refine ⟨c, _, rfl, ?_⟩
          rw [Bool.eq_false_iff]
          intro word
          exact Bool.false_ne_true
            ((word_char_not_blank word).symm.trans (gapAfter c List.mem_cons_self))
    rw [split, List.append_assoc, List.append_assoc, tail,
      opens_entity_after_word gapBefore nonempty all stops, ← tail, begins]
    rfl

theorem opens_entity_append_brace {text rest : List Char} :
    opensEntity (text ++ '\x7b' :: rest) = true ↔ opensEntity text = true ∨ NamesEntity text := by
  rw [opens_entity_iff, opens_entity_iff]
  constructor
  · rintro ⟨front, more, split, names⟩
    rcases List.append_eq_append_iff.mp split with ⟨part, rfl, tail⟩ | ⟨part, rfl, tail⟩
    · cases part with
      | nil => exact .inr (by simpa using names)
      | cons c later =>
          cases tail
          exact absurd (by simp) (brace_not_mem_of_names_entity names)
    · cases part with
      | nil => exact .inr (by simpa using names)
      | cons c later =>
          cases tail
          exact .inl ⟨front, later, rfl, names⟩
  · rintro (⟨front, more, rfl, names⟩ | names)
    · exact ⟨front, more ++ '\x7b' :: rest, by simp, names⟩
    · exact ⟨text, rest, rfl, names⟩

theorem opens_entity_append {text tail : List Char} (lacks : '\x7b' ∉ tail) :
    opensEntity (text ++ tail) = opensEntity text := by
  rw [Bool.eq_iff_iff, opens_entity_iff, opens_entity_iff]
  constructor
  · rintro ⟨front, rest, split, names⟩
    rcases List.append_eq_append_iff.mp split with ⟨part, rfl, same⟩ | ⟨part, rfl, same⟩
    · exact absurd (by simp [same]) lacks
    · cases part with
      | nil =>
          rw [List.nil_append] at same
          rw [← same] at lacks
          exact absurd List.mem_cons_self lacks
      | cons c later =>
          cases same
          exact ⟨front, later, rfl, names⟩
  · rintro ⟨front, rest, rfl, names⟩
    exact ⟨front, rest ++ tail, by simp, names⟩

theorem opens_entity_eq_false {line : List Char} (lacks : '\x7b' ∉ line) :
    opensEntity line = false := by
  have same : opensEntity ([] ++ line) = opensEntity [] := opens_entity_append lacks
  exact same

theorem opens_entity_between_gaps {before after : List Char} (gapBefore : Gap before)
    (gapAfter : Gap after) (text : List Char) :
    opensEntity (before ++ (text ++ after)) = opensEntity text := by
  have ended : opensEntity (text ++ after) = opensEntity text :=
    opens_entity_append (brace_not_mem_of_gap gapAfter)
  rw [← ended, opensEntity, opensEntity, trim_start_gap_append gapBefore]

theorem opens_entity_trim (line : List Char) : opensEntity (trim line) = opensEntity line := by
  obtain ⟨before, after, gapBefore, gapAfter, split⟩ := trim_split line
  conv_rhs => rw [split, opens_entity_between_gaps gapBefore gapAfter]

theorem opens_entity_two_words {gap first between second : List Char} (blank : Gap gap)
    (areWords : AreWords [first, second]) (separates : Separator between) (rest : List Char) :
    opensEntity (gap ++ (first ++ (between ++ (second ++ rest)))) = true ↔
      opensEntity first = true ∨ NamesEntity first ∧ second.head? = some '\x7b' := by
  obtain ⟨nonempty, solid⟩ := areWords first (by simp)
  obtain ⟨nonemptySecond, solidSecond⟩ := areWords second (by simp)
  obtain ⟨c, more, rfl⟩ := List.exists_cons_of_ne_nil separates.1
  have space : isWordChar c = false := by
    rw [Bool.eq_false_iff]
    intro word
    exact Bool.false_ne_true
      ((word_char_not_blank word).symm.trans (separates.2 c List.mem_cons_self))
  have all : ∀ d ∈ first.takeWhile isWordChar, isWordChar d = true :=
    fun d member => List.mem_takeWhile_imp member
  have split : first.takeWhile isWordChar ++ first.dropWhile isWordChar = first :=
    List.takeWhile_append_dropWhile
  rw [names_entity_iff_of_solid solid]
  cases left : first.dropWhile isWordChar with
  | nil =>
      -- The whole first word is made of word characters, so what follows it decides.
      rw [left, List.append_nil] at split
      rw [split] at all
      have begins : trimStart (c :: (more ++ (second ++ rest))) = second ++ rest := by
        rw [← List.cons_append, trim_start_gap_append separates.2]
        apply trim_start_of_head
        rw [List.head?_append_of_ne_nil _ nonemptySecond]
        exact fun d member => solidSecond d (List.mem_of_mem_head? member)
      have closed : opensEntity first = false :=
        opens_entity_eq_false fun member => absurd (all _ member) (by decide)
      rw [List.cons_append, opens_entity_after_word blank nonempty all space, begins,
        List.head?_append_of_ne_nil _ nonemptySecond, closed]
      simpa [nonempty] using fun _ => all
  | cons d part =>
      have stops : isWordChar d = false := by
        have head := List.head?_dropWhile_not isWordChar first
        simpa [left] using head
      rw [left] at split
      have bare : isBlank d = false := solid d (by rw [← split]; simp)
      have other : ¬ ∀ e ∈ first, isWordChar e = true := by
        intro whole
        exact Bool.false_ne_true (stops.symm.trans (whole d (by rw [← split]; simp)))
      have alone : opensEntity first = (!(first.takeWhile isWordChar).isEmpty && decide (d = '\x7b')) := by
        have nothing : Gap [] := by simp [Gap]
        have cut := opens_entity_cut_word nothing all bare stops part
        rwa [List.nil_append, split] at cut
      rw [alone, ← opens_entity_cut_word blank all bare stops
        (part ++ (c :: more ++ (second ++ rest))), ← List.cons_append, ← List.append_assoc _ (d :: part),
        split]
      simp [other]

variable {defaultLabel : String} {block : Option String}

theorem opens_entity_open_line (name : String) :
    opensEntity (Statement.openEntity name).line.toList = true ↔
      opensEntity name.toList = true ∨ NamesEntity name.toList := by
  have space : Gap [' '] := by decide
  have split : (Statement.openEntity name).line.toList =
      "    ".toList ++ (name.toList ++ [' ']) ++ '\x7b' :: [] := by
    rw [to_list_open_line]
    simp
  rw [split, opens_entity_append_brace, opens_entity_between_gaps gap_shallow space,
    names_entity_between_gaps gap_shallow space]

theorem opens_entity_signed (text rest : List Char) :
    opensEntity (text ++ (oneToMany.toList ++ rest)) = opensEntity text := by
  have split : text ++ (oneToMany.toList ++ rest) =
      text ++ ['|', '|', '-', '-', 'o'] ++ '\x7b' :: rest := by
    simp [oneToMany]
  have noName : ¬ NamesEntity (text ++ ['|', '|', '-', '-', 'o']) := by
    intro names
    exact not_mem_of_names_entity names (c := '|') (by decide) (by decide) (by simp)
  have same : opensEntity (text ++ ['|', '|', '-', '-', 'o']) = opensEntity text :=
    opens_entity_append (by decide)
  rw [split, Bool.eq_iff_iff, opens_entity_append_brace, or_iff_left noName, same]

theorem opens_entity_link_line (link : Relationship) :
    opensEntity (Statement.addRelationship link).line.toList = opensEntity link.left.toList := by
  have split : (Statement.addRelationship link).line.toList =
      "    ".toList ++ (link.left.toList ++ [' ']) ++ (oneToMany.toList ++ link.afterSign) := by
    rw [to_list_link_line]
    simp
  rw [split, opens_entity_signed, opens_entity_between_gaps gap_shallow (by decide)]

theorem left_of_signs {line : List Char} {link : Relationship}
    (read : Relationship.ofSigns? defaultLabel line = some link) :
    ∃ left rest, line = left ++ (oneToMany.toList ++ rest) ∧ link.left = String.ofList (trim left) := by
  unfold Relationship.ofSigns? at read
  split at read
  · contradiction
  · next left right signs =>
    refine ⟨left, right, by rw [cut_sound signs, List.append_assoc], ?_⟩
    split at read
    · contradiction
    split at read
    · cases read
      rfl
    · cases read
      rfl

theorem attribute_line_split (type name : List Char) (key : Option KeyMarker) :
    ∃ rest, (Statement.addAttribute ⟨String.ofList type, String.ofList name, key⟩).line.toList =
      "        ".toList ++ (type ++ ([' '] ++ (name ++ rest))) := by
  have split : wordLine (markedWords (String.ofList type) (String.ofList name) key.toList) =
      type ++ ([' '] ++ (name ++ (key.toList.map (·.text.toList)).flatMap (' ' :: ·))) := by
    rw [markedWords, word_line_cons_cons, word_line_cons, String.toList_ofList, String.toList_ofList,
      List.singleton_append]
  exact ⟨_, by rw [attribute_line_eq, to_list_marked_line, split]⟩

theorem opens_entity_attribute_line {added : Attribute} {line : List Char}
    (read : Attribute.ofWords? (words line) = some added) :
    opensEntity (Statement.addAttribute added).line.toList = opensEntity line := by
  unfold Attribute.ofWords? at read
  split at read
  · next type name modifiers found =>
    cases read
    have areWords : AreWords [type, name] := by
      intro word member
      apply are_words_words line
      rw [found]
      exact List.mem_append_left modifiers member
    obtain ⟨gap, afterType, rfl, blank, -, -, ends, later⟩ := first_word_split found
    obtain ⟨between, rest, rfl, separates, nonempty, solid, -, -⟩ := first_word_split later
    have separator : Separator between := by
      refine ⟨?_, separates⟩
      rintro rfl
      obtain ⟨c, more, rfl⟩ := List.exists_cons_of_ne_nil nonempty
      exact Bool.false_ne_true ((solid c List.mem_cons_self).symm.trans ends)
    have space : Separator [' '] := by decide
    obtain ⟨marks, written⟩ := attribute_line_split type name _
    rw [Bool.eq_iff_iff, opens_entity_two_words blank areWords separator,
      ← opens_entity_two_words gap_deep areWords space marks, written]
  · contradiction

/-- A statement opens an entity when it is written out only if the line opens one that it was read from. -/
theorem opens_entity_of_line_reads {line : List Char} {reading : LineReading} {statement : Statement}
    (reads : LineReads .entityRelationship defaultLabel block line reading)
    (said : reading.statement = some statement) :
    opensEntity statement.line.toList = opensEntity line := by
  rw [← opens_entity_trim line]
  cases reads with
  | @opens name named =>
      cases said
      rw [Dialect.blockName?] at named
      split at named
      · next opening =>
        cases named
        obtain ⟨front, split⟩ :=
          List.getLast?_eq_some_iff.mp (of_decide_eq_true (Bool.and_eq_true_iff.mp opening).1)
        rw [split, List.dropLast_concat, Bool.eq_iff_iff, opens_entity_open_line,
          String.toList_ofList, opens_entity_trim, names_entity_trim]
        exact opens_entity_append_brace.symm
      · contradiction
  | closes _ isCloser =>
      cases said
      rw [isCloser]
      rfl
  | adds _ _ _ read =>
      cases said
      exact opens_entity_attribute_line read
  | @links link _ _ read =>
      cases said
      obtain ⟨left, rest, split, named⟩ := left_of_signs read
      rw [opens_entity_link_line, named, split, opens_entity_signed, String.toList_ofList,
        opens_entity_trim]
  | silent => contradiction

theorem opens_entity_of_statements_after {found : List (List Char)} {statement : Statement}
    (member : statement ∈ statementsAfter .entityRelationship defaultLabel block found)
    (opens : opensEntity statement.line.toList = true) : ∃ line ∈ found, opensEntity line = true := by
  induction found generalizing block with
  | nil => cases member
  | cons line rest ih =>
      rcases List.mem_append.mp member with here | later
      · have said := Option.mem_toList.mp here
        have same := opens_entity_of_line_reads (line_reads _ defaultLabel block line) said
        exact ⟨line, List.mem_cons_self, same.symm.trans opens⟩
      · obtain ⟨other, inRest, opened⟩ := ih later
        exact ⟨other, List.mem_cons_of_mem _ inRest, opened⟩

theorem statement_of_line_mem {dialect : Dialect} {found : List (List Char)} {line : List Char}
    (member : line ∈ found) (block : Option String) :
    ∃ left, ∀ statement ∈ (readLine dialect defaultLabel left line).statement,
      statement ∈ statementsAfter dialect defaultLabel block found := by
  induction found generalizing block with
  | nil => cases member
  | cons first rest ih =>
      rcases List.mem_cons.mp member with rfl | later
      · exact ⟨block, fun statement said => List.mem_append_left _ (Option.mem_toList.mpr said)⟩
      · obtain ⟨left, inRest⟩ := ih later (readLine dialect defaultLabel block first).block
        exact ⟨left, fun statement said => List.mem_append_right _ (inRest statement said)⟩

theorem opens_entity_again {found : List (List Char)} {line : List Char} (member : line ∈ found)
    (opens : opensEntity line = true) (last : (trim line).getLast? = some '\x7b')
    (unsigned : ¬ oneToMany.toList <:+: trim line) :
    ∃ statement ∈ statementsAfter .entityRelationship defaultLabel block found,
      opensEntity statement.line.toList = true := by
  obtain ⟨left, said⟩ : ∃ left,
      ∀ statement ∈ (readLine .entityRelationship defaultLabel left line).statement,
        statement ∈ statementsAfter .entityRelationship defaultLabel block found :=
    statement_of_line_mem member block
  have named : (Dialect.entityRelationship.blockName? (trim line)).isSome = true :=
    is_some_block_name_iff.mpr ⟨last, unsigned⟩
  have reads := line_reads .entityRelationship defaultLabel left line
  generalize readLine .entityRelationship defaultLabel left line = reading at reads said
  have same : ∀ statement, reading.statement = some statement →
      opensEntity statement.line.toList = opensEntity line :=
    fun _ => opens_entity_of_line_reads reads
  cases reads with
  | opens => exact ⟨_, said _ rfl, (same _ rfl).trans opens⟩
  | closes unnamed => rw [unnamed] at named; contradiction
  | adds unnamed => rw [unnamed] at named; contradiction
  | links unnamed => rw [unnamed] at named; contradiction
  | silent unnamed => rw [unnamed] at named; contradiction

theorem any_opens_filled (found : List (List Char)) :
    ((found.map trim).filter (!·.isEmpty)).any opensEntity = found.any opensEntity := by
  induction found with
  | nil => rfl
  | cons line rest ih =>
      rw [List.map_cons, List.any_cons, ← opens_entity_trim line]
      by_cases blank : trim line = []
      · rw [List.filter_cons_of_neg (by simp [blank]), ih, blank]
        rfl
      · rw [List.filter_cons_of_pos (by simpa using blank), List.any_cons, ih]

theorem has_header_append (rest : List Char) : hasHeader (header.toList ++ '\n' :: rest) = true := by
  have unbroken : Unbroken header.toList := ⟨by decide, by decide⟩
  rw [hasHeader, lines_append_line_feed unbroken]
  rfl

theorem verdict_of_headed {markup : String} {rest : List String}
    (headed : hasHeader markup.toList = true)
    (filled : filledLines markup.toList =
      ((header :: rest).map fun line => trim line.toList).filter (!·.isEmpty)) :
    Verdict.ofMarkup markup =
      if rest.any (fun line => opensEntity line.toList) then .valid else .noEntities := by
  have trimmed : ((header :: rest).map fun line => trim line.toList) =
      ((header :: rest).map String.toList).map trim := by
    rw [List.map_map]
    rfl
  have opens : (lines markup.toList).any opensEntity =
      rest.any (fun line => opensEntity line.toList) := by
    rw [← any_opens_filled, ← filledLines, filled, trimmed, any_opens_filled, List.any_map,
      List.any_cons]
    rfl
  rw [Verdict.ofMarkup, headed, opens]
  rfl

theorem verdict_of_join_lines {rest : List String} (inLines : ∀ line ∈ rest, '\n' ∉ line.toList) :
    Verdict.ofMarkup (joinLines (header :: rest)) =
      if rest.any (fun line => opensEntity line.toList) then .valid else .noEntities := by
  apply verdict_of_headed
  · cases rest with
    | nil => rfl
    | cons line later =>
        have split : (joinLines (header :: line :: later)).toList =
            header.toList ++ '\n' :: (joinLines (line :: later)).toList := by
          simp [joinLines, String.intercalate_cons_cons]
        rw [split, has_header_append]
  · exact filled_lines_join (List.forall_mem_cons.mpr ⟨by decide, inLines⟩)

theorem verdict_of_render {document : Document}
    (inLines : ∀ statement ∈ document, '\n' ∉ statement.line.toList) :
    Verdict.ofMarkup document.render =
      if document.any (fun statement => opensEntity statement.line.toList) then .valid
      else .noEntities := by
  have written : ∀ line ∈ document.lines, '\n' ∉ line.toList := by
    rw [Document.lines, List.forall_mem_cons, List.forall_mem_map]
    exact ⟨by decide, inLines⟩
  have split : document.render.toList =
      header.toList ++ '\n' :: (endLines (document.map Statement.line)).toList := by
    simp [Document.render, Document.lines, endLines_cons]
  have headed : hasHeader document.render.toList = true := by rw [split, has_header_append]
  rw [verdict_of_headed headed (filled_lines_end written), List.any_map]
  rfl

end ErDiagram
