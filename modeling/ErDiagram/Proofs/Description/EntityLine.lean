import ErDiagram.Proofs.Description.AttributeMark
import ErDiagram.Proofs.Description.Reading

/-!
# Lines in entity-relationship notation

Each kind of line that documents and markup listings are made of, and what a reader of descriptions
in entity-relationship notation makes of it. The four readings of a line overlap, so each statement
names what keeps the earlier readings from taking the line.
-/

namespace ErDiagram

set_option autoImplicit false

open Text

variable {defaultLabel : String} {block : Option String}

/-- A name that stands on one line as it is and cannot be taken for a relationship. -/
structure PlainName (name : String) : Prop where
  inLine : '\n' ∉ name.toList
  trimmed : Trimmed name.toList
  unsigned : ¬ oneToMany.toList <:+: name.toList

theorem plain_name_of_word {name : String} (word : AsciiWord name) : PlainName name where
  inLine := word.lacks (by decide)
  trimmed := word.trimmed
  unsigned := word.not_infix (c := '|') (by decide) (by decide)

theorem gap_shallow : Gap "    ".toList := by decide

theorem gap_deep : Gap "        ".toList := by decide

/-- Text between blanks holds the sign of a relationship only if a part between them does. -/
theorem sign_infix_iff {text rest : List Char} :
    oneToMany.toList <:+: text ++ ' ' :: rest ↔
      oneToMany.toList <:+: text ∨ oneToMany.toList <:+: rest :=
  infix_append_cons_iff (by decide) (by decide)

theorem to_list_open_line (name : String) :
    (Statement.openEntity name).line.toList = "    ".toList ++ (name.toList ++ ' ' :: ['\x7b']) := by
  simp [Statement.line, Statement.indent, Statement.text]

theorem unbroken_open_line {name : String} (inLine : '\n' ∉ name.toList) :
    Unbroken (Statement.openEntity name).line.toList := by
  rw [to_list_open_line]
  apply unbroken_of_last (c := '\x7b')
  · simpa using inLine
  · rw [← List.append_assoc, List.getLast?_append_cons]
    rfl
  · decide

theorem unbroken_close_line : Unbroken Statement.closeEntity.line.toList :=
  ⟨by decide, by decide⟩

theorem read_open_line {name : String} (plain : PlainName name) :
    readLine .entityRelationship defaultLabel block (Statement.openEntity name).line.toList =
      ⟨some (.openEntity name), namedBlock name⟩ := by
  have line : trim (Statement.openEntity name).line.toList =
      beforeGap name.toList ' ' ++ [Dialect.entityRelationship.opener] := by
    rw [to_list_open_line, trim_gap_append gap_shallow]
    exact trim_append_cons plain.trimmed rfl rfl (by simp)
  have free : ¬ oneToMany.toList <:+: beforeGap name.toList ' ' ++ ['\x7b'] := by
    unfold beforeGap
    split
    · decide
    · rw [List.append_assoc, List.singleton_append, sign_infix_iff]
      rintro (inName | inBrace)
      · exact plain.unsigned inName
      · exact absurd inBrace (by decide)
  have named : String.ofList (trim (beforeGap name.toList ' ')) = name := by
    rw [trim_before_gap plain.trimmed rfl, String.ofList_toList]
  have opened := read_trimmed_opener .entityRelationship defaultLabel block free
  rw [named] at opened
  rw [read_line_of_trim line (by simp)]
  exact opened

theorem read_close_line :
    readLine .entityRelationship defaultLabel block Statement.closeEntity.line.toList =
      ⟨some .closeEntity, none⟩ := rfl

/-- A relationship whose parts can be told apart on its line. -/
structure Relationship.Plain (link : Relationship) : Prop where
  left : PlainName link.left
  right : PlainName link.right
  label : PlainName link.label
  rightColon : ':' ∉ link.right.toList
  labelColon : ':' ∉ link.label.toList
  labelQuote : '"' ∉ link.label.toList

def Relationship.afterSign (link : Relationship) : List Char :=
  ' ' :: (link.right.toList ++ ' ' :: ':' :: ' ' :: '"' :: (link.label.toList ++ ['"']))

theorem label_after_colon_quoted {label : String} (trimmed : Trimmed label.toList)
    (noColon : ':' ∉ label.toList) (noQuote : '"' ∉ label.toList) :
    labelAfterColon defaultLabel (' ' :: '"' :: (label.toList ++ ['"'])) = label := by
  have whole : (' ' :: '"' :: (label.toList ++ ['"'])).takeWhile (· != ':') =
      ' ' :: '"' :: (label.toList ++ ['"']) := by
    apply List.takeWhile_eq_self_iff.mpr
    intro c member
    have differs : c ≠ ':' := by
      rintro rfl
      simp [noColon] at member
    simpa using differs
  have kept : label.toList.filter (· != '"') = label.toList := by
    apply List.filter_eq_self.mpr
    intro c member
    have differs : c ≠ '"' := by
      rintro rfl
      exact noQuote member
    simpa using differs
  have bare : (' ' :: '"' :: (label.toList ++ ['"'])).filter (· != '"') = [' '] ++ label.toList := by
    simp [List.filter_append, kept]
  simp only [labelAfterColon, whole, bare]
  rw [trim_gap_append (by decide), trimmed]
  simp

theorem after_sign_unsigned {link : Relationship} (plain : link.Plain) :
    ¬ oneToMany.toList <:+: link.afterSign := by
  have label : ¬ oneToMany.toList <:+: '"' :: (link.label.toList ++ ['"']) := by
    rw [← List.nil_append ('"' :: _), infix_append_cons_iff (by decide) (by decide),
      infix_append_cons_iff (by decide) (by decide)]
    rintro (inNothing | inLabel | inNothing)
    · exact absurd inNothing (by decide)
    · exact plain.label.unsigned inLabel
    · exact absurd inNothing (by decide)
  have split : link.afterSign =
      [] ++ ' ' :: (link.right.toList ++ ' ' :: ([':'] ++ ' ' :: '"' :: (link.label.toList ++ ['"']))) :=
    rfl
  rw [split, sign_infix_iff, sign_infix_iff, sign_infix_iff]
  rintro (inNothing | inRight | inColon | inLabel)
  · exact absurd inNothing (by decide)
  · exact plain.right.unsigned inRight
  · exact absurd inColon (by decide)
  · exact label inLabel

theorem of_signs_written {link : Relationship} (plain : link.Plain) :
    Relationship.ofSigns? defaultLabel
        (beforeGap link.left.toList ' ' ++ (oneToMany.toList ++ link.afterSign)) = some link := by
  have signs : cut oneToMany
      (beforeGap link.left.toList ' ' ++ (oneToMany.toList ++ link.afterSign)) =
        some (beforeGap link.left.toList ' ', link.afterSign) :=
    cut_before_gap (by decide) plain.left.unsigned
  have single : occursIn oneToMany link.afterSign = false := by
    rw [Bool.eq_false_iff, ne_eq, occurs_in_iff]
    exact after_sign_unsigned plain
  have trimmed : trim link.afterSign = beforeGap link.right.toList ' ' ++
      (":".toList ++ ' ' :: '"' :: (link.label.toList ++ ['"'])) := by
    have whole : Trimmed (':' :: ' ' :: '"' :: (link.label.toList ++ ['"'])) := by
      apply trimmed_iff.mpr
      constructor
      · intro c first
        cases first
        rfl
      · intro c last
        rw [← List.cons_append, ← List.cons_append, ← List.cons_append, List.getLast?_concat] at last
        cases last
        rfl
    have gap : Gap [' '] := by decide
    rw [Relationship.afterSign, ← List.singleton_append, trim_gap_append gap,
      trim_append_cons plain.right.trimmed rfl whole (by simp)]
    rfl
  have colon : cut ":" (trim link.afterSign) =
      some (beforeGap link.right.toList ' ', ' ' :: '"' :: (link.label.toList ++ ['"'])) := by
    rw [trimmed]
    apply cut_before_gap (by decide)
    intro inside
    exact plain.rightColon (inside.subset (by decide))
  simp only [Relationship.ofSigns?, signs, single, colon, Bool.false_eq_true, if_false]
  rw [trim_before_gap plain.left.trimmed rfl, trim_before_gap plain.right.trimmed rfl,
    label_after_colon_quoted plain.label.trimmed plain.labelColon plain.labelQuote,
    String.ofList_toList, String.ofList_toList]

theorem label_in_line {text : List Char} (label : '\n' ∉ defaultLabel.toList) (inLine : '\n' ∉ text) :
    '\n' ∉ (labelAfterColon defaultLabel text).toList := by
  rw [labelAfterColon]
  split
  · exact label
  · rw [String.toList_ofList]
    intro member
    have inSegment := List.mem_of_mem_filter (mem_trim member)
    exact inLine ((List.takeWhile_sublist _).mem inSegment)

theorem of_signs_in_line {line : List Char} {link : Relationship}
    (read : Relationship.ofSigns? defaultLabel line = some link) (inLine : '\n' ∉ line)
    (label : '\n' ∉ defaultLabel.toList) :
    '\n' ∉ link.left.toList ∧ '\n' ∉ link.right.toList ∧ '\n' ∉ link.label.toList := by
  have trimInLine : ∀ {text : List Char}, '\n' ∉ text → '\n' ∉ (String.ofList (trim text)).toList := by
    intro text lacks member
    rw [String.toList_ofList] at member
    exact lacks (mem_trim member)
  unfold Relationship.ofSigns? at read
  split at read
  · contradiction
  · next left right signs =>
    rw [cut_sound signs, List.mem_append, List.mem_append, not_or, not_or] at inLine
    obtain ⟨⟨leftInLine, -⟩, rightInLine⟩ := inLine
    have afterInLine : '\n' ∉ trim right := mt mem_trim rightInLine
    split at read
    · contradiction
    split at read
    · cases read
      exact ⟨trimInLine leftInLine, trimInLine rightInLine, label⟩
    · next target after colon =>
      cases read
      rw [cut_sound colon, List.mem_append, List.mem_append, not_or, not_or] at afterInLine
      obtain ⟨⟨targetInLine, -⟩, labelInLine⟩ := afterInLine
      exact ⟨trimInLine leftInLine, trimInLine targetInLine, label_in_line label labelInLine⟩

theorem last_after_sign (link : Relationship) (front : List Char) :
    (front ++ link.afterSign).getLast? = some '"' := by
  have split : front ++ link.afterSign = front ++ ' ' :: (link.right.toList ++
      ' ' :: ':' :: ' ' :: '"' :: link.label.toList) ++ ['"'] := by
    simp [Relationship.afterSign]
  rw [split, List.getLast?_concat]

theorem to_list_link_line (link : Relationship) :
    (Statement.addRelationship link).line.toList =
      "    ".toList ++ (link.left.toList ++ ' ' :: (oneToMany.toList ++ link.afterSign)) := by
  simp [Statement.line, Statement.indent, Statement.text, Relationship.text, Relationship.afterSign]

theorem unbroken_link_line {link : Relationship} (left : '\n' ∉ link.left.toList)
    (right : '\n' ∉ link.right.toList) (label : '\n' ∉ link.label.toList) :
    Unbroken (Statement.addRelationship link).line.toList := by
  rw [to_list_link_line]
  apply unbroken_of_last (c := '"')
  · simpa [Relationship.afterSign, oneToMany] using ⟨left, right, label⟩
  · rw [← List.singleton_append (x := ' '), ← List.append_assoc, ← List.append_assoc,
      ← List.append_assoc, last_after_sign]
  · decide

theorem read_link_line {link : Relationship} (plain : link.Plain)
    (noAttribute : block.isSome = true →
      carriesAttribute (Statement.addRelationship link).line.toList = false) :
    readLine .entityRelationship defaultLabel block (Statement.addRelationship link).line.toList =
      ⟨some (.addRelationship link), block⟩ := by
  have whole : Trimmed (oneToMany.toList ++ link.afterSign) := by
    apply trimmed_iff.mpr
    constructor
    · intro c first
      cases first
      rfl
    · intro c last
      rw [last_after_sign] at last
      cases last
      rfl
  have line : trim (Statement.addRelationship link).line.toList =
      beforeGap link.left.toList ' ' ++ (oneToMany.toList ++ link.afterSign) := by
    rw [to_list_link_line, trim_gap_append gap_shallow]
    exact trim_append_cons plain.left.trimmed rfl whole (by simp [Relationship.afterSign])
  have last : (beforeGap link.left.toList ' ' ++
      (oneToMany.toList ++ link.afterSign)).getLast? = some '"' := by
    rw [← List.append_assoc, last_after_sign]
  have sameMarks : carriesAttribute (beforeGap link.left.toList ' ' ++
      (oneToMany.toList ++ link.afterSign)) =
        carriesAttribute (Statement.addRelationship link).line.toList := by
    rw [to_list_link_line, carries_attribute_gap_append gap_shallow, carries_attribute_before_gap rfl]
  rw [read_line_of_trim line (by simp [Relationship.afterSign]), read_trimmed_link]
  · exact congrArg (LineReading.mk · block) (congrArg _ (of_signs_written plain))
  · apply block_name_eq_none
    rw [last]
    decide
  · intro closer
    rw [closer] at last
    exact absurd last (by decide)
  · intro isOpen
    rw [sameMarks]
    exact noAttribute isOpen

def markedLine (type name : String) (marks : List KeyMarker) : String :=
  "        " ++ type ++ " " ++ name ++ String.join (marks.map fun marker => " " ++ marker.text)

def markedWords (type name : String) (marks : List KeyMarker) : List (List Char) :=
  type.toList :: name.toList :: marks.map (·.text.toList)

def writtenMarks : List (List KeyMarker) :=
  [[], [.primary], [.foreign], [.nullable], [.foreign, .nullable]]

theorem to_list_marked_line (type name : String) (marks : List KeyMarker) :
    (markedLine type name marks).toList =
      "        ".toList ++ wordLine (markedWords type name marks) := by
  simp [markedLine, markedWords, word_line_cons, String.toList_join, List.flatMap_map]

theorem attribute_line_eq (added : Attribute) :
    (Statement.addAttribute added).line = markedLine added.type added.name added.key.toList := by
  obtain ⟨type, name, key⟩ := added
  cases key <;> simp [Statement.line, Statement.indent, Statement.text, Attribute.text, markedLine,
    String.append_assoc]

theorem key_written (key : Option KeyMarker) : key.toList ∈ writtenMarks := by
  rcases key with _ | _ | _ | _ <;> decide

theorem of_modifiers_written {marks : List KeyMarker} (written : marks ∈ writtenMarks) :
    KeyMarker.ofModifiers? (String.ofList (wordLine (marks.map (·.text.toList)))) = marks.head? := by
  have all : ∀ marks ∈ writtenMarks,
      KeyMarker.ofModifiers? (String.ofList (wordLine (marks.map (·.text.toList)))) = marks.head? := by
    decide
  exact all marks written

theorem marker_text_word (marker : KeyMarker) : AsciiWord marker.text := by
  cases marker <;> decide

theorem are_words_marked {type name : String} (marks : List KeyMarker) (typeNonempty : type ≠ "")
    (typeSolid : Solid type.toList) (nameNonempty : name ≠ "") (nameSolid : Solid name.toList) :
    AreWords (markedWords type name marks) := by
  intro word member
  simp only [markedWords, List.mem_cons, List.mem_map] at member
  rcases member with rfl | rfl | ⟨marker, -, rfl⟩
  · exact ⟨by simpa using typeNonempty, typeSolid⟩
  · exact ⟨by simpa using nameNonempty, nameSolid⟩
  · exact ⟨(marker_text_word marker).nonempty, (marker_text_word marker).solid⟩

theorem unbroken_marked_line {type name : String} {marks : List KeyMarker}
    (areWords : AreWords (markedWords type name marks)) :
    Unbroken (markedLine type name marks).toList := by
  rw [to_list_marked_line]
  exact unbroken_word_line (by decide) areWords (by simp [markedWords])

theorem last_marked_words {type name : String} {marks : List KeyMarker} (nameNonempty : name ≠ "")
    (noBrace : marks ≠ [] ∨ name.toList.getLast? ≠ some '\x7b') :
    (wordLine (markedWords type name marks)).getLast? ≠ some '\x7b' := by
  rcases List.eq_nil_or_concat marks with rfl | ⟨front, marker, rfl⟩
  · have split : markedWords type name [] = [type.toList] ++ [name.toList] := rfl
    rw [split, last_word_line (by simpa using nameNonempty)]
    simpa using noBrace
  · have split : markedWords type name (front.concat marker) =
        (type.toList :: name.toList :: front.map (·.text.toList)) ++ [marker.text.toList] := by
      simp [markedWords]
    rw [split, last_word_line (marker_text_word marker).nonempty]
    cases marker <;> decide

theorem word_line_marked_ne_closer {type name : String} (marks : List KeyMarker) :
    wordLine (markedWords type name marks) ≠ ['\x7d'] := by
  intro closer
  have blank : ' ' ∈ wordLine (markedWords type name marks) := by
    simp [markedWords, word_line_cons]
  rw [closer] at blank
  exact absurd blank (by decide)

theorem read_attribute_line {type name entity : String} {marks : List KeyMarker}
    (written : marks ∈ writtenMarks) (areWords : AreWords (markedWords type name marks))
    (carries : carriesAttribute (markedLine type name marks).toList = true)
    (last : (wordLine (markedWords type name marks)).getLast? ≠ some '\x7b') :
    readLine .entityRelationship defaultLabel (some entity) (markedLine type name marks).toList =
      ⟨some (.addAttribute ⟨type, name, marks.head?⟩), some entity⟩ := by
  have line : trim (markedLine type name marks).toList =
      wordLine (markedWords type name marks) := by
    rw [to_list_marked_line, trim_gap_append gap_deep, trimmed_word_line areWords]
  have nonempty := word_line_ne_nil areWords (by simp [markedWords])
  rw [to_list_marked_line, carries_attribute_gap_append gap_deep] at carries
  have key := of_modifiers_written written
  rw [wordLine] at key
  rw [read_line_of_trim line nonempty,
    read_trimmed_attribute (block_name_eq_none last) (word_line_marked_ne_closer marks) carries,
    words_word_line areWords]
  simp [markedWords, Attribute.ofWords?, key]

theorem read_idle_line {line text : List Char} (same : trim line = text) (nonempty : text ≠ [])
    (last : text.getLast? ≠ some '\x7b') (notCloser : text ≠ ['\x7d'])
    (noAttribute : block.isSome = true → carriesAttribute text = false)
    (unsigned : ¬ oneToMany.toList <:+: text) :
    readLine .entityRelationship defaultLabel block line = ⟨none, block⟩ := by
  have noLink : Relationship.ofSigns? defaultLabel text = none := by
    rw [Relationship.ofSigns?, cut_eq_none_iff.mpr unsigned]
  have linked : readTrimmed .entityRelationship defaultLabel block text =
      ⟨(Dialect.entityRelationship.link? defaultLabel block text).map .addRelationship, block⟩ :=
    read_trimmed_link (block_name_eq_none last) notCloser noAttribute
  rw [read_line_of_trim same nonempty, linked, Dialect.link?, noLink]
  rfl

end ErDiagram
