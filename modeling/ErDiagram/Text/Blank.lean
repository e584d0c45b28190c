/-!
# Character properties and blanks

A character property is a list of ranges of code points that ascend and do not overlap. The list is
searched from its start, and the search ends at the first range that begins above the character, so a
property answers at once for the characters below it.

Blank characters are those with the Unicode property White_Space. They surround and separate the
parts of a line: `trim` removes them from both ends, and `words` takes the runs between them.
-/

namespace ErDiagram.Text

/-- The code points from `first` to `last`, both included. -/
structure CodeRange where
  first : Nat
  last : Nat
deriving DecidableEq, Repr

/-- Whether the code point lies in one of the ranges. The ranges must ascend. -/
def covers : List CodeRange → Nat → Bool
  | [], _ => false
  | range :: rest, code => range.first ≤ code && (code ≤ range.last || covers rest code)

theorem exists_range_of_covers {ranges : List CodeRange} {code : Nat}
    (covered : covers ranges code = true) :
    ∃ range ∈ ranges, range.first ≤ code ∧ code ≤ range.last := by
  induction ranges with
  | nil => simp [covers] at covered
  | cons range rest ih =>
    simp only [covers, Bool.and_eq_true, decide_eq_true_eq, Bool.or_eq_true] at covered
    rcases covered with ⟨above, inside | later⟩
    · exact ⟨range, List.mem_cons_self, above, inside⟩
    · obtain ⟨found, member, bounds⟩ := ih later
      exact ⟨found, List.mem_cons_of_mem _ member, bounds⟩

/-- The code points with the property White_Space. -/
def blankRanges : List CodeRange := [
  ⟨0x9, 0xD⟩, ⟨0x20, 0x20⟩, ⟨0x85, 0x85⟩, ⟨0xA0, 0xA0⟩, ⟨0x1680, 0x1680⟩, ⟨0x2000, 0x200A⟩,
  ⟨0x2028, 0x2029⟩, ⟨0x202F, 0x202F⟩, ⟨0x205F, 0x205F⟩, ⟨0x3000, 0x3000⟩]

def isBlank (c : Char) : Bool := covers blankRanges c.toNat

def trimStart (text : List Char) : List Char := text.dropWhile isBlank

def trimEnd (text : List Char) : List Char := (text.reverse.dropWhile isBlank).reverse

def trim (text : List Char) : List Char := trimEnd (trimStart text)

/-- Whether the text is empty or begins with a blank. -/
def atWordEnd : List Char → Bool
  | [] => true
  | c :: _ => isBlank c

/-- The maximal runs of characters that are not blank, in order. -/
def words : List Char → List (List Char)
  | [] => []
  | c :: rest =>
    if isBlank c then words rest
    else if atWordEnd rest then [c] :: words rest
    else match words rest with
      | [] => [[c]]
      | word :: later => (c :: word) :: later

theorem mem_trimStart {c : Char} {text : List Char} (member : c ∈ trimStart text) : c ∈ text :=
  (List.dropWhile_sublist _).mem member

theorem mem_trimEnd {c : Char} {text : List Char} (member : c ∈ trimEnd text) : c ∈ text := by
  have reversed := (List.dropWhile_sublist _).mem (List.mem_reverse.mp member)
  exact List.mem_reverse.mp reversed

theorem mem_trim {c : Char} {text : List Char} (member : c ∈ trim text) : c ∈ text :=
  mem_trimStart (mem_trimEnd member)

end ErDiagram.Text
