/-!
# Lines

A line ends at a line feed or at the end of the text. A carriage return directly before the line
feed belongs to the line's end; any other carriage return is text. An empty rest after the last
line feed is no line. Texts are put together again either with a line feed between their lines or
with one after each line.
-/

namespace ErDiagram.Text

def lines : List Char → List (List Char)
  | [] => []
  | '\n' :: rest => [] :: lines rest
  | '\r' :: '\n' :: rest => [] :: lines rest
  | c :: rest =>
    match lines rest with
    | [] => [[c]]
    | line :: later => (c :: line) :: later

def joinLines (found : List String) : String := "\n".intercalate found

def endLines (found : List String) : String := String.join (found.map (· ++ "\n"))

theorem endLines_cons (line : String) (rest : List String) :
    endLines (line :: rest) = line ++ "\n" ++ endLines rest := String.join_cons

theorem endLines_append (first second : List String) :
    endLines (first ++ second) = endLines first ++ endLines second := by
  unfold endLines
  rw [List.map_append, String.join_append]

theorem joinLines_append_lineFeed {found : List String} (nonempty : found ≠ []) :
    joinLines found ++ "\n" = endLines found := by
  induction found with
  | nil => contradiction
  | cons line rest ih =>
    cases rest with
    | nil => simp [joinLines, endLines]
    | cons next later =>
      have ended := ih (by simp)
      unfold joinLines at ended ⊢
      rw [String.intercalate_cons_cons, endLines_cons, String.append_assoc, ended]

end ErDiagram.Text
