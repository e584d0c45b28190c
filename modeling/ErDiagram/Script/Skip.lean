import ErDiagram.Script.Token

/-!
# Passing over tokens

The parts of a script that say nothing about a schema are passed over. Each function here answers
with the tokens that remain, which are always an end of those it was given.
-/

namespace ErDiagram.Script

def dropKeyword (word : Keyword) : List Token → List Token
  | [] => []
  | token :: rest => if token = .keyword word then rest else token :: rest

def dropWord (words : List String) : List Token → List Token
  | [] => []
  | token :: rest => if words.any token.isWord then rest else token :: rest

/-- The tokens after the closing parenthesis of a group, where `depth` further groups are open
inside it. -/
def afterGroup : Nat → List Token → List Token
  | _, [] => []
  | depth, .leftParen :: rest => afterGroup (depth + 1) rest
  | 0, .rightParen :: rest => rest
  | depth + 1, .rightParen :: rest => afterGroup depth rest
  | depth, _ :: rest => afterGroup depth rest

def dropGroup : List Token → List Token
  | .leftParen :: rest => afterGroup 0 rest
  | tokens => tokens

/-- The tokens from the comma or closing parenthesis that ends an item of a list, where `depth`
groups are open inside the item. -/
def fromItemEnd : Nat → List Token → List Token
  | _, [] => []
  | 0, .comma :: rest => .comma :: rest
  | 0, .rightParen :: rest => .rightParen :: rest
  | depth, .leftParen :: rest => fromItemEnd (depth + 1) rest
  | depth + 1, .rightParen :: rest => fromItemEnd depth rest
  | depth, _ :: rest => fromItemEnd depth rest

def afterStatement (tokens : List Token) : List Token :=
  (tokens.dropWhile (· != .semicolon)).drop 1

def dropExistenceTest : List Token → List Token
  | .keyword .ifWord :: rest => dropKeyword .existsWord (dropKeyword .not rest)
  | tokens => tokens

def dropSetValue : List Token → List Token
  | .keyword .null :: rest => rest
  | .keyword .default :: rest => rest
  | tokens => tokens

/-- Passes over what is done to the columns of a foreign key, without the event that leads to it. -/
def dropResponse : List Token → List Token
  | [] => []
  | token :: rest =>
    if token.isWord "SET" then dropSetValue rest
    else if token.isWord "NO" then dropWord ["ACTION"] rest
    else if token.isWord "CASCADE" || token.isWord "RESTRICT" then rest
    else token :: rest

/-- Passes over the event and the response of an action whose `ON` has been read. -/
def dropAction (tokens : List Token) : List Token :=
  dropResponse (dropWord ["DELETE", "UPDATE"] tokens)

def dropDefault : List Token → List Token
  | .leftParen :: rest => afterGroup 0 rest
  | .identifier _ :: rest => dropGroup rest
  | .text _ :: rest => rest
  | .number _ :: rest => rest
  | .keyword .null :: rest => rest
  | tokens => tokens

theorem afterGroup_plain {token : Token} (notLeft : token ≠ .leftParen)
    (notRight : token ≠ .rightParen) (depth : Nat) (rest : List Token) :
    afterGroup depth (token :: rest) = afterGroup depth rest := by
  cases token with
  | leftParen => exact absurd rfl notLeft
  | rightParen => exact absurd rfl notRight
  | _ => cases depth <;> rfl

theorem dropKeyword_suffix (word : Keyword) (tokens : List Token) :
    dropKeyword word tokens <:+ tokens := by
  unfold dropKeyword
  split
  · exact List.suffix_refl _
  split
  · exact List.suffix_cons _ _
  · exact List.suffix_refl _

theorem dropWord_suffix (words : List String) (tokens : List Token) :
    dropWord words tokens <:+ tokens := by
  unfold dropWord
  split
  · exact List.suffix_refl _
  split
  · exact List.suffix_cons _ _
  · exact List.suffix_refl _

theorem afterGroup_suffix (depth : Nat) (tokens : List Token) :
    afterGroup depth tokens <:+ tokens := by
  fun_induction afterGroup depth tokens with
  | case1 => exact List.suffix_refl _
  | case3 => exact List.suffix_cons _ _
  | case2 _ _ ih => exact ih.trans (List.suffix_cons _ _)
  | case4 _ _ ih => exact ih.trans (List.suffix_cons _ _)
  | case5 _ _ _ _ _ _ ih => exact ih.trans (List.suffix_cons _ _)

theorem dropGroup_suffix (tokens : List Token) : dropGroup tokens <:+ tokens := by
  unfold dropGroup
  split
  · exact (afterGroup_suffix _ _).trans (List.suffix_cons _ _)
  · exact List.suffix_refl _

theorem fromItemEnd_suffix (depth : Nat) (tokens : List Token) :
    fromItemEnd depth tokens <:+ tokens := by
  fun_induction fromItemEnd depth tokens with
  | case1 => exact List.suffix_refl _
  | case2 => exact List.suffix_refl _
  | case3 => exact List.suffix_refl _
  | case4 _ _ ih => exact ih.trans (List.suffix_cons _ _)
  | case5 _ _ ih => exact ih.trans (List.suffix_cons _ _)
  | case6 _ _ _ _ _ _ _ ih => exact ih.trans (List.suffix_cons _ _)

theorem afterStatement_suffix (tokens : List Token) : afterStatement tokens <:+ tokens :=
  (List.drop_suffix _ _).trans (List.dropWhile_suffix _)

theorem dropExistenceTest_suffix (tokens : List Token) : dropExistenceTest tokens <:+ tokens := by
  unfold dropExistenceTest
  split
  · exact ((dropKeyword_suffix _ _).trans (dropKeyword_suffix _ _)).trans (List.suffix_cons _ _)
  · exact List.suffix_refl _

theorem dropSetValue_suffix (tokens : List Token) : dropSetValue tokens <:+ tokens := by
  unfold dropSetValue
  split
  · exact List.suffix_cons _ _
  · exact List.suffix_cons _ _
  · exact List.suffix_refl _

theorem dropResponse_suffix (tokens : List Token) : dropResponse tokens <:+ tokens := by
  unfold dropResponse
  split
  · exact List.suffix_refl _
  split
  · exact (dropSetValue_suffix _).trans (List.suffix_cons _ _)
  split
  · exact (dropWord_suffix _ _).trans (List.suffix_cons _ _)
  split
  · exact List.suffix_cons _ _
  · exact List.suffix_refl _

theorem dropAction_suffix (tokens : List Token) : dropAction tokens <:+ tokens :=
  (dropResponse_suffix _).trans (dropWord_suffix _ _)

theorem dropDefault_suffix (tokens : List Token) : dropDefault tokens <:+ tokens := by
  unfold dropDefault
  split
  · exact (afterGroup_suffix _ _).trans (List.suffix_cons _ _)
  · exact (dropGroup_suffix _).trans (List.suffix_cons _ _)
  · exact List.suffix_cons _ _
  · exact List.suffix_cons _ _
  · exact List.suffix_cons _ _
  · exact List.suffix_refl _

def dropActions : List Token → List Token
  | [] => []
  | token :: rest =>
    if token = .keyword .on then dropActions (dropAction rest) else token :: rest
termination_by tokens => tokens.length
decreasing_by
  simp only [List.length_cons]
  exact Nat.lt_succ_of_le (dropAction_suffix rest).length_le

theorem dropActions_suffix (tokens : List Token) : dropActions tokens <:+ tokens := by
  fun_induction dropActions tokens with
  | case1 => exact List.suffix_refl _
  | case2 rest ih =>
    exact (ih.trans (dropAction_suffix rest)).trans (List.suffix_cons _ _)
  | case3 => exact List.suffix_refl _

end ErDiagram.Script
