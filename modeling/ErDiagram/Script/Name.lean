import ErDiagram.Script.Skip

/-!
# Names and lists of names

A table may be named with the schema that it belongs to; only the last part of such a name counts. A
list of columns stands in parentheses.
-/

namespace ErDiagram.Script

/-- Why a script cannot be read. Everything but a reference without a table is passed over. -/
inductive ScriptError where
  | missingTable (found : Option Token)
deriving DecidableEq, Repr

def ScriptError.message : ScriptError → String
  | .missingTable found => "Expected referenced table, found " ++ foundDescription found

/-- A value read from the start of a list of tokens, and the tokens after it. -/
structure Parsed (α : Type) where
  value : α
  rest : List Token

def identifier? : List Token → Parsed (Option String)
  | .identifier name :: rest => ⟨some name, rest⟩
  | tokens => ⟨none, tokens⟩

/-- Reads a name whose parts are separated by dots. Where a part is missing there is no name, but the
parts and dots before it have been read. -/
def qualifiedName : List Token → Parsed (Option String)
  | .identifier _ :: .dot :: rest => qualifiedName rest
  | .identifier name :: rest => ⟨some name, rest⟩
  | tokens => ⟨none, tokens⟩

def isSortOrder (token : Token) : Bool := token.isWord "ASC" || token.isWord "DESC"

/-- Reads the names up to a closing parenthesis. A sort order directly after a name is none. -/
def columnNames (afterName : Bool) : List Token → Parsed (List String)
  | [] => ⟨[], []⟩
  | .rightParen :: rest => ⟨[], rest⟩
  | .identifier name :: rest =>
    if afterName && isSortOrder (.identifier name) then columnNames true rest
    else
      let later := columnNames true rest
      ⟨name :: later.value, later.rest⟩
  | _ :: rest => columnNames false rest

def columnList : List Token → Parsed (List String)
  | .leftParen :: rest => columnNames false rest
  | tokens => ⟨[], tokens⟩

def constraintName : List Token → Parsed (Option String)
  | .keyword .constraint :: rest => identifier? rest
  | tokens => ⟨none, tokens⟩

theorem identifier?_suffix (tokens : List Token) : (identifier? tokens).rest <:+ tokens := by
  unfold identifier?
  split
  · exact List.suffix_cons _ _
  · exact List.suffix_refl _

theorem qualifiedName_suffix (tokens : List Token) : (qualifiedName tokens).rest <:+ tokens := by
  fun_induction qualifiedName tokens with
  | case1 _ _ ih => exact (ih.trans (List.suffix_cons _ _)).trans (List.suffix_cons _ _)
  | case2 => exact List.suffix_cons _ _
  | case3 => exact List.suffix_refl _

theorem columnNames_suffix (afterName : Bool) (tokens : List Token) :
    (columnNames afterName tokens).rest <:+ tokens := by
  fun_induction columnNames afterName tokens with
  | case1 => exact List.suffix_refl _
  | case2 => exact List.suffix_cons _ _
  | case3 _ _ _ _ ih => exact ih.trans (List.suffix_cons _ _)
  | case4 _ _ _ _ _ ih => exact ih.trans (List.suffix_cons _ _)
  | case5 _ _ _ _ _ ih => exact ih.trans (List.suffix_cons _ _)

theorem columnList_suffix (tokens : List Token) : (columnList tokens).rest <:+ tokens := by
  unfold columnList
  split
  · exact (columnNames_suffix _ _).trans (List.suffix_cons _ _)
  · exact List.suffix_refl _

theorem constraintName_suffix (tokens : List Token) : (constraintName tokens).rest <:+ tokens := by
  unfold constraintName
  split
  · exact (identifier?_suffix _).trans (List.suffix_cons _ _)
  · exact List.suffix_refl _

end ErDiagram.Script
