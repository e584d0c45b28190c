import ErDiagram.Text.Printable

/-!
# Tokens of a table script

A script that defines tables is a list of keywords, identifiers, literals and five signs. Words that
the reader has no use for are identifiers, and quoted keywords are identifiers too.
-/

namespace ErDiagram.Script

inductive Keyword where
  | create
  | alter
  | add
  | table
  | only
  | primary
  | key
  | foreign
  | references
  | not
  | null
  | unique
  | default
  | on
  | constraint
  | index
  | ifWord
  | existsWord
  | check
deriving DecidableEq, Repr

namespace Keyword

def all : List Keyword :=
  [create, alter, add, table, only, primary, key, foreign, references, not, null, unique, default,
    on, constraint, index, ifWord, existsWord, check]

def spelling : Keyword → String
  | create => "CREATE"
  | alter => "ALTER"
  | add => "ADD"
  | table => "TABLE"
  | only => "ONLY"
  | primary => "PRIMARY"
  | key => "KEY"
  | foreign => "FOREIGN"
  | references => "REFERENCES"
  | not => "NOT"
  | null => "NULL"
  | unique => "UNIQUE"
  | default => "DEFAULT"
  | on => "ON"
  | constraint => "CONSTRAINT"
  | index => "INDEX"
  | ifWord => "IF"
  | existsWord => "EXISTS"
  | check => "CHECK"

def title (keyword : Keyword) : String :=
  match keyword.spelling.toList with
  | [] => ""
  | first :: rest => String.ofList (first :: rest.map Char.toLower)

/-- The keyword that a word spells, whatever the case of its ASCII letters. -/
def ofWord? (word : List Char) : Option Keyword :=
  all.find? fun candidate => candidate.spelling.toList = word.map Char.toUpper

end Keyword

inductive Token where
  | keyword (word : Keyword)
  | identifier (name : String)
  | text (content : String)
  | number (digits : String)
  | leftParen
  | rightParen
  | comma
  | semicolon
  | dot
deriving DecidableEq, Repr

namespace Token

def ofWord (word : List Char) : Token :=
  match Keyword.ofWord? word with
  | some found => keyword found
  | none => identifier (String.ofList word)

/-- Whether the token is an identifier that spells the word, whatever the case of its ASCII
letters. -/
def isWord (word : String) : Token → Bool
  | identifier name => name.toList.map Char.toLower = word.toList.map Char.toLower
  | _ => false

def isIdentifier : Token → Bool
  | identifier _ => true
  | _ => false

def kind : Token → String
  | keyword word => word.title
  | identifier _ => "Ident"
  | text _ => "Str"
  | number _ => "Num"
  | leftParen => "LParen"
  | rightParen => "RParen"
  | comma => "Comma"
  | semicolon => "Semicolon"
  | dot => "Dot"

def content? : Token → Option String
  | identifier name => some name
  | text content => some content
  | number digits => some digits
  | _ => none

def description (token : Token) : String :=
  match token.content? with
  | none => token.kind
  | some content => token.kind ++ "(" ++ Text.quoted content ++ ")"

end Token

/-- The kind of the place after the last token. -/
def endKind : String := "Eof"

/-- What a message says was found: a token, or the end of the script. -/
def foundDescription : Option Token → String
  | none => endKind
  | some token => token.description

end ErDiagram.Script
