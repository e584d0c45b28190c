import ErDiagram.Command.Input

/-!
# Folders held in memory

A folder is a list of texts at relative paths, and the folders on those paths exist with them. A path
is followed part by part from the top, and whatever stands above the top cannot be reached.
-/

namespace ErDiagram

/-- A text at a path, given by its parts. -/
structure FolderFile where
  path : List String
  text : String

abbrev Folder := List FolderFile

inductive Entry where
  | missing
  | folder
  | file (text : String)

namespace Folder

def ofFiles (files : List (String × String)) : Folder :=
  files.map fun (path, text) => ⟨path.splitOn "/", text⟩

def entry (folder : Folder) (place : List String) : Entry :=
  match folder.find? (·.path = place) with
  | some found => .file found.text
  | none => if place = [] || folder.any (place.isPrefixOf ·.path) then .folder else .missing

/-- The longest name that a part of a path may have, in bytes. -/
def nameLimit : Nat := 255

/-- A path must be shorter than this, in bytes. -/
def pathLimit : Nat := 4096

def step (place : List String) (part : String) : Except ReadFault (List String) :=
  if part = "" || part = "." then .ok place
  else if part = ".." then if place = [] then .error .notFound else .ok place.dropLast
  else if nameLimit < part.utf8ByteSize then .error .nameTooLong
  else .ok (place ++ [part])

/-- Reads the text at the end of the parts that remain from a place. -/
def readFrom (folder : Folder) (place : List String) : List String → Except ReadFault String
  | [] =>
    match folder.entry place with
    | .file text => .ok text
    | .folder => .error .isFolder
    | .missing => .error .notFound
  | part :: rest =>
    match folder.entry place with
    | .file _ => .error .notFolder
    | .missing => .error .notFound
    | .folder =>
      match step place part with
      | .error fault => .error fault
      | .ok next => folder.readFrom next rest

def read (folder : Folder) (path : String) : Except ReadFault String :=
  if pathLimit ≤ path.utf8ByteSize then .error .nameTooLong
  else match path.splitOn "/" with
    | "" :: rest => if rest.all (·.isEmpty) then .error .isFolder else .error .notFound
    | parts => folder.readFrom [] parts

end Folder

end ErDiagram
