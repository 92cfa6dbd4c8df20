/-!
# Paths

A path is a sequence of names, starting at a root or at the current directory.
Its text may hold repeated slashes, a slash at the end and names `.`, none of
which matter; the name `..` does matter and is kept.  Exactly two slashes in
front are a root of their own.
-/

namespace Brainfuck

/-- A path in its shortest form. -/
structure Path where
  /-- How many slashes stand in front: none, one or two. -/
  slashes : Nat
  names : List String
deriving DecidableEq

namespace Path

def pieces : List Char → List (List Char)
  | [] => [[]]
  | character :: rest =>
    if character = '/' then [] :: pieces rest
    else
      match pieces rest with
      | [] => [[character]]
      | piece :: others => (character :: piece) :: others

/-- The slashes that count, of those in front of a text. -/
def leadingSlashes (text : List Char) : Nat :=
  match (text.takeWhile (· = '/')).length with
  | 0 => 0
  | 2 => 2
  | _ => 1

def ofText (text : String) : Path where
  slashes := leadingSlashes text.toList
  names := ((pieces text.toList).map String.ofList).filter fun name => name ≠ "" ∧ name ≠ "."

/-- The text of a path; the path without names is the current directory. -/
def toText (path : Path) : String :=
  if path.slashes = 0 ∧ path.names = [] then "."
  else String.ofList (List.replicate path.slashes '/') ++ "/".intercalate path.names

/-- Whether a path holds the character NUL, which no file's name does. -/
def hasNul (path : Path) : Bool :=
  path.names.any fun name => name.toList.contains '\x00'

def appendToName? (path : Path) (addition : String) : Option Path :=
  match path.names.getLast? with
  | some name => some { path with names := path.names.dropLast ++ [name ++ addition] }
  | none => none

end Path

end Brainfuck
