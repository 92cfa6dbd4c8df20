import Brainfuck.Files.Path

/-!
# Files and directories

A file system is a tree of directories with files in it; there are no links
and no devices.  A path is followed name by name from the root or from the
current directory, and every name but the last has to be a directory's.
-/

namespace Brainfuck

inductive Node where
  | file (contents : List UInt8)
  | directory

/-- A tree of files, given by the place of everything below the root. -/
structure FileSystem where
  /-- Places, as names from the root on, with what is there. -/
  nodes : List (List String × Node)
  current : List String

/-- Why a path leads nowhere. -/
inductive Obstacle where
  /-- A directory on the way does not exist. -/
  | missing
  /-- Something on the way is not a directory. -/
  | notDirectory
  | tooLong
  | nul

inductive Destination where
  | node (place : List String) (node : Node)
  /-- Nothing is there, but there could be. -/
  | vacant (place : List String)
  /-- Nothing can be there. -/
  | blocked (obstacle : Obstacle)

namespace FileSystem

def nameLimit : Nat := 255

def pathLimit : Nat := 4095

def node? (files : FileSystem) (place : List String) : Option Node :=
  (files.nodes.find? fun entry => entry.1 = place).map Prod.snd

/-- Follows names from a directory on. -/
def walk (files : FileSystem) (place : List String) : List String → Destination
  | [] => .node place .directory
  | name :: rest =>
    if name = ".." then
      files.walk place.dropLast rest
    else if nameLimit < name.utf8ByteSize then
      .blocked .tooLong
    else
      let next := place ++ [name]
      match files.node? next, rest with
      | some .directory, _ => files.walk next rest
      | some (.file contents), [] => .node next (.file contents)
      | some (.file _), _ :: _ => .blocked .notDirectory
      | none, [] => .vacant next
      | none, _ :: _ => .blocked .missing

def find (files : FileSystem) (path : Path) : Destination :=
  if path.hasNul then .blocked .nul
  else if pathLimit < path.toText.utf8ByteSize then .blocked .tooLong
  else files.walk (if path.slashes = 0 then files.current else []) path.names

/-- Puts a node at a place, instead of what was there. -/
def put (files : FileSystem) (place : List String) (node : Node) : FileSystem :=
  { files with nodes := (place, node) :: files.nodes.filter fun entry => entry.1 ≠ place }

@[simp]
theorem node?_put_self (files : FileSystem) (place : List String) (node : Node) :
    (files.put place node).node? place = some node := by
  simp [put, node?]

theorem node?_put_of_ne {files : FileSystem} {place other : List String}
    (different : other ≠ place) (node : Node) :
    (files.put place node).node? other = files.node? other := by
  have skipped : ∀ entry : List String × Node,
      (entry.1 ≠ place ∧ entry.1 = other) ↔ entry.1 = other := by
    intro entry
    constructor
    · exact And.right
    · intro here
      exact ⟨here ▸ different, here⟩
  simp [put, node?, different.symm, List.find?_filter, skipped]

/-- Makes a place and everything above it directories, as far as nothing is
there yet. -/
def makeDirectories (files : FileSystem) (place : List String) : FileSystem :=
  (List.range place.length).foldl (fun files above =>
      let place := place.take (above + 1)
      if (files.node? place).isSome then files else files.put place .directory)
    files

def empty (current : List String) : FileSystem :=
  makeDirectories ⟨[], current⟩ current

/-- Everything below the current directory, by its path from there. -/
def listing (files : FileSystem) : List (String × Node) :=
  files.nodes.filterMap fun (place, node) =>
    if files.current.isPrefixOf place ∧ place ≠ files.current then
      some ("/".intercalate (place.drop files.current.length), node)
    else none

end FileSystem

end Brainfuck
