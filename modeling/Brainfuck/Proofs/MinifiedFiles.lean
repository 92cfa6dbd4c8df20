import Brainfuck.Files.Loading
import Brainfuck.Proofs.StandardRun

/-!
# Minified files

The bytes that a minified file holds are read back as the program that they were
written for, and a file that is written where a path leads is found there.  For the
place to which a path leads only the directories count, and writing a file changes
none of them.
-/

namespace Brainfuck

section Programs

theorem Command.ofByte?_ofChar (command : Command) :
    Command.ofByte? (UInt8.ofNat command.toChar.toNat) = some command := by
  cases command <;> rfl

theorem commandsOfBytes_toBytes (commands : List Command) :
    commandsOfBytes (Program.toBytes (commands.map Command.toChar).toArray) =
      commands.map Command.toChar := by
  induction commands with
  | nil => rfl
  | cons command rest ih =>
      simp only [Program.toBytes, commandsOfBytes, List.map_cons] at ih ⊢
      rw [List.filterMap_cons, Command.ofByte?_ofChar]
      exact congrArg (command.toChar :: ·) ih

theorem commandsOfBytes_eq_map (data : List UInt8) :
    commandsOfBytes data = (data.filterMap Command.ofByte?).map Command.toChar := by
  simp [commandsOfBytes, List.map_filterMap]

/-- Minified bytes hold the program of the bytes that they were made of. -/
theorem program_toBytes (data : List UInt8) :
    Source.program (.bytes (Source.program (.bytes data)).toBytes) =
      Source.program (.bytes data) := by
  simp only [Source.program]
  rw [commandsOfBytes_eq_map data, commandsOfBytes_toBytes]

end Programs

/-- The place of the file that is written where a path leads, if one can be. -/
def Destination.writable? : Destination → Option (List String)
  | .node place (.file _) | .vacant place => some place
  | .node _ .directory | .blocked _ => none

namespace FileSystem

def isDirectory (files : FileSystem) (place : List String) : Bool :=
  match files.node? place with
  | some .directory => true
  | _ => false

variable {files files' : FileSystem} {place : List String} {data : List UInt8} {path : Path}

section Walks

variable {start names : List String}

theorem writable_walk_cons (start : List String) (name : String) (rest : List String) :
    (files.walk start (name :: rest)).writable? =
      if name = ".." then (files.walk start.dropLast rest).writable?
      else if nameLimit < name.utf8ByteSize then none
      else if files.isDirectory (start ++ [name]) then
        (files.walk (start ++ [name]) rest).writable?
      else if rest = [] then some (start ++ [name])
      else none := by
  rw [walk, isDirectory]
  split
  · rfl
  · split
    · rfl
    · dsimp only
      rcases files.node? (start ++ [name]) with _ | ⟨contents⟩ | _ <;> cases rest <;> rfl

/-- The place for a file to which a path leads depends on the directories alone. -/
theorem writable_walk_of_same
    (same : ∀ other, files'.isDirectory other = files.isDirectory other)
    (start names : List String) :
    (files'.walk start names).writable? = (files.walk start names).writable? := by
  induction names generalizing start with
  | nil => rfl
  | cons name rest ih => simp only [writable_walk_cons, ih, same]

theorem isDirectory_of_walk
    (leads : (files.walk start names).writable? = some place) :
    files.isDirectory place = false := by
  induction names generalizing start with
  | nil => cases leads
  | cons name rest ih =>
      rw [writable_walk_cons] at leads
      split at leads
      · exact ih leads
      · split at leads
        · cases leads
        · split at leads
          · exact ih leads
          · next notDirectory =>
              split at leads
              · cases leads
                exact Bool.eq_false_iff.mpr notDirectory
              · cases leads

/-- A path leads to a file when it leads to a place for one and the file is there. -/
theorem walk_eq_file_iff :
    files.walk start names = .node place (.file data) ↔
      (files.walk start names).writable? = some place ∧
        files.node? place = some (.file data) := by
  induction names generalizing start with
  | nil => simp [walk, Destination.writable?]
  | cons name rest ih =>
      rw [walk]
      split
      · exact ih
      · split
        · simp [Destination.writable?]
        · dsimp only
          rcases here : files.node? (start ++ [name]) with _ | ⟨contents⟩ | _
          · cases rest with
            | nil =>
                simp only [Destination.writable?, reduceCtorEq, Option.some.injEq, false_iff,
                  not_and]
                rintro rfl
                simp [here]
            | cons => simp [Destination.writable?]
          · cases rest with
            | nil =>
                simp only [Destination.writable?, Option.some.injEq, Destination.node.injEq,
                  Node.file.injEq]
                constructor
                · rintro ⟨rfl, rfl⟩
                  exact ⟨rfl, here⟩
                · rintro ⟨rfl, there⟩
                  rw [here] at there
                  cases there
                  exact ⟨rfl, rfl⟩
            | cons => simp [Destination.writable?]
          · exact ih

end Walks

section Finds

/-- A path leads to what its names lead to, unless no file can have such a path. -/
theorem find_cases (path : Path) :
    (∃ obstacle, ∀ files : FileSystem, files.find path = .blocked obstacle) ∨
      ∀ files : FileSystem,
        files.find path =
          files.walk (if path.slashes = 0 then files.current else []) path.names := by
  unfold find
  split
  · exact .inl ⟨_, fun _ => rfl⟩
  · split
    · exact .inl ⟨_, fun _ => rfl⟩
    · exact .inr fun _ => rfl

theorem writable_find_of_same
    (current : files'.current = files.current)
    (same : ∀ other, files'.isDirectory other = files.isDirectory other) (path : Path) :
    (files'.find path).writable? = (files.find path).writable? := by
  rcases find_cases path with ⟨obstacle, blocked⟩ | walks
  · rw [blocked, blocked]
  · rw [walks, walks, current]
    exact writable_walk_of_same same _ _

theorem isDirectory_of_find (leads : (files.find path).writable? = some place) :
    files.isDirectory place = false := by
  rcases find_cases path with ⟨obstacle, blocked⟩ | walks
  · rw [blocked] at leads
    cases leads
  · rw [walks] at leads
    exact isDirectory_of_walk leads

theorem find_eq_file_iff :
    files.find path = .node place (.file data) ↔
      (files.find path).writable? = some place ∧ files.node? place = some (.file data) := by
  rcases find_cases path with ⟨obstacle, blocked⟩ | walks
  · simp [blocked, Destination.writable?]
  · rw [walks]
    exact walk_eq_file_iff

theorem isDirectory_put
    (notDirectory : files.isDirectory place = false) (written : List UInt8)
    (other : List String) :
    (files.put place (.file written)).isDirectory other = files.isDirectory other := by
  by_cases here : other = place
  · rw [here, notDirectory, isDirectory, node?_put_self]
  · rw [isDirectory, node?_put_of_ne here, isDirectory]

/-- A file that was written is found where the path led. -/
theorem find_put_of_writable
    (leads : (files.find path).writable? = some place) (written : List UInt8) :
    (files.put place (.file written)).find path = .node place (.file written) := by
  have current : (files.put place (.file written)).current = files.current := rfl
  have same := isDirectory_put (isDirectory_of_find leads) written
  apply find_eq_file_iff.mpr
  rw [writable_find_of_same current same]
  exact ⟨leads, node?_put_self files place _⟩

theorem find_put
    (found : files.find path = .node place (.file data)) (written : List UInt8) :
    (files.put place (.file written)).find path = .node place (.file written) :=
  find_put_of_writable (find_eq_file_iff.mp found).1 written

end Finds

theorem readFile_of_find
    (found : files.find path = .node place (.file data)) :
    files.readFile .none path = .contents data := by
  simp [readFile, found, DiskFaults.none]

end FileSystem

variable {files : FileSystem} {place : List String} {data : List UInt8} {path : Path}

theorem loadFile_of_find (found : files.find path = .node place (.file data)) :
    loadFile files .none path = loadBytes path.toText data := by
  unfold loadFile
  rw [FileSystem.readFile_of_find found]
  rfl

/-- A file is run as the program that it holds. -/
theorem runFile_follows_runWithInput
    (found : files.find path = .node place (.file data)) (options : Options) (input : Input)
    (fuel : Nat) :
    Option.Rel (Execution.Follows ((loadBytes path.toText data).log.map .log))
      (runWithInput options (Source.program (.bytes data)) input fuel)
      (runFile files .none path options input fuel) := by
  unfold runFile runLoaded runWithInput
  rw [loadFile_of_find found]
  dsimp only [loadBytes]
  cases input.toBytes with
  | error failure => exact .some ⟨rfl, rfl, rfl, rfl⟩
  | ok bytes => exact runProgram_follows options _ bytes _ fuel

/-- A file can be minified over itself. -/
theorem minifyFile_self (found : files.find path = .node place (.file data)) :
    (minifyFile files .none path (some path)).answer =
      .ok ⟨path, files.put place (.file (Source.program (.bytes data)).toBytes)⟩ := by
  rw [minifyFile_eq_match, minifiedPath, loadFile_of_find found]
  simp [loadBytes, FileSystem.writeFile, DiskFaults.none, found]

end Brainfuck
