import Brainfuck.Execution
import Brainfuck.Files.FileSystem

/-!
# Loading and reducing program files

A program is loaded by reading the bytes of a file and keeping its commands.
A program file is minified by writing its commands, and nothing else, to
another file.  Whatever is done is logged.
-/

namespace Brainfuck

/-- What came of an action, and what it logged. -/
structure Logged (α : Type) where
  answer : Except Failure α
  log : List LogEntry

def Logged.map (change : α → β) (logged : Logged α) : Logged β :=
  ⟨logged.answer.map change, logged.log⟩

/-- Where a disk fails, and what it says then. -/
structure DiskFaults where
  onOpen : Option String
  onRead : Option String
  onWrite : Option String

def DiskFaults.none : DiskFaults := ⟨.none, .none, .none⟩

/-- What the disk says about a file that is to be read. -/
inductive Reading where
  | notFile
  | tooLong
  | cannotOpen (reason : String)
  /-- The file can be opened and not be read. -/
  | cannotRead (reason : String)
  | contents (data : List UInt8)

def FileSystem.readFile (files : FileSystem) (faults : DiskFaults) (path : Path) : Reading :=
  match files.find path with
  | .node _ (.file data) =>
    match faults.onOpen, faults.onRead with
    | some reason, _ => .cannotOpen reason
    | none, some reason => .cannotRead reason
    | none, none => .contents data
  | .blocked .tooLong => .tooLong
  | _ => .notFile

def loadBytes (name : String) (data : List UInt8) : Logged Program :=
  let program := Source.program (.bytes data)
  ⟨.ok program, [.loaded program.size name data.length]⟩

def loadStream (name : String) (data : List UInt8) (fault : Option StreamFault) :
    Logged Program :=
  match fault with
  | some (.device reason) => ⟨.error (.cannotRead name reason), []⟩
  | some (.other reason) => ⟨.error (.interrupted reason), []⟩
  | none => loadBytes name data

/-- The program in a file, as far as it could be read. -/
def loadReading (path : Path) : Reading → Logged Program
  | .notFile => ⟨.error (.notFound path.toText), []⟩
  | .tooLong => ⟨.error (.nameTooLong path.toText), []⟩
  | .cannotOpen reason => ⟨.error (.cannotOpen path.toText reason), []⟩
  | .cannotRead reason => ⟨.error (.cannotRead path.toText reason), []⟩
  | .contents data => loadBytes path.toText data

def loadFile (files : FileSystem) (faults : DiskFaults) (path : Path) : Logged Program :=
  loadReading path (files.readFile faults path)

/-- The text of an error that the system reports about a path. -/
def systemError (number : Nat) (reason : String) (path : Path) : String :=
  s!"[Errno {number}] {reason}: {Text.quoted path.toText}"

def FileSystem.writeFile (files : FileSystem) (faults : DiskFaults) (path : Path)
    (data : List UInt8) : Except Failure FileSystem :=
  let refuse (reason : String) : Except Failure FileSystem :=
    .error (.cannotWrite path.toText reason)
  match faults.onWrite with
  | some reason => refuse reason
  | none =>
    match files.find path with
    | .node place (.file _) => .ok (files.put place (.file data))
    | .vacant place => .ok (files.put place (.file data))
    | .node _ .directory => refuse (systemError 21 "Is a directory" path)
    | .blocked .missing => refuse (systemError 2 "No such file or directory" path)
    | .blocked .notDirectory => refuse (systemError 20 "Not a directory" path)
    | .blocked .tooLong => refuse (systemError 36 "File name too long" path)
    | .blocked .nul => .error .nulInPath

/-- The bytes of a program of commands, one for each. -/
def Program.toBytes (program : Program) : List UInt8 :=
  program.toList.map fun character => UInt8.ofNat character.toNat

def minifiedSuffix : String := ".min"

/-- Where the minified form of a file is written: to the destination if one is
given, and next to the file otherwise. -/
def minifiedPath (source : Path) (destination : Option Path) : Except Failure Path :=
  match destination with
  | some destination => .ok destination
  | none =>
    match source.appendToName? minifiedSuffix with
    | some path => .ok path
    | none => .error (.emptyName source.toText)

/-- A program file was minified: where its commands went, and the files
afterwards. -/
structure Minified where
  path : Path
  files : FileSystem

/-- Writes the commands of a program file to another file, or over itself, given how files
are loaded and written. -/
def minifyIn {m : Type → Type} [Monad m] {α : Type} (load : Path → m (Logged Program))
    (write : Path → List UInt8 → m (Except Failure α)) (source : Path)
    (destination : Option Path) : m (Logged α) := do
  match minifiedPath source destination with
  | .error failure => pure ⟨.error failure, []⟩
  | .ok target =>
    let loaded ← load source
    match loaded.answer with
    | .error failure => pure ⟨.error failure, loaded.log⟩
    | .ok program =>
      match ← write target program.toBytes with
      | .error failure => pure ⟨.error failure, loaded.log⟩
      | .ok written =>
        pure ⟨.ok written, loaded.log ++ [.wrote program.size target.toText]⟩

def minifyFile (files : FileSystem) (faults : DiskFaults) (source : Path)
    (destination : Option Path) : Logged Minified :=
  minifyIn (m := Id) (loadFile files faults)
    (fun target data => (files.writeFile faults target data).map fun files => ⟨target, files⟩)
    source destination

theorem minifyFile_eq_match
    (files : FileSystem) (faults : DiskFaults) (source : Path) (destination : Option Path) :
    minifyFile files faults source destination =
      match minifiedPath source destination with
      | .error failure => ⟨.error failure, []⟩
      | .ok target =>
        let loaded := loadFile files faults source
        match loaded.answer with
        | .error failure => ⟨.error failure, loaded.log⟩
        | .ok program =>
          match files.writeFile faults target program.toBytes with
          | .error failure => ⟨.error failure, loaded.log⟩
          | .ok files =>
            ⟨.ok ⟨target, files⟩, loaded.log ++ [.wrote program.size target.toText]⟩ := by
  unfold minifyFile minifyIn
  cases minifiedPath source destination with
  | error failure => rfl
  | ok target =>
    generalize loadFile files faults source = loaded
    obtain ⟨failure | program, log⟩ := loaded
    · rfl
    · dsimp only [bind]
      cases files.writeFile faults target program.toBytes <;> rfl

/-- Runs the program that was loaded on some input, given how a program is run. -/
def runLoaded {m : Type → Type} [Monad m] (loaded : Logged Program) (input : Input)
    (run : Program → Streams → m Execution) : m Execution :=
  let quiet := (Streams.ofInput []).logAll loaded.log
  match loaded.answer with
  | .error failure => pure ⟨.error failure, quiet⟩
  | .ok program =>
    match input.toBytes with
    | .error failure => pure ⟨.error failure, quiet⟩
    | .ok bytes => run program ((Streams.ofInput bytes).logAll loaded.log)

def runFile (files : FileSystem) (faults : DiskFaults) (path : Path) (options : Options)
    (input : Input) (fuel : Nat) : Option Execution :=
  runLoaded (loadFile files faults path) input fun program streams =>
    runProgram options program streams fuel

end Brainfuck
