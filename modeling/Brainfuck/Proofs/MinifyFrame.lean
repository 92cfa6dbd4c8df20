import Brainfuck.CommandLine.Report
import Brainfuck.Proofs.MinifiedFiles

/-!
# What minifying leaves behind

Minifying writes one file or none.  The file that it writes holds the commands of the
source and nothing else, so it is loaded and run as the source was, and to minify it
again changes nothing.  Every other place stays as it was, and every other file is
found by the paths that led to it.
-/

namespace Brainfuck

namespace FileSystem

variable {files files' : FileSystem} {place : List String} {path : Path}

/-- Two file systems differ in the file at one place and in nothing else. -/
structure SameBut (place : List String) (files files' : FileSystem) : Prop where
  current_eq : files'.current = files.current
  node?_eq : ∀ other, other ≠ place → files'.node? other = files.node? other
  /-- Another file is found by the paths by which it was found before. -/
  find_iff : ∀ path other contents, other ≠ place →
    (files'.find path = .node other (.file contents) ↔
      files.find path = .node other (.file contents))

section Files

/-- Writing a file changes nothing else. -/
theorem sameBut_put
    (notDirectory : files.isDirectory place = false) (written : List UInt8) :
    files.SameBut place (files.put place (.file written)) := by
  have current : (files.put place (.file written)).current = files.current := rfl
  have same := isDirectory_put notDirectory written
  refine ⟨current, fun other different => node?_put_of_ne different _, ?_⟩
  intro path other contents different
  rw [find_eq_file_iff, find_eq_file_iff, writable_find_of_same current same,
    node?_put_of_ne different]

theorem put_put (files : FileSystem) (place : List String) (first second : Node) :
    (files.put place first).put place second = files.put place second := by
  simp [put]

theorem writeFile_of_writable
    (leads : (files.find path).writable? = some place) (data : List UInt8) :
    files.writeFile .none path data = .ok (files.put place (.file data)) := by
  unfold writeFile
  simp only [DiskFaults.none]
  generalize files.find path = destination at leads
  unfold Destination.writable? at leads
  split at leads
  · cases leads
    rfl
  · cases leads
    rfl
  · cases leads
  · cases leads

/-- When it does not, the failure names the path, or its text is none of a path. -/
theorem writeFile_of_not_writable
    (leads : (files.find path).writable? = none) (data : List UInt8) :
    ∃ failure, files.writeFile .none path data = .error failure ∧
      (failure = .nulInPath ∨ ∃ reason, failure = .cannotWrite path.toText reason) := by
  unfold writeFile
  simp only [DiskFaults.none]
  generalize files.find path = destination at leads
  cases destination with
  | vacant place => cases leads
  | node place node =>
      cases node with
      | file contents => cases leads
      | directory => exact ⟨_, rfl, .inr ⟨_, rfl⟩⟩
  | blocked obstacle =>
      cases obstacle with
      | nul => exact ⟨_, rfl, .inl rfl⟩
      | missing | notDirectory | tooLong => exact ⟨_, rfl, .inr ⟨_, rfl⟩⟩

end Files

/-- The files after a program file was minified; an attempt that fails leaves those
that there were. -/
def afterMinifying (files : FileSystem) (source : Path) (destination : Option Path) :
    FileSystem :=
  match (minifyFile files .none source destination).answer with
  | .ok written => written.files
  | .error _ => files

end FileSystem

variable {files : FileSystem} {source target : Path} {destination : Option Path}
  {place here : List String} {data : List UInt8}

section Programs

theorem Command.toNat_toChar (command : Command) :
    Char.ofNat (UInt8.ofNat command.toChar.toNat).toNat = command.toChar ∧
      UInt8.ofNat command.toChar.toNat < 128 := by
  cases command <;> decide

/-- The bytes of a program are the codes of its characters. -/
theorem toBytes_ascii (data : List UInt8) :
    let program := Source.program (.bytes data)
    program.toBytes.map (fun byte => Char.ofNat byte.toNat) = program.toList ∧
      ∀ byte ∈ program.toBytes, byte < 128 := by
  intro program
  have commands : program.toList = (data.filterMap Command.ofByte?).map Command.toChar :=
    commandsOfBytes_eq_map data
  unfold Program.toBytes
  rw [commands]
  constructor
  · rw [List.map_map, List.map_map]
    apply List.map_congr_left
    intro command _
    exact (Command.toNat_toChar command).1
  · intro byte isByte
    obtain ⟨character, isCharacter, rfl⟩ := List.mem_map.mp isByte
    obtain ⟨command, _, rfl⟩ := List.mem_map.mp isCharacter
    exact (Command.toNat_toChar command).2

end Programs

/-- Two executions had the same outcome, with the same output, and left the same
input. -/
structure Execution.SameOutcome (first second : Execution) : Prop where
  outcome_eq : second.outcome = first.outcome
  output_eq : second.streams.output = first.streams.output
  input_eq : second.streams.input = first.streams.input

section Runs

theorem runFile_same
    {files' : FileSystem} {place' : List String} {data' : List UInt8}
    (found : files.find source = .node here (.file data))
    (found' : files'.find target = .node place' (.file data'))
    (same : Source.program (.bytes data') = Source.program (.bytes data))
    (options : Options) (input : Input) (fuel : Nat) :
    Option.Rel Execution.SameOutcome (runFile files .none source options input fuel)
      (runFile files' .none target options input fuel) := by
  have first := runFile_follows_runWithInput found options input fuel
  have second := runFile_follows_runWithInput found' options input fuel
  rw [same] at second
  generalize runWithInput options (Source.program (.bytes data)) input fuel = base
    at first second
  generalize runFile files .none source options input fuel = ran at first
  generalize runFile files' .none target options input fuel = ran' at second
  cases first with
  | none =>
      cases second
      exact .none
  | some follows =>
      cases second with
      | some follows' =>
          refine .some ⟨?_, ?_, ?_⟩
          · exact follows'.outcome_eq.trans follows.outcome_eq.symm
          · exact follows'.output_eq.trans follows.output_eq.symm
          · exact follows'.input_eq.trans follows.input_eq.symm

end Runs

section Minifying

/-- A file has a name, so there is a path for its minified form. -/
theorem minifiedPath_of_find
    (found : files.find source = .node here (.file data)) (destination : Option Path) :
    ∃ target, minifiedPath source destination = .ok target := by
  cases destination with
  | some target => exact ⟨target, rfl⟩
  | none =>
      rcases FileSystem.find_cases source with ⟨obstacle, blocked⟩ | walks
      · rw [blocked] at found
        cases found
      · rw [walks] at found
        unfold minifiedPath Path.appendToName?
        cases last : source.names.getLast? with
        | none =>
            rw [List.getLast?_eq_none_iff.mp last] at found
            cases found
        | some name => exact ⟨_, rfl⟩

theorem minifyFile_eq
    (found : files.find source = .node here (.file data))
    (targeted : minifiedPath source destination = .ok target) :
    (minifyFile files .none source destination).answer =
      (files.writeFile .none target (Source.program (.bytes data)).toBytes).map
        fun files => ⟨target, files⟩ := by
  rw [minifyFile_eq_match, targeted, loadFile_of_find found]
  dsimp only [loadBytes]
  cases files.writeFile .none target (Source.program (.bytes data)).toBytes <;> rfl

/-- What a program file that was minified leaves behind. -/
structure Minified.RoundTrip (files : FileSystem) (source : Path) (program : Program)
    (place : List String) (written : Minified) : Prop where
  holds : written.files.find written.path = .node place (.file program.toBytes)
  loaded : (loadFile files .none source).answer = .ok program ∧
    (loadFile written.files .none written.path).answer = .ok program
  characters : program.toBytes.map (fun byte => Char.ofNat byte.toNat) = program.toList
  ascii : ∀ byte ∈ program.toBytes, byte < 128
  frame : files.SameBut place written.files
  /-- The two files are run with the same outcome, on any input. -/
  ran : ∀ options input fuel,
    Option.Rel Execution.SameOutcome (runFile files .none source options input fuel)
      (runFile written.files .none written.path options input fuel)
  /-- To minify the file over itself changes nothing. -/
  again : (minifyFile written.files .none written.path (some written.path)).answer = .ok written

theorem roundTrip_of_writable
    (found : files.find source = .node here (.file data))
    (leads : (files.find target).writable? = some place) :
    Minified.RoundTrip files source (Source.program (.bytes data)) place
      ⟨target, files.put place (.file (Source.program (.bytes data)).toBytes)⟩ := by
  have isThere := FileSystem.find_put_of_writable leads (Source.program (.bytes data)).toBytes
  have same := program_toBytes data
  obtain ⟨characters, ascii⟩ := toBytes_ascii data
  refine ⟨isThere, ⟨?_, ?_⟩, characters, ascii, ?_, runFile_same found isThere same, ?_⟩
  · rw [loadFile_of_find found]
    rfl
  · rw [loadFile_of_find isThere, loadBytes, same]
  · exact FileSystem.sameBut_put (FileSystem.isDirectory_of_find leads) _
  · rw [minifyFile_self isThere, same, FileSystem.put_put]

/-- Where the destination leads decides how a file is minified.  If a file can be
there, it is written and holds the program of the source; nothing else changes.  If
not, nothing changes at all. -/
theorem minifyFile_round_trip
    (found : files.find source = .node here (.file data)) (destination : Option Path) :
    ∃ target, minifiedPath source destination = .ok target ∧
      ((∃ place written,
        (files.find target).writable? = some place ∧
        (minifyFile files .none source destination).answer = .ok written ∧
        written.path = target ∧ files.afterMinifying source destination = written.files ∧
        written.RoundTrip files source (Source.program (.bytes data)) place) ∨
      ∃ failure,
        (files.find target).writable? = none ∧
        (minifyFile files .none source destination).answer = .error failure ∧
        (failure = .nulInPath ∨ ∃ reason, failure = .cannotWrite target.toText reason) ∧
        files.afterMinifying source destination = files) := by
  obtain ⟨target, targeted⟩ := minifiedPath_of_find found destination
  refine ⟨target, targeted, ?_⟩
  unfold FileSystem.afterMinifying
  rw [minifyFile_eq found targeted]
  cases leads : (files.find target).writable? with
  | some place =>
      left
      rw [FileSystem.writeFile_of_writable leads]
      exact ⟨place, _, rfl, rfl, rfl, rfl, roundTrip_of_writable found leads⟩
  | none =>
      right
      obtain ⟨failure, failed, named⟩ :=
        FileSystem.writeFile_of_not_writable leads (Source.program (.bytes data)).toBytes
      rw [failed]
      exact ⟨failure, rfl, rfl, named, rfl⟩

/-- A file with commentary is minified: next to itself, and then where there is a
directory. -/
theorem minifyFile_round_trip_with_commentary :
    let files := (FileSystem.empty ["tmp"]).put ["tmp", "w.bf"] (.file [103, 43, 10, 93])
    let source := Path.ofText "w.bf"
    let directory := Path.ofText "/tmp"
    files.find source = .node ["tmp", "w.bf"] (.file [103, 43, 10, 93]) ∧
      (∃ written : Minified,
        (minifyFile files .none source none).answer = .ok written ∧
        written.path = ⟨0, ["w.bf.min"]⟩ ∧
        written.files.find written.path = .node ["tmp", "w.bf.min"] (.file [43, 93]) ∧
        written.RoundTrip files source #['+', ']'] ["tmp", "w.bf.min"]) ∧
      ∃ reason,
        (minifyFile files .none source (some directory)).answer =
          .error (.cannotWrite "/tmp" reason) ∧
        files.afterMinifying source (some directory) = files := by
  intro files source directory
  have found : files.find source = .node ["tmp", "w.bf"] (.file [103, 43, 10, 93]) := rfl
  refine ⟨found, ?_, ?_⟩
  · obtain ⟨target, targeted, ⟨place, written, leads, answer, pathEq, _, trip⟩ | ⟨_, leads, _⟩⟩ :=
      minifyFile_round_trip found none
    · cases targeted
      cases leads
      exact ⟨written, answer, pathEq, trip.holds, trip⟩
    · cases targeted
      cases leads
  · obtain ⟨target, targeted, ⟨_, _, leads, _⟩ | ⟨failure, _, answer, named, after⟩⟩ :=
      minifyFile_round_trip found (some directory)
    · cases targeted
      cases leads
    · cases targeted
      rcases named with rfl | ⟨reason, rfl⟩
      · cases answer
      · exact ⟨reason, answer, after⟩

end Minifying

end Brainfuck
