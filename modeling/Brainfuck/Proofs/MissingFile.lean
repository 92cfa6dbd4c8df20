import Brainfuck.Proofs.MinifyFrame

/-!
# Paths that lead to no file

Whatever is done with a path that leads to no file, it fails without a trace: nothing is
logged, put out or written.  The failure is that the file does not exist, but for two
kinds of paths.  The system does not look for a path that is too long, and says so in
its own way.  A path without names has no last name, so there is none for its minified
form either, and that comes out before anything is looked for.
-/

namespace Brainfuck

namespace FileSystem

variable {files : FileSystem} {path : Path} {names : List String}

def NoFile (files : FileSystem) (path : Path) : Prop :=
  ∀ place data, files.find path ≠ .node place (.file data)

/-- The system looks for a path: neither the path nor a name that it comes to on the way
is too long. -/
def Searches (files : FileSystem) (path : Path) : Prop :=
  files.find path ≠ .blocked .tooLong

private theorem noFile_of_tooLong (tooLong : files.find path = .blocked .tooLong) :
    files.NoFile path := by
  intro place data found
  rw [tooLong] at found
  cases found

section Lengths

private theorem walk_ne_tooLong
    (short : ∀ name ∈ names, name.utf8ByteSize ≤ nameLimit) (start : List String) :
    files.walk start names ≠ .blocked .tooLong := by
  induction names generalizing start with
  | nil => simp [walk]
  | cons name rest ih =>
      obtain ⟨first, others⟩ := List.forall_mem_cons.mp short
      rw [walk]
      split
      · exact ih others _
      · rw [if_neg (Nat.not_lt.mpr first)]
        dsimp only
        rcases files.node? (start ++ [name]) with _ | ⟨contents⟩ | _
        · cases rest <;> simp
        · cases rest <;> simp
        · exact ih others _

/-- A path is looked for when it and its names are short enough. -/
theorem searches_of_short
    (short : path.toText.utf8ByteSize ≤ pathLimit)
    (names : ∀ name ∈ path.names, name.utf8ByteSize ≤ nameLimit) : files.Searches path := by
  unfold Searches find
  split
  · simp
  · rw [if_neg (Nat.not_lt.mpr short)]
    exact walk_ne_tooLong names _

end Lengths

section Overlong

private theorem pieces_of_plain {characters : List Char} (plain : '/' ∉ characters) :
    Path.pieces characters = [characters] := by
  induction characters with
  | nil => rfl
  | cons first rest ih =>
      obtain ⟨different, others⟩ := List.ne_and_not_mem_of_not_mem_cons plain
      rw [Path.pieces, if_neg (Ne.symm different), ih others]

private theorem toText_single (name : String) : (⟨0, [name]⟩ : Path).toText = name := by
  have single : "/".intercalate [name] = name := rfl
  simp [Path.toText, single]

/-- A text without slashes is a name, unless it is none at all. -/
theorem ofText_of_plain {name : String} (plain : '/' ∉ name.toList)
    (isName : name ≠ "" ∧ name ≠ ".") : Path.ofText name = ⟨0, [name]⟩ := by
  have slashes : Path.leadingSlashes name.toList = 0 := by
    unfold Path.leadingSlashes
    cases characters : name.toList with
    | nil => rfl
    | cons first rest =>
        rw [characters] at plain
        have different : first ≠ '/' := fun same => plain (same ▸ List.mem_cons_self)
        simp [different]
  simp [Path.ofText, pieces_of_plain plain, slashes, isName]

private theorem find_of_overlong {name : String} (plain : '/' ∉ name.toList)
    (noNul : '\x00' ∉ name.toList) (overlong : nameLimit < name.utf8ByteSize) :
    (Path.ofText name).toText = name ∧ files.find (Path.ofText name) = .blocked .tooLong := by
  have different : ∀ short : String, short.utf8ByteSize ≤ nameLimit → name ≠ short := by
    intro short isShort same
    rw [same] at overlong
    exact absurd overlong (Nat.not_lt.mpr isShort)
  rw [ofText_of_plain plain ⟨different "" (by decide), different "." (by decide)⟩]
  refine ⟨toText_single name, ?_⟩
  have noNul' : (⟨0, [name]⟩ : Path).hasNul = false := by simp [Path.hasNul, noNul]
  rw [find, noNul']
  split
  · contradiction
  · split
    · rfl
    · rw [walk, if_neg (different ".." (by decide)), if_pos overlong]

private theorem utf8ByteSize_letters (count : Nat) :
    (String.ofList (List.replicate count 'a')).utf8ByteSize = count := by
  induction count with
  | zero => rfl
  | succ count ih =>
      have single : (String.singleton 'a').utf8ByteSize = 1 := rfl
      rw [List.replicate_succ, String.ofList_cons, String.utf8ByteSize_append, ih, single,
        Nat.add_comm]

private theorem find_of_letters {count : Nat} (many : nameLimit < count) :
    let name := String.ofList (List.replicate count 'a')
    (Path.ofText name).toText = name ∧ files.find (Path.ofText name) = .blocked .tooLong := by
  refine find_of_overlong ?_ ?_ ?_
  · simp [List.mem_replicate]
  · simp [List.mem_replicate]
  · rw [utf8ByteSize_letters]
    exact many

end Overlong

/-- How the search for a path that leads to no file fails. -/
def searchFailure (files : FileSystem) (path : Path) : Failure :=
  match files.find path with
  | .blocked .tooLong => .nameTooLong path.toText
  | _ => .notFound path.toText

theorem searchFailure_eq_notFound_iff :
    files.searchFailure path = .notFound path.toText ↔ files.Searches path := by
  unfold searchFailure Searches
  split
  · next tooLong => simp [tooLong]
  · next searched => exact iff_of_true rfl searched

theorem searchFailure_of_isReported :
    (files.searchFailure path).isReported = true →
      files.searchFailure path = .notFound path.toText := by
  unfold searchFailure
  split
  · intro reported
    cases reported
  · exact fun _ => rfl

def minifyFailure (files : FileSystem) (path : Path) (destination : Option Path) : Failure :=
  if destination = none ∧ path.names = [] then .emptyName path.toText
  else files.searchFailure path

theorem minifyFailure_eq_notFound_iff {destination : Option Path} :
    files.minifyFailure path destination = .notFound path.toText ↔
      files.Searches path ∧ (destination = none → path.names ≠ []) := by
  unfold minifyFailure
  split
  · next nameless => simp [nameless]
  · next named =>
      rw [searchFailure_eq_notFound_iff]
      exact (and_iff_left fun here nothing => named ⟨here, nothing⟩).symm

theorem minifyFailure_of_isReported {destination : Option Path} :
    (files.minifyFailure path destination).isReported = true →
      files.minifyFailure path destination = .notFound path.toText := by
  unfold minifyFailure
  split
  · intro reported
    cases reported
  · exact searchFailure_of_isReported

end FileSystem

section Loading

variable {files : FileSystem} {path : Path}

theorem loadFile_of_noFile (noFile : files.NoFile path) (faults : DiskFaults) :
    loadFile files faults path = ⟨.error (files.searchFailure path), []⟩ := by
  unfold loadFile FileSystem.readFile FileSystem.searchFailure
  unfold FileSystem.NoFile at noFile
  cases destination : files.find path with
  | vacant place => rfl
  | node place node =>
      cases node with
      | file contents => exact absurd destination (noFile place contents)
      | directory => rfl
  | blocked obstacle => cases obstacle <;> rfl

theorem runFile_of_noFile
    (noFile : files.NoFile path) (faults : DiskFaults) (options : Options) (input : Input)
    (fuel : Nat) :
    runFile files faults path options input fuel =
      some ⟨.error (files.searchFailure path), .ofInput []⟩ := by
  unfold runFile
  rw [loadFile_of_noFile noFile]
  rfl

/-- The name of the minified form is made up first, and the file is looked for then. -/
theorem minifyFile_of_noFile
    (noFile : files.NoFile path) (faults : DiskFaults) (destination : Option Path) :
    minifyFile files faults path destination =
      ⟨.error (files.minifyFailure path destination), []⟩ := by
  rw [minifyFile_eq_match]
  unfold minifiedPath FileSystem.minifyFailure
  cases destination with
  | some target => simp [loadFile_of_noFile noFile]
  | none =>
      unfold Path.appendToName?
      cases last : path.names.getLast? with
      | none => simp [List.getLast?_eq_none_iff.mp last]
      | some name =>
          have named : path.names ≠ [] := by
            intro nameless
            simp [nameless] at last
          simp [loadFile_of_noFile noFile, named]

theorem afterMinifying_of_noFile (noFile : files.NoFile path) (destination : Option Path) :
    files.afterMinifying path destination = files := by
  unfold FileSystem.afterMinifying
  rw [minifyFile_of_noFile noFile]

end Loading

namespace CommandLine

variable {files : FileSystem} {text : String} {invocation : Invocation}

/-- How a command about what is no file fails. -/
def Invocation.failureOn (invocation : Invocation) (files : FileSystem) (path : Path) :
    Failure :=
  if invocation.minify then files.minifyFailure path none
  else if invocation.eof = none then .noEofPolicy
  else files.searchFailure path

theorem Invocation.failureOn_eq_notFound_iff {path : Path} :
    invocation.failureOn files path = .notFound path.toText ↔
      files.Searches path ∧ (invocation.minify = true → path.names ≠ []) ∧
        (invocation.minify = false → invocation.eof ≠ none) := by
  unfold failureOn
  cases minifies : invocation.minify with
  | true => simp [FileSystem.minifyFailure_eq_notFound_iff]
  | false =>
      cases policy : invocation.eof with
      | none => simp
      | some policy => simp [FileSystem.searchFailure_eq_notFound_iff]

/-- Such a failure is passed on, unless the file is reported as missing. -/
theorem Invocation.failureOn_of_isReported {path : Path} :
    (invocation.failureOn files path).isReported = true →
      invocation.failureOn files path = .notFound path.toText := by
  unfold failureOn
  split
  · exact FileSystem.minifyFailure_of_isReported
  · split
    · intro reported
      cases reported
    · exact FileSystem.searchFailure_of_isReported

/-- What is reported is told from what is passed on by how the command ends. -/
theorem failureReport_eq_of_isReported {failure reported : Failure}
    (isReported : reported.isReported = true)
    (same : failureReport failure = failureReport reported) : failure.isReported = true := by
  unfold failureReport failureEnding at same
  cases passedOn : failure.isReported with
  | true => rfl
  | false => simp [isReported, passedOn] at same

theorem Invocation.perform_of_noFile
    (fileEq : invocation.file = some text) (noFile : files.NoFile (Path.ofText text))
    (input : List UInt8) (timing : Timing) (fuel : Nat) :
    invocation.perform files input timing fuel =
      some (failureReport (invocation.failureOn files (Path.ofText text)), files) := by
  have quiet : (Streams.ofInput []).output = [] ∧ (Streams.ofInput []).events = [] :=
    ⟨rfl, rfl⟩
  rw [Invocation.perform_eq_match, fileEq]
  unfold failureOn
  dsimp only
  cases minifies : invocation.minify with
  | true =>
      rw [minifyFile_of_noFile noFile]
      simp [reportMinified, Logged.map, Except.map, failureReport]
  | false =>
      cases policy : invocation.eof with
      | none => simp [options, policy]
      | some policy =>
          simp [options, policy, runFile_of_noFile noFile, reportRun, conclusion, eventTexts,
            failureReport, quiet]

/-- A path that leads to no file is reported as such, and nothing is logged, put out or
written: by a load, by a run, by an attempt to minify it and by the command line.  The
exceptions are a path that is not looked for, and one without names when its minified
form would stand next to it. -/
theorem missing_file_is_reported_iff
    (noFile : files.NoFile (Path.ofText text)) (faults : DiskFaults) :
    let path := Path.ofText text
    let failure := Failure.notFound path.toText
    (loadFile files faults path = ⟨.error failure, []⟩ ↔ files.Searches path) ∧
    (∀ options input fuel,
      runFile files faults path options input fuel = some ⟨.error failure, .ofInput []⟩ ↔
        files.Searches path) ∧
    (∀ destination,
      (minifyFile files faults path destination = ⟨.error failure, []⟩ ↔
        files.Searches path ∧ (destination = none → path.names ≠ [])) ∧
      files.afterMinifying path destination = files) ∧
    ∀ words invocation input timing fuel,
      parse words = .ok invocation → invocation.file = some text →
        ∃ report, perform words files input timing fuel = some (report, files) ∧
          (report = ⟨.completed 1, [], failure.message ++ "\n"⟩ ↔
            files.Searches path ∧ (invocation.minify = true → path.names ≠ []) ∧
              (invocation.minify = false → invocation.eof ≠ none)) := by
  intro path failure
  refine ⟨?_, ?_, ?_, ?_⟩
  · rw [loadFile_of_noFile noFile, ← FileSystem.searchFailure_eq_notFound_iff]
    simp [failure, path]
  · intro options input fuel
    rw [runFile_of_noFile noFile, ← FileSystem.searchFailure_eq_notFound_iff]
    simp [failure, path]
  · intro destination
    refine ⟨?_, afterMinifying_of_noFile noFile destination⟩
    rw [minifyFile_of_noFile noFile, ← FileSystem.minifyFailure_eq_notFound_iff]
    simp [failure, path]
  · intro words invocation input timing fuel parsed fileEq
    refine ⟨failureReport (invocation.failureOn files path), ?_, ?_⟩
    · rw [perform, parsed]
      exact Invocation.perform_of_noFile fileEq noFile input timing fuel
    · have told : failureReport failure = ⟨.completed 1, [], failure.message ++ "\n"⟩ := rfl
      rw [← told, ← Invocation.failureOn_eq_notFound_iff]
      constructor
      · intro same
        exact Invocation.failureOn_of_isReported (failureReport_eq_of_isReported rfl same)
      · intro missing
        rw [missing]

/-- A directory with a name is reported next to itself, from the command line as well, and
the current directory is when there is a destination. -/
theorem missing_file_is_reported_for_directory :
    let files := FileSystem.empty ["tmp"]
    files.NoFile (Path.ofText "/tmp") ∧
      (minifyFile files .none (Path.ofText "/tmp") none).answer = .error (.notFound "/tmp") ∧
      (minifyFile files .none (Path.ofText ".") (some ⟨0, ["p.min"]⟩)).answer =
        .error (.notFound ".") ∧
      (perform ["--minify", "-v", "/tmp"] files [] ⟨"0", "0"⟩ 0).map Prod.fst =
        some ⟨.completed 1, [], "The file at path /tmp does not exist\n"⟩ := by
  intro files
  have directory : files.NoFile (Path.ofText "/tmp") := by
    intro place data found
    cases found
  have current : files.NoFile (Path.ofText ".") := by
    intro place data found
    cases found
  have searches : files.Searches (Path.ofText "/tmp") :=
    FileSystem.searches_of_short (by decide) (by decide)
  have searchesCurrent : files.Searches (Path.ofText ".") :=
    FileSystem.searches_of_short (by decide) (by decide)
  have named : (Path.ofText "/tmp").names ≠ [] := by decide
  obtain ⟨-, -, minified, told⟩ := missing_file_is_reported_iff directory .none
  obtain ⟨-, -, minifiedElsewhere, -⟩ := missing_file_is_reported_iff current .none
  refine ⟨directory, ?_, ?_, ?_⟩
  · rw [((minified none).1).mpr ⟨searches, fun _ => named⟩]
    rfl
  · rw [((minifiedElsewhere _).1).mpr ⟨searchesCurrent, fun none => by cases none⟩]
    rfl
  · have parsed : parse ["--minify", "-v", "/tmp"] =
        .ok ⟨some "/tmp", some .zero, false, false, true, some 0, false, 1⟩ := rfl
    obtain ⟨report, performed, reported⟩ := told _ _ [] ⟨"0", "0"⟩ 0 parsed rfl
    rw [performed, reported.mpr ⟨searches, fun _ => named, fun minifies => by cases minifies⟩]
    rfl

theorem Invocation.perform_of_overlong
    (fileEq : invocation.file = some text) (runs : invocation.minify = false)
    {policy : EofPolicy} (policyEq : invocation.eof = some policy)
    (tooLong : files.find (Path.ofText text) = .blocked .tooLong)
    (input : List UInt8) (timing : Timing) (fuel : Nat) :
    invocation.perform files input timing fuel =
      some (⟨.escaped (.nameTooLong (Path.ofText text).toText), [], ""⟩, files) := by
  rw [perform_of_noFile fileEq (FileSystem.noFile_of_tooLong tooLong)]
  simp [failureOn, runs, policyEq, FileSystem.searchFailure, tooLong, failureReport,
    failureEnding, Failure.isReported]

/-- The path of the current directory, to be minified, and a name of 256 letters are not
reported as missing, although no file is there. -/
theorem missing_file_is_passed_on :
    let files := FileSystem.empty ["tmp"]
    let overlong := String.ofList (List.replicate 256 'a')
    files.NoFile (Path.ofText ".") ∧ files.NoFile (Path.ofText overlong) ∧
      (loadFile files .none (Path.ofText ".")).answer = .error (.notFound ".") ∧
      (minifyFile files .none (Path.ofText ".") none).answer = .error (.emptyName ".") ∧
      (perform ["--minify", "."] files [] ⟨"0", "0"⟩ 0).map (·.1.ending) =
        some (.escaped (.emptyName ".")) ∧
      (loadFile files .none (Path.ofText overlong)).answer = .error (.nameTooLong overlong) ∧
      (Invocation.perform { Invocation.initial with file := some overlong } files []
        ⟨"0", "0"⟩ 0).map (fun told => told.1.ending) =
          some (.escaped (.nameTooLong overlong)) := by
  intro files overlong
  obtain ⟨written, tooLong⟩ : (Path.ofText overlong).toText = overlong ∧
      files.find (Path.ofText overlong) = .blocked .tooLong :=
    FileSystem.find_of_letters (by decide)
  have noFile : files.NoFile (Path.ofText overlong) := FileSystem.noFile_of_tooLong tooLong
  have failure : files.searchFailure (Path.ofText overlong) = .nameTooLong overlong := by
    rw [FileSystem.searchFailure, tooLong, written]
  refine ⟨?_, noFile, rfl, rfl, rfl, ?_, ?_⟩
  · intro place data found
    cases found
  · rw [loadFile_of_noFile noFile, failure]
  · rw [Invocation.perform_of_overlong rfl rfl rfl tooLong, written]
    rfl

end CommandLine

end Brainfuck
