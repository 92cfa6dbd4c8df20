import Brainfuck.CommandLine.Invocation
import Brainfuck.CommandLine.Usage
import Brainfuck.Files.Loading

/-!
# What the command line does

A command line is read and carried out.  The report says what goes to standard
output, what goes to standard error and in which order, and how the command
ends.
-/

namespace Brainfuck.CommandLine

/-- How a command ends. -/
inductive Ending where
  /-- With a status, while its arguments were read. -/
  | refused (status : Nat)
  | completed (status : Nat)
  /-- With a failure that is not reported in the normal way. -/
  | escaped (failure : Failure)

structure Report where
  ending : Ending
  output : List UInt8
  messages : String

/-- How long the parts of a command took, in milliseconds. -/
structure Timing where
  loading : String
  execution : String

def utf8 (text : String) : List UInt8 := text.toUTF8.toList

def Refusal.report : Refusal → Report
  | .help => ⟨.refused 0, utf8 helpText, ""⟩
  | .version => ⟨.refused 0, utf8 s!"bfi {versionNumber}\n", ""⟩
  | .complaint text => ⟨.refused 2, [], s!"{usageText}bfi: error: {text}\n"⟩

def summaryReport : Report := ⟨.completed 0, utf8 s!"{summary}\n", ""⟩

/-- The least important entries that are shown. -/
def Invocation.threshold (invocation : Invocation) : LogLevel :=
  match invocation.verbosity with
  | 0 => .warning
  | 1 => .info
  | _ => .debug

def Invocation.logLine (invocation : Invocation) (entry : LogEntry) : String :=
  if invocation.threshold.rank ≤ entry.level.rank then entry.line else ""

/-- What an event adds to standard error. -/
def Invocation.eventText (invocation : Invocation) : Event → String
  | .prompt text => text
  | .log entry => invocation.logLine entry
  | _ => ""

def Invocation.eventTexts (invocation : Invocation) (events : List Event) : String :=
  String.join (events.map invocation.eventText)

def Invocation.options (invocation : Invocation) : Except Failure Options :=
  match invocation.eof with
  | some policy => .ok {
      eof := policy
      inputMode := if invocation.lineInput then .line else .byte
      prompt := if invocation.prompt then some inputPrompt else none }
  | none => .error .noEofPolicy

def cellsPerLine : Nat := 8

/-- A cell of a dump, filled up to three columns. -/
def dumpCell (value : UInt8) : String :=
  String.ofList ((toString value.toNat).toList.leftpad 3 ' ')

/-- Cuts a list into pieces of `width`, the last of which may be shorter.  The
fuel has to be at least the length of the list. -/
def rows (width : Nat) : Nat → List α → List (List α)
  | 0, _ => []
  | _ + 1, [] => []
  | fuel + 1, items => items.take width :: rows width fuel (items.drop width)

theorem flatten_rows {width : Nat} (positive : 0 < width) (fuel : Nat) (items : List α)
    (enough : items.length ≤ fuel) : (rows width fuel items).flatten = items := by
  induction fuel generalizing items with
  | zero =>
    have empty : items = [] := List.length_eq_zero_iff.mp (Nat.le_zero.mp enough)
    simp [rows, empty]
  | succ fuel ih =>
    cases items with
    | nil => rfl
    | cons item rest =>
      have shorter : ((item :: rest).drop width).length ≤ fuel := by
        simp only [List.length_drop, List.length_cons] at enough ⊢
        omega
      rw [rows, List.flatten_cons, ih _ shorter, List.take_append_drop]
      simp

def dumpLines (cells : List UInt8) : List String :=
  (rows cellsPerLine cells.length cells).map fun row => " ".intercalate (row.map dumpCell)

def dumpText (count : Int) (memory : Array UInt8) : String :=
  String.join ((dumpLines (memory.toList.take count.toNat)).map (· ++ "\n"))

def Timing.text (timing : Timing) (steps : Nat) : String :=
  s!"Loading took {timing.loading} ms\nExecution took {timing.execution} ms ({steps} steps)\n"

/-- The ending of a command whose run did not fail, and what is said about the
run.  Cells can be shown only if it is known how many. -/
def Invocation.closing (invocation : Invocation) (timing : Timing) (result : Result) :
    Ending × String :=
  let timeText := if invocation.time then timing.text result.steps else ""
  match invocation.dump with
  | some count => (.completed 0, timeText ++ dumpText count result.memory)
  | none => (.escaped .noDumpCount, timeText)

def failureEnding (failure : Failure) : Ending × String :=
  if failure.isReported then (.completed 1, failure.message ++ "\n")
  else (.escaped failure, "")

/-- The report on a failure before anything was done. -/
def failureReport (failure : Failure) : Report :=
  let (ending, text) := failureEnding failure
  ⟨ending, [], text⟩

def Invocation.reportMinified (invocation : Invocation) (minified : Logged Path) : Report :=
  let logged := String.join (minified.log.map invocation.logLine)
  match minified.answer with
  | .ok path => ⟨.completed 0, [], s!"{logged}Wrote {path.toText}\n"⟩
  | .error failure =>
    let (ending, text) := failureEnding failure
    ⟨ending, [], logged ++ text⟩

def Invocation.conclusion (invocation : Invocation) (timing : Timing)
    (outcome : Except Failure Result) : Ending × String :=
  match outcome with
  | .ok result => invocation.closing timing result
  | .error failure => failureEnding failure

def Invocation.reportRun (invocation : Invocation) (timing : Timing) (execution : Execution) :
    Report :=
  let (ending, text) := invocation.conclusion timing execution.outcome
  ⟨ending, execution.streams.output, invocation.eventTexts execution.streams.events ++ text⟩

/-- Does what was asked for, given how a file is minified and run. -/
def Invocation.performIn {m : Type → Type} [Monad m] (invocation : Invocation)
    (minify : Path → m (Logged Path)) (run : Path → Options → m (Timing × Execution)) :
    m Report :=
  match invocation.file with
  | none => pure summaryReport
  | some file =>
    let path := Path.ofText file
    if invocation.minify then
      return invocation.reportMinified (← minify path)
    else
      match invocation.options with
      | .error failure => pure (failureReport failure)
      | .ok options => do
        let (timing, execution) ← run path options
        return invocation.reportRun timing execution

/-- Minifies a file of a file system and keeps the files that are there afterwards. -/
def minifyHere (path : Path) : StateT FileSystem Option (Logged Path) := fun files =>
  let minified := minifyFile files .none path none
  some (minified.map Minified.path,
    match minified.answer with
    | .ok written => written.files
    | .error _ => files)

def runHere (input : List UInt8) (timing : Timing) (fuel : Nat) (path : Path)
    (options : Options) : StateT FileSystem Option (Timing × Execution) := fun files =>
  (runFile files .none path options (.bytes input) fuel).map fun execution =>
    ((timing, execution), files)

/-- Does what was asked for, unless the fuel does not last; the files are those
that are there afterwards. -/
def Invocation.perform (invocation : Invocation) (files : FileSystem) (input : List UInt8)
    (timing : Timing) (fuel : Nat) : Option (Report × FileSystem) :=
  (invocation.performIn minifyHere (runHere input timing fuel)).run files

theorem Invocation.perform_eq_match
    (invocation : Invocation) (files : FileSystem) (input : List UInt8) (timing : Timing)
    (fuel : Nat) :
    invocation.perform files input timing fuel =
      match invocation.file with
      | none => some (summaryReport, files)
      | some file =>
        let path := Path.ofText file
        if invocation.minify then
          let minified := minifyFile files .none path none
          some (invocation.reportMinified (minified.map Minified.path),
            match minified.answer with
            | .ok written => written.files
            | .error _ => files)
        else
          match invocation.options with
          | .error failure => some (failureReport failure, files)
          | .ok options =>
            (runFile files .none path options (.bytes input) fuel).map fun execution =>
              (invocation.reportRun timing execution, files) := by
  unfold perform performIn
  cases invocation.file with
  | none => rfl
  | some file =>
    dsimp only
    split
    · rfl
    · cases invocation.options with
      | error failure => rfl
      | ok options =>
        change ((runFile _ _ _ _ _ _).map _).bind _ = (runFile _ _ _ _ _ _).map _
        cases runFile files .none (Path.ofText file) options (.bytes input) fuel <;> rfl

/-- What a command line does, unless the fuel does not last. -/
def perform (words : List String) (files : FileSystem) (input : List UInt8) (timing : Timing)
    (fuel : Nat) : Option (Report × FileSystem) :=
  match parse words with
  | .error refusal => some (refusal.report, files)
  | .ok invocation => invocation.perform files input timing fuel

end Brainfuck.CommandLine
