import Brainfuck.CommandLine.Report
import Brainfuck.Proofs.MinifiedFiles

/-!
# Entry points

A program can be run from the bytes of its source, from a file that holds them,
and from the command line.  The outcome is the same, and so is what was put out;
the file adds one entry to the log, and the command line turns the outcome into
a status and a message.  A minified file does not make a difference.
-/

namespace Brainfuck.CommandLine

/-- A command line that asks for a run of a file. -/
structure Invocation.Asks (invocation : Invocation) (options : Options) (file : String) :
    Prop where
  file_eq : invocation.file = some file
  minify_eq : invocation.minify = false
  options_eq : invocation.options = .ok options
  dump_eq : ∃ count, invocation.dump = some count

def optionsOf (eof : EofPolicy) (mode : InputMode) (prompts : Bool) : Options :=
  { eof := eof, inputMode := mode, prompt := if prompts then some inputPrompt else none }

/-- A command line that asks for some options. -/
def wordsFor (eof : EofPolicy) (mode : InputMode) (prompts : Bool) (file : String) :
    List String :=
  ["--eof", eof.name] ++ (if mode = .line then ["--line-input"] else []) ++
    (if prompts then ["--prompt"] else []) ++ [separator, file]

/-- The command line tells the outcome of a run that it did after some other
events: the status and all that the run put out and, of a run that failed, the
message, with nothing behind it. -/
structure Report.Tells (invocation : Invocation) (before : List Event) (execution : Execution)
    (report : Report) : Prop where
  output_eq : report.output = execution.streams.output
  ended : ∀ result, execution.outcome = .ok result →
    report.ending = .completed 0 ∧ report.output = result.output
  failed : ∀ failure, execution.outcome = .error failure →
    report.ending = .completed 1 ∧
      report.messages = invocation.eventTexts (before ++ execution.streams.events) ++
        (failure.message ++ "\n")

def loadedEvents (file : String) (program : Program) (contents : List UInt8) : List Event :=
  [.log (.loaded program.size (Path.ofText file).toText contents.length)]

/-- A file with some contents, run on its own or from the command line, behaves
as the source does. -/
structure EntriesAgree (options : Options) (source : Source) (input : List UInt8)
    (files : FileSystem) (file : String) (contents : List UInt8) : Prop where
  fromFile : ∀ fuel,
    Option.Rel (Execution.Follows (loadedEvents file source.program contents))
      (runSource options source (.bytes input) fuel)
      (runFile files .none (Path.ofText file) options (.bytes input) fuel)
  answers : ∀ fuel, Option.Rel Execution.AnswerSame
    (runSource options source (.bytes input) fuel)
    (runFile files .none (Path.ofText file) options (.bytes input) fuel)
  fromCommand : ∀ words invocation timing fuel,
    parse words = .ok invocation → invocation.Asks options file →
      Option.Rel
        (fun execution told =>
          told.1.Tells invocation (loadedEvents file source.program contents) execution ∧
            told.2 = files)
        (runSource options source (.bytes input) fuel)
        (perform words files input timing fuel)

variable {options : Options} {source : Source} {input contents : List UInt8}
  {files : FileSystem} {file : String} {place : List String}

theorem parse_wordsFor
    (eof : EofPolicy) (mode : InputMode) (prompts : Bool) (file : String) :
    ∃ invocation, parse (wordsFor eof mode prompts file) = .ok invocation ∧
      invocation.Asks (optionsOf eof mode prompts) file := by
  refine ⟨⟨some file, some eof, mode = .line, prompts, false, some 0, false, 0⟩, ?_, ?_⟩
  · cases eof <;> cases mode <;> cases prompts <;> rfl
  · refine ⟨rfl, rfl, ?_, 0, rfl⟩
    cases mode <;> rfl

theorem runFile_follows
    (found : files.find (Path.ofText file) = .node place (.file contents))
    (holds : Source.program (.bytes contents) = source.program) (options : Options)
    (input : List UInt8) (fuel : Nat) :
    Option.Rel (Execution.Follows (loadedEvents file source.program contents))
      (runSource options source (.bytes input) fuel)
      (runFile files .none (Path.ofText file) options (.bytes input) fuel) := by
  have follows := runFile_follows_runWithInput found options (.bytes input) fuel
  rw [loadBytes, holds] at follows
  exact follows

theorem Invocation.perform_of_asks
    {invocation : Invocation} (asks : invocation.Asks options file) (files : FileSystem)
    (input : List UInt8) (timing : Timing) (fuel : Nat) :
    invocation.perform files input timing fuel =
      (runFile files .none (Path.ofText file) options (.bytes input) fuel).map
        fun execution => (invocation.reportRun timing execution, files) := by
  simp [Invocation.perform_eq_match, asks.file_eq, asks.minify_eq, asks.options_eq]

theorem Invocation.reportRun_tells
    {invocation : Invocation} {before : List Event} {execution other : Execution}
    (asks : invocation.Asks options file) (timing : Timing)
    (follows : execution.Follows before other)
    (resultOutput : ∀ result, execution.outcome = .ok result →
      result.output = execution.streams.output)
    (reported : ∀ failure, execution.outcome = .error failure → failure.isReported) :
    (invocation.reportRun timing other).Tells invocation before execution := by
  obtain ⟨count, dump⟩ := asks.dump_eq
  constructor
  · exact follows.output_eq
  · intro result ended
    refine ⟨?_, ?_⟩
    · simp [reportRun, conclusion, closing, follows.outcome_eq, ended, dump]
    · rw [resultOutput result ended]
      exact follows.output_eq
  · intro failure failed
    simp [reportRun, conclusion, failureEnding, follows.outcome_eq, failed,
      reported failure failed, follows.events_eq]

/-- Only the program counts, of all that a file holds. -/
theorem entriesAgree_of_program
    (found : files.find (Path.ofText file) = .node place (.file contents))
    (holds : Source.program (.bytes contents) = source.program) (options : Options)
    (input : List UInt8) : EntriesAgree options source input files file contents := by
  have filed := runFile_follows found holds options input
  refine ⟨filed, fun fuel => rel_mono (fun _ _ follows => follows.answerSame) (filed fuel), ?_⟩
  intro words invocation timing fuel parsed asks
  have performed : perform words files input timing fuel =
      invocation.perform files input timing fuel := by
    simp [perform, parsed]
  have unchanged : (runSource options source (.bytes input) fuel).map id =
      runSource options source (.bytes input) fuel := Option.map_id_apply
  rw [performed, Invocation.perform_of_asks asks, ← unchanged]
  refine rel_map ?_ (filed fuel)
  intro execution other ran follows
  refine ⟨Invocation.reportRun_tells asks timing follows ?_ ?_, rfl⟩
  · intro result ended
    exact output_of_runProgram ran ended
  · intro failure failed
    exact runProgram_isReported ran failed

/-- Source, file and command line agree on every program, input and choice of
options, and go on to agree when the file was minified. -/
theorem entry_points_agree
    (eof : EofPolicy) (mode : InputMode) (prompts : Bool) (data input : List UInt8)
    (found : files.find (Path.ofText file) = .node place (.file data)) :
    let path := Path.ofText file
    let options := optionsOf eof mode prompts
    let minified := (Source.program (.bytes data)).toBytes
    EntriesAgree options (.bytes data) input files file data ∧
      (∃ invocation, parse (wordsFor eof mode prompts file) = .ok invocation ∧
        invocation.Asks options file) ∧
      (∃ written, (minifyFile files .none path (some path)).answer = .ok written ∧
        written.files.find path = .node place (.file minified)) ∧
      ∀ files' file' place', files'.find (Path.ofText file') = .node place' (.file minified) →
        EntriesAgree options (.bytes data) input files' file' minified := by
  intro path options minified
  refine ⟨entriesAgree_of_program found rfl options input, parse_wordsFor eof mode prompts file,
    ⟨_, minifyFile_self found, FileSystem.find_put found minified⟩, ?_⟩
  intro files' file' place' found'
  exact entriesAgree_of_program found' (program_toBytes data) options input

/-- A program puts out a zero and then leaves the tape: no time is told and no
cell is shown, although both were asked for. -/
theorem entry_points_agree_on_output_before_failure :
    let timing : Timing := ⟨"0.05", "0.10"⟩
    let data : List UInt8 := [103, 111, 46, 60]
    let files := (FileSystem.empty ["tmp"]).put ["tmp", "w.bf"] (.file data)
    let failure := Failure.offTape #['.', '<'] 1 0 30000
    files.find (Path.ofText "./w.bf") = .node ["tmp", "w.bf"] (.file data) ∧
      ∃ report, perform ["--time", "-v", "--dump=4", "./w.bf"] files [] timing 2 =
          some (report, files) ∧
        report.ending = .completed 1 ∧ report.output = [0] ∧
          report.messages = failure.message ++ "\n" := by
  intro timing data files failure
  have found : files.find (Path.ofText "./w.bf") = .node ["tmp", "w.bf"] (.file data) := rfl
  let invocation : Invocation :=
    ⟨some "./w.bf", some .zero, false, false, false, some 4, true, 1⟩
  have parsed : parse ["--time", "-v", "--dump=4", "./w.bf"] = .ok invocation := rfl
  have asks : invocation.Asks (optionsOf .zero .byte false) "./w.bf" := ⟨rfl, rfl, rfl, 4, rfl⟩
  let machine := Machine.standard (optionsOf .zero .byte false) #['.', '<']
  have executed : ∀ cells : Array UInt8, cells[0]? = some 0 →
      machine.execute 2 ⟨0, [], 0, ⟨cells, 0, 0⟩, .ofInput []⟩ =
        some ⟨some failure, ⟨1, [], 1, ⟨cells, 0, 0⟩, ⟨[], ⟨0, 0, 1, 0⟩, [.write 0]⟩⟩⟩ := by
    intro cells zero
    let start : State := ⟨0, [], 0, ⟨cells, 0, 0⟩, .ofInput []⟩
    have wrote : machine.write start.tape start.streams =
        .done start.tape ⟨[], ⟨0, 0, 1, 0⟩, [.write 0]⟩ := by
      have current : start.tape.current? = some 0 := zero
      rw [Machine.write, current]
      rfl
    have first : machine.program[start.index]? = some '.' := rfl
    have move : machine.step start =
        .next ⟨1, [], 1, start.tape, ⟨[], ⟨0, 0, 1, 0⟩, [.write 0]⟩⟩ := by
      rw [Machine.step_of_plain first (by decide) (by decide)]
      exact congrArg (machine.resume 0 [] 0) wrote
    rw [Machine.execute_succ, move]
    rfl
  have ran : runSource (optionsOf .zero .byte false) (.bytes data) (.bytes []) 2 =
      some ⟨.error failure, ⟨[], ⟨0, 0, 1, 1⟩, [.flush, .write 0]⟩⟩ :=
    congrArg (fun halt => (halt.map machine.finish).map fun halt =>
      Execution.mk halt.outcome halt.state.streams)
      (executed (Array.replicate standardSize 0) (by simp [standardSize]))
  have told := (entry_points_agree .zero .byte false data [] found).1.fromCommand
    _ invocation timing 2 parsed asks
  rw [ran] at told
  refine ⟨found, ?_⟩
  cases performed : perform ["--time", "-v", "--dump=4", "./w.bf"] files [] timing 2 with
  | none =>
      rw [performed] at told
      cases told
  | some answer =>
      rw [performed] at told
      obtain ⟨report, left⟩ := answer
      cases told with
      | some tells =>
          obtain ⟨tells, rfl⟩ := tells
          obtain ⟨ending, messages⟩ := tells.failed failure rfl
          exact ⟨report, rfl, ending, tells.output_eq, messages⟩

end Brainfuck.CommandLine
