import Brainfuck.Proofs.DumpLines
import Brainfuck.Proofs.EntryPoints
import Brainfuck.Proofs.SessionTape
import Mathlib.Data.List.TakeDrop

/-!
# The dump of a run

A command line that asks for some cells says all that it says without asking, and shows
these cells behind it.  A run ends with as many cells as it started with, so that no more
are shown than there are on a tape of standard size.
-/

namespace Brainfuck

section Memory

variable {options : Options} {files : FileSystem} {path : Path} {input : Input} {fuel : Nat}
  {execution : Execution} {result : Result}

private theorem size_memory_of_runProgram
    {program : Program} {streams : Streams}
    (ran : runProgram options program streams fuel = some execution)
    (ended : execution.outcome = .ok result) : result.memory.size = standardSize := by
  obtain ⟨halt, halted, rfl⟩ := Option.map_eq_some_iff.mp ran
  have sound := (Machine.run_tape_sound halted rfl (by decide)).1
  unfold Machine.Halt.outcome at ended
  split at ended
  · cases ended
  · cases ended
    exact sound.cells

private theorem size_memory_of_runFile
    (ran : runFile files .none path options input fuel = some execution)
    (ended : execution.outcome = .ok result) : result.memory.size = standardSize := by
  unfold runFile runLoaded at ran
  dsimp only at ran
  split at ran
  · cases ran
    cases ended
  · split at ran
    · cases ran
      cases ended
    · exact size_memory_of_runProgram ran ended

end Memory

namespace CommandLine

section Words

variable {word : String}

/-- No switch is spelled with an equals sign. -/
theorem ofSpelling?_of_mem (joined : '=' ∈ word.toList) : Switch.ofSpelling? word = none := by
  have plain : ∀ entry ∈ Switch.table, '=' ∉ entry.1.toList := by decide
  apply List.lookup_eq_none_iff.mpr
  intro entry member
  rw [bne_iff_ne]
  rintro rfl
  exact plain entry member joined

private theorem toList_dumpWord (value : String) :
    ("--dump=" ++ value).toList = "--dump".toList ++ '=' :: value.toList := by
  rw [String.toList_append]
  rfl

private theorem splitValue_dumpWord (value : String) :
    splitValue ("--dump=" ++ value) = ("--dump", some value) := by
  have cut : ("--dump=" ++ value).toList.span (· ≠ '=') =
      ("--dump".toList, '=' :: value.toList) := by
    rw [toList_dumpWord, List.span_eq_takeWhile_dropWhile]
    rfl
  unfold splitValue
  rw [cut]
  simp

private theorem classify_dumpWord (value : String) :
    classify ("--dump=" ++ value) = .ok (.switch ⟨.dump, "--dump", some value⟩) := by
  have joined : '=' ∈ ("--dump=" ++ value).toList := by
    rw [toList_dumpWord]
    simp
  have dashed : classify ("--dump=" ++ value) = classifyDashed ("--dump=" ++ value) := by
    unfold classify
    rw [toList_dumpWord]
    rfl
  rw [dashed, classifyDashed, ofSpelling?_of_mem joined, splitValue_dumpWord]
  rfl

private theorem assign_dump {count : Int}
    (short : (Nat.toDigits 10 count.natAbs).length ≤ Text.digitLimit) (invocation : Invocation) :
    assign .dump (toString count) invocation = .ok { invocation with dump := some count } := by
  have read := Text.integer?_toString short
  have notSeparator : toString count ≠ separator := by
    intro same
    rw [same] at read
    cases read
  have value : readValue Text.integer? (toString count) = some (some count) := by
    rw [readValue, if_neg notSeparator, read]
    rfl
  unfold assign
  dsimp only
  rw [value]

private theorem parse_dumpWord {count : Int}
    (short : (Nat.toDigits 10 count.natAbs).length ≤ Text.digitLimit) (rest : List String) :
    parse (("--dump=" ++ toString count) :: rest) =
      match classifyAll rest with
      | .error complaint => .error (.complaint complaint)
      | .ok words =>
        match words.foldlM readWord
            { Progress.initial with
              invocation := { Invocation.initial with dump := some count } } with
        | .error refusal => .error refusal
        | .ok progress => conclude progress := by
  have notSeparator : "--dump=" ++ toString count ≠ separator := by
    intro same
    have joined := congrArg String.toList same
    rw [toList_dumpWord] at joined
    cases joined
  have assigned := assign_dump short Progress.initial.invocation
  have first : readWord Progress.initial
      ("--dump=" ++ toString count, .switch ⟨.dump, "--dump", some (toString count)⟩) =
        .ok { Progress.initial with
          invocation := { Invocation.initial with dump := some count } } := by
    change (assign .dump (toString count) Progress.initial.invocation).map
      Progress.initial.withInvocation = _
    rw [assigned]
    rfl
  rw [parse, classifyAll, if_neg notSeparator, classify_dumpWord]
  dsimp only
  cases classifyAll rest with
  | error complaint => rfl
  | ok words =>
      dsimp only [Except.map]
      rw [List.foldlM_cons, first]
      rfl

/-- Any integer that is not longer than what is read can be given. -/
theorem parse_dumpWord_wordsFor {count : Int}
    (short : (Nat.toDigits 10 count.natAbs).length ≤ Text.digitLimit)
    (eof : EofPolicy) (mode : InputMode) (prompts : Bool) (file : String) :
    ∃ invocation,
      parse (("--dump=" ++ toString count) :: wordsFor eof mode prompts file) =
        .ok invocation ∧
      invocation.Asks (optionsOf eof mode prompts) file ∧ invocation.dump = some count := by
  refine ⟨⟨some file, some eof, mode = .line, prompts, false, some count, false, 0⟩, ?_, ?_, rfl⟩
  · rw [parse_dumpWord short]
    cases eof <;> cases mode <;> cases prompts <;> rfl
  · refine ⟨rfl, rfl, ?_, count, rfl⟩
    cases mode <;> rfl

end Words

section Report

/-- What an event says to one who asks for so much detail: a prompt its text, and a log entry
that matters enough its line. -/
def Invocation.saying? (invocation : Invocation) : Event → Option String
  | .prompt text => some text
  | .log entry =>
    if invocation.threshold.rank ≤ entry.level.rank then some entry.line else none
  | _ => none

variable {invocation : Invocation} {options : Options} {file : String} {count : Int}
  {files : FileSystem} {input : List UInt8} {fuel : Nat} {execution : Execution}
  {result : Result}

private theorem Invocation.eventText_eq (invocation : Invocation) (event : Event) :
    invocation.eventText event = (invocation.saying? event).getD "" := by
  cases event with
  | log entry =>
      unfold eventText logLine saying?
      dsimp only
      split <;> rfl
  | _ => rfl

private theorem Invocation.eventTexts_eq_join (invocation : Invocation) (events : List Event) :
    invocation.eventTexts events = String.join (events.filterMap invocation.saying?) := by
  induction events with
  | nil => rfl
  | cons event rest ih =>
      have first : invocation.eventTexts (event :: rest) =
          invocation.eventText event ++ invocation.eventTexts rest := String.join_cons
      rw [first, ih, Invocation.eventText_eq, List.filterMap_cons]
      cases invocation.saying? event with
      | none => exact String.empty_append
      | some text => exact String.join_cons.symm

/-- What is said about a run that came to its end. -/
theorem Invocation.reportRun_of_dump
    (given : invocation.dump = some count) (ended : execution.outcome = .ok result)
    (timing : Timing) :
    invocation.reportRun timing execution =
      ⟨.completed 0, execution.streams.output,
        String.join (execution.streams.events.filterMap invocation.saying?) ++
          ((if invocation.time then timing.text result.steps else "") ++
            String.join
              ((dumpLines (result.memory.toList.take count.toNat)).map (· ++ "\n")))⟩ := by
  rw [← Invocation.eventTexts_eq_join]
  unfold reportRun conclusion closing
  rw [ended, given]
  rfl

private theorem dumpLines_of_nonpos (nonpos : count ≤ 0) (memory : Array UInt8) :
    dumpLines (memory.toList.take count.toNat) = [] := by
  rw [Int.toNat_of_nonpos nonpos]
  rfl

/-- Whatever integer is given, a command line whose run comes to its end says what happened
during the run, and the time if that is asked for, and shows so many cells behind it, as far
as there are any.  It says nothing else. -/
theorem dump_shows_memory (count : Int) :
    ((Nat.toDigits 10 count.natAbs).length ≤ Text.digitLimit →
      ∀ eof mode prompts file, ∃ invocation,
        parse (("--dump=" ++ toString count) :: wordsFor eof mode prompts file) =
          .ok invocation ∧
        invocation.Asks (optionsOf eof mode prompts) file ∧ invocation.dump = some count) ∧
    ∀ words invocation options file files input timing fuel execution result,
      parse words = .ok invocation → invocation.Asks options file →
      invocation.dump = some count →
      runFile files .none (Path.ofText file) options (.bytes input) fuel = some execution →
      execution.outcome = .ok result →
      result.memory.size = 30000 ∧
      ∃ report lines,
        perform words files input timing fuel = some (report, files) ∧
        report.ending = .completed 0 ∧ report.output = execution.streams.output ∧
        report.messages =
          String.join (execution.streams.events.filterMap invocation.saying?) ++
            ((if invocation.time then timing.text result.steps else "") ++
              String.join (lines.map (· ++ "\n"))) ∧
        (count ≤ 0 → lines = []) ∧
        (0 < count → lines.length = (min count.toNat 30000 + 7) / 8 ∧
          ShowsCells lines (result.memory.toList.take count.toNat)) := by
  refine ⟨fun short => parse_dumpWord_wordsFor short, ?_⟩
  intro words invocation options file files input timing fuel execution result parsed asks given
    ran ended
  have size : result.memory.size = 30000 := size_memory_of_runFile ran ended
  have performed : perform words files input timing fuel =
      some (invocation.reportRun timing execution, files) := by
    rw [perform, parsed]
    dsimp only
    rw [Invocation.perform_of_asks asks, ran]
    rfl
  rw [Invocation.reportRun_of_dump given ended] at performed
  refine ⟨size, _, _, performed, rfl, rfl, rfl, ?_, ?_⟩
  · intro nonpos
    exact dumpLines_of_nonpos nonpos _
  · intro _
    refine ⟨?_, dumpLines_shows _⟩
    rw [length_dumpLines, List.length_take, Array.length_toList, size]

/-- A program that counts down from zero leaves 255 in the first cell.  Of ten cells asked
for, eight are shown on a line and two on the next, behind the lines about the time.  If none
is asked for, there are only these. -/
theorem dump_shows_memory_on_two_lines :
    let timing : Timing := ⟨"0.05", "0.10"⟩
    let files := (FileSystem.empty ["tmp"]).put ["tmp", "w.bf"] (.file [45])
    let timeText := "Loading took 0.05 ms\nExecution took 0.10 ms (1 steps)\n"
    (∃ (report : Report) (lines : List String),
      perform ["--dump=10", "--time", "w.bf"] files [] timing 2 = some (report, files) ∧
      report.messages = timeText ++ String.join (lines.map (· ++ "\n")) ∧
      lines.length = 2 ∧
      lines.flatMap numbersIn = some 255 :: List.replicate 9 (some 0)) ∧
    ∃ report : Report,
      perform ["--dump=0", "--time", "w.bf"] files [] timing 2 = some (report, files) ∧
      report.messages = timeText := by
  intro timing files timeText
  let invocation (count : Int) : Invocation :=
    ⟨some "w.bf", some .zero, false, false, false, some count, true, 0⟩
  have asks (count : Int) : (invocation count).Asks (optionsOf .zero .byte false) "w.bf" :=
    ⟨rfl, rfl, rfl, count, rfl⟩
  let machine := Machine.standard (optionsOf .zero .byte false) #['-']
  let streams := (Streams.ofInput []).logAll [.loaded 1 "w.bf" 1]
  let execution (cells : Array UInt8) : Execution := ⟨.ok ⟨⟨0, 1, 0, cells⟩, []⟩,
    ⟨[], ⟨0, 0, 0, 1⟩, [.log (.finished 1 0), .flush, .log (.loaded 1 "w.bf" 1)]⟩⟩
  have executed : ∀ cells : Array UInt8, cells[0]? = some 0 →
      ((machine.execute 2 ⟨0, [], 0, ⟨cells, 0, 0⟩, streams⟩).map machine.finish).map
          (fun halt => ⟨halt.outcome, halt.state.streams⟩) =
        some (execution (cells.setIfInBounds 0 255)) := by
    intro cells zero
    let start : State := ⟨0, [], 0, ⟨cells, 0, 0⟩, streams⟩
    have changed : Machine.modify (· - 1) start.tape streams =
        .done (start.tape.put 255) streams := by
      have current : start.tape.current? = some 0 := zero
      rw [Machine.modify, current]
      rfl
    have first : machine.program[start.index]? = some '-' := rfl
    have move : machine.step start = .next ⟨1, [], 1, start.tape.put 255, streams⟩ := by
      rw [Machine.step_of_plain first (by decide) (by decide)]
      exact congrArg (machine.resume 0 [] 0) changed
    rw [Machine.execute_succ, move]
    rfl
  let blank : Array UInt8 := Array.replicate standardSize 0
  let cells := blank.setIfInBounds 0 255
  have ran : runFile files .none (Path.ofText "w.bf") (optionsOf .zero .byte false)
      (.bytes []) 2 = some (execution cells) :=
    executed blank (by simp [blank, standardSize])
  have said (count : Int) :
      String.join ((execution cells).streams.events.filterMap (invocation count).saying?) = "" :=
    rfl
  have timed (count : Int) :
      (if (invocation count).time then timing.text 1 else "") = timeText := rfl
  constructor
  · obtain ⟨-, report, lines, performed, -, -, messages, -, shown⟩ :=
      (dump_shows_memory 10).2 ["--dump=10", "--time", "w.bf"] (invocation 10) _ _ files []
        timing 2 (execution cells) _ rfl (asks 10) rfl ran rfl
    obtain ⟨count, shows⟩ := shown (by decide)
    refine ⟨report, lines, performed, ?_, ?_, ?_⟩
    · rw [messages, said, String.empty_append]
      exact congrArg (· ++ String.join (lines.map (· ++ "\n"))) (timed 10)
    · rw [count]
      rfl
    · have first : cells.toList.take 10 = 255 :: List.replicate 9 0 := by
        have split : standardSize = 29999 + 1 := rfl
        rw [Array.toList_setIfInBounds, Array.toList_replicate, split, List.replicate_succ,
          List.set_cons_zero, List.take_succ_cons, List.take_replicate]
        rfl
      rw [shows.numbers_eq]
      exact congrArg (List.map fun cell : UInt8 => some cell.toNat) first
  · obtain ⟨-, report, lines, performed, -, -, messages, none, -⟩ :=
      (dump_shows_memory 0).2 ["--dump=0", "--time", "w.bf"] (invocation 0) _ _ files []
        timing 2 (execution cells) _ rfl (asks 0) rfl ran rfl
    refine ⟨report, performed, ?_⟩
    rw [messages, said, String.empty_append, none (by decide)]
    exact (String.append_empty).trans (timed 0)

end Report

end CommandLine

end Brainfuck
