import Brainfuck.Proofs.Relocation
import Brainfuck.Proofs.RunEnd

/-!
# Commentary does not matter

A text and its commands alone do the same.  The run of the text makes a step for
every character of commentary that it comes across, and these steps touch nothing
but the index; between them it is in lock step with the run of the commands.  It
cannot stay in commentary for longer than the text lasts, so neither run goes on
for ever unless both do.
-/

namespace Brainfuck

/-- How many commands stand in front of a position: the place of an instruction
when the commentary is dropped. -/
def commandsBefore (text : List Char) (position : Nat) : Nat :=
  (commandsOfText (text.take position)).length

section Text

variable {text : List Char} {position : Nat} {character : Char}

theorem commandsBefore_succ (found : text[position]? = some character) :
    commandsBefore text (position + 1) =
      commandsBefore text position + if isCommand character then 1 else 0 := by
  rw [commandsBefore, List.take_add_one, found, Option.toList_some, commandsOfText_append,
    List.length_append, commandsBefore]
  congr 1
  by_cases command : isCommand character = true
  · simp [commandsOfText, command]
  · simp [commandsOfText, command]

private theorem drop_commandsBefore (text : List Char) (position : Nat) :
    (commandsOfText text).drop (commandsBefore text position) =
      commandsOfText (text.drop position) := by
  have split : commandsOfText text =
      commandsOfText (text.take position) ++ commandsOfText (text.drop position) := by
    rw [← commandsOfText_append, List.take_append_drop]
  rw [split, commandsBefore, List.drop_left]

private theorem getElem?_commandsBefore
    (found : text[position]? = some character) (command : isCommand character = true) :
    (commandsOfText text)[commandsBefore text position]? = some character := by
  have behind := drop_commandsBefore text position
  rw [drop_of_getElem? found] at behind
  have first := congrArg (fun items => items[0]?) behind
  simpa [commandsOfText, command] using first

private theorem getElem?_commandsBefore_of_end (ended : text[position]? = none) :
    (commandsOfText text)[commandsBefore text position]? = none := by
  have beyond : text.length ≤ position := List.getElem?_eq_none_iff.mp ended
  have whole : (commandsOfText text).length = commandsBefore text position := by
    rw [commandsBefore, List.take_of_length_le beyond]
  exact List.getElem?_eq_none_iff.mpr (Nat.le_of_eq whole)

/-- The scan for a closing bracket passes over commentary. -/
theorem closingFrom?_commandsOfText (text : List Char) (position depth : Nat) :
    closingFrom? (commandsBefore text position) depth (commandsOfText (text.drop position)) =
      (closingFrom? position depth (text.drop position)).map (commandsBefore text) := by
  induction tail : text.drop position generalizing position depth with
  | nil => rfl
  | cons character rest ih =>
      have found : text[position]? = some character := by
        have first := congrArg (fun items => items[0]?) tail
        simpa using first
      have restEq : text.drop (position + 1) = rest := by
        rw [drop_of_getElem? found] at tail
        exact (List.cons.inj tail).2
      have later := fun depth => ih (position + 1) depth restEq
      rw [commandsBefore_succ found] at later
      by_cases isOpen : character = '['
      · have command : isCommand '[' = true := rfl
        simp only [isOpen, command, if_true] at later ⊢
        simpa [commandsOfText, command, closingFrom?] using later (depth + 1)
      · by_cases isClose : character = ']'
        · have command : isCommand ']' = true := rfl
          simp only [isClose, command, if_true] at later ⊢
          cases depth with
          | zero => simp [commandsOfText, command, closingFrom?]
          | succ depth => simpa [commandsOfText, command, closingFrom?] using later depth
        · by_cases command : isCommand character = true
          · simp only [command, if_true] at later
            simpa [commandsOfText, command, closingFrom?, isOpen, isClose] using later depth
          · simp only [command, Bool.false_eq_true, if_false, Nat.add_zero] at later
            simpa [commandsOfText, command, closingFrom?, isOpen, isClose] using later depth

theorem closing?_commandsOfText (text : List Char) (position : Nat) :
    closing? (commandsOfText text).toArray (commandsBefore text position) =
      (closing? text.toArray position).map (commandsBefore text) := by
  rw [closing?_eq, closing?_eq, drop_commandsBefore]
  exact closingFrom?_commandsOfText text position 0

end Text

namespace Machine

/-- How many of the first `count` instructions of a run are commentary. -/
def commentarySteps (machine : Machine) : Nat → State → Nat
  | 0, _ => 0
  | count + 1, state =>
    match machine.step state, machine.program[state.index]? with
    | .next next, some character =>
      commentarySteps machine count next + if isCommand character then 0 else 1
    | _, _ => 0

section Counting

variable {machine : Machine} {start middle : State} {first : Nat}

theorem commentarySteps_add
    (arrived : machine.after first start = some middle) (second : Nat) :
    machine.commentarySteps (first + second) start =
      machine.commentarySteps first start + machine.commentarySteps second middle := by
  induction first generalizing start with
  | zero =>
      cases arrived
      simp [commentarySteps]
  | succ first ih =>
      rw [Nat.succ_add]
      obtain ⟨next, move, further⟩ := after_succ_eq_some_iff.mp arrived
      obtain ⟨character, found⟩ := move.inside
      simp only [commentarySteps, move.step_eq, found, ih further]
      omega

theorem commentarySteps_one
    {next : State} {character : Char} (stepped : machine.step start = .next next)
    (found : machine.program[start.index]? = some character) :
    machine.commentarySteps 1 start = if isCommand character then 0 else 1 := by
  simp [commentarySteps, stepped, found]

theorem step_of_commentary
    {character : Char} (found : machine.program[start.index]? = some character)
    (commentary : isCommand character = false) : machine.step start = .next start.advance := by
  have notOpen : character ≠ '[' := by
    rintro rfl
    cases commentary
  have notClose : character ≠ ']' := by
    rintro rfl
    cases commentary
  have nothing : Command.ofChar? character = none := by
    simpa [isCommand] using commentary
  rw [step_of_plain found notOpen notClose, nothing]
  rfl

end Counting

/-- A state of a text with commentary, and the state of its commands alone. -/
structure Reduces (machine : Machine) (text : List Char) (state reduced : State) : Prop where
  nested : Nested (machine.running text) state
  placed : State.Placed (commandsBefore text) [] Eq state reduced

def AtCommand (text : List Char) (state : State) : Prop :=
  ∀ character, text[state.index]? = some character → isCommand character = true

section Simulation

variable {machine : Machine} {text : List Char} {state reduced reached : State} {count : Nat}

private theorem foundAt_commandsBefore
    (machine : Machine) {index : Nat} {character : Char} (found : text[index]? = some character)
    (command : isCommand character = true) :
    FoundAt (machine.running text) (machine.running (commandsOfText text))
      (commandsBefore text) index where
  char_eq := by
    have place := getElem?_commandsBefore found command
    simpa [running, found] using place
  next_eq := by
    rw [commandsBefore_succ found, command]
    rfl
  closing_eq := by
    intro _
    have next := commandsBefore_succ found
    rw [command] at next
    have closing := closing?_commandsOfText text (index + 1)
    rwa [next] at closing

private theorem keepsBodies_commandsBefore :
    KeepsBodies (machine.running text) (commandsBefore text) := by
  intro index character found bracket
  have listed : text[index]? = some character := by simpa [running] using found
  have command : isCommand character = true := by
    rcases bracket with rfl | rfl <;> rfl
  rw [commandsBefore_succ listed, command]
  rfl

theorem Reduces.advance
    (reduces : Reduces machine text state reduced) {character : Char}
    (found : text[state.index]? = some character) (commentary : isCommand character = false) :
    Reduces machine text state.advance reduced := by
  have foundHere : (machine.running text).program[state.index]? = some character := by
    simpa [running] using found
  have move := step_eq_next_iff.mp (step_of_commentary foundHere commentary)
  refine ⟨reduces.nested.move move, ?_⟩
  obtain ⟨indexEq, loopsEq, tapeEq, streamsEq⟩ := reduces.placed
  refine ⟨?_, loopsEq, tapeEq, streamsEq⟩
  simp only [State.advance, State.goto]
  rw [commandsBefore_succ found, commentary, indexEq]
  rfl

/-- A run comes out of commentary, at the latest where the text ends. -/
theorem Reduces.settle (reduces : Reduces machine text state reduced) :
    ∃ count settled, (machine.running text).after count state = some settled ∧
      (machine.running text).commentarySteps count state = count ∧
      Reduces machine text settled reduced ∧ AtCommand text settled := by
  -- On what is left of the text: commentary never jumps, so each step leaves less.
  induction remaining : text.length - state.index generalizing state with
  | zero =>
      refine ⟨0, state, rfl, rfl, reduces, ?_⟩
      intro character found
      have inside := (List.getElem?_eq_some_iff.mp found).1
      omega
  | succ ahead ih =>
      have inside : state.index < text.length := by omega
      have found : text[state.index]? = some text[state.index] :=
        List.getElem?_eq_getElem inside
      have foundHere : (machine.running text).program[state.index]? = some text[state.index] := by
        simp [running]
      cases command : isCommand text[state.index] with
      | true =>
          refine ⟨0, state, rfl, rfl, reduces, ?_⟩
          intro character here
          rw [found] at here
          cases here
          exact command
      | false =>
          have stepped := step_of_commentary foundHere command
          have shorter : text.length - state.advance.index = ahead := by
            simp only [State.advance, State.goto]
            omega
          obtain ⟨count, settled, arrived, counted, result⟩ :=
            ih (reduces.advance found command) shorter
          refine ⟨count + 1, settled, ?_, ?_, result⟩
          · rw [after_succ, stepped]
            exact arrived
          · simp [commentarySteps, stepped, foundHere, command, counted]

/-- Outside commentary both machines do the same. -/
theorem Reduces.step
    (reduces : Reduces machine text state reduced) (atCommand : AtCommand text state) :
    Step.Related
      (fun failure other =>
        other = failure.relocate (commandsOfText text).toArray (commandsBefore text))
      (Reduces machine text)
      ((machine.running text).step state)
      ((machine.running (commandsOfText text)).step reduced) := by
  obtain ⟨nested, placed⟩ := reduces
  cases found : text[state.index]? with
  | none =>
      have ended : (machine.running text).program[state.index]? = none := by
        simpa [running] using found
      have ended' : (machine.running (commandsOfText text)).program[reduced.index]? = none := by
        have place := getElem?_commandsBefore_of_end found
        rw [← placed.index_eq] at place
        simpa [running] using place
      rw [step_of_end ended, step_of_end ended']
      exact .ended ⟨nested, placed⟩
  | some character =>
      have foundHere : (machine.running text).program[state.index]? = some character := by
        simpa [running] using found
      have agree := agree_running_eq machine text (commandsOfText text)
      have foundAt := foundAt_commandsBefore machine found (atCommand character found)
      rcases move_or_stuck foundHere with ⟨next, move⟩ | ⟨failure, left, stuck⟩
      · obtain ⟨next', move', placedNext⟩ :=
          placed_move agree placed foundAt keepsBodies_commandsBefore nested move
        rw [move.step_eq, move'.step_eq]
        exact .next ⟨nested.move move, placedNext⟩
      · obtain ⟨left', stuck', placedLeft⟩ :=
          placed_stuck agree placed foundAt (fun _ _ => rfl) stuck
        rw [stuck.step_eq, stuck'.step_eq]
        exact .failed rfl ⟨stuck.nested nested, placedLeft⟩

end Simulation

section Runs

variable {machine : Machine} {text : List Char} {state reduced reached : State} {count : Nat}

/-- An instruction of the commands is completed in the text as well, behind the
commentary in front of it. -/
theorem Reduces.move
    (reduces : Reduces machine text state reduced) {next' : State}
    (move' : Move (machine.running (commandsOfText text)) reduced next') :
    ∃ more next, (machine.running text).after more state = some next ∧
      more = 1 + (machine.running text).commentarySteps more state ∧
      Reduces machine text next next' := by
  obtain ⟨skipped, settled, arrived, counted, reducesSettled, atCommand⟩ := reduces.settle
  have outcome := reducesSettled.step atCommand
  rw [move'.step_eq] at outcome
  generalize stepEq : (machine.running text).step settled = made at outcome
  cases outcome with
  | @next next _ reducesNext =>
      have move := step_eq_next_iff.mp stepEq
      have one := after_succ_eq_some_iff.mpr ⟨next, move, after_zero _ next⟩
      refine ⟨skipped + 1, next, after_trans arrived one, ?_, reducesNext⟩
      obtain ⟨character, found⟩ := move.inside
      have command := atCommand character (by simpa [running] using found)
      rw [commentarySteps_add arrived, counted, commentarySteps_one stepEq found, command]
      exact Nat.add_comm skipped 1

/-- The run of the commands is that of the text, without the steps that are
commentary. -/
theorem Reduces.after
    (reduces : Reduces machine text state reduced)
    (arrived : (machine.running (commandsOfText text)).after count reduced = some reached) :
    ∃ more further, (machine.running text).after more state = some further ∧
      more = count + (machine.running text).commentarySteps more state ∧
      Reduces machine text further reached := by
  induction count generalizing state reduced with
  | zero =>
      cases arrived
      exact ⟨0, state, rfl, rfl, reduces⟩
  | succ count ih =>
      obtain ⟨next', move', rest⟩ := after_succ_eq_some_iff.mp arrived
      obtain ⟨first, next, arrivedNext, countedNext, reducesNext⟩ := reduces.move move'
      obtain ⟨more, further, arrivedFurther, countedFurther, result⟩ := ih reducesNext rest
      refine ⟨first + more, further, after_trans arrivedNext arrivedFurther, ?_, result⟩
      rw [commentarySteps_add arrivedNext]
      omega

/-- How the outcomes of a text and of its commands belong together. -/
def SameFailure (text : List Char) (failure other : Failure) : Prop :=
  other = failure.relocate (commandsOfText text).toArray (commandsBefore text)

theorem Reduces.halts
    (reduces : Reduces machine text state reduced) {halt' : Halt}
    (halts' : (machine.running (commandsOfText text)).Halts reduced halt') :
    ∃ halt, (machine.running text).Halts state halt ∧
      Halt.Related (SameFailure text) (Reduces machine text) halt halt' ∧
      ∃ count more, halt'.state.steps = reduced.steps + count ∧
        halt.state.steps = state.steps + more ∧
        more = count + (machine.running text).commentarySteps more state := by
  obtain ⟨count, reached, arrived', ending⟩ := halts'.cases
  obtain ⟨more, further, arrived, counted, reducesFurther⟩ := reduces.after arrived'
  obtain ⟨skipped, settled, arrivedSettled, countedSettled, reducesSettled, atCommand⟩ :=
    reducesFurther.settle
  have arrivedAll := after_trans arrived arrivedSettled
  have countedAll : more + skipped =
      count + (machine.running text).commentarySteps (more + skipped) state := by
    rw [commentarySteps_add arrived, countedSettled]
    omega
  have steps := steps_of_after arrivedAll
  have steps' := steps_of_after arrived'
  have outcome := reducesSettled.step atCommand
  generalize stepEq : (machine.running text).step settled = made at outcome
  rcases ending with ⟨rfl, ended⟩ | ⟨failure', left', rfl, stuck'⟩
  · rw [step_of_end ended] at outcome
    cases outcome with
    | @ended left _ reducesLeft =>
        obtain ⟨rfl, atEnd⟩ := step_eq_ended_iff.mp stepEq
        refine ⟨⟨none, left⟩, halts_of_end arrivedAll atEnd, ⟨.none, reducesLeft⟩, ?_⟩
        exact ⟨count, more + skipped, steps', steps, countedAll⟩
  · rw [stuck'.step_eq] at outcome
    cases outcome with
    | @failed failure _ left _ same reducesLeft =>
        have stuck := step_eq_failed_iff.mp stepEq
        refine ⟨⟨some failure, left⟩, halts_of_stuck arrivedAll stuck,
          ⟨.some same, reducesLeft⟩, ?_⟩
        exact ⟨count, more + skipped, stuck'.steps_eq.trans steps', stuck.steps_eq.trans steps,
          countedAll⟩

/-- A run of the commands that goes on for ever keeps the run of the text going. -/
theorem Reduces.diverges
    (reduces : Reduces machine text state reduced)
    (endless : (machine.running (commandsOfText text)).Diverges reduced) :
    (machine.running text).Diverges state := by
  intro count
  obtain ⟨reached, arrived'⟩ := endless count
  obtain ⟨more, further, arrived, counted, _⟩ := reduces.after arrived'
  apply exists_after_of_le _ arrived
  omega

private theorem Reduces.halts_of_text
    (reduces : Reduces machine text state reduced) {halt : Halt}
    (halts : (machine.running text).Halts state halt) :
    ∃ halt', (machine.running (commandsOfText text)).Halts reduced halt' := by
  -- The commands cannot run on for ever, since the text would run on with them.
  rcases halts_or_diverges (machine.running (commandsOfText text)) reduced with found | endless
  · exact found
  · exact absurd halts ((reduces.diverges endless).not_halts halt)

end Runs

/-- Two runs, of a text and of its commands, came to the same end: what is in
places of the one is in the places of the same commands of the other, and the
one made a step more for every character of commentary that it came across. -/
structure Halt.SameButCommentary (raw : Machine) (start : State) (text : List Char)
    (halt reduced : Halt) : Prop where
  failure_eq : reduced.failure =
    halt.failure.map (Failure.relocate (commandsOfText text).toArray (commandsBefore text))
  index_eq : reduced.state.index = commandsBefore text halt.state.index
  loops_eq : reduced.state.loops = halt.state.loops.map (commandsBefore text)
  tape_eq : reduced.state.tape = halt.state.tape
  input_eq : reduced.state.streams.input = halt.state.streams.input
  output_eq : reduced.state.streams.output = halt.state.streams.output
  prompts_eq : reduced.state.streams.prompts = halt.state.streams.prompts
  steps_eq : halt.state.steps =
    reduced.state.steps + raw.commentarySteps halt.state.steps start

section Outcome

variable {machine : Machine} {text : List Char} {length fuel : Nat} {streams : Streams}
  {halt reduced : Halt}

/-- What surrounds a run is the same for both. -/
theorem finish_related {start : State}
    (related : Halt.Related (SameFailure text) (Reduces machine text) halt reduced)
    (steps : halt.state.steps = reduced.state.steps +
      (machine.running text).commentarySteps halt.state.steps start) :
    Halt.SameButCommentary (machine.running text) start text
      ((machine.running text).finish halt)
      ((machine.running (commandsOfText text)).finish reduced) := by
  obtain ⟨failures, _, indexEq, loopsEq, tapeEq, streamsEq⟩ := related
  have state := finish_state_eq (machine.running text) halt
  have state' := finish_state_eq (machine.running (commandsOfText text)) reduced
  obtain ⟨input, output, prompts⟩ := finish_streams (machine.running text) halt
  obtain ⟨input', output', prompts'⟩ :=
    finish_streams (machine.running (commandsOfText text)) reduced
  have flushed : reduced.state.streams.flush (machine.running (commandsOfText text)).schedule =
      halt.state.streams.flush (machine.running text).schedule := by
    rw [← streamsEq]
    rfl
  rw [flushed] at input' output' prompts'
  refine ⟨?_, ?_, ?_, ?_, input'.trans input.symm, output'.trans output.symm,
    prompts'.trans prompts.symm, ?_⟩
  · rw [finish_failure_eq, finish_failure_eq, flushed]
    rcases (halt.state.streams.flush (machine.running text).schedule).1 with reason | _
    · rfl
    · dsimp only
      generalize halt.failure = failure at failures ⊢
      generalize reduced.failure = failure' at failures ⊢
      cases failures with
      | none => rfl
      | some same => exact congrArg some same
  · rw [state, state']
    exact indexEq
  · rw [state, state']
    simpa using loopsEq
  · rw [state, state']
    exact tapeEq
  · rw [state, state']
    exact steps

theorem reduces_initial (machine : Machine) (text : List Char) (length : Nat)
    (streams : Streams) :
    Reduces machine text (.initial length streams) (.initial length streams) where
  nested := nested_initial length streams
  placed := ⟨rfl, rfl, rfl, rfl⟩

private theorem exists_run_of_commands
    (machine : Machine)
    (ran : (machine.running (commandsOfText text)).run fuel length streams = some reduced) :
    ∃ fuel halt, (machine.running text).run fuel length streams = some halt ∧
      Halt.SameButCommentary (machine.running text) (.initial length streams) text halt
        reduced := by
  obtain ⟨unfinished, executed, rfl⟩ := Option.map_eq_some_iff.mp ran
  obtain ⟨halt, ⟨fuel, executed'⟩, related, count, more, steps, steps', counted⟩ :=
    (reduces_initial machine text length streams).halts ⟨_, executed⟩
  refine ⟨fuel, (machine.running text).finish halt, ?_, ?_⟩
  · rw [run, executed']
    rfl
  · apply finish_related related
    rw [State.initial, Nat.zero_add] at steps steps'
    rw [steps, steps']
    exact counted

private theorem exists_run_of_text
    (machine : Machine)
    (ran : (machine.running text).run fuel length streams = some halt) :
    ∃ fuel reduced, (machine.running (commandsOfText text)).run fuel length streams =
        some reduced ∧
      Halt.SameButCommentary (machine.running text) (.initial length streams) text halt
        reduced := by
  obtain ⟨unfinished, executed, _⟩ := Option.map_eq_some_iff.mp ran
  obtain ⟨halt', fuel', executed'⟩ :=
    (reduces_initial machine text length streams).halts_of_text ⟨_, executed⟩
  have ran' : (machine.running (commandsOfText text)).run fuel' length streams =
      some ((machine.running (commandsOfText text)).finish halt') := by
    rw [run, executed']
    rfl
  obtain ⟨_, halt'', again, same⟩ := exists_run_of_commands machine ran'
  have unique : halt'' = halt := run_unique again ran
  exact ⟨fuel', _, ran', unique ▸ same⟩

end Outcome

/-- Running a text and running its commands come to the same end: with the same
tape, input, output and prompts, with the same loops open, and with the same
failure, at the place of the same command; or both go on for ever. -/
theorem commentary_is_transparent
    (machine : Machine) (source : String) (length : Nat) (streams : Streams) :
    let raw : Machine := { machine with program := Program.ofText source }
    let reduced : Machine := { machine with program := (Source.text source).program }
    let Same := Halt.SameButCommentary raw (.initial length streams) source.toList
    (∀ fuel halt, raw.run fuel length streams = some halt →
      ∃ fuel' halt', reduced.run fuel' length streams = some halt' ∧ Same halt halt') ∧
    (∀ fuel halt', reduced.run fuel length streams = some halt' →
      ∃ fuel' halt, raw.run fuel' length streams = some halt ∧ Same halt halt') ∧
    ((∀ fuel, raw.run fuel length streams = none) ↔
      ∀ fuel, reduced.run fuel length streams = none) := by
  intro raw reduced Same
  have forward : ∀ fuel halt, raw.run fuel length streams = some halt →
      ∃ fuel' halt', reduced.run fuel' length streams = some halt' ∧ Same halt halt' :=
    fun _ _ ran => exists_run_of_text machine ran
  have backward : ∀ fuel halt', reduced.run fuel length streams = some halt' →
      ∃ fuel' halt, raw.run fuel' length streams = some halt ∧ Same halt halt' :=
    fun _ _ ran => exists_run_of_commands machine ran
  refine ⟨forward, backward, ?_⟩
  constructor
  · intro endless fuel
    cases ran : reduced.run fuel length streams with
    | none => rfl
    | some halt' =>
        obtain ⟨fuel', halt, ran', _⟩ := backward fuel halt' ran
        rw [endless fuel'] at ran'
        cases ran'
  · intro endless fuel
    cases ran : raw.run fuel length streams with
    | none => rfl
    | some halt =>
        obtain ⟨fuel', halt', ran', _⟩ := forward fuel halt ran
        rw [endless fuel'] at ran'
        cases ran'

/-- Two characters of commentary, one of them inside a loop, cost one step each. -/
theorem commentary_is_transparent_inside_a_loop :
    let raw : Machine := ⟨Program.ofText "+[a-]b", 1, .standard, .none⟩
    let reduced : Machine := ⟨(Source.text "+[a-]b").program, 1, .standard, .none⟩
    (∃ halt, raw.run 7 1 (.ofInput []) = some halt ∧ halt.state.steps = 6) ∧
      ∃ fuel halt', reduced.run fuel 1 (.ofInput []) = some halt' ∧
        halt'.failure = none ∧ halt'.state.index = 4 ∧ halt'.state.steps = 4 := by
  intro raw reduced
  have ran : raw.run 7 1 (.ofInput []) = some ⟨none, ⟨6, [], 6, ⟨#[0], 0, 0⟩, [], ⟨0, 0, 0, 1⟩,
      [.log (.finished 6 0), .flush]⟩⟩ := by
    subst raw
    rfl
  have same := (commentary_is_transparent ⟨#[], 1, .standard, .none⟩ "+[a-]b" 1 (.ofInput [])).1
  obtain ⟨fuel, halt', ran', failure, index, _, _, _, _, _, steps⟩ := same 7 _ ran
  refine ⟨⟨_, ran, rfl⟩, fuel, halt', ran', failure, index, ?_⟩
  have counted : raw.commentarySteps 6 (.initial 1 (.ofInput [])) = 2 := by
    subst raw
    rfl
  change 6 = halt'.state.steps + raw.commentarySteps 6 (.initial 1 (.ofInput [])) at steps
  omega

end Machine

end Brainfuck
