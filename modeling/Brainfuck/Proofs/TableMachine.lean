import Brainfuck.Proofs.JumpTable

/-!
# The machine with a jump table runs in lock step

The machine with a jump table has no stack of loops.  Apart from that, its
states are those of the plain machine after every number of instructions, and
both come to the same end, for matched and for unmatched brackets alike.
-/

namespace Brainfuck

def State.forgetLoops (state : State) : State := { state with loops := [] }

namespace Machine

variable {machine : Machine} {state next : State}

/-- Two runs came to the same end, whatever they know of open loops. -/
structure Halt.SameButLoops (first second : Halt) : Prop where
  failure : first.failure = second.failure
  index : first.state.index = second.state.index
  steps : first.state.steps = second.state.steps
  tape : first.state.tape = second.state.tape
  input : first.state.streams.input = second.state.streams.input
  output : first.state.streams.output = second.state.streams.output
  prompts : first.state.streams.prompts = second.state.streams.prompts

section Equations

variable (table : JumpTable) (state : State)

private theorem stepByTable_of_end (ended : machine.program[state.index]? = none) :
    machine.stepByTable table state = .ended state := by
  simp [stepByTable, ended, step_of_end ended]

private theorem stepByTable_of_open (found : machine.program[state.index]? = some '[') :
    machine.stepByTable table state = machine.enterByTable table state := by
  have command : Command.ofChar? '[' = some .loopStart := rfl
  simp [stepByTable, found, command]

private theorem stepByTable_of_close (found : machine.program[state.index]? = some ']') :
    machine.stepByTable table state = machine.repeatByTable table state := by
  have command : Command.ofChar? ']' = some .loopEnd := rfl
  simp [stepByTable, found, command]

private theorem stepByTable_of_plain
    {character : Char} (found : machine.program[state.index]? = some character)
    (notOpen : character ≠ '[') (notClose : character ≠ ']') :
    machine.stepByTable table state = machine.resume state.index state.loops state.steps
      (machine.effect (Command.ofChar? character) state.tape state.streams) := by
  rw [← step_of_plain found notOpen notClose]
  have notStart := Command.ofChar?_ne_loopStart notOpen
  have notEnd := Command.ofChar?_ne_loopEnd notClose
  simp only [stepByTable, found, Option.bind_some]

end Equations

section Partner

/-- The entry of a closing bracket that is reached is the top of the stack. -/
theorem Nested.partner?_eq
    (nested : Nested machine state) (found : machine.program[state.index]? = some ']') :
    (JumpTable.ofProgram machine.program).partner? state.index = state.loops.head? := by
  apply Option.ext
  intro start
  rw [JumpTable.partner?_ofProgram_close found, head?_eq_some_iff_partners nested found]

private theorem stepByTable_of_move
    (nested : Nested machine state) (move : Move machine state next) :
    machine.stepByTable (.ofProgram machine.program) state.forgetLoops =
      .next next.forgetLoops := by
  cases move with
  | plain found notOpen notClose done =>
      rw [stepByTable_of_plain _ state.forgetLoops found notOpen notClose]
      simp only [State.forgetLoops, done]
      rfl
  | skip found zero closing =>
      rw [stepByTable_of_open _ state.forgetLoops found]
      have entry := JumpTable.partner?_ofProgram_open found
      simp [enterByTable, State.forgetLoops, zero, entry, closing, State.goto]
  | enter found current nonzero =>
      rw [stepByTable_of_open _ state.forgetLoops found]
      simp [enterByTable, State.forgetLoops, current, nonzero, State.advance, State.goto]
  | again found loops current nonzero =>
      rw [stepByTable_of_close _ state.forgetLoops found]
      have entry := nested.partner?_eq found
      simp [repeatByTable, State.forgetLoops, entry, loops, current, nonzero, State.goto]
  | leave found loops zero =>
      rw [stepByTable_of_close _ state.forgetLoops found]
      have entry := nested.partner?_eq found
      simp [repeatByTable, State.forgetLoops, entry, loops, zero, State.advance, State.goto]

private theorem stepByTable_of_stuck
    {failure : Failure} {left : State} (nested : Nested machine state)
    (stuck : Stuck machine state failure left) :
    machine.stepByTable (.ofProgram machine.program) state.forgetLoops =
      .failed failure left.forgetLoops := by
  cases stuck with
  | plain found notOpen notClose failed =>
      rw [stepByTable_of_plain _ state.forgetLoops found notOpen notClose]
      simp only [State.forgetLoops, failed]
      rfl
  | stray found notOpen notClose strayed =>
      rw [stepByTable_of_plain _ state.forgetLoops found notOpen notClose]
      simp only [State.forgetLoops, strayed]
      rfl
  | noCellAtOpen found missing =>
      rw [stepByTable_of_open _ state.forgetLoops found]
      simp [enterByTable, State.forgetLoops, missing, State.noCell]
  | noCellAtClose found loops missing =>
      rw [stepByTable_of_close _ state.forgetLoops found]
      have entry := nested.partner?_eq found
      simp [repeatByTable, State.forgetLoops, entry, loops, missing, State.noCell]
  | unmatchedOpen found zero closing =>
      rw [stepByTable_of_open _ state.forgetLoops found]
      have entry := JumpTable.partner?_ofProgram_open found
      simp [enterByTable, State.forgetLoops, zero, entry, closing]
  | unmatchedClose found loops =>
      rw [stepByTable_of_close _ state.forgetLoops found]
      have entry := nested.partner?_eq found
      simp [repeatByTable, State.forgetLoops, entry, loops]

end Partner

section Lockstep

/-- The stack of the plain machine fits the text, and the other machine is in
the same state without it. -/
def TableStates (machine : Machine) (first second : State) : Prop :=
  Nested machine first ∧ second = first.forgetLoops

theorem stepByTable_related
    (first second : State) (related : TableStates machine first second) :
    Step.Related Eq (TableStates machine) (machine.step first)
      (machine.stepByTable (.ofProgram machine.program) second) := by
  obtain ⟨nested, rfl⟩ := related
  cases found : machine.program[first.index]? with
  | none =>
      rw [step_of_end found, stepByTable_of_end _ first.forgetLoops found]
      exact .ended ⟨nested, rfl⟩
  | some character =>
      rcases move_or_stuck found with ⟨next, move⟩ | ⟨failure, left, stuck⟩
      · rw [move.step_eq, stepByTable_of_move nested move]
        exact .next ⟨nested.move move, rfl⟩
      · rw [stuck.step_eq, stepByTable_of_stuck nested stuck]
        exact .failed rfl ⟨stuck.nested nested, rfl⟩

/-- What surrounds a run tells the two machines apart by nothing but the warning
about open loops. -/
theorem finish_forgetLoops (machine : Machine) (failure : Option Failure) (state : State) :
    Halt.SameButLoops (machine.finish ⟨failure, state⟩)
      (machine.finish ⟨failure, state.forgetLoops⟩) := by
  simp only [finish, State.forgetLoops]
  rcases state.streams.flush machine.schedule with ⟨result, streams⟩
  cases result with
  | error reason => exact ⟨rfl, rfl, rfl, rfl, rfl, rfl, rfl⟩
  | ok flushed =>
      cases failure with
      | some failure => exact ⟨rfl, rfl, rfl, rfl, rfl, rfl, rfl⟩
      | none =>
          cases loops : state.loops with
          | nil =>
              simp only [report]
              exact ⟨rfl, rfl, rfl, rfl, rfl, rfl, rfl⟩
          | cons start outer =>
              simp only [report]
              refine ⟨rfl, rfl, rfl, rfl, rfl, ?_, ?_⟩
              · simp [Streams.log, Event.outputByte?]
              · simp [Streams.log, Event.promptText?]

/-- The machine with a jump table is in the same state as the plain machine
after every number of instructions, and every run comes to the same end. -/
theorem jumpTable_lockstep (machine : Machine) (length : Nat) (streams : Streams) :
    (∀ count, machine.afterByTable count (.initial length streams) =
      (machine.after count (.initial length streams)).map State.forgetLoops) ∧
    ∀ fuel, Option.Rel Halt.SameButLoops (machine.run fuel length streams)
      (machine.runByTable fuel length streams) := by
  have initially : TableStates machine (.initial length streams) (.initial length streams) :=
    ⟨nested_initial length streams, rfl⟩
  constructor
  · intro count
    have states := afterBy_related stepByTable_related count initially
    unfold afterByTable after
    generalize afterBy machine.step count _ = reached at states
    generalize afterBy (machine.stepByTable _) count _ = reached' at states
    cases states with
    | none => rfl
    | some related => exact congrArg some related.2
  · intro fuel
    have halts := executeBy_related stepByTable_related fuel initially
    unfold run runByTable execute
    generalize executeBy machine.step fuel _ = halt at halts
    generalize executeBy (machine.stepByTable _) fuel _ = halt' at halts
    cases halts with
    | none => exact .none
    | @some first second related =>
        obtain ⟨failure, state⟩ := first
        obtain ⟨failure', state'⟩ := second
        have sameState : state' = state.forgetLoops := related.state.2
        have sameFailure : failure' = failure := by
          cases related.failure with
          | none => rfl
          | some same => exact congrArg some same.symm
        subst sameState sameFailure
        exact .some (finish_forgetLoops machine failure' state)

end Lockstep

end Machine

end Brainfuck
