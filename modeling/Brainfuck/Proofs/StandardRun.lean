import Brainfuck.Execution
import Brainfuck.Proofs.Agreement
import Brainfuck.Proofs.RunEnd
import Brainfuck.Proofs.TapeBounds

/-!
# Runs on a machine of standard size

On a machine of standard size no call fails.  So a run depends on the input and
not on what was logged before it, and a failure is always one of the program:
a move off the tape or a bracket without a partner.
-/

namespace Brainfuck

/-- An execution had the outcome of another one, with the same events after some
of its own that put nothing out. -/
structure Execution.Follows (before : List Event) (first second : Execution) : Prop where
  outcome_eq : second.outcome = first.outcome
  input_eq : second.streams.input = first.streams.input
  output_eq : second.streams.output = first.streams.output
  events_eq : second.streams.events = before ++ first.streams.events

/-- Two runs give a caller the same answer and the same output, on a stream or without. -/
def Execution.AnswerSame (first second : Execution) : Prop :=
  ∀ sink, second.answer sink = first.answer sink ∧ second.delivered sink = first.delivered sink

theorem Execution.Follows.answerSame
    {before : List Event} {first second : Execution} (follows : Follows before first second) :
    AnswerSame first second := by
  intro sink
  constructor
  · rw [answer, answer, follows.outcome_eq]
  · cases sink with
    | collected => rfl
    | given => exact follows.output_eq

namespace Machine

variable {machine : Machine} {start start' : Streams}

section Same

/-- Runs on the same input come to the same end, whatever happened before. -/
theorem run_same
    (faultless : machine.schedule = .none) (inputs : start.input = start'.input)
    (fuel length : Nat) :
    Option.Rel (Halt.Related Eq (State.Same (Streams.Parallel start start')))
      (machine.run fuel length start) (machine.run fuel length start') := by
  have agree : machine.Agree machine (Streams.Parallel start start') :=
    Streams.Parallel.agree rfl rfl faultless faultless
  have initially : State.Same (Streams.Parallel start start')
      (.initial length start) (.initial length start') :=
    same_of_alike (Streams.Parallel.refl inputs)
  have halts := executeBy_related (fun _ _ same => agree.step rfl same) fuel initially
  refine rel_map ?_ halts
  intro halt halt' _ same
  apply finish_same _ _ same
  · intro left right entry parallel
    exact parallel.record _
  · intro left right parallel
    rw [faultless]
    exact parallel.flush

theorem outcome_same
    {halt halt' : Halt} (outputs : start.output = start'.output)
    (same : Halt.Related Eq (State.Same (Streams.Parallel start start')) halt halt') :
    halt'.outcome = halt.outcome := by
  obtain ⟨failure, state⟩ := halt
  obtain ⟨failure', state'⟩ := halt'
  obtain ⟨failures, states⟩ := same
  cases failures with
  | some same =>
      cases same
      rfl
  | none =>
      have sameOutput := states.streams.output_eq outputs
      have sameTape : state.tape = state'.tape := states.tape_eq
      have sameSteps : state.steps = state'.steps := states.steps_eq
      dsimp only at sameOutput
      simp [Halt.outcome, sameOutput, sameTape, sameSteps]

end Same

section Failures

/-- Streams that do not fail and a sound tape leave an instruction other than a
bracket nothing to fail for but a move off the tape. -/
theorem effect_ne_failed
    {size : Nat} {tape tape' : Tape} {streams streams' : Streams} {failure : Failure}
    (faultless : machine.schedule = .none) (sized : machine.size = size)
    (sound : tape.Sound size) (character : Char) :
    machine.effect (Command.ofChar? character) tape streams ≠
      .failed failure tape' streams' := by
  let world : World := ⟨tape, streams.input, streams.output.reverse⟩
  have shows : streams.Shows world.input world.emitted := ⟨rfl, (List.reverse_reverse _).symm⟩
  have fits : world.Fits size := ⟨sound.cells, sound.pointer_lt⟩
  have mirrors := effect_mirrors faultless sized shows fits character
  intro failed
  rw [failed] at mirrors
  cases mirrors

theorem Stuck.isReported
    {state left : State} {failure : Failure} {size : Nat}
    (stuck : Stuck machine state failure left) (faultless : machine.schedule = .none)
    (sized : machine.size = size) (sound : state.tape.Sound size) : failure.isReported := by
  obtain ⟨value, current⟩ := sound.current?_eq_some
  cases stuck with
  | plain _ _ _ failed => exact (effect_ne_failed faultless sized sound _ failed).elim
  | stray | unmatchedOpen | unmatchedClose => rfl
  | noCellAtOpen _ missing => simp [current] at missing
  | noCellAtClose _ _ missing => simp [current] at missing

theorem run_isReported
    {size fuel : Nat} {streams : Streams} {halt : Halt} {failure : Failure}
    (ran : machine.run fuel size streams = some halt) (faultless : machine.schedule = .none)
    (sized : machine.size = size) (nonempty : 1 ≤ size) (failed : halt.failure = some failure) :
    failure.isReported := by
  obtain ⟨unfinished, executed, rfl⟩ := Option.map_eq_some_iff.mp ran
  have halts : machine.Halts (.initial size streams) unfinished := ⟨fuel, executed⟩
  rw [finish_failure_eq, faultless] at failed
  obtain ⟨count, reached, arrived, ⟨rfl, _⟩ | ⟨cause, left, rfl, stuck⟩⟩ := halts.cases
  · cases failed
  · cases failed
    exact stuck.isReported faultless sized
      (after_tape_sound arrived sized (Tape.sound_blank nonempty))

end Failures

end Machine

theorem outputOf_logs (entries : List LogEntry) : outputOf (entries.map .log) = [] := by
  simp [outputOf, Event.outputByte?]

variable {options : Options} {program : Program} {fuel : Nat}

/-- What was logged before a run has no influence on it. -/
theorem runProgram_follows
    (options : Options) (program : Program) (input : List UInt8) (entries : List LogEntry)
    (fuel : Nat) :
    Option.Rel (Execution.Follows (entries.map .log))
      (runProgram options program (.ofInput input) fuel)
      (runProgram options program ((Streams.ofInput input).logAll entries) fuel) := by
  let machine := Machine.standard options program
  have faultless : machine.schedule = .none := rfl
  have inputs : (Streams.ofInput input).input = ((Streams.ofInput input).logAll entries).input :=
    (Streams.input_logAll _ entries).symm
  have runs := machine.run_same faultless inputs fuel standardSize
  refine rel_map ?_ runs
  intro halt halt' _ same
  have parallel := same.state.streams
  have outputs : (Streams.ofInput input).output =
      ((Streams.ofInput input).logAll entries).output := by
    unfold Streams.output
    rw [Streams.events_logAll, outputOf_append, outputOf_logs, List.append_nil]
  refine ⟨Machine.outcome_same outputs same, parallel.input_eq.symm,
    (parallel.output_eq outputs).symm, ?_⟩
  obtain ⟨since, events, events'⟩ := parallel.events_eq
  have nothing : (Streams.ofInput input).events = [] := rfl
  dsimp only
  rw [events, events', Streams.events_logAll, nothing, List.nil_append, List.nil_append]

theorem runProgram_isReported
    {streams : Streams} {execution : Execution} {failure : Failure}
    (ran : runProgram options program streams fuel = some execution)
    (failed : execution.outcome = .error failure) : failure.isReported := by
  obtain ⟨halt, halted, rfl⟩ := Option.map_eq_some_iff.mp ran
  have cause : halt.failure = some failure := by
    unfold Machine.Halt.outcome at failed
    split at failed
    · next reason causeEq =>
        cases failed
        exact causeEq
    · cases failed
  exact Machine.run_isReported halted rfl rfl (by decide) cause

theorem output_of_runProgram
    {streams : Streams} {execution : Execution} {result : Result}
    (ran : runProgram options program streams fuel = some execution)
    (ended : execution.outcome = .ok result) : result.output = execution.streams.output := by
  obtain ⟨halt, _, rfl⟩ := Option.map_eq_some_iff.mp ran
  unfold Machine.Halt.outcome at ended
  split at ended
  · cases ended
  · cases ended
    rfl

end Brainfuck
