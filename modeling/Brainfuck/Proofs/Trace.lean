import Brainfuck.Proofs.RunEnd

/-!
# What a run went through

The trace of a run lists the states at which its instructions were completed.
What the run has put out can be told from the trace alone: it is the current
cell of every state at a write, in order, and nothing else.
-/

namespace Brainfuck

/-- An effect that is completed puts out some bytes after those that were there
before; one that is not completed puts out nothing. -/
def Effect.Emits (before bytes : List UInt8) : Effect → Prop
  | .done _ streams => streams.output = before ++ bytes
  | .strayed _ streams | .failed _ _ streams => streams.output = before

theorem Effect.Leaves.emits_nil
    {effect : Effect} {before : List UInt8}
    (leaves : effect.Leaves fun streams => streams.output = before) : effect.Emits before [] := by
  cases effect with
  | done tape streams => exact Eq.trans leaves (List.append_nil before).symm
  | strayed tape streams => exact leaves
  | failed failure tape streams => exact leaves

namespace Machine

/-- The states at which the first `count` instructions of a run are completed. -/
def trace (machine : Machine) : Nat → State → List State
  | 0, _ => []
  | count + 1, state =>
    match machine.step state with
    | .next next => state :: trace machine count next
    | _ => []

/-- What the instruction at a state puts out when it is completed. -/
def written (machine : Machine) (state : State) : List UInt8 :=
  if machine.program[state.index]? = some '.' then state.tape.current?.toList else []

def emitted (machine : Machine) (count : Nat) (start : State) : List UInt8 :=
  (machine.trace count start).flatMap machine.written

variable {machine : Machine} {state next start reached : State} {count : Nat}

private theorem trace_succ_of_move (move : Move machine state next) (count : Nat) :
    machine.trace (count + 1) state = state :: machine.trace count next := by
  rw [trace, move.step_eq]

section Output

variable {tape : Tape} {streams : Streams}

theorem write_emits (machine : Machine) (tape : Tape) (streams : Streams) :
    (machine.write tape streams).Emits streams.output tape.current?.toList := by
  unfold write
  cases tape.current? with
  | none => rfl
  | some value =>
      have quiet : (streams.call machine.schedule .write).2.output = streams.output :=
        Streams.output_call machine.schedule .write streams
      dsimp only
      unfold Streams.write
      generalize streams.call machine.schedule .write = outcome at quiet ⊢
      rcases outcome with ⟨_ | ⟨reason | reason⟩, streams'⟩
      · simpa [Effect.Emits, Event.outputByte?] using quiet
      · exact quiet
      · exact quiet

theorem effect_emits
    (machine : Machine) (character : Char) (tape : Tape) (streams : Streams) :
    (machine.effect (Command.ofChar? character) tape streams).Emits streams.output
      (if character = '.' then tape.current?.toList else []) := by
  by_cases isWrite : character = '.'
  · subst isWrite
    exact write_emits machine tape streams
  · rw [if_neg isWrite]
    apply Effect.Leaves.emits_nil
    have silent : Command.ofChar? character ≠ some .write := by
      intro command
      exact isWrite (Command.ofChar?_eq_some_iff.mp command)
    have quiet := Streams.output_readInvariant machine.options machine.schedule streams.output
    exact effect_leaves_of_ne_write quiet silent rfl tape

theorem written_eq
    {character : Char} (found : machine.program[state.index]? = some character) :
    machine.written state = if character = '.' then state.tape.current?.toList else [] := by
  simp [written, found]

theorem Move.output_eq (move : Move machine state next) :
    next.streams.output = state.streams.output ++ machine.written state := by
  cases move with
  | @plain character tape streams found _ _ done =>
      have emits := effect_emits machine character state.tape state.streams
      rw [done] at emits
      rw [written_eq found]
      exact emits
  | skip found _ _ | enter found _ _ | again found _ _ _ | leave found _ _ =>
      rw [written_eq found]
      exact (List.append_nil _).symm

theorem Stuck.output_eq
    {failure : Failure} {left : State} (stuck : Stuck machine state failure left) :
    left.streams.output = state.streams.output := by
  cases stuck with
  | @plain character failure streams _ _ _ failed =>
      have emits := effect_emits machine character state.tape state.streams
      rw [failed] at emits
      exact emits
  | stray | noCellAtOpen | noCellAtClose | unmatchedOpen | unmatchedClose => rfl

/-- The output of a run is that of its completed writes. -/
theorem output_of_after (arrived : machine.after count start = some reached) :
    reached.streams.output = start.streams.output ++ machine.emitted count start := by
  induction count generalizing start with
  | zero =>
      cases arrived
      exact (List.append_nil _).symm
  | succ count ih =>
      obtain ⟨next, move, further⟩ := after_succ_eq_some_iff.mp arrived
      rw [ih further, move.output_eq, emitted, emitted, trace_succ_of_move move,
        List.flatMap_cons, List.append_assoc]

end Output

end Machine

end Brainfuck
