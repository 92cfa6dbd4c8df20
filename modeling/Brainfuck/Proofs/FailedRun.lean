import Brainfuck.Proofs.TapeBounds
import Brainfuck.Proofs.Trace

/-!
# What a failed run leaves behind

An instruction either has its whole effect or, apart from the calls that it made
on the streams, none.  So a run that fails leaves the state in front of the
instruction that failed, with the output of the instructions completed before it.
What follows is one flush, which may fail as well and is then reported instead,
and no summary is logged.
-/

namespace Brainfuck

namespace Streams

variable {schedule : FaultSchedule} {streams streams' : Streams} {fault : StreamFault}

private theorem counts_call (schedule : FaultSchedule) (kind : StreamCall) (streams : Streams) :
    (streams.call schedule kind).2.counts = streams.counts.bump kind := by
  unfold call
  split <;> rfl

theorem counts_ask (prompt : Option String) (streams : Streams) :
    (streams.ask prompt).counts = streams.counts := by
  cases prompt <;> rfl

theorem counts_flush (schedule : FaultSchedule) (streams : Streams) :
    (streams.flush schedule).2.counts = streams.counts.bump .flush := by
  have called := counts_call schedule .flush streams
  unfold flush
  generalize streams.call schedule .flush = outcome at called ⊢
  rcases outcome with ⟨_ | ⟨reason | reason⟩, streams'⟩ <;> exact called

private theorem counts_read (schedule : FaultSchedule) (streams : Streams) :
    (streams.read schedule).2.counts = streams.counts.bump .read := by
  have called := counts_call schedule .read streams
  unfold read
  generalize streams.call schedule .read = outcome at called ⊢
  rcases outcome with ⟨_ | fault, streams'⟩
  · dsimp only
    split <;> exact called
  · exact called

/-- A call that fails does so because it is scheduled to, by its number. -/
theorem scheduled_of_call
    (kind : StreamCall) (failed : (streams.call schedule kind).1 = some fault) :
    schedule kind (streams.counts.count kind) = some fault := by
  unfold call at failed
  split at failed
  · next scheduled =>
      cases failed
      exact scheduled
  · cases failed

theorem scheduled_of_write
    {byte : UInt8} (failed : (streams.write schedule byte).1 = .error fault) :
    schedule .write streams.counts.write = some fault := by
  apply scheduled_of_call .write
  unfold write at failed
  generalize streams.call schedule .write = outcome at failed ⊢
  rcases outcome with ⟨_ | fault', streams'⟩
  · cases failed
  · cases failed
    rfl

theorem scheduled_of_flush
    {reason : String} (failed : (streams.flush schedule).1 = .error reason) :
    schedule .flush streams.counts.flush = some (.other reason) := by
  apply scheduled_of_call .flush
  unfold flush at failed
  generalize streams.call schedule .flush = outcome at failed ⊢
  rcases outcome with ⟨_ | ⟨reason' | reason'⟩, streams'⟩
  · cases failed
  · cases failed
  · cases failed
    rfl

theorem scheduled_of_read (failed : (streams.read schedule).1 = .error fault) :
    schedule .read streams.counts.read = some fault := by
  apply scheduled_of_call .read
  unfold read at failed
  generalize streams.call schedule .read = outcome at failed ⊢
  rcases outcome with ⟨_ | fault', streams'⟩
  · dsimp only at failed
    split at failed <;> cases failed
  · cases failed
    rfl

theorem scheduled_of_readLine (failed : (streams.readLine schedule).1 = .error fault) :
    schedule .readLine streams.counts.readLine = some fault := by
  apply scheduled_of_call .readLine
  unfold readLine at failed
  generalize streams.call schedule .readLine = outcome at failed ⊢
  rcases outcome with ⟨_ | fault', streams'⟩
  · cases failed
  · cases failed
    rfl

end Streams

theorem Effect.Stays.ne_strayed
    {effect : Effect} {tape tape' : Tape} {streams : Streams} (stays : effect.Stays tape) :
    effect ≠ .strayed tape' streams := by
  intro strayed
  rw [strayed] at stays
  exact stays

namespace Machine

/-- What a failure says of the instruction at a state: which one it is, and what
it met. -/
inductive Blames (machine : Machine) (state : State) : Failure → Prop where
  | left :
      machine.program[state.index]? = some '<' → state.tape.pointer = 0 →
      Blames machine state (.outOfBounds state.tape.pointer machine.size state.index
        (context machine.program state.index))
  | right :
      machine.program[state.index]? = some '>' → machine.size = state.tape.pointer + 1 →
      Blames machine state (.outOfBounds state.tape.pointer machine.size state.index
        (context machine.program state.index))
  | unmatchedOpen :
      machine.program[state.index]? = some '[' →
      Blames machine state (.malformed "Unmatched '['" state.index
        (context machine.program state.index))
  | unmatchedClose :
      machine.program[state.index]? = some ']' →
      Blames machine state (.malformed "Unmatched ']'" state.index
        (context machine.program state.index))
  | refused {reason : String} :
      machine.program[state.index]? = some '.' →
      machine.schedule .write state.streams.counts.write = some (.device reason) →
      Blames machine state (.cannotEmit reason)
  | interrupted {call : StreamCall} {reason : String} :
      (machine.program[state.index]? = some '.' ∧ call = .write) ∨
        (machine.program[state.index]? = some ',' ∧ call ≠ .write) →
      machine.schedule call (state.streams.counts.count call) = some (.other reason) →
      Blames machine state (.interrupted reason)

/-- Why no further instruction of a run is completed: the next one fails, or there
is none.  The streams are as this leaves them. -/
inductive Stops (machine : Machine) (state : State) : Option Failure → Streams → Prop where
  | failed {failure : Failure} {left : State} :
      machine.step state = .failed failure left → Stops machine state (some failure) left.streams
  | ended : machine.step state = .ended state → Stops machine state none state.streams

/-- The failure that a run is reported to have: one of the last flush takes the
place of any other. -/
def reported (machine : Machine) (cause : Option Failure) (left : Streams) : Option Failure :=
  match (left.flush machine.schedule).1 with
  | .error reason => some (.interrupted reason)
  | .ok () => cause

/-- A run that failed behind its first `count` instructions left the state
`reached` that these led to. -/
structure LeavesBoundary (machine : Machine) (start : State) (count : Nat) (reached : State)
    (cause : Option Failure) (left : Streams) (halt : Halt) : Prop where
  state_eq : halt.state = { reached with streams := (left.flush machine.schedule).2 }
  steps_eq : halt.state.steps = start.steps + count
  failure_eq : halt.failure = machine.reported cause left
  output_eq : halt.state.streams.output = start.streams.output ++ machine.emitted count start
  flushes_eq : halt.state.streams.counts = left.counts.bump .flush
  summaries_eq : halt.state.streams.summaries = start.streams.summaries

variable {machine : Machine} {state : State} {tape tape' : Tape} {streams streams' : Streams}
  {failure : Failure} {size : Nat}

section Blame

theorem effect_strayed_cases
    {command : Option Command}
    (strayed : machine.effect command tape streams = .strayed tape' streams') :
    (command = some .left ∧ tape.pointer = 0) ∨
      (command = some .right ∧ machine.size - 1 ≤ tape.pointer) := by
  unfold effect at strayed
  split at strayed
  · unfold moveRight at strayed
    split at strayed
    · next beyond => exact .inr ⟨rfl, beyond⟩
    · cases strayed
  · unfold moveLeft at strayed
    split at strayed
    · next first => exact .inl ⟨rfl, first⟩
    · cases strayed
  · exact absurd strayed (modify_stays tape streams _).ne_strayed
  · exact absurd strayed (modify_stays tape streams _).ne_strayed
  · exact absurd strayed (write_stays machine tape streams).ne_strayed
  · exact absurd strayed (read_stays machine tape streams).ne_strayed
  · cases strayed

private theorem modify_ne_failed
    (sound : tape.Sound size) (change : UInt8 → UInt8) :
    modify change tape streams ≠ .failed failure tape' streams' := by
  obtain ⟨value, current⟩ := sound.current?_eq_some
  rw [modify, current]
  intro failed
  cases failed

private theorem store_ne_failed (sound : tape.Sound size) (value : Option UInt8) :
    store value tape streams ≠ .failed failure tape' streams' := by
  cases value with
  | none =>
      intro failed
      cases failed
  | some value => exact modify_ne_failed sound _

theorem effect_failed_cases
    {command : Option Command} (sound : tape.Sound size)
    (failed : machine.effect command tape streams = .failed failure tape' streams') :
    (command = some .write ∧ machine.write tape streams = .failed failure tape' streams') ∨
      (command = some .read ∧ machine.read tape streams = .failed failure tape' streams') := by
  unfold effect at failed
  split at failed
  · unfold moveRight at failed
    split at failed <;> cases failed
  · unfold moveLeft at failed
    split at failed <;> cases failed
  · exact absurd failed (modify_ne_failed sound _)
  · exact absurd failed (modify_ne_failed sound _)
  · exact .inl ⟨rfl, failed⟩
  · exact .inr ⟨rfl, failed⟩
  · cases failed

private theorem write_failed
    (sound : tape.Sound size)
    (failed : machine.write tape streams = .failed failure tape' streams') :
    ∃ fault, machine.schedule .write streams.counts.write = some fault ∧
      failure = match fault with
        | .device reason => .cannotEmit reason
        | .other reason => .interrupted reason := by
  obtain ⟨value, current⟩ := sound.current?_eq_some
  rw [write, current] at failed
  dsimp only at failed
  split at failed
  · cases failed
  · next reason left wroteEq =>
      cases failed
      exact ⟨.device reason, Streams.scheduled_of_write (by rw [wroteEq]), rfl⟩
  · next reason left wroteEq =>
      cases failed
      exact ⟨.other reason, Streams.scheduled_of_write (by rw [wroteEq]), rfl⟩

theorem scheduled_of_fetch
    {fault : StreamFault} (failed : (machine.fetch streams).1 = .error fault) :
    ∃ call, (call = .read ∨ call = .readLine) ∧
      machine.schedule call (streams.counts.count call) = some fault := by
  unfold fetch at failed
  split at failed
  · next byte left readEq =>
      have counts := Streams.counts_read machine.schedule streams
      rw [readEq] at counts
      split at failed
      · split at failed
        · cases failed
        · next fault' left' lineEq =>
            cases failed
            have scheduled := Streams.scheduled_of_readLine (by rw [lineEq])
            rw [counts] at scheduled
            exact ⟨.readLine, .inr rfl, scheduled⟩
      · cases failed
  · exact ⟨.read, .inl rfl, Streams.scheduled_of_read failed⟩

private theorem read_failed
    (sound : tape.Sound size)
    (failed : machine.read tape streams = .failed failure tape' streams') :
    ∃ call reason, call ≠ .write ∧ failure = .interrupted reason ∧
      machine.schedule call (streams.counts.count call) = some (.other reason) := by
  have asked := Streams.counts_ask machine.options.prompt streams
  have flushed := Streams.counts_flush machine.schedule (streams.ask machine.options.prompt)
  unfold read at failed
  split at failed
  · next reason left flushEq =>
      cases failed
      have scheduled := Streams.scheduled_of_flush (by rw [flushEq])
      rw [asked] at scheduled
      exact ⟨.flush, reason, by decide, rfl, scheduled⟩
  · next left flushEq =>
      rw [flushEq, asked] at flushed
      split at failed
      · exact absurd failed (store_ne_failed sound _)
      · cases failed
      · next reason left' fetchEq =>
          cases failed
          obtain ⟨call, kinds, scheduled⟩ := scheduled_of_fetch (by rw [fetchEq])
          rw [flushed] at scheduled
          rcases kinds with rfl | rfl
          · exact ⟨.read, reason, by decide, rfl, scheduled⟩
          · exact ⟨.readLine, reason, by decide, rfl, scheduled⟩

theorem Stuck.blames
    {left : State} (stuck : Stuck machine state failure left) (sized : machine.size = size)
    (sound : state.tape.Sound size) : Blames machine state failure := by
  obtain ⟨value, current⟩ := sound.current?_eq_some
  cases stuck with
  | plain found _ _ failed =>
      rcases effect_failed_cases sound failed with ⟨command, failed'⟩ | ⟨command, failed'⟩
      · rw [Command.ofChar?_eq_some_iff.mp command] at found
        obtain ⟨fault, scheduled, rfl⟩ := write_failed sound failed'
        cases fault with
        | device reason => exact .refused found scheduled
        | other reason => exact .interrupted (.inl ⟨found, rfl⟩) scheduled
      · rw [Command.ofChar?_eq_some_iff.mp command] at found
        obtain ⟨call, reason, notWrite, rfl, scheduled⟩ := read_failed sound failed'
        exact .interrupted (.inr ⟨found, notWrite⟩) scheduled
  | stray found _ _ strayed =>
      rcases effect_strayed_cases strayed with ⟨command, first⟩ | ⟨command, beyond⟩
      · rw [Command.ofChar?_eq_some_iff.mp command] at found
        exact .left found first
      · rw [Command.ofChar?_eq_some_iff.mp command] at found
        have inside := sound.pointer_lt
        exact .right found (by omega)
  | noCellAtOpen _ missing => simp [current] at missing
  | noCellAtClose _ _ missing => simp [current] at missing
  | unmatchedOpen found _ _ => exact .unmatchedOpen found
  | unmatchedClose found _ => exact .unmatchedClose found

end Blame

section Boundary

variable {start reached : State} {count fuel : Nat} {cause : Option Failure} {left : Streams}
  {halt : Halt}

theorem Stuck.left_eq {left : State} (stuck : Stuck machine state failure left) :
    left = { state with streams := left.streams } := by
  cases stuck <;> rfl

theorem Stops.output_eq (stops : Stops machine state cause left) :
    left.output = state.streams.output := by
  cases stops with
  | failed stepEq => exact (step_eq_failed_iff.mp stepEq).output_eq
  | ended _ => rfl

theorem Stops.summaries_eq (stops : Stops machine state cause left) :
    left.summaries = state.streams.summaries := by
  cases stops with
  | failed stepEq =>
      have kept := Streams.summaries_invariant machine.options machine.schedule
        state.streams.summaries
      exact (step_eq_failed_iff.mp stepEq).keeps_streams kept rfl
  | ended _ => rfl

theorem Stops.execute_eq
    (stops : Stops machine reached cause left) (arrived : machine.after count start = some reached)
    (enough : count < fuel) :
    machine.execute fuel start = some ⟨cause, { reached with streams := left }⟩ := by
  obtain ⟨more, rfl⟩ := Nat.exists_eq_add_of_lt enough
  rw [Nat.add_assoc, execute_of_after arrived, execute_succ]
  cases stops with
  | failed stepEq =>
      rw [stepEq, ← (step_eq_failed_iff.mp stepEq).left_eq]
  | ended stepEq => rw [stepEq]

/-- A run ends where no further instruction is completed. -/
theorem exists_stops_of_execute (executed : machine.execute fuel start = some halt) :
    ∃ count reached cause left, count < fuel ∧ machine.after count start = some reached ∧
      Stops machine reached cause left ∧ halt = ⟨cause, { reached with streams := left }⟩ := by
  have halts : machine.Halts start halt := ⟨fuel, executed⟩
  obtain ⟨count, reached, arrived, ending⟩ := halts.cases
  have enough : count < fuel := by
    apply Nat.lt_of_not_le
    intro spent
    obtain ⟨middle, halfway⟩ := exists_after_of_le spent arrived
    rw [execute_of_after_eq_none halfway] at executed
    cases executed
  rcases ending with ⟨rfl, ended⟩ | ⟨failure, left, rfl, stuck⟩
  · exact ⟨count, reached, none, reached.streams, enough, arrived, .ended (step_of_end ended), rfl⟩
  · refine ⟨count, reached, some failure, left.streams, enough, arrived, .failed stuck.step_eq, ?_⟩
    rw [← stuck.left_eq]

theorem reported_some_ne_none (machine : Machine) (failure : Failure) (left : Streams) :
    machine.reported (some failure) left ≠ none := by
  unfold reported
  split <;> exact Option.some_ne_none _

theorem reported_of_faultless
    (faultless : machine.schedule = .none) (cause : Option Failure) (left : Streams) :
    machine.reported cause left = cause := by
  rw [reported, faultless]
  rfl

theorem finish_of_reported
    (failed : machine.reported halt.failure halt.state.streams ≠ none) :
    machine.finish halt = ⟨machine.reported halt.failure halt.state.streams,
      { halt.state with streams := (halt.state.streams.flush machine.schedule).2 }⟩ := by
  unfold reported at failed ⊢
  unfold finish
  generalize halt.state.streams.flush machine.schedule = outcome at failed ⊢
  rcases outcome with ⟨reason | _, flushed⟩
  · rfl
  · cases causeEq : halt.failure with
    | some failure => rfl
    | none => exact absurd causeEq failed

/-- A run that cannot go on ends at once, and leaves everything but the streams as
it found it. -/
theorem Stops.leavesBoundary
    (stops : Stops machine reached cause left) (arrived : machine.after count start = some reached)
    (failed : machine.reported cause left ≠ none) :
    LeavesBoundary machine start count reached cause left
      (machine.finish ⟨cause, { reached with streams := left }⟩) := by
  have reads := Streams.output_readInvariant machine.options machine.schedule left.output
  have kept := Streams.summaries_invariant machine.options machine.schedule start.streams.summaries
  have reachedSummaries := Reaches.keeps_streams kept ⟨count, arrived⟩ rfl
  rw [finish_of_reported failed]
  constructor
  · rfl
  · have steps := steps_of_after arrived
    exact steps
  · rfl
  · rw [← output_of_after arrived, ← stops.output_eq]
    exact reads.flush left rfl
  · exact Streams.counts_flush machine.schedule left
  · apply kept.flush
    exact stops.summaries_eq.trans reachedSummaries

/-- An instruction that fails has no effect but the calls that it made, and is the
one that its failure names.  The run ends at once with one more flush, and the same
holds of a run that ends behind its last instruction with a flush that fails; no
run fails in any other way. -/
theorem failing_instruction_is_atomic
    {machine : Machine} {size : Nat} (nonempty : 1 ≤ size) (sized : machine.size = size)
    (streams : Streams) :
    (∀ count reached failure left, machine.after count (.initial size streams) = some reached →
      machine.step reached = .failed failure left → Blames machine reached failure) ∧
    (∀ count reached cause left fuel, machine.after count (.initial size streams) = some reached →
      Stops machine reached cause left → machine.reported cause left ≠ none → count < fuel →
      ∃ halt, machine.run fuel size streams = some halt ∧
        LeavesBoundary machine (.initial size streams) count reached cause left halt) ∧
    (∀ fuel halt failure, machine.run fuel size streams = some halt →
      halt.failure = some failure →
      ∃ count reached cause left, machine.after count (.initial size streams) = some reached ∧
        Stops machine reached cause left ∧
        LeavesBoundary machine (.initial size streams) count reached cause left halt) := by
  refine ⟨?_, ?_, ?_⟩
  · intro count reached failure left arrived stepEq
    have sound := after_tape_sound arrived sized (Tape.sound_blank nonempty)
    exact (step_eq_failed_iff.mp stepEq).blames sized sound
  · intro count reached cause left fuel arrived stops failed enough
    refine ⟨_, ?_, stops.leavesBoundary arrived failed⟩
    rw [run, stops.execute_eq arrived enough]
    rfl
  · intro fuel halt failure ran failed
    obtain ⟨unfinished, executed, rfl⟩ := Option.map_eq_some_iff.mp ran
    obtain ⟨count, reached, cause, left, _, arrived, stops, rfl⟩ := exists_stops_of_execute executed
    have reported : machine.reported cause left = some failure := by
      rw [finish_failure_eq] at failed
      exact failed
    have isReported : machine.reported cause left ≠ none := by
      rw [reported]
      exact Option.some_ne_none failure
    exact ⟨count, reached, cause, left, arrived, stops, stops.leavesBoundary arrived isReported⟩

/-- The rest of a line cannot be read, after its first byte was. -/
theorem failing_instruction_is_atomic_within_a_line :
    let schedule : FaultSchedule := fun call _ =>
      if call = .readLine then some (.other "closed") else none
    let machine : Machine :=
      ⟨#['+', '.', ','], 1, { Options.standard with inputMode := .line }, schedule⟩
    let left : Streams := ⟨[8], ⟨1, 1, 1, 2⟩,
      [.flush, .failed .readLine, .read (some 7), .flush, .write 1]⟩
    machine.run 3 1 (.ofInput [7, 8]) = some ⟨some (.interrupted "closed"),
        ⟨2, [], 2, ⟨#[1], 0, 0⟩, left⟩⟩ ∧
      ∃ count reached cause streams,
        machine.after count (.initial 1 (.ofInput [7, 8])) = some reached ∧
        Stops machine reached cause streams ∧ reached.tape = ⟨#[1], 0, 0⟩ ∧ count = 2 ∧
        left.output = machine.emitted 2 (.initial 1 (.ofInput [7, 8])) ∧ left.summaries = [] := by
  intro schedule machine left
  have ran : machine.run 3 1 (.ofInput [7, 8]) = some ⟨some (.interrupted "closed"),
      ⟨2, [], 2, ⟨#[1], 0, 0⟩, left⟩⟩ := rfl
  have sized : machine.size = (1 : Nat) := rfl
  obtain ⟨count, reached, cause, streams, arrived, stops, leaves⟩ :=
    (failing_instruction_is_atomic (Nat.le_refl 1) sized (.ofInput [7, 8])).2.2 3 _ _ ran rfl
  have counted : count = 2 := by
    have steps := leaves.steps_eq
    change 2 = 0 + count at steps
    omega
  subst counted
  refine ⟨ran, 2, reached, cause, streams, arrived, stops, ?_, rfl, leaves.output_eq,
    leaves.summaries_eq⟩
  have tapes := congrArg State.tape leaves.state_eq
  exact tapes.symm

end Boundary

end Machine

end Brainfuck
