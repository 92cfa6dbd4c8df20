import Brainfuck.Machine.Reach

/-!
# What one step can do

`Move` lists the ways in which an instruction is completed and `Stuck` those in
which it fails, each with everything that has to hold for it.  A statement about
all runs is one case analysis over `Move`, and `after_preserves` carries it from
one step to any number of them.
-/

namespace Brainfuck

theorem Command.ofChar?_ne_loopStart {character : Char} (notOpen : character ≠ '[') :
    Command.ofChar? character ≠ some .loopStart := by
  intro command
  exact notOpen (Command.ofChar?_eq_some_iff.mp command)

theorem Command.ofChar?_ne_loopEnd {character : Char} (notClose : character ≠ ']') :
    Command.ofChar? character ≠ some .loopEnd := by
  intro command
  exact notClose (Command.ofChar?_eq_some_iff.mp command)

/-- Why an instruction other than a bracket and a move fails: it finds no cell,
its output is not taken, or a stream fails in a way that is not handled. -/
inductive PlainFailure (tape : Tape) : Failure → Prop where
  | noCell : PlainFailure tape tape.noCell
  | cannotEmit (reason : String) : PlainFailure tape (.cannotEmit reason)
  | interrupted (reason : String) : PlainFailure tape (.interrupted reason)

/-- An effect does not move off the tape, and leaves it as it was when it is not
completed. -/
def Effect.Stays (tape : Tape) : Effect → Prop
  | .done _ _ => True
  | .strayed _ _ => False
  | .failed failure tape' _ => tape' = tape ∧ PlainFailure tape failure

/-- An effect leaves the tape as it was when it is not completed, and a move off
the tape leaves the streams as well. -/
def Effect.Atomic (tape : Tape) (streams : Streams) : Effect → Prop
  | .done _ _ => True
  | .strayed tape' streams' => tape' = tape ∧ streams' = streams
  | .failed failure tape' _ => tape' = tape ∧ PlainFailure tape failure

theorem Effect.Stays.atomic
    {effect : Effect} {tape : Tape} (stays : effect.Stays tape) (streams : Streams) :
    effect.Atomic tape streams := by
  cases effect with
  | done _ _ => trivial
  | strayed _ _ => exact stays.elim
  | failed _ _ _ => exact stays

namespace Machine

variable {machine : Machine} {state next : State}

section Equations

theorem step_of_end (ended : machine.program[state.index]? = none) :
    machine.step state = .ended state := by
  simp [step, ended]

theorem step_of_open (found : machine.program[state.index]? = some '[') :
    machine.step state = machine.enterLoop state := by
  have command : Command.ofChar? '[' = some .loopStart := rfl
  simp [step, found, command]

theorem step_of_close (found : machine.program[state.index]? = some ']') :
    machine.step state = machine.repeatLoop state := by
  have command : Command.ofChar? ']' = some .loopEnd := rfl
  simp [step, found, command]

theorem step_of_plain
    {character : Char} (found : machine.program[state.index]? = some character)
    (notOpen : character ≠ '[') (notClose : character ≠ ']') :
    machine.step state = machine.resume state.index state.loops state.steps
      (machine.effect (Command.ofChar? character) state.tape state.streams) := by
  have notStart := Command.ofChar?_ne_loopStart notOpen
  have notEnd := Command.ofChar?_ne_loopEnd notClose
  simp only [step, found]

end Equations

section Atomic

variable (machine : Machine) (tape : Tape) (streams : Streams)

theorem modify_stays (change : UInt8 → UInt8) :
    (modify change tape streams).Stays tape := by
  unfold modify
  split
  · exact ⟨rfl, .noCell⟩
  · trivial

theorem store_stays (value : Option UInt8) : (store value tape streams).Stays tape := by
  cases value with
  | none => trivial
  | some value => exact modify_stays tape streams _

theorem write_stays : (machine.write tape streams).Stays tape := by
  unfold write
  split
  · exact ⟨rfl, .noCell⟩
  · split
    · trivial
    · exact ⟨rfl, .cannotEmit _⟩
    · exact ⟨rfl, .interrupted _⟩

theorem read_stays : (machine.read tape streams).Stays tape := by
  unfold read
  split
  · exact ⟨rfl, .interrupted _⟩
  · split
    · exact store_stays tape _ _
    · trivial
    · exact ⟨rfl, .interrupted _⟩

theorem moveRight_atomic : (machine.moveRight tape streams).Atomic tape streams := by
  unfold moveRight
  split
  · exact ⟨rfl, rfl⟩
  · trivial

theorem moveLeft_atomic : (moveLeft tape streams).Atomic tape streams := by
  unfold moveLeft
  split
  · exact ⟨rfl, rfl⟩
  · trivial

theorem effect_atomic (command : Option Command) :
    (machine.effect command tape streams).Atomic tape streams := by
  unfold effect
  split
  · exact moveRight_atomic machine tape streams
  · exact moveLeft_atomic tape streams
  · exact (modify_stays tape streams _).atomic streams
  · exact (modify_stays tape streams _).atomic streams
  · exact (write_stays machine tape streams).atomic streams
  · exact (read_stays machine tape streams).atomic streams
  · trivial

variable {machine tape streams} {tape' : Tape} {streams' : Streams} {command : Option Command}

theorem effect_strayed
    (strayed : machine.effect command tape streams = .strayed tape' streams') :
    tape' = tape ∧ streams' = streams := by
  have atomic := effect_atomic machine tape streams command
  rwa [strayed] at atomic

theorem effect_failed
    {failure : Failure}
    (failed : machine.effect command tape streams = .failed failure tape' streams') :
    tape' = tape ∧ PlainFailure tape failure := by
  have atomic := effect_atomic machine tape streams command
  rwa [failed] at atomic

end Atomic

inductive Move (machine : Machine) (state : State) : State → Prop where
  | plain {character : Char} {tape : Tape} {streams : Streams} :
      machine.program[state.index]? = some character →
      character ≠ '[' → character ≠ ']' →
      machine.effect (Command.ofChar? character) state.tape state.streams =
        .done tape streams →
      Move machine state { state with tape := tape, streams := streams }.advance
  | skip {stop : Nat} :
      machine.program[state.index]? = some '[' →
      state.tape.current? = some 0 →
      closing? machine.program (state.index + 1) = some stop →
      Move machine state (state.goto (stop + 1))
  | enter {value : UInt8} :
      machine.program[state.index]? = some '[' →
      state.tape.current? = some value → value ≠ 0 →
      Move machine state { state with loops := state.index :: state.loops }.advance
  | again {value : UInt8} {start : Nat} {outer : List Nat} :
      machine.program[state.index]? = some ']' →
      state.loops = start :: outer →
      state.tape.current? = some value → value ≠ 0 →
      Move machine state (state.goto (start + 1))
  | leave {start : Nat} {outer : List Nat} :
      machine.program[state.index]? = some ']' →
      state.loops = start :: outer →
      state.tape.current? = some 0 →
      Move machine state { state with loops := outer }.advance

/-- An instruction fails, with a failure and the state that is left behind. -/
inductive Stuck (machine : Machine) (state : State) : Failure → State → Prop where
  | plain {character : Char} {failure : Failure} {streams : Streams} :
      machine.program[state.index]? = some character →
      character ≠ '[' → character ≠ ']' →
      machine.effect (Command.ofChar? character) state.tape state.streams =
        .failed failure state.tape streams →
      Stuck machine state failure { state with streams := streams }
  | stray {character : Char} :
      machine.program[state.index]? = some character →
      character ≠ '[' → character ≠ ']' →
      machine.effect (Command.ofChar? character) state.tape state.streams =
        .strayed state.tape state.streams →
      Stuck machine state (machine.offTape state) state
  | noCellAtOpen :
      machine.program[state.index]? = some '[' →
      state.tape.current? = none →
      Stuck machine state state.noCell state
  | noCellAtClose {start : Nat} {outer : List Nat} :
      machine.program[state.index]? = some ']' →
      state.loops = start :: outer →
      state.tape.current? = none →
      Stuck machine state state.noCell state
  | unmatchedOpen :
      machine.program[state.index]? = some '[' →
      state.tape.current? = some 0 →
      closing? machine.program (state.index + 1) = none →
      Stuck machine state (.badBracket "Unmatched '['" machine.program state.index) state
  | unmatchedClose :
      machine.program[state.index]? = some ']' →
      state.loops = [] →
      Stuck machine state (.badBracket "Unmatched ']'" machine.program state.index) state

section Inversion

theorem Move.step_eq (move : Move machine state next) :
    machine.step state = .next next := by
  cases move with
  | plain found notOpen notClose done =>
      rw [step_of_plain found notOpen notClose, done]
      rfl
  | skip found zero closing =>
      rw [step_of_open found]
      simp [enterLoop, zero, closing]
  | enter found current nonzero =>
      rw [step_of_open found]
      simp [enterLoop, current, nonzero]
  | again found loops current nonzero =>
      rw [step_of_close found]
      simp [repeatLoop, loops, current, nonzero]
  | leave found loops zero =>
      rw [step_of_close found]
      simp [repeatLoop, loops, zero]

theorem Stuck.step_eq
    {failure : Failure} (stuck : Stuck machine state failure next) :
    machine.step state = .failed failure next := by
  cases stuck with
  | plain found notOpen notClose failed =>
      rw [step_of_plain found notOpen notClose, failed]
      rfl
  | stray found notOpen notClose strayed =>
      rw [step_of_plain found notOpen notClose, strayed]
      rfl
  | noCellAtOpen found missing =>
      rw [step_of_open found]
      simp [enterLoop, missing]
  | noCellAtClose found loops missing =>
      rw [step_of_close found]
      simp [repeatLoop, loops, missing]
  | unmatchedOpen found zero closing =>
      rw [step_of_open found]
      simp [enterLoop, zero, closing]
  | unmatchedClose found loops =>
      rw [step_of_close found]
      simp [repeatLoop, loops]

theorem Move.inside (move : Move machine state next) :
    ∃ character, machine.program[state.index]? = some character := by
  cases move with
  | plain found _ _ _ => exact ⟨_, found⟩
  | skip found _ _ => exact ⟨_, found⟩
  | enter found _ _ => exact ⟨_, found⟩
  | again found _ _ _ => exact ⟨_, found⟩
  | leave found _ _ => exact ⟨_, found⟩

theorem Stuck.inside {failure : Failure} (stuck : Stuck machine state failure next) :
    ∃ character, machine.program[state.index]? = some character := by
  cases stuck with
  | plain found _ _ _ => exact ⟨_, found⟩
  | stray found _ _ _ => exact ⟨_, found⟩
  | noCellAtOpen found _ => exact ⟨_, found⟩
  | noCellAtClose found _ _ => exact ⟨_, found⟩
  | unmatchedOpen found _ _ => exact ⟨_, found⟩
  | unmatchedClose found _ => exact ⟨_, found⟩

private theorem enterLoop_cases (found : machine.program[state.index]? = some '[') :
    (∃ next, Move machine state next) ∨ ∃ failure, Stuck machine state failure state := by
  cases current : state.tape.current? with
  | none => exact .inr ⟨_, .noCellAtOpen found current⟩
  | some value =>
      by_cases zero : value = 0
      · subst zero
        cases closing : closing? machine.program (state.index + 1) with
        | none => exact .inr ⟨_, .unmatchedOpen found current closing⟩
        | some stop => exact .inl ⟨_, .skip found current closing⟩
      · exact .inl ⟨_, .enter found current zero⟩

private theorem repeatLoop_cases (found : machine.program[state.index]? = some ']') :
    (∃ next, Move machine state next) ∨ ∃ failure, Stuck machine state failure state := by
  cases loops : state.loops with
  | nil => exact .inr ⟨_, .unmatchedClose found loops⟩
  | cons start outer =>
      cases current : state.tape.current? with
      | none => exact .inr ⟨_, .noCellAtClose found loops current⟩
      | some value =>
          by_cases zero : value = 0
          · subst zero
            exact .inl ⟨_, .leave found loops current⟩
          · exact .inl ⟨_, .again found loops current zero⟩

theorem move_or_stuck
    {character : Char} (found : machine.program[state.index]? = some character) :
    (∃ next, Move machine state next) ∨ ∃ failure left, Stuck machine state failure left := by
  by_cases isOpen : character = '['
  · subst isOpen
    rcases enterLoop_cases found with move | ⟨failure, stuck⟩
    · exact .inl move
    · exact .inr ⟨failure, state, stuck⟩
  · by_cases isClose : character = ']'
    · subst isClose
      rcases repeatLoop_cases found with move | ⟨failure, stuck⟩
      · exact .inl move
      · exact .inr ⟨failure, state, stuck⟩
    · cases effect : machine.effect (Command.ofChar? character) state.tape state.streams with
      | done tape streams => exact .inl ⟨_, .plain found isOpen isClose effect⟩
      | strayed tape streams =>
          obtain ⟨rfl, rfl⟩ := effect_strayed effect
          exact .inr ⟨_, _, .stray found isOpen isClose effect⟩
      | failed failure tape streams =>
          obtain ⟨rfl, _⟩ := effect_failed effect
          exact .inr ⟨_, _, .plain found isOpen isClose effect⟩

theorem step_eq_next_iff : machine.step state = .next next ↔ Move machine state next := by
  refine ⟨?_, Move.step_eq⟩
  intro stepped
  cases found : machine.program[state.index]? with
  | none => simp [step_of_end found] at stepped
  | some character =>
      rcases move_or_stuck found with ⟨other, move⟩ | ⟨failure, left, stuck⟩
      · rw [move.step_eq, Step.next.injEq] at stepped
        exact stepped ▸ move
      · simp [stuck.step_eq] at stepped

theorem step_eq_failed_iff {failure : Failure} :
    machine.step state = .failed failure next ↔ Stuck machine state failure next := by
  refine ⟨?_, Stuck.step_eq⟩
  intro stepped
  cases found : machine.program[state.index]? with
  | none => simp [step_of_end found] at stepped
  | some character =>
      rcases move_or_stuck found with ⟨other, move⟩ | ⟨failure, left, stuck⟩
      · simp [move.step_eq] at stepped
      · rw [stuck.step_eq, Step.failed.injEq] at stepped
        obtain ⟨rfl, rfl⟩ := stepped
        exact stuck

theorem step_eq_ended_iff :
    machine.step state = .ended next ↔
      next = state ∧ machine.program[state.index]? = none := by
  constructor
  · intro stepped
    cases found : machine.program[state.index]? with
    | none =>
        rw [step_of_end found, Step.ended.injEq] at stepped
        exact ⟨stepped.symm, rfl⟩
    | some character =>
        rcases move_or_stuck found with ⟨other, move⟩ | ⟨failure, left, stuck⟩
        · simp [move.step_eq] at stepped
        · simp [stuck.step_eq] at stepped
  · rintro ⟨rfl, ended⟩
    exact step_of_end ended

end Inversion

section Runs

variable {start reached : State} {count : Nat}

theorem after_succ_eq_some_iff :
    machine.after (count + 1) start = some reached ↔
      ∃ next, Move machine start next ∧ machine.after count next = some reached := by
  rw [after_succ]
  constructor
  · intro arrived
    split at arrived
    · next next stepEq => exact ⟨next, step_eq_next_iff.mp stepEq, arrived⟩
    · cases arrived
  · rintro ⟨next, move, arrived⟩
    rw [move.step_eq]
    exact arrived

/-- What every completed instruction keeps holds of every state of a run. -/
theorem after_preserves
    (Kept : State → Prop)
    (kept : ∀ state next, Kept state → Move machine state next → Kept next)
    (arrived : machine.after count start = some reached) (initially : Kept start) :
    Kept reached := by
  induction count generalizing start with
  | zero =>
      cases arrived
      exact initially
  | succ count ih =>
      obtain ⟨next, move, further⟩ := after_succ_eq_some_iff.mp arrived
      apply ih further
      exact kept start next initially move

theorem Move.steps_eq (move : Move machine state next) : next.steps = state.steps + 1 := by
  cases move <;> rfl

theorem Stuck.steps_eq {failure : Failure} (stuck : Stuck machine state failure next) :
    next.steps = state.steps := by
  cases stuck <;> rfl

theorem steps_of_after (arrived : machine.after count start = some reached) :
    reached.steps = start.steps + count := by
  induction count generalizing start with
  | zero =>
      cases arrived
      rfl
  | succ count ih =>
      obtain ⟨next, move, further⟩ := after_succ_eq_some_iff.mp arrived
      have later := ih further
      have first := move.steps_eq
      omega

theorem exists_move_of_after_succ (arrived : machine.after (count + 1) start = some reached) :
    ∃ middle, machine.after count start = some middle ∧ Move machine middle reached := by
  rw [after_add] at arrived
  obtain ⟨middle, halfway, last⟩ := Option.bind_eq_some_iff.mp arrived
  obtain ⟨next, move, none⟩ := after_succ_eq_some_iff.mp last
  cases none
  exact ⟨middle, halfway, move⟩

theorem after_succ_of_move
    (arrived : machine.after count start = some reached) (move : Move machine reached next) :
    machine.after (count + 1) start = some next := by
  apply after_trans arrived
  exact after_succ_eq_some_iff.mpr ⟨next, move, rfl⟩

theorem halts_of_end
    (arrived : machine.after count start = some reached)
    (ended : machine.program[reached.index]? = none) :
    machine.Halts start ⟨none, reached⟩ := by
  refine ⟨count + 1, ?_⟩
  rw [execute_of_after arrived, execute_succ, step_of_end ended]

theorem halts_of_stuck
    {failure : Failure} {left : State} (arrived : machine.after count start = some reached)
    (stuck : Stuck machine reached failure left) : machine.Halts start ⟨some failure, left⟩ := by
  refine ⟨count + 1, ?_⟩
  rw [execute_of_after arrived, execute_succ, stuck.step_eq]

/-- A run halts behind the program or at an instruction that fails. -/
theorem Halts.cases {halt : Halt} (halts : machine.Halts start halt) :
    ∃ count reached, machine.after count start = some reached ∧
      ((halt = ⟨none, reached⟩ ∧ machine.program[reached.index]? = none) ∨
        ∃ failure left, halt = ⟨some failure, left⟩ ∧ Stuck machine reached failure left) := by
  obtain ⟨fuel, executed⟩ := halts
  obtain ⟨count, reached, arrived, last⟩ := after_of_execute executed
  refine ⟨count, reached, arrived, ?_⟩
  rw [execute_succ] at last
  split at last
  · cases last
  · next left stepEq =>
      obtain ⟨rfl, ended⟩ := step_eq_ended_iff.mp stepEq
      cases last
      exact .inl ⟨rfl, ended⟩
  · next failure left stepEq =>
      cases last
      exact .inr ⟨failure, left, rfl, step_eq_failed_iff.mp stepEq⟩

end Runs

end Machine

end Brainfuck
