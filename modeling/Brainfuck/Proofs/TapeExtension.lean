import Brainfuck.Proofs.FailedRun

/-!
# The size of the tape

A tape can be extended by cells at its end.  As long as a run does not need them
it goes on as without them: every instruction commutes with the extension, except
a move to the right from the last cell of the shorter tape.  There the run on the
shorter tape fails, and this is the only way to tell the two sizes apart.
-/

namespace Brainfuck

def Tape.extend (extra : Nat) (tape : Tape) : Tape :=
  { tape with cells := tape.cells ++ Array.replicate extra 0 }

def State.extend (extra : Nat) (state : State) : State :=
  { state with tape := state.tape.extend extra }

def Failure.resize (size : Int) : Failure → Failure
  | .outOfBounds pointer _ position context => .outOfBounds pointer size position context
  | failure => failure

theorem PlainFailure.resize_eq
    {tape : Tape} {failure : Failure} (plain : PlainFailure tape failure) (size : Int) :
    failure.resize size = failure := by
  cases plain <;> rfl

def Effect.extend (extra : Nat) : Effect → Effect
  | .done tape streams => .done (tape.extend extra) streams
  | .strayed tape streams => .strayed (tape.extend extra) streams
  | .failed failure tape streams => .failed failure (tape.extend extra) streams

/-- The outcome of a step on a tape with more cells, `size` in all. -/
def Step.extend (size extra : Nat) : Step → Step
  | .next state => .next (state.extend extra)
  | .ended state => .ended (state.extend extra)
  | .failed failure state => .failed (failure.resize size) (state.extend extra)

namespace Step

variable {size extra : Nat} {step : Step} {next : State} {failure : Failure}

theorem extend_eq_next (extended : step.extend size extra = .next next) :
    ∃ state, step = .next state ∧ next = state.extend extra := by
  cases step with
  | next state =>
      cases extended
      exact ⟨state, rfl, rfl⟩
  | ended state => cases extended
  | failed failure state => cases extended

theorem extend_eq_ended (extended : step.extend size extra = .ended next) :
    ∃ state, step = .ended state ∧ next = state.extend extra := by
  cases step with
  | next state => cases extended
  | ended state =>
      cases extended
      exact ⟨state, rfl, rfl⟩
  | failed failure state => cases extended

theorem extend_eq_failed (extended : step.extend size extra = .failed failure next) :
    ∃ failure' state, step = .failed failure' state ∧ failure = failure'.resize size ∧
      next = state.extend extra := by
  cases step with
  | next state => cases extended
  | ended state => cases extended
  | failed failure' state =>
      cases extended
      exact ⟨failure', state, rfl, rfl, rfl⟩

end Step

namespace Tape

variable {size extra : Nat} {tape : Tape}

@[simp]
theorem pointer_extend (extra : Nat) (tape : Tape) :
    (tape.extend extra).pointer = tape.pointer := rfl

theorem blank_add (size extra : Nat) : blank (size + extra) = (blank size).extend extra := by
  simp [blank, extend]

theorem current?_extend (sound : tape.Sound size) (extra : Nat) :
    (tape.extend extra).current? = tape.current? := by
  have inside : tape.pointer < tape.cells.size := sound.cells.symm ▸ sound.pointer_lt
  exact Array.getElem?_append_left inside

theorem put_extend (sound : tape.Sound size) (extra : Nat) (value : UInt8) :
    (tape.extend extra).put value = (tape.put value).extend extra := by
  have inside : tape.pointer < tape.cells.size := sound.cells.symm ▸ sound.pointer_lt
  simp [put, extend, Array.setIfInBounds_append_left inside]

theorem Sound.extend (sound : tape.Sound size) (extra : Nat) :
    (tape.extend extra).Sound (size + extra) where
  cells := by simp [Tape.extend, sound.cells]
  pointer_le := sound.pointer_le
  highest_lt := Nat.lt_add_right extra sound.highest_lt
  untouched := by
    intro place beyond inside
    by_cases within : place < size
    · have old : place < tape.cells.size := sound.cells.symm ▸ within
      exact (Array.getElem?_append_left old).trans (sound.untouched place beyond within)
    · have new : tape.cells.size ≤ place := sound.cells.symm ▸ Nat.le_of_not_lt within
      have index : place - tape.cells.size < extra := by
        have cells := sound.cells
        omega
      refine (Array.getElem?_append_right new).trans ?_
      simp [index]

end Tape

namespace Machine

def Halt.extend (size extra : Nat) (halt : Halt) : Halt :=
  ⟨halt.failure.map (Failure.resize size), halt.state.extend extra⟩

def sized (machine : Machine) (size : Nat) : Machine := { machine with size := size }

/-- The next instruction does not need more than `size` cells, or there are no
more. -/
def Suffices (machine : Machine) (size extra : Nat) (state : State) : Prop :=
  machine.program[state.index]? = some '>' → state.tape.pointer + 1 < size ∨ extra = 0

@[simp]
theorem size_sized (machine : Machine) (size : Nat) : (machine.sized size).size = size := rfl

variable {machine : Machine} {size extra : Nat} {tape : Tape} {streams : Streams}
  {state next start reached : State} {count fuel : Nat}

section Effects

theorem modify_extend
    (sound : tape.Sound size) (extra : Nat) (change : UInt8 → UInt8) (streams : Streams) :
    modify change (tape.extend extra) streams = (modify change tape streams).extend extra := by
  obtain ⟨value, current⟩ := sound.current?_eq_some
  simp only [modify, Tape.current?_extend sound, current, Tape.put_extend sound]
  rfl

theorem store_extend
    (sound : tape.Sound size) (extra : Nat) (value : Option UInt8) (streams : Streams) :
    store value (tape.extend extra) streams = (store value tape streams).extend extra := by
  cases value with
  | none => rfl
  | some value => exact modify_extend sound extra _ streams

theorem moveRight_extend
    (room : tape.pointer + 1 < size ∨ extra = 0) (streams : Streams) :
    (machine.sized (size + extra)).moveRight (tape.extend extra) streams =
      ((machine.sized size).moveRight tape streams).extend extra := by
  unfold moveRight
  by_cases last : (machine.sized size).size - 1 ≤ tape.pointer
  · have last' : (machine.sized (size + extra)).size - 1 ≤ (tape.extend extra).pointer := by
      simp only [size_sized, Tape.pointer_extend] at last ⊢
      omega
    rw [if_pos last, if_pos last']
    rfl
  · have before : ¬ (machine.sized (size + extra)).size - 1 ≤ (tape.extend extra).pointer := by
      simp only [size_sized, Tape.pointer_extend] at last ⊢
      omega
    rw [if_neg last, if_neg before]
    rfl

theorem moveLeft_extend (extra : Nat) (tape : Tape) (streams : Streams) :
    moveLeft (tape.extend extra) streams = (moveLeft tape streams).extend extra := by
  unfold moveLeft
  by_cases first : tape.pointer = 0
  · have first' : (tape.extend extra).pointer = 0 := first
    rw [if_pos first, if_pos first']
    rfl
  · have behind : (tape.extend extra).pointer ≠ 0 := first
    rw [if_neg first, if_neg behind]
    rfl

theorem write_extend
    (sound : tape.Sound size) (machine : Machine) (extra : Nat) (streams : Streams) :
    (machine.sized (size + extra)).write (tape.extend extra) streams =
      ((machine.sized size).write tape streams).extend extra := by
  obtain ⟨value, current⟩ := sound.current?_eq_some
  simp only [write, Tape.current?_extend sound, current, sized]
  rcases streams.write machine.schedule value with ⟨⟨reason | reason⟩ | _, streams'⟩ <;> rfl

theorem read_extend
    (sound : tape.Sound size) (machine : Machine) (extra : Nat) (streams : Streams) :
    (machine.sized (size + extra)).read (tape.extend extra) streams =
      ((machine.sized size).read tape streams).extend extra := by
  have fetches : (machine.sized (size + extra)).fetch = (machine.sized size).fetch := rfl
  simp only [read, fetches]
  dsimp only [sized]
  rcases (streams.ask machine.options.prompt).flush machine.schedule with ⟨reason | _, streams'⟩
  · rfl
  · dsimp only
    rcases fetch _ streams' with ⟨⟨reason | reason⟩ | byte, streams''⟩
    · rfl
    · rfl
    · exact store_extend sound extra _ streams''

theorem effect_extend
    (sound : tape.Sound size) {command : Option Command}
    (suffices' : command = some .right → tape.pointer + 1 < size ∨ extra = 0) (streams : Streams) :
    (machine.sized (size + extra)).effect command (tape.extend extra) streams =
      ((machine.sized size).effect command tape streams).extend extra := by
  unfold effect
  split
  · exact moveRight_extend (suffices' rfl) streams
  · exact moveLeft_extend extra tape streams
  · exact modify_extend sound extra _ streams
  · exact modify_extend sound extra _ streams
  · exact write_extend sound machine extra streams
  · exact read_extend sound machine extra streams
  · rfl

end Effects

section Steps

private theorem enterLoop_extend (sound : state.tape.Sound size) (machine : Machine) (extra : Nat) :
    (machine.sized (size + extra)).enterLoop (state.extend extra) =
      ((machine.sized size).enterLoop state).extend (size + extra) extra := by
  obtain ⟨value, current⟩ := sound.current?_eq_some
  have extended : (state.extend extra).tape.current? = some value :=
    (Tape.current?_extend sound extra).trans current
  simp only [enterLoop, current, extended]
  by_cases zero : value = 0
  · rw [if_pos zero, if_pos zero]
    have scans : closing? (machine.sized (size + extra)).program ((state.extend extra).index + 1) =
        closing? (machine.sized size).program (state.index + 1) := rfl
    rw [scans]
    cases closing? (machine.sized size).program (state.index + 1) <;> rfl
  · rw [if_neg zero, if_neg zero]
    rfl

private theorem repeatLoop_extend (sound : state.tape.Sound size) (machine : Machine)
    (extra : Nat) :
    (machine.sized (size + extra)).repeatLoop (state.extend extra) =
      ((machine.sized size).repeatLoop state).extend (size + extra) extra := by
  obtain ⟨value, current⟩ := sound.current?_eq_some
  have extended : (state.extend extra).tape.current? = some value :=
    (Tape.current?_extend sound extra).trans current
  have openings : (state.extend extra).loops = state.loops := rfl
  simp only [repeatLoop, current, extended, openings]
  cases state.loops with
  | nil => rfl
  | cons start outer =>
      by_cases zero : value = 0
      · simp only [if_pos zero]
        rfl
      · simp only [if_neg zero]
        rfl

private theorem resume_extend
    {index steps : Nat} {loops : List Nat} (machine : Machine) (size extra : Nat) {effect : Effect}
    (plain : effect.Atomic tape streams) :
    (machine.sized (size + extra)).resume index loops steps (effect.extend extra) =
      ((machine.sized size).resume index loops steps effect).extend (size + extra) extra := by
  cases effect with
  | done tape streams => rfl
  | strayed tape streams => rfl
  | failed failure tape' streams' =>
      have unsized := plain.2.resize_eq (size + extra : Nat)
      simp only [Effect.extend, resume, Step.extend, unsized]
      rfl

/-- Every instruction does on the longer tape what it does on the shorter one, as
long as that one is long enough. -/
theorem step_extend
    (sound : state.tape.Sound size) (room : Suffices machine size extra state) :
    (machine.sized (size + extra)).step (state.extend extra) =
      ((machine.sized size).step state).extend (size + extra) extra := by
  cases found : machine.program[state.index]? with
  | none =>
      have ended : (machine.sized (size + extra)).program[(state.extend extra).index]? = none :=
        found
      have ended' : (machine.sized size).program[state.index]? = none := found
      rw [step_of_end ended, step_of_end ended']
      rfl
  | some character =>
      have here : (machine.sized (size + extra)).program[(state.extend extra).index]? =
          some character := found
      have here' : (machine.sized size).program[state.index]? = some character := found
      by_cases isOpen : character = '['
      · subst isOpen
        rw [step_of_open here, step_of_open here']
        exact enterLoop_extend sound machine extra
      · by_cases isClose : character = ']'
        · subst isClose
          rw [step_of_close here, step_of_close here']
          exact repeatLoop_extend sound machine extra
        · have roomHere : Command.ofChar? character = some .right →
              state.tape.pointer + 1 < size ∨ extra = 0 := by
            intro command
            apply room
            rw [found, Command.ofChar?_eq_some_iff.mp command]
            rfl
          have same : (machine.sized (size + extra)).effect (Command.ofChar? character)
              (state.extend extra).tape state.streams = _ :=
            effect_extend sound roomHere state.streams
          rw [step_of_plain here isOpen isClose, step_of_plain here' isOpen isClose]
          exact (congrArg _ same).trans
            (resume_extend machine size extra (effect_atomic _ state.tape state.streams _))

end Steps

section Right

theorem step_of_right
    (found : machine.program[state.index]? = some '>')
    (room : ¬ machine.size - 1 ≤ state.tape.pointer) :
    machine.step state = .next { state with tape := state.tape.moveRight }.advance := by
  have moves : machine.effect (Command.ofChar? '>') state.tape state.streams =
      .done state.tape.moveRight state.streams := if_neg room
  rw [step_of_plain found (by decide) (by decide), moves]
  rfl

theorem step_of_right_at_last
    (found : machine.program[state.index]? = some '>')
    (last : machine.size - 1 ≤ state.tape.pointer) :
    machine.step state = .failed (machine.offTape state) state := by
  have strays : machine.effect (Command.ofChar? '>') state.tape state.streams =
      .strayed state.tape state.streams := if_pos last
  rw [step_of_plain found (by decide) (by decide), strays]
  rfl

theorem Move.pointer_eq_of_right
    (move : Move machine state next) (found : machine.program[state.index]? = some '>') :
    next.tape.pointer = state.tape.pointer + 1 := by
  have stepped := move.step_eq
  by_cases last : machine.size - 1 ≤ state.tape.pointer
  · rw [step_of_right_at_last found last] at stepped
    cases stepped
  · rw [step_of_right found last] at stepped
    cases stepped
    rfl

theorem Move.suffices
    (move : Move machine state next) (inside : next.tape.pointer < size) (extra : Nat) :
    Suffices machine size extra state := by
  intro found
  left
  rw [← move.pointer_eq_of_right found]
  exact inside

/-- On a tape with more cells than the pointer has been at, a run does not stop for
want of a cell. -/
theorem Stops.suffices
    {cause : Option Failure} {left : Streams}
    (stops : Stops (machine.sized (size + extra)) state cause left)
    (inside : state.tape.pointer < size) : Suffices machine size extra state := by
  intro found
  by_contra short
  have room : ¬ (machine.sized (size + extra)).size - 1 ≤ state.tape.pointer := by
    rw [size_sized]
    omega
  have moves : (machine.sized (size + extra)).step state = _ := step_of_right found room
  cases stops with
  | failed stepEq =>
      rw [moves] at stepEq
      cases stepEq
  | ended stepEq =>
      rw [moves] at stepEq
      cases stepEq

end Right

section Runs

theorem initial_extend (size extra : Nat) (streams : Streams) :
    State.initial (size + extra) streams = (State.initial size streams).extend extra := by
  simp only [State.initial, Tape.blank_add]
  rfl

theorem Move.extend
    (move : Move (machine.sized size) state next) (sound : state.tape.Sound size) (extra : Nat) :
    Move (machine.sized (size + extra)) (state.extend extra) (next.extend extra) := by
  have nextSound := (move.tape_bounded (size_sized machine size) sound).1
  have room : Suffices machine size extra state := by
    intro found
    exact move.suffices nextSound.pointer_lt extra found
  apply step_eq_next_iff.mp
  rw [step_extend sound room, move.step_eq]
  rfl

theorem exists_move_of_extended
    (move : Move (machine.sized (size + extra)) (state.extend extra) next)
    (sound : state.tape.Sound size) (room : Suffices machine size extra state) :
    ∃ small, Move (machine.sized size) state small ∧ next = small.extend extra := by
  have stepped := move.step_eq
  rw [step_extend sound room] at stepped
  obtain ⟨small, stepEq, same⟩ := Step.extend_eq_next stepped
  exact ⟨small, step_eq_next_iff.mp stepEq, same⟩

theorem after_extend
    (sound : start.tape.Sound size)
    (arrived : (machine.sized size).after count start = some reached) (extra : Nat) :
    (machine.sized (size + extra)).after count (start.extend extra) =
      some (reached.extend extra) := by
  induction count generalizing start with
  | zero =>
      cases arrived
      rfl
  | succ count ih =>
      obtain ⟨next, move, further⟩ := after_succ_eq_some_iff.mp arrived
      apply after_succ_eq_some_iff.mpr
      refine ⟨next.extend extra, move.extend sound extra, ?_⟩
      apply ih _ further
      exact (move.tape_bounded (size_sized machine size) sound).1

theorem exists_after_of_extended
    {large : State} (sound : start.tape.Sound size)
    (arrived : (machine.sized (size + extra)).after count (start.extend extra) = some large)
    (inside : large.tape.highest < size) :
    ∃ small, (machine.sized size).after count start = some small ∧ large = small.extend extra := by
  induction count generalizing large with
  | zero =>
      cases arrived
      exact ⟨start, rfl, rfl⟩
  | succ count ih =>
      -- The last instruction is split off, as what is known is the state at that end.
      obtain ⟨middle, halfway, move⟩ := exists_move_of_after_succ arrived
      have sized := size_sized machine (size + extra)
      have middleSound := after_tape_sound halfway sized (sound.extend extra)
      have largeSound := (move.tape_bounded sized middleSound).1
      have middleInside := Nat.lt_of_le_of_lt (move.highest_le sized middleSound) inside
      obtain ⟨small, smallArrived, rfl⟩ := ih halfway middleInside
      have pointerInside := Nat.lt_of_le_of_lt largeSound.pointer_le inside
      have smallSound := after_tape_sound smallArrived (size_sized machine size) sound
      have room : Suffices machine size extra small := move.suffices pointerInside extra
      obtain ⟨last, smallMove, rfl⟩ := exists_move_of_extended move smallSound room
      exact ⟨last, after_succ_of_move smallArrived smallMove, rfl⟩

/-- The instruction behind the first `count` ones takes the pointer behind the
first `size` cells, where it has not been before. -/
structure FirstCrossing (machine : Machine) (size : Nat) (start : State) (count : Nat)
    (before : State) : Prop where
  arrived : machine.after count start = some before
  isRight : machine.program[before.index]? = some '>'
  atLast : before.tape.pointer + 1 = size
  crosses : ∃ next, machine.after (count + 1) start = some next ∧ next.tape.pointer = size
  isFirst : ∀ earlier ≤ count, ∀ state, machine.after earlier start = some state →
    state.tape.highest < size

theorem exists_step_across
    {large : State} (arrived : machine.after count start = some large)
    (inside : start.tape.highest < size) (beyond : size ≤ large.tape.highest) :
    ∃ earlier < count, ∃ before next, machine.after earlier start = some before ∧
      Move machine before next ∧ before.tape.highest < size ∧ size ≤ next.tape.highest := by
  induction count generalizing large with
  | zero =>
      cases arrived
      exact absurd inside (Nat.not_lt.mpr beyond)
  | succ count ih =>
      obtain ⟨middle, halfway, move⟩ := exists_move_of_after_succ arrived
      by_cases already : size ≤ middle.tape.highest
      · obtain ⟨earlier, less, crossing⟩ := ih halfway already
        exact ⟨earlier, Nat.lt_succ_of_lt less, crossing⟩
      · refine ⟨count, Nat.lt_succ_self count, middle, large, halfway, move, ?_, beyond⟩
        exact Nat.lt_of_not_le already

/-- Whatever takes the pointer behind the shorter tape is a move to the right from
its last cell. -/
theorem exists_firstCrossing
    {large : State} (sound : start.tape.Sound size)
    (arrived : (machine.sized (size + extra)).after count (start.extend extra) = some large)
    (beyond : size ≤ large.tape.highest) :
    ∃ earlier < count, ∃ small, (machine.sized size).after earlier start = some small ∧
      FirstCrossing (machine.sized (size + extra)) size (start.extend extra) earlier
        (small.extend extra) := by
  obtain ⟨earlier, less, before, next, halfway, move, inside, behind⟩ :=
    exists_step_across arrived sound.highest_lt beyond
  obtain ⟨small, smallArrived, rfl⟩ := exists_after_of_extended sound halfway inside
  have smallSound := after_tape_sound smallArrived (size_sized machine size) sound
  have needsMore : ¬ Suffices machine size extra small := by
    intro room
    obtain ⟨last, smallMove, rfl⟩ := exists_move_of_extended move smallSound room
    have lastSound := (smallMove.tape_bounded (size_sized machine size) smallSound).1
    exact absurd lastSound.highest_lt (Nat.not_lt.mpr behind)
  obtain ⟨isRight, short⟩ := Classical.not_imp.mp needsMore
  have atLast : small.tape.pointer + 1 = size := by
    have pointerInside := smallSound.pointer_lt
    omega
  have crossed : next.tape.pointer = size := (move.pointer_eq_of_right isRight).trans atLast
  refine ⟨earlier, less, small, smallArrived, halfway, isRight, atLast, ?_, ?_⟩
  · exact ⟨next, after_succ_of_move halfway move, crossed⟩
  · intro earlier' bound state arrived'
    apply Nat.lt_of_le_of_lt _ inside
    exact highest_le_of_later halfway arrived' bound (size_sized machine _) (sound.extend extra)

end Runs

section Ends

theorem finish_extend (machine : Machine) (size extra : Nat) (halt : Halt) :
    (machine.sized (size + extra)).finish (halt.extend (size + extra) extra) =
      ((machine.sized size).finish halt).extend (size + extra) extra := by
  obtain ⟨cause, state⟩ := halt
  have flushes : (state.extend extra).streams = state.streams := rfl
  simp only [finish, Halt.extend, flushes]
  dsimp only [sized]
  rcases state.streams.flush machine.schedule with ⟨reason | _, flushed⟩
  · rfl
  · cases cause <;> rfl

theorem Stops.of_extended
    {cause : Option Failure} {left : Streams}
    (stops : Stops (machine.sized (size + extra)) (state.extend extra) cause left)
    (sound : state.tape.Sound size) :
    ∃ cause', Stops (machine.sized size) state cause' left ∧
      cause = cause'.map (Failure.resize (size + extra : Nat)) := by
  have room : Suffices machine size extra state := stops.suffices sound.pointer_lt
  cases stops with
  | failed stepEq =>
      rw [step_extend sound room] at stepEq
      obtain ⟨failure, small, smallEq, rfl, rfl⟩ := Step.extend_eq_failed stepEq
      have blocked : Stops (machine.sized size) state (some failure) small.streams :=
        .failed smallEq
      exact ⟨some failure, blocked, rfl⟩
  | ended stepEq =>
      rw [step_extend sound room] at stepEq
      obtain ⟨small, smallEq, same⟩ := Step.extend_eq_ended stepEq
      obtain ⟨rfl, _⟩ := step_eq_ended_iff.mp smallEq
      exact ⟨none, .ended smallEq, rfl⟩

theorem exists_run_of_extended
    {large : Halt} (nonempty : 1 ≤ size)
    (ran : (machine.sized (size + extra)).run fuel (size + extra) streams = some large)
    (inside : large.state.tape.highest < size) :
    ∃ small, (machine.sized size).run fuel size streams = some small ∧
      large = small.extend (size + extra) extra := by
  obtain ⟨unfinished, executed, rfl⟩ := Option.map_eq_some_iff.mp ran
  rw [initial_extend] at executed
  obtain ⟨count, reached, cause, left, enough, arrived, stops, rfl⟩ :=
    exists_stops_of_execute executed
  rw [finish_state_eq] at inside
  have sound := Tape.sound_blank nonempty
  obtain ⟨small, smallArrived, rfl⟩ := exists_after_of_extended sound arrived inside
  have smallSound := after_tape_sound smallArrived (size_sized machine size) sound
  obtain ⟨cause', smallStops, rfl⟩ := stops.of_extended smallSound
  have smallExecuted := smallStops.execute_eq smallArrived enough
  refine ⟨(machine.sized size).finish ⟨cause', { small with streams := left }⟩, ?_, ?_⟩
  · rw [run, smallExecuted]
    rfl
  · exact finish_extend machine size extra ⟨cause', { small with streams := left }⟩

/-- A run that finds no cell for a move to the right ends in front of it, with what
it has put out until then. -/
structure EndsAtLastCell (machine : Machine) (size extra : Nat) (before : State) (halt : Halt) :
    Prop where
  failure_eq : halt.failure = machine.reported
    (some (.offTape machine.program before.index (size - 1) size)) before.streams
  raises : machine.schedule = .none →
    halt.failure = some (.offTape machine.program before.index (size - 1) size)
  output_eq : halt.state.streams.output = before.streams.output
  state_eq : halt.state.extend extra =
    { before with streams := (before.streams.flush machine.schedule).2 }

theorem exists_endsAtLastCell
    {small : State}
    (arrived : (machine.sized size).after count (.initial size streams) = some small)
    (isRight : machine.program[small.index]? = some '>') (atLast : small.tape.pointer + 1 = size)
    (enough : count < fuel) (extra : Nat) :
    ∃ halt, (machine.sized size).run fuel size streams = some halt ∧
      EndsAtLastCell machine size extra (small.extend extra) halt := by
  have sized := size_sized machine size
  have last : (machine.sized size).size - 1 ≤ small.tape.pointer := by
    rw [sized]
    omega
  have pointer : (small.tape.pointer : Int) = size - 1 := by omega
  have blocked : (machine.sized size).step small = .failed _ small :=
    step_of_right_at_last isRight last
  rw [offTape, sized, pointer] at blocked
  have stops : Stops (machine.sized size) small _ small.streams := .failed blocked
  have leaves := stops.leavesBoundary arrived (reported_some_ne_none _ _ _)
  refine ⟨_, ?_, leaves.failure_eq, ?_, ?_, ?_⟩
  · rw [run, stops.execute_eq arrived enough]
    rfl
  · intro faultless
    exact leaves.failure_eq.trans (reported_of_faultless faultless _ _)
  · rw [leaves.output_eq, ← output_of_after arrived]
    rfl
  · rw [leaves.state_eq]
    rfl

end Ends

/-- How the run on a tape of `size` cells and the run on one of `bigger` cells go
together. -/
structure Comparable (machine : Machine) (size bigger : Nat) (streams : Streams) : Prop where
  lockstep : ∀ count large,
    (machine.sized bigger).after count (.initial bigger streams) = some large →
    large.tape.highest < size →
    ∃ small, (machine.sized size).after count (.initial size streams) = some small ∧
      large = small.extend (bigger - size)
  within : ∀ count small,
    (machine.sized size).after count (.initial size streams) = some small →
    small.tape.highest < size ∧
      (machine.sized bigger).after count (.initial bigger streams) =
        some (small.extend (bigger - size))
  ended : ∀ fuel large,
    (machine.sized bigger).run fuel bigger streams = some large →
    large.state.tape.highest < size →
    ∃ small, (machine.sized size).run fuel size streams = some small ∧
      large = small.extend bigger (bigger - size)
  overrun : ∀ count large,
    (machine.sized bigger).after count (.initial bigger streams) = some large →
    large.tape.pointer = size →
    ∃ earlier < count, ∃ before,
      FirstCrossing (machine.sized bigger) size (.initial bigger streams) earlier before ∧
      ∀ fuel, earlier < fuel →
        ∃ halt, (machine.sized size).run fuel size streams = some halt ∧
          EndsAtLastCell machine size (bigger - size) before halt

/-- The runs on two tapes are the same as long as the cells of the shorter one are
enough.  The first move behind them is where the run on the shorter tape ends. -/
theorem tape_size_independence
    {size bigger : Nat} (nonempty : 1 ≤ size) (fits : size ≤ bigger)
    (machine : Machine) (streams : Streams) : Comparable machine size bigger streams := by
  obtain ⟨extra, rfl⟩ := Nat.exists_eq_add_of_le fits
  have sound := Tape.sound_blank nonempty
  constructor
  · intro count large arrived inside
    rw [initial_extend] at arrived
    rw [Nat.add_sub_cancel_left]
    exact exists_after_of_extended sound arrived inside
  · intro count small arrived
    rw [initial_extend, Nat.add_sub_cancel_left]
    refine ⟨?_, after_extend sound arrived extra⟩
    exact (after_tape_sound arrived (size_sized machine size) sound).highest_lt
  · intro fuel large ran inside
    rw [Nat.add_sub_cancel_left]
    exact exists_run_of_extended nonempty ran inside
  · intro count large arrived atSize
    have largeSound := after_tape_sound arrived (size_sized machine _)
      (Tape.sound_blank (Nat.le_add_right_of_le nonempty))
    have beyond : size ≤ large.tape.highest := atSize ▸ largeSound.pointer_le
    rw [initial_extend] at arrived ⊢
    rw [Nat.add_sub_cancel_left]
    obtain ⟨earlier, less, small, smallArrived, crossing⟩ :=
      exists_firstCrossing sound arrived beyond
    refine ⟨earlier, less, small.extend extra, crossing, ?_⟩
    intro fuel enough
    exact exists_endsAtLastCell smallArrived crossing.isRight crossing.atLast enough extra

/-- Two moves to the right need three cells. -/
theorem tape_size_independence_of_two_cells :
    let machine : Machine := ⟨#['+', '.', '>', '>'], 0, .standard, .none⟩
    let halt : Halt := ⟨some (.offTape machine.program 3 1 2),
      ⟨3, [], 3, ⟨#[1, 0], 1, 1⟩, ⟨[], ⟨0, 0, 1, 1⟩, [.flush, .write 1]⟩⟩⟩
    (machine.sized 2).run 5 2 (.ofInput []) = some halt ∧
      ∃ earlier before,
        FirstCrossing (machine.sized 4) 2 (.initial 4 (.ofInput [])) earlier before ∧
        EndsAtLastCell machine 2 2 before halt := by
  intro machine halt
  have ran : (machine.sized 2).run 5 2 (.ofInput []) = some halt := rfl
  have comparable : Comparable machine 2 4 (.ofInput []) :=
    tape_size_independence (by decide) (by decide) machine (.ofInput [])
  obtain ⟨earlier, less, before, crossing, ends⟩ := comparable.overrun 4 _ rfl rfl
  obtain ⟨halt', ran', ending⟩ := ends 5 (Nat.lt_succ_of_lt less)
  cases ran.symm.trans ran'
  exact ⟨ran, earlier, before, crossing, ending⟩

end Machine

end Brainfuck
