import Brainfuck.Proofs.LoopStack
import Brainfuck.Proofs.RunEnd

/-!
# The cell behind a bracket

A run comes to the place behind a bracket in several ways: from the bracket itself,
by a skip from the other bracket of its loop, or by a jump back from there.  In each
of them the current cell was tested, and always with the same answer: behind a
closing bracket it is zero, and at the start of a loop's body it is not.
-/

namespace Brainfuck.Machine

/-- What the bracket in front of a state says about the current cell. -/
structure Tested (machine : Machine) (state : State) : Prop where
  behindClose : ∀ position, machine.program[position]? = some ']' →
    state.index = position + 1 → state.tape.current? = some 0
  behindOpen : ∀ position, machine.program[position]? = some '[' →
    state.index = position + 1 → ∃ value, state.tape.current? = some value ∧ value ≠ 0

/-- No loop was entered directly behind a closing bracket. -/
def NoneBehindClose (machine : Machine) (loops : List Nat) : Prop :=
  ∀ position, machine.program[position]? = some ']' → position + 1 ∉ loops

variable {machine : Machine} {state next : State} {halt : Halt} {length : Nat}
  {streams : Streams}

private theorem tested_of_close
    {position : Nat} (found : machine.program[position]? = some ']')
    (behind : state.index = position + 1) (zero : state.tape.current? = some 0) :
    Tested machine state where
  behindClose := fun _ _ _ => zero
  behindOpen := by
    intro other isOpen here
    have same : other = position := by omega
    rw [same, found] at isOpen
    cases isOpen

private theorem tested_of_open
    {position : Nat} {value : UInt8} (found : machine.program[position]? = some '[')
    (behind : state.index = position + 1) (current : state.tape.current? = some value)
    (nonzero : value ≠ 0) : Tested machine state where
  behindClose := by
    intro other isClose here
    have same : other = position := by omega
    rw [same, found] at isClose
    cases isClose
  behindOpen := fun _ _ _ => ⟨value, current, nonzero⟩

/-- An instruction that ends behind a bracket has tested the cell, whichever bracket
it was itself. -/
theorem Nested.tested (nested : Nested machine state) (move : Move machine state next) :
    Tested machine next := by
  cases move with
  | @plain character tape streams found notOpen notClose _ =>
      have noBracket : ∀ bracket position, machine.program[position]? = some bracket →
          state.index + 1 = position + 1 → bracket = character := by
        intro bracket position isBracket here
        rw [← Nat.succ.inj here, found] at isBracket
        exact (Option.some.inj isBracket).symm
      constructor
      · intro position isClose here
        exact absurd (noBracket _ position isClose here).symm notClose
      · intro position isOpen here
        exact absurd (noBracket _ position isOpen here).symm notOpen
  | @skip stop found zero closing =>
      have partners := (closing?_eq_some_iff found).mp closing
      have closes : machine.program[stop]? = some ']' := by
        simpa using partners.getElem?_stop
      exact tested_of_close closes rfl zero
  | enter found current nonzero => exact tested_of_open found rfl current nonzero
  | @again _ start _ _ loops current nonzero =>
      have opens := nested.opens start (by simp [loops])
      exact tested_of_open opens rfl current nonzero
  | leave found _ zero => exact tested_of_close found rfl zero

theorem NoneBehindClose.move
    (noneBehind : NoneBehindClose machine state.loops) (tested : Tested machine state)
    (move : Move machine state next) : NoneBehindClose machine next.loops := by
  cases move with
  | plain | skip | again => exact noneBehind
  | enter found current nonzero =>
      intro position isClose member
      rcases List.mem_cons.mp member with here | before
      · have zero := tested.behindClose position isClose here.symm
        rw [current] at zero
        exact nonzero (Option.some.inj zero)
      · exact noneBehind position isClose before
  | leave _ loops _ =>
      intro position isClose member
      apply noneBehind position isClose
      rw [loops]
      exact List.mem_cons_of_mem _ member

theorem Reaches.tested (reached : machine.Reaches (.initial length streams) state) :
    Tested machine state := by
  obtain ⟨count, arrived⟩ := reached
  cases count with
  | zero =>
      cases arrived
      constructor
      · intro position _ here
        cases here
      · intro position _ here
        cases here
  | succ count =>
      obtain ⟨middle, halfway, move⟩ := exists_move_of_after_succ arrived
      have nested := Reaches.nested ⟨count, halfway⟩
      exact nested.tested move

theorem Reaches.noneBehindClose (reached : machine.Reaches (.initial length streams) state) :
    NoneBehindClose machine state.loops := by
  obtain ⟨count, arrived⟩ := reached
  induction count generalizing state with
  | zero =>
      cases arrived
      exact fun _ _ => List.not_mem_nil
  | succ count ih =>
      obtain ⟨middle, halfway, move⟩ := exists_move_of_after_succ arrived
      have tested := Reaches.tested ⟨count, halfway⟩
      exact (ih halfway).move tested move

/-- A run that goes behind the last instruction stands directly behind it. -/
theorem Reaches.index_eq_size
    (reached : machine.Reaches (.initial length streams) state)
    (ended : machine.program[state.index]? = none) : state.index = machine.program.size := by
  have beyond : machine.program.size ≤ state.index := Array.getElem?_eq_none_iff.mp ended
  obtain ⟨count, arrived⟩ := reached
  cases count with
  | zero =>
      cases arrived
      exact (Nat.le_zero.mp beyond).symm
  | succ count =>
      obtain ⟨middle, halfway, move⟩ := exists_move_of_after_succ arrived
      have nested := Reaches.nested ⟨count, halfway⟩
      exact Nat.le_antisymm (nested.index_le move) beyond

theorem EndOfRun.current?_eq_zero
    (ends : EndOfRun machine (.initial length streams) halt) (ended : halt.failure = none)
    (closes : machine.program.back? = some ']') : halt.state.tape.current? = some 0 := by
  cases ends with
  | @ended reached arrived beyond =>
      have index := arrived.index_eq_size beyond
      rw [Array.back?_eq_getElem?] at closes
      have nonempty := (Array.getElem?_eq_some_iff.mp closes).1
      rw [finish_state_eq]
      exact arrived.tested.behindClose _ closes (by omega)
  | failed _ _ =>
      have cause := (finished_finish machine _).failure_eq_none ended
      cases cause

/-- Where a run stands tells whether the current cell is zero, if a bracket is in
front of that place.  So a loop directly behind another one is never entered, and a
run that ends behind a loop ends at a cell that is zero. -/
theorem bracket_in_front_decides_cell
    (machine : Machine) (length : Nat) (streams : Streams) :
    (∀ state, machine.Reaches (.initial length streams) state →
      Tested machine state ∧ NoneBehindClose machine state.loops) ∧
    ∀ fuel halt, machine.run fuel length streams = some halt → halt.failure = none →
      machine.program.back? = some ']' → halt.state.tape.current? = some 0 := by
  constructor
  · intro state reached
    exact ⟨reached.tested, reached.noneBehindClose⟩
  · intro fuel halt halted ended closes
    exact (endOfRun_of_run halted).current?_eq_zero ended closes

/-- A loop is run twice, and the one directly behind it is skipped. -/
theorem bracket_in_front_decides_cell_behind_countdown :
    let machine : Machine := ⟨#['+', '+', '[', '-', ']', '[', '.', ']'], 1, .standard, .none⟩
    let start : State := .initial 1 (.ofInput [])
    machine.Reaches start ⟨3, [2], 5, ⟨#[1], 0, 0⟩, .ofInput []⟩ ∧
      (∃ value, (Tape.mk #[1] 0 0).current? = some value ∧ value ≠ 0) ∧
      machine.Reaches start ⟨5, [], 7, ⟨#[0], 0, 0⟩, .ofInput []⟩ ∧
      (Tape.mk #[0] 0 0).current? = some 0 ∧
      ∃ halt, machine.run 9 1 (.ofInput []) = some halt ∧ halt.failure = none ∧
        halt.state.index = 8 ∧ halt.state.tape.current? = some 0 := by
  intro machine start
  have again : machine.Reaches start ⟨3, [2], 5, ⟨#[1], 0, 0⟩, .ofInput []⟩ := ⟨5, rfl⟩
  have behind : machine.Reaches start ⟨5, [], 7, ⟨#[0], 0, 0⟩, .ofInput []⟩ := ⟨7, rfl⟩
  have decided := bracket_in_front_decides_cell machine 1 (.ofInput [])
  have halted : ∃ halt, machine.run 9 1 (.ofInput []) = some halt ∧ halt.failure = none ∧
      halt.state.index = 8 := ⟨_, rfl, rfl, rfl⟩
  obtain ⟨halt, ran, ended, index⟩ := halted
  exact ⟨again, (decided.1 _ again).1.behindOpen 2 rfl rfl,
    behind, (decided.1 _ behind).1.behindClose 4 rfl rfl,
    halt, ran, ended, index, decided.2 9 halt ran ended rfl⟩

end Brainfuck.Machine
