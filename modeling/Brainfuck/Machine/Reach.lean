import Brainfuck.Machine

/-!
# Runs as sequences of steps

`Machine.after` names the state after a number of completed instructions, and
`Machine.Halts` and `Machine.Diverges` say what becomes of a run in the end.  A
run does exactly one of the two, and the fuel of `Machine.execute` plays no
part in the answer: enough of it finds the halt if there is one.
-/

namespace Brainfuck.Machine

/-- The state after `count` completed steps, if as many can be completed. -/
def afterBy (step : State → Step) : Nat → State → Option State
  | 0, state => some state
  | count + 1, state =>
    match step state with
    | .next state => afterBy step count state
    | _ => none

def after (machine : Machine) : Nat → State → Option State :=
  afterBy machine.step

def Reaches (machine : Machine) (start reached : State) : Prop :=
  ∃ count, machine.after count start = some reached

def Halts (machine : Machine) (start : State) (halt : Halt) : Prop :=
  ∃ fuel, machine.execute fuel start = some halt

def Diverges (machine : Machine) (start : State) : Prop :=
  ∀ count, ∃ reached, machine.after count start = some reached

variable {machine : Machine}

@[simp]
theorem after_zero (machine : Machine) (state : State) :
    machine.after 0 state = some state := rfl

theorem after_succ (machine : Machine) (count : Nat) (state : State) :
    machine.after (count + 1) state =
      match machine.step state with
      | .next state => machine.after count state
      | _ => none := rfl

theorem after_add (first second : Nat) (start : State) :
    machine.after (first + second) start =
      (machine.after first start).bind (machine.after second) := by
  induction first generalizing start with
  | zero => simp
  | succ first ih =>
    rw [Nat.succ_add]
    simp only [after_succ]
    split
    · exact ih _
    · rfl

theorem after_trans {first second : Nat} {start middle reached : State}
    (halfway : machine.after first start = some middle)
    (further : machine.after second middle = some reached) :
    machine.after (first + second) start = some reached := by
  rw [after_add, halfway]
  exact further

theorem exists_after_of_le {less count : Nat} {start reached : State}
    (bound : less ≤ count) (arrived : machine.after count start = some reached) :
    ∃ middle, machine.after less start = some middle := by
  obtain ⟨more, rfl⟩ := Nat.exists_eq_add_of_le bound
  rw [after_add] at arrived
  obtain ⟨middle, halfway, _⟩ := Option.bind_eq_some_iff.mp arrived
  exact ⟨middle, halfway⟩

theorem execute_of_after {count : Nat} {start reached : State}
    (arrived : machine.after count start = some reached) (fuel : Nat) :
    machine.execute (count + fuel) start = machine.execute fuel reached := by
  induction count generalizing start with
  | zero =>
    cases arrived
    rw [Nat.zero_add]
  | succ count ih =>
    rw [Nat.succ_add]
    simp only [after_succ] at arrived
    simp only [execute_succ]
    split at arrived
    · next state stepEq =>
      rw [stepEq]
      exact ih arrived
    · cases arrived

/-- Fuel for the completed instructions alone does not last to the end. -/
theorem execute_of_after_eq_none {count : Nat} {start reached : State}
    (arrived : machine.after count start = some reached) :
    machine.execute count start = none := by
  have spent := execute_of_after arrived 0
  rwa [Nat.add_zero, execute_zero] at spent

/-- A run halts at the end of some number of completed instructions. -/
theorem after_of_execute {fuel : Nat} {start : State} {halt : Halt}
    (halts : machine.execute fuel start = some halt) :
    ∃ count reached, machine.after count start = some reached ∧
      machine.execute 1 reached = some halt := by
  induction fuel generalizing start with
  | zero => cases halts
  | succ fuel ih =>
    simp only [execute_succ] at halts
    split at halts
    · next state stepEq =>
      obtain ⟨count, reached, arrived, last⟩ := ih halts
      exact ⟨count + 1, reached, by simp [after_succ, stepEq, arrived], last⟩
    · next state stepEq =>
      exact ⟨0, start, rfl, by simp [execute_succ, stepEq, halts]⟩
    · next failure state stepEq =>
      exact ⟨0, start, rfl, by simp [execute_succ, stepEq, halts]⟩

/-- Where a run halts does not depend on the fuel. -/
theorem Halts.unique {start : State} {first second : Halt}
    (one : machine.Halts start first) (other : machine.Halts start second) :
    first = second := by
  obtain ⟨fuel, halted⟩ := one
  obtain ⟨fuel', halted'⟩ := other
  have more := execute_add halted fuel'
  have more' := execute_add halted' fuel
  rw [Nat.add_comm] at more'
  rw [more] at more'
  exact Option.some.inj more'

theorem Diverges.not_halts {start : State} (diverges : machine.Diverges start)
    (halt : Halt) : ¬ machine.Halts start halt := by
  rintro ⟨fuel, halted⟩
  obtain ⟨count, reached, arrived, last⟩ := after_of_execute halted
  obtain ⟨further, beyond⟩ := diverges (count + 1)
  rw [after_add, arrived, Option.bind_some] at beyond
  simp only [after_succ] at beyond
  split at beyond
  · next state stepEq => simp [execute_succ, stepEq] at last
  · cases beyond

theorem halts_or_diverges (machine : Machine) (start : State) :
    (∃ halt, machine.Halts start halt) ∨ machine.Diverges start := by
  by_cases diverges : machine.Diverges start
  · exact .inr diverges
  · left
    obtain ⟨count, stuck⟩ := Classical.not_forall.mp diverges
    induction count with
    | zero => exact absurd ⟨start, rfl⟩ stuck
    | succ count ih =>
      by_cases gotThere : ∃ reached, machine.after count start = some reached
      · obtain ⟨reached, arrived⟩ := gotThere
        match stepEq : machine.step reached with
        | .next state =>
          exact absurd ⟨state, by rw [after_add, arrived]; simp [after_succ, stepEq]⟩ stuck
        | .ended state =>
          exact ⟨⟨none, state⟩, count + 1, by
            rw [execute_of_after arrived]; simp [execute_succ, stepEq]⟩
        | .failed failure state =>
          exact ⟨⟨some failure, state⟩, count + 1, by
            rw [execute_of_after arrived]; simp [execute_succ, stepEq]⟩
      · exact ih gotThere

end Brainfuck.Machine
