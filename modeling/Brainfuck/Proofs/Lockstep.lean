import Brainfuck.Machine.Reach

/-!
# Runs in lock step

Two step functions run in lock step when related states step to related states,
and stop together, with related failures.  `afterBy_related` and
`executeBy_related` carry this from one step to whole runs, whatever the
relations are.
-/

namespace Brainfuck

variable {failures : Failure → Failure → Prop} {states : State → State → Prop}

/-- Two steps have the same outcome, up to the relations. -/
inductive Step.Related (failures : Failure → Failure → Prop)
    (states : State → State → Prop) : Step → Step → Prop where
  | next {first second : State} :
      states first second → Related failures states (.next first) (.next second)
  | ended {first second : State} :
      states first second → Related failures states (.ended first) (.ended second)
  | failed {failure other : Failure} {first second : State} :
      failures failure other → states first second →
      Related failures states (.failed failure first) (.failed other second)

/-- What is made of related answers is related if it is of those that there
are. -/
theorem rel_map {α β γ δ : Type} {related : α → β → Prop} {related' : γ → δ → Prop}
    {change : α → γ} {change' : β → δ} {first : Option α} {second : Option β}
    (changed : ∀ one other, first = some one → related one other →
      related' (change one) (change' other))
    (answers : Option.Rel related first second) :
    Option.Rel related' (first.map change) (second.map change') := by
  cases answers with
  | none => exact .none
  | some same => exact .some (changed _ _ rfl same)

theorem rel_mono {α β : Type} {related related' : α → β → Prop} {first : Option α}
    {second : Option β} (follows : ∀ one other, related one other → related' one other)
    (answers : Option.Rel related first second) : Option.Rel related' first second := by
  cases answers with
  | none => exact .none
  | some same => exact .some (follows _ _ same)

namespace Machine

/-- Two runs came to the same end, up to the relations. -/
structure Halt.Related (failures : Failure → Failure → Prop)
    (states : State → State → Prop) (first second : Halt) : Prop where
  failure : Option.Rel failures first.failure second.failure
  state : states first.state second.state

variable {step step' : State → Step}

theorem afterBy_related
    (steps : ∀ first second, states first second →
      Step.Related failures states (step first) (step' second))
    (count : Nat) {first second : State} (related : states first second) :
    Option.Rel states (afterBy step count first) (afterBy step' count second) := by
  induction count generalizing first second with
  | zero => exact .some related
  | succ count ih =>
      have outcome := steps first second related
      simp only [afterBy]
      generalize step first = made at outcome
      generalize step' second = made' at outcome
      cases outcome with
      | next related => exact ih related
      | ended related => exact .none
      | failed failures related => exact .none

theorem executeBy_related
    (steps : ∀ first second, states first second →
      Step.Related failures states (step first) (step' second))
    (fuel : Nat) {first second : State} (related : states first second) :
    Option.Rel (Halt.Related failures states)
      (executeBy step fuel first) (executeBy step' fuel second) := by
  induction fuel generalizing first second with
  | zero => exact .none
  | succ fuel ih =>
      have outcome := steps first second related
      simp only [executeBy_succ]
      generalize step first = made at outcome
      generalize step' second = made' at outcome
      cases outcome with
      | next related => exact ih related
      | ended related => exact .some ⟨.none, related⟩
      | failed failures related => exact .some ⟨.some failures, related⟩

end Machine

end Brainfuck
