import Brainfuck.Proofs.SessionTape
import Brainfuck.Proofs.StandardRun

/-!
# Sessions that are used again

A session keeps its registers between two runs, and they can be set by hand, but a
run clears them all and reads only the size and the number of the cells.  These stay
what they were as long as nobody assigns the size.  So as long as no call fails, a
run goes the way in which it goes on a new machine that gets what is left of the
input.
-/

namespace Brainfuck

/-- An action that does not assign the size of the tape. -/
def Action.KeepsSize : Action → Prop
  | .edit (.assign .size _) => False
  | _ => True

/-- Registers with `size` cells, and said to have them. -/
structure Registers.Sized (size : Nat) (registers : Registers) : Prop where
  size_eq : registers.size = size
  cells : registers.memory.size = size

namespace Registers

variable {size : Nat} {registers : Registers}

theorem sized_blank (size : Nat) : (blank size size).Sized size where
  size_eq := rfl
  cells := Array.size_replicate

theorem Sized.reset_eq (sized : registers.Sized size) : registers.reset = blank size size := by
  rw [reset, sized.size_eq, sized.cells]

theorem Sized.apply
    {edit : Edit} {changed : Registers} (sized : registers.Sized size)
    (keeps : (Action.edit edit).KeepsSize) (applied : registers.apply edit = .ok changed) :
    changed.Sized size := by
  cases edit with
  | set index value =>
      simp only [Registers.apply, setCell] at applied
      split at applied
      · cases applied
        exact ⟨sized.size_eq, Array.size_setIfInBounds.trans sized.cells⟩
      · cases applied
  | assign field value =>
      cases applied
      cases field with
      | size => exact keeps.elim
      | pointer | steps | maxPointer => exact ⟨sized.size_eq, sized.cells⟩
  | push position =>
      cases applied
      exact ⟨sized.size_eq, sized.cells⟩
  | reset =>
      cases applied
      rw [sized.reset_eq]
      exact sized_blank size

end Registers

theorem Machine.Halt.Related.failure_eq
    {states : State → State → Prop} {first second : Halt}
    (related : Related Eq states first second) : first.failure = second.failure := by
  obtain ⟨failure, _⟩ := first
  obtain ⟨failure', _⟩ := second
  obtain ⟨failures, _⟩ := related
  cases failures with
  | none => rfl
  | some same => rw [same]

namespace Session

/-- A run in one session went as the same run in another: the answers, the registers
and the input left are the same, and what happened in the first, its output, prompts
and log among it, comes after what had happened there before. -/
structure SameRun (before : Session) (first second : Option Failure × Session) : Prop where
  answer_eq : first.1 = second.1
  registers_eq : first.2.registers = second.2.registers
  input_eq : first.2.streams.input = second.2.streams.input
  events_eq : first.2.streams.events = before.streams.events ++ second.2.streams.events

variable {size fuel : Nat} {session next : Session}

theorem sized_of_run
    {program : Program} {answer : Option Failure} (sized : session.registers.Sized size)
    (nonempty : 1 ≤ size) (ran : session.run fuel program = some (answer, next)) :
    next.registers.Sized size := by
  obtain ⟨halt, halted, outcome⟩ := Option.map_eq_some_iff.mp ran
  rw [sized.cells] at halted
  have sound := (Machine.run_tape_sound halted sized.size_eq nonempty).1
  cases outcome
  exact ⟨sized.size_eq, sound.cells⟩

theorem sized_of_act
    {action : Action} {answer : Option Failure} (sized : session.registers.Sized size)
    (nonempty : 1 ≤ size) (keeps : action.KeepsSize)
    (acted : session.act fuel action = some (answer, next)) : next.registers.Sized size := by
  cases action with
  | edit edit =>
      simp only [Session.act] at acted
      split at acted
      · next changed applied =>
          cases acted
          exact sized.apply keeps applied
      · cases acted
        exact sized
  | feed bytes | configure options =>
      cases acted
      exact sized
  | run program => exact sized_of_run sized nonempty acted

theorem schedule_of_act
    {action : Action} {answer : Option Failure}
    (acted : session.act fuel action = some (answer, next)) :
    next.schedule = session.schedule := by
  cases action with
  | edit edit =>
      simp only [Session.act] at acted
      split at acted <;> cases acted <;> rfl
  | feed bytes | configure options =>
      cases acted
      rfl
  | run program =>
      obtain ⟨halt, _, outcome⟩ := Option.map_eq_some_iff.mp acted
      cases outcome
      rfl

/-- What a run needs of the session to go as it would in a new one. -/
structure Ready (size : Nat) (session : Session) : Prop where
  sized : session.registers.Sized size
  faultless : session.schedule = .none

theorem Ready.of_comes
    {start : Session} (ready : start.Ready size) (nonempty : 1 ≤ size)
    (comes : start.Comes Action.KeepsSize session) : session.Ready size := by
  apply comes.preserves (fun session => session.Ready size) _ ready
  intro session next action fuel answer ready keeps acted
  exact ⟨sized_of_act ready.sized nonempty keeps acted,
    (schedule_of_act acted).trans ready.faultless⟩

theorem Ready.run_same
    (ready : session.Ready size) (program : Program) (fuel : Nat) :
    Option.Rel (SameRun session) (session.run fuel program)
      (Session.run ⟨.blank size size, session.options, .none, .ofInput session.streams.input⟩
        fuel program) := by
  let fresh : Session :=
    ⟨.blank size size, session.options, .none, .ofInput session.streams.input⟩
  have sameMachine : fresh.machine program = session.machine program := by
    simp only [machine, fresh, Registers.blank, ready.sized.size_eq, ready.faultless]
  have cells : fresh.registers.memory.size = size := Array.size_replicate
  have faultless : (session.machine program).schedule = .none := ready.faultless
  have inputs : session.streams.input = fresh.streams.input := rfl
  have runs := Machine.run_same faultless inputs fuel size
  change Option.Rel _ _ (fresh.run fuel program)
  unfold Session.run
  rw [sameMachine, cells, ready.sized.cells]
  refine rel_map ?_ runs
  intro halt halt' _ same
  obtain ⟨since, events, events'⟩ := same.state.streams.events_eq
  refine ⟨same.failure_eq, ?_, same.state.streams.input_eq, ?_⟩
  · have loops := same.state.loops_eq
    have steps := same.state.steps_eq
    have tape := same.state.tape_eq
    have sizes : session.registers.size = fresh.registers.size := ready.sized.size_eq
    simp only [Registers.ofState, loops, steps, tape, sizes]
  · dsimp only
    rw [events, events']
    rfl

theorem start_eq_ok_iff
    {size bound : Int} {options : Options} {schedule : FaultSchedule} {input : List UInt8} :
    Session.start size options schedule input bound = .ok session ↔
      ∃ registers, Registers.fresh size bound = .ok registers ∧
        session = ⟨registers, options, schedule, .ofInput input⟩ := by
  unfold Session.start
  cases Registers.fresh size bound with
  | error failure => simp [Except.map]
  | ok registers => simp [Except.map, eq_comm]

/-- Whatever a session has run, however the runs ended, and whatever was set, pushed,
fed and configured in between, it runs every program as a new session does that has
its options and gets what is left of its input.  The registers in which the run starts
are those of the new session, and a reset by hand makes the same ones. -/
theorem runs_are_independent
    (nonempty : 1 ≤ size) (options : Options) (input : List UInt8) {bound : Int}
    {start : Session} (started : Session.start size options .none input bound = .ok start)
    (comes : start.Comes Action.KeepsSize session) :
    ∃ fresh,
      Session.start size session.options .none session.streams.input bound = .ok fresh ∧
      Registers.ofState session.registers.size session.firstState = fresh.registers ∧
      session.registers.reset = fresh.registers ∧
      ∀ program fuel,
        Option.Rel (SameRun session) (session.run fuel program) (fresh.run fuel program) := by
  obtain ⟨registers, made, rfl⟩ := start_eq_ok_iff.mp started
  have blank : registers = .blank size size := Registers.eq_blank_of_fresh made
  subst blank
  have ready : session.Ready size :=
    Ready.of_comes ⟨Registers.sized_blank size, rfl⟩ nonempty comes
  refine ⟨_, start_eq_ok_iff.mpr ⟨_, made, rfl⟩, ?_, ready.sized.reset_eq, ready.run_same⟩
  unfold firstState
  rw [ready.sized.cells, ready.sized.size_eq]
  rfl

/-- One run leaves a loop open and the next one strays from the tape; then a cell, the
pointer and the open loops are set by hand.  The run after that finds a cell of zeros,
no open loop, and the byte that was fed. -/
theorem runs_are_independent_after_open_loop :
    let asking : Options := { eof := .max, inputMode := .byte, prompt := some "?" }
    let program : Program := #['>', '[', ']', '<', ',', '.', ']']
    let start : Session := ⟨.blank 2 2, .standard, .none, .ofInput [5]⟩
    let ended : Session :=
      ⟨⟨2, #[1, 0], 0, [1], 2, 0⟩, .standard, .none,
        ⟨[5], ⟨0, 0, 0, 1⟩, [.log (.finished 2 0), .log (.openLoops 1), .flush]⟩⟩
    let strayed : Session :=
      ⟨⟨2, #[5, 0], 0, [], 1, 0⟩, .standard, .none,
        ⟨[], ⟨1, 0, 0, 3⟩, [.flush, .read (some 5), .flush] ++ ended.streams.history⟩⟩
    let prepared : Session :=
      { strayed.feed [9] with registers := ⟨2, #[5, 255], 7, [3], 1, 0⟩, options := asking }
    Session.start 2 .standard .none [5] = .ok start ∧
      start.act 3 (.run #['+', '[']) = some (none, ended) ∧
      ended.act 2 (.run #[',', '<']) =
        some (some (.offTape #[',', '<'] 1 0 2), strayed) ∧
      start.Comes Action.KeepsSize prepared ∧
      ∃ fresh next, Session.start 2 asking .none [9] = .ok fresh ∧
        Option.Rel (SameRun prepared) (prepared.run 7 program) (fresh.run 7 program) ∧
        prepared.run 7 program = some (some (.badBracket "Unmatched ']'" program 6), next) ∧
        next.registers = ⟨2, #[9, 0], 0, [], 5, 1⟩ ∧ next.streams.output = [9] := by
  intro asking program start ended strayed prepared
  have started : Session.start 2 .standard .none [5] = .ok start :=
    start_eq_ok_iff.mpr ⟨_, Registers.fresh_of_lt (by decide) (by decide) (by decide), rfl⟩
  have leavesOpen : start.act 3 (.run #['+', '[']) = some (none, ended) := rfl
  have strays : ended.act 2 (.run #[',', '<']) =
      some (some (.offTape #[',', '<'] 1 0 2), strayed) := rfl
  let written : Session := { strayed with registers := ⟨2, #[5, 255], 0, [], 1, 0⟩ }
  let assigned : Session := { strayed with registers := ⟨2, #[5, 255], 7, [], 1, 0⟩ }
  let pushed : Session := { strayed with registers := ⟨2, #[5, 255], 7, [3], 1, 0⟩ }
  have sets : strayed.act 0 (.edit (.set (-1) 255)) = some (none, written) := rfl
  have assigns : written.act 0 (.edit (.assign .pointer 7)) = some (none, assigned) := rfl
  have pushes : assigned.act 0 (.edit (.push 3)) = some (none, pushed) := rfl
  have feeds : pushed.act 0 (.feed [9]) = some (none, pushed.feed [9]) := rfl
  have configures : (pushed.feed [9]).act 0 (.configure asking) = some (none, prepared) := rfl
  have comes : start.Comes Action.KeepsSize prepared :=
    ((((((Comes.here.act (by trivial) leavesOpen).act (by trivial) strays).act (by trivial)
      sets).act (by trivial) assigns).act (by trivial) pushes).act (by trivial) feeds).act
      (by trivial) configures
  obtain ⟨fresh, again, _, _, same⟩ :=
    runs_are_independent (by decide) .standard [5] started comes
  exact ⟨started, leavesOpen, strays, comes, fresh, _, again, same program 7, rfl, rfl, rfl⟩

end Session

end Brainfuck
