import Brainfuck.Proofs.RunEnd
import Brainfuck.Proofs.TapeBounds
import Brainfuck.Session

/-!
# The tape of a session

A session whose registers are never set by hand keeps them sound: whatever it
runs, however the runs end and however the streams fail, the next run starts on
a blank tape of the size that was asked for, and stays on it.
-/

namespace Brainfuck

/-- Registers as a run on a tape of `size` cells leaves them. -/
structure Registers.Sound (size : Nat) (registers : Registers) : Prop where
  size_eq : registers.size = size
  cells : registers.memory.size = size
  pointer_nonneg : 0 ≤ registers.pointer
  pointer_le : registers.pointer ≤ registers.maxPointer
  maxPointer_lt : registers.maxPointer < size
  untouched : ∀ place : Nat, registers.maxPointer < place → place < size →
    registers.memory[place]? = some 0

/-- An action that sets no register by hand, except to its first value. -/
def Action.Orderly : Action → Prop
  | .edit .reset | .feed _ | .configure _ | .run _ => True
  | .edit _ => False

namespace Registers

variable {size : Nat} {registers : Registers}

theorem sound_blank (nonempty : 1 ≤ size) : (blank size size).Sound size where
  size_eq := rfl
  cells := Array.size_replicate
  pointer_nonneg := Int.le_refl 0
  pointer_le := Int.le_refl 0
  maxPointer_lt := Int.ofNat_lt.mpr nonempty
  untouched := by
    intro place _ inside
    simp [blank, inside]

theorem length_of_cellCount
    {size bound : Int} {length : Nat} (counted : cellCount size bound = .ok length) :
    length = size.toNat := by
  unfold cellCount at counted
  split at counted
  · cases counted
  · split at counted
    · cases counted
    · split at counted
      · cases counted
        rfl
      · cases counted

theorem eq_blank_of_fresh {size bound : Int} (made : fresh size bound = .ok registers) :
    registers = blank size size.toNat := by
  unfold fresh at made
  cases counted : cellCount size bound with
  | error failure =>
      rw [counted] at made
      cases made
  | ok length =>
      rw [counted, length_of_cellCount counted] at made
      cases made
      rfl

theorem Sound.reset (sound : registers.Sound size) (nonempty : 1 ≤ size) :
    registers.reset.Sound size := by
  unfold Registers.reset
  rw [sound.size_eq, sound.cells]
  exact sound_blank nonempty

end Registers

/-- The registers show the tape of the run. -/
theorem Tape.Sound.ofState {size : Nat} {state : State} (sound : state.tape.Sound size) :
    (Registers.ofState size state).Sound size where
  size_eq := rfl
  cells := sound.cells
  pointer_nonneg := Int.natCast_nonneg _
  pointer_le := Int.ofNat_le.mpr sound.pointer_le
  maxPointer_lt := Int.ofNat_lt.mpr sound.highest_lt
  untouched := by
    intro place beyond inside
    exact sound.untouched place (Int.ofNat_lt.mp beyond) inside

theorem Machine.run_tape_sound
    {machine : Machine} {size fuel : Nat} {streams : Streams} {halt : Machine.Halt}
    (ran : machine.run fuel size streams = some halt) (sized : machine.size = size)
    (nonempty : 1 ≤ size) :
    halt.state.tape.Sound size ∧
      ∀ failure, halt.failure = some failure → ¬ failure.MissesCell := by
  obtain ⟨unfinished, executed, rfl⟩ := Option.map_eq_some_iff.mp ran
  have halts : machine.Halts (.initial size streams) unfinished := ⟨fuel, executed⟩
  obtain ⟨sound, found⟩ := halts.tape_sound sized (Tape.sound_blank nonempty)
  refine ⟨?_, ?_⟩
  · rw [Machine.finish_state_eq]
    exact sound
  · intro failure failed
    rcases (Machine.finished_finish machine unfinished).failure_eq failed with cause | ⟨reason, rfl⟩
    · exact found failure cause
    · exact not_false

namespace Session

theorem registers_of_start
    {size bound : Int} {options : Options} {schedule : FaultSchedule} {input : List UInt8}
    {session : Session}
    (started : Session.start size options schedule input bound = .ok session) :
    session.registers = .blank size size.toNat := by
  unfold Session.start at started
  cases made : Registers.fresh size bound with
  | error failure =>
      rw [made] at started
      cases started
  | ok registers =>
      rw [made, Registers.eq_blank_of_fresh made] at started
      cases started
      rfl

/-- One session comes from another by actions of a kind, whatever they
answer. -/
inductive Comes (Allowed : Action → Prop) (start : Session) : Session → Prop where
  | here : Comes Allowed start start
  | act {session next : Session} {action : Action} {fuel : Nat} {answer : Option Failure} :
      Comes Allowed start session → Allowed action →
      session.act fuel action = some (answer, next) → Comes Allowed start next

def firstState (session : Session) : State :=
  .initial session.registers.memory.size session.streams

/-- What every run of a program in a session keeps to. -/
structure StaysOnTape (size : Nat) (session : Session) (program : Program) : Prop where
  sound : ∀ count state,
    (session.machine program).after count session.firstState = some state →
      state.tape.Sound size
  /-- The highest cell on record is the highest at which the pointer was. -/
  highest : ∀ count state,
    (session.machine program).after count session.firstState = some state →
      IsGreatest ((session.machine program).visited session.firstState count) state.tape.highest
  /-- No instruction of the run looks for a cell where there is none. -/
  found : ∀ count state failure left,
    (session.machine program).after count session.firstState = some state →
      (session.machine program).step state = .failed failure left → ¬ failure.MissesCell
  answer : ∀ fuel failure next,
    session.run fuel program = some (some failure, next) → ¬ failure.MissesCell

variable {size fuel : Nat} {session next : Session}

/-- What every action of a kind keeps holds of every session that comes from it
by such actions. -/
theorem Comes.preserves
    {Allowed : Action → Prop} {start : Session} (Kept : Session → Prop)
    (kept : ∀ session next action fuel answer, Kept session → Allowed action →
      session.act fuel action = some (answer, next) → Kept next)
    (comes : start.Comes Allowed session) (initially : Kept start) : Kept session := by
  induction comes with
  | here => exact initially
  | act _ allowed acted ih => exact kept _ _ _ _ _ ih allowed acted

theorem run_sound
    {program : Program} {answer : Option Failure} (sound : session.registers.Sound size)
    (nonempty : 1 ≤ size) (ran : session.run fuel program = some (answer, next)) :
    next.registers.Sound size ∧ ∀ failure, answer = some failure → ¬ failure.MissesCell := by
  obtain ⟨halt, halted, outcome⟩ := Option.map_eq_some_iff.mp ran
  rw [sound.cells] at halted
  have sized : (session.machine program).size = size := sound.size_eq
  obtain ⟨tapeSound, found⟩ := Machine.run_tape_sound halted sized nonempty
  cases outcome
  refine ⟨?_, found⟩
  dsimp only
  rw [sound.size_eq]
  exact tapeSound.ofState

theorem act_sound
    {action : Action} {answer : Option Failure} (sound : session.registers.Sound size)
    (nonempty : 1 ≤ size) (orderly : action.Orderly)
    (acted : session.act fuel action = some (answer, next)) : next.registers.Sound size := by
  cases action with
  | edit edit =>
      cases edit with
      | reset =>
          cases acted
          exact sound.reset nonempty
      | set | assign | push => exact orderly.elim
  | feed bytes =>
      cases acted
      exact sound
  | configure options =>
      cases acted
      exact sound
  | run program => exact (run_sound sound nonempty acted).1

theorem staysOnTape
    (sound : session.registers.Sound size) (nonempty : 1 ≤ size) (program : Program) :
    session.StaysOnTape size program := by
  have sized : (session.machine program).size = size := sound.size_eq
  have blank : session.firstState.tape.Sound size := by
    unfold firstState
    rw [sound.cells]
    exact Tape.sound_blank nonempty
  constructor
  · intro count state arrived
    exact Machine.after_tape_sound arrived sized blank
  · intro count state arrived
    exact Machine.isGreatest_highest arrived sized blank rfl
  · intro count state failure left arrived failed
    have stuck := Machine.step_eq_failed_iff.mp failed
    exact stuck.not_missesCell sized (Machine.after_tape_sound arrived sized blank)
  · intro fuel failure next ran
    exact (run_sound sound nonempty ran).2 failure rfl

/-- Whatever a session has run, whatever it was fed and told, and wherever its
streams failed, its registers are sound and its next run stays on the tape. -/
theorem runs_stay_on_tape
    (nonempty : 1 ≤ size) (options : Options) (schedule : FaultSchedule) (input : List UInt8)
    {bound : Int} {start : Session}
    (started : Session.start size options schedule input bound = .ok start)
    (comes : start.Comes Action.Orderly session) :
    session.registers.Sound size ∧ ∀ program, session.StaysOnTape size program := by
  have initially : start.registers.Sound size := by
    rw [registers_of_start started]
    exact Registers.sound_blank nonempty
  have sound : session.registers.Sound size :=
    comes.preserves (fun session => session.registers.Sound size)
      (fun _ _ _ _ _ sound orderly acted => act_sound sound nonempty orderly acted) initially
  exact ⟨sound, staysOnTape sound nonempty⟩

/-- The first byte put out is refused.  After that the session is reset, fed and
told to do something else, and its next program runs off the tape. -/
theorem runs_stay_on_tape_after_refused_output :
    let schedule : FaultSchedule := fun call number =>
      if call = .write ∧ number = 0 then some (.device "gone") else none
    let start : Session := ⟨.blank 2 2, .standard, schedule, .ofInput []⟩
    let refused : Session :=
      ⟨⟨2, #[1, 0], 1, [], 2, 1⟩, .standard, schedule,
        ⟨[], ⟨0, 0, 1, 1⟩, [.flush, .failed .write]⟩⟩
    let filling : Options := { Options.standard with eof := .max }
    let prepared : Session :=
      ⟨.blank 2 2, filling, schedule, ⟨[7], ⟨0, 0, 1, 1⟩, [.flush, .failed .write]⟩⟩
    let machine := prepared.machine #[',', '>', '+', '>']
    Session.start 2 .standard schedule [] = .ok start ∧
      start.act 4 (.run #['+', '>', '.']) = some (some (.cannotEmit "gone"), refused) ∧
      start.Comes Action.Orderly prepared ∧
      ∃ state, machine.after 3 prepared.firstState = some state ∧
        state.tape = ⟨#[7, 1], 1, 1⟩ ∧ state.tape.Sound 2 ∧
        IsGreatest (machine.visited prepared.firstState 3) 1 := by
  intro schedule start refused filling prepared machine
  have started : Session.start 2 .standard schedule [] = .ok start := by
    have fresh : Registers.fresh 2 = .ok (.blank 2 2) :=
      Registers.fresh_of_lt (by decide) (by decide) (by decide)
    rw [Session.start, fresh]
    rfl
  have ran : start.act 4 (.run #['+', '>', '.']) = some (some (.cannotEmit "gone"), refused) :=
    rfl
  let cleared : Session := { refused with registers := .blank 2 2 }
  let fed := cleared.feed [7]
  have reset : refused.act 0 (.edit .reset) = some (none, cleared) := rfl
  have feeding : cleared.act 0 (.feed [7]) = some (none, fed) := rfl
  have configuring : fed.act 0 (.configure filling) = some (none, prepared) := rfl
  have comes : start.Comes Action.Orderly prepared :=
    (((Comes.here.act (by trivial) ran).act (by trivial) reset).act (by trivial) feeding).act
      (by trivial) configuring
  have arrived : machine.after 3 prepared.firstState =
      some ⟨3, [], 3, ⟨#[7, 1], 1, 1⟩, _⟩ := rfl
  have stays := (runs_stay_on_tape (by decide) .standard schedule [] started comes).2
    #[',', '>', '+', '>']
  exact ⟨started, ran, comes, _, arrived, rfl, stays.sound 3 _ arrived,
    stays.highest 3 _ arrived⟩

end Session

end Brainfuck
