import Mathlib.Order.Bounds.Basic
import Brainfuck.Proofs.Step

/-!
# The pointer stays on the tape

Only the two moves compare the pointer with the ends of the tape; every other
instruction looks a cell up without asking.  `Tape.Sound` is what makes that
safe: the pointer is never above the highest cell so far, which is on the tape,
and the cells above that one are still zero.  Every completed instruction keeps
it, so that no run looks for a cell where there is none.
-/

namespace Brainfuck

/-- A tape with `size` cells on which the pointer has been nowhere above
`highest`. -/
structure Tape.Sound (size : Nat) (tape : Tape) : Prop where
  cells : tape.cells.size = size
  pointer_le : tape.pointer ≤ tape.highest
  highest_lt : tape.highest < size
  untouched : ∀ place, tape.highest < place → place < size → tape.cells[place]? = some 0

def Failure.MissesCell : Failure → Prop
  | .noSuchCell _ _ => True
  | _ => False

/-- An effect that is completed leaves a sound tape, which remembers where its
pointer is; one that is not completed did not miss a cell. -/
def Effect.Bounded (size : Nat) (tape : Tape) : Effect → Prop
  | .done tape' _ => tape'.Sound size ∧ tape'.highest = max tape.highest tape'.pointer
  | .strayed _ _ => True
  | .failed failure _ _ => ¬ failure.MissesCell

namespace Tape

variable {size : Nat} {tape : Tape}

theorem sound_blank (nonempty : 1 ≤ size) : (blank size).Sound size where
  cells := Array.size_replicate
  pointer_le := Nat.le_refl 0
  highest_lt := nonempty
  untouched := by
    intro place _ inside
    simp [blank, inside]

namespace Sound

theorem pointer_lt (sound : tape.Sound size) : tape.pointer < size :=
  Nat.lt_of_le_of_lt sound.pointer_le sound.highest_lt

theorem current?_eq_some (sound : tape.Sound size) : ∃ value, tape.current? = some value := by
  have inside : tape.pointer < tape.cells.size := sound.cells.symm ▸ sound.pointer_lt
  exact ⟨_, Array.getElem?_eq_getElem inside⟩

theorem highest_eq (sound : tape.Sound size) : tape.highest = max tape.highest tape.pointer :=
  (Nat.max_eq_left sound.pointer_le).symm

theorem moveRight (sound : tape.Sound size) (room : tape.pointer + 1 < size) :
    tape.moveRight.Sound size where
  cells := sound.cells
  pointer_le := Nat.le_max_right _ _
  highest_lt := Nat.max_lt.mpr ⟨sound.highest_lt, room⟩
  untouched := by
    intro place beyond inside
    exact sound.untouched place (Nat.lt_of_le_of_lt (Nat.le_max_left _ _) beyond) inside

theorem moveLeft (sound : tape.Sound size) : tape.moveLeft.Sound size where
  cells := sound.cells
  pointer_le := Nat.le_trans (Nat.sub_le _ 1) sound.pointer_le
  highest_lt := sound.highest_lt
  untouched := sound.untouched

/-- The current cell is not one of those above the highest. -/
theorem put (sound : tape.Sound size) (value : UInt8) : (tape.put value).Sound size where
  cells := (size_put tape value).trans sound.cells
  pointer_le := sound.pointer_le
  highest_lt := sound.highest_lt
  untouched := by
    intro place beyond inside
    have elsewhere : place ≠ tape.pointer :=
      Nat.ne_of_gt (Nat.lt_of_le_of_lt sound.pointer_le beyond)
    rw [cells_put_of_ne elsewhere]
    exact sound.untouched place beyond inside

end Sound

end Tape

namespace Machine

variable {machine : Machine} {state next : State} {size : Nat} {tape : Tape}

section Effects

theorem moveRight_bounded
    (sized : machine.size = size) (sound : tape.Sound size) (streams : Streams) :
    (machine.moveRight tape streams).Bounded size tape := by
  unfold moveRight
  split
  · trivial
  · next guard =>
      have room : tape.pointer + 1 < size := by omega
      exact ⟨sound.moveRight room, rfl⟩

theorem moveLeft_bounded (sound : tape.Sound size) (streams : Streams) :
    (moveLeft tape streams).Bounded size tape := by
  unfold moveLeft
  split
  · trivial
  · have below : tape.pointer - 1 ≤ tape.highest := sound.moveLeft.pointer_le
    exact ⟨sound.moveLeft, (Nat.max_eq_left below).symm⟩

theorem modify_bounded
    (sound : tape.Sound size) (change : UInt8 → UInt8) (streams : Streams) :
    (modify change tape streams).Bounded size tape := by
  obtain ⟨value, current⟩ := sound.current?_eq_some
  unfold modify
  rw [current]
  exact ⟨sound.put (change value), sound.highest_eq⟩

theorem store_bounded (sound : tape.Sound size) (value : Option UInt8) (streams : Streams) :
    (store value tape streams).Bounded size tape := by
  cases value with
  | none => exact ⟨sound, sound.highest_eq⟩
  | some value => exact modify_bounded sound _ streams

theorem write_bounded (sound : tape.Sound size) (streams : Streams) :
    (machine.write tape streams).Bounded size tape := by
  obtain ⟨value, current⟩ := sound.current?_eq_some
  unfold write
  rw [current]
  dsimp only
  split
  · exact ⟨sound, sound.highest_eq⟩
  · exact not_false
  · exact not_false

theorem read_bounded (sound : tape.Sound size) (streams : Streams) :
    (machine.read tape streams).Bounded size tape := by
  unfold read
  split
  · exact not_false
  · split
    · exact store_bounded sound _ _
    · exact ⟨sound, sound.highest_eq⟩
    · exact not_false

theorem effect_bounded
    (sized : machine.size = size) (sound : tape.Sound size) (command : Option Command)
    (streams : Streams) : (machine.effect command tape streams).Bounded size tape := by
  unfold effect
  split
  · exact moveRight_bounded sized sound streams
  · exact moveLeft_bounded sound streams
  · exact modify_bounded sound _ streams
  · exact modify_bounded sound _ streams
  · exact write_bounded sound streams
  · exact read_bounded sound streams
  · exact ⟨sound, sound.highest_eq⟩

end Effects

section Instructions

theorem Move.tape_bounded
    (move : Move machine state next) (sized : machine.size = size)
    (sound : state.tape.Sound size) :
    next.tape.Sound size ∧ next.tape.highest = max state.tape.highest next.tape.pointer := by
  cases move with
  | @plain character tape streams _ _ _ done =>
      have bounded := effect_bounded sized sound (Command.ofChar? character) state.streams
      rw [done] at bounded
      exact bounded
  | skip | enter | again | leave => exact ⟨sound, sound.highest_eq⟩

theorem Move.highest_le
    (move : Move machine state next) (sized : machine.size = size)
    (sound : state.tape.Sound size) : state.tape.highest ≤ next.tape.highest := by
  rw [(move.tape_bounded sized sound).2]
  exact Nat.le_max_left _ _

theorem Stuck.not_missesCell
    {failure : Failure} (stuck : Stuck machine state failure next)
    (sized : machine.size = size) (sound : state.tape.Sound size) : ¬ failure.MissesCell := by
  obtain ⟨value, current⟩ := sound.current?_eq_some
  cases stuck with
  | @plain character failure streams _ _ _ failed =>
      have bounded := effect_bounded sized sound (Command.ofChar? character) state.streams
      rw [failed] at bounded
      exact bounded
  | stray | unmatchedOpen | unmatchedClose => exact not_false
  | noCellAtOpen _ missing => simp [current] at missing
  | noCellAtClose _ _ missing => simp [current] at missing

theorem Stuck.tape_eq
    {failure : Failure} (stuck : Stuck machine state failure next) : next.tape = state.tape := by
  cases stuck <;> rfl

end Instructions

section Runs

variable {start reached : State} {count : Nat}

def visited (machine : Machine) (start : State) (count : Nat) : Set Nat :=
  {pointer | ∃ earlier ≤ count, ∃ state,
    machine.after earlier start = some state ∧ state.tape.pointer = pointer}

theorem visited_zero (machine : Machine) (start : State) :
    machine.visited start 0 = {start.tape.pointer} := by
  ext pointer
  constructor
  · rintro ⟨earlier, none, state, arrived, rfl⟩
    obtain rfl := Nat.le_zero.mp none
    cases arrived
    exact Set.mem_singleton _
  · rintro rfl
    exact ⟨0, Nat.le_refl 0, start, rfl, rfl⟩

theorem visited_succ (arrived : machine.after (count + 1) start = some reached) :
    machine.visited start (count + 1) =
      insert reached.tape.pointer (machine.visited start count) := by
  ext pointer
  constructor
  · rintro ⟨earlier, bound, state, arrived', rfl⟩
    rcases Nat.of_le_succ bound with before | rfl
    · exact .inr ⟨earlier, before, state, arrived', rfl⟩
    · rw [arrived] at arrived'
      cases arrived'
      exact .inl rfl
  · rintro (rfl | ⟨earlier, bound, state, arrived', rfl⟩)
    · exact ⟨count + 1, Nat.le_refl _, reached, arrived, rfl⟩
    · exact ⟨earlier, Nat.le_succ_of_le bound, state, arrived', rfl⟩

theorem after_tape_sound
    (arrived : machine.after count start = some reached) (sized : machine.size = size)
    (sound : start.tape.Sound size) : reached.tape.Sound size :=
  after_preserves (fun state => state.tape.Sound size)
    (fun _ _ sound move => (move.tape_bounded sized sound).1) arrived sound

theorem highest_le_of_after
    (arrived : machine.after count start = some reached) (sized : machine.size = size)
    (sound : start.tape.Sound size) : start.tape.highest ≤ reached.tape.highest := by
  induction count generalizing start with
  | zero =>
      cases arrived
      exact Nat.le_refl _
  | succ count ih =>
      obtain ⟨next, move, further⟩ := after_succ_eq_some_iff.mp arrived
      apply Nat.le_trans (move.highest_le sized sound)
      apply ih further
      exact (move.tape_bounded sized sound).1

theorem highest_le_of_later
    {earlier : Nat} {before : State} (later : machine.after count start = some reached)
    (arrived : machine.after earlier start = some before) (bound : earlier ≤ count)
    (sized : machine.size = size) (sound : start.tape.Sound size) :
    before.tape.highest ≤ reached.tape.highest := by
  obtain ⟨more, rfl⟩ := Nat.exists_eq_add_of_le bound
  rw [after_add, arrived] at later
  exact highest_le_of_after later sized (after_tape_sound arrived sized sound)

/-- A run remembers the highest cell that its pointer has been at. -/
theorem isGreatest_highest
    (arrived : machine.after count start = some reached) (sized : machine.size = size)
    (sound : start.tape.Sound size) (atHighest : start.tape.pointer = start.tape.highest) :
    IsGreatest (machine.visited start count) reached.tape.highest := by
  induction count generalizing reached with
  | zero =>
      cases arrived
      rw [visited_zero, atHighest]
      exact isGreatest_singleton
  | succ count ih =>
      -- The last instruction is split off, as the visited cells grow at that end.
      obtain ⟨middle, halfway, move⟩ := exists_move_of_after_succ arrived
      have middleSound := after_tape_sound halfway sized sound
      rw [visited_succ arrived, (move.tape_bounded sized middleSound).2, Nat.max_comm]
      exact (ih halfway).insert _

theorem Halts.tape_sound
    {halt : Halt} (halts : machine.Halts start halt) (sized : machine.size = size)
    (sound : start.tape.Sound size) :
    halt.state.tape.Sound size ∧ ∀ failure, halt.failure = some failure → ¬ failure.MissesCell := by
  obtain ⟨count, reached, arrived, ⟨rfl, _⟩ | ⟨failure, left, rfl, stuck⟩⟩ := halts.cases
  · refine ⟨after_tape_sound arrived sized sound, ?_⟩
    intro failure failed
    cases failed
  · have reachedSound := after_tape_sound arrived sized sound
    refine ⟨stuck.tape_eq ▸ reachedSound, ?_⟩
    intro failure failed
    cases failed
    exact stuck.not_missesCell sized reachedSound

end Runs

end Machine

end Brainfuck
