import Brainfuck.Proofs.BracketOutcome
import Brainfuck.Proofs.Relocation

/-!
# Balanced fragments run on their own

A fragment whose brackets are matched runs inside any text as it runs alone.
The loops around it stay at the bottom of the stack, the text behind it is not
looked at, and no bracket of the text in front of it or behind it is ever taken
for the partner of one of its own.
-/

namespace Brainfuck

/-- A state inside a fragment that stands at `offset` in the loops `around`, seen
beside the state of the fragment alone. -/
structure State.Inside (offset : Nat) (around : List Nat) (alone state : State) : Prop where
  index_eq : state.index = offset + alone.index
  loops_eq : state.loops = alone.loops.map (offset + ·) ++ around
  tape_eq : state.tape = alone.tape
  input_eq : state.streams.input = alone.streams.input
  output_eq : state.streams.output = alone.streams.output

namespace Machine

/-- From `state` on, the machine of a whole text does what the machine of a
fragment of it, at `offset` and with `length` characters, does from `alone`
on. -/
structure RunsAsAlone (whole part : Machine) (offset length : Nat) (state alone : State) :
    Prop where
  lockstep : ∀ count reached, part.after count alone = some reached →
    ∃ further, whole.after count state = some further ∧
      further.steps = state.steps + count ∧ State.Inside offset state.loops reached further
  ended : ∀ count reached, part.after count alone = some reached →
    part.step reached = .ended reached →
    ∃ further, whole.after count state = some further ∧
      further.index = offset + length ∧ further.loops = state.loops ∧
      further.tape = reached.tape ∧ further.streams.input = reached.streams.input ∧
      further.streams.output = reached.streams.output
  strayed : ∀ pointer size position context left,
    part.Halts alone ⟨some (.outOfBounds pointer size position context), left⟩ →
    ∃ context' left', State.Inside offset state.loops left left' ∧
      whole.Halts state ⟨some (.outOfBounds pointer size (offset + position) context'), left'⟩
  endless : part.Diverges alone → whole.Diverges state

section Places

variable (machine : Machine) (before behind : List Char) {text : List Char} {index : Nat}
  {character : Char}

private theorem getElem?_fragment
    (found : (machine.running text).program[index]? = some character) :
    (machine.running (before ++ text ++ behind)).program[before.length + index]? =
      some character := by
  have listed : text[index]? = some character := by simpa [running] using found
  have inside : index < text.length := (List.getElem?_eq_some_iff.mp listed).1
  simp [running, List.getElem?_append_right, List.getElem?_append_left inside, listed]

/-- Every opening bracket of a balanced fragment has its partner there. -/
theorem closing?_fragment
    (balanced : Balanced text) (found : (machine.running text).program[index]? = some '[') :
    ∃ stop, closing? (machine.running text).program (index + 1) = some stop ∧
      closing? (machine.running (before ++ text ++ behind)).program (before.length + index + 1) =
        some (before.length + stop) := by
  have listed : text[index]? = some '[' := by simpa [running] using found
  obtain ⟨stop, partners⟩ := balanced.exists_partners listed
  refine ⟨stop, (closing?_eq_some_iff found).mpr partners, ?_⟩
  apply (closing?_eq_some_iff (getElem?_fragment machine before behind found)).mpr
  have moved := (partners.append behind).prepend before
  rwa [← List.append_assoc] at moved

private theorem foundAt_fragment
    (balanced : Balanced text) (found : (machine.running text).program[index]? = some character) :
    FoundAt (machine.running text) (machine.running (before ++ text ++ behind))
      (before.length + ·) index where
  char_eq := (getElem?_fragment machine before behind found).trans found.symm
  next_eq := rfl
  closing_eq := by
    intro isOpen
    obtain ⟨stop, inside, outside⟩ :=
      closing?_fragment machine before behind balanced isOpen
    rw [inside, outside]
    rfl

private theorem keepsBodies_shift (machine : Machine) (offset : Nat) :
    KeepsBodies machine (offset + ·) := by
  intro _ _ _ _
  rfl

end Places

section Runs

variable {machine : Machine} {before text : List Char} (behind : List Char)
  {state alone reached : State}
  {start start' : Streams} {around : List Nat} {count : Nat}

variable (balanced : Balanced text) (faultless : machine.schedule = .none)
  (placed : State.Placed (before.length + ·) around (Streams.Parallel start start') alone state)
  (nested : Nested (machine.running text) alone)

include faultless in
theorem parallel_agree :
    Agree (machine.running text) (machine.running (before ++ text ++ behind))
      (Streams.Parallel start start') :=
  Streams.Parallel.agree rfl rfl faultless faultless

include balanced nested in
/-- A closing bracket of a balanced fragment is met inside one of its loops. -/
theorem loops_ne_nil_of_close
    (found : (machine.running text).program[alone.index]? = some ']') : alone.loops ≠ [] := by
  intro empty
  unfold Nested at nested
  rw [empty] at nested
  exact balanced.not_firstStrayClose alone.index (firstStrayClose_of_openBrackets? nested found)

include balanced faultless placed nested

theorem fragment_move
    {next : State} (move : Move (machine.running text) alone next) :
    ∃ next', Move (machine.running (before ++ text ++ behind)) state next' ∧
      State.Placed (before.length + ·) around (Streams.Parallel start start') next next' := by
  obtain ⟨character, found⟩ := move.inside
  apply placed_move (parallel_agree behind faultless) placed _ (keepsBodies_shift _ _) nested move
  exact foundAt_fragment machine before behind balanced found

theorem fragment_stuck
    {failure : Failure} {left : State} (stuck : Stuck (machine.running text) alone failure left) :
    ∃ left', Stuck (machine.running (before ++ text ++ behind)) state
        (failure.relocate (before ++ text ++ behind).toArray (before.length + ·)) left' ∧
      State.Placed (before.length + ·) around (Streams.Parallel start start') left left' := by
  obtain ⟨character, found⟩ := stuck.inside
  apply placed_stuck (parallel_agree behind faultless) placed _ _ stuck
  · exact foundAt_fragment machine before behind balanced found
  · intro closes empty
    exact absurd empty (loops_ne_nil_of_close balanced nested closes)

theorem fragment_after
    (bounded : alone.index ≤ text.length)
    (arrived : (machine.running text).after count alone = some reached) :
    ∃ further, (machine.running (before ++ text ++ behind)).after count state = some further ∧
      State.Placed (before.length + ·) around (Streams.Parallel start start') reached further ∧
      Nested (machine.running text) reached ∧ reached.index ≤ text.length := by
  induction count generalizing alone state with
  | zero =>
      cases arrived
      exact ⟨state, rfl, placed, nested, bounded⟩
  | succ count ih =>
      obtain ⟨next, move, rest⟩ := after_succ_eq_some_iff.mp arrived
      obtain ⟨next', move', placedNext⟩ :=
        fragment_move behind balanced faultless placed nested move
      obtain ⟨further, arrived', result⟩ :=
        ih placedNext (nested.move move) (nested.index_le move) rest
      exact ⟨further, after_succ_eq_some_iff.mpr ⟨next', move', arrived'⟩, result⟩

end Runs

section Ends

variable {machine : Machine} {text : List Char} {reached : State}

/-- Behind a balanced text nothing is open. -/
theorem at_end_of_balanced
    (balanced : Balanced text) (nested : Nested (machine.running text) reached)
    (bounded : reached.index ≤ text.length)
    (ended : (machine.running text).program[reached.index]? = none) :
    reached.index = text.length ∧ reached.loops = [] := by
  have beyond : text.length ≤ reached.index := by simpa [running] using ended
  have atEnd : reached.index = text.length := Nat.le_antisymm bounded beyond
  refine ⟨atEnd, ?_⟩
  have opened : openFrom? 0 [] text = some reached.loops := by
    simpa [Nested, openBrackets?, running, atEnd] using nested
  rw [openFrom?_of_balanced balanced] at opened
  exact (Option.some.inj opened).symm

/-- Only a move off the tape is reported as one, and at its own place. -/
theorem Stuck.position_eq
    {state left : State} {pointer size position : Int} {context : String}
    (stuck : Stuck machine state (.outOfBounds pointer size position context) left) :
    position = state.index := by
  generalize cause : Failure.outOfBounds pointer size position context = failure at stuck
  cases stuck with
  | plain _ _ _ failed =>
      obtain ⟨_, plain⟩ := effect_failed failed
      rw [← cause] at plain
      cases plain
  | stray _ _ _ _ =>
      injection cause
  | noCellAtOpen _ _ => cases cause
  | noCellAtClose _ _ _ => cases cause
  | unmatchedOpen _ _ _ => cases cause
  | unmatchedClose _ _ => cases cause

end Ends

private theorem inside_of_placed
    {offset : Nat} {around : List Nat} {alone state : State} {start start' : Streams}
    (placed : State.Placed (offset + ·) around (Streams.Parallel start start') alone state)
    (outputs : start.output = start'.output) : State.Inside offset around alone state where
  index_eq := placed.index_eq
  loops_eq := placed.loops_eq
  tape_eq := placed.tape_eq
  input_eq := placed.streams.input_eq.symm
  output_eq := (placed.streams.output_eq outputs).symm

/-- A balanced text that stands anywhere in a program runs there as it runs
alone, whatever brackets are in front of it and behind it: in lock step, to its
end or off the tape, or for ever. -/
theorem balanced_fragment_runs_as_alone
    (machine : Machine) (faultless : machine.schedule = .none)
    (before text behind : List Char) (balanced : Balanced text) (state : State)
    (atStart : state.index = before.length) (streams : Streams)
    (sameInput : streams.input = state.streams.input)
    (sameOutput : streams.output = state.streams.output) (steps : Nat) :
    RunsAsAlone (machine.running (before ++ text ++ behind)) (machine.running text)
      before.length text.length state ⟨0, [], steps, state.tape, streams⟩ := by
  let alone : State := ⟨0, [], steps, state.tape, streams⟩
  have placed : State.Placed (before.length + ·) state.loops
      (Streams.Parallel streams state.streams) alone state :=
    ⟨atStart, rfl, rfl, Streams.Parallel.refl sameInput⟩
  have nested : Nested (machine.running text) alone := rfl
  have simulated := fun count reached
      (arrived : (machine.running text).after count alone = some reached) =>
    fragment_after behind balanced faultless placed nested (Nat.zero_le _) arrived
  constructor
  · intro count reached arrived
    obtain ⟨further, arrived', placed', _⟩ := simulated count reached arrived
    exact ⟨further, arrived', steps_of_after arrived', inside_of_placed placed' sameOutput⟩
  · intro count reached arrived stepEq
    obtain ⟨further, arrived', placed', nested', bounded⟩ := simulated count reached arrived
    have ended := (step_eq_ended_iff.mp stepEq).2
    obtain ⟨atEnd, nothing⟩ := at_end_of_balanced balanced nested' bounded ended
    have inside := inside_of_placed placed' sameOutput
    refine ⟨further, arrived', ?_, ?_, inside.tape_eq, inside.input_eq, inside.output_eq⟩
    · rw [inside.index_eq, atEnd]
    · rw [inside.loops_eq, nothing]
      rfl
  · intro pointer size position context left halts
    obtain ⟨count, reached, arrived, ⟨haltEq, _⟩ | ⟨failure, left', haltEq, stuck⟩⟩ := halts.cases
    · cases haltEq
    · cases haltEq
      obtain ⟨further, arrived', placed', nested', _⟩ := simulated count reached arrived
      obtain ⟨left', stuck', placedLeft⟩ :=
        fragment_stuck behind balanced faultless placed' nested' stuck
      have place := stuck.position_eq
      have moved : ((before.length + position.toNat : Nat) : Int) = before.length + position := by
        omega
      have halts' := halts_of_stuck arrived' stuck'
      simp only [Failure.relocate, Failure.offTape] at halts'
      rw [moved] at halts'
      exact ⟨_, left', inside_of_placed placedLeft sameOutput, halts'⟩
  · intro diverges count
    obtain ⟨reached, arrived⟩ := diverges count
    obtain ⟨further, arrived', _⟩ := simulated count reached arrived
    exact ⟨further, arrived'⟩

/-- A loop that moves a cell stands in a loop that was entered, and behind it
stands a bracket too many. -/
theorem balanced_fragment_runs_inside_open_loop :
    let machine : Machine := ⟨#[], 2, .standard, .none⟩
    let text := ['[', '-', '>', '+', '<', ']']
    let whole := machine.running (['+', '['] ++ text ++ [']', ']'])
    let state : State := ⟨2, [1], 2, ⟨#[1, 0], 0, 0⟩, .ofInput []⟩
    whole.Reaches (.initial 2 (.ofInput [])) state ∧ Balanced text ∧
      ∃ further, whole.after 6 state = some further ∧
        further.index = 8 ∧ further.loops = [1] ∧ further.tape = ⟨#[0, 1], 0, 1⟩ := by
  intro machine text whole state
  have balanced : Balanced text := balanced_iff_openFrom?.mpr rfl
  have runs := balanced_fragment_runs_as_alone machine rfl ['+', '['] text [']', ']'] balanced
    state rfl (.ofInput []) rfl rfl 0
  have alone : (machine.running text).after 6 ⟨0, [], 0, ⟨#[1, 0], 0, 0⟩, .ofInput []⟩ =
      some ⟨6, [], 6, ⟨#[0, 1], 0, 1⟩, .ofInput []⟩ := by
    subst machine text
    rfl
  obtain ⟨further, arrived, index, loops, tape, _⟩ := runs.ended 6 _ alone rfl
  exact ⟨⟨2, rfl⟩, balanced, further, arrived, index, loops, tape⟩

end Machine

end Brainfuck
