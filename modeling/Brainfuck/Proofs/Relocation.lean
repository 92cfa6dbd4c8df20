import Brainfuck.Proofs.Agreement
import Brainfuck.Proofs.LoopStack

/-!
# Instructions at other places

The same instruction can stand at different places of two programs, behind more
text or behind less commentary.  `State.Placed` relates a state to its image: its
index and the positions on its stack are moved, and on the image's stack there
may be more loops below them.  When the next instruction is `FoundAt` its place,
both machines complete it alike, or both fail, with the failure that names the
other place.
-/

namespace Brainfuck

/-- The failure of an instruction that stands at another place of a program. -/
def Failure.relocate (program : Program) (place : Nat → Nat) : Failure → Failure
  | .outOfBounds pointer size position _ =>
    .offTape program (place position.toNat) pointer size
  | .malformed reason position _ => .badBracket reason program (place position.toNat)
  | failure => failure

theorem PlainFailure.relocate_eq
    {tape : Tape} {failure : Failure} (plain : PlainFailure tape failure) (program : Program)
    (place : Nat → Nat) : failure.relocate program place = failure := by
  cases plain <;> rfl

/-- A state and its image in another program, where it is in more loops. -/
structure State.Placed (place : Nat → Nat) (around : List Nat)
    (Alike : Streams → Streams → Prop) (state image : State) : Prop where
  index_eq : image.index = place state.index
  loops_eq : image.loops = state.loops.map place ++ around
  tape_eq : image.tape = state.tape
  streams : Alike state.streams image.streams

namespace Effect.Same

variable {Alike : Streams → Streams → Prop} {tape : Tape} {left : Streams} {effect : Effect}

theorem of_done (same : Effect.Same Alike (.done tape left) effect) :
    ∃ right, effect = .done tape right ∧ Alike left right := by
  cases same with
  | @done _ _ right alike => exact ⟨right, rfl, alike⟩

theorem of_strayed (same : Effect.Same Alike (.strayed tape left) effect) :
    ∃ right, effect = .strayed tape right ∧ Alike left right := by
  cases same with
  | @strayed _ _ right alike => exact ⟨right, rfl, alike⟩

theorem of_failed
    {failure : Failure} (same : Effect.Same Alike (.failed failure tape left) effect) :
    ∃ right, effect = .failed failure tape right ∧ Alike left right := by
  cases same with
  | @failed _ _ _ right alike => exact ⟨right, rfl, alike⟩

end Effect.Same

namespace Machine

def running (machine : Machine) (text : List Char) : Machine :=
  { machine with program := text.toArray }

theorem agree_running_eq (machine : Machine) (text other : List Char) :
    Agree (machine.running text) (machine.running other) Eq where
  size_eq := rfl
  asked := by
    rintro left _ rfl
    exact ⟨rfl, rfl⟩
  taken := by
    rintro left _ rfl
    exact ⟨rfl, rfl⟩
  wrote := by
    rintro left _ byte rfl
    exact ⟨rfl, rfl⟩
  readFailed := by
    rintro left _ pointer reason rfl
    rfl

/-- Brackets stay in front of what follows them when they are moved. -/
def KeepsBodies (machine : Machine) (place : Nat → Nat) : Prop :=
  ∀ index character, machine.program[index]? = some character →
    character = '[' ∨ character = ']' → place (index + 1) = place index + 1

/-- The instruction at an index stands at its place in the other program, and if
it opens a loop, so does the bracket that closes the loop. -/
structure FoundAt (first second : Machine) (place : Nat → Nat) (index : Nat) : Prop where
  char_eq : second.program[place index]? = first.program[index]?
  next_eq : place (index + 1) = place index + 1
  closing_eq : first.program[index]? = some '[' →
    closing? second.program (place index + 1) = (closing? first.program (index + 1)).map place

variable {first second : Machine} {place : Nat → Nat} {around : List Nat}
  {Alike : Streams → Streams → Prop} {state image next left : State}

section Placed

variable (agree : Agree first second Alike)
  (placed : State.Placed place around Alike state image)

include placed

theorem placed_loops_cons
    {start : Nat} {outer : List Nat} (loops : state.loops = start :: outer) :
    image.loops = place start :: (outer.map place ++ around) := by
  rw [placed.loops_eq, loops]
  rfl

private theorem placed_advance (next_eq : place (state.index + 1) = place state.index + 1) :
    State.Placed place around Alike state.advance image.advance where
  index_eq := by
    simp only [State.advance, State.goto, placed.index_eq, next_eq]
  loops_eq := placed.loops_eq
  tape_eq := placed.tape_eq
  streams := placed.streams

private theorem placed_goto {target : Nat} {target' : Nat} (moved : target' = place target) :
    State.Placed place around Alike (state.goto target) (image.goto target') where
  index_eq := moved
  loops_eq := placed.loops_eq
  tape_eq := placed.tape_eq
  streams := placed.streams

private theorem placed_withLoops {loops loops' : List Nat}
    (moved : loops' = loops.map place ++ around) :
    State.Placed place around Alike { state with loops := loops }
      { image with loops := loops' } where
  index_eq := placed.index_eq
  loops_eq := moved
  tape_eq := placed.tape_eq
  streams := placed.streams

private theorem placed_with
    (tape : Tape) {streams streams' : Streams} (alike : Alike streams streams') :
    State.Placed place around Alike { state with tape := tape, streams := streams }
      { image with tape := tape, streams := streams' } where
  index_eq := placed.index_eq
  loops_eq := placed.loops_eq
  tape_eq := rfl
  streams := alike

include agree

theorem placed_effect (command : Option Command) :
    Effect.Same Alike (first.effect command state.tape state.streams)
      (second.effect command image.tape image.streams) := by
  rw [placed.tape_eq]
  apply agree.effect
  exact placed.streams

/-- A closing bracket goes back to the loop on top of the stack, which was
entered at a bracket of the text in front of it. -/
theorem placed_move
    (found : FoundAt first second place state.index) (keeps : KeepsBodies first place)
    (nested : Nested first state) (move : Move first state next) :
    ∃ next', Move second image next' ∧ State.Placed place around Alike next next' := by
  have char_eq := found.char_eq
  rw [← placed.index_eq] at char_eq
  cases move with
  | @plain character tape streams here notOpen notClose done =>
      have same := placed_effect agree placed (Command.ofChar? character)
      rw [done] at same
      obtain ⟨streams', done', alike⟩ := same.of_done
      refine ⟨_, .plain (char_eq.trans here) notOpen notClose done', ?_⟩
      exact placed_advance (placed_with placed tape alike) found.next_eq
  | @skip stop here zero closing =>
      have closing' := found.closing_eq here
      rw [closing, ← placed.index_eq] at closing'
      have partners := (closing?_eq_some_iff here).mp closing
      have closes : first.program[stop]? = some ']' := by
        simpa using partners.getElem?_stop
      refine ⟨_, .skip (char_eq.trans here) (placed.tape_eq ▸ zero) closing', ?_⟩
      exact placed_goto placed (keeps stop _ closes (.inr rfl)).symm
  | @enter value here current nonzero =>
      refine ⟨_, .enter (char_eq.trans here) (placed.tape_eq ▸ current) nonzero, ?_⟩
      have entered :
          image.index :: image.loops = (state.index :: state.loops).map place ++ around := by
        simp [placed.index_eq, placed.loops_eq]
      exact placed_advance (placed_withLoops placed entered) found.next_eq
  | @again value start outer here loops current nonzero =>
      have loops' := placed_loops_cons placed loops
      have opens := nested.opens start (by simp [loops])
      refine ⟨_, .again (char_eq.trans here) loops' (placed.tape_eq ▸ current) nonzero, ?_⟩
      exact placed_goto placed (keeps start _ opens (.inl rfl)).symm
  | @leave start outer here loops zero =>
      have loops' := placed_loops_cons placed loops
      refine ⟨_, .leave (char_eq.trans here) loops' (placed.tape_eq ▸ zero), ?_⟩
      exact placed_advance (placed_withLoops placed rfl) found.next_eq

/-- A closing bracket that finds nothing open must find nothing open in the
other program either, so there may be no loops around it. -/
theorem placed_stuck
    (found : FoundAt first second place state.index)
    (alone : first.program[state.index]? = some ']' → state.loops = [] → around = [])
    {failure : Failure} (stuck : Stuck first state failure left) :
    ∃ left', Stuck second image (failure.relocate second.program place) left' ∧
      State.Placed place around Alike left left' := by
  have char_eq := found.char_eq
  rw [← placed.index_eq] at char_eq
  cases stuck with
  | @plain character failure streams here notOpen notClose failed =>
      obtain ⟨_, plain⟩ := effect_failed failed
      have same := placed_effect agree placed (Command.ofChar? character)
      rw [failed, ← placed.tape_eq] at same
      obtain ⟨streams', failed', alike⟩ := same.of_failed
      rw [plain.relocate_eq]
      refine ⟨_, .plain (char_eq.trans here) notOpen notClose failed', ?_⟩
      exact ⟨placed.index_eq, placed.loops_eq, placed.tape_eq, alike⟩
  | @stray character here notOpen notClose strayed =>
      have same := placed_effect agree placed (Command.ofChar? character)
      rw [strayed, ← placed.tape_eq] at same
      obtain ⟨streams', strayed', _⟩ := same.of_strayed
      obtain ⟨_, rfl⟩ := effect_strayed strayed'
      have failure :
          (first.offTape state).relocate second.program place = second.offTape image := by
        simp only [offTape, Failure.offTape, Failure.relocate, placed.index_eq, placed.tape_eq,
          agree.size_eq, Int.toNat_natCast]
      rw [failure]
      exact ⟨_, .stray (char_eq.trans here) notOpen notClose strayed', placed⟩
  | noCellAtOpen here missing =>
      have stuck' := Stuck.noCellAtOpen (char_eq.trans here) (placed.tape_eq ▸ missing)
      rw [State.noCell, placed.tape_eq] at stuck'
      exact ⟨_, stuck', placed⟩
  | @noCellAtClose start outer here loops missing =>
      have stuck' := Stuck.noCellAtClose (char_eq.trans here) (placed_loops_cons placed loops)
        (placed.tape_eq ▸ missing)
      rw [State.noCell, placed.tape_eq] at stuck'
      exact ⟨_, stuck', placed⟩
  | unmatchedOpen here zero closing =>
      have closing' := found.closing_eq here
      rw [closing, ← placed.index_eq] at closing'
      have stuck' := Stuck.unmatchedOpen (char_eq.trans here) (placed.tape_eq ▸ zero) closing'
      rw [placed.index_eq] at stuck'
      exact ⟨_, stuck', placed⟩
  | unmatchedClose here loops =>
      have loops' : image.loops = [] := by
        rw [placed.loops_eq, loops, alone here loops]
        rfl
      have stuck' := Stuck.unmatchedClose (char_eq.trans here) loops'
      rw [placed.index_eq] at stuck'
      exact ⟨_, stuck', placed⟩

end Placed

end Machine

end Brainfuck
