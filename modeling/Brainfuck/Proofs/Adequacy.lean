import Brainfuck.Proofs.FaultFree
import Brainfuck.Proofs.RunEnd
import Brainfuck.Proofs.Structured

/-!
# Runs and structured evaluation

A run of the text of a block does what the structured evaluation of the block
says.  The proof follows the fuel of the evaluation, for a block anywhere in a
program and any loops around it.  A loop whose body was done is evaluated anew,
while the machine stands at the closing bracket with the loop on its stack; so
the induction speaks of states that are about to test a loop at either of its
brackets.
-/

namespace Brainfuck.Machine

variable {machine : Machine} {size : Nat} {state next : State} {loops : List Nat}
  {world : World} {block body rest : Block} {position stop fuel : Nat}
  {evaluation : Evaluation}

/-- A state is at a place of the program and shows a world. -/
structure Stands (size : Nat) (state : State) (index : Nat) (loops : List Nat)
    (world : World) : Prop where
  index_eq : state.index = index
  loops_eq : state.loops = loops
  tape_eq : world.tape = state.tape
  shows : state.streams.Shows world.input world.emitted
  fits : world.Fits size

/-- A state is about to run a block, or to test a loop whose body was done. -/
inductive Ready (size : Nat) (state : State) (position : Nat) (loops : List Nat)
    (world : World) : Block → Prop where
  | first {block : Block} :
      Stands size state position loops world → Ready size state position loops world block
  | again {body rest : Block} :
      Stands size state (position + 1 + body.text.length) (position :: loops) world →
      Ready size state position loops world (.loop body rest)

/-- From a state, the machine does what an evaluation says, and comes to `stop`
with the same loops if the evaluation is finished.  It goes on for at least as
many steps as the evaluation had fuel when that did not last. -/
def Follows (machine : Machine) (size : Nat) (state : State) (stop : Nat)
    (loops : List Nat) (fuel : Nat) : Evaluation → Prop
  | .finished steps world =>
    ∃ reached, machine.after steps state = some reached ∧
      reached.steps = state.steps + steps ∧ Stands size reached stop loops world
  | .strayed steps position world =>
    ∃ reached, machine.after steps state = some reached ∧
      reached.steps = state.steps + steps ∧
      (∃ around, Stands size reached position around world) ∧
      machine.step reached = .failed (machine.offTape reached) reached
  | .unfinished =>
    ∃ count reached, fuel ≤ count ∧ machine.after count state = some reached

section Follows

private theorem Follows.later
    {count : Nat} {middle : State} (arrived : machine.after count state = some middle)
    (counted : middle.steps = state.steps + count)
    (follows : Follows machine size middle stop loops fuel evaluation) :
    Follows machine size state stop loops (fuel + count) (evaluation.later count) := by
  cases evaluation with
  | finished steps world =>
      obtain ⟨reached, further, stepsEq, stands⟩ := follows
      exact ⟨reached, after_trans arrived further, by omega, stands⟩
  | strayed steps position world =>
      obtain ⟨reached, further, stepsEq, stands, failed⟩ := follows
      exact ⟨reached, after_trans arrived further, by omega, stands, failed⟩
  | unfinished =>
      obtain ⟨more, reached, enough, further⟩ := follows
      exact ⟨count + more, reached, by omega, after_trans arrived further⟩

private theorem Follows.of_step
    (stepped : machine.step state = .next next) (counted : next.steps = state.steps + 1)
    (follows : Follows machine size next stop loops fuel evaluation) :
    Follows machine size state stop loops (fuel + 1) (evaluation.later 1) := by
  have arrived : machine.after 1 state = some next := by simp [after_succ, stepped]
  exact follows.later arrived counted

private theorem Follows.weaken
    {less : Nat} (bound : less ≤ fuel)
    (follows : Follows machine size state stop loops fuel evaluation) :
    Follows machine size state stop loops less evaluation := by
  cases evaluation with
  | finished _ _ => exact follows
  | strayed _ _ _ => exact follows
  | unfinished =>
      obtain ⟨count, reached, enough, arrived⟩ := follows
      exact ⟨count, reached, Nat.le_trans bound enough, arrived⟩

/-- Where an evaluation that is not finished would have ended does not
matter. -/
theorem Follows.elsewhere
    {stop' : Nat} {loops' : List Nat}
    (follows : Follows machine size state stop loops fuel evaluation)
    (unfinished : ∀ steps world, evaluation ≠ .finished steps world) :
    Follows machine size state stop' loops' fuel evaluation := by
  cases evaluation with
  | finished steps world => exact absurd rfl (unfinished steps world)
  | strayed _ _ _ => exact follows
  | unfinished => exact follows

end Follows

section Instructions

theorem step_plain_follows
    (faultless : machine.schedule = .none) (sized : machine.size = size)
    {character : PlainChar} (found : machine.program[position]? = some character.char)
    (stands : Stands size state position loops world) :
    match world.act size machine.options character.char with
    | some world => ∃ next, machine.step state = .next next ∧
        next.steps = state.steps + 1 ∧ Stands size next (position + 1) loops world
    | none => machine.step state = .failed (machine.offTape state) state := by
  have foundHere : machine.program[state.index]? = some character.char :=
    stands.index_eq.symm ▸ found
  have mirrors := effect_mirrors faultless sized stands.shows stands.fits character.char
  rw [stands.tape_eq] at mirrors
  have atomic := effect_atomic machine state.tape state.streams
    (Command.ofChar? character.char)
  rw [step_of_plain foundHere character.notOpen character.notClose]
  generalize machine.effect (Command.ofChar? character.char) state.tape state.streams = effect
    at mirrors atomic
  generalize world.act size machine.options character.char = acted at mirrors
  cases mirrors with
  | @done tape streams world tapeEq shows fits =>
      exact ⟨_, rfl, rfl, ⟨congrArg (· + 1) stands.index_eq, stands.loops_eq, tapeEq, shows, fits⟩⟩
  | strayed =>
      obtain ⟨rfl, rfl⟩ := atomic
      rfl

/-- Both brackets of a loop test it, with the same result. -/
theorem Ready.test
    (placed : HasAt machine.program position (Block.text (.loop body rest)))
    (ready : Ready size state position loops world (.loop body rest)) :
    ∃ next, machine.step state = .next next ∧ next.steps = state.steps + 1 ∧
      if world.current = 0 then
        Stands size next (position + body.text.length + 2) loops world
      else
        Stands size next (position + 1) (position :: loops) world := by
  have partners := placed.partners body.balanced_text
  have opens : machine.program[position]? = some '[' := by
    simpa using partners.getElem?_start
  have closes : machine.program[position + 1 + body.text.length]? = some ']' := by
    simpa using partners.getElem?_stop
  have behind : position + 1 + body.text.length + 1 = position + body.text.length + 2 := by
    omega
  cases ready with
  | first stands =>
      obtain ⟨indexEq, loopsEq, tapeEq, shows, fits⟩ := stands
      have found : machine.program[state.index]? = some '[' := indexEq.symm ▸ opens
      have current : state.tape.current? = some world.current := tapeEq ▸ fits.current?_eq
      by_cases zero : world.current = 0
      · rw [zero] at current
        have closing : closing? machine.program (state.index + 1) =
            some (position + 1 + body.text.length) := by
          rw [closing?_eq_some_iff found, indexEq]
          exact partners
        refine ⟨_, (Move.skip found current closing).step_eq, rfl, ?_⟩
        rw [if_pos zero]
        exact ⟨behind, loopsEq, tapeEq, shows, fits⟩
      · refine ⟨_, (Move.enter found current zero).step_eq, rfl, ?_⟩
        rw [if_neg zero]
        exact ⟨congrArg (· + 1) indexEq, congrArg₂ List.cons indexEq loopsEq, tapeEq, shows, fits⟩
  | again stands =>
      obtain ⟨indexEq, loopsEq, tapeEq, shows, fits⟩ := stands
      have found : machine.program[state.index]? = some ']' := indexEq.symm ▸ closes
      have current : state.tape.current? = some world.current := tapeEq ▸ fits.current?_eq
      by_cases zero : world.current = 0
      · rw [zero] at current
        refine ⟨_, (Move.leave found loopsEq current).step_eq, rfl, ?_⟩
        rw [if_pos zero]
        exact ⟨(congrArg (· + 1) indexEq).trans behind, rfl, tapeEq, shows, fits⟩
      · refine ⟨_, (Move.again found loopsEq current zero).step_eq, rfl, ?_⟩
        rw [if_neg zero]
        exact ⟨rfl, loopsEq, tapeEq, shows, fits⟩

end Instructions

section Simulation

/-- With some fuel, the machine follows every evaluation of a block that stands
in its program. -/
def Simulates (machine : Machine) (size fuel : Nat) : Prop :=
  ∀ (block : Block) (position : Nat) (loops : List Nat) (world : World) (state : State),
    HasAt machine.program position block.text →
    Ready size state position loops world block →
    Follows machine size state (position + block.text.length) loops fuel
      (block.evaluate size machine.options fuel position world)

theorem simulates_zero : Simulates machine size 0 := by
  intro block position loops world state _ _
  exact ⟨0, state, Nat.le_refl 0, rfl⟩

variable (faultless : machine.schedule = .none) (sized : machine.size = size)

include faultless sized

private theorem Simulates.plain
    (simulates : Simulates machine size fuel) {character : PlainChar}
    (placed : HasAt machine.program position (Block.text (.plain character rest)))
    (stands : Stands size state position loops world) :
    Follows machine size state (position + (Block.text (.plain character rest)).length) loops
      (fuel + 1)
      (Block.evaluate size machine.options (fuel + 1) position (.plain character rest) world) := by
  have outcome := step_plain_follows faultless sized placed.getElem?_eq stands
  simp only [Block.evaluate]
  cases acted : world.act size machine.options character.char with
  | none =>
      rw [acted] at outcome
      exact ⟨state, rfl, rfl, ⟨loops, stands⟩, outcome⟩
  | some world' =>
      rw [acted] at outcome
      obtain ⟨next, stepped, counted, standsNext⟩ := outcome
      have further := simulates rest (position + 1) loops world' next placed.tail
        (.first standsNext)
      have stopEq : position + 1 + rest.text.length =
          position + (Block.text (.plain character rest)).length := by
        simp only [Block.text, List.length_cons]
        omega
      rw [stopEq] at further
      exact further.of_step stepped counted

omit faultless sized in
/-- After the test either the text behind the loop is run, or the body is and
then the loop is tested again. -/
theorem Simulates.loop
    (simulates : Simulates machine size fuel)
    (placed : HasAt machine.program position (Block.text (.loop body rest)))
    (ready : Ready size state position loops world (.loop body rest)) :
    Follows machine size state (position + (Block.text (.loop body rest)).length) loops
      (fuel + 1)
      (Block.evaluate size machine.options (fuel + 1) position (.loop body rest) world) := by
  obtain ⟨next, stepped, counted, tested⟩ := ready.test placed
  have bodyPlaced : HasAt machine.program (position + 1) body.text := by
    have inner : HasAt machine.program (position + 1) (body.text ++ ']' :: rest.text) := by
      simpa [Block.text] using placed.tail
    exact inner.append.1
  simp only [Block.evaluate]
  by_cases zero : world.current = 0
  · rw [if_pos zero] at tested ⊢
    have restPlaced : HasAt machine.program (position + body.text.length + 2) rest.text := by
      have split : Block.text (.loop body rest) = ('[' :: body.text ++ [']']) ++ rest.text := by
        simp [Block.text]
      rw [split] at placed
      simpa [Nat.add_assoc] using placed.append.2
    have further := simulates rest _ loops world next restPlaced (.first tested)
    have stopEq : position + body.text.length + 2 + rest.text.length =
        position + (Block.text (.loop body rest)).length := by
      simp only [Block.text, List.cons_append, List.length_cons, List.length_append]
      omega
    rw [stopEq] at further
    exact further.of_step stepped counted
  · rw [if_neg zero] at tested ⊢
    have inBody := simulates body (position + 1) (position :: loops) world next bodyPlaced
      (.first tested)
    cases done : body.evaluate size machine.options fuel (position + 1) world with
    | finished steps world' =>
        rw [done] at inBody
        obtain ⟨reached, arrived, stepsEq, standsAgain⟩ := inBody
        have further := simulates (.loop body rest) position loops world' reached placed
          (.again standsAgain)
        have arrivedHere : machine.after (steps + 1) state = some reached := by
          rw [after_succ, stepped]
          exact arrived
        exact (further.later arrivedHere (by omega)).weaken (by omega)
    | strayed steps position' world' =>
        rw [done] at inBody
        exact (inBody.of_step stepped counted).elsewhere (by simp [Evaluation.later])
    | unfinished =>
        rw [done] at inBody
        exact (inBody.of_step stepped counted).elsewhere (by simp [Evaluation.later])

theorem simulates (fuel : Nat) : Simulates machine size fuel := by
  induction fuel with
  | zero => exact simulates_zero
  | succ fuel ih =>
      intro block position loops world state placed ready
      cases block with
      | done =>
          cases ready with
          | first stands => exact ⟨state, rfl, rfl, stands⟩
      | plain character rest =>
          cases ready with
          | first stands => exact ih.plain faultless sized placed stands
      | loop body rest => exact ih.loop placed ready

end Simulation

def ofBlock (block : Block) (size : Nat) (options : Options) : Machine :=
  ⟨block.text.toArray, size, options, .none⟩

/-- A halted run made so many steps and left a world. -/
structure Halt.Leaves (halt : Halt) (steps : Nat) (world : World) : Prop where
  steps_eq : halt.state.steps = steps
  tape_eq : halt.state.tape = world.tape
  shows : halt.state.streams.Shows world.input world.emitted

def Halt.StrayedAt (halt : Halt) (position : Nat) : Prop :=
  ∃ pointer bound context, halt.failure = some (.outOfBounds pointer bound position context)

section Runs

variable {options : Options} {input : List UInt8} {halt : Halt} {steps : Nat}

theorem Halt.Leaves.unique
    {steps' : Nat} {world' : World} (leaves : halt.Leaves steps world)
    (leaves' : halt.Leaves steps' world') : steps = steps' ∧ world = world' := by
  refine ⟨leaves.steps_eq.symm.trans leaves'.steps_eq, ?_⟩
  have tapes := leaves.tape_eq.symm.trans leaves'.tape_eq
  have inputs := leaves.shows.input_eq.symm.trans leaves'.shows.input_eq
  have emitted := List.reverse_inj.mp
    (leaves.shows.output_eq.symm.trans leaves'.shows.output_eq)
  cases world
  cases world'
  simp_all

theorem finish_leaves
    (faultless : machine.schedule = .none) {index : Nat} (failure : Option Failure)
    (stands : Stands size state index loops world) :
    (machine.finish ⟨failure, state⟩).failure = failure ∧
      (machine.finish ⟨failure, state⟩).Leaves state.steps world := by
  obtain ⟨flushed, flushEq, flushedShows⟩ := stands.shows.flush
  simp only [finish, faultless, flushEq]
  cases failure with
  | some failure => exact ⟨rfl, rfl, stands.tape_eq.symm, flushedShows⟩
  | none =>
      refine ⟨rfl, rfl, stands.tape_eq.symm, ?_⟩
      unfold report
      cases state.loops with
      | nil => exact flushedShows.record _ rfl
      | cons start outer => exact (flushedShows.record _ rfl).record _ rfl

variable (block options input) (nonempty : 1 ≤ size)

include nonempty

theorem follows_evaluate (fuel : Nat) :
    Follows (ofBlock block size options) size (.initial size (.ofInput input))
      block.text.length [] fuel
      (block.evaluate size options fuel 0 (.initial size input)) := by
  have placed : HasAt (ofBlock block size options).program 0 block.text :=
    HasAt.of_toList block.text.toArray
  have stands : Stands size (.initial size (.ofInput input)) 0 [] (.initial size input) :=
    ⟨rfl, rfl, rfl, ⟨rfl, rfl⟩, World.fits_initial nonempty input⟩
  have simulation : Simulates (ofBlock block size options) size fuel := simulates rfl rfl fuel
  have follows := simulation block 0 [] (.initial size input) (.initial size (.ofInput input))
    placed (.first stands)
  rwa [Nat.zero_add] at follows

variable {block options input}

theorem run_of_finished
    (evaluated : block.evaluate size options fuel 0 (.initial size input) =
      .finished steps world) :
    ∃ fuel halt, (ofBlock block size options).run fuel size (.ofInput input) = some halt ∧
      halt.failure = none ∧ halt.Leaves steps world := by
  have follows := follows_evaluate block options input nonempty fuel
  rw [evaluated] at follows
  obtain ⟨reached, arrived, stepsEq, stands⟩ := follows
  have ended : (ofBlock block size options).program[reached.index]? = none := by
    rw [stands.index_eq]
    simp [ofBlock]
  have faultless : (ofBlock block size options).schedule = .none := rfl
  obtain ⟨failureEq, leaves⟩ := finish_leaves faultless none stands
  refine ⟨steps + 1, _, ?_, failureEq, ?_⟩
  · rw [run, execute_of_after arrived, execute_succ, step_of_end ended]
    rfl
  · rwa [stepsEq, State.initial, Nat.zero_add] at leaves

theorem run_of_strayed
    (evaluated : block.evaluate size options fuel 0 (.initial size input) =
      .strayed steps position world) :
    ∃ fuel halt, (ofBlock block size options).run fuel size (.ofInput input) = some halt ∧
      halt.StrayedAt position ∧ halt.Leaves steps world := by
  have follows := follows_evaluate block options input nonempty fuel
  rw [evaluated] at follows
  obtain ⟨reached, arrived, stepsEq, ⟨around, stands⟩, failed⟩ := follows
  let failure := (ofBlock block size options).offTape reached
  have faultless : (ofBlock block size options).schedule = .none := rfl
  obtain ⟨failureEq, leaves⟩ := finish_leaves faultless (some failure) stands
  refine ⟨steps + 1, (ofBlock block size options).finish ⟨some failure, reached⟩, ?_, ?_, ?_⟩
  · rw [run, execute_of_after arrived, execute_succ, failed]
    rfl
  · have cause : failure = .outOfBounds reached.tape.pointer size position
        (context (ofBlock block size options).program position) := by
      simp only [failure, offTape, Failure.offTape, stands.index_eq]
      rfl
    exact ⟨_, _, _, failureEq.trans (congrArg some cause)⟩
  · rwa [stepsEq, State.initial, Nat.zero_add] at leaves

/-- While the fuel of the evaluation does not last, as much does not last for
the run either. -/
theorem run_of_unfinished
    (evaluated : block.evaluate size options fuel 0 (.initial size input) = .unfinished) :
    (ofBlock block size options).run fuel size (.ofInput input) = none := by
  have follows := follows_evaluate block options input nonempty fuel
  rw [evaluated] at follows
  obtain ⟨count, reached, enough, arrived⟩ := follows
  obtain ⟨middle, halfway⟩ := exists_after_of_le enough arrived
  rw [run, execute_of_after_eq_none halfway]
  rfl

theorem evaluate_of_run
    (ran : (ofBlock block size options).run fuel size (.ofInput input) = some halt) :
    (∃ steps world, block.evaluate size options fuel 0 (.initial size input) =
        .finished steps world ∧ halt.failure = none ∧ halt.Leaves steps world) ∨
      ∃ steps position world, block.evaluate size options fuel 0 (.initial size input) =
        .strayed steps position world ∧ halt.StrayedAt position ∧ halt.Leaves steps world := by
  cases evaluated : block.evaluate size options fuel 0 (.initial size input) with
  | finished steps world =>
      obtain ⟨_, other, ran', ended, leaves⟩ := run_of_finished nonempty evaluated
      have same := run_unique ran ran'
      exact .inl ⟨steps, world, rfl, same ▸ ended, same ▸ leaves⟩
  | strayed steps position world =>
      obtain ⟨_, other, ran', strayed, leaves⟩ := run_of_strayed nonempty evaluated
      have same := run_unique ran ran'
      exact .inr ⟨steps, position, world, rfl, same ▸ strayed, same ▸ leaves⟩
  | unfinished =>
      rw [run_of_unfinished nonempty evaluated] at ran
      cases ran

theorem finished_iff_run (steps : Nat) (world : World) :
    (∃ fuel, block.evaluate size options fuel 0 (.initial size input) =
        .finished steps world) ↔
      ∃ fuel halt, (ofBlock block size options).run fuel size (.ofInput input) = some halt ∧
        halt.failure = none ∧ halt.Leaves steps world := by
  constructor
  · rintro ⟨fuel, evaluated⟩
    exact run_of_finished nonempty evaluated
  · rintro ⟨fuel, halt, ran, ended, leaves⟩
    rcases evaluate_of_run nonempty ran with
      ⟨steps', world', evaluated, _, leaves'⟩ | ⟨_, _, _, _, ⟨_, _, _, strayed⟩, _⟩
    · obtain ⟨rfl, rfl⟩ := leaves.unique leaves'
      exact ⟨fuel, evaluated⟩
    · rw [ended] at strayed
      cases strayed

theorem strayed_iff_run (steps position : Nat) (world : World) :
    (∃ fuel, block.evaluate size options fuel 0 (.initial size input) =
        .strayed steps position world) ↔
      ∃ fuel halt, (ofBlock block size options).run fuel size (.ofInput input) = some halt ∧
        halt.StrayedAt position ∧ halt.Leaves steps world := by
  constructor
  · rintro ⟨fuel, evaluated⟩
    exact run_of_strayed nonempty evaluated
  · rintro ⟨fuel, halt, ran, ⟨_, _, _, failed⟩, leaves⟩
    rcases evaluate_of_run nonempty ran with
      ⟨_, _, _, ended, _⟩ | ⟨steps', position', world', evaluated, ⟨_, _, _, failed'⟩, leaves'⟩
    · rw [ended] at failed
      cases failed
    · obtain ⟨rfl, rfl⟩ := leaves.unique leaves'
      rw [failed', Option.some.injEq, Failure.outOfBounds.injEq] at failed
      obtain rfl : position' = position := Int.ofNat_inj.mp failed.2.2.1
      exact ⟨fuel, evaluated⟩

theorem unfinished_iff_run :
    (∀ fuel, block.evaluate size options fuel 0 (.initial size input) = .unfinished) ↔
      ∀ fuel, (ofBlock block size options).run fuel size (.ofInput input) = none := by
  constructor
  · intro unfinished fuel
    exact run_of_unfinished nonempty (unfinished fuel)
  · intro endless fuel
    cases evaluated : block.evaluate size options fuel 0 (.initial size input) with
    | finished steps world =>
        obtain ⟨enough, halt, ran, _⟩ := run_of_finished nonempty evaluated
        rw [endless enough] at ran
        cases ran
    | strayed steps position world =>
        obtain ⟨enough, halt, ran, _⟩ := run_of_strayed nonempty evaluated
        rw [endless enough] at ran
        cases ran
    | unfinished => rfl

end Runs

/-- Every text with matched brackets is the text of one block, and running it
is evaluating the block: it ends in the same world after as many steps, leaves
the tape at the same position, or goes on for ever. -/
theorem run_iff_structured_evaluation
    (size : Nat) (options : Options) (input : List UInt8) (nonempty : 1 ≤ size) :
    (∀ text, Balanced text → ∃! block : Block, block.text = text) ∧
    ∀ block : Block,
      (∀ steps world,
        (∃ fuel, block.evaluate size options fuel 0 (.initial size input) =
            .finished steps world) ↔
          ∃ fuel halt,
            (ofBlock block size options).run fuel size (.ofInput input) = some halt ∧
              halt.failure = none ∧ halt.Leaves steps world) ∧
      (∀ steps position world,
        (∃ fuel, block.evaluate size options fuel 0 (.initial size input) =
            .strayed steps position world) ↔
          ∃ fuel halt,
            (ofBlock block size options).run fuel size (.ofInput input) = some halt ∧
              halt.StrayedAt position ∧ halt.Leaves steps world) ∧
      ((∀ fuel, block.evaluate size options fuel 0 (.initial size input) = .unfinished) ↔
        ∀ fuel, (ofBlock block size options).run fuel size (.ofInput input) = none) := by
  refine ⟨fun _ balanced => Block.existsUnique_text_eq balanced, ?_⟩
  intro block
  exact ⟨finished_iff_run nonempty, strayed_iff_run nonempty, unfinished_iff_run nonempty⟩

/-- A loop counts down from two, and what follows it strays off the tape. -/
theorem run_iff_structured_evaluation_of_countdown :
    let plus : PlainChar := ⟨'+', by decide, by decide⟩
    let minus : PlainChar := ⟨'-', by decide, by decide⟩
    let left : PlainChar := ⟨'<', by decide, by decide⟩
    let block : Block :=
      .plain plus (.plain plus (.loop (.plain minus .done) (.plain left .done)))
    1 ≤ 1 ∧ block.text = ['+', '+', '[', '-', ']', '<'] ∧
      ∃ fuel halt, (ofBlock block 1 .standard).run fuel 1 (.ofInput []) = some halt ∧
        halt.StrayedAt 5 ∧ halt.Leaves 7 ⟨⟨#[0], 0, 0⟩, [], []⟩ := by
  intro plus minus left block
  have evaluated : block.evaluate 1 .standard 8 0 (.initial 1 []) =
      .strayed 7 5 ⟨⟨#[0], 0, 0⟩, [], []⟩ := rfl
  have strays := ((run_iff_structured_evaluation 1 .standard [] (Nat.le_refl 1)).2 block).2.1
    7 5 ⟨⟨#[0], 0, 0⟩, [], []⟩
  exact ⟨Nat.le_refl 1, rfl, strays.mp ⟨8, evaluated⟩⟩

end Brainfuck.Machine
