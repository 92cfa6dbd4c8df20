import Brainfuck.Proofs.Adequacy
import Brainfuck.Proofs.ConsumedInput

/-!
# The echo program

The loop of `,[.,]` stands before a byte that was read: it puts the byte out and reads the
next one, until a zero is read.  A zero comes from the input or, at its end, from the
policy; when neither gives one, the loop goes on for ever, and the last cell is put out
again and again.

The evaluation is followed one round at a time.  `echoed` is what a round does to the
world, and `Restless` is what keeps the loop from ending.
-/

namespace Brainfuck

namespace Block

/-- One round of the echo: puts the current cell out and reads the next byte. -/
def echoBody : Block :=
  .plain ⟨'.', by decide, by decide⟩ (.plain ⟨',', by decide, by decide⟩ .done)

/-- Rounds of the echo until a zero is read. -/
def echoLoop : Block := .loop echoBody .done

def echo : Block := .plain ⟨',', by decide, by decide⟩ echoLoop

end Block

namespace World

variable {size : Nat} {options : Options} {world : World} {byte : UInt8} {rest : List UInt8}

def echoed (options : Options) (world : World) : World :=
  ({ world with emitted := world.current :: world.emitted }).read options

section Reads

theorem Fits.current_put (fits : world.Fits size) (value : UInt8) :
    (world.put value).current = value := by
  have inside : world.tape.pointer < world.tape.cells.size := fits.cells.symm ▸ fits.pointer
  simp only [current, World.put, Tape.current?_put inside, Option.getD_some]

theorem Fits.read (fits : world.Fits size) (options : Options) :
    (world.read options).Fits size := by
  unfold World.read
  split
  · exact ⟨(fits.put _).cells, (fits.put _).pointer⟩
  · exact fits.put 0
  · exact fits
  · exact fits.put 255

@[simp]
theorem emitted_read (options : Options) (world : World) :
    (world.read options).emitted = world.emitted := by
  unfold World.read
  split <;> rfl

theorem read_cons_eq (bytes : options.inputMode = .byte) (more : world.input = byte :: rest) :
    world.read options = { world.put byte with input := rest } := by
  simp only [read, more, bytes, inputAfter]

/-- At the end of the input the policy decides which cell is left. -/
theorem read_nil_eq (atEnd : world.input = []) :
    world.read options = match options.eof with
      | .zero => world.put 0
      | .unchanged => world
      | .max => world.put 255 := by
  unfold read
  rw [atEnd]
  split <;> simp_all

end Reads

end World

namespace Block

variable {size fuel position : Nat} {options : Options} {world : World}

section Rounds

theorem evaluate_echoBody (size : Nat) (options : Options) (fuel position : Nat)
    (world : World) :
    echoBody.evaluate size options (fuel + 3) position world =
      .finished 2 (world.echoed options) := rfl

/-- With less fuel, a round is not finished. -/
theorem evaluate_echoBody_cases (size : Nat) (options : Options) (fuel position : Nat)
    (world : World) :
    echoBody.evaluate size options fuel position world = .unfinished ∨
      echoBody.evaluate size options fuel position world =
        .finished 2 (world.echoed options) := by
  match fuel with
  | 0 | 1 | 2 => exact .inl rfl
  | fuel + 3 => exact .inr (evaluate_echoBody size options fuel position world)

theorem evaluate_echoLoop_of_zero (zero : world.current = 0) (fuel : Nat) :
    echoLoop.evaluate size options (fuel + 2) position world = .finished 1 world := by
  unfold echoLoop
  rw [evaluate, if_pos zero]
  rfl

theorem evaluate_echoLoop_of_ne (different : world.current ≠ 0) :
    echoLoop.evaluate size options (fuel + 4) position world =
      (echoLoop.evaluate size options (fuel + 3) position (world.echoed options)).later 3 := by
  unfold echoLoop
  rw [evaluate, if_neg different, evaluate_echoBody]

theorem evaluate_echo (fuel position : Nat) (world : World) :
    echo.evaluate size options (fuel + 1) position world =
      (echoLoop.evaluate size options fuel (position + 1) (world.read options)).later 1 := rfl

end Rounds

section Ends

/-- When a zero is read in the end, the bytes before it are put out in three instructions
each. -/
theorem exists_evaluate_echoLoop (fits : world.Fits size) (bytes : options.inputMode = .byte)
    (ends : 0 ∈ world.input ∨ options.eof = .zero) :
    ∃ last,
      echoLoop.evaluate size options (world.input.length + 3) position (world.read options) =
        .finished (1 + 3 * (world.input.takeWhile (· ≠ 0)).length) last ∧
      last.emitted = (world.input.takeWhile (· ≠ 0)).reverse ++ world.emitted := by
  generalize more : world.input = input at ends ⊢
  induction input generalizing world with
  | nil =>
      have policy : options.eof = .zero := ends.resolve_left List.not_mem_nil
      have zero : (world.read options).current = 0 := by
        rw [World.read_nil_eq more, policy]
        exact fits.current_put 0
      exact ⟨_, evaluate_echoLoop_of_zero zero 1, World.emitted_read options world⟩
  | cons byte rest ih =>
      have current : (world.read options).current = byte := by
        rw [World.read_cons_eq bytes more]
        exact fits.current_put byte
      by_cases isZero : byte = 0
      · have nothing : (byte :: rest).takeWhile (· ≠ 0) = [] := by simp [isZero]
        rw [nothing]
        refine ⟨_, evaluate_echoLoop_of_zero (current.trans isZero) _, ?_⟩
        exact World.emitted_read options world
      · have first : (byte :: rest).takeWhile (· ≠ 0) = byte :: rest.takeWhile (· ≠ 0) := by
          simp [isZero]
        have different : (world.read options).current ≠ 0 := by rwa [current]
        let next : World :=
          { world.read options with emitted := byte :: world.emitted }
        have nextEq : (world.read options).echoed options = next.read options := by
          rw [World.echoed, current, World.emitted_read]
        have nextFits : next.Fits size := ⟨(fits.read options).cells, (fits.read options).pointer⟩
        have nextMore : next.input = rest := by
          simp only [next, World.read_cons_eq bytes more]
        have nextEnds : 0 ∈ rest ∨ options.eof = .zero :=
          ends.imp_left fun member => (List.mem_cons.mp member).resolve_left (Ne.symm isZero)
        obtain ⟨last, evaluated, emitted⟩ := ih nextFits nextMore nextEnds
        refine ⟨last, ?_, ?_⟩
        · rw [List.length_cons, Nat.add_right_comm, evaluate_echoLoop_of_ne different, nextEq,
            evaluated, first, List.length_cons, Evaluation.later]
          congr 1
          omega
        · rw [emitted, first, List.reverse_cons, List.append_assoc]
          rfl

end Ends

end Block

/-- No zero is read: there is none in the rest of the input, the policy has none, and the
current cell is another one. -/
structure World.Restless (size : Nat) (options : Options) (world : World) : Prop where
  fits : world.Fits size
  current : world.current ≠ 0
  input : 0 ∉ world.input
  policy : options.eof ≠ .zero

section Endless

variable {size : Nat} {options : Options} {world : World}

/-- A read makes the world restless when it changes a cell, or if the cell was not zero
before. -/
theorem World.Restless.of_read (fits : world.Fits size) (bytes : options.inputMode = .byte)
    (input : 0 ∉ world.input) (policy : options.eof ≠ .zero)
    (loud : world.input = [] → options.eof = .unchanged → world.current ≠ 0) :
    (world.read options).Restless size options := by
  refine ⟨fits.read options, ?_, ?_, policy⟩
  · cases more : world.input with
    | nil =>
        rw [World.read_nil_eq more]
        cases eof : options.eof with
        | zero => exact absurd eof policy
        | unchanged => exact loud more eof
        | max =>
            dsimp only
            rw [fits.current_put]
            decide
    | cons byte rest =>
        rw [World.read_cons_eq bytes more]
        have current : ({ world.put byte with input := rest } : World).current = byte :=
          fits.current_put byte
        rw [current]
        rintro rfl
        exact input (more ▸ List.mem_cons_self)
  · cases more : world.input with
    | nil =>
        rw [World.read_nil_eq more]
        split <;> exact input
    | cons byte rest =>
        rw [World.read_cons_eq bytes more]
        exact fun member => input (more ▸ List.mem_cons_of_mem _ member)

theorem World.Restless.echoed (restless : world.Restless size options)
    (bytes : options.inputMode = .byte) : (world.echoed options).Restless size options :=
  .of_read ⟨restless.fits.cells, restless.fits.pointer⟩ bytes restless.input restless.policy
    fun _ _ => restless.current

/-- No fuel is enough for the loop while the world is restless. -/
theorem World.Restless.evaluate_eq (restless : world.Restless size options)
    (bytes : options.inputMode = .byte) (fuel position : Nat) :
    Block.echoLoop.evaluate size options fuel position world = .unfinished := by
  induction fuel generalizing world with
  | zero => rfl
  | succ fuel ih =>
      unfold Block.echoLoop at ih ⊢
      rw [Block.evaluate, if_neg restless.current]
      rcases Block.evaluate_echoBody_cases size options fuel (position + 1) world with
        unfinished | finished
      · rw [unfinished]
        rfl
      · rw [finished]
        dsimp only
        rw [ih (restless.echoed bytes)]
        rfl

end Endless

namespace Machine

variable {size : Nat} {options : Options} {eof : EofPolicy} {input : List UInt8}

def echoer (size : Nat) (options : Options) (eof : EofPolicy) : Machine :=
  byteReader #[',', '[', '.', ',', ']'] size options eof

/-- A run ends normally, has put out the bytes before the first zero, and took three
instructions for each of them and two more. -/
def Echoes (machine : Machine) (size : Nat) (input : List UInt8) : Prop :=
  ∃ fuel halt, machine.run fuel size (.ofInput input) = some halt ∧ halt.failure = none ∧
    halt.state.streams.output = input.takeWhile (· ≠ 0) ∧
    halt.state.steps = 2 + 3 * (input.takeWhile (· ≠ 0)).length

section Runs

variable (nonempty : 1 ≤ size)

include nonempty

theorem echoes_of_finished {fuel : Nat} {last : World}
    (evaluated : Block.echoLoop.evaluate size (echoer size options eof).options fuel 1
        ((World.initial size input).read (echoer size options eof).options) =
      .finished (1 + 3 * (input.takeWhile (· ≠ 0)).length) last)
    (emitted : last.emitted = (input.takeWhile (· ≠ 0)).reverse) :
    Echoes (echoer size options eof) size input := by
  have whole : Block.echo.evaluate size (echoer size options eof).options (fuel + 1) 0
      (.initial size input) =
        .finished (1 + (1 + 3 * (input.takeWhile (· ≠ 0)).length)) last := by
    rw [Block.evaluate_echo, evaluated]
    rfl
  obtain ⟨fuel', halt, ran, normal, leaves⟩ := run_of_finished nonempty whole
  refine ⟨fuel', halt, ran, normal, ?_, ?_⟩
  · rw [leaves.shows.output_eq, emitted, List.reverse_reverse]
  · rw [leaves.steps_eq]
    omega

theorem echoes_of_ends (ends : 0 ∈ input ∨ eof = .zero) :
    Echoes (echoer size options eof) size input := by
  have fits := World.fits_initial nonempty input
  have bytes : (echoer size options eof).options.inputMode = .byte := rfl
  obtain ⟨last, evaluated, emitted⟩ := Block.exists_evaluate_echoLoop fits bytes ends
  exact echoes_of_finished nonempty evaluated (emitted.trans (List.append_nil _))

/-- When nothing can be read and cells are left as they are, the loop is skipped. -/
theorem echoes_unchanged_nil : Echoes (echoer size options .unchanged) size [] := by
  let bytewise := (echoer size options .unchanged).options
  have unchanged : (World.initial size []).read bytewise = .initial size [] := rfl
  have inside : 0 < size := nonempty
  have blank : (World.initial size []).current = 0 := by
    simp [World.current, World.initial, Tape.current?, Tape.blank, inside]
  exact echoes_of_finished nonempty (Block.evaluate_echoLoop_of_zero (unchanged ▸ blank) 0) rfl

theorem run_echoer_eq_none (noZero : 0 ∉ input) (policy : eof ≠ .zero)
    (loud : input = [] → eof ≠ .unchanged) (fuel : Nat) :
    (echoer size options eof).run fuel size (.ofInput input) = none := by
  let bytewise := (echoer size options eof).options
  have restless : ((World.initial size input).read bytewise).Restless size bytewise :=
    .of_read (World.fits_initial nonempty input) rfl noZero policy
      fun atEnd unchanged => absurd unchanged (loud atEnd)
  have unfinished : Block.echo.evaluate size bytewise fuel 0 (.initial size input) =
      .unfinished := by
    cases fuel with
    | zero => rfl
    | succ fuel =>
        rw [Block.evaluate_echo, restless.evaluate_eq rfl]
        rfl
  exact run_of_unfinished nonempty unfinished

end Runs

/-- The echo program puts out its input up to the first zero.  Without one it goes on for
ever, unless the policy gives a zero or leaves the blank cell as it is. -/
theorem echo_puts_out_input_up_to_zero
    (nonempty : 1 ≤ size) (options : Options) (input : List UInt8) :
    Echoes (echoer size options .zero) size input ∧
      (0 ∈ input → ∀ eof, Echoes (echoer size options eof) size input) ∧
      (0 ∉ input →
        ∀ fuel, (echoer size options .max).run fuel size (.ofInput input) = none) ∧
      (0 ∉ input → input ≠ [] →
        ∀ fuel, (echoer size options .unchanged).run fuel size (.ofInput input) = none) ∧
      Echoes (echoer size options .unchanged) size [] := by
  refine ⟨echoes_of_ends nonempty (.inr rfl), ?_, ?_, ?_, echoes_unchanged_nil nonempty⟩
  · intro member eof
    exact echoes_of_ends nonempty (.inl member)
  · intro noZero fuel
    exact run_echoer_eq_none nonempty noZero (by decide) (fun _ => by decide) fuel
  · intro noZero more fuel
    exact run_echoer_eq_none nonempty noZero (by decide) (absurd · more) fuel

/-- A byte behind the first zero is not read any more. -/
theorem echo_puts_out_input_up_to_zero_of_two_bytes :
    1 ≤ 1 ∧ ∃ fuel halt,
      (echoer 1 .standard .max).run fuel 1 (.ofInput [104, 105, 0, 7]) = some halt ∧
        halt.failure = none ∧ halt.state.streams.output = [104, 105] ∧
        halt.state.steps = 8 := by
  have echoes := echo_puts_out_input_up_to_zero (Nat.le_refl 1) .standard [104, 105, 0, 7]
  exact ⟨Nat.le_refl 1, echoes.2.1 (by decide) .max⟩

end Machine

end Brainfuck
