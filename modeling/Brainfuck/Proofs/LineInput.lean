import Brainfuck.Lines
import Brainfuck.Proofs.InputRelation

/-!
# Line mode

In line mode a read takes the first byte of a line and drops the rest of it.  A run
in this mode is the run in byte mode on the first bytes of the lines: after every
instruction the first bytes of what is left for the one are what is left for the
other.
-/

namespace Brainfuck

/-- An input is cut into lines behind each newline; what is left behind the last
newline is a line as well unless it is empty. -/
inductive CutIntoLines : List UInt8 → List (List UInt8) → Prop where
  | nil : CutIntoLines [] []
  | unterminated {piece : List UInt8} :
      piece ≠ [] → Streams.newline ∉ piece → CutIntoLines piece [piece]
  | line {body rest : List UInt8} {lines : List (List UInt8)} :
      Streams.newline ∉ body → CutIntoLines rest lines →
      CutIntoLines (body ++ Streams.newline :: rest) ((body ++ [Streams.newline]) :: lines)

section Lines

variable {input body : List UInt8} {lines : List (List UInt8)}

theorem lineStarts_false_append
    (unbroken : Streams.newline ∉ body) (rest : List UInt8) :
    lineStarts false (body ++ rest) = lineStarts false rest := by
  induction body with
  | nil => rfl
  | cons byte body ih =>
      obtain ⟨different, unbroken⟩ := List.ne_and_not_mem_of_not_mem_cons unbroken
      have notNewline : (byte == Streams.newline) = false := by simpa using Ne.symm different
      rw [List.cons_append, lineStarts, notNewline]
      exact ih unbroken

private theorem firstBytes_cons_of_ne {byte : UInt8} (different : byte ≠ Streams.newline)
    (rest : List UInt8) : firstBytes (byte :: rest) = byte :: lineStarts false rest := by
  have notNewline : (byte == Streams.newline) = false := by simpa using different
  rw [firstBytes, lineStarts, notNewline]
  rfl

private theorem firstBytes_cons_newline (rest : List UInt8) :
    firstBytes (Streams.newline :: rest) = Streams.newline :: firstBytes rest := rfl

private theorem firstBytes_of_cut (cut : CutIntoLines input lines) :
    firstBytes input = lines.filterMap List.head? := by
  induction cut with
  | nil => rfl
  | @unterminated piece nonempty unbroken =>
      cases piece with
      | nil => exact absurd rfl nonempty
      | cons byte rest =>
          obtain ⟨different, unbroken⟩ := List.ne_and_not_mem_of_not_mem_cons unbroken
          have skipped := lineStarts_false_append unbroken []
          rw [List.append_nil] at skipped
          rw [firstBytes_cons_of_ne (Ne.symm different), skipped]
          rfl
  | @line body rest lines unbroken _ ih =>
      cases body with
      | nil =>
          rw [List.nil_append, firstBytes_cons_newline, ih]
          rfl
      | cons byte body =>
          obtain ⟨different, unbroken⟩ := List.ne_and_not_mem_of_not_mem_cons unbroken
          have skipped : lineStarts false (body ++ Streams.newline :: rest) = firstBytes rest :=
            lineStarts_false_append unbroken _
          rw [List.cons_append, firstBytes_cons_of_ne (Ne.symm different), skipped, ih]
          rfl

private theorem exists_cut (input : List UInt8) : ∃ lines, CutIntoLines input lines := by
  induction input with
  | nil => exact ⟨[], .nil⟩
  | cons byte rest ih =>
      obtain ⟨lines, cut⟩ := ih
      by_cases isNewline : byte = Streams.newline
      · subst isNewline
        have whole : CutIntoLines ([] ++ Streams.newline :: rest) _ := .line List.not_mem_nil cut
        exact ⟨_, whole⟩
      · have different : Streams.newline ≠ byte := Ne.symm isNewline
        cases cut with
        | nil =>
            refine ⟨_, .unterminated (List.cons_ne_nil _ _) ?_⟩
            exact List.not_mem_cons_of_ne_of_not_mem different List.not_mem_nil
        | unterminated _ unbroken =>
            refine ⟨_, .unterminated (List.cons_ne_nil _ _) ?_⟩
            exact List.not_mem_cons_of_ne_of_not_mem different unbroken
        | @line body behind lines unbroken cut =>
            have unbroken' := List.not_mem_cons_of_ne_of_not_mem different unbroken
            have longer : CutIntoLines ((byte :: body) ++ Streams.newline :: behind) _ :=
              .line unbroken' cut
            exact ⟨_, longer⟩

end Lines

namespace Machine

variable {program : Program} {size : Nat} {options : Options}

private theorem head?_firstBytes (input : List UInt8) : (firstBytes input).head? = input.head? := by
  cases input <;> rfl

/-- Dropping the rest of a line leaves the first bytes of the lines behind it. -/
theorem inputLeft_firstBytes (input : List UInt8) :
    (reliable program size { options with inputMode := .byte }).inputLeft (firstBytes input) =
      firstBytes ((reliable program size { options with inputMode := .line }).inputLeft input) := by
  cases input with
  | nil => rfl
  | cons byte rest =>
      by_cases isNewline : byte = Streams.newline
      · subst isNewline
        rfl
      · rw [firstBytes_cons_of_ne isNewline, lineStarts_false]
        simp [inputLeft, reliable, World.inputAfter, isNewline]

/-- What is left for a run in line mode, and for the one in byte mode on the first
bytes of the lines. -/
def OnFirstBytes (input input' : List UInt8) : Prop := input' = firstBytes input

theorem keepsInputs_onFirstBytes
    (command : Option Command) {input input' : List UInt8} (inputs : OnFirstBytes input input') :
    KeepsInputs (reliable program size { options with inputMode := .line })
      (reliable program size { options with inputMode := .byte }) command OnFirstBytes
      input input' := by
  unfold KeepsInputs
  split
  · rw [inputs, head?_firstBytes]
    exact ⟨rfl, inputLeft_firstBytes input⟩
  · exact inputs

/-- A run in line mode goes the way of the run in byte mode on the first bytes of
the lines. -/
theorem line_mode_reads_first_bytes
    (program : Program) (size : Nat) (options : Options) (input : List UInt8) :
    let byLine := reliable program size { options with inputMode := .line }
    let byByte := reliable program size { options with inputMode := .byte }
    (∃ lines, CutIntoLines input lines ∧ firstBytes input = lines.filterMap List.head?) ∧
    (∀ count,
      Option.Rel (State.Same (Streams.Alongside OnFirstBytes))
        (byLine.after count (.initial size (.ofInput input)))
        (byByte.after count (.initial size (.ofInput (firstBytes input))))) ∧
    ∀ fuel,
      Option.Rel (Halt.Related Eq (State.Same (Streams.Alongside OnFirstBytes)))
        (byLine.run fuel size (.ofInput input))
        (byByte.run fuel size (.ofInput (firstBytes input))) := by
  intro byLine byByte
  have pair : SameButReading byLine byByte :=
    sameButReading_reliable program size options options.eof options.eof .line .byte
  have inputs : OnFirstBytes input (firstBytes input) := rfl
  have initially := alongside_ofInput inputs size
  have steps : ∀ state state', State.Same (Streams.Alongside OnFirstBytes) state state' →
      Step.Related Eq (State.Same (Streams.Alongside OnFirstBytes))
        (byLine.step state) (byByte.step state') := by
    intro state state' same
    apply step_alongside pair same
    exact keepsInputs_onFirstBytes _ same.streams.inputs
  refine ⟨?_, ?_, ?_⟩
  · obtain ⟨lines, cut⟩ := exists_cut input
    exact ⟨lines, cut, firstBytes_of_cut cut⟩
  · intro count
    exact afterBy_related steps count initially
  · intro fuel
    refine rel_map ?_ (executeBy_related steps fuel initially)
    intro halt halt' _ same
    exact finish_alongside pair same

end Machine

end Brainfuck
