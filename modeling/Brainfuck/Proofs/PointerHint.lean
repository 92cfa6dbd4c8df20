import Brainfuck.Proofs.Decimal
import Brainfuck.Proofs.FailedRun

/-!
# Advice about moves off the tape

A report of a move off the tape gives the pointer and the size of the tape, and the
advice behind it is chosen by a search for pointer 0 in these words.  Where the tape
has several cells, a move fails at the first one only to the left, so that the advice
names the direction of the move.  On a tape with a single cell both moves fail at
pointer 0, and both get the advice about the left.
-/

namespace Brainfuck

def leftAdvice : String :=
  "The program moved left of the first cell. Check the balance of \"<\" and \">\" inside loops."

def rightAdvice : String :=
  "The program moved past the last cell. The tape does not wrap around."

def adviceFor? (character : Char) : Option String :=
  if character = '<' then some leftAdvice
  else if character = '>' then some rightAdvice
  else none

def offTapeWords (pointer size : Int) : String :=
  s!"Pointer is out of bounds. (pointer: {pointer}, memory_size: {size})"

def offTapeReport (pointer size : Int) (context advice : String) : String :=
  s!"RuntimeError: {offTapeWords pointer size}\n{context}\nHint: {advice}"

section Search

private theorem containsText_eq_false_of_not_mem
    {first : Char} {wanted text : List Char} (missing : first ∉ text) :
    containsText (first :: wanted) text = false := by
  induction text with
  | nil => rfl
  | cons character rest ih =>
      have notHere : first ≠ character := List.ne_of_not_mem_cons missing
      have notLater : first ∉ rest := List.not_mem_of_not_mem_cons missing
      simp [containsText, List.isPrefixOf, notHere, ih notLater]

/-- A number with a comma behind it starts with a zero and a comma if it is zero. -/
theorem isPrefixOf_toDigits_append (number : Nat) (rest : List Char) :
    ['0', ','].isPrefixOf (Nat.toDigits 10 number ++ ',' :: rest) = decide (number = 0) := by
  rw [Bool.eq_iff_iff, decide_eq_true_iff, ← toDigits_eq_zero_iff]
  have digits := fun character => @isDigit_of_mem_toDigits number character
  generalize Nat.toDigits 10 number = text at digits
  rcases text with _ | ⟨first, _ | ⟨second, others⟩⟩
  · simp [List.isPrefixOf]
  · simp only [List.cons_append, List.nil_append, List.isPrefixOf, beq_self_eq_true,
      Bool.and_true, beq_iff_eq, List.cons.injEq, and_true]
    exact eq_comm
  · have notComma : ',' ≠ second := by
      rintro rfl
      exact absurd (digits ',' (by simp)) (by decide)
    simp [List.isPrefixOf, notComma]

private theorem map_toLower_toDigits (number : Nat) :
    (Nat.toDigits 10 number).map Char.toLower = Nat.toDigits 10 number := by
  have lowered : ∀ character ∈ Nat.toDigits 10 number, character.toLower = id character := by
    intro character digit
    have isDigit := isDigit_of_mem_toDigits digit
    have notUpper : ¬ ('A'.val ≤ character.val ∧ character.val ≤ 'Z'.val) := by
      grind [Char.isDigit]
    exact dif_neg notUpper
  rw [List.map_congr_left lowered, List.map_id]

end Search

section Report

private theorem toList_offTapeWords (pointer size : Nat) :
    (offTapeWords pointer size).toList =
      "Pointer is out of bounds. (pointer: ".toList ++ Nat.toDigits 10 pointer ++
        ", memory_size: ".toList ++ Nat.toDigits 10 size ++ ")".toList := by
  have same : ∀ text : String, toString text = text := fun _ => rfl
  unfold offTapeWords
  simp only [String.toList_append, same, toList_toString]

/-- The words in lower case, up to the pointer and behind it. -/
theorem map_toLower_offTapeWords (pointer size : Nat) :
    (offTapeWords pointer size).toList.map Char.toLower =
      "pointer is out of bounds. (pointer: ".toList ++ (Nat.toDigits 10 pointer ++
        ',' :: (" memory_size: ".toList ++ (Nat.toDigits 10 size ++ [')']))) := by
  have first : "Pointer is out of bounds. (pointer: ".toList.map Char.toLower =
      "pointer is out of bounds. (pointer: ".toList := rfl
  have second : ", memory_size: ".toList.map Char.toLower = ", memory_size: ".toList := rfl
  have last : ")".toList.map Char.toLower = [')'] := rfl
  rw [toList_offTapeWords, List.map_append, List.map_append, List.map_append, List.map_append,
    map_toLower_toDigits, map_toLower_toDigits, first, second, last]
  simp

/-- The search for pointer 0 succeeds behind the colon or nowhere. -/
theorem containsText_append_rest {rest : List Char} (missing : 'p' ∉ rest) :
    containsText "pointer: 0,".toList ("pointer is out of bounds. (pointer: ".toList ++ rest) =
      ['0', ','].isPrefixOf rest := by
  have searched : containsText "pointer: 0,".toList rest = false :=
    containsText_eq_false_of_not_mem missing
  simp_all [containsText, List.isPrefixOf]

private theorem containsText_offTapeWords (pointer size : Nat) :
    containsText "pointer: 0,".toList ((offTapeWords pointer size).toList.map Char.toLower) =
      decide (pointer = 0) := by
  have noLetter : ∀ number : Nat, 'p' ∉ Nat.toDigits 10 number := not_mem_toDigits rfl
  rw [map_toLower_offTapeWords, containsText_append_rest, isPrefixOf_toDigits_append]
  simp [noLetter]

theorem offTapeReport_eq_append (pointer size : Int) (context advice : String) :
    offTapeReport pointer size context advice =
      "RuntimeError: " ++ offTapeWords pointer size ++ "\n" ++ context ++ "\nHint: " ++ advice :=
  rfl

/-- A report shows which advice it gives. -/
theorem offTapeReport_injective (pointer size : Int) (context : String) :
    Function.Injective (offTapeReport pointer size context) := by
  intro advice other same
  rw [offTapeReport_eq_append, offTapeReport_eq_append] at same
  exact (String.append_right_inj _).mp same

theorem Failure.message_outOfBounds (pointer size position : Int) (context : String) :
    (Failure.outOfBounds pointer size position context).message =
      "RuntimeError: " ++ offTapeWords pointer size ++ "\n" ++ context ++
        hintLines .pointer (offTapeWords pointer size) := rfl

/-- The advice in a report of a move off the tape depends on the pointer alone. -/
theorem message_eq_offTapeReport
    (pointer size : Nat) (position : Int) (context : String) :
    (Failure.outOfBounds pointer size position context).message =
      offTapeReport pointer size context (if pointer = 0 then leftAdvice else rightAdvice) := by
  have hinted : hint? .pointer (offTapeWords pointer size) =
      some (if pointer = 0 then leftAdvice else rightAdvice) := by
    simp only [hint?, pointerHint, containsText_offTapeWords, decide_eq_true_eq]
    rfl
  have lines : hintLines .pointer (offTapeWords pointer size) =
      "\nHint: " ++ (if pointer = 0 then leftAdvice else rightAdvice) := by
    rw [hintLines, hinted]
  rw [Failure.message_outOfBounds, lines, offTapeReport_eq_append, ← String.append_assoc]

end Report

namespace Machine

variable {machine : Machine} {size fuel : Nat} {streams : Streams} {halt : Halt}
  {failure : Failure} {pointer stated position : Int} {context : String}

/-- A run whose reported failure is not one of the last flush failed at the
instruction that this failure names. -/
theorem EndOfRun.exists_blames
    (ends : EndOfRun machine (.initial size streams) halt) (nonempty : 1 ≤ size)
    (sized : machine.size = size) (failed : halt.failure = some failure)
    (notInterrupted : ∀ reason, failure ≠ .interrupted reason) :
    ∃ reached, machine.Reaches (.initial size streams) reached ∧
      Blames machine reached failure := by
  cases ends with
  | ended _ _ =>
      rcases (finished_finish machine _).failure_eq failed with cause | ⟨reason, cause⟩
      · cases cause
      · exact absurd cause (notInterrupted reason)
  | @failed reached left met arrived stuck =>
      rcases (finished_finish machine _).failure_eq failed with cause | ⟨reason, cause⟩
      · cases cause
        obtain ⟨count, arrivedAfter⟩ := arrived
        have sound := after_tape_sound arrivedAfter sized (Tape.sound_blank nonempty)
        exact ⟨reached, ⟨count, arrivedAfter⟩, stuck.blames sized sound⟩
      · exact absurd cause (notInterrupted reason)

private theorem leftAdvice_ne_rightAdvice : leftAdvice ≠ rightAdvice := by decide

/-- The report of a move off the tape gives advice about the direction of that move,
unless it was a move to the right on a tape with a single cell: there the advice is
about the left. -/
theorem advice_names_direction
    (nonempty : 1 ≤ size) (sized : machine.size = size)
    (ran : machine.run fuel size streams = some halt)
    (failed : halt.failure = some (.outOfBounds pointer stated position context)) :
    ∃ (index : Nat) (character : Char) (advice : String),
      position = index ∧ machine.program[index]? = some character ∧
      adviceFor? character = some advice ∧
      ((Failure.outOfBounds pointer stated position context).message =
          offTapeReport pointer stated context advice ↔ (character = '>' → 2 ≤ size)) ∧
      (size = 1 → (Failure.outOfBounds pointer stated position context).message =
        offTapeReport pointer stated context leftAdvice) := by
  have notInterrupted : ∀ reason,
      Failure.outOfBounds pointer stated position context ≠ .interrupted reason := by
    intro reason interrupted
    cases interrupted
  obtain ⟨reached, _, blames⟩ :=
    (endOfRun_of_run ran).exists_blames nonempty sized failed notInterrupted
  cases blames with
  | left found first =>
      have message := message_eq_offTapeReport reached.tape.pointer size reached.index
        (Brainfuck.context machine.program reached.index)
      rw [if_pos first, ← sized] at message
      exact ⟨reached.index, '<', leftAdvice, rfl, found, rfl, by simp [message], fun _ => message⟩
  | right found last =>
      have message := message_eq_offTapeReport reached.tape.pointer size reached.index
        (Brainfuck.context machine.program reached.index)
      have several : 2 ≤ size ↔ reached.tape.pointer ≠ 0 := by omega
      rw [← sized] at message
      refine ⟨reached.index, '>', rightAdvice, rfl, found, rfl, ?_, ?_⟩
      · rw [message, (offTapeReport_injective _ _ _).eq_iff, several]
        split
        · next single => simp [single, leftAdvice_ne_rightAdvice]
        · next other => simp [other]
      · intro single
        rw [message, if_pos (by omega)]

/-- The second move to the right leaves a tape with two cells. -/
theorem advice_names_direction_behind_second_cell :
    let context := Brainfuck.context #['>', '>'] 1
    let failure := Failure.outOfBounds 1 2 1 context
    (∃ halt, run ⟨#['>', '>'], 2, .standard, .none⟩ 2 2 (.ofInput []) = some halt ∧
      halt.failure = some failure) ∧
      failure.message = offTapeReport 1 2 context rightAdvice := by
  intro context failure
  have ran : ∃ halt, run ⟨#['>', '>'], 2, .standard, .none⟩ 2 2 (.ofInput []) = some halt ∧
      halt.failure = some failure := ⟨_, rfl, rfl⟩
  refine ⟨ran, ?_⟩
  obtain ⟨halt, halted, failed⟩ := ran
  obtain ⟨index, character, advice, place, found, advises, names, _⟩ :=
    advice_names_direction (by decide) rfl halted failed
  have second : index = 1 := by omega
  rw [second] at found
  cases found
  cases advises
  exact names.mpr fun _ => Nat.le_refl 2

/-- On a tape with a single cell, the advice about a move to the right is that the
program moved to the left. -/
theorem advice_misleads_on_single_cell :
    let context := Brainfuck.context #['>'] 0
    let failure := Failure.outOfBounds 0 1 0 context
    ∃ halt, run ⟨#['>'], 1, .standard, .none⟩ 1 1 (.ofInput []) = some halt ∧
      halt.failure = some failure ∧ adviceFor? '>' = some rightAdvice ∧
      failure.message = offTapeReport 0 1 context leftAdvice ∧
      failure.message ≠ offTapeReport 0 1 context rightAdvice := by
  intro context failure
  have message : failure.message = offTapeReport 0 1 context leftAdvice :=
    message_eq_offTapeReport 0 1 0 context
  refine ⟨_, rfl, rfl, rfl, message, ?_⟩
  rw [message, (offTapeReport_injective _ _ _).ne_iff]
  exact leftAdvice_ne_rightAdvice

end Machine

end Brainfuck
