import Brainfuck.Proofs.LoopStack
import Brainfuck.Proofs.RunEnd

/-!
# Bracket failures are decided by the text

A run meets an unmatched bracket only when control gets there.  Whether it may
fail at a bracket, at which one, and how many loops are open when it ends is
decided by the text all the same, since the stack of loops is.
-/

namespace Brainfuck

/-- The first bracket of a text that closes a loop which the text did not
open. -/
def FirstStrayClose (text : List Char) (position : Nat) : Prop :=
  (text.take (position + 1)).count '[' < (text.take (position + 1)).count ']' ∧
    ∀ earlier < position,
      (text.take (earlier + 1)).count ']' ≤ (text.take (earlier + 1)).count '['

/-- A closing bracket without a partner. -/
def StrayClose (text : List Char) (position : Nat) : Prop :=
  text[position]? = some ']' ∧ ∀ start, ¬ Partners text start position

section Text

variable {program : Program} {index : Nat} {loops : List Nat}

/-- A closing bracket that is met with nothing open is the first that is too
many. -/
theorem firstStrayClose_of_openBrackets?
    (opened : openBrackets? program index = some [])
    (found : program[index]? = some ']') : FirstStrayClose program.toList index := by
  have leaves := leavesOpen_of_openFrom? opened
  have listed : program.toList[index]? = some ']' := by simpa using found
  constructor
  · have counts := leaves.length_add_count
    rw [List.take_add_one, listed]
    simp only [Option.toList_some, List.count_append]
    simp at counts ⊢
    omega
  · intro earlier before
    have bound := leaves.neverOverclosed (earlier + 1)
    rwa [List.take_take, Nat.min_eq_left before] at bound

private theorem LeavesOpen.not_strayClose
    {text : List Char} (leaves : LeavesOpen text loops) (position : Nat) :
    ¬ StrayClose text position := by
  rintro ⟨found, lonely⟩
  have computed := leaves.openFrom?_eq
  rw [split_of_getElem? found, openFrom?_append] at computed
  obtain ⟨inner, innerComputed, rest⟩ := Option.bind_eq_some_iff.mp computed
  cases inner with
  | nil => simp [openFrom?] at rest
  | cons start outer =>
      have partners := (leavesOpen_of_openFrom? innerComputed).partners_of_close
        (text.drop (position + 1))
      rw [← split_of_getElem? found, length_take_of_getElem? found] at partners
      exact lonely start partners

theorem Balanced.not_firstStrayClose
    {text : List Char} (balanced : Balanced text) (position : Nat) :
    ¬ FirstStrayClose text position := by
  rintro ⟨excess, _⟩
  have bound := (LeavesOpen.balanced balanced).neverOverclosed (position + 1)
  omega

private theorem Balanced.not_unclosed
    {text : List Char} (balanced : Balanced text) (position : Nat) :
    ¬ Unclosed text position := by
  rintro ⟨found, lonely⟩
  obtain ⟨stop, partners⟩ := balanced.exists_partners found
  exact lonely stop partners

theorem Balanced.openLoops_eq_nil
    {text : List Char} (balanced : Balanced text) {positions : List Nat}
    (lists : ListsUnclosed text positions) : positions = [] := by
  apply List.eq_nil_iff_forall_not_mem.mpr
  intro position member
  exact balanced.not_unclosed position ((lists.mem_iff position).mp member)

end Text

namespace Machine

variable {machine : Machine} {start state : State} {halt : Halt}

/-- An instruction that reports a malformed program is an unmatched bracket. -/
theorem Stuck.malformed_cases
    {left : State} {reason context : String} {position : Int}
    (stuck : Stuck machine state (.malformed reason position context) left) :
    position = (state.index : Int) ∧
      ((reason = "Unmatched '['" ∧ machine.program[state.index]? = some '[' ∧
          closing? machine.program (state.index + 1) = none) ∨
        (reason = "Unmatched ']'" ∧ machine.program[state.index]? = some ']' ∧
          state.loops = [])) := by
  generalize failureEq : Failure.malformed reason position context = failure at stuck
  cases stuck with
  | plain _ _ _ failed =>
      cases (effect_failed failed).2 <;> cases failureEq
  | stray _ _ _ _ => cases failureEq
  | noCellAtOpen _ _ => cases failureEq
  | noCellAtClose _ _ _ => cases failureEq
  | unmatchedOpen found _ closing =>
      cases failureEq
      exact ⟨rfl, .inl ⟨rfl, found, closing⟩⟩
  | unmatchedClose found loops =>
      cases failureEq
      exact ⟨rfl, .inr ⟨rfl, found, loops⟩⟩

section Outcome

variable {length : Nat} {streams : Streams}

/-- A bracket that is reported has no partner, and a closing one is the first
that is too many. -/
theorem EndOfRun.malformed_cases
    (ends : EndOfRun machine (.initial length streams) halt)
    {reason context : String} {position : Int}
    (failed : halt.failure = some (.malformed reason position context)) :
    ∃ index : Nat, position = index ∧
      ((reason = "Unmatched '['" ∧ Unclosed machine.program.toList index) ∨
        (reason = "Unmatched ']'" ∧ FirstStrayClose machine.program.toList index)) := by
  cases ends with
  | @ended reached _ _ =>
      rcases (finished_finish machine _).failure_eq failed with cause | ⟨_, cause⟩
      · cases cause
      · cases cause
  | @failed reached left failure arrived stuck =>
      rcases (finished_finish machine _).failure_eq failed with cause | ⟨_, cause⟩
      · cases cause
        obtain ⟨rfl, bracket⟩ := stuck.malformed_cases
        refine ⟨reached.index, rfl, ?_⟩
        rcases bracket with ⟨reasonEq, found, closing⟩ | ⟨reasonEq, found, loops⟩
        · refine .inl ⟨reasonEq, by simpa using found, ?_⟩
          intro stop partners
          rw [(closing?_eq_some_iff found).mpr partners] at closing
          cases closing
        · have nested := arrived.nested
          rw [Nested, loops] at nested
          exact .inr ⟨reasonEq, firstStrayClose_of_openBrackets? nested found⟩
      · cases cause

theorem EndOfRun.leavesOpen
    (ends : EndOfRun machine (.initial length streams) halt) (ended : halt.failure = none) :
    LeavesOpen machine.program.toList halt.state.loops := by
  cases ends with
  | @ended reached arrived beyond =>
      have nested := leavesOpen_of_openFrom? arrived.nested
      rw [(finished_finish machine _).loops_eq]
      rwa [List.take_of_length_le (by simpa using beyond)] at nested
  | failed _ _ =>
      have cause := (finished_finish machine _).failure_eq_none ended
      cases cause

theorem Reaches.summaries_eq (reached : machine.Reaches start state) :
    state.streams.summaries = start.streams.summaries :=
  reached.keeps_streams (Streams.summaries_invariant machine.options machine.schedule _) rfl

theorem EndOfRun.openLoopWarnings_eq (ends : EndOfRun machine start halt) :
    halt.state.streams.openLoopWarnings = start.streams.openLoopWarnings ++
      match halt.failure with
      | some _ => []
      | none => if halt.state.loops = [] then [] else [halt.state.loops.length] := by
  have split : ∃ before, before.state.streams.summaries = start.streams.summaries ∧
      Finished machine before halt := by
    cases ends with
    | ended arrived _ => exact ⟨_, arrived.summaries_eq, finished_finish machine _⟩
    | @failed reached left _ arrived stuck =>
        have kept := stuck.keeps_streams
          (Streams.summaries_invariant machine.options machine.schedule _) arrived.summaries_eq
        exact ⟨_, kept, finished_finish machine _⟩
  obtain ⟨before, same, finished⟩ := split
  have logged := finished.summaries_eq
  rw [Streams.openLoopWarnings, logged, same, ← finished.loops_eq, Streams.openLoopWarnings,
    List.filterMap_append]
  cases halt.failure with
  | some failure => simp
  | none => cases halt.state.loops <;> simp

/-- What the text of a program says about the brackets at the end of a run that
found the streams as they were `before`. -/
structure BracketOutcome (machine : Machine) (before : Streams) (halt : Halt) : Prop where
  strayClose : ∀ position context,
    halt.failure = some (.malformed "Unmatched ']'" position context) →
    ∃ index : Nat, position = index ∧ FirstStrayClose machine.program.toList index
  unclosed : ∀ position context,
    halt.failure = some (.malformed "Unmatched '['" position context) →
    ∃ index : Nat, position = index ∧ Unclosed machine.program.toList index
  ended : halt.failure = none →
    (∀ position, ¬ StrayClose machine.program.toList position) ∧
    ListsUnclosed machine.program.toList halt.state.loops.reverse ∧
    halt.state.streams.openLoopWarnings = before.openLoopWarnings ++
      if halt.state.loops = [] then [] else [halt.state.loops.length]
  balanced : Balanced machine.program.toList →
    (∀ reason position context, halt.failure ≠ some (.malformed reason position context)) ∧
    halt.state.streams.openLoopWarnings = before.openLoopWarnings
  stray : (∃ position, StrayClose machine.program.toList position) → halt.failure ≠ none

theorem EndOfRun.bracketOutcome (ends : EndOfRun machine (.initial length streams) halt) :
    BracketOutcome machine streams halt where
  strayClose := by
    intro position context failed
    obtain ⟨index, positionEq, ⟨reasonEq, _⟩ | ⟨_, stray⟩⟩ := ends.malformed_cases failed
    · exact absurd reasonEq (by decide)
    · exact ⟨index, positionEq, stray⟩
  unclosed := by
    intro position context failed
    obtain ⟨index, positionEq, ⟨_, unclosed⟩ | ⟨reasonEq, _⟩⟩ := ends.malformed_cases failed
    · exact ⟨index, positionEq, unclosed⟩
    · exact absurd reasonEq (by decide)
  ended := by
    intro ended
    have leaves := ends.leavesOpen ended
    have warnings := ends.openLoopWarnings_eq
    rw [ended] at warnings
    exact ⟨leaves.not_strayClose, leaves.listsUnclosed, warnings⟩
  balanced := by
    intro balanced
    constructor
    · intro reason position context failed
      obtain ⟨index, _, ⟨_, unclosed⟩ | ⟨_, stray⟩⟩ := ends.malformed_cases failed
      · exact balanced.not_unclosed index unclosed
      · exact balanced.not_firstStrayClose index stray
    · have warnings := ends.openLoopWarnings_eq
      cases ended : halt.failure with
      | some failure => simpa [ended, State.initial] using warnings
      | none =>
          have nothing := balanced.openLoops_eq_nil (ends.leavesOpen ended).listsUnclosed
          rw [List.reverse_eq_nil_iff] at nothing
          simpa [ended, nothing, State.initial] using warnings
  stray := by
    rintro ⟨position, stray⟩ ended
    exact (ends.leavesOpen ended).not_strayClose position stray

/-- Which bracket a run may fail at, which loops are open when it ends, and
whether it warns of them is decided by the text; nothing is said about open
loops before the end. -/
theorem bracket_outcome_decided_by_text
    (machine : Machine) (length : Nat) (streams : Streams) :
    (∀ fuel halt, machine.run fuel length streams = some halt →
      BracketOutcome machine streams halt) ∧
    ∀ state, machine.Reaches (.initial length streams) state →
      state.streams.openLoopWarnings = streams.openLoopWarnings := by
  constructor
  · intro fuel halt halted
    exact (endOfRun_of_run halted).bracketOutcome
  · intro state reached
    rw [Streams.openLoopWarnings, reached.summaries_eq]
    rfl

/-- A loop that is entered and never closed is reported at the end. -/
theorem bracket_outcome_of_open_loop :
    run ⟨#['+', '['], 2, .standard, .none⟩ 3 2 (.ofInput []) =
        some ⟨none, ⟨2, [1], 2, ⟨#[1, 0], 0, 0⟩, [], ⟨0, 0, 0, 1⟩,
          [.log (.finished 2 0), .log (.openLoops 1), .flush]⟩⟩ ∧
      ListsUnclosed ['+', '['] [1] := by
  have halted : run ⟨#['+', '['], 2, .standard, .none⟩ 3 2 (.ofInput []) =
      some ⟨none, ⟨2, [1], 2, ⟨#[1, 0], 0, 0⟩, [], ⟨0, 0, 0, 1⟩,
        [.log (.finished 2 0), .log (.openLoops 1), .flush]⟩⟩ := rfl
  have outcome := (bracket_outcome_decided_by_text _ _ _).1 _ _ halted
  exact ⟨halted, (outcome.ended rfl).2.1⟩

end Outcome

end Machine

end Brainfuck
