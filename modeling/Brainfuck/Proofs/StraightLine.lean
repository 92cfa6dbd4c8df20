import Mathlib.Data.List.Infix
import Brainfuck.Proofs.Step
import Brainfuck.Proofs.Structured

/-!
# Straight texts

A text of moves and of counting commands has no choices in it, so what it does to the
tape has a closed form.  It moves the pointer by its displacement, and what it adds to a
cell is the difference of two counts: how often it counts up and how often it counts
down, while it is at that cell.  `Tape.Shifts` is this closed form as a relation of two
tapes; such relations compose as texts do, so a run through a text is followed one
character at a time.
-/

namespace Brainfuck

/-- A text that moves the pointer and counts cells up and down, and does nothing else. -/
def Straight (text : List Char) : Prop :=
  ∀ character ∈ text, character ∈ ['>', '<', '+', '-']

/-- How far a text moves the pointer, to the right. -/
def displacement (text : List Char) : Int :=
  text.count '>' - text.count '<'

/-- How often a text executes a character at an offset from where it starts. -/
def executedAt (text : List Char) (character : Char) (offset : Int) : Nat :=
  (List.range text.length).countP fun index =>
    text[index]? = some character ∧ displacement (text.take index) = offset

/-- What a text adds to the cell at an offset from where it starts. -/
def change (text : List Char) (offset : Int) : Int :=
  executedAt text '+' offset - executedAt text '-' offset

/-- No beginning of a text moves a pointer off a tape with `size` cells. -/
def StaysOn (size : Nat) (pointer : Int) (text : List Char) : Prop :=
  ∀ front, front <+: text →
    0 ≤ pointer + displacement front ∧ pointer + displacement front < size

instance (size : Nat) (pointer : Int) (text : List Char) : Decidable (StaysOn size pointer text) :=
  decidable_of_iff
    (∀ front ∈ text.inits,
      0 ≤ pointer + displacement front ∧ pointer + displacement front < size)
    (forall_congr' fun front => imp_congr_left (List.mem_inits front text))

section Texts

variable {first second rest : List Char} {character : Char} {size : Nat} {pointer : Int}

theorem Straight.cons (straight : Straight (character :: rest)) :
    Straight [character] ∧ Straight rest := by
  obtain ⟨known, others⟩ := List.forall_mem_cons.mp straight
  exact ⟨List.forall_mem_singleton.mpr known, others⟩

theorem Straight.take (straight : Straight first) (count : Nat) :
    Straight (first.take count) :=
  fun character isThere => straight character (List.mem_of_mem_take isThere)

theorem Straight.noBracket (straight : Straight [character]) :
    character ≠ '[' ∧ character ≠ ']' := by
  have known := List.forall_mem_singleton.mp straight
  constructor
  · rintro rfl
    simp at known
  · rintro rfl
    simp at known

theorem Straight.balanced (straight : Straight first) : Balanced first := by
  induction first with
  | nil => exact .nil
  | cons character rest ih =>
      obtain ⟨known, others⟩ := straight.cons
      obtain ⟨notOpen, notClose⟩ := known.noBracket
      exact .plain notOpen notClose (ih others)

@[simp]
theorem displacement_nil : displacement [] = 0 := rfl

theorem displacement_append (first second : List Char) :
    displacement (first ++ second) = displacement first + displacement second := by
  simp only [displacement, List.count_append]
  omega

/-- The second of two texts starts where the first one led. -/
theorem executedAt_append (first second : List Char) (character : Char) (offset : Int) :
    executedAt (first ++ second) character offset =
      executedAt first character offset +
        executedAt second character (offset - displacement first) := by
  unfold executedAt
  rw [List.length_append, List.range_add, List.countP_append, List.countP_map]
  congr 1
  · apply List.countP_congr
    intro index within
    have inside : index < first.length := List.mem_range.mp within
    have before : (first ++ second).take index = first.take index :=
      List.take_append_of_le_length (Nat.le_of_lt inside)
    rw [List.getElem?_append_left inside, before]
  · -- Behind the first text an index and an offset are counted from its end.
    apply List.countP_congr
    intro index _
    have there : displacement ((first ++ second).take (first.length + index)) =
        displacement first + displacement (second.take index) := by
      rw [List.take_length_add_append, displacement_append]
    simp only [Function.comp_apply, there, decide_eq_true_eq, List.getElem?_append_right,
      Nat.le_add_right, Nat.add_sub_cancel_left]
    refine and_congr_right fun _ => ?_
    omega

theorem change_append (first second : List Char) (offset : Int) :
    change (first ++ second) offset =
      change first offset + change second (offset - displacement first) := by
  simp only [change, executedAt_append]
  omega

private theorem executedAt_singleton (character other : Char) (offset : Int) :
    executedAt [character] other offset = if offset = 0 ∧ character = other then 1 else 0 := by
  have range : List.range [character].length = [0] := rfl
  unfold executedAt
  rw [range, List.countP_singleton]
  simp only [List.getElem?_cons_zero, Option.some.injEq, List.take_zero, displacement_nil,
    decide_eq_true_eq]
  exact if_congr (and_comm.trans (and_congr_left' eq_comm)) rfl rfl

theorem change_singleton (character : Char) :
    change [character] = fun offset =>
      if offset = 0 then (if character = '+' then 1 else if character = '-' then -1 else 0)
      else 0 := by
  funext offset
  simp only [change, executedAt_singleton]
  by_cases here : offset = 0
  · by_cases up : character = '+'
    · simp [here, up]
    · by_cases down : character = '-' <;> simp [here, up, down]
  · simp [here]

theorem StaysOn.head (stays : StaysOn size pointer first) : 0 ≤ pointer ∧ pointer < size := by
  have start := stays [] List.nil_prefix
  simpa using start

theorem StaysOn.append (stays : StaysOn size pointer (first ++ second)) :
    StaysOn size pointer first ∧ StaysOn size (pointer + displacement first) second := by
  constructor
  · exact fun front begins => stays front (begins.trans (List.prefix_append first second))
  · intro front begins
    have further := stays (first ++ front) ((List.prefix_append_right_inj first).mpr begins)
    rwa [displacement_append, ← Int.add_assoc] at further

end Texts

namespace Tape

variable {moved further : Int} {added more : Int → Int} {tape middle last : Tape}

/-- One tape comes out of another: the pointer was moved, and every cell had something
added to it that depends on how far from the pointer it was. -/
structure Shifts (moved : Int) (added : Int → Int) (tape last : Tape) : Prop where
  pointer_eq : (last.pointer : Int) = tape.pointer + moved
  size_eq : last.cells.size = tape.cells.size
  cell?_eq : ∀ place : Nat,
    last.cells[place]? =
      tape.cells[place]?.map (· + UInt8.ofInt (added (place - tape.pointer)))

namespace Shifts

theorem refl (tape : Tape) : Shifts 0 (fun _ => 0) tape tape where
  pointer_eq := (Int.add_zero _).symm
  size_eq := rfl
  cell?_eq := by
    intro place
    have nothing : UInt8.ofInt 0 = 0 := rfl
    simp [nothing]

theorem trans (first : Shifts moved added tape middle) (second : Shifts further more middle last) :
    Shifts (moved + further) (fun offset => added offset + more (offset - moved)) tape last where
  pointer_eq := by
    rw [second.pointer_eq, first.pointer_eq, Int.add_assoc]
  size_eq := second.size_eq.trans first.size_eq
  cell?_eq := by
    intro place
    have offset : (place : Int) - middle.pointer = place - tape.pointer - moved := by
      rw [first.pointer_eq]
      omega
    rw [second.cell?_eq, first.cell?_eq, Option.map_map, offset]
    congr 1
    funext value
    rw [Function.comp_apply, UInt8.ofInt_add, UInt8.add_assoc]

theorem moveRight (tape : Tape) : Shifts 1 (fun _ => 0) tape tape.moveRight where
  pointer_eq := by simp [Tape.moveRight]
  size_eq := rfl
  cell?_eq := (refl tape).cell?_eq

theorem moveLeft (notFirst : tape.pointer ≠ 0) : Shifts (-1) (fun _ => 0) tape tape.moveLeft where
  pointer_eq := by
    simp only [Tape.moveLeft]
    omega
  size_eq := rfl
  cell?_eq := (refl tape).cell?_eq

theorem put {value : UInt8} (current : tape.current? = some value) (amount : Int) :
    Shifts 0 (fun offset => if offset = 0 then amount else 0) tape
      (tape.put (value + UInt8.ofInt amount)) where
  pointer_eq := (Int.add_zero _).symm
  size_eq := size_put tape _
  cell?_eq := by
    intro place
    by_cases here : place = tape.pointer
    · obtain ⟨inside, _⟩ := Array.getElem?_eq_some_iff.mp current
      have cell : tape.cells[place]? = some value := here ▸ current
      have written := current?_put inside (value + UInt8.ofInt amount)
      rw [current?, pointer_put, ← here] at written
      rw [written, cell]
      simp [here]
    · have elsewhere : (place : Int) - tape.pointer ≠ 0 := by omega
      rw [cells_put_of_ne here, if_neg elsewhere]
      exact (refl tape).cell?_eq place

/-- Executing one text after another is executing the two as one text. -/
theorem append {first second : List Char}
    (front : Shifts (displacement first) (change first) tape middle)
    (behind : Shifts (displacement second) (change second) middle last) :
    Shifts (displacement (first ++ second)) (change (first ++ second)) tape last := by
  have added : change (first ++ second) =
      fun offset => change first offset + change second (offset - displacement first) := by
    funext offset
    exact change_append first second offset
  rw [displacement_append, added]
  exact front.trans behind

end Shifts

end Tape

namespace Machine

variable {machine : Machine} {state : State} {size : Nat} {text rest : List Char}
  {character : Char}

section Characters

variable {tape : Tape}

theorem moveRight_shifts
    (sized : machine.size = size) (stays : StaysOn size tape.pointer ['>']) (streams : Streams) :
    machine.moveRight tape streams = .done tape.moveRight streams ∧
      tape.Shifts (displacement ['>']) (change ['>']) tape.moveRight := by
  have room := (stays ['>'] (List.prefix_refl _)).2
  have moved : displacement ['>'] = 1 := rfl
  have added : change ['>'] = fun _ => 0 := by simp [change_singleton]
  rw [moved] at room
  rw [moved, added]
  exact ⟨if_neg (by omega), .moveRight tape⟩

theorem moveLeft_shifts (stays : StaysOn size tape.pointer ['<']) (streams : Streams) :
    moveLeft tape streams = .done tape.moveLeft streams ∧
      tape.Shifts (displacement ['<']) (change ['<']) tape.moveLeft := by
  have room := (stays ['<'] (List.prefix_refl _)).1
  have moved : displacement ['<'] = -1 := rfl
  have added : change ['<'] = fun _ => 0 := by simp [change_singleton]
  rw [moved] at room
  have notFirst : tape.pointer ≠ 0 := by omega
  rw [moved, added]
  exact ⟨if_neg notFirst, .moveLeft notFirst⟩

theorem modify_shifts
    {value : UInt8} (current : tape.current? = some value) {counts : UInt8 → UInt8} {amount : Int}
    (counted : counts value = value + UInt8.ofInt amount) (streams : Streams) :
    ∃ tape', modify counts tape streams = .done tape' streams ∧
      tape.Shifts 0 (fun offset => if offset = 0 then amount else 0) tape' := by
  refine ⟨_, ?_, .put current amount⟩
  rw [modify, current]
  dsimp only
  rw [counted]

/-- One character of a straight text is executed. -/
theorem effect_shifts
    (straight : Straight [character]) (sized : machine.size = size)
    (cells : tape.cells.size = size) (stays : StaysOn size tape.pointer [character])
    (streams : Streams) :
    ∃ tape', machine.effect (Command.ofChar? character) tape streams = .done tape' streams ∧
      tape.Shifts (displacement [character]) (change [character]) tape' := by
  have inside : tape.pointer < tape.cells.size := by
    have within := stays.head.2
    omega
  have current : tape.current? = some tape.cells[tape.pointer] :=
    Array.getElem?_eq_getElem inside
  have known : character ∈ ['>', '<', '+', '-'] := List.forall_mem_singleton.mp straight
  simp only [List.mem_cons, List.not_mem_nil, or_false] at known
  rcases known with rfl | rfl | rfl | rfl
  · exact ⟨_, moveRight_shifts sized stays streams⟩
  · exact ⟨_, moveLeft_shifts stays streams⟩
  · rw [change_singleton]
    exact modify_shifts current rfl streams
  · have counted : tape.cells[tape.pointer] - 1 = tape.cells[tape.pointer] + UInt8.ofInt (-1) := by
      rw [UInt8.ofInt_neg_one, UInt8.sub_eq_add_neg]
    rw [change_singleton]
    exact modify_shifts current counted streams

end Characters

/-- A run is at the start of a straight text, and stays on the tape all through it. -/
structure AtStraight (machine : Machine) (size : Nat) (text : List Char) (state : State) :
    Prop where
  placed : HasAt machine.program state.index text
  straight : Straight text
  sized : machine.size = size
  cells : state.tape.cells.size = size
  stays : StaysOn size state.tape.pointer text

namespace AtStraight

/-- The text is followed to its end: each character takes one step, and nothing but the
tape is changed. -/
theorem exists_after (start : AtStraight machine size text state) :
    ∃ tape, state.tape.Shifts (displacement text) (change text) tape ∧
      machine.after text.length state = some { state with
        index := state.index + text.length
        steps := state.steps + text.length
        tape := tape } := by
  induction text generalizing state with
  | nil => exact ⟨state.tape, .refl state.tape, rfl⟩
  | cons character rest ih =>
      obtain ⟨placed, straight, sized, cells, stays⟩ := start
      obtain ⟨known, others⟩ := straight.cons
      have split : StaysOn size state.tape.pointer ([character] ++ rest) := stays
      obtain ⟨first, behind⟩ := split.append
      obtain ⟨middle, done, shifts⟩ := effect_shifts known sized cells first state.streams
      obtain ⟨notOpen, notClose⟩ := known.noBracket
      have next : AtStraight machine size rest { state with tape := middle }.advance := by
        refine ⟨placed.tail, others, sized, shifts.size_eq.trans cells, ?_⟩
        have moved : ((State.advance { state with tape := middle }).tape.pointer : Int) =
            state.tape.pointer + displacement [character] := shifts.pointer_eq
        rw [moved]
        exact behind
      obtain ⟨last, further, arrived⟩ := ih next
      refine ⟨last, shifts.append further, ?_⟩
      have moves : Move machine state { state with tape := middle }.advance :=
        .plain placed.getElem?_eq notOpen notClose done
      rw [List.length_cons, after_succ_eq_some_iff]
      refine ⟨_, moves, arrived.trans ?_⟩
      simp only [State.advance, State.goto]
      congr 2 <;> omega

theorem take (start : AtStraight machine size text state) (count : Nat) :
    AtStraight machine size (text.take count) state := by
  obtain ⟨placed, straight, sized, cells, stays⟩ := start
  rw [← List.take_append_drop count text] at placed stays
  exact ⟨placed.append.1, straight.take count, sized, cells, stays.append.1⟩

/-- Until then the run is somewhere in the text. -/
theorem exists_after_of_le (start : AtStraight machine size text state) {count : Nat}
    (bound : count ≤ text.length) :
    ∃ reached, machine.after count state = some reached ∧
      reached.index = state.index + count := by
  obtain ⟨last, _, arrived⟩ := (start.take count).exists_after
  rw [List.length_take_of_le bound] at arrived
  exact ⟨_, arrived, rfl⟩

end AtStraight

end Machine

end Brainfuck
