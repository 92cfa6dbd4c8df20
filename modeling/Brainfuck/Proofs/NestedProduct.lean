import Mathlib.Algebra.BigOperators.Group.List.Basic
import Brainfuck.Proofs.StraightRun

/-!
# Nested multiplication

Loops that stand inside each other, each of which counts a cell of its own down, multiply:
the last cell is counted up as often as the product of all the counts.  A nest finds the
cells of its counts at zero and leaves them at zero, so that all it does to the tape is to
add a product to one cell, and the loop around it does that once in every round.

`Passes` says what a text does to the tape from where a run stands; `CountedLoop.passes` is
the rule for a loop whose body counts the current cell down by one and adds the same to the
other cells each time.
-/

namespace Brainfuck

/-- The text that counts a cell up and, if there are more counts, runs a nest of these on the
next cells as often as the cell then says. -/
def nest : Nat → List Nat → List Char
  | count, [] => List.replicate count '+'
  | count, next :: rest =>
    List.replicate count '+' ++ ('[' :: ('>' :: nest next rest ++ ['<', '-']) ++ [']'])

def addedAt (place amount : Int) : Int → Int :=
  fun offset => if offset = place then amount else 0

/-- The state at the start of the body of a loop that a run was at. -/
def State.inBody (state : State) (steps : Nat) (tape : Tape) : State :=
  ⟨state.index + 1, state.index :: state.loops, steps, tape, state.streams⟩

section Texts

private theorem straight_replicate (count : Nat) : Straight (List.replicate count '+') := by
  intro character isThere
  rw [List.eq_of_mem_replicate isThere]
  decide

private theorem displacement_replicate (count : Nat) :
    displacement (List.replicate count '+') = 0 := by
  simp [displacement, List.count_replicate]

private theorem change_replicate (count : Nat) :
    change (List.replicate count '+') = addedAt 0 count := by
  funext offset
  induction count with
  | zero => simp [addedAt, change, executedAt]
  | succ count ih =>
      have split : List.replicate (count + 1) '+' = ['+'] ++ List.replicate count '+' := rfl
      have still : displacement ['+'] = 0 := rfl
      rw [split, change_append, still, Int.sub_zero, ih, change_singleton]
      simp only [addedAt]
      by_cases here : offset = 0
      · simp only [if_pos here, if_true]
        omega
      · simp only [if_neg here]
        rfl

private theorem change_back_and_down : change ['<', '-'] = addedAt (-1) (-1) := by
  funext offset
  have split : ['<', '-'] = ['<'] ++ ['-'] := rfl
  have left : displacement ['<'] = -1 := rfl
  rw [split, change_append, left, change_singleton, change_singleton]
  simp only [addedAt]
  by_cases here : offset = -1
  · simp [here]
  · have elsewhere : offset + 1 ≠ 0 := by omega
    simp [here, elsewhere]

theorem staysOn_nil_iff {size : Nat} {pointer : Int} :
    StaysOn size pointer [] ↔ 0 ≤ pointer ∧ pointer < size := by
  simp [StaysOn]

theorem staysOn_cons_iff {size : Nat} {pointer : Int} {character : Char} {rest : List Char} :
    StaysOn size pointer (character :: rest) ↔
      (0 ≤ pointer ∧ pointer < size) ∧ StaysOn size (pointer + displacement [character]) rest := by
  constructor
  · intro stays
    have split : StaysOn size pointer ([character] ++ rest) := stays
    exact ⟨stays.head, split.append.2⟩
  · rintro ⟨here, later⟩ front begins
    rcases List.prefix_cons_iff.mp begins with rfl | ⟨behind, rfl, begins'⟩
    · simpa using here
    · have split : character :: behind = [character] ++ behind := rfl
      rw [split, displacement_append, ← Int.add_assoc]
      exact later behind begins'

private theorem staysOn_replicate {size pointer : Nat} (within : pointer < size) (count : Nat) :
    StaysOn size pointer (List.replicate count '+') := by
  intro front begins
  have repeated := (List.prefix_replicate_iff.mp begins).2
  rw [repeated, displacement_replicate]
  omega

theorem balanced_body {text : List Char} (balanced : Balanced text) :
    Balanced ('>' :: text ++ ['<', '-']) := by
  have back : Straight ['<', '-'] := by simp [Straight]
  exact .plain (by decide) (by decide) (balanced.append back.balanced)

theorem balanced_nest (count : Nat) (rest : List Nat) : Balanced (nest count rest) := by
  induction rest generalizing count with
  | nil => exact (straight_replicate count).balanced
  | cons next rest ih =>
      exact (straight_replicate count).balanced.append (.loop (balanced_body (ih next)) .nil)

end Texts

section Bytes

private theorem ofInt_toNat (value : UInt8) : UInt8.ofInt value.toNat = value := by
  have byte := toNat_add_ofInt 0 value.toNat
  have small : value.toNat < 256 := value.toNat_lt
  rw [UInt8.zero_add, UInt8.toNat_zero] at byte
  rw [← UInt8.toNat_inj]
  omega

theorem Tape.Shifts.cell?_kept
    {moved : Int} {added : Int → Int} {tape last : Tape} {place : Nat}
    (shifts : tape.Shifts moved added last) (nothing : added (place - tape.pointer) = 0) :
    last.cells[place]? = tape.cells[place]? := by
  rw [shifts.cell?_eq, nothing]
  simpa using ((Tape.Shifts.refl tape).cell?_eq place).symm

end Bytes

namespace Machine

/-- A run from a state follows a text to its end and changes nothing but the tape on the
way, by moving the pointer and adding to the cells. -/
def Passes (machine : Machine) (text : List Char) (moved : Int) (added : Int → Int)
    (state : State) : Prop :=
  ∃ count steps tape, state.tape.Shifts moved added tape ∧
    machine.after count state = some { state with
      index := state.index + text.length
      steps := steps
      tape := tape }

variable {machine : Machine} {state : State} {size : Nat} {first second text body : List Char}
  {moved further : Int} {added added' more : Int → Int}

section Passing

theorem AtStraight.passes (start : AtStraight machine size text state) :
    Passes machine text (displacement text) (change text) state := by
  obtain ⟨tape, shifts, arrived⟩ := start.exists_after
  exact ⟨text.length, _, tape, shifts, arrived⟩

theorem Passes.append
    (front : Passes machine first moved added state)
    (behind : ∀ steps tape, state.tape.Shifts moved added tape →
      Passes machine second further more { state with
        index := state.index + first.length
        steps := steps
        tape := tape }) :
    Passes machine (first ++ second) (moved + further)
      (fun offset => added offset + more (offset - moved)) state := by
  obtain ⟨count, steps, middle, shifts, arrived⟩ := front
  obtain ⟨count', steps', last, shifts', arrived'⟩ := behind steps middle shifts
  refine ⟨count + count', steps', last, shifts.trans shifts',
    (after_trans arrived arrived').trans ?_⟩
  simp only [List.length_append, Nat.add_assoc]

/-- The cells are bytes, so what is added to them counts up to multiples of 256. -/
theorem Passes.congr
    {moved' : Int} (passes : Passes machine text moved added state) (moves : moved = moved')
    (same : ∀ offset, UInt8.ofInt (added offset) = UInt8.ofInt (added' offset)) :
    Passes machine text moved' added' state := by
  subst moves
  obtain ⟨count, steps, tape, ⟨pointer, sizes, cells⟩, arrived⟩ := passes
  refine ⟨count, steps, tape, ⟨pointer, sizes, ?_⟩, arrived⟩
  intro place
  rw [cells, same]

end Passing

/-- A run is at a loop whose body, from wherever some of its rounds lead, counts the current
cell down by one and adds the same as before to the others. -/
structure CountedLoop (machine : Machine) (body : List Char) (added : Int → Int)
    (state : State) : Prop where
  placed : HasAt machine.program state.index ('[' :: body ++ [']'])
  balanced : Balanced body
  down : added 0 = -1
  round : ∀ (rounds steps : Nat) (tape : Tape),
    state.tape.Shifts 0 (fun offset => rounds * added offset) tape →
    Passes machine body 0 added (state.inBody steps tape)

namespace CountedLoop

variable {rounds : Nat} {value : UInt8} {tape : Tape}

theorem shifts_zero (added : Int → Int) (tape : Tape) :
    tape.Shifts 0 (fun offset => (0 : Nat) * added offset) tape := by
  simpa using Tape.Shifts.refl tape

theorem shifts_succ {tape tape' : Tape}
    (shifts : state.tape.Shifts 0 (fun offset => rounds * added offset) tape)
    (again : tape.Shifts 0 added tape') :
    state.tape.Shifts 0 (fun offset => (rounds + 1 : Nat) * added offset) tape' := by
  have both := shifts.trans again
  have sum : (fun offset => rounds * added offset + added (offset - 0)) =
      fun offset => (rounds + 1 : Nat) * added offset := by
    funext offset
    rw [Int.sub_zero, Int.natCast_succ, Int.add_mul, Int.one_mul]
  rw [sum] at both
  exact both

variable (loop : CountedLoop machine body added state)
  (current : state.tape.current? = some value)

include loop current

/-- The cell of the loop says how many rounds are left. -/
theorem current?_after (bound : rounds ≤ value.toNat)
    (shifts : state.tape.Shifts 0 (fun offset => rounds * added offset) tape) :
    ∃ left, tape.current? = some left ∧ (left = 0 ↔ rounds = value.toNat) := by
  refine ⟨_, shifts.current? current, ?_⟩
  have small : value.toNat < 256 := value.toNat_lt
  rw [add_ofInt_eq_zero_iff, loop.down]
  omega

omit current in
theorem found_close : machine.program[state.index + 1 + body.length]? = some ']' :=
  loop.placed.tail.append.2.getElem?_eq

theorem exists_after_rounds (fewer : rounds < value.toNat) :
    ∃ count steps tape, state.tape.Shifts 0 (fun offset => rounds * added offset) tape ∧
      machine.after count state = some (state.inBody steps tape) := by
  induction rounds with
  | zero =>
      have shifts := shifts_zero added state.tape
      obtain ⟨left, currentEq, zero⟩ := loop.current?_after current (Nat.zero_le _) shifts
      have enters := Move.enter loop.placed.getElem?_eq currentEq (mt zero.mp (by omega))
      exact ⟨1, _, state.tape, shifts, after_succ_eq_some_iff.mpr ⟨_, enters, rfl⟩⟩
  | succ rounds ih =>
      obtain ⟨count, steps, tape, shifts, arrived⟩ := ih (by omega)
      obtain ⟨count', steps', tape', again, followed⟩ := loop.round rounds steps tape shifts
      have shifts' := shifts_succ shifts again
      obtain ⟨left, currentEq, zero⟩ := loop.current?_after current (by omega) shifts'
      have repeats : Move machine { state.inBody steps' tape' with
          index := state.index + 1 + body.length } _ :=
        .again loop.found_close rfl currentEq (mt zero.mp (by omega))
      exact ⟨_, _, tape', shifts', after_succ_of_move (after_trans arrived followed) repeats⟩

/-- A loop that counts its cell down by one in each round has as many rounds as the cell
says. -/
theorem passes :
    Passes machine ('[' :: body ++ [']']) 0 (fun offset => value.toNat * added offset) state := by
  have behind : state.index + ('[' :: body ++ [']']).length =
      state.index + 1 + body.length + 1 := by
    simp only [List.cons_append, List.length_cons, List.length_append, List.length_nil]
    omega
  unfold Passes
  rw [behind]
  cases times : value.toNat with
  | zero =>
      have shifts := shifts_zero added state.tape
      obtain ⟨left, currentEq, zero⟩ := loop.current?_after current (Nat.zero_le _) shifts
      rw [zero.mpr times.symm] at currentEq
      have found := loop.placed.getElem?_eq
      have partners := loop.placed.partners loop.balanced
      have skips := Move.skip found currentEq ((closing?_eq_some_iff found).mpr partners)
      exact ⟨1, _, state.tape, shifts, after_succ_eq_some_iff.mpr ⟨_, skips, rfl⟩⟩
  | succ rounds =>
      have last : rounds < value.toNat := by omega
      obtain ⟨count, steps, tape, shifts, arrived⟩ := loop.exists_after_rounds current last
      obtain ⟨count', steps', tape', again, followed⟩ := loop.round rounds steps tape shifts
      have shifts' := shifts_succ shifts again
      obtain ⟨left, currentEq, zero⟩ := loop.current?_after current last shifts'
      rw [zero.mpr times.symm] at currentEq
      have leaves : Move machine { state.inBody steps' tape' with
          index := state.index + 1 + body.length } _ :=
        .leave loop.found_close rfl currentEq
      exact ⟨_, _, tape', shifts', after_succ_of_move (after_trans arrived followed) leaves⟩

end CountedLoop

/-- A run is at a nest whose cells are on the tape, and all but the last of them are zero. -/
structure AtNest (machine : Machine) (size count : Nat) (rest : List Nat) (state : State) :
    Prop where
  placed : HasAt machine.program state.index (nest count rest)
  sized : machine.size = size
  cells : state.tape.cells.size = size
  room : state.tape.pointer + rest.length < size
  clean : ∀ offset < rest.length, state.tape.cells[state.tape.pointer + offset]? = some 0

/-- A run is at the body of a nest whose cells are on the tape behind the current one, and
all but the last of them are zero. -/
structure AtBody (machine : Machine) (size next : Nat) (rest : List Nat) (state : State) :
    Prop where
  placed : HasAt machine.program state.index ('>' :: nest next rest ++ ['<', '-'])
  sized : machine.size = size
  cells : state.tape.cells.size = size
  room : state.tape.pointer + (rest.length + 1) < size
  clean : ∀ offset < rest.length, state.tape.cells[state.tape.pointer + 1 + offset]? = some 0

/-- What a round of a nest adds: it counts the first cell down, and the nest on the next
cells adds its product to the last one. -/
def addedByRound (next : Nat) (rest : List Nat) : Int → Int :=
  fun offset => addedAt (rest.length + 1) (next * rest.prod : Nat) offset + addedAt 0 (-1) offset

namespace AtBody

variable {next : Nat} {rest : List Nat} {tape : Tape} {steps : Nat}

theorem enters (start : AtBody machine size next rest state) :
    AtStraight machine size ['>'] state where
  placed := by
    have split : HasAt machine.program state.index (['>'] ++ (nest next rest ++ ['<', '-'])) :=
      start.placed
    exact split.append.1
  straight := by simp [Straight]
  sized := start.sized
  cells := start.cells
  stays := by
    have right : displacement ['>'] = 1 := rfl
    have room := start.room
    rw [staysOn_cons_iff, staysOn_nil_iff, right]
    omega

theorem change_enters : change ['>'] = fun _ => 0 := by simp [change_singleton]

/-- Behind its first character, the body is at the nest on the next cells. -/
theorem atNest (start : AtBody machine size next rest state)
    (shifts : state.tape.Shifts (displacement ['>']) (change ['>']) tape) (steps : Nat) :
    AtNest machine size next rest
      { state with index := state.index + 1, steps := steps, tape := tape } := by
  have pointer : tape.pointer = state.tape.pointer + 1 := by
    have right : displacement ['>'] = 1 := rfl
    have moved := shifts.pointer_eq
    omega
  have room := start.room
  refine ⟨start.placed.tail.append.1, start.sized, shifts.size_eq.trans start.cells, ?_, ?_⟩
  · dsimp only
    omega
  · intro offset within
    dsimp only
    rw [pointer, shifts.cell?_kept (congrFun change_enters _)]
    exact start.clean offset within

/-- Behind that nest, the body goes back and counts down. -/
theorem returns (start : AtBody machine size next rest state)
    (pointer : (tape.pointer : Int) = state.tape.pointer + 1)
    (sameSize : tape.cells.size = size) (steps : Nat) :
    AtStraight machine size ['<', '-']
      { state with
        index := state.index + 1 + (nest next rest).length, steps := steps, tape := tape } where
  placed := start.placed.tail.append.2
  straight := by simp [Straight]
  sized := start.sized
  cells := sameSize
  stays := by
    have left : displacement ['<'] = -1 := rfl
    have still : displacement ['-'] = 0 := rfl
    have room := start.room
    rw [staysOn_cons_iff, staysOn_cons_iff, staysOn_nil_iff, left, still]
    dsimp only
    omega

theorem passes (start : AtBody machine size next rest state)
    (inner : ∀ state, AtNest machine size next rest state →
      Passes machine (nest next rest) 0 (addedAt rest.length (next * rest.prod : Nat)) state) :
    Passes machine ('>' :: nest next rest ++ ['<', '-']) 0 (addedByRound next rest) state := by
  have passes := start.enters.passes.append fun steps tape shifts =>
    (inner _ (start.atNest shifts steps)).append fun steps' tape' shifts' => by
      have pointer : (tape'.pointer : Int) = state.tape.pointer + 1 :=
        (shifts'.pointer_eq.trans (Int.add_zero _)).trans shifts.pointer_eq
      have sameSize : tape'.cells.size = size :=
        (shifts'.size_eq.trans shifts.size_eq).trans start.cells
      exact (start.returns pointer sameSize steps').passes
  refine passes.congr rfl ?_
  intro offset
  have right : displacement ['>'] = 1 := rfl
  congr 1
  rw [change_enters, right, change_back_and_down]
  simp only [addedByRound, addedAt]
  split_ifs <;> omega

end AtBody

namespace AtNest

variable {count next : Nat} {rest : List Nat} {tape : Tape}

theorem passes_counts (placed : HasAt machine.program state.index (List.replicate count '+'))
    (sized : machine.size = size) (cells : state.tape.cells.size = size)
    (within : state.tape.pointer < size) :
    Passes machine (List.replicate count '+') 0 (addedAt 0 count) state := by
  have start : AtStraight machine size (List.replicate count '+') state :=
    ⟨placed, straight_replicate count, sized, cells, staysOn_replicate within count⟩
  have passes := start.passes
  rwa [displacement_replicate, change_replicate] at passes

/-- In every round, a nest is at its body. -/
theorem atBody {rounds : Nat} {tape' : Tape}
    (start : AtNest machine size count (next :: rest) state)
    (shifts : state.tape.Shifts 0 (addedAt 0 count) tape)
    (again : tape.Shifts 0 (fun offset => rounds * addedByRound next rest offset) tape')
    (steps steps' : Nat) :
    AtBody machine size next rest (State.inBody { state with
      index := state.index + (List.replicate count '+').length, steps := steps, tape := tape }
      steps' tape') := by
  have pointer : tape.pointer = state.tape.pointer := by
    have moved := shifts.pointer_eq
    omega
  have pointer' : tape'.pointer = state.tape.pointer := by
    have moved := again.pointer_eq
    omega
  have room := start.room
  rw [List.length_cons] at room
  refine ⟨start.placed.append.2.tail.append.1, start.sized,
    again.size_eq.trans (shifts.size_eq.trans start.cells), ?_, ?_⟩
  · simp only [State.inBody, pointer']
    exact room
  · intro offset within
    have byRounds :
        addedByRound next rest (state.tape.pointer + 1 + offset - tape.pointer) = 0 := by
      simp only [addedByRound, addedAt]
      split_ifs <;> omega
    have byCount :
        addedAt 0 count (state.tape.pointer + 1 + offset - state.tape.pointer) = 0 := by
      simp only [addedAt]
      split_ifs <;> omega
    have clean := start.clean (offset + 1) (Nat.succ_lt_succ within)
    rw [← Nat.add_assoc, Nat.add_right_comm] at clean
    simp only [State.inBody, pointer']
    rw [again.cell?_kept, shifts.cell?_kept, clean]
    · exact_mod_cast byCount
    · push_cast
      rw [byRounds, Int.mul_zero]

/-- Behind its count, a nest is a counted loop. -/
theorem countedLoop
    (inner : ∀ state, AtNest machine size next rest state →
      Passes machine (nest next rest) 0 (addedAt rest.length (next * rest.prod : Nat)) state)
    (start : AtNest machine size count (next :: rest) state) (steps : Nat)
    (shifts : state.tape.Shifts 0 (addedAt 0 count) tape) :
    CountedLoop machine ('>' :: nest next rest ++ ['<', '-']) (addedByRound next rest)
      { state with
        index := state.index + (List.replicate count '+').length, steps := steps, tape := tape }
    where
  placed := start.placed.append.2
  balanced := balanced_body (balanced_nest next rest)
  down := by
    have elsewhere : (0 : Int) ≠ rest.length + 1 := by omega
    simp [addedByRound, addedAt, elsewhere]
  round := by
    intro rounds steps' tape' again
    exact (start.atBody shifts again steps steps').passes inner

/-- The count of a nest and as many rounds as its cell then says add the product of all
counts to the last cell. -/
theorem ofInt_added (count next : Nat) (rest : List Nat) (offset : Int) :
    UInt8.ofInt (addedAt 0 count offset +
        (0 + UInt8.ofInt (addedAt 0 count 0)).toNat * addedByRound next rest (offset - 0)) =
      UInt8.ofInt (addedAt (next :: rest).length (count * (next :: rest).prod : Nat) offset) := by
  have value : UInt8.ofInt (addedAt 0 count 0) = UInt8.ofInt count := rfl
  have nothing : UInt8.ofInt 0 = 0 := rfl
  rw [UInt8.ofInt_add, UInt8.ofInt_mul, ofInt_toNat, UInt8.zero_add, value, Int.sub_zero,
    List.length_cons, List.prod_cons]
  simp only [addedByRound, addedAt, Int.natCast_succ]
  by_cases first : offset = 0
  · have notLast : offset ≠ rest.length + 1 := by omega
    rw [if_pos first, if_neg notLast, if_pos first, if_neg notLast, Int.zero_add,
      UInt8.ofInt_neg_one, nothing]
    rw [UInt8.mul_neg, UInt8.mul_one]
    exact UInt8.add_right_neg _
  · rw [if_neg first, if_neg first, Int.add_zero, nothing, UInt8.zero_add, ← UInt8.ofInt_mul]
    by_cases last : offset = rest.length + 1
    · rw [if_pos last, if_pos last, ← Int.natCast_mul]
    · rw [if_neg last, if_neg last, Int.mul_zero]

theorem passes (start : AtNest machine size count rest state) :
    Passes machine (nest count rest) 0 (addedAt rest.length (count * rest.prod : Nat)) state := by
  induction rest generalizing count state with
  | nil =>
      have counted := passes_counts start.placed start.sized start.cells start.room
      rwa [List.prod_nil, Nat.mul_one]
  | cons next rest ih =>
      have inner : ∀ state, AtNest machine size next rest state → Passes machine
          (nest next rest) 0 (addedAt rest.length (next * rest.prod : Nat)) state :=
        fun _ atRest => ih atRest
      have within : state.tape.pointer < size :=
        Nat.lt_of_le_of_lt (Nat.le_add_right _ _) start.room
      have counted := passes_counts start.placed.append.1 start.sized start.cells within
      have first : state.tape.current? = some 0 := start.clean 0 (Nat.succ_pos _)
      have passes := counted.append fun steps tape shifts =>
        (countedLoop inner start steps shifts).passes (shifts.current? first)
      exact passes.congr rfl (ofInt_added count next rest)

end AtNest

section Runs

variable {first : Nat} {rest : List Nat} {streams : Streams}

theorem atNest_initial (room : (first :: rest).length ≤ size) (sized : machine.size = size)
    (streams : Streams) :
    AtNest (machine.running (nest first rest)) size first rest (.initial size streams) where
  placed := .of_toList (nest first rest).toArray
  sized := sized
  cells := Array.size_replicate
  room := by
    rw [List.length_cons] at room
    simp only [State.initial, Tape.blank]
    omega
  clean := by
    intro offset within
    rw [List.length_cons] at room
    have inside : offset < size := by omega
    simp [State.initial, Tape.blank, inside]

/-- A nest multiplies: its run on a blank tape ends at the first cell and outside of all
loops, with the product of the counts in the cell of the last one and zero in the others. -/
theorem nest_multiplies_counts
    (room : (first :: rest).length ≤ size) (sized : machine.size = size)
    (handled : streams.FlushHandled machine.schedule) :
    ∃ halt, (∃ fuel, (machine.running (nest first rest)).run fuel size streams = some halt) ∧
      halt.failure = none ∧ halt.state.loops = [] ∧ halt.state.tape.pointer = 0 ∧
      halt.state.tape.cells.size = size ∧
      ∀ place < size, ∃ value, halt.state.tape.cells[place]? = some value ∧
        value.toNat = if place = rest.length then (first :: rest).prod % 256 else 0 := by
  obtain ⟨count, steps, tape, shifts, arrived⟩ := (atNest_initial room sized streams).passes
  have ended : (machine.running (nest first rest)).program[0 + (nest first rest).length]? =
      none := by
    simp [running]
  have stops : Stops (machine.running (nest first rest))
      ⟨0 + (nest first rest).length, [], steps, tape, streams⟩ none streams :=
    .ended (step_of_end ended)
  obtain ⟨halt, ran, normal, last, state⟩ := stops.exists_run arrived handled
  refine ⟨halt, ⟨_, ran _ (Nat.lt_succ_self _)⟩, normal, ?_⟩
  rw [state]
  refine ⟨rfl, ?_, shifts.size_eq.trans Array.size_replicate, ?_⟩
  · exact Int.ofNat_inj.mp shifts.pointer_eq
  · intro place within
    have cell := shifts.cell?_eq place
    have blank : (State.initial size streams).tape.cells[place]? = some 0 := by
      simp [State.initial, Tape.blank, within]
    have offset : (place : Int) - (State.initial size streams).tape.pointer = place :=
      Int.sub_zero _
    rw [blank, offset, Option.map_some] at cell
    have byte := toNat_add_ofInt 0 (addedAt rest.length (first * rest.prod : Nat) place)
    rw [UInt8.toNat_zero, Int.natCast_zero, Int.zero_add] at byte
    generalize 0 + UInt8.ofInt (addedAt rest.length (first * rest.prod : Nat) place) = value
      at cell byte
    refine ⟨value, cell, ?_⟩
    rw [List.prod_cons]
    by_cases isLast : place = rest.length
    · rw [addedAt, if_pos (congrArg Nat.cast isLast)] at byte
      rw [if_pos isLast]
      omega
    · rw [addedAt, if_neg (mt Int.ofNat_inj.mp isLast)] at byte
      rw [if_neg isLast]
      omega

/-- The count 257 goes past a byte before it is used, so that three loops of two rounds are
run in a single round. -/
theorem nest_multiplies_counts_past_a_byte :
    let machine : Machine := ⟨#[], 4, .standard, .none⟩
    [257, 2, 3].length ≤ 4 ∧ (Streams.ofInput []).FlushHandled machine.schedule ∧
      ∃ halt, (∃ fuel, (machine.running (nest 257 [2, 3])).run fuel 4 (.ofInput []) =
          some halt) ∧
        halt.failure = none ∧ halt.state.tape.pointer = 0 ∧
        ∃ value, halt.state.tape.cells[2]? = some value ∧ value.toNat = 6 := by
  intro machine
  have handled : (Streams.ofInput []).FlushHandled machine.schedule := by
    intro reason interrupted
    cases interrupted
  have sized : machine.size = (4 : Nat) := rfl
  obtain ⟨halt, ran, normal, _, pointer, _, cells⟩ :=
    nest_multiplies_counts (by decide : [257, 2, 3].length ≤ 4) sized handled
  obtain ⟨value, cell, product⟩ := cells 2 (by decide)
  exact ⟨by decide, handled, halt, ran, normal, pointer, value, cell, product⟩

end Runs

end Machine

end Brainfuck
