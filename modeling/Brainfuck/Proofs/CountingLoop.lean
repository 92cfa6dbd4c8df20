import Mathlib.Data.Nat.Find
import Mathlib.Order.Bounds.Basic
import Brainfuck.Proofs.StraightLine

/-!
# Counting loops

The body of a counting loop is a straight text that comes back to the cell where it
started.  Every round adds the same to each cell, so the cell that decides about the
loop goes up in steps of one size, round by round, until it is a multiple of 256.  If it
never is, the loop goes on for ever.  The bytes of the cells take care of the remainder,
so the number of rounds is looked for among all natural numbers.
-/

namespace Brainfuck

/-- The cell in which a counting loop starts with some value is zero after some
rounds. -/
def Cleared (body : List Char) (value : UInt8) (rounds : Nat) : Prop :=
  (value.toNat + rounds * change body 0) % 256 = 0

instance (body : List Char) (value : UInt8) (rounds : Nat) :
    Decidable (Cleared body value rounds) :=
  inferInstanceAs (Decidable ((value.toNat + rounds * change body 0) % 256 = 0))

/-- A run is in a loop that starts at `index`, or at one of its brackets. -/
def Within (index : Nat) (body : List Char) (state : State) : Prop :=
  index ≤ state.index ∧ state.index ≤ index + body.length + 1

/-- What a counting loop leaves behind after some rounds: it adds to each cell as often
what one round adds, and changes nothing else. -/
structure LeftAfter (rounds : Nat) (body : List Char) (start reached : State) : Prop where
  index_eq : reached.index = start.index + body.length + 2
  loops_eq : reached.loops = start.loops
  streams_eq : reached.streams = start.streams
  pointer_eq : reached.tape.pointer = start.tape.pointer
  current?_eq : reached.tape.current? = some 0
  cell?_eq : ∀ place : Nat,
    reached.tape.cells[place]? = start.tape.cells[place]?.map
      (· + UInt8.ofInt (rounds * change body (place - start.tape.pointer)))

/-- A run is at the start of a counting loop, whose rounds stay on the tape. -/
structure CountingLoop (machine : Machine) (size : Nat) (body : List Char) (state : State) :
    Prop where
  placed : HasAt machine.program state.index ('[' :: body ++ [']'])
  straight : Straight body
  returns : body.count '<' = body.count '>'
  sized : machine.size = size
  cells : state.tape.cells.size = size
  stays : StaysOn size state.tape.pointer body

section Cells

variable {value : UInt8} {amount : Int}

theorem toNat_add_ofInt (value : UInt8) (amount : Int) :
    ((value + UInt8.ofInt amount).toNat : Int) = (value.toNat + amount) % 256 := by
  have byte : ((UInt8.ofInt amount).toNat : Int) = amount % 256 := by
    simp only [UInt8.ofInt, UInt8.toNat_ofNat']
    omega
  have sum : (value + UInt8.ofInt amount).toNat =
      (value.toNat + (UInt8.ofInt amount).toNat) % 256 := UInt8.toNat_add _ _
  omega

theorem add_ofInt_eq_zero_iff :
    value + UInt8.ofInt amount = 0 ↔ (value.toNat + amount) % 256 = 0 := by
  rw [← toNat_add_ofInt, ← UInt8.toNat_inj, UInt8.toNat_zero]
  omega

theorem Tape.Shifts.current? {added : Int → Int} {tape last : Tape}
    (shifts : tape.Shifts 0 added last) (current : tape.current? = some value) :
    last.current? = some (value + UInt8.ofInt (added 0)) := by
  have same : last.pointer = tape.pointer := by
    have moves := shifts.pointer_eq
    omega
  have cell : tape.cells[tape.pointer]? = some value := current
  rw [Tape.current?, same, shifts.cell?_eq, cell]
  simp

end Cells

namespace LeftAfter

variable {rounds : Nat} {body : List Char} {start reached : State} {value : UInt8}

private theorem not_within (leaves : LeftAfter rounds body start reached) :
    ¬ Within start.index body reached := by
  rintro ⟨_, upper⟩
  rw [leaves.index_eq] at upper
  omega

/-- A loop that does nothing but count its cell down clears it. -/
theorem cells_eq (leaves : LeftAfter rounds ['-'] start reached)
    (current : start.tape.current? = some value) :
    reached.tape.cells = (start.tape.put 0).cells := by
  obtain ⟨inside, _⟩ := Array.getElem?_eq_some_iff.mp current
  apply Array.ext_getElem?
  intro place
  by_cases here : place = start.tape.pointer
  · have cell := leaves.current?_eq
    rw [Tape.current?, leaves.pointer_eq] at cell
    rw [here, cell]
    exact (Tape.current?_put inside 0).symm
  · have elsewhere : (place : Int) - start.tape.pointer ≠ 0 := by omega
    have nothing : change ['-'] (place - start.tape.pointer) = 0 := by
      simp [change_singleton, elsewhere]
    rw [leaves.cell?_eq, Tape.cells_put_of_ne here, nothing, Int.mul_zero]
    exact ((Tape.Shifts.refl start.tape).cell?_eq place).symm

end LeftAfter

namespace CountingLoop

open Machine

variable {machine : Machine} {size rounds : Nat} {body : List Char} {state : State}
  {value : UInt8} {tape : Tape}

/-- The state when some rounds are done, and of the next one `done` characters. -/
def inside (state : State) (body : List Char) (rounds done : Nat) (tape : Tape) : State where
  index := state.index + 1 + done
  loops := state.index :: state.loops
  steps := state.steps + (1 + rounds * (body.length + 1) + done)
  tape := tape
  streams := state.streams

/-- The state when the loop is left after some rounds. -/
def outside (state : State) (body : List Char) (rounds : Nat) (tape : Tape) : State where
  index := state.index + 1 + body.length + 1
  loops := state.loops
  steps := state.steps + (1 + rounds * (body.length + 1))
  tape := tape
  streams := state.streams

def Turned (body : List Char) (rounds : Nat) (start tape : Tape) : Prop :=
  start.Shifts 0 (fun offset => rounds * change body offset) tape

section Rounds

theorem steps_succ (rounds length : Nat) :
    1 + (rounds + 1) * (length + 1) = 1 + rounds * (length + 1) + length + 1 := by
  rw [Nat.succ_mul]
  omega

private theorem current?_turned
    (turned : Turned body rounds state.tape tape) (current : state.tape.current? = some value) :
    ∃ left, tape.current? = some left ∧ (left = 0 ↔ Cleared body value rounds) :=
  ⟨_, turned.current? current, add_ofInt_eq_zero_iff⟩

theorem turned_zero (body : List Char) (tape : Tape) : Turned body 0 tape tape := by
  have nothing : (fun offset => ((0 : Nat) : Int) * change body offset) = fun _ => 0 := by
    funext offset
    exact Int.zero_mul _
  unfold Turned
  rw [nothing]
  exact .refl tape

private theorem leftAfter_of_turned (current : state.tape.current? = some value)
    (cleared : Cleared body value rounds) (turned : Turned body rounds state.tape tape) :
    LeftAfter rounds body state (outside state body rounds tape) := by
  obtain ⟨left, currentEq, zero⟩ := current?_turned turned current
  refine ⟨?_, rfl, rfl, ?_, ?_, turned.cell?_eq⟩
  · simp only [outside]
    omega
  · have moved := turned.pointer_eq
    simp only [outside]
    omega
  · rw [zero.mpr cleared] at currentEq
    exact currentEq

variable (loop : CountingLoop machine size body state)

include loop

private theorem displacement_eq : displacement body = 0 := by
  simp [displacement, loop.returns]

private theorem found_close : machine.program[state.index + 1 + body.length]? = some ']' :=
  loop.placed.tail.append.2.getElem?_eq

theorem turned_succ {tape' : Tape} (turned : Turned body rounds state.tape tape)
    (shifts : tape.Shifts (displacement body) (change body) tape') :
    Turned body (rounds + 1) state.tape tape' := by
  have both := turned.trans shifts
  rw [loop.displacement_eq] at both
  have added : (fun offset => rounds * change body offset + change body (offset - 0)) =
      fun offset => (rounds + 1 : Nat) * change body offset := by
    funext offset
    rw [Int.sub_zero, Int.natCast_succ, Int.add_mul, Int.one_mul]
  rw [added] at both
  exact both

/-- In front of the body, nothing about the next round depends on the rounds before. -/
theorem atStraight (turned : Turned body rounds state.tape tape) :
    AtStraight machine size body (inside state body rounds 0 tape) := by
  refine ⟨loop.placed.tail.append.1, loop.straight, loop.sized,
    turned.size_eq.trans loop.cells, ?_⟩
  have same : ((inside state body rounds 0 tape).tape.pointer : Int) = state.tape.pointer :=
    turned.pointer_eq.trans (Int.add_zero _)
  rw [same]
  exact loop.stays

private theorem after_body (turned : Turned body rounds state.tape tape) :
    ∃ tape', Turned body (rounds + 1) state.tape tape' ∧
      machine.after body.length (inside state body rounds 0 tape) =
        some (inside state body rounds body.length tape') := by
  obtain ⟨tape', shifts, arrived⟩ := (loop.atStraight turned).exists_after
  refine ⟨tape', loop.turned_succ turned shifts, arrived.trans ?_⟩
  simp only [inside, Nat.add_zero, Nat.add_assoc]

private theorem exists_after_within_body (turned : Turned body rounds state.tape tape) {done : Nat}
    (bound : done ≤ body.length) :
    ∃ reached, machine.after done (inside state body rounds 0 tape) = some reached ∧
      Within state.index body reached := by
  obtain ⟨reached, arrived, indexEq⟩ := (loop.atStraight turned).exists_after_of_le bound
  refine ⟨reached, arrived, ?_⟩
  simp only [inside] at indexEq
  constructor <;> omega

theorem after_enter (current : state.tape.current? = some value)
    (running : ¬ Cleared body value 0) :
    machine.after 1 state = some (inside state body 0 0 state.tape) := by
  obtain ⟨left, currentEq, cleared⟩ := current?_turned (turned_zero body state.tape) current
  have entered : Move machine state (inside state body 0 0 state.tape) := by
    have enters := Move.enter loop.placed.getElem?_eq currentEq (mt cleared.mp running)
    simpa only [State.advance, State.goto, inside, Nat.zero_mul, Nat.add_zero] using enters
  exact after_succ_eq_some_iff.mpr ⟨_, entered, rfl⟩

theorem after_skip (current : state.tape.current? = some value) (cleared : Cleared body value 0) :
    machine.after 1 state = some (outside state body 0 state.tape) := by
  obtain ⟨left, currentEq, zero⟩ := current?_turned (turned_zero body state.tape) current
  rw [zero.mpr cleared] at currentEq
  have found := loop.placed.getElem?_eq
  have partners := loop.placed.partners loop.straight.balanced
  have skipped : Move machine state (outside state body 0 state.tape) := by
    have skips := Move.skip found currentEq ((closing?_eq_some_iff found).mpr partners)
    simpa only [State.goto, outside, Nat.zero_mul, Nat.add_zero] using skips
  exact after_succ_eq_some_iff.mpr ⟨_, skipped, rfl⟩

theorem after_rounds (current : state.tape.current? = some value)
    (running : ∀ count ≤ rounds, ¬ Cleared body value count) :
    ∃ tape, Turned body rounds state.tape tape ∧
      machine.after (1 + rounds * (body.length + 1)) state =
        some (inside state body rounds 0 tape) := by
  induction rounds with
  | zero =>
      rw [Nat.zero_mul]
      exact ⟨state.tape, turned_zero body state.tape, loop.after_enter current (running 0 le_rfl)⟩
  | succ rounds ih =>
      obtain ⟨tape, turned, arrived⟩ := ih fun count bound => running count (by omega)
      obtain ⟨tape', turned', followed⟩ := loop.after_body turned
      obtain ⟨left, currentEq, cleared⟩ := current?_turned turned' current
      have again : Move machine (inside state body rounds body.length tape')
          (inside state body (rounds + 1) 0 tape') := by
        have repeats := @Move.again machine (inside state body rounds body.length tape') left
          state.index state.loops loop.found_close rfl currentEq
          (mt cleared.mp (running _ (Nat.le_refl _)))
        simpa only [State.goto, inside, steps_succ, Nat.add_zero, Nat.add_assoc] using repeats
      rw [steps_succ]
      exact ⟨tape', turned', after_succ_of_move (after_trans arrived followed) again⟩

/-- The loop is left when its cell is zero for the first time. -/
theorem after_loop (current : state.tape.current? = some value)
    (least : IsLeast {count | Cleared body value count} rounds) :
    ∃ tape, Turned body rounds state.tape tape ∧
      machine.after (1 + rounds * (body.length + 1)) state =
        some (outside state body rounds tape) := by
  obtain ⟨cleared, lower⟩ := least
  have running : ∀ count < rounds, ¬ Cleared body value count :=
    fun count fewer there => absurd (lower there) (Nat.not_le.mpr fewer)
  cases rounds with
  | zero =>
      rw [Nat.zero_mul]
      exact ⟨state.tape, turned_zero body state.tape, loop.after_skip current cleared⟩
  | succ rounds =>
      obtain ⟨tape, turned, arrived⟩ :=
        loop.after_rounds current fun count bound => running count (Nat.lt_succ_of_le bound)
      obtain ⟨tape', turned', followed⟩ := loop.after_body turned
      obtain ⟨left, currentEq, zero⟩ := current?_turned turned' current
      rw [zero.mpr cleared] at currentEq
      have leaves : Move machine (inside state body rounds body.length tape')
          (outside state body (rounds + 1) tape') := by
        have leave := @Move.leave machine (inside state body rounds body.length tape')
          state.index state.loops loop.found_close rfl currentEq
        simpa only [State.advance, State.goto, inside, outside, steps_succ, Nat.add_assoc]
          using leave
      rw [steps_succ]
      exact ⟨tape', turned', after_succ_of_move (after_trans arrived followed) leaves⟩

theorem exists_after_within (current : state.tape.current? = some value)
    (running : ∀ count < rounds, ¬ Cleared body value count) {count : Nat}
    (early : count < 1 + rounds * (body.length + 1)) :
    ∃ reached, machine.after count state = some reached ∧ Within state.index body reached := by
  cases count with
  | zero => exact ⟨state, rfl, Nat.le_refl _, by omega⟩
  | succ count =>
      have positive : 0 < body.length + 1 := Nat.succ_pos _
      have round : count / (body.length + 1) < rounds :=
        (Nat.div_lt_iff_lt_mul positive).mpr (by omega)
      have done : count % (body.length + 1) ≤ body.length :=
        Nat.le_of_lt_succ (Nat.mod_lt count positive)
      have split : count + 1 = 1 + count / (body.length + 1) * (body.length + 1) +
          count % (body.length + 1) := by
        have whole := Nat.div_add_mod' count (body.length + 1)
        omega
      obtain ⟨tape, turned, arrived⟩ :=
        loop.after_rounds current fun earlier bound =>
          running earlier (Nat.lt_of_le_of_lt bound round)
      obtain ⟨reached, further, within⟩ := loop.exists_after_within_body turned done
      rw [split]
      exact ⟨reached, after_trans arrived further, within⟩

theorem exists_leftAfter (current : state.tape.current? = some value)
    (least : IsLeast {count | Cleared body value count} rounds) :
    ∃ reached, machine.after (1 + rounds * (body.length + 1)) state = some reached ∧
      LeftAfter rounds body state reached := by
  obtain ⟨tape, turned, arrived⟩ := loop.after_loop current least
  exact ⟨_, arrived, leftAfter_of_turned current least.1 turned⟩

end Rounds

theorem exists_isLeast (ends : ∃ rounds, Cleared body value rounds) :
    ∃ rounds, IsLeast {count | Cleared body value count} rounds :=
  ⟨Nat.find ends, Nat.find_spec ends, fun _ cleared => Nat.find_min' ends cleared⟩

/-- A cell that goes down by one in each round is zero after as many rounds as it
says. -/
theorem isLeast_of_countdown (down : change body 0 = -1) (value : UInt8) :
    IsLeast {count | Cleared body value count} value.toNat := by
  have byte : value.toNat < 256 := value.toNat_lt
  have clears : ∀ count, Cleared body value count ↔ (value.toNat - count : Int) % 256 = 0 := by
    intro count
    unfold Cleared
    rw [down, Int.mul_neg_one, ← Int.sub_eq_add_neg]
  constructor
  · exact (clears _).mpr (by omega)
  · intro count cleared
    have multiple := (clears count).mp cleared
    omega

/-- The closed form of counting loops.  A run gets past the loop just when its cell is a
multiple of 256 after some number of rounds.  The least such number says how many
instructions that takes and what was added to each cell by then, and until then the run
is in the loop.  A loop that counts its cell down by one is always left, and one that
does nothing else clears the cell. -/
theorem closed_form (loop : CountingLoop machine size body state)
    (current : state.tape.current? = some value) :
    ((∃ count reached, machine.after count state = some reached ∧
        ¬ Within state.index body reached) ↔ ∃ rounds, Cleared body value rounds) ∧
    (∀ rounds, IsLeast {count | Cleared body value count} rounds →
      (∃ reached, machine.after (1 + rounds * (body.length + 1)) state = some reached ∧
        LeftAfter rounds body state reached) ∧
      ∀ count < 1 + rounds * (body.length + 1), ∃ reached,
        machine.after count state = some reached ∧ Within state.index body reached) ∧
    ((∀ rounds, ¬ Cleared body value rounds) → ∀ count, ∃ reached,
      machine.after count state = some reached ∧ Within state.index body reached) ∧
    (change body 0 = -1 → ∃ reached,
      machine.after (1 + value.toNat * (body.length + 1)) state = some reached ∧
        LeftAfter value.toNat body state reached) ∧
    (body = ['-'] → ∃ reached,
      machine.after (1 + value.toNat * 2) state = some reached ∧
        reached.tape.cells = (state.tape.put 0).cells) := by
  have early : ∀ rounds, IsLeast {count | Cleared body value count} rounds →
      ∀ count < 1 + rounds * (body.length + 1), ∃ reached,
        machine.after count state = some reached ∧ Within state.index body reached := by
    intro rounds least count fewer
    exact loop.exists_after_within current
      (fun earlier less cleared => absurd (least.2 cleared) (Nat.not_le.mpr less)) fewer
  have never : (∀ rounds, ¬ Cleared body value rounds) → ∀ count, ∃ reached,
      machine.after count state = some reached ∧ Within state.index body reached := by
    intro running count
    have fewer : count < 1 + (count + 1) * (body.length + 1) := by
      rw [Nat.mul_succ]
      omega
    exact loop.exists_after_within current (fun earlier _ => running earlier) fewer
  refine ⟨⟨?_, ?_⟩, ?_, never, ?_, ?_⟩
  · rintro ⟨count, reached, arrived, past⟩
    by_contra stays
    obtain ⟨reached', arrived', within⟩ := never (not_exists.mp stays) count
    rw [arrived] at arrived'
    cases arrived'
    exact past within
  · intro ends
    obtain ⟨rounds, least⟩ := exists_isLeast ends
    obtain ⟨reached, arrived, leaves⟩ := loop.exists_leftAfter current least
    exact ⟨_, reached, arrived, leaves.not_within⟩
  · exact fun rounds least => ⟨loop.exists_leftAfter current least, early rounds least⟩
  · exact fun down => loop.exists_leftAfter current (isLeast_of_countdown down value)
  · rintro rfl
    have down : change ['-'] 0 = -1 := by simp [change_singleton]
    obtain ⟨reached, arrived, leaves⟩ :=
      loop.exists_leftAfter current (isLeast_of_countdown down value)
    exact ⟨reached, arrived, leaves.cells_eq current⟩

/-- A loop moves three to the next cell, past 255 there; a loop that counts an odd cell
down by two goes on for ever. -/
theorem closed_form_of_transfer :
    let transfer : Machine := ⟨#['[', '-', '>', '+', '<', ']'], 2, .standard, .none⟩
    let odd : Machine := ⟨#['[', '-', '-', ']'], 1, .standard, .none⟩
    (∃ reached, transfer.after 16 ⟨0, [], 0, ⟨#[3, 254], 0, 0⟩, .ofInput []⟩ = some reached ∧
      reached.index = 6 ∧ reached.loops = [] ∧ reached.tape.pointer = 0 ∧
      reached.tape.cells[0]? = some 0 ∧ reached.tape.cells[1]? = some 1) ∧
    ∀ count, ∃ reached, odd.after count ⟨0, [], 0, ⟨#[1], 0, 0⟩, .ofInput []⟩ = some reached ∧
      reached.index ≤ 3 := by
  intro transfer odd
  constructor
  · have loop : CountingLoop transfer 2 ['-', '>', '+', '<']
        ⟨0, [], 0, ⟨#[3, 254], 0, 0⟩, .ofInput []⟩ :=
      ⟨⟨[], rfl⟩, by simp [Straight], by decide, rfl, rfl, by decide⟩
    have current : (⟨#[3, 254], 0, 0⟩ : Tape).current? = some 3 := rfl
    obtain ⟨-, -, -, counted, -⟩ := loop.closed_form current
    obtain ⟨reached, arrived, leaves⟩ := counted (by decide)
    exact ⟨reached, arrived, leaves.index_eq, leaves.loops_eq, leaves.pointer_eq,
      leaves.cell?_eq 0, leaves.cell?_eq 1⟩
  · have loop : CountingLoop odd 1 ['-', '-'] ⟨0, [], 0, ⟨#[1], 0, 0⟩, .ofInput []⟩ :=
      ⟨⟨[], rfl⟩, by simp [Straight], by decide, rfl, rfl, by decide⟩
    have current : (⟨#[1], 0, 0⟩ : Tape).current? = some 1 := rfl
    have down : change ['-', '-'] 0 = -2 := by decide
    obtain ⟨-, -, never, -⟩ := loop.closed_form current
    intro count
    have running : ∀ rounds, ¬ Cleared ['-', '-'] 1 rounds := by
      intro rounds cleared
      have one : (1 : UInt8).toNat = 1 := rfl
      unfold Cleared at cleared
      rw [down, one] at cleared
      omega
    obtain ⟨reached, arrived, within⟩ := never running count
    exact ⟨reached, arrived, within.2⟩

end CountingLoop

end Brainfuck
