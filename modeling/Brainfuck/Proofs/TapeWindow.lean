import Brainfuck.Proofs.Segment
import Brainfuck.Registers

/-!
# Windows of the tape

A window shows the cells of a tape from one index on.  Each of its two bounds stands for a
place, a negative one for a place that is counted from the end, and between these places the
window shows what a look at each single cell finds.  A window from in front of index 0 to
behind it has its start counted from the end of the tape and its end from the beginning: it
may show less than it was asked for, or nothing, but it never shows more.
-/

namespace Brainfuck.Registers

variable {registers : Registers} {first second count start : Int}

/-- What a look at each index from `first` on that is less than `stop` finds. -/
def between (registers : Registers) (first stop : Int) : List (Except Failure UInt8) :=
  (List.range (stop - first).toNat).map fun offset : Nat => registers.cell (first + offset)

/-- The index behind a window that shows `count` cells from `start` on, unless the tape ends
before that. -/
def windowEnd (registers : Registers) (count start : Int) : Int :=
  min registers.size (start + max 0 count)

theorem cells_eq_segment (registers : Registers) (count start : Int) :
    registers.cells count start =
      segment registers.memory.toList start (registers.windowEnd count start) := rfl

theorem cells_of_nonneg (nonneg : 0 ≤ count) :
    registers.cells count start =
      segment registers.memory.toList start (min registers.size (start + count)) := by
  rw [cells_eq_segment, windowEnd, Int.max_eq_right nonneg]

/-- A place of the tape is the index of its cell. -/
theorem cell_of_getElem? {place : Nat} {value : UInt8}
    (found : registers.memory[place]? = some value) : registers.cell place = .ok value := by
  obtain ⟨inside, -⟩ := Array.getElem?_eq_some_iff.mp found
  have notNegative : ¬ (place : Int) < 0 := by omega
  have onTape : 0 ≤ (place : Int) ∧ (place : Int) < registers.memory.size := by omega
  have atPlace : place? registers.memory.size place = some place := by
    simp only [place?, if_neg notNegative, if_pos onTape, Int.toNat_natCast]
  rw [cell, atPlace, Option.bind_some, found]

theorem getElem?_between (registers : Registers) (first stop offset : Nat) :
    (registers.between first stop)[offset]? =
      if offset < stop - first then some (registers.cell ((first + offset : Nat) : Int))
      else none := by
  have width : ((stop : Int) - first).toNat = stop - first := by omega
  rw [between, width, List.getElem?_map]
  by_cases within : offset < stop - first
  · rw [List.getElem?_range within, if_pos within]
    rfl
  · have none : (List.range (stop - first))[offset]? = none := by
      rw [List.getElem?_eq_none_iff, List.length_range]
      exact Nat.not_lt.mp within
    rw [none, if_neg within]
    rfl

section Sized

variable (sized : registers.size = registers.memory.size)

include sized

/-- A window ends on the tape or right behind it, however its end is counted. -/
theorem placeOfBound_windowEnd_le (count start : Int) :
    placeOfBound registers.memory.size (registers.windowEnd count start) ≤
      registers.memory.size := by
  unfold placeOfBound windowEnd
  split <;> omega

/-- Between the places that its bounds stand for, a window shows every cell. -/
theorem map_ok_cells (count start : Int) :
    (registers.cells count start).map Except.ok =
      registers.between (placeOfBound registers.memory.size start)
        (placeOfBound registers.memory.size (registers.windowEnd count start)) := by
  have ends := placeOfBound_windowEnd_le sized count start
  apply List.ext_getElem?
  intro offset
  rw [List.getElem?_map, cells_eq_segment, getElem?_segment, getElem?_between,
    Array.length_toList]
  split
  · have inside : placeOfBound registers.memory.size start + offset < registers.memory.size := by
      omega
    have found := Array.getElem?_eq_getElem inside
    rw [Array.getElem?_toList, found, cell_of_getElem? found]
    rfl
  · rfl

theorem length_cells_le (count start : Int) :
    ((registers.cells count start).length : Int) ≤ max 0 count := by
  have length := congrArg List.length (map_ok_cells sized count start)
  rw [List.length_map, between, List.length_map, List.length_range] at length
  rw [length]
  unfold placeOfBound windowEnd
  -- Bounds on one side of index 0 are moved by the same number.  Of two bounds on different
  -- sides only the start is moved, to the right, which makes the window shorter.
  split <;> split <;> omega

/-- From an index that is not negative, a window shows the cells at the indices from there on
that are on the tape, but not more than it was asked for. -/
theorem map_ok_cells_of_nonneg (nonneg : 0 ≤ start) (count : Int) :
    (registers.cells count start).map Except.ok =
      registers.between start (min registers.size (start + max 0 count)) := by
  have endNonneg : 0 ≤ registers.windowEnd count start := by
    unfold windowEnd
    omega
  rw [map_ok_cells sized, placeOfBound_of_nonneg nonneg, placeOfBound_of_nonneg endNonneg,
    Int.toNat_of_nonneg nonneg, Int.toNat_of_nonneg endNonneg, windowEnd]

/-- A window goes on where one ends that shows the cells in front of it.  If that one ends
with the tape, nothing is left to show. -/
theorem cells_append_cells
    (firstNonneg : 0 ≤ first) (secondNonneg : 0 ≤ second) (nonneg : 0 ≤ start) :
    registers.cells first start ++ registers.cells second (start + first) =
      registers.cells (first + second) start := by
  rw [cells_of_nonneg firstNonneg, cells_of_nonneg secondNonneg,
    cells_of_nonneg (Int.add_nonneg firstNonneg secondNonneg), ← Int.add_assoc]
  rcases Int.le_total (start + first) registers.size with onTape | past
  · rw [Int.min_eq_right onTape]
    exact segment_append_segment _ nonneg (by omega) (by omega)
  · have past' : registers.size ≤ start + first + second := by omega
    rw [Int.min_eq_left past, Int.min_eq_left past',
      segment_eq_nil_of_le _ (by omega) past, List.append_nil]

end Sized

/-- On a tape of its stated size, a window with any bounds is a contiguous part of the tape
that is not longer than was asked for, with every cell between the places that its bounds
stand for.  From an index that is not negative, it has the cells at the indices from there
on, and the next cells behind it continue it. -/
theorem cells_show_contiguous_window (sized : registers.size = registers.memory.size) :
    (∀ count start,
      registers.cells count start <:+: registers.memory.toList ∧
      ((registers.cells count start).length : Int) ≤ max 0 count ∧
      (registers.cells count start).map Except.ok =
        registers.between (placeOfBound registers.memory.size start)
          (placeOfBound registers.memory.size (min registers.size (start + max 0 count)))) ∧
    (∀ count start, 0 ≤ start →
      (registers.cells count start).map Except.ok =
        registers.between start (min registers.size (start + max 0 count))) ∧
    ∀ first second start, 0 ≤ first → 0 ≤ second → 0 ≤ start →
      registers.cells first start ++ registers.cells second (start + first) =
        registers.cells (first + second) start := by
  refine ⟨?_, ?_, ?_⟩
  · intro count start
    refine ⟨?_, length_cells_le sized count start, map_ok_cells sized count start⟩
    exact segment_isInfix registers.memory.toList start _
  · intro count start nonneg
    exact map_ok_cells_of_nonneg sized nonneg count
  · intro first second start firstNonneg secondNonneg nonneg
    exact cells_append_cells sized firstNonneg secondNonneg nonneg

/-- On a tape of five cells, seven cells from the third last one on would end behind index 0:
the window ends in front of index 4.  Four cells from index 3 on are only two, and two more
from index 7 on are none. -/
theorem cells_show_contiguous_window_around_ends :
    let registers : Registers := ⟨5, #[10, 20, 30, 40, 50], 0, [], 0, 0⟩
    registers.cells 7 (-3) = [30, 40] ∧ registers.cells 7 (-3) <:+: [10, 20, 30, 40, 50] ∧
      (registers.cells 7 (-3)).map Except.ok = registers.between 2 4 ∧
      (registers.cells 4 3).map Except.ok = registers.between 3 5 ∧
      registers.cells 4 3 ++ registers.cells 2 7 = registers.cells 6 3 := by
  intro registers
  have sized : registers.size = registers.memory.size := rfl
  obtain ⟨windows, fromIndex, continued⟩ := cells_show_contiguous_window sized
  obtain ⟨part, -, shown⟩ := windows 7 (-3)
  exact ⟨rfl, part, shown, fromIndex 4 3 (by decide),
    continued 4 2 3 (by decide) (by decide) (by decide)⟩

end Brainfuck.Registers
