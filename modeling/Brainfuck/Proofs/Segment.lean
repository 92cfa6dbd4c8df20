import Brainfuck.Context

/-!
# Segments between places

Between two places that are not negative, a segment is what is left of a list when its
beginning is dropped and its end is not taken.  Any other bound stands for such a place.
-/

namespace Brainfuck

/-- The place that a bound of a segment stands for.  One that is negative counts from the
end of the list, and what lies in front of the list stands for its beginning. -/
def placeOfBound (length : Nat) (bound : Int) : Nat :=
  (if bound < 0 then bound + length else bound).toNat

variable {α : Type} {start middle stop : Int}

theorem placeOfBound_of_nonneg {bound : Int} (nonneg : 0 ≤ bound) (length : Nat) :
    placeOfBound length bound = bound.toNat := by
  rw [placeOfBound, if_neg (Int.not_lt.mpr nonneg)]

theorem segment_eq_take_drop (items : List α) (start stop : Int) :
    segment items start stop =
      (items.drop (placeOfBound items.length start)).take
        (placeOfBound items.length stop - placeOfBound items.length start) := rfl

/-- Whatever its bounds are, a segment is a contiguous part of the list. -/
theorem segment_isInfix (items : List α) (start stop : Int) :
    segment items start stop <:+: items := by
  rw [segment_eq_take_drop]
  exact (List.take_prefix _ _).isInfix.trans (List.drop_suffix _ _).isInfix

/-- What a segment holds are the items at the places from its start on. -/
theorem getElem?_segment (items : List α) (start stop : Int) (offset : Nat) :
    (segment items start stop)[offset]? =
      if offset < placeOfBound items.length stop - placeOfBound items.length start then
        items[placeOfBound items.length start + offset]?
      else none := by
  rw [segment_eq_take_drop, List.getElem?_take, List.getElem?_drop]

theorem segment_of_nonneg (items : List α) (startNonneg : 0 ≤ start) (stopNonneg : 0 ≤ stop) :
    segment items start stop = (items.drop start.toNat).take (stop.toNat - start.toNat) := by
  rw [segment_eq_take_drop, placeOfBound_of_nonneg startNonneg, placeOfBound_of_nonneg stopNonneg]

theorem length_segment (items : List α) (startNonneg : 0 ≤ start) (stopNonneg : 0 ≤ stop) :
    (segment items start stop).length =
      min (stop.toNat - start.toNat) (items.length - start.toNat) := by
  rw [segment_of_nonneg items startNonneg stopNonneg, List.length_take, List.length_drop]

theorem drop_drop_toNat (items : List α) (ordered : start ≤ stop) :
    (items.drop start.toNat).drop (stop.toNat - start.toNat) = items.drop stop.toNat := by
  rw [List.drop_drop]
  congr 1
  omega

/-- Between bounds in the wrong order there is nothing. -/
theorem segment_eq_nil_of_le (items : List α) (nonneg : 0 ≤ stop) (reversed : stop ≤ start) :
    segment items start stop = [] := by
  have none : stop.toNat - start.toNat = 0 := by omega
  rw [segment_of_nonneg items (by omega) nonneg, none, List.take_zero]

/-- A segment goes on where one ends that stops at its start. -/
theorem segment_append_segment
    (items : List α) (nonneg : 0 ≤ start) (first : start ≤ middle) (second : middle ≤ stop) :
    segment items start middle ++ segment items middle stop = segment items start stop := by
  have width : stop.toNat - start.toNat =
      (middle.toNat - start.toNat) + (stop.toNat - middle.toNat) := by omega
  rw [segment_of_nonneg items nonneg (by omega), segment_of_nonneg items (by omega) (by omega),
    segment_of_nonneg items nonneg (by omega), width, List.take_add, drop_drop_toNat items first]

/-- A segment and what stands on either side of it are the list. -/
theorem take_append_segment_append_drop
    (items : List α) (nonneg : 0 ≤ start) (ordered : start ≤ stop) :
    items.take start.toNat ++ segment items start stop ++ items.drop stop.toNat = items := by
  rw [segment_of_nonneg items nonneg (by omega), ← drop_drop_toNat items ordered,
    List.append_assoc, List.take_append_drop, List.take_append_drop]

end Brainfuck
