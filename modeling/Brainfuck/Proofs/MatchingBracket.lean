import Brainfuck.Proofs.Scan
import Brainfuck.Proofs.Segment

/-!
# Matching from any start

A scan for a partner may start at any index.  From a negative index, which counts from
the end of the program, it goes on to index 0 and so into the program's beginning:
what it reads is an end of the program with the whole program behind it.  `textFrom` is
this text.  Its characters are those at the indices behind the start, so that the scan
finds the partner of a bracket at the start, by the grammar of balanced texts, whatever
the sign of the indices.
-/

namespace Brainfuck

namespace Program

/-- The character at an index; a negative index counts from the end. -/
def charAt? (program : Program) (index : Int) : Option Char :=
  if 0 ≤ index then program[index.toNat]?
  else if 0 ≤ program.size + index then program[(program.size + index).toNat]?
  else none

def between (program : Program) (first stop : Int) : List Char :=
  (List.range (stop - first).toNat).filterMap fun offset : Nat =>
    program.charAt? (first + offset)

/-- What is read from an index on, up to the last character. -/
def textFrom (program : Program) (first : Int) : List Char :=
  if first < 0 then program.toList.drop (program.size + first).toNat ++ program.toList
  else program.toList.drop first.toNat

end Program

/-- Read from index to index, the bracket at `stop` closes a loop opened at `start`. -/
structure Closes (program : Program) (start stop : Int) : Prop where
  behind : start < stop
  close : program.charAt? stop = some ']'
  balanced : Balanced (program.between (start + 1) stop)

variable {program : Program} {start first stop : Int}

section Text

private theorem filterMap_range_of_getElem? {text : List Char} {read : Nat → Option Char}
    (reads : ∀ offset, text[offset]? = read offset) (count : Nat) :
    (List.range count).filterMap read = text.take count := by
  induction count with
  | zero => rfl
  | succ count ih =>
      rw [List.range_succ, List.filterMap_append, ih, List.take_add_one, reads count]
      cases found : read count <;> simp [found]

private theorem getElem?_textFrom (inRange : -program.size ≤ first) (offset : Nat) :
    (program.textFrom first)[offset]? = program.charAt? (first + offset) := by
  unfold Program.textFrom Program.charAt?
  by_cases negative : first < 0
  · rw [if_pos negative, List.getElem?_append, List.length_drop, Array.length_toList]
    by_cases wraps : 0 ≤ first + offset
    · have later : ¬ offset < program.size - (program.size + first).toNat := by omega
      have place : offset - (program.size - (program.size + first).toNat) =
          (first + offset).toNat := by omega
      rw [if_neg later, if_pos wraps, place, Array.getElem?_toList]
    · have sooner : offset < program.size - (program.size + first).toNat := by omega
      have inside : 0 ≤ program.size + (first + offset) := by omega
      have place : (program.size + first).toNat + offset =
          (program.size + (first + offset)).toNat := by omega
      rw [if_pos sooner, if_neg wraps, if_pos inside, List.getElem?_drop, place,
        Array.getElem?_toList]
  · have nonneg : 0 ≤ first + offset := by omega
    have place : first.toNat + offset = (first + offset).toNat := by omega
    rw [if_neg negative, if_pos nonneg, List.getElem?_drop, place, Array.getElem?_toList]

private theorem between_eq_take (inRange : -program.size ≤ first) :
    program.between first stop = (program.textFrom first).take (stop - first).toNat :=
  filterMap_range_of_getElem? (getElem?_textFrom inRange) _

/-- From a start that is not negative, the characters in between are a slice. -/
theorem between_eq_segment (nonneg : 0 ≤ first) (ordered : first ≤ stop) :
    program.between first stop = segment program.toList first stop := by
  have width : (stop - first).toNat = stop.toNat - first.toNat := by omega
  rw [between_eq_take (by omega), Program.textFrom, if_neg (Int.not_lt.mpr nonneg), width,
    segment_of_nonneg program.toList nonneg (by omega)]

private theorem closes_iff_textFrom (inRange : -program.size ≤ start + 1) :
    Closes program start stop ↔
      ∃ body behind, program.textFrom (start + 1) = body ++ ']' :: behind ∧ Balanced body ∧
        start + 1 + body.length = stop := by
  constructor
  · rintro ⟨ordered, close, balanced⟩
    have place : start + 1 + ((stop - (start + 1)).toNat : Int) = stop := by omega
    have found : (program.textFrom (start + 1))[(stop - (start + 1)).toNat]? = some ']' := by
      rw [getElem?_textFrom inRange, place]
      exact close
    rw [between_eq_take inRange] at balanced
    refine ⟨_, _, split_of_getElem? found, balanced, ?_⟩
    rw [length_take_of_getElem? found]
    exact place
  · rintro ⟨body, behind, text, balanced, rfl⟩
    have width : (start + 1 + (body.length : Int) - (start + 1)).toNat = body.length := by omega
    refine ⟨by omega, ?_, ?_⟩
    · rw [← getElem?_textFrom inRange, text]
      simp
    · rw [between_eq_take inRange, width, text, List.take_left]
      exact balanced

end Text

section Answer

/-- Where a scan starts does not matter for how far it goes. -/
theorem closingFrom?_add (base position depth : Nat) (text : List Char) :
    closingFrom? (base + position) depth text =
      (closingFrom? position depth text).map (base + ·) := by
  induction text generalizing position depth with
  | nil => rfl
  | cons character rest ih =>
      have next := fun depth => ih (position + 1) depth
      simp only [← Nat.add_assoc] at next
      simp only [closingFrom?]
      split
      · exact next _
      · split
        · cases depth with
          | zero => rfl
          | succ depth => exact next _
        · exact next _

def unmatchedOpen (program : Program) (start : Int) : Failure :=
  .badBracket "Unmatched '['" program start

theorem matchingBracket_eq_scan (inRange : -program.size ≤ start + 1) :
    matchingBracket program start =
      match closingFrom? 0 0 (program.textFrom (start + 1)) with
      | some offset => .ok (start + 1 + offset)
      | none => .error (unmatchedOpen program start) := by
  unfold matchingBracket Program.textFrom unmatchedOpen
  have notBefore : ¬ start + 1 < -program.size := by omega
  simp only [if_neg notBefore]
  by_cases negative : start + 1 < 0
  · have scan : closing? (program.extract (program.size + (start + 1)).toNat program.size ++
        program) 0 = closingFrom? 0 0
          (program.toList.drop (program.size + (start + 1)).toNat ++ program.toList) := by
      rw [closing?_eq, List.drop_zero, Array.toList_append, Array.toList_extract,
        List.extract_eq_take_drop, List.take_of_length_le]
      simp
    simp only [if_pos negative]
    generalize closingFrom? 0 0
      (program.toList.drop (program.size + (start + 1)).toNat ++ program.toList) = answer at *
    cases answer with
    | none => simp only [scan]
    | some offset => simp only [scan]
  · have place : ((start + 1).toNat : Int) = start + 1 := by omega
    have scan := closingFrom?_add (start + 1).toNat 0 0 (program.toList.drop (start + 1).toNat)
    rw [Nat.add_zero] at scan
    simp only [if_neg negative, closing?_eq, scan]
    cases closingFrom? 0 0 (program.toList.drop (start + 1).toNat) with
    | none => rfl
    | some offset => simp [place]

theorem matchingBracket_eq_ok_iff (inRange : -program.size ≤ start + 1) :
    matchingBracket program start = .ok stop ↔ Closes program start stop := by
  rw [matchingBracket_eq_scan inRange, closes_iff_textFrom inRange]
  constructor
  · intro answer
    split at answer
    · next offset found =>
        cases answer
        obtain ⟨body, behind, text, balanced, place⟩ := closingFrom?_eq_some_iff.mp found
        exact ⟨body, behind, text, balanced, by omega⟩
    · cases answer
  · rintro ⟨body, behind, text, balanced, rfl⟩
    have found : closingFrom? 0 0 (program.textFrom (start + 1)) = some body.length :=
      closingFrom?_eq_some_iff.mpr ⟨body, behind, text, balanced, Nat.zero_add _⟩
    rw [found]

theorem matchingBracket_eq_unmatched_iff (inRange : -program.size ≤ start + 1) :
    matchingBracket program start = .error (unmatchedOpen program start) ↔
      ∀ stop, ¬ Closes program start stop := by
  simp only [← matchingBracket_eq_ok_iff inRange]
  rw [matchingBracket_eq_scan inRange]
  split <;> simp

theorem Closes.unique
    {other : Int} (inRange : -program.size ≤ start + 1) (closes : Closes program start stop)
    (closes' : Closes program start other) : stop = other := by
  rw [← matchingBracket_eq_ok_iff inRange] at closes closes'
  rw [closes] at closes'
  exact Except.ok.inj closes'

/-- From a start that is not negative, what a bracket closes is a slice of the program. -/
theorem closes_iff_segment (nonneg : 0 ≤ start) :
    Closes program start stop ↔
      start < stop ∧ program[stop.toNat]? = some ']' ∧
        Balanced (segment program.toList (start + 1) stop) := by
  constructor
  · rintro ⟨ordered, close, balanced⟩
    rw [between_eq_segment (by omega) (by omega)] at balanced
    rw [Program.charAt?, if_pos (by omega)] at close
    exact ⟨ordered, close, balanced⟩
  · rintro ⟨ordered, close, balanced⟩
    refine ⟨ordered, ?_, ?_⟩
    · rw [Program.charAt?, if_pos (by omega)]
      exact close
    · rw [between_eq_segment (by omega) (by omega)]
      exact balanced

/-- A scan from an index answers with the one bracket that closes a loop opened there, and
complains about that index when there is none.  From an index that is not negative, this
is the partner in the program from there on; from a negative one the program is entered
again at its beginning.  An index further left than the place in front of the first
character is out of range. -/
theorem matchingBracket_finds_closing (program : Program) (start : Int) :
    (0 ≤ start → ∀ stop, Closes program start stop ↔
      start < stop ∧ program[stop.toNat]? = some ']' ∧
        Balanced (segment program.toList (start + 1) stop)) ∧
    (-program.size - 1 ≤ start →
      (∀ stop, matchingBracket program start = .ok stop ↔ Closes program start stop) ∧
      (∀ stop other, Closes program start stop → Closes program start other → stop = other) ∧
      (matchingBracket program start = .error (.badBracket "Unmatched '['" program start) ↔
        ∀ stop, ¬ Closes program start stop)) ∧
    (start < -program.size - 1 →
      matchingBracket program start = .error (.positionOutOfRange (start + 1))) := by
  refine ⟨?_, ?_, ?_⟩
  · intro nonneg stop
    exact closes_iff_segment nonneg
  · intro inRange
    have firstInRange : -program.size ≤ start + 1 := by omega
    refine ⟨?_, ?_, matchingBracket_eq_unmatched_iff firstInRange⟩
    · intro stop
      exact matchingBracket_eq_ok_iff firstInRange
    · intro stop other closes closes'
      exact closes.unique firstInRange closes'
  · intro before
    have beforeFirst : start + 1 < -program.size := by omega
    unfold matchingBracket
    exact if_pos beforeFirst

/-- A loop that is opened at the last character is closed behind the beginning, and inside
it another one; the answer to a negative start may be negative itself. -/
theorem matchingBracket_finds_closing_across_end :
    matchingBracket #['+', ']', ']', '['] (-2) = .ok 2 ∧
      matchingBracket #['+', ']'] (-3) = .ok (-1) ∧
      matchingBracket #['+', ']'] (-4) = .error (.positionOutOfRange (-3)) ∧
      matchingBracket #['[', '[', ']', ']'] 0 = .ok 3 := by
  have plain : Balanced ['+'] := .singleton (by decide) (by decide)
  have across : Closes #['+', ']', ']', '['] (-2) 2 :=
    ⟨by decide, rfl, .loop plain .nil⟩
  have negative : Closes #['+', ']'] (-3) (-1) := ⟨by decide, rfl, plain⟩
  have inner : Balanced (segment ['[', '[', ']', ']'] (0 + 1) 3) := .loop .nil .nil
  refine ⟨?_, ?_, ?_, ?_⟩
  · exact ((matchingBracket_finds_closing _ _).2.1 (by decide)).1 _ |>.mpr across
  · exact ((matchingBracket_finds_closing _ _).2.1 (by decide)).1 _ |>.mpr negative
  · exact (matchingBracket_finds_closing _ _).2.2 (by decide)
  · have sliced := (matchingBracket_finds_closing #['[', '[', ']', ']'] 0).1 (by decide) 3
    have closes := sliced.mpr ⟨by decide, rfl, inner⟩
    exact ((matchingBracket_finds_closing _ _).2.1 (by decide)).1 _ |>.mpr closes

end Answer

end Brainfuck
