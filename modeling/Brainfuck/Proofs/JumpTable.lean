import Brainfuck.Machine.JumpTable
import Brainfuck.Proofs.Lockstep
import Brainfuck.Proofs.LoopStack

/-!
# The jump table agrees with scan and stack

One pass over the program fills the table.  An opening bracket that is reached
by the pass waits until its loop is closed, which is where the scan from it
would stop; so the table holds what the scan finds, and its entries come in
pairs.  A closing bracket that a run reaches has the top of the stack as its
partner, and therefore the two machines run in lock step.
-/

namespace Brainfuck

namespace JumpTable

variable {program : Program} {table : JumpTable} {position start stop place other : Nat}
  {opened : List Nat} {text : List Char}

section Pair

private theorem size_pair (table : JumpTable) (start stop : Nat) :
    (table.pair start stop).size = table.size := by
  simp [pair]

private theorem partner?_pair_stop (inside : stop < table.size) :
    (table.pair start stop).partner? stop = some start := by
  simp [pair, partner?, inside]

private theorem partner?_pair_start (inside : start < table.size) (different : start ≠ stop) :
    (table.pair start stop).partner? start = some stop := by
  simp [pair, partner?, inside, different.symm]

private theorem partner?_pair_of_ne (notStart : place ≠ start) (notStop : place ≠ stop) :
    (table.pair start stop).partner? place = table.partner? place := by
  simp [pair, partner?, notStart.symm, notStop.symm]

end Pair

/-- A table that was filled up to `position`, with the brackets that still wait
for their partners. -/
structure Filled (program : Program) (table : JumpTable) (position : Nat)
    (opened : List Nat) : Prop where
  size : table.size = program.size
  waiting : ∀ place ∈ opened, place < position ∧ program[place]? = some '['
  distinct : opened.Nodup
  free : ∀ place, place ∈ opened ∨ position ≤ place → table.partner? place = none
  paired : ∀ place other, table.partner? place = some other →
    table.partner? other = some place ∧
      (program[place]? = some '[' ∨ program[other]? = some '[')

namespace Filled

theorem initial (program : Program) :
    Filled program (Array.replicate program.size none) 0 [] := by
  have empty : ∀ place,
      JumpTable.partner? (Array.replicate program.size none) place = none := by
    intro place
    simp only [partner?, Array.getElem?_replicate]
    split <;> rfl
  exact {
    size := Array.size_replicate
    waiting := by simp
    distinct := .nil
    free := fun place _ => empty place
    paired := fun place other found => by simp [empty] at found }

theorem skip (filled : Filled program table position opened) :
    Filled program table (position + 1) opened where
  size := filled.size
  waiting := fun place member =>
    ⟨Nat.lt_succ_of_lt (filled.waiting place member).1, (filled.waiting place member).2⟩
  distinct := filled.distinct
  free := fun place unset => filled.free place (unset.imp_right Nat.le_of_succ_le)
  paired := filled.paired

theorem enter (filled : Filled program table position opened)
    (found : program[position]? = some '[') :
    Filled program table (position + 1) (position :: opened) where
  size := filled.size
  waiting := by
    intro place member
    rcases List.mem_cons.mp member with rfl | member
    · exact ⟨Nat.lt_succ_self place, found⟩
    · exact filled.skip.waiting place member
  distinct := by
    refine List.nodup_cons.mpr ⟨?_, filled.distinct⟩
    intro member
    exact Nat.lt_irrefl position (filled.waiting position member).1
  free := by
    intro place unset
    apply filled.free
    rcases unset with member | later
    · rcases List.mem_cons.mp member with rfl | member
      · exact .inr (Nat.le_refl place)
      · exact .inl member
    · exact .inr (Nat.le_of_succ_le later)
  paired := filled.paired

/-- Neither bracket of a new pair had an entry, so no older pair is lost. -/
theorem leave (filled : Filled program table position (start :: opened))
    (inside : position < program.size) :
    Filled program (table.pair start position) (position + 1) opened := by
  obtain ⟨startBefore, startOpen⟩ := filled.waiting start List.mem_cons_self
  have different : start ≠ position := Nat.ne_of_lt startBefore
  have positionInside : position < table.size := filled.size.symm ▸ inside
  have startInside : start < table.size := Nat.lt_trans startBefore positionInside
  have startFree : table.partner? start = none := filled.free start (.inl List.mem_cons_self)
  have positionFree : table.partner? position = none :=
    filled.free position (.inr (Nat.le_refl position))
  obtain ⟨startFresh, distinct⟩ := List.nodup_cons.mp filled.distinct
  have kept : ∀ place other, table.partner? place = some other →
      (table.pair start position).partner? place = some other := by
    intro place other found
    have notStart : place ≠ start := by
      rintro rfl
      simp [startFree] at found
    have notPosition : place ≠ position := by
      rintro rfl
      simp [positionFree] at found
    rw [partner?_pair_of_ne notStart notPosition, found]
  exact {
    size := (size_pair table start position).trans filled.size
    waiting := fun place member =>
      filled.skip.waiting place (List.mem_cons_of_mem start member)
    distinct := distinct
    free := by
      intro place unset
      have notStart : place ≠ start := by
        rintro rfl
        rcases unset with member | later
        · exact startFresh member
        · omega
      have notPosition : place ≠ position := by
        rintro rfl
        rcases unset with member | later
        · have before := (filled.waiting place (List.mem_cons_of_mem start member)).1
          omega
        · omega
      rw [partner?_pair_of_ne notStart notPosition]
      exact filled.free place (unset.imp (List.mem_cons_of_mem start) Nat.le_of_succ_le)
    paired := by
      intro place other found
      by_cases isStart : place = start
      · subst isStart
        rw [partner?_pair_start startInside different, Option.some.injEq] at found
        subst found
        exact ⟨partner?_pair_stop positionInside, .inl startOpen⟩
      · by_cases isPosition : place = position
        · subst isPosition
          rw [partner?_pair_stop positionInside, Option.some.injEq] at found
          subst found
          exact ⟨partner?_pair_start startInside different, .inr startOpen⟩
        · rw [partner?_pair_of_ne isStart isPosition] at found
          obtain ⟨back, bracket⟩ := filled.paired place other found
          exact ⟨kept other place back, bracket⟩ }

end Filled

section Fill

/-- What a pass over the rest of the program makes of a table. -/
structure Completed (program : Program) (table : JumpTable) (position : Nat)
    (opened : List Nat) (final : JumpTable) : Prop where
  filled : ∃ left, Filled program final program.size left
  older : ∀ place < position, place ∉ opened →
    final.partner? place = table.partner? place
  waited : ∀ (depth place : Nat), opened[depth]? = some place →
    final.partner? place =
      closingFrom? position depth (program.toList.drop position)
  later : ∀ place, position ≤ place → program[place]? = some '[' →
    final.partner? place = closing? program (place + 1)

namespace Completed

variable {final : JumpTable}

private theorem of_end (filled : Filled program table program.size opened) :
    Completed program table program.size opened table where
  filled := ⟨opened, filled⟩
  older := fun _ _ _ => rfl
  waited := by
    intro depth place waits
    have textEq : program.toList.drop program.size = [] :=
      List.drop_eq_nil_of_le (by simp)
    rw [textEq]
    exact filled.free place (.inl (List.mem_of_getElem? waits))
  later := by
    intro place later found
    have inside := (Array.getElem?_eq_some_iff.mp found).1
    omega

/-- The bracket that was entered last waits at depth 0. -/
theorem of_enter (found : program[position]? = some '[')
    (rest : Completed program table (position + 1) (position :: opened) final) :
    Completed program table position opened final where
  filled := rest.filled
  older := by
    intro place before fresh
    refine rest.older place (Nat.lt_succ_of_lt before) ?_
    simp [fresh, Nat.ne_of_lt before]
  waited := by
    intro depth place waits
    have listed : program.toList[position]? = some '[' := by simpa using found
    have deeper := rest.waited (depth + 1) place (by simpa using waits)
    simpa [drop_of_getElem? listed, closingFrom?] using deeper
  later := by
    intro place later bracket
    rcases Nat.eq_or_lt_of_le later with rfl | beyond
    · rw [rest.waited 0 position rfl, closing?_eq]
    · exact rest.later place beyond bracket

private theorem of_leave (found : program[position]? = some ']')
    (filled : Filled program table position (start :: opened))
    (rest : Completed program (table.pair start position) (position + 1) opened final) :
    Completed program table position (start :: opened) final := by
  obtain ⟨startFresh, _⟩ := List.nodup_cons.mp filled.distinct
  have startBefore := (filled.waiting start List.mem_cons_self).1
  have startInside : start < table.size := by
    have inside := (Array.getElem?_eq_some_iff.mp found).1
    rw [filled.size]
    omega
  exact {
    filled := rest.filled
    older := by
      intro place before fresh
      simp only [List.mem_cons, not_or] at fresh
      rw [rest.older place (Nat.lt_succ_of_lt before) fresh.2]
      exact partner?_pair_of_ne fresh.1 (Nat.ne_of_lt before)
    waited := by
      intro depth place waits
      have listed : program.toList[position]? = some ']' := by simpa using found
      cases depth with
      | zero =>
          simp only [List.getElem?_cons_zero, Option.some.injEq] at waits
          subst waits
          rw [rest.older start (Nat.lt_succ_of_lt startBefore) startFresh,
            partner?_pair_start startInside (Nat.ne_of_lt startBefore)]
          simp [drop_of_getElem? listed, closingFrom?]
      | succ depth =>
          have shallower := rest.waited depth place (by simpa using waits)
          simpa [drop_of_getElem? listed, closingFrom?] using shallower
    later := by
      intro place later bracket
      rcases Nat.eq_or_lt_of_le later with rfl | beyond
      · simp [found] at bracket
      · exact rest.later place beyond bracket }

/-- A closing bracket with nothing to close is passed over like commentary. -/
theorem of_skip
    {character : Char} (found : program[position]? = some character)
    (notOpen : character ≠ '[') (stray : character = ']' → opened = [])
    (rest : Completed program table (position + 1) opened final) :
    Completed program table position opened final where
  filled := rest.filled
  older := fun place before fresh => rest.older place (Nat.lt_succ_of_lt before) fresh
  waited := by
    intro depth place waits
    have notClose : character ≠ ']' := by
      intro isClose
      simp [stray isClose] at waits
    have listed : program.toList[position]? = some character := by simpa using found
    have same := rest.waited depth place waits
    simpa [drop_of_getElem? listed, closingFrom?, notOpen, notClose] using same
  later := by
    intro place later bracket
    rcases Nat.eq_or_lt_of_le later with rfl | beyond
    · rw [found, Option.some.injEq] at bracket
      exact absurd bracket notOpen
    · exact rest.later place beyond bracket

end Completed

theorem completed_fill
    (textEq : program.toList.drop position = text) (bound : position ≤ program.size)
    (filled : Filled program table position opened) :
    Completed program table position opened (fill position opened table text) := by
  induction text generalizing position opened table with
  | nil =>
      have atEnd : position = program.size := by
        have beyond := List.drop_eq_nil_iff.mp textEq
        rw [Array.length_toList] at beyond
        exact Nat.le_antisymm bound beyond
      subst atEnd
      exact .of_end filled
  | cons character rest ih =>
      have listed : program.toList[position]? = some character := by
        rw [← List.head?_drop, textEq]
        rfl
      have restEq : program.toList.drop (position + 1) = rest := by
        rw [drop_of_getElem? listed, List.cons.injEq] at textEq
        exact textEq.2
      have found : program[position]? = some character := by simpa using listed
      have inside : position < program.size := (Array.getElem?_eq_some_iff.mp found).1
      simp only [fill]
      by_cases isOpen : character = '['
      · subst isOpen
        rw [if_pos rfl]
        exact .of_enter found (ih restEq inside (filled.enter found))
      · rw [if_neg isOpen]
        by_cases isClose : character = ']'
        · rw [if_pos isClose]
          cases opened with
          | nil =>
              exact .of_skip found isOpen (fun _ => rfl) (ih restEq inside filled.skip)
          | cons start outer =>
              subst isClose
              exact .of_leave found filled (ih restEq inside (filled.leave inside))
        · rw [if_neg isClose]
          exact .of_skip found isOpen (fun same => absurd same isClose)
            (ih restEq inside filled.skip)

theorem completed_ofProgram (program : Program) :
    Completed program (Array.replicate program.size none) 0 [] (ofProgram program) :=
  completed_fill rfl (Nat.zero_le _) (.initial program)

/-- The table holds what the scan from an opening bracket finds. -/
theorem partner?_ofProgram_open (found : program[place]? = some '[') :
    (ofProgram program).partner? place = closing? program (place + 1) :=
  (completed_ofProgram program).later place (Nat.zero_le place) found

/-- The entry of a closing bracket is its partner in the text. -/
theorem partner?_ofProgram_close (found : program[stop]? = some ']') :
    (ofProgram program).partner? stop = some start ↔
      Partners program.toList start stop := by
  obtain ⟨left, filled⟩ := (completed_ofProgram program).filled
  constructor
  · intro entry
    obtain ⟨back, bracket⟩ := filled.paired stop start entry
    have startOpen : program[start]? = some '[' := by
      rcases bracket with stopOpen | startOpen
      · simp [found] at stopOpen
      · exact startOpen
    rw [partner?_ofProgram_open startOpen] at back
    exact (closing?_eq_some_iff startOpen).mp back
  · intro partners
    have startOpen : program[start]? = some '[' := by
      simpa using partners.getElem?_start
    have entry : (ofProgram program).partner? start = some stop := by
      rw [partner?_ofProgram_open startOpen]
      exact (closing?_eq_some_iff startOpen).mpr partners
    exact (filled.paired start stop entry).1

end Fill

end JumpTable

end Brainfuck
