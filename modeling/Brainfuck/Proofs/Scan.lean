import Brainfuck.Bracket
import Brainfuck.Proofs.Nesting

/-!
# The forward scan finds the partner

`closingFrom?` is the scan of `closing?` as a recursion over the text behind
the position.  A scan at depth 0 passes over balanced texts and stops at the
first bracket behind one, so it finds the partner of the bracket in front of it,
whatever else the text holds.
-/

namespace Brainfuck

/-- The position of the first bracket of a text that closes more loops than
were opened, when the text starts at `position` inside `depth` loops. -/
def closingFrom? (position depth : Nat) : List Char → Option Nat
  | [] => none
  | character :: rest =>
    if character = '[' then closingFrom? (position + 1) (depth + 1) rest
    else if character = ']' then
      match depth with
      | 0 => some position
      | depth + 1 => closingFrom? (position + 1) depth rest
    else closingFrom? (position + 1) depth rest

theorem closingWithin?_eq
    (program : Program) (remaining position depth : Nat)
    (enough : program.size - position = remaining) :
    closingWithin? program remaining position depth =
      closingFrom? position depth (program.toList.drop position) := by
  induction remaining generalizing position depth with
  | zero =>
      have beyond : program.toList.length ≤ position := by
        rw [Array.length_toList]
        omega
      rw [List.drop_eq_nil_of_le beyond]
      rfl
  | succ remaining ih =>
      have inside : position < program.size := by omega
      have next := fun depth => ih (position + 1) depth (by omega)
      have found : program[position]? = some program[position] :=
        Array.getElem?_eq_getElem inside
      have listed : program.toList[position]? = some program[position] := by
        rw [Array.getElem?_toList, found]
      rw [drop_of_getElem? listed]
      simp only [closingWithin?, found, closingFrom?]
      by_cases isOpen : program[position] = '['
      · simp only [isOpen, if_true]
        exact next (depth + 1)
      · by_cases isClose : program[position] = ']'
        · simp only [isClose, if_true, if_false, Char.reduceEq]
          cases depth with
          | zero => rfl
          | succ depth => exact next depth
        · simp only [isOpen, isClose, if_false]
          exact next depth

theorem closing?_eq (program : Program) (position : Nat) :
    closing? program position = closingFrom? position 0 (program.toList.drop position) :=
  closingWithin?_eq program _ position 0 rfl

theorem closingFrom?_balanced_append
    {body : List Char} (balanced : Balanced body) (position depth : Nat)
    (behind : List Char) :
    closingFrom? position depth (body ++ behind) =
      closingFrom? (position + body.length) depth behind := by
  induction balanced generalizing position depth behind with
  | nil => rfl
  | plain notOpen notClose _ ih =>
      simp only [List.cons_append, closingFrom?, notOpen, notClose, if_false, ih,
        List.length_cons]
      congr 1
      omega
  | @loop body rest _ _ bodyIh restIh =>
      have split : ('[' :: body ++ ']' :: rest) ++ behind =
          '[' :: (body ++ (']' :: (rest ++ behind))) := by simp
      rw [split]
      simp only [closingFrom?, bodyIh, restIh, if_true, if_false, Char.reduceEq,
        List.cons_append, List.length_cons, List.length_append]
      congr 1
      omega

/-- A scan that succeeds stops behind a text that closes exactly the loops that
were open. -/
theorem openFrom?_of_closingFrom?
    {position depth stop : Nat} {text : List Char}
    (found : closingFrom? position depth text = some stop) :
    ∃ body behind, text = body ++ ']' :: behind ∧ position + body.length = stop ∧
      ∀ base opened, opened.length = depth → openFrom? base opened body = some [] := by
  induction text generalizing position depth with
  | nil => cases found
  | cons character rest ih =>
      simp only [closingFrom?] at found
      split at found
      · next isOpen =>
          obtain ⟨body, behind, restEq, stopEq, closes⟩ := ih found
          refine ⟨character :: body, behind, by simp [restEq], ?_, ?_⟩
          · simp only [List.length_cons]
            omega
          · intro base opened length
            simp only [openFrom?, if_pos isOpen]
            exact closes _ _ (by simp [length])
      · next notOpen =>
          split at found
          · next isClose =>
              cases depth with
              | zero =>
                  cases found
                  refine ⟨[], rest, by simp [isClose], rfl, ?_⟩
                  intro base opened length
                  rw [List.length_eq_zero_iff.mp length]
                  rfl
              | succ depth =>
                  obtain ⟨body, behind, restEq, stopEq, closes⟩ := ih found
                  refine ⟨character :: body, behind, by simp [restEq], ?_, ?_⟩
                  · simp only [List.length_cons]
                    omega
                  · intro base opened length
                    cases opened with
                    | nil => cases length
                    | cons innermost outer =>
                        simp only [openFrom?, if_neg notOpen, if_pos isClose]
                        exact closes _ _ (by simpa using length)
          · next notClose =>
              obtain ⟨body, behind, restEq, stopEq, closes⟩ := ih found
              refine ⟨character :: body, behind, by simp [restEq], ?_, ?_⟩
              · simp only [List.length_cons]
                omega
              · intro base opened length
                simp only [openFrom?, if_neg notOpen, if_neg notClose]
                exact closes _ _ length

theorem closingFrom?_eq_some_iff {position stop : Nat} {text : List Char} :
    closingFrom? position 0 text = some stop ↔
      ∃ body behind, text = body ++ ']' :: behind ∧ Balanced body ∧
        position + body.length = stop := by
  constructor
  · intro found
    obtain ⟨body, behind, textEq, stopEq, closes⟩ := openFrom?_of_closingFrom? found
    exact ⟨body, behind, textEq, balanced_iff_openFrom?.mpr (closes 0 [] rfl), stopEq⟩
  · rintro ⟨body, behind, rfl, balanced, rfl⟩
    rw [closingFrom?_balanced_append balanced]
    simp [closingFrom?]

/-- The scan from an opening bracket finds its partner, and nothing else. -/
theorem closing?_eq_some_iff
    {program : Program} {start stop : Nat} (found : program[start]? = some '[') :
    closing? program (start + 1) = some stop ↔ Partners program.toList start stop := by
  have listed : program.toList[start]? = some '[' := by simpa using found
  rw [closing?_eq, closingFrom?_eq_some_iff]
  constructor
  · rintro ⟨body, behind, tailEq, balanced, stopEq⟩
    refine ⟨program.toList.take start, body, behind, ?_, balanced,
      length_take_of_getElem? listed, stopEq⟩
    calc
      program.toList =
          program.toList.take start ++ '[' :: program.toList.drop (start + 1) :=
        split_of_getElem? listed
      _ = program.toList.take start ++ '[' :: body ++ ']' :: behind := by
        rw [tailEq]
        simp
  · rintro ⟨before, body, behind, textEq, balanced, rfl, stopEq⟩
    refine ⟨body, behind, ?_, balanced, stopEq⟩
    have split : program.toList = (before ++ ['[']) ++ (body ++ ']' :: behind) := by
      simp [textEq]
    have length : (before ++ ['[']).length = before.length + 1 := by simp
    rw [split, ← length, List.drop_left]

end Brainfuck
