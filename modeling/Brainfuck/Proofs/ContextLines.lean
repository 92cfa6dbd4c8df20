import Brainfuck.Context.Width
import Brainfuck.Proofs.Decimal
import Brainfuck.Proofs.Segment

/-!
# The lines of a context

A context shows a window of the program: the characters within a distance of the
instruction, which may be cut off by either end of the program.  The line above starts with
five characters, whatever is left out in front of the window, so that a caret that is moved
by the same number and by the place in the window stands under the instruction.
-/

namespace Brainfuck

/-- The part of a text within a distance of a place, and what is left out on either side. -/
structure Window (text : List Char) (index width : Nat) (left shown right : List Char) :
    Prop where
  text_eq : left ++ shown ++ right = text
  shown_iff : ∀ position, position < text.length →
    (left.length ≤ position ∧ position < left.length + shown.length ↔
      ((position : Int) - index).natAbs ≤ width)

def windowLine (left shown right : List Char) : List Char :=
  (if left = [] then "     " else "  ...").toList ++ shown ++
    (if right = [] then "" else "...").toList

/-- The caret of the second line, the only one, stands under the character of an
instruction in the first line, and the second line names the instruction. -/
structure PointsAt (program : Program) (index : Nat) (first second : List Char) : Prop where
  single : second.count '^' = 1
  above : first[second.idxOf '^']? = program[index]?
  named : second = List.replicate (second.idxOf '^') ' ' ++
    s!"^ (instruction {index})".toList

variable {program : Program} {text left shown right : List Char} {index width : Nat}

section Window

private theorem window_around
    {start stop : Int} (inside : index < text.length)
    (startEq : start = max 0 ((index : Int) - width))
    (stopEq : stop = min (text.length : Int) (index + width + 1)) :
    Window text index width (text.take start.toNat) (segment text start stop)
      (text.drop stop.toNat) := by
  constructor
  · exact take_append_segment_append_drop text (by omega) (by omega)
  · intro position isPlace
    rw [length_segment text (by omega) (by omega), List.length_take]
    omega

theorem Window.bounds (window : Window text index width left shown right)
    (inside : index < text.length) :
    left.length ≤ index ∧ index < left.length + shown.length := by
  apply (window.shown_iff index inside).mpr
  omega

private theorem Window.getElem?_shown (window : Window text index width left shown right)
    (inside : index < text.length) : shown[index - left.length]? = text[index]? := by
  obtain ⟨notLeft, notRight⟩ := window.bounds inside
  have within : index - left.length < shown.length := by omega
  rw [← window.text_eq, List.append_assoc, List.getElem?_append_right notLeft,
    List.getElem?_append_left within]

private theorem Window.length_shown_le (window : Window text index width left shown right)
    (inside : index < text.length) : shown.length ≤ 2 * width + 1 := by
  obtain ⟨notLeft, notRight⟩ := window.bounds inside
  have length : left.length + shown.length + right.length = text.length := by
    rw [← window.text_eq, List.length_append, List.length_append]
  have first := (window.shown_iff left.length (by omega)).mp (by omega)
  have last := (window.shown_iff (left.length + shown.length - 1) (by omega)).mp (by omega)
  omega

end Window

section Lines

private theorem lead_eq {omits : Prop} [Decidable omits] (nothing : left = [] ↔ ¬ omits) :
    [' ', ' '] ++ (if omits then "..." else "   ").toList =
      (if left = [] then "     " else "  ...").toList := by
  by_cases dots : omits
  · rw [if_pos dots, if_neg fun isNil => nothing.mp isNil dots]
    rfl
  · rw [if_neg dots, if_pos (nothing.mpr dots)]
    rfl

private theorem tail_eq {omits : Prop} [Decidable omits] (nothing : right = [] ↔ ¬ omits) :
    (if omits then "..." else "").toList = (if right = [] then "" else "...").toList := by
  simp only [nothing, ite_not]

/-- The first line is the line of a window, and the caret is moved to the right by as much as
the instruction stands behind the beginning of the window. -/
theorem contextLine_eq_windowLine (inside : index < program.size) (width : Nat) :
    ∃ left shown right, Window program.toList index width left shown right ∧
      [' ', ' '] ++ contextLine program index width = windowLine left shown right ∧
      (caretIndent index width).toNat = 3 + (index - left.length) := by
  have listed : index < program.toList.length := by simpa using inside
  refine ⟨_, _, _, window_around listed rfl rfl, ?_, ?_⟩
  · have leftOut : program.toList.take (max 0 ((index : Int) - width)).toNat = [] ↔
        ¬ max 0 ((index : Int) - width) > 0 := by
      rw [List.take_eq_nil_iff, ← List.length_eq_zero_iff]
      omega
    have rightOut : program.toList.drop
          (min (program.toList.length : Int) (index + width + 1)).toNat = [] ↔
        ¬ min (program.size : Int) (index + width + 1) < program.size := by
      rw [List.drop_eq_nil_iff, Array.length_toList]
      omega
    unfold contextLine windowLine
    rw [← lead_eq leftOut, ← tail_eq rightOut]
    simp only [List.append_assoc, Array.length_toList]
  · rw [caretIndent, List.length_take]
    omega

private theorem length_lead (left : List Char) :
    (if left = [] then "     " else "  ...").toList.length = 5 := by
  split <;> rfl

/-- In the line of a window, an instruction stands five columns behind its place in the
window. -/
theorem getElem?_windowLine (window : Window text index width left shown right)
    (inside : index < text.length) :
    (windowLine left shown right)[5 + (index - left.length)]? = text[index]? := by
  obtain ⟨notLeft, notRight⟩ := window.bounds inside
  have within : index - left.length < shown.length := by omega
  unfold windowLine
  rw [List.append_assoc, List.getElem?_append_right (by rw [length_lead]; omega), length_lead,
    Nat.add_sub_cancel_left, List.getElem?_append_left within]
  exact window.getElem?_shown inside

private theorem not_mem_windowLine (window : Window text index width left shown right)
    (oneLine : '\n' ∉ text) : '\n' ∉ windowLine left shown right := by
  have notShown : '\n' ∉ shown := by
    intro member
    apply oneLine
    rw [← window.text_eq]
    simp [member]
  unfold windowLine
  simp only [List.mem_append, notShown, or_false]
  split <;> split <;> decide

private theorem toList_caret (index : Nat) :
    s!"^ (instruction {index})".toList =
      '^' :: (" (instruction ".toList ++ Nat.toDigits 10 index ++ [')']) := by
  have same : ∀ text : String, toString text = text := fun _ => rfl
  have natural : toString index = index.repr := rfl
  simp only [String.toList_append, same, natural, Nat.toList_repr]
  rfl

private theorem append_caretLine (index : Nat) (width : Int) :
    [' ', ' '] ++ caretLine index width =
      List.replicate (2 + (caretIndent index width).toNat) ' ' ++
        s!"^ (instruction {index})".toList := by
  have same : ∀ text : String, toString text = text := fun _ => rfl
  have note : s!" (instruction {(index : Int)})".toList =
      " (instruction ".toList ++ Nat.toDigits 10 index ++ [')'] := by
    simp only [String.toList_append, same, toList_toString]
    rfl
  rw [caretLine, note, toList_caret, List.replicate_add, List.append_assoc, List.append_assoc]
  rfl

private theorem not_mem_caretLine (column index : Nat) :
    '\n' ∉ List.replicate column ' ' ++ s!"^ (instruction {index})".toList := by
  rw [toList_caret]
  simp [List.mem_replicate, not_mem_toDigits]

private theorem pointsAt_of_above {first : List Char} {column : Nat}
    (above : first[column]? = program[index]?) :
    PointsAt program index first
      (List.replicate column ' ' ++ s!"^ (instruction {index})".toList) := by
  have notBefore : '^' ∉ List.replicate column ' ' := by simp [List.mem_replicate]
  have notBehind : '^' ∉ " (instruction ".toList ++ Nat.toDigits 10 index ++ [')'] := by
    simp [not_mem_toDigits]
  have place : (List.replicate column ' ' ++ s!"^ (instruction {index})".toList).idxOf '^' =
      column := by
    rw [toList_caret, List.idxOf_append_of_notMem notBefore, List.idxOf_cons_self,
      List.length_replicate, Nat.add_zero]
  refine ⟨?_, ?_, ?_⟩
  · rw [toList_caret, List.count_append, List.count_cons_self, List.count_eq_zero.mpr notBefore,
      List.count_eq_zero.mpr notBehind]
  · rw [place]
    exact above
  · rw [place]

end Lines

/-- Around a program of one line, the context of any position has two lines.  The first shows
what is within the distance of the instruction, the one at the position or at the end of the
program next to it, with three dots for what is left out on a side.  In the second line, the
caret stands under the instruction. -/
theorem context_points_at_instruction
    (nonempty : program ≠ #[]) (oneLine : '\n' ∉ program.toList) (position : Int) (width : Nat) :
    ∃ (context : String) (first second left shown right : List Char) (index : Nat),
      contextOfWidth program position width = .ok context ∧
      context.toList.splitOn '\n' = [first, second] ∧
      (index : Int) = max 0 (min position (program.size - 1)) ∧ index < program.size ∧
      PointsAt program index first second ∧
      first = windowLine left shown right ∧
      Window program.toList index width left shown right ∧ shown.length ≤ 2 * width + 1 := by
  have several : 0 < program.size := Array.size_pos_iff.mpr nonempty
  obtain ⟨index, indexEq⟩ : ∃ index : Nat, (index : Int) = clampPosition program position := by
    refine ⟨(clampPosition program position).toNat, ?_⟩
    rw [clampPosition]
    omega
  have inside : index < program.size := by
    rw [clampPosition] at indexEq
    omega
  have listed : index < program.toList.length := by simpa using inside
  obtain ⟨left, shown, right, window, firstEq, indent⟩ := contextLine_eq_windowLine inside width
  let column := 2 + (caretIndent index width).toNat
  let second := List.replicate column ' ' ++ s!"^ (instruction {index})".toList
  have column_eq : column = 5 + (index - left.length) := by omega
  have above : (windowLine left shown right)[column]? = program[index]? := by
    rw [column_eq, getElem?_windowLine window listed, Array.getElem?_toList]
  have lines : contextAround program position width =
      String.ofList (['\n'].intercalate [windowLine left shown right, second]) := by
    have notEmpty : program.isEmpty = false := by simpa using nonempty
    have secondEq : [' ', ' '] ++ caretLine index width = second := append_caretLine index width
    rw [contextAround, notEmpty, ← firstEq, ← secondEq, indexEq]
    simp
  refine ⟨_, windowLine left shown right, second, left, shown, right, index,
    contextOfWidth_of_nonneg program position (Int.natCast_nonneg width), ?_, ?_, inside,
    pointsAt_of_above above, rfl, window, window.length_shown_le listed⟩
  · rw [lines, String.toList_ofList]
    apply List.splitOn_intercalate
    · simp only [List.forall_mem_cons]
      exact ⟨not_mem_windowLine window oneLine, not_mem_caretLine _ _, by simp⟩
    · exact List.cons_ne_nil _ _
  · rw [indexEq, clampPosition]
    omega

/-- A position past the end stands for the last instruction; what is within two places of it
ends where the program ends. -/
theorem context_points_at_instruction_past_end :
    let program : Program := #['+', '[', '-', '>', '.', '<', ']']
    ∃ context first second, contextOfWidth program 9 2 = .ok context ∧
      context.toList.splitOn '\n' = [first, second] ∧
      first[second.idxOf '^']? = some ']' ∧ PointsAt program 6 first second := by
  intro program
  have nonempty : program ≠ #[] := by decide
  have oneLine : '\n' ∉ program.toList := by decide
  obtain ⟨context, first, second, left, shown, right, index, made, lines, clamped, -, points,
    -⟩ := context_points_at_instruction nonempty oneLine 9 2
  have size : program.size = 7 := rfl
  have last : index = 6 := by omega
  rw [last] at points
  exact ⟨context, first, second, made, lines, points.above, points⟩

end Brainfuck
