import Brainfuck.CommandLine.Report
import Brainfuck.Proofs.Decimal
import Mathlib.Data.List.Forall2

/-!
# The lines of a dump

A dump cuts the cells into rows and shows each row on a line.  In a line, blanks fill up the
numbers and a blank stands between two of them, which is all the same to a reader of words:
it finds the cells of the row, each as it was written.  As the rows put together are the
cells, nothing of the tape is lost, repeated or run together.
-/

namespace Brainfuck.CommandLine

def wordsOf (line : List Char) : List (List Char) :=
  (line.splitOn ' ').filter (· ≠ [])

/-- The decimal numbers of a line, where a word that is none has no value. -/
def numbersIn (line : String) : List (Option Nat) :=
  (wordsOf line.toList).map Text.natural?

/-- A field of some columns has a number at its right end, and blanks in front of it. -/
def RightAligned (width : Nat) (field : List Char) (number : Option Nat) : Prop :=
  field.length = width ∧ ∃ value blanks, number = some value ∧
    field = List.replicate blanks ' ' ++ Nat.toDigits 10 value

/-- Lines of eight numbers, the last of which may be shorter, that show some cells. -/
structure ShowsCells (lines : List String) (cells : List UInt8) : Prop where
  full : ∀ line ∈ lines.dropLast, (numbersIn line).length = 8
  last : ∀ line, lines.getLast? = some line →
    1 ≤ (numbersIn line).length ∧ (numbersIn line).length ≤ 8
  numbers_eq : lines.flatMap numbersIn = cells.map fun cell => some cell.toNat
  aligned : ∀ line ∈ lines, ∃ fields, line.toList = [' '].intercalate fields ∧
    List.Forall₂ (RightAligned 3) fields (numbersIn line)
  oneLine : ∀ line ∈ lines, '\n' ∉ line.toList

/-- A list is cut into rows of a width, the last of which may be shorter. -/
inductive CutInto {α : Type} (width : Nat) : List α → List (List α) → Prop where
  | nil : CutInto width [] []
  | last {row : List α} : row ≠ [] → row.length ≤ width → CutInto width row [row]
  | row {row rest : List α} {rows : List (List α)} : row.length = width → rest ≠ [] →
      CutInto width rest rows → CutInto width (row ++ rest) (row :: rows)

section Words

private theorem wordsOf_append_blank (first second : List Char) :
    wordsOf (first ++ ' ' :: second) = wordsOf first ++ wordsOf second := by
  unfold wordsOf
  rw [List.splitOn_append_cons_self, List.filter_append]

theorem wordsOf_blanks_append (blanks : Nat) (word : List Char) :
    wordsOf (List.replicate blanks ' ' ++ word) = wordsOf word := by
  induction blanks with
  | zero => rfl
  | succ blanks ih =>
      rw [List.replicate_succ, List.cons_append, ← ih]
      exact wordsOf_append_blank [] _

private theorem wordsOf_of_not_mem {word : List Char} (nonempty : word ≠ []) (solid : ' ' ∉ word) :
    wordsOf word = [word] := by
  unfold wordsOf
  rw [List.splitOn_eq_singleton solid]
  simp [nonempty]

private theorem wordsOf_intercalate (fields : List (List Char)) :
    wordsOf ([' '].intercalate fields) = fields.flatMap wordsOf := by
  induction fields with
  | nil => rfl
  | cons field rest ih =>
      cases rest with
      | nil => simp
      | cons next others =>
          rw [List.intercalate_cons_cons, List.append_assoc, List.singleton_append,
            wordsOf_append_blank, ih]
          exact List.flatMap_cons.symm

end Words

section Rows

variable {α : Type} {width : Nat} {items : List α} {cut : List (List α)}

theorem rows_nil (width fuel : Nat) : rows width fuel ([] : List α) = [] := by
  cases fuel <;> rfl

theorem cutInto_rows (positive : 0 < width) {fuel : Nat} (enough : items.length ≤ fuel) :
    CutInto width items (rows width fuel items) := by
  induction fuel generalizing items with
  | zero =>
      rw [List.length_eq_zero_iff.mp (Nat.le_zero.mp enough)]
      exact .nil
  | succ fuel ih =>
      cases items with
      | nil => exact .nil
      | cons first others =>
          have step : rows width (fuel + 1) (first :: others) =
              (first :: others).take width :: rows width fuel ((first :: others).drop width) :=
            rfl
          have nonempty : first :: others ≠ [] := List.cons_ne_nil _ _
          rw [step]
          generalize first :: others = items at enough nonempty
          by_cases short : items.length ≤ width
          · rw [List.take_of_length_le short, List.drop_of_length_le short, rows_nil]
            exact .last nonempty short
          · have full : (items.take width).length = width :=
              List.length_take_of_le (by omega)
            have more : items.drop width ≠ [] := by
              rw [ne_eq, List.drop_eq_nil_iff]
              exact short
            have fewer : (items.drop width).length ≤ fuel := by
              rw [List.length_drop]
              omega
            have cuts := CutInto.row full more (ih fewer)
            rw [List.take_append_drop] at cuts
            exact cuts

namespace CutInto

theorem length_eq (positive : 0 < width) (cuts : CutInto width items cut) :
    cut.length = (items.length + width - 1) / width := by
  induction cuts with
  | nil =>
      symm
      apply Nat.div_eq_of_lt
      simp only [List.length_nil]
      omega
  | last nonempty short =>
      have several := List.length_pos_iff.mpr nonempty
      symm
      apply Nat.div_eq_of_lt_le
      · rw [List.length_singleton]
        omega
      · rw [List.length_singleton]
        omega
  | @row first rest rows full more _ ih =>
      have split : (first ++ rest).length + width - 1 = rest.length + width - 1 + width := by
        rw [List.length_append]
        omega
      rw [split, Nat.add_div_right _ positive, List.length_cons, ih]

theorem ne_nil (nonempty : items ≠ []) (cuts : CutInto width items cut) : cut ≠ [] := by
  cases cuts with
  | nil => exact absurd rfl nonempty
  | last _ _ => exact List.cons_ne_nil _ _
  | row _ _ _ => exact List.cons_ne_nil _ _

theorem length_of_mem_dropLast {row : List α} (cuts : CutInto width items cut)
    (member : row ∈ cut.dropLast) : row.length = width := by
  induction cuts with
  | nil => cases member
  | last _ _ => cases member
  | row full more cuts ih =>
      rw [List.dropLast_cons_of_ne_nil (cuts.ne_nil more)] at member
      rcases List.mem_cons.mp member with rfl | later
      · exact full
      · exact ih later

theorem bounds_of_getLast? {row : List α} (cuts : CutInto width items cut)
    (last : cut.getLast? = some row) : 1 ≤ row.length ∧ row.length ≤ width := by
  induction cuts with
  | nil => cases last
  | last nonempty short =>
      cases last
      exact ⟨List.length_pos_iff.mpr nonempty, short⟩
  | row full more cuts ih =>
      apply ih
      rw [List.getLast?_cons_of_ne_nil (cuts.ne_nil more)] at last
      exact last

end CutInto

end Rows

section Fields

private theorem length_toDigits_byte (value : UInt8) :
    (Nat.toDigits 10 value.toNat).length ≤ 3 := by
  have small : value.toNat < 256 := value.toNat_lt
  exact (Nat.length_toDigits_le_iff (by decide) (by decide)).mpr (by omega)

private theorem toList_dumpCell (value : UInt8) :
    (dumpCell value).toList =
      List.replicate (3 - (Nat.toDigits 10 value.toNat).length) ' ' ++
        Nat.toDigits 10 value.toNat := by
  have natural : toString value.toNat = value.toNat.repr := rfl
  rw [dumpCell, String.toList_ofList, natural, Nat.toList_repr]
  rfl

private theorem rightAligned_dumpCell (value : UInt8) :
    RightAligned 3 (dumpCell value).toList (some value.toNat) := by
  have short := length_toDigits_byte value
  refine ⟨?_, value.toNat, _, rfl, toList_dumpCell value⟩
  rw [toList_dumpCell, List.length_append, List.length_replicate]
  omega

private theorem wordsOf_dumpCell (value : UInt8) :
    wordsOf (dumpCell value).toList = [Nat.toDigits 10 value.toNat] := by
  rw [toList_dumpCell, wordsOf_blanks_append]
  exact wordsOf_of_not_mem Nat.toDigits_ne_nil (not_mem_toDigits rfl _)

private theorem not_mem_dumpCell (value : UInt8) : '\n' ∉ (dumpCell value).toList := by
  rw [toList_dumpCell]
  simp [List.mem_replicate, not_mem_toDigits]

end Fields

section Lines

private theorem not_mem_intercalate {character : Char} {fields : List (List Char)}
    (notBlank : character ≠ ' ') (missing : ∀ field ∈ fields, character ∉ field) :
    character ∉ [' '].intercalate fields := by
  induction fields with
  | nil => simp
  | cons field rest ih =>
      obtain ⟨first, others⟩ := List.forall_mem_cons.mp missing
      cases rest with
      | nil => simpa using first
      | cons next further =>
          rw [List.intercalate_cons_cons]
          simp [first, notBlank, ih others]

private theorem toList_line (row : List UInt8) :
    (" ".intercalate (row.map dumpCell)).toList =
      [' '].intercalate (row.map fun value => (dumpCell value).toList) := by
  rw [String.toList_intercalate, List.map_map]
  rfl

private theorem numbersIn_line (row : List UInt8) :
    numbersIn (" ".intercalate (row.map dumpCell)) = row.map fun value => some value.toNat := by
  have read : ∀ value : UInt8,
      Text.natural? (Nat.toDigits 10 value.toNat) = some value.toNat := by
    intro value
    apply Text.natural?_toDigits
    exact Nat.le_trans (length_toDigits_byte value) (by decide)
  have words : wordsOf (" ".intercalate (row.map dumpCell)).toList =
      row.map fun value => Nat.toDigits 10 value.toNat := by
    rw [toList_line, wordsOf_intercalate, List.flatMap_map, List.map_eq_flatMap]
    simp only [wordsOf_dumpCell]
  rw [numbersIn, words, List.map_map]
  exact List.map_congr_left fun value _ => read value

private theorem aligned_line (row : List UInt8) :
    List.Forall₂ (RightAligned 3) (row.map fun value => (dumpCell value).toList)
      (numbersIn (" ".intercalate (row.map dumpCell))) := by
  rw [numbersIn_line, List.forall₂_map_left_iff, List.forall₂_map_right_iff,
    List.forall₂_same]
  intro value _
  exact rightAligned_dumpCell value

theorem cutInto_cells (cells : List UInt8) :
    CutInto 8 cells (rows cellsPerLine cells.length cells) :=
  cutInto_rows (by decide) (Nat.le_refl _)

theorem length_dumpLines (cells : List UInt8) :
    (dumpLines cells).length = (cells.length + 7) / 8 := by
  rw [dumpLines, List.length_map]
  exact (cutInto_cells cells).length_eq (by decide)

theorem dumpLines_shows (cells : List UInt8) : ShowsCells (dumpLines cells) cells := by
  unfold dumpLines
  refine ⟨?_, ?_, ?_, ?_, ?_⟩
  · intro line member
    rw [← List.map_dropLast] at member
    obtain ⟨row, isRow, rfl⟩ := List.mem_map.mp member
    rw [numbersIn_line, List.length_map]
    exact (cutInto_cells cells).length_of_mem_dropLast isRow
  · intro line last
    rw [List.getLast?_map, Option.map_eq_some_iff] at last
    obtain ⟨row, lastRow, rfl⟩ := last
    rw [numbersIn_line, List.length_map]
    exact (cutInto_cells cells).bounds_of_getLast? lastRow
  · have together : (rows cellsPerLine cells.length cells).flatten = cells :=
      flatten_rows (by decide) _ _ (Nat.le_refl _)
    rw [List.flatMap_map]
    simp only [numbersIn_line]
    rw [List.flatMap_def, ← List.map_flatten, together]
  · intro line member
    obtain ⟨row, _, rfl⟩ := List.mem_map.mp member
    exact ⟨_, toList_line row, aligned_line row⟩
  · intro line member
    obtain ⟨row, _, rfl⟩ := List.mem_map.mp member
    rw [toList_line]
    apply not_mem_intercalate (by decide)
    intro field isField
    obtain ⟨value, _, rfl⟩ := List.mem_map.mp isField
    exact not_mem_dumpCell value

end Lines

end Brainfuck.CommandLine
