import Brainfuck.Nesting
import Mathlib.Data.List.Induction

/-!
# What a text leaves open

`LeavesOpen` describes a text that closes no more loops than it opens: a
balanced beginning, and behind each bracket that stays open a balanced text
again.  That is what `openFrom?` computes the stack of, and from the description
the stack is shown to hold exactly the brackets without a partner, in the order
of the text.
-/

namespace Brainfuck

/-- No beginning of a text closes more loops than it opens. -/
def NeverOverclosed (text : List Char) : Prop :=
  ∀ count, (text.take count).count ']' ≤ (text.take count).count '['

/-- No bracket of a text closes the one at `position`. -/
def Unclosed (text : List Char) (position : Nat) : Prop :=
  text[position]? = some '[' ∧ ∀ stop, ¬ Partners text position stop

/-- The brackets that a text leaves open, in the order of the text. -/
structure ListsUnclosed (text : List Char) (positions : List Nat) : Prop where
  ascending : positions.Pairwise (· < ·)
  mem_iff : ∀ position, position ∈ positions ↔ Unclosed text position

/-- A text that leaves loops open, innermost first. -/
inductive LeavesOpen : List Char → List Nat → Prop where
  | balanced {text : List Char} : Balanced text → LeavesOpen text []
  | loop {before body : List Char} {outer : List Nat} :
      LeavesOpen before outer → Balanced body →
      LeavesOpen (before ++ '[' :: body) (before.length :: outer)

section Split

variable {text : List Char} {position : Nat} {character : Char}

theorem length_take_of_getElem? (found : text[position]? = some character) :
    (text.take position).length = position :=
  List.length_take_of_le (Nat.le_of_lt (List.getElem?_eq_some_iff.mp found).1)

theorem drop_of_getElem? (found : text[position]? = some character) :
    text.drop position = character :: text.drop (position + 1) := by
  rw [List.drop_eq_getElem?_toList_append, found]
  rfl

theorem split_of_getElem? (found : text[position]? = some character) :
    text = text.take position ++ character :: text.drop (position + 1) := by
  rw [← drop_of_getElem? found, List.take_append_drop]

end Split

section Balanced

theorem Balanced.singleton
    {character : Char} (notOpen : character ≠ '[') (notClose : character ≠ ']') :
    Balanced [character] :=
  .plain notOpen notClose .nil

theorem Balanced.wrap {body : List Char} (balanced : Balanced body) :
    Balanced ('[' :: body ++ [']']) :=
  .loop balanced .nil

theorem Balanced.count_eq {text : List Char} (balanced : Balanced text) :
    text.count ']' = text.count '[' := by
  induction balanced with
  | nil => rfl
  | plain notOpen notClose _ ih =>
      simpa [List.count_cons, notOpen, notClose] using ih
  | loop _ _ bodyIh restIh =>
      simp only [List.cons_append, List.count_cons, List.count_append, bodyIh, restIh]
      simp
      omega

/-- A bracket behind a balanced text closes a loop that the text did not
open. -/
theorem Balanced.not_balanced_append_close
    {body : List Char} (balanced : Balanced body) (behind : List Char) :
    ¬ Balanced (body ++ ']' :: behind) := by
  intro whole
  have computed := openFrom?_of_balanced whole 0 []
  rw [openFrom?_append, openFrom?_of_balanced balanced] at computed
  simp [openFrom?] at computed

private theorem Balanced.nil_of_append_close
    {body more behind behind' : List Char} (shorter : Balanced body)
    (longer : Balanced (body ++ more))
    (rest : ']' :: behind = more ++ ']' :: behind') : more = [] := by
  cases more with
  | nil => rfl
  | cons first more =>
      simp only [List.cons_append, List.cons.injEq] at rest
      rw [← rest.1] at longer
      exact absurd longer (shorter.not_balanced_append_close more)

/-- A text has at most one balanced beginning with a closing bracket behind
it. -/
theorem Balanced.eq_of_append_close
    {body body' behind behind' : List Char} (balanced : Balanced body)
    (balanced' : Balanced body')
    (texts : body ++ ']' :: behind = body' ++ ']' :: behind') : body = body' := by
  rcases List.append_eq_append_iff.mp texts with
    ⟨more, bodyEq, restEq⟩ | ⟨more, bodyEq, restEq⟩
  · rw [bodyEq] at balanced'
    rw [bodyEq, balanced.nil_of_append_close balanced' restEq, List.append_nil]
  · rw [bodyEq] at balanced
    rw [bodyEq, balanced'.nil_of_append_close balanced restEq, List.append_nil]

end Balanced

section Partners

variable {text : List Char} {start stop : Nat}

theorem Partners.prepend (partners : Partners text start stop) (before : List Char) :
    Partners (before ++ text) (before.length + start) (before.length + stop) := by
  obtain ⟨front, body, behind, textEq, balanced, startEq, stopEq⟩ := partners
  refine ⟨before ++ front, body, behind, ?_, balanced, ?_, ?_⟩
  · simp [textEq]
  · simp [startEq]
  · omega

theorem Partners.append (partners : Partners text start stop) (behind : List Char) :
    Partners (text ++ behind) start stop := by
  obtain ⟨front, body, back, textEq, balanced, startEq, stopEq⟩ := partners
  exact ⟨front, body, back ++ behind, by simp [textEq], balanced, startEq, stopEq⟩

theorem Partners.getElem?_start (partners : Partners text start stop) :
    text[start]? = some '[' := by
  obtain ⟨before, body, behind, textEq, _, startEq, _⟩ := partners
  simp [textEq, ← startEq]

theorem Partners.getElem?_stop (partners : Partners text start stop) :
    text[stop]? = some ']' := by
  obtain ⟨before, body, behind, textEq, _, startEq, stopEq⟩ := partners
  have split : text = (before ++ '[' :: body) ++ ']' :: behind := by simp [textEq]
  have length : (before ++ '[' :: body).length = stop := by
    simp only [List.length_append, List.length_cons]
    omega
  rw [split, ← length]
  simp

/-- Every opening bracket of a balanced text has its partner there. -/
theorem Balanced.exists_partners
    (balanced : Balanced text) (found : text[start]? = some '[') :
    ∃ stop, Partners text start stop := by
  induction balanced generalizing start with
  | nil => simp at found
  | @plain character rest notOpen _ _ ih =>
      cases start with
      | zero => simp [notOpen] at found
      | succ start =>
          obtain ⟨stop, partners⟩ := ih (by simpa using found)
          have shifted := partners.prepend [character]
          exact ⟨1 + stop, by simpa [Nat.add_comm] using shifted⟩
  | @loop body rest bodyBalanced _ bodyIh restIh =>
      cases start with
      | zero =>
          exact ⟨1 + body.length, [], body, rest, by simp, bodyBalanced, rfl, by omega⟩
      | succ start =>
          by_cases inBody : start < body.length
          · have bodyFound : body[start]? = some '[' := by
              simpa [List.getElem?_append_left inBody] using found
            obtain ⟨stop, partners⟩ := bodyIh bodyFound
            have shifted := (partners.append (']' :: rest)).prepend ['[']
            exact ⟨1 + stop, by simpa [Nat.add_comm] using shifted⟩
          · have beyond : body.length ≤ start := Nat.le_of_not_lt inBody
            obtain ⟨offset, rfl⟩ := Nat.exists_eq_add_of_le beyond
            cases offset with
            | zero => simp at found
            | succ offset =>
                have restFound : rest[offset]? = some '[' := by
                  simpa [List.getElem?_append_right] using found
                obtain ⟨stop, partners⟩ := restIh restFound
                have shifted := partners.prepend ('[' :: body ++ [']'])
                refine ⟨('[' :: body ++ [']']).length + stop, ?_⟩
                have place : ('[' :: body ++ [']']).length + offset =
                    body.length + (offset + 1) + 1 := by
                  simp only [List.cons_append, List.length_cons, List.length_append,
                    List.length_nil]
                  omega
                rw [place] at shifted
                simpa using shifted

end Partners

section OpenFrom

variable {position : Nat} {opened loops : List Nat} {text : List Char}

/-- What is open at the end was open before or was opened by the text. -/
theorem mem_of_openFrom?
    (computed : openFrom? position opened text = some loops) :
    ∀ bracket ∈ loops, bracket ∈ opened ∨ position ≤ bracket := by
  induction text generalizing position opened with
  | nil =>
      cases computed
      exact fun _ member => .inl member
  | cons character rest ih =>
      intro bracket member
      simp only [openFrom?] at computed
      split at computed
      · rcases ih computed bracket member with before | later
        · rcases List.mem_cons.mp before with here | before
          · exact .inr (by omega)
          · exact .inl before
        · exact .inr (by omega)
      · split at computed
        · cases opened with
          | nil => cases computed
          | cons innermost outer =>
              rcases ih computed bracket member with before | later
              · exact .inl (List.mem_cons_of_mem _ before)
              · exact .inr (by omega)
        · rcases ih computed bracket member with before | later
          · exact .inl before
          · exact .inr (by omega)

theorem LeavesOpen.append_balanced
    (leaves : LeavesOpen text loops) {more : List Char} (balanced : Balanced more) :
    LeavesOpen (text ++ more) loops := by
  cases leaves with
  | balanced front => exact .balanced (front.append balanced)
  | loop front body =>
      rw [List.append_assoc, List.cons_append]
      exact .loop front (body.append balanced)

theorem LeavesOpen.openFrom?_eq (leaves : LeavesOpen text loops) :
    openFrom? 0 [] text = some loops := by
  induction leaves with
  | balanced balanced => exact openFrom?_of_balanced balanced 0 []
  | loop _ balanced ih =>
      rw [openFrom?_append, ih]
      simp [openFrom?, openFrom?_of_balanced balanced]

/-- The text is taken apart from its end: a closing bracket there ends the loop
that was opened last. -/
theorem leavesOpen_of_openFrom?
    (computed : openFrom? 0 [] text = some loops) : LeavesOpen text loops := by
  induction text using List.reverseRecOn generalizing loops with
  | nil =>
      cases computed
      exact .balanced .nil
  | append_singleton front character ih =>
      rw [openFrom?_append] at computed
      obtain ⟨inner, innerComputed, last⟩ := Option.bind_eq_some_iff.mp computed
      have innerLeaves := ih innerComputed
      simp only [openFrom?, Nat.zero_add] at last
      split at last
      · next isOpen =>
          subst isOpen
          cases last
          exact .loop innerLeaves .nil
      · next notOpen =>
          split at last
          · next isClose =>
              subst isClose
              cases innerLeaves with
              | balanced _ => cases last
              | loop front' body =>
                  cases last
                  have closed := front'.append_balanced body.wrap
                  simpa using closed
          · next notClose =>
              cases last
              exact innerLeaves.append_balanced (.singleton notOpen notClose)

theorem balanced_iff_openFrom? : Balanced text ↔ openFrom? 0 [] text = some [] := by
  constructor
  · intro balanced
    exact openFrom?_of_balanced balanced 0 []
  · intro computed
    cases leavesOpen_of_openFrom? computed with
    | balanced balanced => exact balanced

end OpenFrom

namespace LeavesOpen

variable {text : List Char} {loops : List Nat}

theorem length_add_count (leaves : LeavesOpen text loops) :
    loops.length + text.count ']' = text.count '[' := by
  induction leaves with
  | balanced balanced => simpa using balanced.count_eq
  | loop _ balanced ih =>
      have bodyCount := balanced.count_eq
      simp
      omega

/-- Every beginning of the text leaves loops open as well. -/
theorem neverOverclosed (leaves : LeavesOpen text loops) : NeverOverclosed text := by
  intro count
  have computed := leaves.openFrom?_eq
  rw [← List.take_append_drop count text, openFrom?_append] at computed
  obtain ⟨inner, innerComputed, _⟩ := Option.bind_eq_some_iff.mp computed
  have counts := (leavesOpen_of_openFrom? innerComputed).length_add_count
  omega

theorem lt_length (leaves : LeavesOpen text loops) :
    ∀ position ∈ loops, position < text.length := by
  induction leaves with
  | balanced _ => simp
  | loop _ _ ih =>
      intro position member
      simp only [List.length_append, List.length_cons]
      rcases List.mem_cons.mp member with here | before
      · omega
      · have bound := ih position before
        omega

theorem descending (leaves : LeavesOpen text loops) : loops.Pairwise (· > ·) := by
  induction leaves with
  | balanced _ => exact .nil
  | loop before _ ih => exact .cons before.lt_length ih

theorem getElem?_of_mem (leaves : LeavesOpen text loops) :
    ∀ position ∈ loops, text[position]? = some '[' := by
  induction leaves with
  | balanced _ => simp
  | @loop before body outer front _ ih =>
      intro position member
      rcases List.mem_cons.mp member with here | earlier
      · simp [here]
      · rw [List.getElem?_append_left (front.lt_length position earlier)]
        exact ih position earlier

/-- Behind a bracket and its partner, only brackets before the one or behind
the other are open. -/
theorem not_mem_of_partners
    (leaves : LeavesOpen text loops) {start stop : Nat}
    (partners : Partners text start stop) : start ∉ loops := by
  obtain ⟨before, body, behind, textEq, balanced, startEq, stopEq⟩ := partners
  have split : text = before ++ (('[' :: body ++ [']']) ++ behind) := by
    simp [textEq]
  have computed := leaves.openFrom?_eq
  rw [split, openFrom?_append] at computed
  obtain ⟨outer, outerComputed, rest⟩ := Option.bind_eq_some_iff.mp computed
  rw [openFrom?_append, openFrom?_of_balanced balanced.wrap, Option.bind_some] at rest
  intro member
  rcases mem_of_openFrom? rest start member with earlier | later
  · have bound := (leavesOpen_of_openFrom? outerComputed).lt_length start earlier
    omega
  · simp at later
    omega

theorem mem_of_unclosed (leaves : LeavesOpen text loops) {position : Nat}
    (unclosed : Unclosed text position) : position ∈ loops := by
  induction leaves with
  | balanced balanced =>
      obtain ⟨stop, partners⟩ := balanced.exists_partners unclosed.1
      exact absurd partners (unclosed.2 stop)
  | @loop before body outer _ balanced ih =>
      rcases Nat.lt_trichotomy position before.length with inFront | here | behind
      · have frontUnclosed : Unclosed before position := by
          refine ⟨?_, ?_⟩
          · simpa [List.getElem?_append_left inFront] using unclosed.1
          · intro stop partners
            exact unclosed.2 stop (partners.append _)
        exact List.mem_cons_of_mem _ (ih frontUnclosed)
      · exact List.mem_cons.mpr (.inl here)
      · obtain ⟨offset, rfl⟩ := Nat.exists_eq_add_of_lt behind
        have bodyFound : body[offset]? = some '[' := by
          have found := unclosed.1
          rw [List.getElem?_append_right (by omega)] at found
          have place : before.length + offset + 1 - before.length = offset + 1 := by omega
          simpa [place] using found
        obtain ⟨stop, partners⟩ := balanced.exists_partners bodyFound
        have shifted := partners.prepend (before ++ ['['])
        have place : (before ++ ['[']).length + offset = before.length + offset + 1 := by
          simp only [List.length_append, List.length_cons, List.length_nil]
          omega
        rw [place, List.append_assoc] at shifted
        exact absurd shifted (unclosed.2 _)

/-- The stack, read from its bottom, holds exactly the brackets without a
partner. -/
theorem listsUnclosed (leaves : LeavesOpen text loops) :
    ListsUnclosed text loops.reverse := by
  refine ⟨List.pairwise_reverse.mpr leaves.descending, ?_⟩
  intro position
  rw [List.mem_reverse]
  constructor
  · intro member
    exact ⟨leaves.getElem?_of_mem position member,
      fun _ partners => leaves.not_mem_of_partners partners member⟩
  · exact leaves.mem_of_unclosed

/-- The bracket behind the text closes the innermost loop. -/
theorem partners_of_close
    {start : Nat} {outer : List Nat} (leaves : LeavesOpen text (start :: outer))
    (behind : List Char) : Partners (text ++ ']' :: behind) start text.length := by
  cases leaves with
  | @loop before body _ front balanced =>
      refine ⟨before, body, behind, ?_, balanced, rfl, ?_⟩
      · simp
      · simp only [List.length_append, List.length_cons]
        omega

end LeavesOpen

end Brainfuck
