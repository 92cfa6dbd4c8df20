import Brainfuck.Proofs.Scan
import Brainfuck.Structured

/-!
# Blocks inside programs

A block can be read back from its text, so a text with matched brackets is the
text of exactly one block.  `HasAt` says that a text stands at a position of a
program, and a loop that stands there has its brackets as partners.
-/

namespace Brainfuck

/-- A text stands at a position of a program. -/
def HasAt (program : Program) (position : Nat) (text : List Char) : Prop :=
  text <+: program.toList.drop position

namespace HasAt

variable {program : Program} {position : Nat} {text : List Char}

theorem of_toList (program : Program) : HasAt program 0 program.toList :=
  List.prefix_refl _

theorem append {first second : List Char} (placed : HasAt program position (first ++ second)) :
    HasAt program position first ∧ HasAt program (position + first.length) second := by
  obtain ⟨behind, tailEq⟩ := placed
  constructor
  · exact ⟨second ++ behind, by simpa using tailEq⟩
  · refine ⟨behind, ?_⟩
    rw [← List.drop_drop, ← tailEq, List.append_assoc, List.drop_left]

theorem getElem?_eq {character : Char} (placed : HasAt program position (character :: text)) :
    program[position]? = some character := by
  obtain ⟨behind, tailEq⟩ := placed
  have first := congrArg (fun items => items[0]?) tailEq
  simpa using first.symm

theorem tail {character : Char} (placed : HasAt program position (character :: text)) :
    HasAt program (position + 1) text := by
  have split : HasAt program position ([character] ++ text) := placed
  exact split.append.2

/-- The brackets of a loop that stands in a program are partners there. -/
theorem partners
    {body rest : List Char} (placed : HasAt program position ('[' :: body ++ ']' :: rest))
    (balanced : Balanced body) :
    Partners program.toList position (position + 1 + body.length) := by
  have found := placed.getElem?_eq
  obtain ⟨behind, tailEq⟩ := placed
  refine ⟨program.toList.take position, body, rest ++ behind, ?_, balanced, ?_, rfl⟩
  · calc
      program.toList = program.toList.take position ++ program.toList.drop position :=
        (List.take_append_drop position _).symm
      _ = program.toList.take position ++ '[' :: body ++ ']' :: (rest ++ behind) := by
        rw [← tailEq]
        simp
  · exact length_take_of_getElem? (by simpa using found)

end HasAt

namespace Block

/-- A loop is told from a plain character by its first bracket, and its body
ends at the only bracket behind a balanced text. -/
theorem text_injective {block other : Block} (same : block.text = other.text) :
    block = other := by
  induction block generalizing other with
  | done =>
      cases other with
      | done => rfl
      | plain _ _ => cases same
      | loop _ _ => cases same
  | plain character rest ih =>
      cases other with
      | done => cases same
      | plain character' rest' =>
          simp only [text, List.cons.injEq] at same
          have characters : character = character' := by
            cases character
            cases character'
            simpa using same.1
          rw [characters, ih same.2]
      | loop _ _ =>
          simp only [text, List.cons_append, List.cons.injEq] at same
          exact absurd same.1 character.notOpen
  | loop body rest bodyIh restIh =>
      cases other with
      | done => cases same
      | plain character' _ =>
          simp only [text, List.cons_append, List.cons.injEq] at same
          exact absurd same.1.symm character'.notOpen
      | loop body' rest' =>
          simp only [text, List.cons_append, List.cons.injEq, true_and] at same
          have bodies := body.balanced_text.eq_of_append_close body'.balanced_text same
          rw [bodies] at same
          have rests : rest.text = rest'.text := by simpa using same
          rw [bodyIh bodies, restIh rests]

/-- A text with matched brackets is the text of exactly one block. -/
theorem existsUnique_text_eq {text : List Char} (balanced : Balanced text) :
    ∃! block : Block, block.text = text := by
  obtain ⟨block, textEq⟩ := exists_text_eq balanced
  exact ⟨block, textEq, fun other otherEq => text_injective (otherEq.trans textEq.symm)⟩

end Block

end Brainfuck
