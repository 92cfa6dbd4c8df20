import Brainfuck.Failure

/-!
# Contexts of any width

The context of an instruction can be asked for with a width of one's own.  A
negative width shows no characters and moves the caret to the left; how far it
is moved has to be a word.
-/

namespace Brainfuck

def contextOfWidth (program : Program) (position width : Int) : Except Failure String :=
  if program.isEmpty ∨ -wordBound ≤ caretIndent (clampPosition program position) width then
    .ok (contextAround program position width)
  else
    .error .indentOutOfRange

/-- There is a context of every width that is not negative. -/
theorem contextOfWidth_of_nonneg (program : Program) (position : Int) {width : Int}
    (nonneg : 0 ≤ width) :
    contextOfWidth program position width = .ok (contextAround program position width) := by
  have indent : -wordBound ≤ caretIndent (clampPosition program position) width := by
    simp only [wordBound, caretIndent, clampPosition]
    omega
  simp [contextOfWidth, indent]

end Brainfuck
