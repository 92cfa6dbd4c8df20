import Brainfuck.Source

/-!
# The context of an instruction

A report about an instruction shows the program around it and a caret under
it.  Only the characters within a fixed distance are shown, and three dots
stand for what is left out on a side.
-/

namespace Brainfuck

/-- How many characters are shown on each side of an instruction. -/
def contextWidth : Int := 16

/-- The part of a list between two positions; a negative end counts from the
end of the list. -/
def segment (items : List α) (start stop : Int) : List α :=
  let length : Int := items.length
  let bound (position : Int) : Nat := (if position < 0 then position + length else position).toNat
  (items.drop (bound start)).take (bound stop - bound start)

/-- The last valid position that is not past `position`, or the first one. -/
def clampPosition (program : Program) (position : Int) : Int :=
  min (max 0 position) (program.size - 1)

/-- The first line of a context: the characters within `width` of the
instruction at `index`. -/
def contextLine (program : Program) (index width : Int) : List Char :=
  let start := max 0 (index - width)
  let stop := min (program.size : Int) (index + width + 1)
  (if start > 0 then "..." else "   ").toList ++ segment program.toList start stop ++
    (if stop < program.size then "..." else "").toList

/-- How far a caret is moved to the right to stand under the instruction at
`index`; a caret that is moved to the left stands first. -/
def caretIndent (index width : Int) : Int := 3 + index - max 0 (index - width)

/-- The second line of a context: a caret in the column of the instruction. -/
def caretLine (index width : Int) : List Char :=
  List.replicate (caretIndent index width).toNat ' ' ++ ['^'] ++
    s!" (instruction {index})".toList

/-- The two lines that show where in a program an instruction stands. -/
def contextAround (program : Program) (position width : Int) : String :=
  if program.isEmpty then
    "  (empty program)"
  else
    let index := clampPosition program position
    String.ofList ([' ', ' '] ++ contextLine program index width ++
      ['\n', ' ', ' '] ++ caretLine index width)

def context (program : Program) (position : Int) : String :=
  contextAround program position contextWidth

end Brainfuck
