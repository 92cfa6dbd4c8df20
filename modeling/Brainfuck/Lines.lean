import Brainfuck.Stream

/-!
# Lines of input

A line ends with a newline, and what is left behind the last newline is a line
too unless it is empty.  In line mode a run sees nothing of a line but its
first byte.
-/

namespace Brainfuck

/-- The first bytes of the lines of some input; `atStart` says whether the
input begins with a line or in the middle of one. -/
def lineStarts (atStart : Bool) : List UInt8 → List UInt8
  | [] => []
  | byte :: rest =>
    let later := lineStarts (byte == Streams.newline) rest
    if atStart then byte :: later else later

def firstBytes (input : List UInt8) : List UInt8 := lineStarts true input

theorem splitLine_cons_newline (rest : List UInt8) :
    Streams.splitLine (Streams.newline :: rest) = ([Streams.newline], rest) := by
  simp [Streams.splitLine]

theorem splitLine_cons_of_ne {byte : UInt8} (different : byte ≠ Streams.newline)
    (rest : List UInt8) :
    Streams.splitLine (byte :: rest) =
      (byte :: (Streams.splitLine rest).1, (Streams.splitLine rest).2) := by
  have keep : (byte != Streams.newline) = true := by simp [different]
  simp only [Streams.splitLine, List.takeWhile_cons, List.dropWhile_cons, keep, if_true]
  cases List.dropWhile (fun other => other != Streams.newline) rest <;> rfl

/-- Taking the rest of a line leads to the first bytes of the lines behind it. -/
theorem lineStarts_false (bytes : List UInt8) :
    lineStarts false bytes = firstBytes (Streams.splitLine bytes).2 := by
  induction bytes with
  | nil => rfl
  | cons byte rest ih =>
    by_cases isNewline : byte = Streams.newline
    · subst isNewline
      simp [lineStarts, firstBytes, splitLine_cons_newline]
    · have notNewline : (byte == Streams.newline) = false := by simp [isNewline]
      simp [lineStarts, notNewline, ih, splitLine_cons_of_ne isNewline]

end Brainfuck
