import Brainfuck.Source
import Brainfuck.Failure

/-!
# Matching brackets

A loop is skipped by scanning forward for the bracket that closes it.  The
scan counts the loops that it enters on the way and reads nothing else.
-/

namespace Brainfuck

/-- The position of the first closing bracket that closes more loops than were
opened since `position`, among the next `remaining` characters; `depth` loops
are open already. -/
def closingWithin? (program : Program) : Nat → Nat → Nat → Option Nat
  | 0, _, _ => none
  | remaining + 1, position, depth =>
    match program[position]? with
    | none => none
    | some '[' => closingWithin? program remaining (position + 1) (depth + 1)
    | some ']' =>
      match depth with
      | 0 => some position
      | depth + 1 => closingWithin? program remaining (position + 1) depth
    | some _ => closingWithin? program remaining (position + 1) depth

/-- The position of the bracket that closes a loop whose body starts at
`position`. -/
def closing? (program : Program) (position : Nat) : Option Nat :=
  closingWithin? program (program.size - position) position 0

/-- The position of the bracket that closes the loop opened at `start`.  The
character at `start` is not looked at.  A negative position counts from the end
of the program, and a scan that starts there runs on into the program's
beginning; a position further left than that is out of range. -/
def matchingBracket (program : Program) (start : Int) : Except Failure Int :=
  let unmatched : Failure := .badBracket "Unmatched '['" program start
  let first := start + 1
  if first < -program.size then
    .error (.positionOutOfRange first)
  else if first < 0 then
    let tail := program.extract (program.size + first).toNat program.size
    match closing? (tail ++ program) 0 with
    | some offset => .ok (first + offset)
    | none => .error unmatched
  else
    match closing? program first.toNat with
    | some position => .ok position
    | none => .error unmatched

end Brainfuck
