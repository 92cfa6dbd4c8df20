/-!
# The tape of a run

Cells of one byte each, wrapping around at 256, and a pointer to one of them.
The tape remembers the highest cell that its pointer has been at.
-/

namespace Brainfuck

/-- The tape of a run.  Its cells may be fewer than the run believes, so the
pointer can stand behind the last one. -/
structure Tape where
  cells : Array UInt8
  pointer : Nat
  /-- The greatest pointer so far. -/
  highest : Nat

namespace Tape

def blank (length : Nat) : Tape := ⟨Array.replicate length 0, 0, 0⟩

def current? (tape : Tape) : Option UInt8 := tape.cells[tape.pointer]?

def moveRight (tape : Tape) : Tape :=
  { tape with pointer := tape.pointer + 1, highest := max tape.highest (tape.pointer + 1) }

/-- Moves the pointer one cell to the left, or leaves it at the first cell. -/
def moveLeft (tape : Tape) : Tape :=
  { tape with pointer := tape.pointer - 1 }

/-- Changes the current cell; a pointer behind the last cell changes
nothing. -/
def put (tape : Tape) (value : UInt8) : Tape :=
  { tape with cells := tape.cells.setIfInBounds tape.pointer value }

@[simp]
theorem size_put (tape : Tape) (value : UInt8) :
    (tape.put value).cells.size = tape.cells.size := by
  simp [put]

@[simp]
theorem pointer_put (tape : Tape) (value : UInt8) :
    (tape.put value).pointer = tape.pointer := rfl

theorem current?_put {tape : Tape} (inside : tape.pointer < tape.cells.size)
    (value : UInt8) : (tape.put value).current? = some value := by
  simp [current?, put, inside]

theorem cells_put_of_ne {tape : Tape} {place : Nat} (elsewhere : place ≠ tape.pointer)
    (value : UInt8) : (tape.put value).cells[place]? = tape.cells[place]? := by
  simp [put, elsewhere.symm]

end Tape

end Brainfuck
