import Brainfuck.Machine

/-!
# Registers between runs

Between two runs the state of a machine lies open: it can be looked at and
set.  What is set need not make sense, so these registers hold integers of any
sign, and the stated size of the tape may differ from the number of its cells.
A negative index counts from the end of the tape.
-/

namespace Brainfuck

/-- How many cells a tape has unless something else is asked for. -/
def standardSize : Nat := 30000

/-- The state of a machine that is not running. -/
structure Registers where
  /-- How many cells the tape is said to have. -/
  size : Int
  memory : Array UInt8
  pointer : Int
  /-- Where the open loops were entered, outermost first. -/
  loopStack : List Int
  steps : Int
  maxPointer : Int

namespace Registers

inductive Field where
  | size
  | pointer
  | steps
  | maxPointer

/-- How many cells are too many for memory unless another number is named: the 35th power of
two. -/
def memoryBound : Int := 34359738368

/-- How many cells a new tape gets when `size` cells are asked for and memory has room for
fewer than `bound`. -/
def cellCount (size : Int) (bound : Int := memoryBound) : Except Failure Nat :=
  if ¬ IsWord size then .error .sizeOutOfRange
  else if size < 0 then .error .negativeSize
  else if size < bound then .ok size.toNat
  else .error (.outOfMemory size.toNat)

def blank (size : Int) (length : Nat) : Registers :=
  ⟨size, Array.replicate length 0, 0, [], 0, 0⟩

def fresh (size : Int) (bound : Int := memoryBound) : Except Failure Registers :=
  (cellCount size bound).map (blank size)

/-- A tape can be had of any size that is a word and for which there is memory. -/
theorem fresh_of_lt {size bound : Int} (isWord : IsWord size) (nonneg : 0 ≤ size)
    (small : size < bound) : fresh size bound = .ok (blank size size.toNat) := by
  have notNegative : ¬ size < 0 := Int.not_lt.mpr nonneg
  simp [fresh, cellCount, isWord, notNegative, small, Except.map]

def ofState (size : Int) (state : State) : Registers where
  size := size
  memory := state.tape.cells
  pointer := state.tape.pointer
  loopStack := state.loops.reverse.map Int.ofNat
  steps := state.steps
  maxPointer := state.tape.highest

/-- The place of a cell, if there is one with this index. -/
def place? (length : Nat) (index : Int) : Option Nat :=
  let place := if index < 0 then index + length else index
  if 0 ≤ place ∧ place < length then some place.toNat else none

def cell (registers : Registers) (index : Int) : Except Failure UInt8 :=
  match (place? registers.memory.size index).bind fun place => registers.memory[place]? with
  | some value => .ok value
  | none => .error (.missingCell index registers.memory.size)

def current (registers : Registers) : Except Failure UInt8 :=
  registers.cell registers.pointer

/-- Some cells from `start` on.  No cell behind the stated size is shown, and a
negative bound counts from the end of the tape. -/
def cells (registers : Registers) (count start : Int) : List UInt8 :=
  segment registers.memory.toList start (min registers.size (start + max 0 count))

def setCell (registers : Registers) (index : Int) (value : UInt8) : Except Failure Registers :=
  match place? registers.memory.size index with
  | some place => .ok { registers with memory := registers.memory.setIfInBounds place value }
  | none => .error (.missingCell index registers.memory.size)

/-- Sets one register.  The number of cells does not follow the size. -/
def assign (registers : Registers) (field : Field) (value : Int) : Registers :=
  match field with
  | .size => { registers with size := value }
  | .pointer => { registers with pointer := value }
  | .steps => { registers with steps := value }
  | .maxPointer => { registers with maxPointer := value }

def push (registers : Registers) (position : Int) : Registers :=
  { registers with loopStack := registers.loopStack ++ [position] }

/-- Clears everything but the size. -/
def reset (registers : Registers) : Registers :=
  blank registers.size registers.memory.size

/-- Whether two sets of registers agree on everything but their cells. -/
def agrees (first second : Registers) : Bool :=
  first.size == second.size && first.pointer == second.pointer &&
    first.loopStack == second.loopStack && first.steps == second.steps &&
    first.maxPointer == second.maxPointer

/-- Whether the registers, cells apart, are those of a new machine.  No cells
are made to find out. -/
def agreesWithFresh (registers : Registers) (size : Int) (bound : Int := memoryBound) :
    Except Failure Bool :=
  (cellCount size bound).map fun _ => registers.agrees (blank size 0)

def describe (registers : Registers) : String :=
  let stack := ", ".intercalate (registers.loopStack.map toString)
  s!"TapeState(size={registers.size}, pointer={registers.pointer}, loop_stack=[{stack}], " ++
    s!"steps={registers.steps}, max_pointer={registers.maxPointer})"

end Registers

end Brainfuck
