import Brainfuck.Machine.Reach

/-!
# The machine with a jump table

The partners of all brackets can be found in one pass over the program before
it runs.  A machine that has this table needs neither a scan nor a stack of
loops to know where to go on: it differs from `Machine.step` in what it does
at a bracket, and in nothing else.  What surrounds a run, `Machine.finish`, is
the same for both.
-/

namespace Brainfuck

/-- Where the partner of each bracket is, by the position of the bracket. -/
abbrev JumpTable := Array (Option Nat)

namespace JumpTable

def pair (table : JumpTable) (start stop : Nat) : JumpTable :=
  (table.setIfInBounds start (some stop)).setIfInBounds stop (some start)

/-- Goes over a text from `position` on, with the positions of the brackets
that are open, innermost first. -/
def fill (position : Nat) (opened : List Nat) (table : JumpTable) : List Char → JumpTable
  | [] => table
  | character :: rest =>
    if character = '[' then fill (position + 1) (position :: opened) table rest
    else if character = ']' then
      match opened with
      | [] => fill (position + 1) [] table rest
      | start :: outer => fill (position + 1) outer (table.pair start position) rest
    else fill (position + 1) opened table rest

def ofProgram (program : Program) : JumpTable :=
  fill 0 [] (Array.replicate program.size none) program.toList

def partner? (table : JumpTable) (position : Nat) : Option Nat :=
  (table[position]?).bind id

end JumpTable

namespace Machine

/-- Enters a loop, or goes behind its partner when the current cell is zero. -/
def enterByTable (machine : Machine) (table : JumpTable) (state : State) : Step :=
  match state.tape.current? with
  | none => .failed state.noCell state
  | some value =>
    if value = 0 then
      match table.partner? state.index with
      | some position => .next (state.goto (position + 1))
      | none => .failed (.badBracket "Unmatched '['" machine.program state.index) state
    else
      .next state.advance

/-- Goes back behind the partner of a bracket unless the current cell is
zero. -/
def repeatByTable (machine : Machine) (table : JumpTable) (state : State) : Step :=
  match table.partner? state.index with
  | none => .failed (.badBracket "Unmatched ']'" machine.program state.index) state
  | some start =>
    match state.tape.current? with
    | none => .failed state.noCell state
    | some value => if value = 0 then .next state.advance else .next (state.goto (start + 1))

/-- What the next character of the program does on the machine with a jump
table; the stack of loops is not used. -/
def stepByTable (machine : Machine) (table : JumpTable) (state : State) : Step :=
  match (machine.program[state.index]?).bind Command.ofChar? with
  | some .loopStart => machine.enterByTable table state
  | some .loopEnd => machine.repeatByTable table state
  | _ => machine.step state

/-- The state after `count` completed instructions on the machine with a jump
table, if the run gets that far. -/
def afterByTable (machine : Machine) : Nat → State → Option State :=
  afterBy (machine.stepByTable (.ofProgram machine.program))

def runByTable (machine : Machine) (fuel length : Nat) (streams : Streams) : Option Halt :=
  (executeBy (machine.stepByTable (.ofProgram machine.program)) fuel
    (.initial length streams)).map machine.finish

end Machine

end Brainfuck
