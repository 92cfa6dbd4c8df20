import Brainfuck.Registers

/-!
# Sessions

A session is one machine that is used again and again: it runs programs, gets
more input, and has its options and registers changed in between.  Every run
starts from a blank tape and reads on where the input was left.
-/

namespace Brainfuck

structure Session where
  registers : Registers
  options : Options
  schedule : FaultSchedule
  streams : Streams

inductive Edit where
  | set (index : Int) (value : UInt8)
  | assign (field : Registers.Field) (value : Int)
  | push (position : Int)
  | reset

inductive Action where
  | edit (edit : Edit)
  | feed (bytes : List UInt8)
  | configure (options : Options)
  | run (program : Program)

def Registers.apply (registers : Registers) : Edit → Except Failure Registers
  | .set index value => registers.setCell index value
  | .assign field value => .ok (registers.assign field value)
  | .push position => .ok (registers.push position)
  | .reset => .ok registers.reset

namespace Session

/-- A session with a new tape, as far as there is memory for it. -/
def start (size : Int) (options : Options) (schedule : FaultSchedule) (input : List UInt8)
    (bound : Int := Registers.memoryBound) : Except Failure Session :=
  (Registers.fresh size bound).map fun registers =>
    ⟨registers, options, schedule, .ofInput input⟩

def machine (session : Session) (program : Program) : Machine :=
  ⟨program, session.registers.size, session.options, session.schedule⟩

def run (session : Session) (fuel : Nat) (program : Program) :
    Option (Option Failure × Session) :=
  let length := session.registers.memory.size
  ((session.machine program).run fuel length session.streams).map fun halt =>
    (halt.failure, { session with
      registers := .ofState session.registers.size halt.state
      streams := halt.state.streams })

def feed (session : Session) (bytes : List UInt8) : Session :=
  { session with streams := { session.streams with input := session.streams.input ++ bytes } }

/-- Starts a new history; calls go on being counted. -/
def forget (session : Session) : Session :=
  { session with streams := { session.streams with history := [] } }

/-- What an action does; an action that fails leaves what it has done so
far. -/
def act (session : Session) (fuel : Nat) : Action → Option (Option Failure × Session)
  | .edit edit =>
    match session.registers.apply edit with
    | .ok registers => some (none, { session with registers := registers })
    | .error failure => some (some failure, session)
  | .feed bytes => some (none, session.feed bytes)
  | .configure options => some (none, { session with options := options })
  | .run program => session.run fuel program

end Session

end Brainfuck
