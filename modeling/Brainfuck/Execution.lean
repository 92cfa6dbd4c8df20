import Brainfuck.Registers

/-!
# Running a program once

The plain way to run a program: a new machine of standard size, an input, and
the outcome.  The output is part of the answer unless it went to a stream of the
caller's.
-/

namespace Brainfuck

/-- What is left of the machine when a run has come to its end. -/
structure Remains where
  pointer : Nat
  steps : Nat
  maxPointer : Nat
  memory : Array UInt8

structure Result extends Remains where
  output : List UInt8

inductive Sink where
  | collected
  /-- To a stream of the caller's. -/
  | given
deriving DecidableEq

/-- What a caller is told of a run that came to its end. -/
structure Answer extends Remains where
  output : Option (List UInt8)

def Result.answer (result : Result) : Sink → Answer
  | .collected => { result.toRemains with output := some result.output }
  | .given => { result.toRemains with output := none }

inductive Input where
  | absent
  | bytes (data : List UInt8)
  | text (characters : String)

/-- The bytes of an input; every character of a text has to be one byte. -/
def Input.toBytes : Input → Except Failure (List UInt8)
  | .absent => .ok []
  | .bytes data => .ok data
  | .text characters =>
    match Text.latin1Bytes characters.toList with
    | .ok data => .ok data
    | .error found => .error (.notBytes found)

/-- A new machine of standard size on which no call fails. -/
def Machine.standard (options : Options) (program : Program) : Machine :=
  ⟨program, standardSize, options, .none⟩

/-- A run that came to its end: its outcome, and the streams with what happened
on them. -/
structure Execution where
  outcome : Except Failure Result
  streams : Streams

namespace Execution

def answer (execution : Execution) (sink : Sink) : Except Failure Answer :=
  execution.outcome.map fun result => result.answer sink

/-- What a stream of the caller's got, whatever the outcome. -/
def delivered (execution : Execution) : Sink → List UInt8
  | .collected => []
  | .given => execution.streams.output

end Execution

def Machine.Halt.outcome (halt : Machine.Halt) : Except Failure Result :=
  match halt.failure with
  | some failure => .error failure
  | none => .ok {
      output := halt.state.streams.output
      pointer := halt.state.tape.pointer
      steps := halt.state.steps
      maxPointer := halt.state.tape.highest
      memory := halt.state.tape.cells }

/-- Runs a program on a new machine, unless the fuel does not last. -/
def runProgram (options : Options) (program : Program) (streams : Streams) (fuel : Nat) :
    Option Execution :=
  ((Machine.standard options program).run fuel standardSize streams).map fun halt =>
    ⟨halt.outcome, halt.state.streams⟩

def runWithInput (options : Options) (program : Program) (input : Input) (fuel : Nat) :
    Option Execution :=
  match input.toBytes with
  | .error failure => some ⟨.error failure, .ofInput []⟩
  | .ok bytes => runProgram options program (.ofInput bytes) fuel

def runSource (options : Options) (source : Source) (input : Input) (fuel : Nat) :
    Option Execution :=
  runWithInput options source.program input fuel

end Brainfuck
