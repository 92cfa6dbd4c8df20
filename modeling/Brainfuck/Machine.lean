import Brainfuck.Bracket
import Brainfuck.Options
import Brainfuck.Stream
import Brainfuck.Tape

/-!
# The machine

A machine walks over its program one character at a time.  `Machine.step`
is what one character does: it is the only place where the meaning of the
commands is laid down.  `Machine.execute` repeats it as often as its fuel
allows, and `Machine.run` adds what happens around a whole run.

A failing instruction leaves everything but the streams as it was.
-/

namespace Brainfuck

/-- What stays the same during a run. -/
structure Machine where
  program : Program
  /-- How many cells the tape is said to have. -/
  size : Int
  options : Options
  schedule : FaultSchedule

/-- What changes during a run. -/
structure State where
  index : Nat
  /-- The positions at which the loops being run were entered, innermost
  first. -/
  loops : List Nat
  steps : Nat
  tape : Tape
  streams : Streams

inductive Step where
  | next (state : State)
  | ended (state : State)
  | failed (failure : Failure) (state : State)

/-- What an instruction does to the tape and the streams, control apart.  They
are handed back in every case, so that nothing has to be kept of them. -/
inductive Effect where
  | done (tape : Tape) (streams : Streams)
  /-- It would move the pointer off the tape. -/
  | strayed (tape : Tape) (streams : Streams)
  | failed (failure : Failure) (tape : Tape) (streams : Streams)

/-- The failure of an instruction that needs a cell where there is none. -/
def Tape.noCell (tape : Tape) : Failure := .noSuchCell tape.pointer tape.cells.size

namespace State

def initial (length : Nat) (streams : Streams) : State :=
  ⟨0, [], 0, .blank length, streams⟩

/-- The state after an instruction, with the next one at `index`. -/
def goto (state : State) (index : Nat) : State :=
  { state with index := index, steps := state.steps + 1 }

def advance (state : State) : State := state.goto (state.index + 1)

def noCell (state : State) : Failure := state.tape.noCell

end State

namespace Machine

def offTape (machine : Machine) (state : State) : Failure :=
  .offTape machine.program state.index state.tape.pointer machine.size

def moveRight (machine : Machine) (tape : Tape) (streams : Streams) : Effect :=
  if machine.size - 1 ≤ tape.pointer then .strayed tape streams
  else .done tape.moveRight streams

def moveLeft (tape : Tape) (streams : Streams) : Effect :=
  if tape.pointer = 0 then .strayed tape streams else .done tape.moveLeft streams

def modify (change : UInt8 → UInt8) (tape : Tape) (streams : Streams) : Effect :=
  match tape.current? with
  | none => .failed tape.noCell tape streams
  | some value => .done (tape.put (change value)) streams

def write (machine : Machine) (tape : Tape) (streams : Streams) : Effect :=
  match tape.current? with
  | none => .failed tape.noCell tape streams
  | some value =>
    match streams.write machine.schedule value with
    | (.ok (), streams) => .done tape streams
    | (.error (.device reason), streams) => .failed (.cannotEmit reason) tape streams
    | (.error (.other reason), streams) => .failed (.interrupted reason) tape streams

/-- Takes one byte of input, and in line mode the rest of its line with it. -/
def fetch (machine : Machine) (streams : Streams) :
    Except StreamFault (Option UInt8) × Streams :=
  match streams.read machine.schedule with
  | (.ok (some byte), streams) =>
    if machine.options.inputMode = .line ∧ byte ≠ Streams.newline then
      match streams.readLine machine.schedule with
      | (.ok (), streams) => (.ok (some byte), streams)
      | (.error fault, streams) => (.error fault, streams)
    else
      (.ok (some byte), streams)
  | answer => answer

/-- What a read stores: the byte that was read or, at the end of the input,
what the policy asks for. -/
def stored? (machine : Machine) : Option UInt8 → Option UInt8
  | some byte => some byte
  | none =>
    match machine.options.eof with
    | .zero => some 0
    | .unchanged => none
    | .max => some 255

def store (value : Option UInt8) (tape : Tape) (streams : Streams) : Effect :=
  match value with
  | none => .done tape streams
  | some value => modify (fun _ => value) tape streams

/-- Asks for input, makes earlier output visible, reads, and stores what came.
When the device reports an error the cell stays as it is. -/
def read (machine : Machine) (tape : Tape) (streams : Streams) : Effect :=
  match (streams.ask machine.options.prompt).flush machine.schedule with
  | (.error reason, streams) => .failed (.interrupted reason) tape streams
  | (.ok (), streams) =>
    match machine.fetch streams with
    | (.ok byte, streams) => store (machine.stored? byte) tape streams
    | (.error (.device reason), streams) =>
      .done tape (streams.log (.readFailed tape.pointer reason))
    | (.error (.other reason), streams) => .failed (.interrupted reason) tape streams

/-- What a character does to the tape and the streams, by the command that it
stands for.  Brackets and commentary leave them as they are. -/
def effect (machine : Machine) : Option Command → Tape → Streams → Effect
  | some .right => machine.moveRight
  | some .left => moveLeft
  | some .increment => modify (· + 1)
  | some .decrement => modify (· - 1)
  | some .write => machine.write
  | some .read => machine.read
  | _ => .done

/-- Goes on behind an instruction at `index` that had an effect. -/
def resume (machine : Machine) (index : Nat) (loops : List Nat) (steps : Nat) : Effect → Step
  | .done tape streams => .next (State.advance ⟨index, loops, steps, tape, streams⟩)
  | .strayed tape streams =>
    let state := ⟨index, loops, steps, tape, streams⟩
    .failed (machine.offTape state) state
  | .failed failure tape streams => .failed failure ⟨index, loops, steps, tape, streams⟩

/-- Enters a loop, or goes behind it when the current cell is zero. -/
def enterLoop (machine : Machine) (state : State) : Step :=
  match state.tape.current? with
  | none => .failed state.noCell state
  | some value =>
    if value = 0 then
      match closing? machine.program (state.index + 1) with
      | some position => .next (state.goto (position + 1))
      | none => .failed (.badBracket "Unmatched '['" machine.program state.index) state
    else
      .next { state with loops := state.index :: state.loops }.advance

/-- Goes back to the start of the loop's body, or leaves the loop when the
current cell is zero. -/
def repeatLoop (machine : Machine) (state : State) : Step :=
  match state.loops with
  | [] => .failed (.badBracket "Unmatched ']'" machine.program state.index) state
  | start :: outer =>
    match state.tape.current? with
    | none => .failed state.noCell state
    | some value =>
      if value = 0 then .next { state with loops := outer }.advance
      else .next (state.goto (start + 1))

/-- What the next character of the program does.  Brackets decide where the run
goes on, and commentary, which does nothing, still counts as an instruction. -/
def step (machine : Machine) (state : State) : Step :=
  match machine.program[state.index]? with
  | none => .ended state
  | some character =>
    match Command.ofChar? character with
    | some .loopStart => machine.enterLoop state
    | some .loopEnd => machine.repeatLoop state
    | command =>
      let ⟨index, loops, steps, tape, streams⟩ := state
      machine.resume index loops steps (machine.effect command tape streams)

/-- The state at which a run stopped, and why unless its program ended. -/
structure Halt where
  failure : Option Failure
  state : State

/-- Repeats a step until the program ends or an instruction fails, unless the
fuel is used up before that.  The step may have effects of its own. -/
@[specialize]
def executeIn {m : Type → Type} [Monad m] (step : State → m Step) :
    Nat → State → m (Option Halt)
  | 0, _ => pure none
  | fuel + 1, state => do
    match ← step state with
    | .next state => executeIn step fuel state
    | .ended state => pure (some ⟨none, state⟩)
    | .failed failure state => pure (some ⟨some failure, state⟩)

def executeBy (step : State → Step) : Nat → State → Option Halt :=
  executeIn (m := Id) step

def execute (machine : Machine) : Nat → State → Option Halt :=
  executeBy machine.step

def report (state : State) : State :=
  let warned := match state.loops with
    | [] => state.streams
    | loops => state.streams.log (.openLoops loops.length)
  { state with streams := warned.log (.finished state.steps state.tape.pointer) }

/-- Flushes the output after the last step, whatever the outcome.  A flush that
fails replaces an earlier failure. -/
def finish (machine : Machine) (halt : Halt) : Halt :=
  match halt.state.streams.flush machine.schedule with
  | (.error reason, streams) =>
    ⟨some (.interrupted reason), { halt.state with streams := streams }⟩
  | (.ok (), streams) =>
    match halt.failure with
    | some failure => ⟨some failure, { halt.state with streams := streams }⟩
    | none => ⟨none, report { halt.state with streams := streams }⟩

def run (machine : Machine) (fuel length : Nat) (streams : Streams) : Option Halt :=
  (machine.execute fuel (.initial length streams)).map machine.finish

theorem executeBy_succ (step : State → Step) (fuel : Nat) (state : State) :
    executeBy step (fuel + 1) state =
      match step state with
      | .next state => executeBy step fuel state
      | .ended state => some ⟨none, state⟩
      | .failed failure state => some ⟨some failure, state⟩ := by
  change executeIn (m := Id) step (fuel + 1) state = _
  rw [executeIn]
  cases step state <;> rfl

@[simp]
theorem execute_zero (machine : Machine) (state : State) :
    machine.execute 0 state = none := rfl

theorem execute_succ (machine : Machine) (fuel : Nat) (state : State) :
    machine.execute (fuel + 1) state =
      match machine.step state with
      | .next state => machine.execute fuel state
      | .ended state => some ⟨none, state⟩
      | .failed failure state => some ⟨some failure, state⟩ :=
  executeBy_succ machine.step fuel state

/-- More fuel does not change an outcome. -/
theorem execute_add {machine : Machine} {fuel : Nat} {state : State} {halt : Halt}
    (halts : machine.execute fuel state = some halt) (extra : Nat) :
    machine.execute (fuel + extra) state = some halt := by
  induction fuel generalizing state with
  | zero => cases halts
  | succ fuel ih =>
    rw [Nat.succ_add]
    simp only [execute_succ] at halts ⊢
    split <;> simp_all

end Machine

end Brainfuck
