import Brainfuck.CommandLine.Report

/-!
# The program

Connects the command line to real files and streams.  A run is driven one
instruction at a time, so that output and prompts appear when they are made and
input is taken only when an instruction asks for it.  What a report then still
has to say is what was not told on the way.
-/

namespace Brainfuck.CommandLine

/-- The number of an error of the system, which may be given as its negative. -/
def errorNumber (number : UInt32) : Nat := min number.toNat (-number).toNat

def errorText (path : Path) : IO.Error → String
  | .noFileOrDirectory _ number reason | .noSuchThing _ number reason
  | .permissionDenied _ number reason | .inappropriateType _ number reason
  | .invalidArgument _ number reason | .resourceExhausted _ number reason
  | .alreadyExists _ number reason => systemError (errorNumber number) reason path
  | error => toString error

def nameTooLongNumber : Nat := 36

def readingOfError (path : Path) : IO.Error → Reading
  | .noFileOrDirectory .. | .inappropriateType .. => .notFile
  | .invalidArgument _ number reason =>
    if errorNumber number = nameTooLongNumber then .tooLong
    else .cannotOpen (systemError (errorNumber number) reason path)
  | error => .cannotOpen (errorText path error)

def readFromDisk (path : Path) : IO Reading := do
  if path.hasNul then
    return .notFile
  try
    return .contents (← IO.FS.readBinFile path.toText).toList
  catch error =>
    return readingOfError path error

def packed (bytes : List UInt8) : ByteArray := ⟨bytes.toArray⟩

def loadFromDisk (path : Path) : IO (Logged Program) :=
  return loadReading path (← readFromDisk path)

/-- Writes a file, and tells where it is. -/
def writeToDisk (path : Path) (bytes : List UInt8) : IO (Except Failure Path) := do
  try
    IO.FS.writeBinFile path.toText (packed bytes)
    return .ok path
  catch error =>
    return .error (.cannotWrite path.toText (errorText path error))

def emit (invocation : Invocation) (event : Event) : IO Unit := do
  let output ← IO.getStdout
  match event with
  | .write byte => output.write (packed [byte])
  | .flush => output.flush
  | event => IO.eprint (invocation.eventText event)

/-- Takes the bytes of one read from standard input: one byte, and in line mode
its line. -/
partial def takeInput (mode : InputMode) : IO (List UInt8) := do
  let bytes := (← (← IO.getStdin).read 1).toList
  match mode, bytes with
  | .line, [byte] =>
    if byte = Streams.newline then return bytes else return byte :: (← takeInput mode)
  | _, _ => return bytes

def isBeforeRead : Event → Bool
  | .read _ => false
  | _ => true

def stateAfter : Step → State
  | .next state | .ended state | .failed _ state => state

def withoutHistory (state : State) : State :=
  { state with streams := { state.streams with history := [] } }

def readsNext (machine : Machine) (state : State) : Bool :=
  (machine.program[state.index]?).bind Command.ofChar? = some .read

/-- The events of a step that started without a history. -/
def eventsOf (step : Step) : List Event := (stateAfter step).streams.events

/-- A step that reads.  What comes before the read happens before any input is
taken. -/
def readLive (invocation : Invocation) (machine : Machine) (state : State) : IO Step := do
  ((eventsOf (machine.step state)).takeWhile isBeforeRead).forM (emit invocation)
  let bytes ← takeInput machine.options.inputMode
  let step := machine.step { state with streams := { state.streams with input := bytes } }
  ((eventsOf step).dropWhile isBeforeRead).forM (emit invocation)
  return step

/-- One step, with its events made to happen. -/
def stepLive (invocation : Invocation) (machine : Machine) (state : State) : IO Step := do
  let state := withoutHistory state
  if readsNext machine state then
    readLive invocation machine state
  else
    let step := machine.step state
    (eventsOf step).forM (emit invocation)
    return step

/-- More steps than any run takes. -/
def stepLimit : Nat := 4611686018427387904

/-- Runs a program on the standard streams.  What was noted before is told first. -/
def executeLive (invocation : Invocation) (options : Options) (program : Program)
    (streams : Streams) : IO Execution := do
  streams.events.forM (emit invocation)
  let machine := Machine.standard options program
  let start := withoutHistory (.initial standardSize streams)
  let some halt ← Machine.executeIn (stepLive invocation machine) stepLimit start
    | throw (.userError "too many steps")
  let finished := machine.finish ⟨halt.failure, withoutHistory halt.state⟩
  finished.state.streams.events.forM (emit invocation)
  return ⟨finished.outcome, (withoutHistory finished.state).streams⟩

/-- A time in nanoseconds as milliseconds with two decimals. -/
def milliseconds (nanoseconds : Nat) : String :=
  let hundredths := (nanoseconds + 5000) / 10000
  let decimals := (toString (hundredths % 100)).toList.leftpad 2 '0'
  s!"{hundredths / 100}.{String.ofList decimals}"

/-- Says what is left to say, and gives the status to end with. -/
def close (ending : Ending) (messages : String) : IO UInt32 := do
  IO.eprint messages
  match ending with
  | .refused status | .completed status => return status.toUInt32
  | .escaped failure => throw (.userError failure.message)

def runLive (invocation : Invocation) (path : Path) (options : Options) :
    IO (Timing × Execution) := do
  let begun ← IO.monoNanosNow
  let loaded ← loadFromDisk path
  let ready ← IO.monoNanosNow
  let execution ← runLoaded loaded (.bytes []) (executeLive invocation options)
  let done ← IO.monoNanosNow
  return (⟨milliseconds (ready - begun), milliseconds (done - ready)⟩, execution)

def printReport (report : Report) : IO UInt32 := do
  (← IO.getStdout).write (packed report.output)
  close report.ending report.messages

def performLive (invocation : Invocation) : IO UInt32 := do
  let minify (path : Path) := minifyIn loadFromDisk writeToDisk path none
  printReport (← invocation.performIn minify (runLive invocation))

end Brainfuck.CommandLine

open Brainfuck.CommandLine in
/-- Reads the arguments and does what they say. -/
def main (words : List String) : IO UInt32 := do
  match parse words with
  | .error refusal => printReport refusal.report
  | .ok invocation => performLive invocation
