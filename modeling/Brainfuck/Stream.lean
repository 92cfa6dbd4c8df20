import Brainfuck.Log

/-!
# Streams

A run talks to the world through one input and one output stream and through
prompts.  Calls are numbered for each kind on its own, a schedule says which
of them fail, and everything that happens is kept in order: what was read,
written, flushed, asked and logged.  Output, prompts and log are views of that
one history.
-/

namespace Brainfuck

inductive StreamCall where
  | read
  | readLine
  | write
  | flush
deriving DecidableEq

inductive StreamFault where
  /-- The device reports an error. -/
  | device (reason : String)
  /-- Anything else; a run does not handle it. -/
  | other (reason : String)

/-- Which calls fail: the kind of the call and its number, from 0. -/
abbrev FaultSchedule := StreamCall → Nat → Option StreamFault

def FaultSchedule.none : FaultSchedule := fun _ _ => .none

inductive Event where
  /-- A byte was taken from the input, or its end was met. -/
  | read (byte : Option UInt8)
  /-- The rest of a line was taken from the input. -/
  | readLine (bytes : List UInt8)
  | write (byte : UInt8)
  | flush
  | failed (call : StreamCall)
  | prompt (text : String)
  | promptFlush
  | log (entry : LogEntry)

namespace Event

def outputByte? : Event → Option UInt8
  | .write byte => some byte
  | _ => none

def logEntry? : Event → Option LogEntry
  | .log entry => some entry
  | _ => none

def promptText? : Event → Option String
  | .prompt text => some text
  | _ => none

end Event

def outputOf (events : List Event) : List UInt8 :=
  events.filterMap Event.outputByte?

def logOf (events : List Event) : List LogEntry :=
  events.filterMap Event.logEntry?

def promptsOf (events : List Event) : String :=
  String.join (events.filterMap Event.promptText?)

@[simp]
theorem outputOf_append (first second : List Event) :
    outputOf (first ++ second) = outputOf first ++ outputOf second := by
  simp [outputOf]

@[simp]
theorem logOf_append (first second : List Event) :
    logOf (first ++ second) = logOf first ++ logOf second := by
  simp [logOf]

@[simp]
theorem promptsOf_append (first second : List Event) :
    promptsOf (first ++ second) = promptsOf first ++ promptsOf second := by
  simp [promptsOf]

structure CallCounts where
  read : Nat
  readLine : Nat
  write : Nat
  flush : Nat

namespace CallCounts

def initial : CallCounts := ⟨0, 0, 0, 0⟩

def count (counts : CallCounts) : StreamCall → Nat
  | .read => counts.read
  | .readLine => counts.readLine
  | .write => counts.write
  | .flush => counts.flush

def bump (counts : CallCounts) : StreamCall → CallCounts
  | .read => { counts with read := counts.read + 1 }
  | .readLine => { counts with readLine := counts.readLine + 1 }
  | .write => { counts with write := counts.write + 1 }
  | .flush => { counts with flush := counts.flush + 1 }

end CallCounts

structure Streams where
  input : List UInt8
  counts : CallCounts
  /-- What happened, the latest first. -/
  history : List Event

namespace Streams

def ofInput (input : List UInt8) : Streams := ⟨input, .initial, []⟩

def events (streams : Streams) : List Event := streams.history.reverse

def output (streams : Streams) : List UInt8 := outputOf streams.events

def prompts (streams : Streams) : String := promptsOf streams.events

def record (streams : Streams) (event : Event) : Streams :=
  { streams with history := event :: streams.history }

def log (streams : Streams) (entry : LogEntry) : Streams :=
  streams.record (.log entry)

@[simp]
theorem input_record (streams : Streams) (event : Event) :
    (streams.record event).input = streams.input := rfl

@[simp]
theorem events_record (streams : Streams) (event : Event) :
    (streams.record event).events = streams.events ++ [event] := by
  simp [events, record]

@[simp]
theorem output_record (streams : Streams) (event : Event) :
    (streams.record event).output = streams.output ++ event.outputByte?.toList := by
  cases event <;> simp [output, outputOf, Event.outputByte?]

@[simp]
theorem prompts_record (streams : Streams) (event : Event) :
    (streams.record event).prompts = streams.prompts ++ event.promptText?.getD "" := by
  cases event <;> simp [prompts, promptsOf, Event.promptText?, List.filterMap_cons]

def logAll (streams : Streams) (entries : List LogEntry) : Streams :=
  entries.foldl log streams

@[simp]
theorem input_logAll (streams : Streams) (entries : List LogEntry) :
    (streams.logAll entries).input = streams.input := by
  induction entries generalizing streams with
  | nil => rfl
  | cons entry rest ih => exact ih (streams.log entry)

@[simp]
theorem events_logAll (streams : Streams) (entries : List LogEntry) :
    (streams.logAll entries).events = streams.events ++ entries.map .log := by
  induction entries generalizing streams with
  | nil => simp [logAll]
  | cons entry rest ih =>
    have later : (streams.logAll (entry :: rest)).events =
        (streams.log entry).events ++ rest.map .log := ih (streams.log entry)
    simp [later, log]

/-- Counts a call and asks the schedule whether it fails. -/
def call (schedule : FaultSchedule) (kind : StreamCall) (streams : Streams) :
    Option StreamFault × Streams :=
  let counted := { streams with counts := streams.counts.bump kind }
  match schedule kind (streams.counts.count kind) with
  | some fault => (some fault, counted.record (.failed kind))
  | none => (none, counted)

@[simp]
theorem input_call (schedule : FaultSchedule) (kind : StreamCall) (streams : Streams) :
    (streams.call schedule kind).2.input = streams.input := by
  unfold call
  split <;> rfl

def read (schedule : FaultSchedule) (streams : Streams) :
    Except StreamFault (Option UInt8) × Streams :=
  match streams.call schedule .read with
  | (some fault, streams) => (.error fault, streams)
  | (none, streams) =>
    match streams.input with
    | [] => (.ok none, streams.record (.read none))
    | byte :: rest => (.ok (some byte), { streams with input := rest }.record (.read (some byte)))

def newline : UInt8 := 10

/-- Cuts bytes after their first newline. -/
def splitLine (bytes : List UInt8) : List UInt8 × List UInt8 :=
  let body := bytes.takeWhile (· != newline)
  match bytes.dropWhile (· != newline) with
  | [] => (body, [])
  | mark :: rest => (body ++ [mark], rest)

def readLine (schedule : FaultSchedule) (streams : Streams) :
    Except StreamFault Unit × Streams :=
  match streams.call schedule .readLine with
  | (some fault, streams) => (.error fault, streams)
  | (none, streams) =>
    let (line, rest) := splitLine streams.input
    (.ok (), { streams with input := rest }.record (.readLine line))

def write (schedule : FaultSchedule) (byte : UInt8) (streams : Streams) :
    Except StreamFault Unit × Streams :=
  match streams.call schedule .write with
  | (some fault, streams) => (.error fault, streams)
  | (none, streams) => (.ok (), streams.record (.write byte))

/-- Flushes the output.  An error of the device is logged and forgotten; the
reason of any other failure is returned. -/
def flush (schedule : FaultSchedule) (streams : Streams) : Except String Unit × Streams :=
  match streams.call schedule .flush with
  | (some (.device reason), streams) => (.ok (), streams.log (.flushFailed reason))
  | (some (.other reason), streams) => (.error reason, streams)
  | (none, streams) => (.ok (), streams.record .flush)

/-- Writes a prompt, if there is one, and flushes the prompts. -/
def ask (prompt : Option String) (streams : Streams) : Streams :=
  match prompt with
  | some text => (streams.record (.prompt text)).record .promptFlush
  | none => streams

end Streams

end Brainfuck
