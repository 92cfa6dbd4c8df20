/-!
# The log

What is worth telling about loading and running a program, apart from its
result.  An entry is its cause; level, origin and wording follow from it.
-/

namespace Brainfuck

inductive LogLevel where
  | debug
  | info
  | warning
deriving DecidableEq

def LogLevel.name : LogLevel → String
  | .debug => "DEBUG"
  | .info => "INFO"
  | .warning => "WARNING"

/-- The place of a level among all levels, the least important first. -/
def LogLevel.rank : LogLevel → Nat
  | .debug => 0
  | .info => 1
  | .warning => 2

inductive LogEntry where
  /-- A source of so many bytes was reduced to so many commands. -/
  | loaded (commands : Nat) (name : String) (bytes : Nat)
  | wrote (commands : Nat) (path : String)
  /-- A program ended inside so many loops. -/
  | openLoops (count : Nat)
  | finished (steps pointer : Nat)
  | readFailed (pointer : Nat) (reason : String)
  | flushFailed (reason : String)

namespace LogEntry

def level : LogEntry → LogLevel
  | .loaded .. | .finished .. => .debug
  | .wrote .. => .info
  | .openLoops _ | .readFailed .. | .flushFailed _ => .warning

/-- The part of the system that an entry comes from. -/
def origin : LogEntry → String
  | .loaded .. | .wrote .. => "bfi.loader"
  | _ => "bfi.interpreter"

def text : LogEntry → String
  | .loaded commands name bytes => s!"Loaded {commands} commands from {name} ({bytes} bytes)"
  | .wrote commands path => s!"Wrote {commands} commands to {path}"
  | .openLoops count => s!"Program ended with {count} open loop(s)"
  | .finished steps pointer => s!"Finished after {steps} steps, pointer at {pointer}"
  | .readFailed pointer reason =>
    s!"Reading input failed, cell {pointer} left unchanged: {reason}"
  | .flushFailed reason => s!"Flushing output failed: {reason}"

def line (entry : LogEntry) : String :=
  s!"{entry.level.name} {entry.origin}: {entry.text}\n"

end LogEntry

end Brainfuck
