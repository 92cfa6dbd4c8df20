import Brainfuck.Failure
import Brainfuck.Stream

/-!
# Options of a run

What a run does at the end of its input, how much of its input a read takes,
and whether and where it asks for input.
-/

namespace Brainfuck

/-- What a read stores when there is no byte left. -/
inductive EofPolicy where
  | zero
  | unchanged
  | max
deriving DecidableEq

namespace EofPolicy

def all : List EofPolicy := [.zero, .unchanged, .max]

def name : EofPolicy → String
  | .zero => "zero"
  | .unchanged => "unchanged"
  | .max => "max"

def ofName? (name : String) : Option EofPolicy :=
  all.find? fun policy => policy.name == name

@[simp]
theorem ofName?_name (policy : EofPolicy) : ofName? policy.name = some policy := by
  cases policy <;> decide

end EofPolicy

/-- How much input one read takes. -/
inductive InputMode where
  | byte
  /-- One byte, and the rest of its line is dropped. -/
  | line
deriving DecidableEq

namespace InputMode

def all : List InputMode := [.byte, .line]

def name : InputMode → String
  | .byte => "byte"
  | .line => "line"

def ofName? (name : String) : Option InputMode :=
  all.find? fun mode => mode.name == name

@[simp]
theorem ofName?_name (mode : InputMode) : ofName? mode.name = some mode := by
  cases mode <;> decide

end InputMode

inductive PromptStream where
  /-- To a stream for nothing else. -/
  | own
  | standardError
deriving DecidableEq

structure Options where
  eof : EofPolicy
  inputMode : InputMode
  /-- Written before each read; an empty prompt is still written. -/
  prompt : Option String
  promptStream : PromptStream := .standardError

namespace Options

def standard : Options := { eof := .zero, inputMode := .byte, prompt := none }

/-- What a run with these options puts on a stream by asking. -/
def promptsOn (options : Options) (stream : PromptStream) (events : List Event) : String :=
  if stream = options.promptStream then promptsOf events else ""

/-- Replaces the policy for the end of input by the one with the name given,
if any is given. -/
def withEof (options : Options) : Option String → Except Failure Options
  | none => .ok options
  | some name =>
    match EofPolicy.ofName? name with
    | some policy => .ok { options with eof := policy }
    | none => .error (.unknownEofPolicy name)

def withInputMode (options : Options) : Option String → Except Failure Options
  | none => .ok options
  | some name =>
    match InputMode.ofName? name with
    | some mode => .ok { options with inputMode := mode }
    | none => .error (.unknownInputMode name)

/-- The options with the given names; what is not named keeps its value.  Of
two unknown names, the policy for the end of input is reported. -/
def named (options : Options) (eof inputMode : Option String) : Except Failure Options :=
  match options.withEof eof with
  | .ok options => options.withInputMode inputMode
  | .error failure => .error failure

end Options

end Brainfuck
