import Brainfuck.CommandLine.Switch
import Brainfuck.Options
import Brainfuck.Text.Integer

/-!
# Reading the command line

Words are acted on from left to right.  The first plain word that no switch
takes as its value is the file; words for which there is no use are kept and
complained about at the end.  Asking for help or for the version ends the
reading at once, and so does a switch that is used wrongly.  The separator is
nowhere a value: behind the equals sign of a switch, it leaves the value open.
-/

namespace Brainfuck.CommandLine

/-- What the command line asks for. -/
structure Invocation where
  file : Option String
  /-- What a read stores at the end of input, unless it was left open. -/
  eof : Option EofPolicy
  lineInput : Bool
  prompt : Bool
  minify : Bool
  /-- How many cells to show after the run, unless it was left open. -/
  dump : Option Int
  time : Bool
  verbosity : Nat

inductive Refusal where
  | help
  | version
  | complaint (text : String)

namespace Invocation

def initial : Invocation := ⟨none, some .zero, false, false, false, some 0, false, 0⟩

end Invocation

/-- What the next word may be used for. -/
inductive Expectation where
  /-- A plain word would name the file. -/
  | file
  /-- The file was named by the previous word. -/
  | afterFile
  | nothing
deriving DecidableEq

/-- How far the reading has come. -/
structure Progress where
  invocation : Invocation
  expectation : Expectation
  /-- The switch that has to be followed by its value. -/
  awaiting : Option Switch
  leftOver : List String

namespace Progress

def initial : Progress := ⟨.initial, .file, none, []⟩

def keep (progress : Progress) (word : String) : Progress :=
  { progress with leftOver := progress.leftOver ++ [word] }

/-- The previous word is no longer the file's name. -/
def settle (progress : Progress) : Progress :=
  match progress.expectation with
  | .afterFile => { progress with expectation := .nothing }
  | _ => progress

/-- A plain word names the file if nothing has. -/
def plain (progress : Progress) (word : String) : Progress :=
  match progress.expectation with
  | .file =>
    { progress with
      invocation := { progress.invocation with file := some word }
      expectation := .afterFile }
  | _ => progress.settle.keep word

/-- The separator is of no use once the file is named, unless it comes directly
after the name. -/
def separator (progress : Progress) (word : String) : Progress :=
  match progress.expectation with
  | .nothing => progress.keep word
  | _ => progress.settle

def withInvocation (progress : Progress) (invocation : Invocation) : Progress :=
  { progress.settle with invocation := invocation, awaiting := none }

end Progress

def misuse (switch : Switch) (problem : String) : Refusal :=
  .complaint s!"argument {switch.title}: {problem}"

def ignoredValue (switch : Switch) (value : String) : Refusal :=
  misuse switch s!"ignored explicit argument {Text.quoted value}"

def missingValue (switch : Switch) : Refusal :=
  misuse switch "expected one argument"

def turnOn (switch : Switch) (invocation : Invocation) : Except Refusal Invocation :=
  match switch with
  | .help => .error .help
  | .version => .error .version
  | .lineInput => .ok { invocation with lineInput := true }
  | .prompt => .ok { invocation with prompt := true }
  | .minify => .ok { invocation with minify := true }
  | .time => .ok { invocation with time := true }
  | .verbose => .ok { invocation with verbosity := invocation.verbosity + 1 }
  | .eof | .dump => .error (missingValue switch)

def invalidChoice (value : String) : String :=
  let offered := ", ".intercalate (EofPolicy.all.map fun policy => Text.quoted policy.name)
  s!"invalid choice: {Text.quoted value} (choose from {offered})"

/-- The value that a text stands for, if it is valid; the separator is, and
leaves the value open. -/
def readValue (read : String → Option α) (text : String) : Option (Option α) :=
  if text = separator then some none else (read text).map some

def assign (switch : Switch) (value : String) (invocation : Invocation) :
    Except Refusal Invocation :=
  match switch with
  | .eof =>
    match readValue EofPolicy.ofName? value with
    | some policy => .ok { invocation with eof := policy }
    | none => .error (misuse switch (invalidChoice value))
  | .dump =>
    match readValue Text.integer? value with
    | some count => .ok { invocation with dump := count }
    | none => .error (misuse switch s!"invalid int value: {Text.quoted value}")
  | _ => .error (ignoredValue switch value)

/-- The switches in a word that starts with the short switch `switch`, when
more letters stand behind it: each letter has to be a short switch that takes
no value, and a letter that is none makes what is left the value of the switch
before it. -/
def shortSwitches (switch : Switch) : List Char → Except Refusal (List Switch)
  | [] => .ok [switch]
  | letter :: rest =>
    match Switch.ofSpelling? (String.ofList ['-', letter]) with
    | some next => (shortSwitches next rest).map (switch :: ·)
    | none => .error (ignoredValue switch (String.ofList (letter :: rest)))

def turnOnAll (switches : List Switch) (invocation : Invocation) : Except Refusal Invocation :=
  switches.foldlM (fun invocation switch => turnOn switch invocation) invocation

/-- What a switch does together with what stands behind it in the same word. -/
def assignOrTurnOn (use : Use) (value : String) (invocation : Invocation) :
    Except Refusal Invocation :=
  if use.switch.takesValue then
    assign use.switch value invocation
  else if use.spelling.length = 2 ∧ value ≠ "" then
    match shortSwitches use.switch value.toList with
    | .error refusal => .error refusal
    | .ok switches => turnOnAll switches invocation
  else
    .error (ignoredValue use.switch value)

/-- What a switch does; one that has no value and needs one waits for it. -/
def readSwitch (progress : Progress) (use : Use) : Except Refusal Progress :=
  match use.value with
  | some value => (assignOrTurnOn use value progress.invocation).map progress.withInvocation
  | none =>
    if use.switch.takesValue then
      .ok { progress.settle with awaiting := some use.switch }
    else
      (turnOn use.switch progress.invocation).map progress.withInvocation

def readWord (progress : Progress) (word : String × Word) : Except Refusal Progress :=
  match progress.awaiting, word with
  | some switch, (value, .plain) =>
    (assign switch value progress.invocation).map progress.withInvocation
  | some switch, _ => .error (missingValue switch)
  | none, (word, .plain) => .ok (progress.plain word)
  | none, (word, .separator) => .ok (progress.separator word)
  | none, (word, .unknown) => .ok (progress.settle.keep word)
  | none, (_, .switch use) => readSwitch progress use

def conclude (progress : Progress) : Except Refusal Invocation :=
  match progress.awaiting, progress.leftOver with
  | some switch, _ => .error (missingValue switch)
  | none, [] => .ok progress.invocation
  | none, words => .error (.complaint ("unrecognized arguments: " ++ " ".intercalate words))

/-- What a command line asks for, or why it is refused. -/
def parse (words : List String) : Except Refusal Invocation :=
  match classifyAll words with
  | .error complaint => .error (.complaint complaint)
  | .ok words =>
    match words.foldlM readWord Progress.initial with
    | .error refusal => .error refusal
    | .ok progress => conclude progress

end Brainfuck.CommandLine
