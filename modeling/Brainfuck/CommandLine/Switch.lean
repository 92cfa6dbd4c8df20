import Brainfuck.Text.Digit
import Brainfuck.Text.Quoted

/-!
# Switches and words

The command line is a list of words.  Before any of them is acted on, each is
told apart: it is a switch, with or without a value behind an equals sign, or
it is a plain word, or it is the separator after which all words are plain.
A long switch may be shortened as long as it cannot be mistaken.
-/

namespace Brainfuck.CommandLine

inductive Switch where
  | help
  | eof
  | lineInput
  | prompt
  | minify
  | dump
  | time
  | verbose
  | version
deriving DecidableEq

namespace Switch

def all : List Switch :=
  [.help, .eof, .lineInput, .prompt, .minify, .dump, .time, .verbose, .version]

def spellings : Switch → List String
  | .help => ["-h", "--help"]
  | .eof => ["--eof"]
  | .lineInput => ["--line-input"]
  | .prompt => ["--prompt"]
  | .minify => ["--minify"]
  | .dump => ["--dump"]
  | .time => ["--time"]
  | .verbose => ["-v", "--verbose"]
  | .version => ["--version"]

/-- A switch as complaints name it. -/
def title (switch : Switch) : String := "/".intercalate switch.spellings

def takesValue : Switch → Bool
  | .eof | .dump => true
  | _ => false

def table : List (String × Switch) :=
  all.flatMap fun switch => switch.spellings.map (·, switch)

def ofSpelling? (spelling : String) : Option Switch := table.lookup spelling

end Switch

/-- The word after which all words are plain. -/
def separator : String := "--"

/-- A switch as it was written. -/
structure Use where
  switch : Switch
  spelling : String
  /-- What stood behind the switch in the same word. -/
  value : Option String

inductive Word where
  | plain
  | separator
  | switch (use : Use)
  /-- Something that looks like a switch and is none. -/
  | unknown

/-- Cuts a word at its first equals sign. -/
def splitValue (word : String) : String × Option String :=
  match word.toList.span (· ≠ '=') with
  | (name, []) => (String.ofList name, none)
  | (name, _ :: value) => (String.ofList name, some (String.ofList value))

/-- Whether a text is a minus sign and a number, possibly with a decimal point
that digits follow.  A newline may end it. -/
def isNegativeNumber (text : List Char) : Bool :=
  let text := if text.getLast? = some '\n' then text.dropLast else text
  match text with
  | '-' :: number =>
    match number.span Text.isDecimalDigit with
    | (whole, []) => !whole.isEmpty
    | (_, '.' :: decimals) => !decimals.isEmpty && decimals.all Text.isDecimalDigit
    | _ => false
  | _ => false

/-- The uses that a word starting with a minus sign and spelled like no switch
may be meant as: an abbreviation of a long switch, or a short switch with more
letters behind it. -/
def candidates (word : String) : List Use :=
  match word.toList with
  | '-' :: '-' :: _ =>
    let (name, value) := splitValue word
    (Switch.table.filter fun entry => name.toList.isPrefixOf entry.1.toList).map
      fun entry => ⟨entry.2, entry.1, value⟩
  | first :: letter :: rest =>
    (Switch.table.filter fun entry => entry.1.toList = [first, letter]).map
      fun entry => ⟨entry.2, entry.1, some (String.ofList rest)⟩
  | _ => []

def ambiguous (word : String) (uses : List Use) : String :=
  let spellings := ", ".intercalate (uses.map Use.spelling)
  s!"ambiguous option: {word} could match {spellings}"

/-- What a word starting with a minus sign is. -/
def classifyDashed (word : String) : Except String Word :=
  match Switch.ofSpelling? word, splitValue word with
  | some switch, _ => .ok (.switch ⟨switch, word, none⟩)
  | none, (name, value) =>
    match if value.isSome then Switch.ofSpelling? name else none with
    | some switch => .ok (.switch ⟨switch, name, value⟩)
    | none =>
      match candidates word with
      | [use] => .ok (.switch use)
      | [] =>
        if isNegativeNumber word.toList || word.toList.contains ' ' then .ok .plain
        else .ok .unknown
      | uses => .error (ambiguous word uses)

/-- What a word before any separator is. -/
def classify (word : String) : Except String Word :=
  match word.toList with
  | '-' :: _ :: _ => classifyDashed word
  | _ => .ok .plain

/-- What each of some words is, or a complaint about the first that could be
several switches. -/
def classifyAll : List String → Except String (List (String × Word))
  | [] => .ok []
  | word :: rest =>
    if word = separator then
      .ok ((word, .separator) :: rest.map (·, .plain))
    else
      match classify word with
      | .error complaint => .error complaint
      | .ok kind => (classifyAll rest).map ((word, kind) :: ·)

end Brainfuck.CommandLine
