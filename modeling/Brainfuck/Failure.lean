import Brainfuck.Context
import Brainfuck.Hint
import Brainfuck.Text.Latin1
import Brainfuck.Text.MemoryAmount
import Brainfuck.Text.Quoted
import Brainfuck.Word

/-!
# Failures

Everything that can keep a program from being loaded or from running to its
end, each with its cause.  The wording is in `Failure.message` alone.
-/

namespace Brainfuck

/-- Why an action did not succeed. -/
inductive Failure where
  | notFound (path : String)
  | cannotOpen (path reason : String)
  | cannotRead (name reason : String)
  | cannotWrite (path reason : String)
  | cannotEmit (reason : String)
  /-- The instruction at `position` would have moved the pointer off the tape. -/
  | outOfBounds (pointer size position : Int) (context : String)
  /-- The bracket at `position` has no partner. -/
  | malformed (reason : String) (position : Int) (context : String)
  | noSuchCell (index : Int) (length : Nat)
  /-- The index would be a word only without its sign. -/
  | indexTooLarge
  /-- The index is a word neither with nor without its sign. -/
  | noIndex
  | positionOutOfRange (position : Int)
  /-- A caret cannot be moved so far to the left. -/
  | indentOutOfRange
  | unknownEofPolicy (name : String)
  /-- The policy for the end of input was left open. -/
  | noEofPolicy
  /-- The number of cells to show was left open. -/
  | noDumpCount
  | unknownInputMode (name : String)
  | negativeSize
  /-- The number of cells asked for is no word. -/
  | sizeOutOfRange
  | outOfMemory (cells : Nat)
  /-- Nothing can be appended to the last name of a path that has none. -/
  | emptyName (path : String)
  | nulInPath
  | nameTooLong (path : String)
  /-- The input text holds characters that are not one byte each. -/
  | notBytes (characters : Text.Unencodable)
  /-- A stream failed in a way that a run does not handle. -/
  | interrupted (reason : String)

namespace Failure

def offTape (program : Program) (position pointer size : Int) : Failure :=
  .outOfBounds pointer size position (context program position)

def badBracket (reason : String) (program : Program) (position : Int) : Failure :=
  .malformed reason position (context program position)

/-- The failure to find a cell, among `length` cells that do not have this
index. -/
def missingCell (index : Int) (length : Nat) : Failure :=
  if IsWord index then .noSuchCell index length
  else if IsUnsignedWord index then .indexTooLarge
  else .noIndex

def unencodableMessage (found : Text.Unencodable) : String :=
  let place := match found.characters with
    | [character] =>
      let code := character.toNat
      let number := if code < 0x10000 then 'u' :: Text.hexadecimal 4 code
        else 'U' :: Text.hexadecimal 8 code
      s!"character '\\{String.ofList number}' in position {found.start}"
    | characters =>
      s!"characters in position {found.start}-{found.start + characters.length - 1}"
  s!"'latin-1' codec can't encode {place}: ordinal not in range(256)"

/-- What is said about an integer that would have to be a word. -/
def noWordMessage : String := "cannot fit 'int' into an index-sized integer"

def message : Failure → String
  | .notFound path => s!"The file at path {path} does not exist"
  | .cannotOpen path reason => s!"Couldn't read file {path}: {reason}"
  | .cannotRead name reason => s!"Couldn't read program from {name}: {reason}"
  | .cannotWrite path reason => s!"Couldn't write {path}: {reason}"
  | .cannotEmit reason => s!"Couldn't write output: {reason}"
  | .outOfBounds pointer size _ context =>
    let message := s!"Pointer is out of bounds. (pointer: {pointer}, memory_size: {size})"
    s!"RuntimeError: {message}\n{context}{hintLines .pointer message}"
  | .malformed reason position context =>
    s!"MalformedProgram: {reason} (instruction {position})\n{context}{hintLines .brackets reason}"
  | .noSuchCell index length =>
    s!"index {index} is out of bounds for axis 0 with size {length}"
  | .indexTooLarge => "Python int too large to convert to C long"
  | .noIndex =>
    "only integers, slices (`:`), ellipsis (`...`), numpy.newaxis (`None`) and integer " ++
      "or boolean arrays are valid indices"
  | .positionOutOfRange position =>
    if IsWord position then "string index out of range" else noWordMessage
  | .indentOutOfRange => noWordMessage
  | .unknownEofPolicy name => s!"{Text.quoted name} is not a valid EofPolicy"
  | .noEofPolicy => "[] is not a valid EofPolicy"
  | .noDumpCount => "'>' not supported between instances of 'list' and 'int'"
  | .unknownInputMode name => s!"{Text.quoted name} is not a valid InputMode"
  | .negativeSize => "negative dimensions are not allowed"
  | .sizeOutOfRange => "Maximum allowed dimension exceeded"
  | .outOfMemory cells =>
    s!"Unable to allocate {Text.memoryAmount cells} for an array with shape ({cells},) " ++
      "and data type uint8"
  | .emptyName path => s!"PosixPath({Text.quoted path}) has an empty name"
  | .nulInPath => "embedded null byte"
  | .nameTooLong path => s!"[Errno 36] File name too long: {Text.quoted path}"
  | .notBytes characters => unencodableMessage characters
  | .interrupted reason => reason

/-- Failures that are about the program, its file or its output.  They are
reported to the person who runs the program; the others are passed on. -/
def isReported : Failure → Bool
  | .notFound _ | .cannotOpen .. | .cannotRead .. | .cannotWrite .. | .cannotEmit _
  | .outOfBounds .. | .malformed .. => true
  | _ => false

def path? : Failure → Option String
  | .notFound path | .cannotOpen path _ | .cannotRead path _ | .cannotWrite path _ => some path
  | .cannotEmit _ => some "<stdout>"
  | _ => none

end Failure

end Brainfuck
