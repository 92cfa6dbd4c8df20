/-!
# The eight commands

A program is a text, and eight of its characters are commands; every other
character is commentary.  This module fixes the alphabet, once for characters
and once for bytes.
-/

namespace Brainfuck

/-- What one instruction can ask of the machine. -/
inductive Command where
  | right
  | left
  | increment
  | decrement
  | write
  | read
  | loopStart
  | loopEnd
deriving DecidableEq

namespace Command

def all : List Command :=
  [.right, .left, .increment, .decrement, .write, .read, .loopStart, .loopEnd]

def toChar : Command → Char
  | .right => '>'
  | .left => '<'
  | .increment => '+'
  | .decrement => '-'
  | .write => '.'
  | .read => ','
  | .loopStart => '['
  | .loopEnd => ']'

/-- The command that a character stands for, if it is one. -/
def ofChar? (character : Char) : Option Command :=
  if character = '>' then some .right
  else if character = '<' then some .left
  else if character = '+' then some .increment
  else if character = '-' then some .decrement
  else if character = '.' then some .write
  else if character = ',' then some .read
  else if character = '[' then some .loopStart
  else if character = ']' then some .loopEnd
  else none

/-- The command that an ASCII byte stands for, if it is one. -/
def ofByte? (byte : UInt8) : Option Command :=
  if byte = 62 then some .right
  else if byte = 60 then some .left
  else if byte = 43 then some .increment
  else if byte = 45 then some .decrement
  else if byte = 46 then some .write
  else if byte = 44 then some .read
  else if byte = 91 then some .loopStart
  else if byte = 93 then some .loopEnd
  else none

@[simp]
theorem ofChar?_toChar (command : Command) :
    ofChar? command.toChar = some command := by
  cases command <;> rfl

theorem toChar_of_ofChar? {character : Char} {command : Command}
    (found : ofChar? character = some command) : command.toChar = character := by
  unfold ofChar? at found
  repeat' split at found
  all_goals first
    | (cases found; subst_vars; rfl)
    | cases found

/-- Reading a character as a command and writing a command are inverse. -/
theorem ofChar?_eq_some_iff {character : Char} {command : Command} :
    ofChar? character = some command ↔ character = command.toChar :=
  ⟨fun found => (toChar_of_ofChar? found).symm, fun equal => equal ▸ ofChar?_toChar command⟩

theorem mem_all (command : Command) : command ∈ all := by
  cases command <;> decide

end Command

def alphabet : String := "><+-.,[]"

def isCommand (character : Char) : Bool :=
  (Command.ofChar? character).isSome

/-- A text counts as a command only when it is one command character. -/
def isCommandText (text : String) : Bool :=
  match text.toList with
  | [character] => isCommand character
  | _ => false

end Brainfuck
