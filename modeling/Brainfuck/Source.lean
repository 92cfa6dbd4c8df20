import Brainfuck.Command

/-!
# Sources and programs

A source is what a person writes: characters, or the bytes of a file.  A
program is a sequence of characters that the machine can run.  Reducing a
source to its commands keeps their order and drops the commentary.
-/

namespace Brainfuck

/-- The characters that a machine walks over, addressed by position. -/
abbrev Program := Array Char

/-- A source, before its commentary is dropped. -/
inductive Source where
  | text (characters : String)
  | bytes (data : List UInt8)

def commandsOfText (characters : List Char) : List Char :=
  characters.filter isCommand

/-- The command characters among some bytes, in their order.  Bytes are
judged one by one, so that text in any encoding, or in none, is accepted. -/
def commandsOfBytes (data : List UInt8) : List Char :=
  data.filterMap fun byte => (Command.ofByte? byte).map Command.toChar

def Source.program : Source → Program
  | .text characters => (commandsOfText characters.toList).toArray
  | .bytes data => (commandsOfBytes data).toArray

/-- The program that consists of all characters of a text, commentary
included. -/
def Program.ofText (text : String) : Program :=
  text.toList.toArray

def Program.toText (program : Program) : String :=
  String.ofList program.toList

theorem commandsOfText_append (first second : List Char) :
    commandsOfText (first ++ second) = commandsOfText first ++ commandsOfText second := by
  simp [commandsOfText]

theorem commandsOfBytes_append (first second : List UInt8) :
    commandsOfBytes (first ++ second) = commandsOfBytes first ++ commandsOfBytes second := by
  simp [commandsOfBytes]

theorem commandsOfText_idempotent (characters : List Char) :
    commandsOfText (commandsOfText characters) = commandsOfText characters := by
  simp [commandsOfText]

end Brainfuck
