import Brainfuck.Text.Printable

/-!
# Quoted text

A message that shows a piece of text puts it between quotes, so that its ends
can be seen.  Single quotes are used unless the text holds a single quote and
no double one.  What cannot be printed is written by its number.
-/

namespace Brainfuck.Text

/-- The number of a character in lower-case hexadecimal digits, filled up with
zeros to `width`. -/
def hexadecimal (width : Nat) (number : Nat) : List Char :=
  (Nat.toDigits 16 number).leftpad width '0'

def quoteFor (text : List Char) : Char :=
  if text.contains '\'' && !text.contains '"' then '"' else '\''

/-- How a character is written between quotes of the given kind. -/
def escaped (quote character : Char) : List Char :=
  if character = '\\' || character = quote then ['\\', character]
  else if character = '\t' then ['\\', 't']
  else if character = '\n' then ['\\', 'n']
  else if character = '\r' then ['\\', 'r']
  else if isPrintable character then [character]
  else if character.toNat < 0x100 then '\\' :: 'x' :: hexadecimal 2 character.toNat
  else if character.toNat < 0x10000 then '\\' :: 'u' :: hexadecimal 4 character.toNat
  else '\\' :: 'U' :: hexadecimal 8 character.toNat

def quoted (text : String) : String :=
  let quote := quoteFor text.toList
  String.ofList (quote :: text.toList.flatMap (escaped quote) ++ [quote])

end Brainfuck.Text
