/-!
# One byte per character

Text that is handed to a program as input is turned into bytes one character
at a time.  This works for the first 256 characters only; the report of a
failure names the first run of characters that have no byte.
-/

namespace Brainfuck.Text

/-- The characters that stand in the way of turning a text into bytes: a
maximal run of them from `start` on. -/
structure Unencodable where
  start : Nat
  characters : List Char

def hasByte (character : Char) : Bool :=
  character.toNat < 256

/-- The bytes of a text, or the first characters that have none. -/
def latin1Bytes (text : List Char) : Except Unencodable (List UInt8) :=
  if text.all hasByte then
    .ok (text.map fun character => UInt8.ofNat character.toNat)
  else
    .error ⟨(text.takeWhile hasByte).length,
      (text.dropWhile hasByte).takeWhile fun character => !hasByte character⟩

def ofLatin1 (data : List UInt8) : List Char :=
  data.map fun byte => Char.ofNat byte.toNat

end Brainfuck.Text
