import Brainfuck.Text.Digit

/-!
# Integers in text

The written form of an integer is an optional sign and decimal digits of any
script, between optional blanks.  Single underscores may stand between digits.
A number of more than 4300 digits, leading zeros included, is refused.
-/

namespace Brainfuck.Text

def digitLimit : Nat := 4300

/-- The blanks that may surround an integer. -/
def isBlank (character : Char) : Bool :=
  let code := character.toNat
  (0x09 ≤ code && code ≤ 0x0D) || code == 0x20 || code == 0x85 || code == 0xA0 ||
    code == 0x1680 || (0x2000 ≤ code && code ≤ 0x200A) || code == 0x2028 || code == 0x2029 ||
    code == 0x202F || code == 0x205F || code == 0x3000

/-- The values of a run of digits in which each underscore has a digit on
either side; `afterDigit` says that a digit was just read. -/
def digitRun? (afterDigit : Bool) : List Char → Option (List Nat)
  | [] => if afterDigit then some [] else none
  | character :: rest =>
    if character = '_' then
      if afterDigit then digitRun? false rest else none
    else
      match digitValue? character with
      | some value => (digitRun? true rest).map (value :: ·)
      | none => none

def ofDigits (digits : List Nat) : Nat :=
  digits.foldl (fun number digit => number * 10 + digit) 0

/-- A natural number without sign or blanks. -/
def natural? (characters : List Char) : Option Nat :=
  match digitRun? false characters with
  | some digits => if digits.length ≤ digitLimit then some (ofDigits digits) else none
  | none => none

/-- A number with an optional sign directly before its digits. -/
def signed? : List Char → Option Int
  | '+' :: rest => (natural? rest).map Int.ofNat
  | '-' :: rest => (natural? rest).map fun number => -(number : Int)
  | characters => (natural? characters).map Int.ofNat

def dropTrailing (characters : List Char) : List Char :=
  (characters.reverse.dropWhile isBlank).reverse

def integer? (text : String) : Option Int :=
  signed? (dropTrailing (text.toList.dropWhile isBlank))

end Brainfuck.Text
