/-!
# Amounts of memory in text

An amount of memory is told in the smallest unit of which it is less than 1024,
each unit being 1024 of the one before.  It has three digits, or four if the
whole part has four.  Amounts are known to 53 binary digits, as floating-point
numbers are, so one is rounded to that many before it is rounded to be shown.
-/

namespace Brainfuck.Text

/-- The integer that is nearest to a quotient; of two, the even one. -/
def nearest (numerator denominator : Nat) : Nat :=
  let quotient := numerator / denominator
  let twice := 2 * (numerator % denominator)
  if denominator < twice ∨ (twice = denominator ∧ quotient % 2 = 1) then quotient + 1
  else quotient

/-- A number rounded to its first binary digits. -/
def rounded (digits number : Nat) : Nat :=
  let scale := Nat.pow 2 (number.log2 + 1 - digits)
  nearest number scale * scale

/-- A quotient with three digits; the point stands even if no digit follows. -/
def threeDigits (numerator denominator : Nat) : String :=
  let hundredths := nearest (100 * numerator) denominator
  let tenths := nearest (10 * numerator) denominator
  if hundredths < 1000 then
    s!"{hundredths / 100}.{hundredths / 10 % 10}{hundredths % 10}"
  else if tenths < 1000 then
    s!"{tenths / 10}.{tenths % 10}"
  else
    s!"{nearest numerator denominator}."

/-- An amount in the first of some units of which it is less than 1024, or in
the last; the first unit is `scale` bytes. -/
def inUnits (bytes scale : Nat) : List String → String
  | [] => s!"{bytes}"
  | [unit] => s!"{threeDigits bytes scale} {unit}"
  | unit :: larger =>
    if nearest bytes scale < 1024 then s!"{threeDigits bytes scale} {unit}"
    else inUnits bytes (scale * 1024) larger

def knownDigits : Nat := 53

def memoryAmount (bytes : Nat) : String :=
  if bytes < 1024 then s!"{bytes} bytes"
  else inUnits (rounded knownDigits bytes) 1024 ["KiB", "MiB", "GiB", "TiB", "PiB", "EiB"]

end Brainfuck.Text
