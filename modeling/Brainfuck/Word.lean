/-!
# Machine words

Indices, sizes and counts are handled as signed words of 64 bits.  Integers are
not bounded, so one that is no word is told apart where a word is needed, and
sometimes also one that would at least be an unsigned word.
-/

namespace Brainfuck

/-- The least natural number that is no word, the 63rd power of two. -/
def wordBound : Int := 9223372036854775808

def IsWord (value : Int) : Prop := -wordBound ≤ value ∧ value < wordBound

instance (value : Int) : Decidable (IsWord value) := inferInstanceAs (Decidable (_ ∧ _))

/-- An integer is a word if no bit is spent on its sign. -/
def IsUnsignedWord (value : Int) : Prop := 0 ≤ value ∧ value < 2 * wordBound

instance (value : Int) : Decidable (IsUnsignedWord value) :=
  inferInstanceAs (Decidable (_ ∧ _))

end Brainfuck
