import Brainfuck.Text.Integer
import Mathlib.Data.List.DropRight

/-!
# Numbers in decimal

Numbers are written with ASCII digits.  A reader of integers accepts digits of any script,
blanks and underscores besides, and it reads what is written as the number that was written,
unless it has more digits than are read at most.
-/

namespace Brainfuck

section Digits

theorem isDigit_of_mem_toDigits
    {number : Nat} {character : Char} (digit : character ∈ Nat.toDigits 10 number) :
    character.isDigit = true :=
  Nat.isDigit_of_mem_toDigits (by decide) (by decide) digit

theorem not_mem_toDigits {character : Char} (notDigit : character.isDigit = false)
    (number : Nat) : character ∉ Nat.toDigits 10 number := by
  intro digit
  rw [isDigit_of_mem_toDigits digit] at notDigit
  cases notDigit

/-- Of all numbers only zero is written as a single zero. -/
theorem toDigits_eq_zero_iff {number : Nat} : Nat.toDigits 10 number = ['0'] ↔ number = 0 := by
  constructor
  · intro digits
    have value : Nat.ofDigitChars 10 (Nat.toDigits 10 number) 0 = number :=
      Nat.ofDigitChars_ten_toDigits
    rw [digits] at value
    exact value.symm
  · rintro rfl
    rfl

theorem toList_toString (number : Nat) :
    (toString (number : Int)).toList = Nat.toDigits 10 number := by
  have natural : toString (number : Int) = number.repr := rfl
  rw [natural, Nat.toList_repr]

end Digits

namespace Text

variable {character : Char} {characters : List Char}

section Natural

private theorem bounds_of_isDigit (isDigit : character.isDigit = true) :
    48 ≤ character.toNat ∧ character.toNat ≤ 57 := by
  simp only [Char.isDigit, Bool.and_eq_true, decide_eq_true_eq] at isDigit
  exact isDigit

private theorem digitValue?_of_isDigit (isDigit : character.isDigit = true) :
    digitValue? character = some (character.toNat - 48) := by
  obtain ⟨least, greatest⟩ := bounds_of_isDigit isDigit
  obtain ⟨others, zeros⟩ : ∃ others, digitZeros = 0x30 :: others := ⟨_, rfl⟩
  have ascii : (0x30 ≤ character.toNat && character.toNat < 0x30 + 10) = true := by
    simp only [Bool.and_eq_true, decide_eq_true_eq]
    omega
  rw [digitValue?, zeros, List.find?_cons, ascii]
  rfl

private theorem digitRun?_of_isDigit {afterDigit : Bool}
    (digits : ∀ character ∈ characters, character.isDigit = true)
    (ends : characters = [] → afterDigit = true) :
    digitRun? afterDigit characters =
      some (characters.map fun character => character.toNat - 48) := by
  induction characters generalizing afterDigit with
  | nil =>
      rw [ends rfl]
      rfl
  | cons first rest ih =>
      obtain ⟨isDigit, others⟩ := List.forall_mem_cons.mp digits
      have notUnderscore : first ≠ '_' := by
        rintro rfl
        cases isDigit
      rw [digitRun?, if_neg notUnderscore, digitValue?_of_isDigit isDigit]
      simp only [ih others fun _ => rfl, Option.map_some, List.map_cons]

private theorem ofDigits_map (characters : List Char) :
    ofDigits (characters.map fun character => character.toNat - 48) =
      Nat.ofDigitChars 10 characters 0 := by
  unfold ofDigits Nat.ofDigitChars
  rw [List.foldl_map]
  simp only [Nat.mul_comm]
  rfl

theorem natural?_toDigits {number : Nat} (short : (Nat.toDigits 10 number).length ≤ digitLimit) :
    natural? (Nat.toDigits 10 number) = some number := by
  have digits : digitRun? false (Nat.toDigits 10 number) =
      some ((Nat.toDigits 10 number).map fun character => character.toNat - 48) :=
    digitRun?_of_isDigit (fun _ => isDigit_of_mem_toDigits) fun isNil =>
      absurd isNil Nat.toDigits_ne_nil
  rw [natural?, digits]
  simp only [List.length_map, short, if_true, ofDigits_map, Nat.ofDigitChars_ten_toDigits]

end Natural

section Integer

private theorem isBlank_of_isDigit (isDigit : character.isDigit = true) :
    isBlank character = false := by
  obtain ⟨least, greatest⟩ := bounds_of_isDigit isDigit
  rw [Bool.eq_false_iff]
  intro blank
  simp only [isBlank, Bool.or_eq_true, Bool.and_eq_true, decide_eq_true_eq, beq_iff_eq] at blank
  omega

private theorem dropTrailing_dropWhile
    (solid : ∀ character ∈ characters, isBlank character = false) :
    dropTrailing (characters.dropWhile isBlank) = characters := by
  have first : characters.dropWhile isBlank = characters := by
    apply List.dropWhile_eq_self_iff.mpr
    intro nonempty
    simp [solid]
  rw [first]
  apply List.rdropWhile_eq_self_iff.mpr
  intro nonempty
  simp [solid]

private theorem signed?_of_isDigit (digits : ∀ character ∈ characters, character.isDigit = true) :
    signed? characters = (natural? characters).map Int.ofNat := by
  unfold signed?
  split
  · have plus : ('+').isDigit = true := digits _ List.mem_cons_self
    cases plus
  · have minus : ('-').isDigit = true := digits _ List.mem_cons_self
    cases minus
  · rfl

/-- What is written for an integer is read as this integer. -/
theorem integer?_toString {number : Int}
    (short : (Nat.toDigits 10 number.natAbs).length ≤ digitLimit) :
    integer? (toString number) = some number := by
  have solid (natural : Nat) :
      ∀ character ∈ Nat.toDigits 10 natural, isBlank character = false := by
    intro character digit
    exact isBlank_of_isDigit (isDigit_of_mem_toDigits digit)
  unfold integer?
  cases number with
  | ofNat natural =>
      have written : (toString (Int.ofNat natural)).toList = Nat.toDigits 10 natural :=
        toList_toString natural
      have value : natural? (Nat.toDigits 10 natural) = some natural := natural?_toDigits short
      rw [written, dropTrailing_dropWhile (solid natural),
        signed?_of_isDigit fun _ => isDigit_of_mem_toDigits, value]
      rfl
  | negSucc natural =>
      have written : (toString (Int.negSucc natural)).toList =
          '-' :: Nat.toDigits 10 (natural + 1) := by
        have negative : toString (Int.negSucc natural) = "-" ++ (natural + 1).repr := rfl
        rw [negative, String.toList_append, Nat.toList_repr]
        rfl
      have solid' : ∀ character ∈ '-' :: Nat.toDigits 10 (natural + 1),
          isBlank character = false :=
        List.forall_mem_cons.mpr ⟨rfl, solid _⟩
      have value : natural? (Nat.toDigits 10 (natural + 1)) = some (natural + 1) :=
        natural?_toDigits short
      rw [written, dropTrailing_dropWhile solid', signed?, value]
      rfl

end Integer

end Text

end Brainfuck
