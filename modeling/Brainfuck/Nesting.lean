import Brainfuck.Source

/-!
# Nesting of brackets

Which brackets belong together is a property of the text alone.  `Balanced`
is the grammar of texts in which every bracket has its partner, `Partners`
relates the two brackets of one pair, and `openBrackets?` lists, for any
beginning of a program, the brackets that are still open at its end.
-/

namespace Brainfuck

/-- Texts in which every bracket has its partner. -/
inductive Balanced : List Char → Prop where
  | nil : Balanced []
  | plain {character : Char} {rest : List Char} :
      character ≠ '[' → character ≠ ']' → Balanced rest →
      Balanced (character :: rest)
  | loop {body rest : List Char} :
      Balanced body → Balanced rest → Balanced ('[' :: body ++ ']' :: rest)

/-- The brackets at two positions of a text belong together. -/
def Partners (text : List Char) (start stop : Nat) : Prop :=
  ∃ before body behind, text = before ++ '[' :: body ++ ']' :: behind ∧
    Balanced body ∧ before.length = start ∧ start + 1 + body.length = stop

/-- The positions of the brackets that are open after a text, innermost first,
when `position` characters came before it and left `opened` open; nothing when
the text closes more than is open. -/
def openFrom? (position : Nat) (opened : List Nat) : List Char → Option (List Nat)
  | [] => some opened
  | character :: rest =>
    if character = '[' then openFrom? (position + 1) (position :: opened) rest
    else if character = ']' then
      match opened with
      | [] => none
      | _ :: outer => openFrom? (position + 1) outer rest
    else openFrom? (position + 1) opened rest

/-- The positions of the brackets that are open after the first `index`
characters of a program, innermost first. -/
def openBrackets? (program : Program) (index : Nat) : Option (List Nat) :=
  openFrom? 0 [] (program.toList.take index)

theorem Balanced.append {first second : List Char}
    (firstBalanced : Balanced first) (secondBalanced : Balanced second) :
    Balanced (first ++ second) := by
  induction firstBalanced with
  | nil => exact secondBalanced
  | plain notOpen notClose _ ih => exact .plain notOpen notClose ih
  | @loop body rest bodyBalanced _ _ ih =>
    have joined := Balanced.loop bodyBalanced ih
    simpa using joined

theorem openFrom?_append (position : Nat) (opened : List Nat) (first second : List Char) :
    openFrom? position opened (first ++ second) =
      (openFrom? position opened first).bind fun opened =>
        openFrom? (position + first.length) opened second := by
  induction first generalizing position opened with
  | nil => simp [openFrom?]
  | cons character rest ih =>
    have shift : position + (rest.length + 1) = position + 1 + rest.length := by omega
    simp only [List.cons_append, openFrom?, List.length_cons, shift]
    split
    · exact ih _ _
    · split
      · cases opened with
        | nil => rfl
        | cons innermost outer => exact ih _ _
      · exact ih _ _

/-- A balanced text leaves open what was open before it. -/
theorem openFrom?_of_balanced {text : List Char} (balanced : Balanced text)
    (position : Nat) (opened : List Nat) :
    openFrom? position opened text = some opened := by
  induction balanced generalizing position opened with
  | nil => rfl
  | plain notOpen notClose _ ih => simp [openFrom?, notOpen, notClose, ih]
  | loop _ _ bodyIh restIh =>
    simp [openFrom?, openFrom?_append, bodyIh, restIh]

end Brainfuck
