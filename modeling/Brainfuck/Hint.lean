/-!
# Hints

Some messages are followed by advice.  Which advice fits is read off the
wording of the message, in upper or lower case.
-/

namespace Brainfuck

inductive Topic where
  | pointer
  | brackets

def containsText (wanted : List Char) : List Char → Bool
  | [] => wanted.isEmpty
  | character :: rest => wanted.isPrefixOf (character :: rest) || containsText wanted rest

def pointerHint (message : List Char) : String :=
  if containsText "pointer: 0,".toList message then
    "The program moved left of the first cell. Check the balance of \"<\" and \">\" inside loops."
  else
    "The program moved past the last cell. The tape does not wrap around."

def bracketHint? (message : List Char) : Option String :=
  if containsText "unmatched '['".toList message then
    some "Every \"[\" needs a closing \"]\" later in the program."
  else if containsText "unmatched ']'".toList message then
    some "A \"]\" was reached with no open loop. Check for an extra \"]\" or a missing \"[\"."
  else
    none

/-- The advice that follows a message.  Lower case is that of ASCII: no other
letter has a lower case with which one of the texts searched for could be
spelled. -/
def hint? (topic : Topic) (message : String) : Option String :=
  let message := message.toList.map Char.toLower
  match topic with
  | .pointer => some (pointerHint message)
  | .brackets => bracketHint? message

def hintLines (topic : Topic) (message : String) : String :=
  match hint? topic message with
  | some hint => "\nHint: " ++ hint
  | none => ""

end Brainfuck
