import Brainfuck.Nesting
import Brainfuck.Options
import Brainfuck.Stream
import Brainfuck.Tape

/-!
# Structured programs

A program whose brackets are matched is a sequence of plain characters and
loops, and a loop's body is such a sequence again.  `Block.text` writes a block
as a program, and `Block.evaluate` is its meaning without jumps or a stack: a
loop is repeated while the current cell is not zero.  How many instructions
that takes, and at which position of the text the pointer leaves the tape, is
part of the meaning.
-/

namespace Brainfuck

structure PlainChar where
  char : Char
  notOpen : char ≠ '['
  notClose : char ≠ ']'

/-- A sequence of plain characters and loops. -/
inductive Block where
  | done
  | plain (character : PlainChar) (rest : Block)
  | loop (body rest : Block)

/-- What a block works on. -/
structure World where
  tape : Tape
  input : List UInt8
  /-- The bytes put out so far, the latest first. -/
  emitted : List UInt8

namespace World

/-- The current cell, on a tape that has one. -/
def current (world : World) : UInt8 := world.tape.current?.getD 0

def put (world : World) (value : UInt8) : World :=
  { world with tape := world.tape.put value }

/-- What is left of the input when `byte` was the first of it. -/
def inputAfter (mode : InputMode) (byte : UInt8) (rest : List UInt8) : List UInt8 :=
  match mode with
  | .byte => rest
  | .line => if byte = Streams.newline then rest else (Streams.splitLine rest).2

def read (options : Options) (world : World) : World :=
  match world.input, options.eof with
  | byte :: rest, _ =>
    { world.put byte with input := inputAfter options.inputMode byte rest }
  | [], .zero => world.put 0
  | [], .unchanged => world
  | [], .max => world.put 255

/-- What a character that is no bracket does on a tape of `size` cells; nothing
is left when the pointer would leave the tape. -/
def act (size : Nat) (options : Options) (character : Char) (world : World) : Option World :=
  match Command.ofChar? character with
  | some .right =>
    if world.tape.pointer + 1 < size then some { world with tape := world.tape.moveRight }
    else none
  | some .left =>
    if 0 < world.tape.pointer then some { world with tape := world.tape.moveLeft } else none
  | some .increment => some (world.put (world.current + 1))
  | some .decrement => some (world.put (world.current - 1))
  | some .write => some { world with emitted := world.current :: world.emitted }
  | some .read => some (world.read options)
  | _ => some world

end World

inductive Evaluation where
  | finished (steps : Nat) (world : World)
  /-- After so many steps the character at a position moved off the tape. -/
  | strayed (steps position : Nat) (world : World)
  | unfinished

/-- What became of a block when some steps came before it. -/
def Evaluation.later (before : Nat) : Evaluation → Evaluation
  | .finished steps world => .finished (before + steps) world
  | .strayed steps position world => .strayed (before + steps) position world
  | .unfinished => .unfinished

namespace Block

def text : Block → List Char
  | .done => []
  | .plain character rest => character.char :: rest.text
  | .loop body rest => '[' :: body.text ++ ']' :: rest.text

/-- Evaluates the block whose text starts at `position`.  Each test of a loop
is one step: the first is made at the loop's start, and the others each time its
body is done. -/
def evaluate (size : Nat) (options : Options) : Nat → Nat → Block → World → Evaluation
  | 0, _, _, _ => .unfinished
  | _ + 1, _, .done, world => .finished 0 world
  | fuel + 1, position, .plain character rest, world =>
    match world.act size options character.char with
    | none => .strayed 0 position world
    | some world => (evaluate size options fuel (position + 1) rest world).later 1
  | fuel + 1, position, .loop body rest, world =>
    if world.current = 0 then
      (evaluate size options fuel (position + body.text.length + 2) rest world).later 1
    else
      match evaluate size options fuel (position + 1) body world with
      | .finished steps world =>
        (evaluate size options fuel position (.loop body rest) world).later (steps + 1)
      | evaluation => evaluation.later 1

theorem balanced_text (block : Block) : Balanced block.text := by
  induction block with
  | done => exact .nil
  | plain character rest ih => exact .plain character.notOpen character.notClose ih
  | loop body rest bodyIh restIh => exact .loop bodyIh restIh

theorem exists_text_eq {text : List Char} (balanced : Balanced text) :
    ∃ block : Block, block.text = text := by
  induction balanced with
  | nil => exact ⟨.done, rfl⟩
  | @plain character rest notOpen notClose _ ih =>
    obtain ⟨block, equal⟩ := ih
    exact ⟨.plain ⟨character, notOpen, notClose⟩ block, by simp [Block.text, equal]⟩
  | loop _ _ bodyIh restIh =>
    obtain ⟨body, bodyEqual⟩ := bodyIh
    obtain ⟨rest, restEqual⟩ := restIh
    exact ⟨.loop body rest, by simp [Block.text, bodyEqual, restEqual]⟩

end Block

end Brainfuck
