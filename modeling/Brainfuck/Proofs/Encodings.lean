import Brainfuck.Proofs.MinifiedFiles
import Mathlib.Data.List.Basic

/-!
# Commands in text and in bytes

The commands of a text are found character by character, and those of some bytes byte by
byte.  Read as Latin-1, a byte is a command when its character is one.  In UTF-8 a command
is a single byte, and a character that is not ASCII consists of bytes that are no commands,
none of which is less than 128.  So a text and its bytes hold the same program, wherever the
bytes are cut.
-/

namespace Brainfuck

def utf8Bytes (text : String) : List UInt8 := text.toUTF8.data.toList

/-- What is kept of a text: its commands in their order, all of them and nothing else. -/
structure KeepsCommands (text kept : List Char) : Prop where
  sublist : kept.Sublist text
  command : ∀ character ∈ kept, character ∈ alphabet.toList
  count_eq : ∀ character ∈ alphabet.toList, kept.count character = text.count character

variable {character : Char} {byte : UInt8} {command : Command}

section Characters

theorem isCommand_iff_exists :
    isCommand character = true ↔ ∃ command : Command, character = command.toChar := by
  unfold isCommand
  simp only [Option.isSome_iff_exists, Command.ofChar?_eq_some_iff]

private theorem isCommand_iff_mem_alphabet :
    isCommand character = true ↔ character ∈ alphabet.toList := by
  have letters : alphabet.toList = Command.all.map Command.toChar := rfl
  rw [isCommand_iff_exists, letters, List.mem_map]
  constructor
  · rintro ⟨command, rfl⟩
    exact ⟨command, Command.mem_all command, rfl⟩
  · rintro ⟨command, _, rfl⟩
    exact ⟨command, rfl⟩

private theorem keepsCommands_commandsOfText (text : List Char) :
    KeepsCommands text (commandsOfText text) := by
  refine ⟨List.filter_sublist, ?_, ?_⟩
  · intro character kept
    exact isCommand_iff_mem_alphabet.mp (List.mem_filter.mp kept).2
  · intro character letter
    exact List.count_filter (isCommand_iff_mem_alphabet.mpr letter)

end Characters

section Latin1

private theorem toNat_ofNat_byte (byte : UInt8) : (Char.ofNat byte.toNat).toNat = byte.toNat := by
  have small : byte.toNat < 256 := byte.toNat_lt
  have valid : byte.toNat.isValidChar := Or.inl (by omega)
  unfold Char.ofNat
  rw [dif_pos valid]
  rfl

theorem Command.ofByte?_eq_some_iff :
    Command.ofByte? byte = some command ↔ Char.ofNat byte.toNat = command.toChar := by
  constructor
  · intro found
    unfold Command.ofByte? at found
    repeat' split at found
    all_goals first
      | (cases found; subst_vars; rfl)
      | cases found
  · intro same
    have code : UInt8.ofNat command.toChar.toNat = byte := by
      rw [← same, toNat_ofNat_byte]
      exact UInt8.ofNat_toNat
    rw [← code]
    exact Command.ofByte?_ofChar command

theorem Command.ofByte?_eq_ofChar? (byte : UInt8) :
    Command.ofByte? byte = Command.ofChar? (Char.ofNat byte.toNat) := by
  ext command
  rw [Command.ofByte?_eq_some_iff, Command.ofChar?_eq_some_iff]

private theorem map_toChar_ofChar? (character : Char) :
    (Command.ofChar? character).map Command.toChar =
      Option.guard isCommand character := by
  unfold Option.guard isCommand
  cases found : Command.ofChar? character with
  | none => rfl
  | some command => simp [Command.toChar_of_ofChar? found]

/-- Bytes hold the commands of the text that they are in Latin-1. -/
theorem commandsOfBytes_eq_commandsOfText (data : List UInt8) :
    commandsOfBytes data = commandsOfText (Text.ofLatin1 data) := by
  unfold commandsOfBytes commandsOfText Text.ofLatin1
  rw [← List.filterMap_eq_filter, List.filterMap_map]
  congr 1
  funext byte
  rw [Command.ofByte?_eq_ofChar?, map_toChar_ofChar?]
  rfl

end Latin1

section Utf8

private theorem toNat_toChar_lt (command : Command) : command.toChar.toNat < 128 := by
  cases command <;> decide

private theorem isCommand_of_ge (beyond : 128 ≤ character.toNat) : isCommand character = false := by
  rw [Bool.eq_false_iff]
  intro isCommand
  obtain ⟨command, rfl⟩ := isCommand_iff_exists.mp isCommand
  have small := toNat_toChar_lt command
  omega

private theorem utf8EncodeChar_of_lt (ascii : character.toNat < 128) :
    String.utf8EncodeChar character = [UInt8.ofNat character.toNat] := by
  unfold String.utf8EncodeChar
  exact if_pos (Nat.le_of_lt_succ ascii)

private theorem le_toNat_ofNat {number : Nat} (least : 128 ≤ number) (isByte : number < 256) :
    128 ≤ (UInt8.ofNat number).toNat := by
  rw [UInt8.toNat_ofNat_of_lt' isByte]
  exact least

/-- Every byte of a character that is not ASCII has its highest bit set. -/
theorem le_of_mem_utf8EncodeChar
    (beyond : 128 ≤ character.toNat) (member : byte ∈ String.utf8EncodeChar character) :
    128 ≤ byte.toNat := by
  have notAscii : ¬ character.val.toNat ≤ 127 := Nat.not_le.mpr beyond
  unfold String.utf8EncodeChar at member
  simp only [if_neg notAscii] at member
  -- What follows the first byte holds six bits, and the first one what is left.
  split at member
  · simp only [List.mem_cons, List.not_mem_nil, or_false] at member
    rcases member with rfl | rfl
    all_goals exact le_toNat_ofNat (by omega) (by omega)
  · split at member
    · simp only [List.mem_cons, List.not_mem_nil, or_false] at member
      rcases member with rfl | rfl | rfl
      all_goals exact le_toNat_ofNat (by omega) (by omega)
    · simp only [List.mem_cons, List.not_mem_nil, or_false] at member
      rcases member with rfl | rfl | rfl | rfl
      all_goals exact le_toNat_ofNat (by omega) (by omega)

/-- The bytes of a character hold a command when the character is one. -/
theorem commandsOfBytes_utf8EncodeChar (character : Char) :
    commandsOfBytes (String.utf8EncodeChar character) = commandsOfText [character] := by
  by_cases ascii : character.toNat < 128
  · have isByte : character.toNat < 256 := by omega
    have same : Char.ofNat (UInt8.ofNat character.toNat).toNat = character := by
      rw [UInt8.toNat_ofNat_of_lt' isByte]
      exact Char.ofNat_toNat character
    rw [utf8EncodeChar_of_lt ascii, commandsOfBytes_eq_commandsOfText, Text.ofLatin1,
      List.map_singleton, same]
  · have beyond : 128 ≤ character.toNat := Nat.le_of_not_lt ascii
    have commentary : commandsOfText [character] = [] := by
      simp [commandsOfText, isCommand_of_ge beyond]
    rw [commentary, commandsOfBytes_eq_commandsOfText]
    apply List.filter_eq_nil_iff.mpr
    intro read member
    obtain ⟨byte, encoded, rfl⟩ := List.mem_map.mp member
    have high := le_of_mem_utf8EncodeChar beyond encoded
    rw [← toNat_ofNat_byte byte] at high
    rw [isCommand_of_ge high]
    exact Bool.false_ne_true

theorem utf8Bytes_eq_flatMap (text : String) :
    utf8Bytes text = text.toList.flatMap String.utf8EncodeChar := by
  unfold utf8Bytes
  rw [String.toUTF8_eq_toByteArray, ← String.utf8Encode_toList]
  exact List.toList_data_toByteArray

private theorem commandsOfBytes_flatMap (text : List Char) :
    commandsOfBytes (text.flatMap String.utf8EncodeChar) = commandsOfText text := by
  induction text with
  | nil => rfl
  | cons character rest ih =>
      have split : character :: rest = [character] ++ rest := rfl
      rw [List.flatMap_cons, commandsOfBytes_append, commandsOfBytes_utf8EncodeChar, ih,
        split, commandsOfText_append]

/-- A text and its bytes in UTF-8 hold the same commands. -/
theorem commandsOfBytes_utf8Bytes (text : String) :
    commandsOfBytes (utf8Bytes text) = commandsOfText text.toList := by
  rw [utf8Bytes_eq_flatMap, commandsOfBytes_flatMap]

end Utf8

section Programs

variable {program : Program}

private theorem Source.exists_toList_program (source : Source) :
    ∃ text, source.program.toList = commandsOfText text := by
  cases source with
  | text characters => exact ⟨characters.toList, rfl⟩
  | bytes data => exact ⟨Text.ofLatin1 data, commandsOfBytes_eq_commandsOfText data⟩

theorem Source.commandsOfText_program (source : Source) :
    commandsOfText source.program.toList = source.program.toList := by
  obtain ⟨text, kept⟩ := source.exists_toList_program
  rw [kept, commandsOfText_idempotent]

theorem toBytes_eq_utf8Bytes (ascii : ∀ character ∈ program.toList, character.toNat < 128) :
    program.toBytes = utf8Bytes program.toText := by
  unfold Program.toBytes Program.toText
  rw [utf8Bytes_eq_flatMap, String.toList_ofList, List.map_eq_flatMap]
  apply List.flatMap_congr
  intro character member
  exact (utf8EncodeChar_of_lt (ascii character member)).symm

theorem Source.toNat_lt_of_mem_program (source : Source) :
    ∀ character ∈ source.program.toList, character.toNat < 128 := by
  intro character member
  rw [← source.commandsOfText_program] at member
  obtain ⟨command, rfl⟩ := isCommand_iff_exists.mp (List.mem_filter.mp member).2
  exact toNat_toChar_lt command

/-- A text and its bytes hold the same program, and so do bytes and the text that they are
in Latin-1: the commands in their order.  The program of two sources, one behind the other,
is that of the first and then that of the second, even if a character is cut in two, and a
program that is reduced again, as a text or as its ASCII bytes, is left as it is. -/
theorem text_and_bytes_hold_same_program :
    (∀ text : String,
      (Source.text text).program = (Source.bytes (utf8Bytes text)).program ∧
      KeepsCommands text.toList (Source.text text).program.toList) ∧
    (∀ data : List UInt8,
      (Source.bytes data).program =
        (Source.text (String.ofList (Text.ofLatin1 data))).program ∧
      KeepsCommands (Text.ofLatin1 data) (Source.bytes data).program.toList) ∧
    (∀ first second : String,
      (Source.text (first ++ second)).program =
        (Source.text first).program ++ (Source.text second).program) ∧
    (∀ first second : List UInt8,
      (Source.bytes (first ++ second)).program =
        (Source.bytes first).program ++ (Source.bytes second).program) ∧
    (∀ (text : String) (count : Nat),
      (Source.text text).program =
        (Source.bytes ((utf8Bytes text).take count)).program ++
          (Source.bytes ((utf8Bytes text).drop count)).program) ∧
    ∀ source : Source,
      (Source.text source.program.toText).program = source.program ∧
      source.program.toBytes = utf8Bytes source.program.toText ∧
      (Source.bytes source.program.toBytes).program = source.program := by
  have encoded : ∀ text : String,
      (Source.text text).program = (Source.bytes (utf8Bytes text)).program := by
    intro text
    exact congrArg List.toArray (commandsOfBytes_utf8Bytes text).symm
  have joined : ∀ first second : List UInt8, (Source.bytes (first ++ second)).program =
      (Source.bytes first).program ++ (Source.bytes second).program := by
    intro first second
    simp [Source.program, commandsOfBytes_append]
  refine ⟨?_, ?_, ?_, joined, ?_, ?_⟩
  · intro text
    exact ⟨encoded text, keepsCommands_commandsOfText text.toList⟩
  · intro data
    have decoded := commandsOfBytes_eq_commandsOfText data
    refine ⟨?_, ?_⟩
    · simp [Source.program, decoded]
    · rw [Source.program, decoded]
      exact keepsCommands_commandsOfText _
  · intro first second
    simp [Source.program, commandsOfText_append]
  · intro text count
    rw [← joined, List.take_append_drop]
    exact encoded text
  · intro source
    have again : (Source.text source.program.toText).program = source.program := by
      have reduced : (Source.text source.program.toText).program =
          (commandsOfText source.program.toList).toArray := by
        simp [Source.program, Program.toText]
      rw [reduced, source.commandsOfText_program]
    have bytes := toBytes_eq_utf8Bytes source.toNat_lt_of_mem_program
    refine ⟨again, bytes, ?_⟩
    rw [bytes, ← encoded]
    exact again

end Programs

end Brainfuck
