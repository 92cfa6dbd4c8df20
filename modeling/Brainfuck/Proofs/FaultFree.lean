import Brainfuck.Machine
import Brainfuck.Structured

/-!
# Instructions on streams that do not fail

When no call fails, an instruction depends on the tape, on what is left of the
input and on the options only.  `Shows` forgets everything else about the
streams, and `effect_mirrors` reads the instructions as actions on worlds.
-/

namespace Brainfuck

/-- The streams have the input and the output of a world. -/
structure Streams.Shows (streams : Streams) (input emitted : List UInt8) : Prop where
  input_eq : streams.input = input
  output_eq : streams.output = emitted.reverse

/-- The pointer of a world is at one of its `size` cells. -/
structure World.Fits (size : Nat) (world : World) : Prop where
  cells : world.tape.cells.size = size
  pointer : world.tape.pointer < size

namespace Streams

variable {streams : Streams} {input emitted : List UInt8}

theorem call_none (kind : StreamCall) (streams : Streams) :
    streams.call .none kind = (none, { streams with counts := streams.counts.bump kind }) := rfl

theorem Shows.bump (shows : Shows streams input emitted) (kind : StreamCall) :
    Shows { streams with counts := streams.counts.bump kind } input emitted :=
  ⟨shows.input_eq, shows.output_eq⟩

theorem Shows.record
    (shows : Shows streams input emitted) (event : Event) (silent : event.outputByte? = none) :
    Shows (streams.record event) input emitted where
  input_eq := shows.input_eq
  output_eq := by simpa [silent] using shows.output_eq

theorem Shows.withInput (shows : Shows streams input emitted) (rest : List UInt8) :
    Shows { streams with input := rest } rest emitted :=
  ⟨rfl, shows.output_eq⟩

theorem Shows.ask (shows : Shows streams input emitted) (prompt : Option String) :
    Shows (streams.ask prompt) input emitted := by
  cases prompt with
  | none => exact shows
  | some text => exact (shows.record _ rfl).record _ rfl

theorem Shows.flush (shows : Shows streams input emitted) :
    ∃ flushed, streams.flush .none = (.ok (), flushed) ∧ Shows flushed input emitted :=
  ⟨_, rfl, (shows.bump .flush).record _ rfl⟩

theorem Shows.write (shows : Shows streams input emitted) (byte : UInt8) :
    ∃ written, streams.write .none byte = (.ok (), written) ∧
      Shows written input (byte :: emitted) := by
  refine ⟨_, rfl, shows.input_eq, ?_⟩
  have before := (shows.bump .write).output_eq
  simp [before, Event.outputByte?]

theorem Shows.read_nil (shows : Shows streams [] emitted) :
    ∃ left, streams.read .none = (.ok none, left) ∧ Shows left [] emitted := by
  refine ⟨_, ?_, (shows.bump .read).record (.read none) rfl⟩
  simp [Streams.read, call_none, shows.input_eq]

theorem Shows.read_cons
    {byte : UInt8} {rest : List UInt8} (shows : Shows streams (byte :: rest) emitted) :
    ∃ left, streams.read .none = (.ok (some byte), left) ∧ Shows left rest emitted := by
  refine ⟨_, ?_, ((shows.bump .read).withInput rest).record (.read (some byte)) rfl⟩
  simp [Streams.read, call_none, shows.input_eq]

theorem Shows.readLine (shows : Shows streams input emitted) :
    ∃ left, streams.readLine .none = (.ok (), left) ∧
      Shows left (splitLine input).2 emitted := by
  refine ⟨_, ?_, ((shows.bump .readLine).withInput (splitLine input).2).record
    (.readLine (splitLine input).1) rfl⟩
  simp [Streams.readLine, call_none, shows.input_eq]

end Streams

namespace Machine

variable {machine : Machine} {streams : Streams} {input emitted : List UInt8}

section Fetch

variable (faultless : machine.schedule = .none)

include faultless

theorem fetch_nil (shows : streams.Shows [] emitted) :
    ∃ left, machine.fetch streams = (.ok none, left) ∧ left.Shows [] emitted := by
  obtain ⟨left, readEq, leftShows⟩ := shows.read_nil
  exact ⟨left, by simp [fetch, faultless, readEq], leftShows⟩

theorem fetch_cons
    {byte : UInt8} {rest : List UInt8} (shows : streams.Shows (byte :: rest) emitted) :
    ∃ left, machine.fetch streams = (.ok (some byte), left) ∧
      left.Shows (World.inputAfter machine.options.inputMode byte rest) emitted := by
  obtain ⟨left, readEq, leftShows⟩ := shows.read_cons
  cases mode : machine.options.inputMode with
  | byte => exact ⟨left, by simp [fetch, faultless, readEq, mode], leftShows⟩
  | line =>
      by_cases isNewline : byte = Streams.newline
      · refine ⟨left, by simp [fetch, faultless, readEq, isNewline], ?_⟩
        simpa [World.inputAfter, isNewline] using leftShows
      · obtain ⟨drained, lineEq, drainedShows⟩ := leftShows.readLine
        refine ⟨drained, ?_, ?_⟩
        · simp [fetch, faultless, readEq, mode, isNewline, lineEq]
        · simpa [World.inputAfter, isNewline] using drainedShows

/-- Prompt and flush are not seen in what a read stores. -/
theorem read_of_fetch
    (tape : Tape) (shows : streams.Shows input emitted) :
    ∃ asked, asked.Shows input emitted ∧ ∀ byte left, machine.fetch asked = (.ok byte, left) →
      machine.read tape streams = store (machine.stored? byte) tape left := by
  obtain ⟨asked, flushEq, askedShows⟩ := (shows.ask machine.options.prompt).flush
  refine ⟨asked, askedShows, ?_⟩
  intro byte left fetchEq
  simp [read, faultless, flushEq, fetchEq]

end Fetch

end Machine

namespace World

variable {world : World} {size : Nat}

theorem Fits.current?_eq (fits : world.Fits size) :
    world.tape.current? = some world.current := by
  have inside : world.tape.pointer < world.tape.cells.size := fits.cells.symm ▸ fits.pointer
  simp [current, Tape.current?, inside]

theorem Fits.put (fits : world.Fits size) (value : UInt8) : (world.put value).Fits size where
  cells := (Tape.size_put world.tape value).trans fits.cells
  pointer := fits.pointer

def initial (size : Nat) (input : List UInt8) : World := ⟨.blank size, input, []⟩

theorem fits_initial (nonempty : 1 ≤ size) (input : List UInt8) :
    (initial size input).Fits size where
  cells := Array.size_replicate
  pointer := nonempty

end World

namespace Machine

variable {machine : Machine} {streams : Streams} {world : World} {size : Nat}

/-- An instruction leaves what the action on worlds leaves, or both stray. -/
inductive Mirrors (size : Nat) : Effect → Option World → Prop where
  | done {tape : Tape} {streams : Streams} {world : World} :
      world.tape = tape → streams.Shows world.input world.emitted → world.Fits size →
      Mirrors size (.done tape streams) (some world)
  | strayed {tape : Tape} {streams : Streams} : Mirrors size (.strayed tape streams) none

private theorem modify_mirrors
    (shows : streams.Shows world.input world.emitted) (fits : world.Fits size)
    (change : UInt8 → UInt8) :
    Mirrors size (modify change world.tape streams) (some (world.put (change world.current))) := by
  rw [modify, fits.current?_eq]
  exact .done rfl shows (fits.put _)

private theorem write_mirrors
    (faultless : machine.schedule = .none)
    (shows : streams.Shows world.input world.emitted) (fits : world.Fits size) :
    Mirrors size (machine.write world.tape streams)
      (some { world with emitted := world.current :: world.emitted }) := by
  obtain ⟨written, writeEq, writtenShows⟩ := shows.write world.current
  rw [write, fits.current?_eq]
  simp only [faultless, writeEq]
  exact .done rfl writtenShows ⟨fits.cells, fits.pointer⟩

/-- At the end of the input a read stores what the policy asks for. -/
theorem store_mirrors_eof
    (atEnd : world.input = []) (shows : streams.Shows [] world.emitted)
    (fits : world.Fits size) :
    Mirrors size (store (machine.stored? none) world.tape streams)
      (some (world.read machine.options)) := by
  have shows' : streams.Shows world.input world.emitted := atEnd.symm ▸ shows
  unfold World.read stored?
  rw [atEnd]
  cases machine.options.eof with
  | zero => exact modify_mirrors shows' fits _
  | unchanged => exact .done rfl shows' fits
  | max => exact modify_mirrors shows' fits _

private theorem read_mirrors
    (faultless : machine.schedule = .none)
    (shows : streams.Shows world.input world.emitted) (fits : world.Fits size) :
    Mirrors size (machine.read world.tape streams) (some (world.read machine.options)) := by
  obtain ⟨asked, askedShows, readEq⟩ := read_of_fetch faultless world.tape shows
  cases input : world.input with
  | nil =>
      rw [input] at askedShows
      obtain ⟨left, fetchEq, leftShows⟩ := fetch_nil faultless askedShows
      rw [readEq none left fetchEq]
      exact store_mirrors_eof input leftShows fits
  | cons byte rest =>
      rw [input] at askedShows
      obtain ⟨left, fetchEq, leftShows⟩ := fetch_cons faultless askedShows
      rw [readEq (some byte) left fetchEq]
      simp only [World.read, input, stored?, store, modify, fits.current?_eq]
      exact .done rfl leftShows ⟨(fits.put byte).cells, fits.pointer⟩

theorem effect_mirrors
    (faultless : machine.schedule = .none) (sized : machine.size = size)
    (shows : streams.Shows world.input world.emitted) (fits : world.Fits size)
    (character : Char) :
    Mirrors size (machine.effect (Command.ofChar? character) world.tape streams)
      (world.act size machine.options character) := by
  unfold World.act
  generalize Command.ofChar? character = command
  match command with
  | some .right =>
      simp only [effect, moveRight, sized]
      by_cases inside : world.tape.pointer + 1 < size
      · have room : ¬ (size : Int) - 1 ≤ world.tape.pointer := by omega
        rw [if_neg room, if_pos inside]
        exact .done rfl shows ⟨fits.cells, inside⟩
      · have last : (size : Int) - 1 ≤ world.tape.pointer := by omega
        rw [if_pos last, if_neg inside]
        exact .strayed
  | some .left =>
      simp only [effect, moveLeft]
      by_cases inside : 0 < world.tape.pointer
      · rw [if_neg (Nat.ne_of_gt inside), if_pos inside]
        exact .done rfl shows ⟨fits.cells, Nat.lt_of_le_of_lt (Nat.sub_le _ 1) fits.pointer⟩
      · rw [if_pos (Nat.eq_zero_of_not_pos inside), if_neg inside]
        exact .strayed
  | some .increment => exact modify_mirrors shows fits (· + 1)
  | some .decrement => exact modify_mirrors shows fits (· - 1)
  | some .write => exact write_mirrors faultless shows fits
  | some .read => exact read_mirrors faultless shows fits
  | some .loopStart => exact .done rfl shows fits
  | some .loopEnd => exact .done rfl shows fits
  | none => exact .done rfl shows fits

end Machine

end Brainfuck
