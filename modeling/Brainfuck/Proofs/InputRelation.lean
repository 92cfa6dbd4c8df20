import Brainfuck.Proofs.Agreement

/-!
# Runs on related inputs

On streams that do not fail a run sees its input through the values that its reads
store.  Two runs of a program stay together as long as their inputs are related in
a way that fixes what the next read stores and that this read keeps.  The machines
may read differently: in another mode, or with another policy for the end of the
input.
-/

namespace Brainfuck

/-- An event is neither a write nor a prompt nor an entry of the log. -/
structure Event.Hidden (event : Event) : Prop where
  silent : event.outputByte? = none
  unasked : event.promptText? = none
  unlogged : event.logEntry? = none

namespace Streams

/-- Two streams show the same output, the same prompts and the same log. -/
structure ShowSame (left right : Streams) : Prop where
  output_eq : left.output = right.output
  prompts_eq : left.prompts = right.prompts
  log_eq : logOf left.events = logOf right.events

/-- Two streams show the same, and what is left of their inputs is related. -/
structure Alongside (Inputs : List UInt8 → List UInt8 → Prop) (left right : Streams) : Prop
    extends ShowSame left right where
  inputs : Inputs left.input right.input

namespace ShowSame

variable {first second third left right : Streams}

theorem symm (same : ShowSame first second) : ShowSame second first :=
  ⟨same.output_eq.symm, same.prompts_eq.symm, same.log_eq.symm⟩

theorem trans (same : ShowSame first second) (same' : ShowSame second third) :
    ShowSame first third :=
  ⟨same.output_eq.trans same'.output_eq, same.prompts_eq.trans same'.prompts_eq,
    same.log_eq.trans same'.log_eq⟩

theorem record (same : ShowSame left right) (event : Event) :
    ShowSame (left.record event) (right.record event) where
  output_eq := by rw [output_record, output_record, same.output_eq]
  prompts_eq := by rw [prompts_record, prompts_record, same.prompts_eq]
  log_eq := by rw [events_record, events_record, logOf_append, logOf_append, same.log_eq]

theorem ask (same : ShowSame left right) (prompt : Option String) :
    ShowSame (left.ask prompt) (right.ask prompt) := by
  cases prompt with
  | none => exact same
  | some text =>
      apply record
      exact same.record _

end ShowSame

section Hidden

private theorem showSame_of_hidden
    {left right : Streams} {event : Event} (hidden : event.Hidden)
    (events : left.events = right.events ++ [event]) : ShowSame left right where
  output_eq := by simp [output, events, outputOf, hidden.silent]
  prompts_eq := by simp [prompts, events, promptsOf, hidden.unasked]
  log_eq := by simp [events, logOf, hidden.unlogged]

private theorem showSame_read (streams : Streams) : ShowSame (streams.read .none).2 streams := by
  unfold read
  rw [call_none]
  dsimp only
  cases streams.input with
  | nil => exact showSame_of_hidden ⟨rfl, rfl, rfl⟩ (events_record _ (.read none))
  | cons byte rest => exact showSame_of_hidden ⟨rfl, rfl, rfl⟩ (events_record _ (.read (some byte)))

private theorem showSame_readLine (streams : Streams) :
    ShowSame (streams.readLine .none).2 streams :=
  showSame_of_hidden ⟨rfl, rfl, rfl⟩ (events_record _ (.readLine (splitLine streams.input).1))

private theorem showSame_flush (streams : Streams) : ShowSame (streams.flush .none).2 streams :=
  showSame_of_hidden ⟨rfl, rfl, rfl⟩ (events_record _ .flush)

end Hidden

namespace Alongside

variable {Inputs : List UInt8 → List UInt8 → Prop} {left right : Streams}

theorem log (alongside : Alongside Inputs left right) (entry : LogEntry) :
    Alongside Inputs (left.log entry) (right.log entry) where
  toShowSame := alongside.toShowSame.record _
  inputs := alongside.inputs

theorem flush (alongside : Alongside Inputs left right) :
    SameAnswer (Alongside Inputs) (left.flush .none) (right.flush .none) := by
  refine ⟨rfl, ?_, alongside.inputs⟩
  exact ((showSame_flush left).trans alongside.toShowSame).trans (showSame_flush right).symm

theorem write (alongside : Alongside Inputs left right) (byte : UInt8) :
    SameAnswer (Alongside Inputs) (left.write .none byte) (right.write .none byte) := by
  refine ⟨rfl, ?_, alongside.inputs⟩
  have counted : ShowSame { left with counts := left.counts.bump .write }
      { right with counts := right.counts.bump .write } :=
    ⟨alongside.output_eq, alongside.prompts_eq, alongside.log_eq⟩
  exact counted.record _

end Alongside

end Streams

theorem State.Same.showSame
    {Inputs : List UInt8 → List UInt8 → Prop} {state state' : State}
    (same : State.Same (Streams.Alongside Inputs) state state') :
    State.Same Streams.ShowSame state state' :=
  same.withStreams same.streams.toShowSame

namespace Machine

def reliable (program : Program) (size : Nat) (options : Options) : Machine :=
  ⟨program, size, options, .none⟩

def inputLeft (machine : Machine) : List UInt8 → List UInt8
  | [] => []
  | byte :: rest => World.inputAfter machine.options.inputMode byte rest

/-- Two machines differ at most in how they read, and no call fails. -/
structure SameButReading (first second : Machine) : Prop where
  program_eq : first.program = second.program
  size_eq : first.size = second.size
  prompt_eq : first.options.prompt = second.options.prompt
  faultless : first.schedule = .none
  faultless' : second.schedule = .none

/-- A command leaves inputs related: when it is a read, which has to store the same
on both sides, what is left of them is. -/
def KeepsInputs (first second : Machine) (command : Option Command)
    (Inputs : List UInt8 → List UInt8 → Prop) (input input' : List UInt8) : Prop :=
  if command = some .read then
    first.stored? input.head? = second.stored? input'.head? ∧
      Inputs (first.inputLeft input) (second.inputLeft input')
  else Inputs input input'

variable {machine first second : Machine} {left right : Streams}
  {Inputs Inputs' : List UInt8 → List UInt8 → Prop}

section Reads

variable (faultless : machine.schedule = .none)

include faultless

theorem showSame_fetch (streams : Streams) : (machine.fetch streams).2.ShowSame streams := by
  unfold fetch
  rw [faultless]
  have shown := streams.showSame_read
  generalize streams.read .none = outcome at shown ⊢
  rcases outcome with ⟨fault | ⟨_ | byte⟩, left⟩
  · exact shown
  · exact shown
  · dsimp only at shown ⊢
    split
    · exact left.showSame_readLine.trans shown
    · exact shown

theorem fetch_eq (streams : Streams) :
    (machine.fetch streams).1 = .ok streams.input.head? ∧
      (machine.fetch streams).2.input = machine.inputLeft streams.input := by
  have shows : streams.Shows streams.input streams.output.reverse :=
    ⟨rfl, (List.reverse_reverse _).symm⟩
  cases input : streams.input with
  | nil =>
      rw [input] at shows
      obtain ⟨left, fetchEq, leftShows⟩ := fetch_nil faultless shows
      rw [fetchEq]
      exact ⟨rfl, leftShows.input_eq⟩
  | cons byte rest =>
      rw [input] at shows
      obtain ⟨left, fetchEq, leftShows⟩ := fetch_cons faultless shows
      rw [fetchEq]
      exact ⟨rfl, leftShows.input_eq⟩

/-- A read asks for input, and stores what it makes of the first byte of it. -/
theorem read_eq (tape : Tape) (streams : Streams) :
    ∃ left, machine.read tape streams = store (machine.stored? streams.input.head?) tape left ∧
      left.input = machine.inputLeft streams.input ∧
      left.ShowSame (streams.ask machine.options.prompt) := by
  have asksOnly : (streams.ask machine.options.prompt).input = streams.input := by
    cases machine.options.prompt <;> rfl
  obtain ⟨flushed, flushEq, flushedInput, flushedShows⟩ :
      ∃ flushed, (streams.ask machine.options.prompt).flush .none = (.ok (), flushed) ∧
        flushed.input = streams.input ∧ flushed.ShowSame (streams.ask machine.options.prompt) :=
    ⟨_, rfl, asksOnly, Streams.showSame_flush _⟩
  obtain ⟨answer, inputLeft⟩ := fetch_eq faultless flushed
  have shown := showSame_fetch faultless flushed
  rw [flushedInput] at answer inputLeft
  rw [read, faultless, flushEq]
  dsimp only
  generalize machine.fetch flushed = outcome at answer inputLeft shown ⊢
  obtain ⟨value, left⟩ := outcome
  cases answer
  exact ⟨left, rfl, inputLeft, shown.trans flushedShows⟩

end Reads

section Steps

variable (pair : SameButReading first second)

include pair

theorem read_alongside
    (alongside : left.Alongside Inputs right)
    (values : first.stored? left.input.head? = second.stored? right.input.head?)
    (inputs : Inputs' (first.inputLeft left.input) (second.inputLeft right.input)) (tape : Tape) :
    Effect.Same (Streams.Alongside Inputs') (first.read tape left) (second.read tape right) := by
  obtain ⟨left', leftEq, leftInput, leftShows⟩ := read_eq pair.faultless tape left
  obtain ⟨right', rightEq, rightInput, rightShows⟩ := read_eq pair.faultless' tape right
  have asked := alongside.toShowSame.ask second.options.prompt
  rw [pair.prompt_eq] at leftShows
  rw [← leftInput, ← rightInput] at inputs
  rw [leftEq, rightEq, values]
  apply store_same
  exact ⟨(leftShows.trans asked).trans rightShows.symm, inputs⟩

theorem effect_alongside
    {command : Option Command} (alongside : left.Alongside Inputs right)
    (keeps : KeepsInputs first second command Inputs' left.input right.input) (tape : Tape) :
    Effect.Same (Streams.Alongside Inputs') (first.effect command tape left)
      (second.effect command tape right) := by
  unfold KeepsInputs at keeps
  by_cases reads : command = some .read
  · rw [if_pos reads] at keeps
    rw [reads]
    exact read_alongside pair alongside keeps.1 keeps.2 tape
  · rw [if_neg reads] at keeps
    have still : left.Alongside Inputs' right := ⟨alongside.toShowSame, keeps⟩
    unfold effect
    split
    · exact moveRight_same pair.size_eq still tape
    · exact moveLeft_same still tape
    · exact modify_same still _ tape
    · exact modify_same still _ tape
    · apply write_same _ still
      intro byte
      rw [pair.faultless, pair.faultless']
      exact still.write byte
    · exact absurd rfl reads
    · exact .done still

theorem step_alongside
    {state state' : State} (same : State.Same (Streams.Alongside Inputs) state state')
    (keeps : KeepsInputs first second (first.command? state.index) Inputs' state.streams.input
      state'.streams.input) :
    Step.Related Eq (State.Same (Streams.Alongside Inputs')) (first.step state)
      (second.step state') := by
  apply step_same pair.program_eq pair.size_eq same
  exact effect_alongside pair same.streams keeps state.tape

theorem finish_alongside
    {halt halt' : Halt}
    (same : Halt.Related Eq (State.Same (Streams.Alongside Inputs)) halt halt') :
    Halt.Related Eq (State.Same (Streams.Alongside Inputs)) (first.finish halt)
      (second.finish halt') := by
  apply finish_same _ _ same
  · intro left right entry alongside
    exact alongside.log entry
  · intro left right alongside
    rw [pair.faultless, pair.faultless']
    exact alongside.flush

end Steps

theorem sameButReading_reliable
    (program : Program) (size : Nat) (options : Options) (eof eof' : EofPolicy)
    (mode mode' : InputMode) :
    SameButReading (reliable program size { options with eof := eof, inputMode := mode })
      (reliable program size { options with eof := eof', inputMode := mode' }) :=
  ⟨rfl, rfl, rfl, rfl, rfl⟩

theorem alongside_ofInput
    {input input' : List UInt8} (inputs : Inputs input input') (size : Nat) :
    State.Same (Streams.Alongside Inputs) (.initial size (.ofInput input))
      (.initial size (.ofInput input')) :=
  same_of_alike ⟨⟨rfl, rfl, rfl⟩, inputs⟩

end Machine

end Brainfuck
