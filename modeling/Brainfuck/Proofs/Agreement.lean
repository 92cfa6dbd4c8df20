import Brainfuck.Proofs.FaultFree
import Brainfuck.Proofs.Lockstep
import Brainfuck.Proofs.Step

/-!
# Machines that agree

The tape and the control of a run see the streams through the answers of a few
calls.  Two machines agree on a relation of streams when these calls have the
same answers on related streams and leave them related; their instructions then
have the same effect on the tape, and runs of one program stay together.

`Streams.Parallel` is the relation for streams that do not fail: the same input
is left on both, and the same things happened on both since a start that need
not be the same.
-/

namespace Brainfuck

/-- Two calls have the same answer and leave related streams. -/
structure SameAnswer {Answer : Type} (Alike : Streams → Streams → Prop)
    (first second : Answer × Streams) : Prop where
  answer_eq : first.1 = second.1
  streams : Alike first.2 second.2

theorem SameAnswer.exists_eq
    {Answer : Type} {Alike : Streams → Streams → Prop} {first second : Answer × Streams}
    (same : SameAnswer Alike first second) :
    ∃ answer left right, first = (answer, left) ∧ second = (answer, right) ∧ Alike left right := by
  obtain ⟨answer, left⟩ := first
  obtain ⟨answer', right⟩ := second
  obtain ⟨rfl, alike⟩ := same
  exact ⟨answer, left, right, rfl, rfl, alike⟩

inductive Effect.Same (Alike : Streams → Streams → Prop) : Effect → Effect → Prop where
  | done {tape : Tape} {left right : Streams} :
      Alike left right → Effect.Same Alike (.done tape left) (.done tape right)
  | strayed {tape : Tape} {left right : Streams} :
      Alike left right → Effect.Same Alike (.strayed tape left) (.strayed tape right)
  | failed {failure : Failure} {tape : Tape} {left right : Streams} :
      Alike left right → Effect.Same Alike (.failed failure tape left) (.failed failure tape right)

structure State.Same (Alike : Streams → Streams → Prop) (left right : State) : Prop where
  index_eq : left.index = right.index
  loops_eq : left.loops = right.loops
  steps_eq : left.steps = right.steps
  tape_eq : left.tape = right.tape
  streams : Alike left.streams right.streams

theorem State.Same.withStreams
    {Alike Alike' : Streams → Streams → Prop} {left right : State}
    (same : State.Same Alike left right) {streams streams' : Streams}
    (alike : Alike' streams streams') :
    State.Same Alike' { left with streams := streams } { right with streams := streams' } :=
  ⟨same.index_eq, same.loops_eq, same.steps_eq, same.tape_eq, alike⟩

namespace Machine

def command? (machine : Machine) (index : Nat) : Option Command :=
  machine.program[index]?.bind Command.ofChar?

/-- What a read would store, and the streams afterwards. -/
def taken (machine : Machine) (streams : Streams) : Except StreamFault (Option UInt8) × Streams :=
  ((machine.fetch streams).1.map machine.stored?, (machine.fetch streams).2)

/-- The calls of two machines have the same answers on related streams. -/
structure Agree (first second : Machine) (Alike : Streams → Streams → Prop) : Prop where
  size_eq : first.size = second.size
  asked : ∀ left right, Alike left right →
    SameAnswer Alike ((left.ask first.options.prompt).flush first.schedule)
      ((right.ask second.options.prompt).flush second.schedule)
  taken : ∀ left right, Alike left right → SameAnswer Alike (first.taken left) (second.taken right)
  wrote : ∀ left right byte, Alike left right →
    SameAnswer Alike (left.write first.schedule byte) (right.write second.schedule byte)
  readFailed : ∀ left right pointer reason, Alike left right →
    Alike (left.log (.readFailed pointer reason)) (right.log (.readFailed pointer reason))

variable {first second : Machine} {Alike : Streams → Streams → Prop} {left right : Streams}

section Effects

theorem modify_same (alike : Alike left right) (change : UInt8 → UInt8) (tape : Tape) :
    Effect.Same Alike (modify change tape left) (modify change tape right) := by
  unfold modify
  split
  · exact .failed alike
  · exact .done alike

theorem store_same (alike : Alike left right) (value : Option UInt8) (tape : Tape) :
    Effect.Same Alike (store value tape left) (store value tape right) := by
  cases value with
  | none => exact .done alike
  | some value =>
      apply modify_same
      exact alike

theorem moveLeft_same (alike : Alike left right) (tape : Tape) :
    Effect.Same Alike (moveLeft tape left) (moveLeft tape right) := by
  unfold moveLeft
  split
  · exact .strayed alike
  · exact .done alike

theorem moveRight_same
    (sizes : first.size = second.size) (alike : Alike left right) (tape : Tape) :
    Effect.Same Alike (first.moveRight tape left) (second.moveRight tape right) := by
  unfold Machine.moveRight
  rw [sizes]
  split
  · exact .strayed alike
  · exact .done alike

theorem write_same
    (wrote : ∀ byte,
      SameAnswer Alike (left.write first.schedule byte) (right.write second.schedule byte))
    (alike : Alike left right) (tape : Tape) :
    Effect.Same Alike (first.write tape left) (second.write tape right) := by
  unfold Machine.write
  cases tape.current? with
  | none => exact .failed alike
  | some value =>
      obtain ⟨answers, further⟩ := wrote value
      dsimp only
      generalize left.write first.schedule value = wrote at answers further ⊢
      generalize right.write second.schedule value = wrote' at answers further ⊢
      obtain ⟨answer, left'⟩ := wrote
      obtain ⟨answer', right'⟩ := wrote'
      cases answers
      rcases answer with ⟨reason | reason⟩ | _
      · exact .failed further
      · exact .failed further
      · exact .done further

variable (agree : Agree first second Alike)

include agree

theorem Agree.read (alike : Alike left right) (tape : Tape) :
    Effect.Same Alike (first.read tape left) (second.read tape right) := by
  unfold Machine.read
  obtain ⟨answers, asked⟩ := agree.asked left right alike
  generalize (left.ask first.options.prompt).flush first.schedule = flushed
    at answers asked ⊢
  generalize (right.ask second.options.prompt).flush second.schedule = flushed'
    at answers asked ⊢
  obtain ⟨answer, left'⟩ := flushed
  obtain ⟨answer', right'⟩ := flushed'
  cases answers
  rcases answer with reason | _
  · exact .failed asked
  · obtain ⟨values, fetched⟩ := agree.taken left' right' asked
    dsimp only [Machine.taken] at values fetched ⊢
    generalize first.fetch left' = got at values fetched ⊢
    generalize second.fetch right' = got' at values fetched ⊢
    obtain ⟨value, left''⟩ := got
    obtain ⟨value', right''⟩ := got'
    cases value with
    | error fault =>
        cases value' with
        | error fault' =>
            cases values
            cases fault with
            | device reason => exact .done (agree.readFailed left'' right'' _ _ fetched)
            | other reason => exact .failed fetched
        | ok _ => cases values
    | ok byte =>
        cases value' with
        | error _ => cases values
        | ok byte' =>
            have stored : first.stored? byte = second.stored? byte' := by
              simpa [Except.map] using values
            dsimp only
            rw [stored]
            apply store_same
            exact fetched

theorem Agree.effect (alike : Alike left right) (command : Option Command) (tape : Tape) :
    Effect.Same Alike (first.effect command tape left) (second.effect command tape right) := by
  unfold Machine.effect
  split
  · exact moveRight_same agree.size_eq alike tape
  · exact moveLeft_same alike tape
  · exact modify_same alike _ tape
  · exact modify_same alike _ tape
  · exact write_same (fun byte => agree.wrote left right byte alike) alike tape
  · exact agree.read alike tape
  · exact .done alike

end Effects

section Steps

variable {index steps : Nat} {loops : List Nat} {tape : Tape}

theorem same_of_alike (alike : Alike left right) :
    State.Same Alike ⟨index, loops, steps, tape, left⟩ ⟨index, loops, steps, tape, right⟩ :=
  ⟨rfl, rfl, rfl, rfl, alike⟩

private theorem resume_same
    (programs : first.program = second.program) (sizes : first.size = second.size)
    {effect effect' : Effect} (same : Effect.Same Alike effect effect')
    (index : Nat) (loops : List Nat) (steps : Nat) :
    Step.Related Eq (State.Same Alike) (first.resume index loops steps effect)
      (second.resume index loops steps effect') := by
  cases same with
  | done alike =>
      apply Step.Related.next
      exact same_of_alike alike
  | strayed alike =>
      apply Step.Related.failed
      · simp [offTape, programs, sizes]
      · exact same_of_alike alike
  | failed alike =>
      apply Step.Related.failed
      · rfl
      · exact same_of_alike alike

private theorem enterLoop_same (programs : first.program = second.program)
    (alike : Alike left right) :
    Step.Related Eq (State.Same Alike) (first.enterLoop ⟨index, loops, steps, tape, left⟩)
      (second.enterLoop ⟨index, loops, steps, tape, right⟩) := by
  unfold Machine.enterLoop
  dsimp only [State.noCell]
  rw [programs]
  split
  · exact .failed rfl (same_of_alike alike)
  · split
    · split
      · exact .next (same_of_alike alike)
      · exact .failed rfl (same_of_alike alike)
    · exact .next (same_of_alike alike)

private theorem repeatLoop_same (programs : first.program = second.program)
    (alike : Alike left right) :
    Step.Related Eq (State.Same Alike) (first.repeatLoop ⟨index, loops, steps, tape, left⟩)
      (second.repeatLoop ⟨index, loops, steps, tape, right⟩) := by
  unfold Machine.repeatLoop
  dsimp only [State.noCell]
  rw [programs]
  split
  · exact .failed rfl (same_of_alike alike)
  · split
    · exact .failed rfl (same_of_alike alike)
    · split
      · exact .next (same_of_alike alike)
      · exact .next (same_of_alike alike)

/-- One step of two machines goes the same way when the command that it is about
has the same effect, even if the streams are related in another way afterwards. -/
theorem step_same
    {Alike' : Streams → Streams → Prop} (programs : first.program = second.program)
    (sizes : first.size = second.size) {state state' : State} (same : State.Same Alike state state')
    (effects : Effect.Same Alike'
      (first.effect (first.command? state.index) state.tape state.streams)
      (second.effect (first.command? state.index) state.tape state'.streams)) :
    Step.Related Eq (State.Same Alike') (first.step state) (second.step state') := by
  obtain ⟨index, loops, steps, tape, left⟩ := state
  obtain ⟨index', loops', steps', tape', right⟩ := state'
  obtain ⟨indices, openings, counts, tapes, _⟩ := same
  cases indices
  cases openings
  cases counts
  cases tapes
  unfold Machine.step
  unfold Machine.command? at effects
  rw [programs] at effects ⊢
  dsimp only at effects ⊢
  cases found : second.program[index]? with
  | none =>
      rw [found] at effects
      cases effects with
      | done alike => exact .ended (same_of_alike alike)
  | some character =>
      rw [found, Option.bind_some] at effects
      dsimp only
      generalize Command.ofChar? character = command at effects ⊢
      split
      · cases effects with
        | done alike => exact enterLoop_same programs alike
      · cases effects with
        | done alike => exact repeatLoop_same programs alike
      · exact resume_same programs sizes effects index loops steps

theorem Agree.step
    (agree : Agree first second Alike) (programs : first.program = second.program)
    {state state' : State} (same : State.Same Alike state state') :
    Step.Related Eq (State.Same Alike) (first.step state) (second.step state') := by
  apply step_same programs agree.size_eq same
  exact agree.effect same.streams _ state.tape

end Steps

section Ends

private theorem report_same
    (logged : ∀ left right entry, Alike left right → Alike (left.log entry) (right.log entry))
    {state state' : State} (same : State.Same Alike state state') :
    State.Same Alike (report state) (report state') := by
  unfold report
  apply same.withStreams
  rw [same.loops_eq, same.steps_eq, same.tape_eq]
  apply logged
  cases state'.loops with
  | nil => exact same.streams
  | cons innermost outer => exact logged _ _ _ same.streams

theorem finish_same
    (logged : ∀ left right entry, Alike left right → Alike (left.log entry) (right.log entry))
    (flushed : ∀ left right, Alike left right →
      SameAnswer Alike (left.flush first.schedule) (right.flush second.schedule))
    {halt halt' : Halt} (same : Halt.Related Eq (State.Same Alike) halt halt') :
    Halt.Related Eq (State.Same Alike) (first.finish halt) (second.finish halt') := by
  obtain ⟨failure, state⟩ := halt
  obtain ⟨failure', state'⟩ := halt'
  obtain ⟨failures, states⟩ := same
  obtain ⟨answers, further⟩ := flushed _ _ states.streams
  unfold finish
  dsimp only at answers further states failures ⊢
  generalize state.streams.flush first.schedule = outcome at answers further ⊢
  generalize state'.streams.flush second.schedule = outcome' at answers further ⊢
  obtain ⟨answer, left⟩ := outcome
  obtain ⟨answer', right⟩ := outcome'
  cases answers
  have afterFlush := states.withStreams further
  rcases answer with reason | _
  · exact ⟨.some rfl, afterFlush⟩
  · cases failures with
    | none => exact ⟨.none, report_same logged afterFlush⟩
    | some same => exact ⟨.some same, afterFlush⟩

end Ends

end Machine

namespace Streams

/-- The same input is left on two streams, and the same things happened on them
since they were as at the start. -/
structure Parallel (start start' left right : Streams) : Prop where
  input_eq : left.input = right.input
  events_eq : ∃ since, left.events = start.events ++ since ∧ right.events = start'.events ++ since

namespace Parallel

variable {start start' left right : Streams}

theorem refl (inputs : start.input = start'.input) : Parallel start start' start start' :=
  ⟨inputs, [], by simp, by simp⟩

theorem record (parallel : Parallel start start' left right) (event : Event) :
    Parallel start start' (left.record event) (right.record event) := by
  obtain ⟨inputs, since, leftEvents, rightEvents⟩ := parallel
  refine ⟨inputs, since ++ [event], ?_, ?_⟩
  · simp [leftEvents]
  · simp [rightEvents]

theorem bump (parallel : Parallel start start' left right) (kind : StreamCall) :
    Parallel start start' { left with counts := left.counts.bump kind }
      { right with counts := right.counts.bump kind } :=
  ⟨parallel.input_eq, parallel.events_eq⟩

theorem withInput (parallel : Parallel start start' left right) (rest : List UInt8) :
    Parallel start start' { left with input := rest } { right with input := rest } :=
  ⟨rfl, parallel.events_eq⟩

theorem ask (parallel : Parallel start start' left right) (prompt : Option String) :
    Parallel start start' (left.ask prompt) (right.ask prompt) := by
  cases prompt with
  | none => exact parallel
  | some text =>
      apply record
      exact parallel.record _

theorem flush (parallel : Parallel start start' left right) :
    SameAnswer (Parallel start start') (left.flush .none) (right.flush .none) :=
  ⟨rfl, (parallel.bump .flush).record .flush⟩

theorem write (parallel : Parallel start start' left right) (byte : UInt8) :
    SameAnswer (Parallel start start') (left.write .none byte) (right.write .none byte) :=
  ⟨rfl, (parallel.bump .write).record (.write byte)⟩

theorem read (parallel : Parallel start start' left right) :
    SameAnswer (Parallel start start') (left.read .none) (right.read .none) := by
  unfold Streams.read
  rw [call_none, call_none]
  dsimp only
  rw [parallel.input_eq]
  cases right.input with
  | nil => exact ⟨rfl, ((parallel.bump .read).withInput []).record (.read none)⟩
  | cons byte rest =>
      exact ⟨rfl, ((parallel.bump .read).withInput rest).record (.read (some byte))⟩

theorem readLine (parallel : Parallel start start' left right) :
    SameAnswer (Parallel start start') (left.readLine .none) (right.readLine .none) := by
  unfold Streams.readLine
  rw [call_none, call_none]
  dsimp only
  rw [parallel.input_eq]
  exact ⟨rfl, ((parallel.bump .readLine).withInput _).record _⟩

theorem fetch
    (parallel : Parallel start start' left right) {first second : Machine}
    (faultless : first.schedule = .none) (faultless' : second.schedule = .none)
    (options : first.options = second.options) :
    SameAnswer (Parallel start start') (first.fetch left) (second.fetch right) := by
  unfold Machine.fetch
  rw [faultless, faultless', options]
  obtain ⟨answers, further⟩ := parallel.read
  generalize left.read .none = got at answers further ⊢
  generalize right.read .none = got' at answers further ⊢
  obtain ⟨answer, left'⟩ := got
  obtain ⟨answer', right'⟩ := got'
  cases answers
  rcases answer with fault | _ | byte
  · exact ⟨rfl, further⟩
  · exact ⟨rfl, further⟩
  · dsimp only
    split
    · exact ⟨rfl, further.readLine.streams⟩
    · exact ⟨rfl, further⟩

/-- What happened before does not matter to machines on streams that do not
fail. -/
theorem agree
    {first second : Machine} (sizes : first.size = second.size)
    (options : first.options = second.options) (faultless : first.schedule = .none)
    (faultless' : second.schedule = .none) :
    first.Agree second (Parallel start start') where
  size_eq := sizes
  asked := by
    intro left right parallel
    rw [options, faultless, faultless']
    exact (parallel.ask _).flush
  taken := by
    intro left right parallel
    obtain ⟨answers, further⟩ := parallel.fetch faultless faultless' options
    refine ⟨?_, further⟩
    simp only [Machine.taken, answers]
    congr 1
    funext byte
    simp [Machine.stored?, options]
  wrote := by
    intro left right byte parallel
    rw [faultless, faultless']
    exact parallel.write byte
  readFailed := by
    intro left right pointer reason parallel
    exact parallel.record _

theorem output_eq
    (parallel : Parallel start start' left right) (outputs : start.output = start'.output) :
    left.output = right.output := by
  obtain ⟨_, since, leftEvents, rightEvents⟩ := parallel
  unfold Streams.output at outputs ⊢
  rw [leftEvents, rightEvents, outputOf_append, outputOf_append, outputs]

end Parallel

end Streams

end Brainfuck
