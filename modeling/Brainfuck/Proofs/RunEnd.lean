import Brainfuck.Proofs.Step

/-!
# How a run ends

A run ends behind the program or at an instruction that fails, and what follows
then is a flush and the report.  Only this report writes summaries into the log:
the instructions act on the streams by a few calls, and what each of these calls
keeps is kept by every run.
-/

namespace Brainfuck

/-- The entry by which an event sums up a run. -/
def Event.summary? : Event → Option LogEntry
  | .log (.openLoops count) => some (.openLoops count)
  | .log (.finished steps pointer) => some (.finished steps pointer)
  | _ => none

def Streams.summaries (streams : Streams) : List LogEntry :=
  streams.events.filterMap Event.summary?

def Streams.openLoopWarnings (streams : Streams) : List Nat :=
  streams.summaries.filterMap fun
    | .openLoops count => some count
    | _ => none

/-- What the calls of a reading instruction keep. -/
structure Streams.ReadInvariant (options : Options) (schedule : FaultSchedule)
    (Holds : Streams → Prop) : Prop where
  ask : ∀ streams, Holds streams → Holds (streams.ask options.prompt)
  flush : ∀ streams, Holds streams → Holds (streams.flush schedule).2
  read : ∀ streams, Holds streams → Holds (streams.read schedule).2
  readLine : ∀ streams, Holds streams → Holds (streams.readLine schedule).2
  readFailed : ∀ streams pointer reason, Holds streams →
    Holds (streams.log (.readFailed pointer reason))

/-- What the calls of an instruction keep. -/
structure Streams.Invariant (options : Options) (schedule : FaultSchedule)
    (Holds : Streams → Prop) : Prop extends Streams.ReadInvariant options schedule Holds where
  write : ∀ streams byte, Holds streams → Holds (streams.write schedule byte).2

/-- What can happen while an instruction reads. -/
inductive Event.OfReading : Event → Prop where
  | read (byte : Option UInt8) : OfReading (.read byte)
  | readLine (bytes : List UInt8) : OfReading (.readLine bytes)
  | flush : OfReading .flush
  | failed (call : StreamCall) : OfReading (.failed call)
  | prompt (text : String) : OfReading (.prompt text)
  | promptFlush : OfReading .promptFlush
  | readFailed (pointer : Nat) (reason : String) : OfReading (.log (.readFailed pointer reason))
  | flushFailed (reason : String) : OfReading (.log (.flushFailed reason))

namespace Streams

section Events

variable (options : Options) (schedule : FaultSchedule) (Holds : List Event → Prop)
  (grows : ∀ events event, Event.OfReading event → Holds events → Holds (events ++ [event]))

include grows

theorem events_call (kind : StreamCall) (streams : Streams) (holds : Holds streams.events) :
    Holds (streams.call schedule kind).2.events := by
  unfold call
  split
  · rw [events_record]
    exact grows _ _ (.failed kind) holds
  · exact holds

/-- What holds of a history and of everything that a reading instruction adds to
it is kept by such an instruction. -/
theorem readInvariant_of_events :
    ReadInvariant options schedule fun streams => Holds streams.events := by
  have calls := events_call schedule Holds grows
  constructor
  · intro streams holds
    unfold ask
    split
    · rw [events_record, events_record]
      apply grows _ _ .promptFlush
      apply grows _ _ (.prompt _)
      exact holds
    · exact holds
  · intro streams holds
    have called := calls .flush streams holds
    unfold flush
    generalize streams.call schedule .flush = outcome at called ⊢
    rcases outcome with ⟨_ | ⟨reason | reason⟩, streams'⟩
    · rw [events_record]
      exact grows _ _ .flush called
    · simp only [log, events_record]
      exact grows _ _ (.flushFailed reason) called
    · exact called
  · intro streams holds
    have called := calls .read streams holds
    unfold read
    generalize streams.call schedule .read = outcome at called ⊢
    rcases outcome with ⟨_ | fault, streams'⟩
    · dsimp only
      split
      · rw [events_record]
        exact grows _ _ (.read none) called
      · rw [events_record]
        exact grows _ _ (.read (some _)) called
    · exact called
  · intro streams holds
    have called := calls .readLine streams holds
    unfold readLine
    generalize streams.call schedule .readLine = outcome at called ⊢
    rcases outcome with ⟨_ | fault, streams'⟩
    · rw [events_record]
      exact grows _ _ (.readLine _) called
    · exact called
  · intro streams pointer reason holds
    rw [log, events_record]
    exact grows _ _ (.readFailed pointer reason) holds

theorem invariant_of_events
    (writes : ∀ events byte, Holds events → Holds (events ++ [.write byte])) :
    Invariant options schedule fun streams => Holds streams.events where
  toReadInvariant := readInvariant_of_events options schedule Holds grows
  write := by
    intro streams byte holds
    have called := events_call schedule Holds grows .write streams holds
    unfold write
    generalize streams.call schedule .write = outcome at called ⊢
    rcases outcome with ⟨_ | fault, streams'⟩
    · rw [events_record]
      exact writes _ byte called
    · exact called

end Events

@[simp]
theorem summaries_record (streams : Streams) (event : Event) :
    (streams.record event).summaries = streams.summaries ++ event.summary?.toList := by
  simp only [summaries, events_record, List.filterMap_append]
  cases found : event.summary? <;> simp [found]

/-- The calls of an instruction log no summaries. -/
theorem summaries_invariant
    (options : Options) (schedule : FaultSchedule) (logged : List LogEntry) :
    Invariant options schedule fun streams => streams.summaries = logged := by
  apply invariant_of_events options schedule fun events => events.filterMap Event.summary? = logged
  · intro events event reading same
    rw [List.filterMap_append, same]
    cases reading <;> exact List.append_nil logged
  · intro events byte same
    rw [List.filterMap_append, same]
    exact List.append_nil logged

theorem output_call (schedule : FaultSchedule) (kind : StreamCall) (streams : Streams) :
    (streams.call schedule kind).2.output = streams.output := by
  unfold call
  split
  · exact (output_record _ _).trans (List.append_nil _)
  · rfl

theorem output_readInvariant
    (options : Options) (schedule : FaultSchedule) (written : List UInt8) :
    ReadInvariant options schedule fun streams => streams.output = written := by
  apply readInvariant_of_events options schedule fun events => outputOf events = written
  intro events event reading same
  rw [outputOf_append, same]
  cases reading <;> exact List.append_nil written

end Streams

/-- What holds of the streams that an effect hands back. -/
def Effect.Leaves (Holds : Streams → Prop) : Effect → Prop
  | .done _ streams | .strayed _ streams | .failed _ _ streams => Holds streams

namespace Machine

variable {machine : Machine} {state next : State} {streams : Streams} {tape : Tape}
  {Holds : Streams → Prop}

section Invariants

theorem modify_leaves (holds : Holds streams) (change : UInt8 → UInt8) (tape : Tape) :
    (modify change tape streams).Leaves Holds := by
  unfold modify
  split <;> exact holds

theorem store_leaves (holds : Holds streams) (value : Option UInt8) (tape : Tape) :
    (store value tape streams).Leaves Holds := by
  cases value with
  | none => exact holds
  | some value => exact modify_leaves holds _ tape

section Reads

variable (kept : Streams.ReadInvariant machine.options machine.schedule Holds)

include kept

theorem fetch_holds (holds : Holds streams) : Holds (machine.fetch streams).2 := by
  unfold fetch
  have afterRead := kept.read streams holds
  generalize streams.read machine.schedule = outcome at afterRead ⊢
  rcases outcome with ⟨fault | ⟨_ | byte⟩, streams'⟩
  · exact afterRead
  · exact afterRead
  · dsimp only at afterRead ⊢
    split
    · have afterLine := kept.readLine streams' afterRead
      generalize streams'.readLine machine.schedule = outcome at afterLine ⊢
      rcases outcome with ⟨fault | _, streams''⟩ <;> exact afterLine
    · exact afterRead

theorem read_leaves (holds : Holds streams) (tape : Tape) :
    (machine.read tape streams).Leaves Holds := by
  unfold read
  have flushed := kept.flush _ (kept.ask streams holds)
  generalize (streams.ask machine.options.prompt).flush machine.schedule = outcome
    at flushed ⊢
  rcases outcome with ⟨reason | _, streams'⟩
  · exact flushed
  · have fetched := fetch_holds kept flushed
    dsimp only at fetched ⊢
    generalize machine.fetch streams' = outcome at fetched ⊢
    rcases outcome with ⟨⟨reason | reason⟩ | byte, streams''⟩
    · exact kept.readFailed streams'' tape.pointer reason fetched
    · exact fetched
    · exact store_leaves fetched _ tape

theorem effect_leaves_of_ne_write
    {command : Option Command} (silent : command ≠ some .write) (holds : Holds streams)
    (tape : Tape) : (machine.effect command tape streams).Leaves Holds := by
  unfold effect
  split
  · unfold moveRight
    split <;> exact holds
  · unfold moveLeft
    split <;> exact holds
  · exact modify_leaves holds _ tape
  · exact modify_leaves holds _ tape
  · exact absurd rfl silent
  · exact read_leaves kept holds tape
  · exact holds

end Reads

variable (kept : Streams.Invariant machine.options machine.schedule Holds)

include kept

theorem write_leaves (holds : Holds streams) (tape : Tape) :
    (machine.write tape streams).Leaves Holds := by
  unfold write
  cases tape.current? with
  | none => exact holds
  | some value =>
      have written := kept.write streams value holds
      dsimp only
      generalize streams.write machine.schedule value = outcome at written ⊢
      rcases outcome with ⟨⟨reason | reason⟩ | _, streams'⟩ <;> exact written

theorem effect_leaves (holds : Holds streams) (command : Option Command) (tape : Tape) :
    (machine.effect command tape streams).Leaves Holds := by
  by_cases writes : command = some .write
  · rw [writes]
    exact write_leaves kept holds tape
  · exact effect_leaves_of_ne_write kept.toReadInvariant writes holds tape

theorem Move.keeps_streams
    (move : Move machine state next) (holds : Holds state.streams) : Holds next.streams := by
  cases move with
  | @plain character tape streams _ _ _ done =>
      have leaves := effect_leaves kept holds (Command.ofChar? character) state.tape
      rw [done] at leaves
      exact leaves
  | skip | enter | again | leave => exact holds

theorem Stuck.keeps_streams
    {failure : Failure} (stuck : Stuck machine state failure next)
    (holds : Holds state.streams) : Holds next.streams := by
  cases stuck with
  | @plain character failure streams _ _ _ failed =>
      have leaves := effect_leaves kept holds (Command.ofChar? character) state.tape
      rw [failed] at leaves
      exact leaves
  | stray | noCellAtOpen | noCellAtClose | unmatchedOpen | unmatchedClose => exact holds

theorem Reaches.keeps_streams
    {start : State} (reached : machine.Reaches start state)
    (holds : Holds start.streams) : Holds state.streams := by
  obtain ⟨count, arrived⟩ := reached
  exact after_preserves (fun state => Holds state.streams)
    (fun _ _ holds move => move.keeps_streams kept holds) arrived holds

end Invariants

/-- How a run from a state comes to its end. -/
inductive EndOfRun (machine : Machine) (start : State) : Halt → Prop where
  | ended {reached : State} :
      machine.Reaches start reached → machine.program[reached.index]? = none →
      EndOfRun machine start (machine.finish ⟨none, reached⟩)
  | failed {reached left : State} {failure : Failure} :
      machine.Reaches start reached → Stuck machine reached failure left →
      EndOfRun machine start (machine.finish ⟨some failure, left⟩)

theorem endOfRun_of_run
    {fuel length : Nat} {halt : Halt} (halted : machine.run fuel length streams = some halt) :
    EndOfRun machine (.initial length streams) halt := by
  obtain ⟨unfinished, executed, rfl⟩ := Option.map_eq_some_iff.mp halted
  have halts : machine.Halts (.initial length streams) unfinished := ⟨fuel, executed⟩
  obtain ⟨count, reached, arrived, ⟨rfl, ended⟩ | ⟨failure, left, rfl, stuck⟩⟩ := halts.cases
  · exact .ended ⟨count, arrived⟩ ended
  · exact .failed ⟨count, arrived⟩ stuck

theorem run_unique
    {length first second : Nat} {one other : Halt}
    (ran : machine.run first length streams = some one)
    (ran' : machine.run second length streams = some other) : one = other := by
  obtain ⟨halt, executed, rfl⟩ := Option.map_eq_some_iff.mp ran
  obtain ⟨halt', executed', rfl⟩ := Option.map_eq_some_iff.mp ran'
  have same : halt = halt' := Halts.unique ⟨first, executed⟩ ⟨second, executed'⟩
  rw [same]

section Finish

/-- What the last flush and the report make of a halt. -/
inductive Finished (machine : Machine) (halt : Halt) : Halt → Prop where
  | interrupted {reason : String} {flushed : Streams} :
      halt.state.streams.flush machine.schedule = (.error reason, flushed) →
      Finished machine halt
        ⟨some (.interrupted reason), { halt.state with streams := flushed }⟩
  | failed {failure : Failure} {flushed : Streams} :
      halt.state.streams.flush machine.schedule = (.ok (), flushed) →
      halt.failure = some failure →
      Finished machine halt ⟨some failure, { halt.state with streams := flushed }⟩
  | ended {flushed : Streams} :
      halt.state.streams.flush machine.schedule = (.ok (), flushed) →
      halt.failure = none →
      Finished machine halt ⟨none, report { halt.state with streams := flushed }⟩

theorem finished_finish (machine : Machine) (halt : Halt) :
    Finished machine halt (machine.finish halt) := by
  unfold finish
  rcases flushEq : halt.state.streams.flush machine.schedule with ⟨reason | _, flushed⟩
  · exact .interrupted flushEq
  · cases cause : halt.failure with
    | some failure => exact .failed flushEq cause
    | none => exact .ended flushEq cause

theorem finish_state_eq (machine : Machine) (halt : Halt) :
    (machine.finish halt).state =
      { halt.state with streams := (machine.finish halt).state.streams } := by
  unfold finish
  rcases halt.state.streams.flush machine.schedule with ⟨reason | _, flushed⟩
  · rfl
  · cases halt.failure <;> rfl

theorem finish_failure_eq (machine : Machine) (halt : Halt) :
    (machine.finish halt).failure =
      match (halt.state.streams.flush machine.schedule).1 with
      | .error reason => some (.interrupted reason)
      | .ok () => halt.failure := by
  unfold finish
  rcases halt.state.streams.flush machine.schedule with ⟨reason | _, flushed⟩
  · rfl
  · cases cause : halt.failure <;> rfl

theorem report_streams (state : State) :
    (report state).streams.input = state.streams.input ∧
      (report state).streams.output = state.streams.output ∧
      (report state).streams.prompts = state.streams.prompts := by
  unfold report
  cases state.loops with
  | nil => simp [Streams.log, Event.outputByte?, Event.promptText?]
  | cons start outer => simp [Streams.log, Event.outputByte?, Event.promptText?]

theorem finish_streams (machine : Machine) (halt : Halt) :
    (machine.finish halt).state.streams.input =
        (halt.state.streams.flush machine.schedule).2.input ∧
      (machine.finish halt).state.streams.output =
        (halt.state.streams.flush machine.schedule).2.output ∧
      (machine.finish halt).state.streams.prompts =
        (halt.state.streams.flush machine.schedule).2.prompts := by
  unfold finish
  rcases halt.state.streams.flush machine.schedule with ⟨reason | _, flushed⟩
  · exact ⟨rfl, rfl, rfl⟩
  · cases halt.failure with
    | some failure => exact ⟨rfl, rfl, rfl⟩
    | none => exact report_streams _

variable {halt last : Halt}

theorem Finished.loops_eq (finished : Finished machine halt last) :
    last.state.loops = halt.state.loops := by
  cases finished <;> rfl

/-- The last flush can only add a failure of its own. -/
theorem Finished.failure_eq
    (finished : Finished machine halt last) {failure : Failure}
    (failed : last.failure = some failure) :
    halt.failure = some failure ∨ ∃ reason, failure = .interrupted reason := by
  cases finished with
  | @interrupted reason _ _ =>
      cases failed
      exact .inr ⟨reason, rfl⟩
  | failed _ cause =>
      cases failed
      exact .inl cause
  | ended _ _ => cases failed

theorem Finished.failure_eq_none
    (finished : Finished machine halt last) (ended : last.failure = none) :
    halt.failure = none := by
  cases finished with
  | interrupted _ => cases ended
  | failed _ _ => cases ended
  | ended _ cause => exact cause

theorem summaries_of_flush
    {result : Except String Unit} {streams flushed : Streams}
    (flushEq : streams.flush machine.schedule = (result, flushed)) :
    flushed.summaries = streams.summaries := by
  have kept := (Streams.summaries_invariant machine.options machine.schedule _).flush
    streams rfl
  rwa [flushEq] at kept

theorem summaries_report (state : State) :
    (report state).streams.summaries = state.streams.summaries ++
      ((if state.loops = [] then [] else [.openLoops state.loops.length]) ++
        [.finished state.steps state.tape.pointer]) := by
  unfold report
  cases loops : state.loops <;> simp [Streams.log, Event.summary?]

/-- A run that fails logs no summary.  Any other logs how many loops are still
open, if there are any, and then that it is finished. -/
theorem Finished.summaries_eq (finished : Finished machine halt last) :
    last.state.streams.summaries = halt.state.streams.summaries ++
      match last.failure with
      | some _ => []
      | none =>
        (if halt.state.loops = [] then [] else [.openLoops halt.state.loops.length]) ++
          [.finished halt.state.steps halt.state.tape.pointer] := by
  cases finished with
  | interrupted flushEq => simpa using summaries_of_flush flushEq
  | failed flushEq _ => simpa using summaries_of_flush flushEq
  | ended flushEq _ =>
      rw [summaries_report]
      exact congrArg (· ++ _) (summaries_of_flush flushEq)

end Finish

end Machine

end Brainfuck
