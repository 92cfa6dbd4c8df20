import Brainfuck.Proofs.CallOrder

/-!
# Prompts and refused flushes

A run does not look at what it asks for, nor at whether the device took a flush.  `essential?`
forgets the prompts and how a flush went, and keeps everything else in its order; two machines
that differ in nothing more agree on it, and so their runs stay in lock step.

What was forgotten is accounted for on each side: the prompt as often as the run reads, and
one warning for each flush that was refused, in the order of the flushes.
-/

namespace Brainfuck

/-- An event without the prompts and without what came of a flush. -/
def Event.essential? : Event → Option Event
  | .prompt _ | .promptFlush | .log (.flushFailed _) => none
  | .failed .flush => some .flush
  | event => some event

def Event.flushWarning? : Event → Option String
  | .log (.flushFailed reason) => some reason
  | _ => none

def flushWarnings (events : List Event) : List String :=
  events.filterMap Event.flushWarning?

@[simp]
theorem flushWarnings_append (first second : List Event) :
    flushWarnings (first ++ second) = flushWarnings first ++ flushWarnings second :=
  List.filterMap_append

namespace FaultSchedule

/-- The reason for which the device refuses a flush. -/
def refusal? (schedule : FaultSchedule) (number : Nat) : Option String :=
  match schedule .flush number with
  | some (.device reason) => some reason
  | _ => .none

/-- The reasons for which the device refuses flushes, of so many from the first on. -/
def refusals (schedule : FaultSchedule) (first count : Nat) : List String :=
  (List.range' first count).filterMap schedule.refusal?

/-- The reason for which a flush fails in a way that a run does not handle. -/
def interruption? (schedule : FaultSchedule) (number : Nat) : Option String :=
  match schedule .flush number with
  | some (.other reason) => some reason
  | _ => .none

theorem refusals_one (schedule : FaultSchedule) (number : Nat) :
    schedule.refusals number 1 = (schedule.refusal? number).toList := by
  rw [refusals, List.range'_one]
  cases refused : schedule.refusal? number <;> simp [refused]

theorem refusals_add (schedule : FaultSchedule) (first count more : Nat) :
    schedule.refusals first (count + more) =
      schedule.refusals first count ++ schedule.refusals (first + count) more := by
  rw [refusals, refusals, refusals, ← List.filterMap_append, List.range'_append_1]

end FaultSchedule

namespace Streams

/-- Streams are the same but for prompts and for how flushes went. -/
structure SameEssence (left right : Streams) : Prop where
  input_eq : left.input = right.input
  output_eq : left.output = right.output
  counts_eq : left.counts = right.counts
  /-- Everything else happened on both, and in the same order. -/
  events_eq : left.events.filterMap Event.essential? = right.events.filterMap Event.essential?

namespace SameEssence

variable {left right other : Streams}

theorem refl (streams : Streams) : SameEssence streams streams := ⟨rfl, rfl, rfl, rfl⟩

theorem symm (same : SameEssence left right) : SameEssence right left :=
  ⟨same.input_eq.symm, same.output_eq.symm, same.counts_eq.symm, same.events_eq.symm⟩

theorem trans (same : SameEssence left right) (same' : SameEssence right other) :
    SameEssence left other :=
  ⟨same.input_eq.trans same'.input_eq, same.output_eq.trans same'.output_eq,
    same.counts_eq.trans same'.counts_eq, same.events_eq.trans same'.events_eq⟩

theorem record {event event' : Event} (same : SameEssence left right)
    (essence : event.essential? = event'.essential?)
    (output : event.outputByte? = event'.outputByte?) :
    SameEssence (left.record event) (right.record event') where
  input_eq := same.input_eq
  output_eq := by rw [output_record, output_record, same.output_eq, output]
  counts_eq := same.counts_eq
  events_eq := by
    rw [events_record, events_record, List.filterMap_append, List.filterMap_append,
      same.events_eq]
    simp only [List.filterMap_cons, List.filterMap_nil, essence]

private theorem record_left {event : Event} (forgotten : event.essential? = none)
    (silent : event.outputByte? = none) (streams : Streams) :
    SameEssence (streams.record event) streams where
  input_eq := rfl
  output_eq := by simp [silent]
  counts_eq := rfl
  events_eq := by simp [forgotten]

theorem bump (same : SameEssence left right) (kind : StreamCall) :
    SameEssence { left with counts := left.counts.bump kind }
      { right with counts := right.counts.bump kind } :=
  ⟨same.input_eq, same.output_eq, congrArg (·.bump kind) same.counts_eq, same.events_eq⟩

theorem withInput (same : SameEssence left right) (rest : List UInt8) :
    SameEssence { left with input := rest } { right with input := rest } :=
  ⟨rfl, same.output_eq, same.counts_eq, same.events_eq⟩

private theorem ask_left (prompt : Option String) (streams : Streams) :
    SameEssence (streams.ask prompt) streams := by
  cases prompt with
  | none => exact refl streams
  | some text =>
      have asked : SameEssence (streams.record (.prompt text)) streams :=
        record_left rfl rfl streams
      exact (record_left rfl rfl _).trans asked

/-- However a flush goes, it is a flush. -/
theorem flush_left (schedule : FaultSchedule) (streams : Streams) :
    SameEssence (streams.flush schedule).2 (streams.flush .none).2 := by
  have counted := refl { streams with counts := streams.counts.bump .flush }
  unfold flush
  rw [call_none]
  rcases call_cases schedule streams .flush with callEq | ⟨reason | reason, callEq⟩
  · rw [callEq]
    exact counted.record rfl rfl
  · rw [callEq]
    exact (record_left rfl rfl _).trans (counted.record rfl rfl)
  · rw [callEq]
    exact counted.record rfl rfl

private theorem flush_none (same : SameEssence left right) :
    SameEssence (left.flush .none).2 (right.flush .none).2 :=
  (same.bump .flush).record rfl rfl

section Calls

variable {schedule schedule' : FaultSchedule}

/-- A call goes the same way when the schedules say so. -/
theorem call {kind : StreamCall} (same : SameEssence left right)
    (schedules : schedule kind = schedule' kind) :
    SameAnswer SameEssence (left.call schedule kind) (right.call schedule' kind) := by
  have decided : schedule kind (left.counts.count kind) =
      schedule' kind (right.counts.count kind) := by rw [schedules, same.counts_eq]
  unfold Streams.call
  rw [decided]
  cases schedule' kind (right.counts.count kind) with
  | none => exact ⟨rfl, same.bump kind⟩
  | some fault => exact ⟨rfl, (same.bump kind).record rfl rfl⟩

theorem write (same : SameEssence left right) (schedules : schedule .write = schedule' .write)
    (byte : UInt8) :
    SameAnswer SameEssence (left.write schedule byte) (right.write schedule' byte) := by
  unfold Streams.write
  obtain ⟨answer, left', right', leftEq, rightEq, further⟩ := (same.call schedules).exists_eq
  rw [leftEq, rightEq]
  cases answer with
  | none => exact ⟨rfl, further.record rfl rfl⟩
  | some fault => exact ⟨rfl, further⟩

theorem read (same : SameEssence left right) (schedules : schedule .read = schedule' .read) :
    SameAnswer SameEssence (left.read schedule) (right.read schedule') := by
  unfold Streams.read
  obtain ⟨answer, left', right', leftEq, rightEq, further⟩ := (same.call schedules).exists_eq
  rw [leftEq, rightEq]
  cases answer with
  | some fault => exact ⟨rfl, further⟩
  | none =>
      dsimp only
      rw [further.input_eq]
      cases right'.input with
      | nil => exact ⟨rfl, further.record rfl rfl⟩
      | cons byte rest => exact ⟨rfl, (further.withInput rest).record rfl rfl⟩

theorem readLine (same : SameEssence left right)
    (schedules : schedule .readLine = schedule' .readLine) :
    SameAnswer SameEssence (left.readLine schedule) (right.readLine schedule') := by
  unfold Streams.readLine
  obtain ⟨answer, left', right', leftEq, rightEq, further⟩ := (same.call schedules).exists_eq
  rw [leftEq, rightEq]
  cases answer with
  | some fault => exact ⟨rfl, further⟩
  | none =>
      dsimp only
      rw [further.input_eq]
      exact ⟨rfl, (further.withInput _).record rfl rfl⟩

end Calls

end SameEssence

/-- A run goes on after a flush unless the flush is interrupted. -/
theorem flush_answer (schedule : FaultSchedule) (streams : Streams) :
    (streams.flush schedule).1 =
      match schedule.interruption? streams.counts.flush with
      | some reason => .error reason
      | none => .ok () := by
  have number : streams.counts.count .flush = streams.counts.flush := rfl
  unfold flush call FaultSchedule.interruption?
  rw [number]
  rcases schedule .flush streams.counts.flush with _ | ⟨reason | reason⟩ <;> rfl

end Streams

namespace Machine

/-- Two machines differ only in the prompt and in the flushes that the device refuses. -/
structure SameButAsides (first second : Machine) : Prop where
  program_eq : first.program = second.program
  size_eq : first.size = second.size
  eof_eq : first.options.eof = second.options.eof
  inputMode_eq : first.options.inputMode = second.options.inputMode
  calls : ∀ kind ≠ .flush, first.schedule kind = second.schedule kind
  interruptions : first.schedule.interruption? = second.schedule.interruption?

variable {first second machine : Machine} {left right streams : Streams} {state state' : State}

section Agreement

variable (pair : SameButAsides first second)

include pair

theorem SameButAsides.flush (same : left.SameEssence right) :
    SameAnswer Streams.SameEssence (left.flush first.schedule) (right.flush second.schedule) where
  answer_eq := by
    rw [Streams.flush_answer, Streams.flush_answer, same.counts_eq, pair.interruptions]
  streams := ((Streams.SameEssence.flush_left _ left).trans same.flush_none).trans
    (Streams.SameEssence.flush_left _ right).symm

theorem SameButAsides.fetch (same : left.SameEssence right) :
    SameAnswer Streams.SameEssence (first.fetch left) (second.fetch right) := by
  unfold Machine.fetch
  obtain ⟨answer, left', right', leftEq, rightEq, further⟩ :=
    (same.read (pair.calls .read (by decide))).exists_eq
  rw [leftEq, rightEq, pair.inputMode_eq]
  rcases answer with fault | _ | byte
  · exact ⟨rfl, further⟩
  · exact ⟨rfl, further⟩
  · dsimp only
    split
    · obtain ⟨answer, left'', right'', lineEq, lineEq', last⟩ :=
        (further.readLine (pair.calls .readLine (by decide))).exists_eq
      rw [lineEq, lineEq']
      cases answer with
      | error fault => exact ⟨rfl, last⟩
      | ok _ => exact ⟨rfl, last⟩
    · exact ⟨rfl, further⟩

theorem SameButAsides.agree : first.Agree second Streams.SameEssence where
  size_eq := pair.size_eq
  asked := by
    intro left right same
    have asked := (Streams.SameEssence.ask_left first.options.prompt left).trans same
    exact pair.flush (asked.trans (Streams.SameEssence.ask_left second.options.prompt right).symm)
  taken := by
    intro left right same
    obtain ⟨answers, further⟩ := pair.fetch same
    refine ⟨?_, further⟩
    simp only [Machine.taken, answers]
    congr 1
    funext byte
    simp only [Machine.stored?, pair.eof_eq]
  wrote := by
    intro left right byte same
    exact same.write (pair.calls .write (by decide)) byte
  readFailed := by
    intro left right pointer reason same
    exact same.record rfl rfl

theorem SameButAsides.step (same : State.Same Streams.SameEssence state state') :
    Step.Related Eq (State.Same Streams.SameEssence) (first.step state) (second.step state') :=
  pair.agree.step pair.program_eq same

theorem SameButAsides.finish {halt halt' : Halt}
    (same : Halt.Related Eq (State.Same Streams.SameEssence) halt halt') :
    Halt.Related Eq (State.Same Streams.SameEssence) (first.finish halt)
      (second.finish halt') := by
  apply finish_same _ _ same
  · intro left right entry alike
    exact alike.record rfl rfl
  · intro left right alike
    exact pair.flush alike

theorem SameButAsides.reads_eq (same : State.Same Streams.SameEssence state state')
    (count : Nat) : first.reads count state = second.reads count state' := by
  induction count generalizing state state' with
  | zero => rfl
  | succ count ih =>
      have here : first.readsAt state = second.readsAt state' := by
        rw [readsAt, readsAt, command?, command?, pair.program_eq, same.index_eq]
      have outcome := pair.step same
      rw [reads_succ, reads_succ, here]
      generalize first.step state = made at outcome
      generalize second.step state' = made' at outcome
      cases outcome with
      | next further => exact congrArg _ (ih further)
      | ended _ | failed _ _ => rfl

end Agreement

section Accounts

/-- Some streams come from others by some events, with one warning for each flush among
them that the device refused. -/
structure FlushAccount (schedule : FaultSchedule) (before after : Streams) (own : List Event) :
    Prop extends before.Adds after own where
  warned : flushWarnings own = schedule.refusals before.counts.flush (callCount own .flush)

variable {schedule : FaultSchedule} {before after last : Streams} {own further : List Event}

theorem FlushAccount.trans (account : FlushAccount schedule before after own)
    (account' : FlushAccount schedule after last further) :
    FlushAccount schedule before last (own ++ further) where
  toAdds := account.toAdds.trans account'.toAdds
  warned := by
    have number : after.counts.flush = before.counts.flush + callCount own .flush :=
      account.counts_eq .flush
    rw [flushWarnings_append, account.warned, account'.warned, number, callCount_append,
      FaultSchedule.refusals_add]

private theorem flushAccount_of_quiet (adds : before.Adds after own)
    (unflushed : callCount own .flush = 0)
    (unwarned : flushWarnings own = []) : FlushAccount schedule before after own where
  toAdds := adds
  warned := by
    rw [unflushed, unwarned]
    rfl

private theorem flushAccount_log {entry : LogEntry} (other : (Event.log entry).flushWarning? = none)
    (streams : Streams) : FlushAccount schedule streams (streams.log entry) [.log entry] := by
  apply flushAccount_of_quiet (Streams.adds_of_silent (.log entry) rfl streams) rfl
  simp [flushWarnings, other]

private theorem flushAccount_of_flush (adds : before.Adds after own)
    (flushed : callCount own .flush = 1)
    (warned : flushWarnings own = (schedule.refusal? before.counts.flush).toList) :
    FlushAccount schedule before after own where
  toAdds := adds
  warned := by rw [warned, flushed, FaultSchedule.refusals_one]

private theorem exists_flushAccount_flush (schedule : FaultSchedule) (streams : Streams) :
    ∃ own, FlushAccount schedule streams (streams.flush schedule).2 own := by
  have number : streams.counts.count .flush = streams.counts.flush := rfl
  have failed := Streams.adds_of_call (.failed .flush) rfl streams streams.input
  unfold Streams.flush Streams.call
  rw [number]
  cases decided : schedule .flush streams.counts.flush with
  | none =>
      have flushed := Streams.adds_of_call .flush rfl streams streams.input
      refine ⟨_, flushAccount_of_flush flushed rfl ?_⟩
      rw [FaultSchedule.refusal?, decided]
      rfl
  | some fault =>
      cases fault with
      | device reason =>
          have refused := failed.trans
            (Streams.adds_of_silent (.log (.flushFailed reason)) rfl _)
          refine ⟨_, flushAccount_of_flush refused rfl ?_⟩
          rw [FaultSchedule.refusal?, decided]
          rfl
      | other reason =>
          refine ⟨_, flushAccount_of_flush failed rfl ?_⟩
          rw [FaultSchedule.refusal?, decided]
          rfl

/-- Every call of a run keeps the account. -/
theorem flushAccount_invariant (options : Options) (schedule : FaultSchedule)
    (before : Streams) :
    Streams.Invariant options schedule fun streams =>
      ∃ own, FlushAccount schedule before streams own where
  ask := by
    rintro streams ⟨own, account⟩
    have asked : FlushAccount schedule streams (streams.ask options.prompt)
        (promptEvents options.prompt) := by
      apply flushAccount_of_quiet (streams.adds_ask options.prompt)
      · exact callCount_promptEvents _ _
      · cases options.prompt <;> rfl
    exact ⟨_, account.trans asked⟩
  flush := by
    rintro streams ⟨own, account⟩
    obtain ⟨flushed, account'⟩ := exists_flushAccount_flush schedule streams
    exact ⟨_, account.trans account'⟩
  read := by
    rintro streams ⟨own, account⟩
    rcases streams.read_course schedule with ⟨_, _, _, adds⟩ | ⟨_, _, adds⟩
    · exact ⟨_, account.trans (flushAccount_of_quiet adds rfl rfl)⟩
    · exact ⟨_, account.trans (flushAccount_of_quiet adds rfl rfl)⟩
  readLine := by
    rintro streams ⟨own, account⟩
    rcases streams.readLine_course schedule with ⟨_, _, _, adds⟩ | ⟨_, _, adds⟩
    · exact ⟨_, account.trans (flushAccount_of_quiet adds rfl rfl)⟩
    · exact ⟨_, account.trans (flushAccount_of_quiet adds rfl rfl)⟩
  readFailed := by
    rintro streams pointer reason ⟨own, account⟩
    exact ⟨_, account.trans (flushAccount_log rfl streams)⟩
  write := by
    rintro streams byte ⟨own, account⟩
    rcases streams.write_course schedule byte with ⟨_, _, adds⟩ | ⟨_, adds⟩
    · exact ⟨_, account.trans (flushAccount_of_quiet adds rfl rfl)⟩
    · exact ⟨_, account.trans (flushAccount_of_quiet adds rfl rfl)⟩

theorem own_unique (adds : before.Adds after own) (adds' : before.Adds after further) :
    own = further :=
  List.append_cancel_left (adds.events_eq.symm.trans adds'.events_eq)

theorem chains_flushAccount (machine : Machine) :
    machine.Chains (FlushAccount machine.schedule) where
  nothing := fun streams => flushAccount_of_quiet (.nothing streams) rfl rfl
  trans := .trans
  step := by
    intro state
    have begins : ∃ own, FlushAccount machine.schedule state.streams state.streams own :=
      ⟨[], flushAccount_of_quiet (.nothing _) rfl rfl⟩
    have kept := flushAccount_invariant machine.options machine.schedule state.streams
    obtain ⟨own, account⟩ := holds_after_step (effect_leaves kept begins _ state.tape)
    have deeds := (performs_deeds machine state).2
    rwa [own_unique account.toAdds deeds] at account

theorem exists_flushAccount_report (schedule : FaultSchedule) (state : State) :
    ∃ own, FlushAccount schedule state.streams (report state).streams own := by
  unfold report
  cases state.loops with
  | nil => exact ⟨_, flushAccount_log rfl _⟩
  | cons start outer => exact ⟨_, (flushAccount_log rfl _).trans (flushAccount_log rfl _)⟩

theorem exists_flushAccount_finish (machine : Machine) (halt : Halt) :
    ∃ own, FlushAccount machine.schedule halt.state.streams
      (machine.finish halt).state.streams own := by
  obtain ⟨flushed, account⟩ := exists_flushAccount_flush machine.schedule halt.state.streams
  have finished := finished_finish machine halt
  generalize machine.finish halt = finish at finished ⊢
  cases finished with
  | interrupted flushEq | failed flushEq _ =>
      rw [flushEq] at account
      exact ⟨flushed, account⟩
  | @ended flushed flushEq _ =>
      rw [flushEq] at account
      obtain ⟨reported, more⟩ :=
        exists_flushAccount_report machine.schedule { halt.state with streams := flushed }
      exact ⟨_, account.trans more⟩

end Accounts

section Prompts

private theorem promptsOf_filter (events : List Event) :
    promptsOf (events.filter Event.onPrompts) = promptsOf events := by
  unfold promptsOf
  rw [List.filterMap_filter]
  congr 2
  funext event
  cases event <;> rfl

private theorem promptsOf_promptEvents (prompt : Option String) (times : Nat) :
    promptsOf (List.replicate times (promptEvents prompt)).flatten =
      String.join (List.replicate times (prompt.getD "")) := by
  have once : promptsOf (promptEvents prompt) = prompt.getD "" := by
    cases prompt with
    | none => rfl
    | some text => simp [promptEvents, promptsOf, List.filterMap_cons, Event.promptText?]
  induction times with
  | zero => rfl
  | succ times ih =>
      rw [List.replicate_succ, List.flatten_cons, promptsOf_append, once, ih,
        List.replicate_succ, String.join_cons]

/-- What a run did aside, for so many reads. -/
structure Asides (machine : Machine) (before after : Streams) (asked : Nat)
    (own : List Event) : Prop
    extends FlushAccount machine.schedule before after own where
  prompted : own.filter Event.onPrompts =
    (List.replicate asked (promptEvents machine.options.prompt)).flatten
  texts : ∀ stream, machine.options.promptsOn stream own =
    if stream = machine.options.promptStream then
      String.join (List.replicate asked (machine.options.prompt.getD ""))
    else ""

theorem FlushAccount.asides {before after : Streams} {own : List Event} {asked : Nat}
    (account : FlushAccount machine.schedule before after own)
    (prompted : own.filter Event.onPrompts =
      (List.replicate asked (promptEvents machine.options.prompt)).flatten) :
    Asides machine before after asked own where
  toFlushAccount := account
  prompted := prompted
  texts := by
    intro stream
    rw [Options.promptsOn, ← promptsOf_filter, prompted, promptsOf_promptEvents]

/-- At every time and at the end, a run did nothing aside but to ask before each read and to
warn of each refused flush. -/
structure KeepsAccount (machine : Machine) (length : Nat) (streams : Streams) : Prop where
  after : ∀ count reached, machine.after count (.initial length streams) = some reached →
    Asides machine streams reached.streams
      (machine.reads count (.initial length streams))
      (machine.transcript count (.initial length streams))
  run : ∀ fuel halt, machine.run fuel length streams = some halt →
    ∃ own, Asides machine streams halt.state.streams
      (machine.reads fuel (.initial length streams)) own

theorem keepsAccount (machine : Machine) (length : Nat) (streams : Streams) :
    KeepsAccount machine length streams where
  after := by
    intro count reached arrived
    have account := (chains_flushAccount machine).of_after arrived
    exact account.asides (transcript_prompts machine count _)
  run := by
    intro fuel halt ran
    obtain ⟨unfinished, executed, rfl⟩ := Option.map_eq_some_iff.mp ran
    obtain ⟨own, closing⟩ := exists_flushAccount_finish machine unfinished
    obtain ⟨events, complete⟩ := completeRun_finish executed
    have account := ((chains_flushAccount machine).of_execute executed).trans closing
    rw [own_unique account.toAdds complete.adds] at account
    exact ⟨events, account.asides complete.prompts⟩

end Prompts

/-- Neither prompts nor refused flushes influence a run: two runs that differ in nothing else
are the same after every number of steps and at their ends.  On its own side each has asked
once for every read, on the stream that its options name, and has warned once of every flush
that was refused. -/
theorem run_ignores_prompts_and_refused_flushes
    (pair : SameButAsides first second) (length : Nat) (streams : Streams) :
    let start := State.initial length streams
    (∀ count,
      Option.Rel (State.Same Streams.SameEssence) (first.after count start)
          (second.after count start) ∧
        first.reads count start = second.reads count start) ∧
    (∀ fuel, Option.Rel (Halt.Related Eq (State.Same Streams.SameEssence))
      (first.run fuel length streams) (second.run fuel length streams)) ∧
    KeepsAccount first length streams ∧ KeepsAccount second length streams := by
  intro start
  have initially : State.Same Streams.SameEssence start start := same_of_alike (.refl streams)
  refine ⟨?_, ?_, keepsAccount _ _ _, keepsAccount _ _ _⟩
  · intro count
    refine ⟨?_, pair.reads_eq initially count⟩
    exact afterBy_related (fun _ _ same => pair.step same) count initially
  · intro fuel
    refine rel_map ?_ (executeBy_related (fun _ _ same => pair.step same) fuel initially)
    intro halt halt' _ same
    exact pair.finish same

/-- One run asks and has its second flush refused, the other does neither. -/
theorem run_ignores_prompts_and_refused_flushes_of_two_bytes :
    let refused : FaultSchedule := fun call number =>
      if call = .flush ∧ number = 1 then some (.device "gone") else none
    let silent : Machine := ⟨#[',', '.', ','], 1, .standard, .none⟩
    let asking : Machine :=
      ⟨#[',', '.', ','], 1, ⟨.zero, .byte, some "? ", .own⟩, refused⟩
    let events : List Event :=
      [.prompt "? ", .promptFlush, .flush, .read (some 7), .write 7, .prompt "? ", .promptFlush,
        .failed .flush, .log (.flushFailed "gone"), .read (some 8), .flush, .log (.finished 3 0)]
    SameButAsides silent asking ∧ ∃ halt halt',
      silent.run 4 1 (.ofInput [7, 8]) = some halt ∧
        asking.run 4 1 (.ofInput [7, 8]) = some halt' ∧
        Halt.Related Eq (State.Same Streams.SameEssence) halt halt' ∧
        halt'.state.streams.events = events ∧ flushWarnings events = ["gone"] ∧
        asking.options.promptsOn .own events = "? ? " ∧
        asking.options.promptsOn .standardError events = "" := by
  intro refused silent asking events
  have calls : ∀ kind ≠ .flush, silent.schedule kind = asking.schedule kind := by
    intro kind different
    funext number
    simp [silent, asking, refused, different, FaultSchedule.none]
  have interruptions : silent.schedule.interruption? = asking.schedule.interruption? := by
    funext number
    by_cases second : number = 1
    · subst second
      rfl
    · simp [silent, asking, refused, second, FaultSchedule.interruption?, FaultSchedule.none]
  have pair : SameButAsides silent asking := ⟨rfl, rfl, rfl, rfl, calls, interruptions⟩
  have ran : silent.run 4 1 (.ofInput [7, 8]) = some ⟨none, ⟨3, [], 3, ⟨#[8], 0, 0⟩,
      ⟨[], ⟨2, 0, 1, 3⟩, [.log (.finished 3 0), .flush, .read (some 8), .flush, .write 7,
        .read (some 7), .flush]⟩⟩⟩ := rfl
  have ran' : asking.run 4 1 (.ofInput [7, 8]) =
      some ⟨none, ⟨3, [], 3, ⟨#[8], 0, 0⟩, ⟨[], ⟨2, 0, 1, 3⟩, events.reverse⟩⟩⟩ := rfl
  obtain ⟨_, together, _, account⟩ :=
    run_ignores_prompts_and_refused_flushes pair 1 (.ofInput [7, 8])
  have same := together 4
  rw [ran, ran', Option.rel_some_some] at same
  obtain ⟨own, asides⟩ := account.run 4 _ ran'
  obtain rfl : events = own := asides.events_eq
  exact ⟨pair, _, _, ran, ran', same, rfl, asides.warned, asides.texts .own,
    asides.texts .standardError⟩

end Machine

end Brainfuck
