import Brainfuck.Proofs.Agreement
import Brainfuck.Proofs.FailedRun

/-!
# The transcript of a run

Whatever happens on the streams of a run, one of its instructions makes it happen,
and an instruction makes a few calls in a fixed order.  `Flushing`, `Fetching` and
`ReadCourse` list how these calls can go, with their answers and what happens;
`Performs` does so for any command.  The transcript of a run is what its
instructions perform, one after the other, and `Chains` carries what holds of every
instruction to a whole run.
-/

namespace Brainfuck

namespace Event

/-- The call that an event is about, whether it succeeded or not. -/
def call? : Event → Option StreamCall
  | .read _ => some .read
  | .readLine _ => some .readLine
  | .write _ => some .write
  | .flush => some .flush
  | .failed call => some call
  | .prompt _ | .promptFlush | .log _ => none

/-- Whether an event is one on the stream for the prompts. -/
def onPrompts : Event → Bool
  | .prompt _ | .promptFlush => true
  | _ => false

@[simp]
theorem call?_log (entry : LogEntry) : (log entry).call? = none := rfl

@[simp]
theorem onPrompts_log (entry : LogEntry) : (log entry).onPrompts = false := rfl

end Event

def callCount (events : List Event) (kind : StreamCall) : Nat :=
  events.countP fun event => event.call? = some kind

@[simp]
theorem callCount_append (first second : List Event) (kind : StreamCall) :
    callCount (first ++ second) kind = callCount first kind + callCount second kind :=
  List.countP_append

/-- Some streams come from others by some events, every call of which was counted. -/
structure Streams.Adds (before after : Streams) (own : List Event) : Prop where
  events_eq : after.events = before.events ++ own
  counts_eq : ∀ kind, after.counts.count kind = before.counts.count kind + callCount own kind

def promptEvents : Option String → List Event
  | none => []
  | some text => [.prompt text, .promptFlush]

inductive Flushing : Except String Unit → List Event → Prop where
  | done : Flushing (.ok ()) [.flush]
  | refused (reason : String) :
      Flushing (.ok ()) [.failed .flush, .log (.flushFailed reason)]
  | interrupted (reason : String) : Flushing (.error reason) [.failed .flush]

/-- How the input can be asked for a byte: the answer, the input before and after,
and what happens. -/
inductive Fetching (mode : InputMode) :
    Except StreamFault (Option UInt8) → List UInt8 → List UInt8 → List Event → Prop where
  | ended : Fetching mode (.ok none) [] [] [.read none]
  | byte {byte : UInt8} {rest : List UInt8} :
      (mode = .line → byte = Streams.newline) →
      Fetching mode (.ok (some byte)) (byte :: rest) rest [.read (some byte)]
  | line {byte : UInt8} {rest : List UInt8} :
      mode = .line → byte ≠ Streams.newline →
      Fetching mode (.ok (some byte)) (byte :: rest) (Streams.splitLine rest).2
        [.read (some byte), .readLine (Streams.splitLine rest).1]
  | unread {fault : StreamFault} {input : List UInt8} :
      Fetching mode (.error fault) input input [.failed .read]
  | unreadLine {fault : StreamFault} {byte : UInt8} {rest : List UInt8} :
      mode = .line → byte ≠ Streams.newline →
      Fetching mode (.error fault) (byte :: rest) rest [.read (some byte), .failed .readLine]

theorem CallCounts.count_bump (counts : CallCounts) (kind other : StreamCall) :
    (counts.bump kind).count other = counts.count other + if kind = other then 1 else 0 := by
  cases kind <;> cases other <;> rfl

namespace Streams

section Adds

variable {first second third : Streams}

theorem Adds.nothing (streams : Streams) : streams.Adds streams [] where
  events_eq := (List.append_nil _).symm
  counts_eq := fun _ => rfl

theorem Adds.trans
    {own further : List Event} (adds : first.Adds second own) (more : second.Adds third further) :
    first.Adds third (own ++ further) where
  events_eq := by rw [more.events_eq, adds.events_eq, List.append_assoc]
  counts_eq := by
    intro kind
    rw [more.counts_eq, adds.counts_eq, callCount_append, Nat.add_assoc]

theorem adds_of_silent (event : Event) (silent : event.call? = none) (streams : Streams) :
    streams.Adds (streams.record event) [event] where
  events_eq := events_record _ _
  counts_eq := by
    intro kind
    simp [callCount, silent, record]

theorem adds_of_call
    (event : Event) {kind : StreamCall} (isCall : event.call? = some kind) (streams : Streams)
    (input : List UInt8) :
    streams.Adds ({ streams with input := input, counts := streams.counts.bump kind }.record event)
      [event] where
  events_eq := events_record _ _
  counts_eq := by
    intro other
    simp [callCount, isCall, record, CallCounts.count_bump, List.countP_cons]

end Adds

variable (schedule : FaultSchedule) (streams : Streams)

theorem call_cases (kind : StreamCall) :
    streams.call schedule kind = (none, { streams with counts := streams.counts.bump kind }) ∨
      ∃ fault, streams.call schedule kind = (some fault,
        { streams with counts := streams.counts.bump kind }.record (.failed kind)) := by
  unfold call
  split
  · next fault _ => exact .inr ⟨fault, rfl⟩
  · exact .inl rfl

theorem adds_ask (prompt : Option String) :
    streams.Adds (streams.ask prompt) (promptEvents prompt) := by
  cases prompt with
  | none => exact .nothing streams
  | some text =>
      have asked := adds_of_silent (.prompt text) rfl streams
      exact asked.trans (adds_of_silent .promptFlush rfl _)

theorem input_ask (prompt : Option String) : (streams.ask prompt).input = streams.input := by
  cases prompt <;> rfl

theorem input_flush : (streams.flush schedule).2.input = streams.input := by
  have same := input_call schedule .flush streams
  unfold flush
  generalize streams.call schedule .flush = outcome at same ⊢
  rcases outcome with ⟨_ | ⟨reason | reason⟩, left⟩ <;> exact same

theorem flush_course :
    ∃ own, Flushing (streams.flush schedule).1 own ∧
      streams.Adds (streams.flush schedule).2 own := by
  unfold flush
  rcases call_cases schedule streams .flush with callEq | ⟨reason | reason, callEq⟩
  · rw [callEq]
    exact ⟨_, .done, adds_of_call .flush rfl streams streams.input⟩
  · rw [callEq]
    have failed := adds_of_call (.failed .flush) rfl streams streams.input
    exact ⟨_, .refused reason, failed.trans (adds_of_silent (.log (.flushFailed reason)) rfl _)⟩
  · rw [callEq]
    exact ⟨_, .interrupted reason, adds_of_call (.failed .flush) rfl streams streams.input⟩

theorem read_course :
    (∃ fault, (streams.read schedule).1 = .error fault ∧
      (streams.read schedule).2.input = streams.input ∧
      streams.Adds (streams.read schedule).2 [.failed .read]) ∨
    ((streams.read schedule).1 = .ok streams.input.head? ∧
      (streams.read schedule).2.input = streams.input.tail ∧
      streams.Adds (streams.read schedule).2 [.read streams.input.head?]) := by
  unfold read
  rcases call_cases schedule streams .read with callEq | ⟨fault, callEq⟩
  · right
    rw [callEq]
    dsimp only
    cases streams.input with
    | nil => exact ⟨rfl, rfl, adds_of_call (.read none) rfl streams []⟩
    | cons byte rest => exact ⟨rfl, rfl, adds_of_call (.read (some byte)) rfl streams rest⟩
  · left
    rw [callEq]
    exact ⟨fault, rfl, rfl, adds_of_call (.failed .read) rfl streams streams.input⟩

theorem readLine_course :
    (∃ fault, (streams.readLine schedule).1 = .error fault ∧
      (streams.readLine schedule).2.input = streams.input ∧
      streams.Adds (streams.readLine schedule).2 [.failed .readLine]) ∨
    ((streams.readLine schedule).1 = .ok () ∧
      (streams.readLine schedule).2.input = (splitLine streams.input).2 ∧
      streams.Adds (streams.readLine schedule).2 [.readLine (splitLine streams.input).1]) := by
  unfold readLine
  rcases call_cases schedule streams .readLine with callEq | ⟨fault, callEq⟩
  · right
    rw [callEq]
    dsimp only
    obtain ⟨line, rest⟩ := splitLine streams.input
    exact ⟨rfl, rfl, adds_of_call (.readLine line) rfl streams rest⟩
  · left
    rw [callEq]
    exact ⟨fault, rfl, rfl, adds_of_call (.failed .readLine) rfl streams streams.input⟩

theorem write_course (byte : UInt8) :
    (∃ fault, (streams.write schedule byte).1 = .error fault ∧
      streams.Adds (streams.write schedule byte).2 [.failed .write]) ∨
    ((streams.write schedule byte).1 = .ok () ∧
      streams.Adds (streams.write schedule byte).2 [.write byte]) := by
  unfold write
  rcases call_cases schedule streams .write with callEq | ⟨fault, callEq⟩
  · right
    rw [callEq]
    exact ⟨rfl, adds_of_call (.write byte) rfl streams streams.input⟩
  · left
    rw [callEq]
    exact ⟨fault, rfl, adds_of_call (.failed .write) rfl streams streams.input⟩

end Streams

/-- How a reading instruction can go: what it makes of the tape and the streams, and
what happens. -/
inductive ReadCourse (machine : Machine) (tape : Tape) (streams : Streams) :
    Effect → List Event → Prop where
  | interrupted {reason : String} {left : Streams} {flushed : List Event} :
      Flushing (.error reason) flushed →
      machine.schedule .flush streams.counts.flush = some (.other reason) →
      left.input = streams.input →
      ReadCourse machine tape streams (.failed (.interrupted reason) tape left)
        (promptEvents machine.options.prompt ++ flushed)
  | fetched {byte : Option UInt8} {left : Streams} {flushed fetched : List Event} :
      Flushing (.ok ()) flushed →
      Fetching machine.options.inputMode (.ok byte) streams.input left.input fetched →
      ReadCourse machine tape streams (Machine.store (machine.stored? byte) tape left)
        (promptEvents machine.options.prompt ++ (flushed ++ fetched))
  | unread {reason : String} {left : Streams} {flushed fetched : List Event} :
      Flushing (.ok ()) flushed →
      Fetching machine.options.inputMode (.error (.device reason)) streams.input left.input
        fetched →
      ReadCourse machine tape streams (.done tape left)
        (promptEvents machine.options.prompt ++
          (flushed ++ (fetched ++ [.log (.readFailed tape.pointer reason)])))
  | broken {reason : String} {left : Streams} {flushed fetched : List Event} :
      Flushing (.ok ()) flushed →
      Fetching machine.options.inputMode (.error (.other reason)) streams.input left.input
        fetched →
      ReadCourse machine tape streams (.failed (.interrupted reason) tape left)
        (promptEvents machine.options.prompt ++ (flushed ++ fetched))

/-- What an instruction with a command performs on its way to an effect. -/
inductive Performs (machine : Machine) (tape : Tape) (streams : Streams) :
    Option Command → Effect → List Event → Prop where
  | nothing {command : Option Command} {effect : Effect} :
      command ≠ some .read → Performs machine tape streams command effect []
  | wrote {byte : UInt8} {effect : Effect} :
      Performs machine tape streams (some .write) effect [.write byte]
  | unwritten {effect : Effect} :
      Performs machine tape streams (some .write) effect [.failed .write]
  | read {effect : Effect} {own : List Event} :
      ReadCourse machine tape streams effect own →
      Performs machine tape streams (some .read) effect own

def Step.state : Step → State
  | .next state | .ended state | .failed _ state => state

namespace Machine

variable {machine : Machine} {tape : Tape} {streams : Streams}

section Courses

theorem fetch_course (machine : Machine) (streams : Streams) :
    ∃ own, Fetching machine.options.inputMode (machine.fetch streams).1 streams.input
        (machine.fetch streams).2.input own ∧
      streams.Adds (machine.fetch streams).2 own := by
  have course := Streams.read_course machine.schedule streams
  unfold fetch
  generalize streams.read machine.schedule = got at course ⊢
  obtain ⟨answer, left⟩ := got
  rcases course with ⟨fault, rfl, same, adds⟩ | ⟨rfl, rest, adds⟩
  · refine ⟨_, ?_, adds⟩
    dsimp only at same ⊢
    rw [same]
    exact .unread
  · generalize streams.input = input at rest adds ⊢
    cases input with
    | nil =>
        refine ⟨_, ?_, adds⟩
        dsimp only [List.head?_nil, List.tail_nil] at rest ⊢
        rw [rest]
        exact .ended
    | cons byte behind =>
        dsimp only [List.head?_cons, List.tail_cons] at rest adds ⊢
        split
        · next lineMode =>
            have line := Streams.readLine_course machine.schedule left
            generalize left.readLine machine.schedule = got at line ⊢
            obtain ⟨answer, left'⟩ := got
            rw [rest] at line
            rcases line with ⟨fault, rfl, same, more⟩ | ⟨rfl, behindLine, more⟩
            · refine ⟨_, ?_, adds.trans more⟩
              dsimp only at same ⊢
              rw [same]
              exact .unreadLine lineMode.1 lineMode.2
            · refine ⟨_, ?_, adds.trans more⟩
              dsimp only at behindLine ⊢
              rw [behindLine]
              exact .line lineMode.1 lineMode.2
        · next notLine =>
            refine ⟨_, ?_, adds⟩
            rw [rest]
            apply Fetching.byte
            intro mode
            by_contra different
            exact notLine ⟨mode, different⟩

theorem read_course (machine : Machine) (tape : Tape) (streams : Streams) :
    ∃ own, ReadCourse machine tape streams (machine.read tape streams) own ∧
      (machine.read tape streams).Leaves fun left => streams.Adds left own := by
  have asking := streams.adds_ask machine.options.prompt
  obtain ⟨flushed, flushing, adds⟩ :=
    Streams.flush_course machine.schedule (streams.ask machine.options.prompt)
  have flushedInput := Streams.input_flush machine.schedule (streams.ask machine.options.prompt)
  have scheduled : ∀ reason,
      ((streams.ask machine.options.prompt).flush machine.schedule).1 = .error reason →
        machine.schedule .flush streams.counts.flush = some (.other reason) := by
    intro reason failed
    rw [← Streams.counts_ask machine.options.prompt streams]
    exact Streams.scheduled_of_flush failed
  have asked := asking.trans adds
  rw [Streams.input_ask] at flushedInput
  unfold read
  generalize (streams.ask machine.options.prompt).flush machine.schedule = outcome
    at flushing asked flushedInput scheduled ⊢
  obtain ⟨answer, before⟩ := outcome
  rcases answer with reason | _
  · exact ⟨_, .interrupted flushing (scheduled reason rfl) flushedInput, asked⟩
  · obtain ⟨fetched, fetching, more⟩ := fetch_course machine before
    dsimp only at flushing asked flushedInput ⊢
    rw [flushedInput] at fetching
    have got := asked.trans more
    rw [List.append_assoc] at got
    generalize machine.fetch before = outcome at fetching got ⊢
    obtain ⟨answer, left⟩ := outcome
    rcases answer with ⟨reason | reason⟩ | byte
    · refine ⟨_, .unread flushing fetching, ?_⟩
      have logged := got.trans
        (Streams.adds_of_silent (.log (.readFailed tape.pointer reason)) rfl left)
      rw [List.append_assoc, List.append_assoc] at logged
      exact logged
    · exact ⟨_, .broken flushing fetching, got⟩
    · exact ⟨_, .fetched flushing fetching, store_leaves got _ tape⟩

theorem write_performs (machine : Machine) (tape : Tape) (streams : Streams) :
    ∃ own, Performs machine tape streams (some .write) (machine.write tape streams) own ∧
      (machine.write tape streams).Leaves fun left => streams.Adds left own := by
  have different : some Command.write ≠ some .read := by decide
  unfold write
  cases tape.current? with
  | none => exact ⟨[], .nothing different, .nothing streams⟩
  | some value =>
      have course := Streams.write_course machine.schedule streams value
      dsimp only
      generalize streams.write machine.schedule value = outcome at course ⊢
      obtain ⟨answer, left⟩ := outcome
      rcases course with ⟨reason | reason, rfl, adds⟩ | ⟨rfl, adds⟩
      · exact ⟨_, .unwritten, adds⟩
      · exact ⟨_, .unwritten, adds⟩
      · exact ⟨_, .wrote, adds⟩

theorem effect_performs
    (machine : Machine) (command : Option Command) (tape : Tape) (streams : Streams) :
    ∃ own, Performs machine tape streams command (machine.effect command tape streams) own ∧
      (machine.effect command tape streams).Leaves fun left => streams.Adds left own := by
  have same : streams.Adds streams [] := .nothing streams
  unfold effect
  split
  · refine ⟨[], .nothing (by decide), ?_⟩
    unfold moveRight
    split <;> exact same
  · refine ⟨[], .nothing (by decide), ?_⟩
    unfold moveLeft
    split <;> exact same
  · exact ⟨[], .nothing (by decide), modify_leaves same _ tape⟩
  · exact ⟨[], .nothing (by decide), modify_leaves same _ tape⟩
  · exact write_performs machine tape streams
  · obtain ⟨own, reading, adds⟩ := read_course machine tape streams
    exact ⟨own, .read reading, adds⟩
  · next notRead => exact ⟨[], .nothing notRead, same⟩

end Courses

section Deeds

variable {state next start reached : State} {count fuel : Nat}

/-- What the instruction at a state makes happen. -/
def deeds (machine : Machine) (state : State) : List Event :=
  (machine.step state).state.streams.events.drop state.streams.events.length

/-- What the next `count` instructions of a run make happen. -/
def transcript (machine : Machine) : Nat → State → List Event
  | 0, _ => []
  | count + 1, state =>
    machine.deeds state ++
      match machine.step state with
      | .next next => transcript machine count next
      | _ => []

/-- An instruction hands on the streams that its command has an effect on. -/
theorem holds_after_step
    {Holds : Streams → Prop}
    (leaves : (machine.effect (machine.command? state.index) state.tape state.streams).Leaves
      Holds) : Holds (machine.step state).state.streams := by
  cases found : machine.program[state.index]? with
  | none =>
      rw [command?, found] at leaves
      rw [step_of_end found]
      exact leaves
  | some character =>
      rw [command?, found, Option.bind_some] at leaves
      rcases move_or_stuck found with ⟨next, move⟩ | ⟨failure, left, stuck⟩
      · rw [move.step_eq]
        cases move with
        | plain found' _ _ done =>
            rw [found] at found'
            cases found'
            rw [done] at leaves
            exact leaves
        | skip found' _ _ | enter found' _ _ | again found' _ _ _ | leave found' _ _ =>
            rw [found] at found'
            cases found'
            exact leaves
      · rw [stuck.step_eq]
        cases stuck with
        | plain found' _ _ failed =>
            rw [found] at found'
            cases found'
            rw [failed] at leaves
            exact leaves
        | stray found' _ _ strayed =>
            rw [found] at found'
            cases found'
            rw [strayed] at leaves
            exact leaves
        | noCellAtOpen found' _ | noCellAtClose found' _ _ | unmatchedOpen found' _ _
        | unmatchedClose found' _ =>
            rw [found] at found'
            cases found'
            exact leaves

theorem performs_deeds (machine : Machine) (state : State) :
    Performs machine state.tape state.streams (machine.command? state.index)
        (machine.effect (machine.command? state.index) state.tape state.streams)
        (machine.deeds state) ∧
      state.streams.Adds (machine.step state).state.streams (machine.deeds state) := by
  obtain ⟨own, performs, leaves⟩ :=
    effect_performs machine (machine.command? state.index) state.tape state.streams
  have adds := holds_after_step leaves
  have deedsEq : machine.deeds state = own := by
    rw [deeds, adds.events_eq]
    exact List.drop_left
  rw [deedsEq]
  exact ⟨performs, adds⟩

theorem transcript_succ_of_next (stepEq : machine.step state = .next next) (count : Nat) :
    machine.transcript (count + 1) state =
      machine.deeds state ++ machine.transcript count next := by
  rw [transcript, stepEq]

theorem transcript_succ_of_stop
    (stops : ∀ next, machine.step state ≠ .next next) (count : Nat) :
    machine.transcript (count + 1) state = machine.deeds state := by
  rw [transcript]
  split
  · next next stepEq => exact absurd stepEq (stops next)
  · exact List.append_nil _

/-- A relation between two times and what happens in between, which can be chained and
holds of every instruction of a machine. -/
structure Chains (machine : Machine) (Relates : Streams → Streams → List Event → Prop) :
    Prop where
  nothing : ∀ streams, Relates streams streams []
  trans : ∀ {first second third own further}, Relates first second own →
    Relates second third further → Relates first third (own ++ further)
  step : ∀ state,
    Relates state.streams (machine.step state).state.streams (machine.deeds state)

variable {Relates : Streams → Streams → List Event → Prop}

theorem Chains.of_next
    (chains : machine.Chains Relates) (stepEq : machine.step state = .next next) :
    Relates state.streams next.streams (machine.deeds state) := by
  have here := chains.step state
  rwa [stepEq] at here

/-- What holds of every instruction holds of every run. -/
theorem Chains.of_after
    (chains : machine.Chains Relates) (arrived : machine.after count start = some reached) :
    Relates start.streams reached.streams (machine.transcript count start) := by
  induction count generalizing start with
  | zero =>
      cases arrived
      exact chains.nothing _
  | succ count ih =>
      obtain ⟨next, move, further⟩ := after_succ_eq_some_iff.mp arrived
      rw [transcript_succ_of_next move.step_eq]
      apply chains.trans (chains.of_next move.step_eq)
      exact ih further

theorem Chains.of_execute
    {halt : Halt} (chains : machine.Chains Relates)
    (executed : machine.execute fuel start = some halt) :
    Relates start.streams halt.state.streams (machine.transcript fuel start) := by
  induction fuel generalizing start with
  | zero => cases executed
  | succ fuel ih =>
      have here := chains.step start
      rw [execute_succ] at executed
      cases stepEq : machine.step start with
      | next next =>
          rw [stepEq] at executed
          rw [transcript_succ_of_next stepEq]
          apply chains.trans (chains.of_next stepEq)
          exact ih executed
      | ended left | failed failure left =>
          rw [stepEq] at executed here
          rw [transcript_succ_of_stop (by simp [stepEq])]
          cases executed
          exact here

theorem chains_adds (machine : Machine) : machine.Chains Streams.Adds where
  nothing := .nothing
  trans := .trans
  step := fun state => (performs_deeds machine state).2

end Deeds

end Machine

end Brainfuck
