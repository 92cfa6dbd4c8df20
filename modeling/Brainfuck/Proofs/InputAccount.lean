import Brainfuck.Proofs.SessionReuse
import Brainfuck.Proofs.Trace
import Brainfuck.Proofs.Transcript

/-!
# The account of the input

A machine that reads bytes takes one byte for a read and no other.  What it takes
and what it leaves make up the input, instruction by instruction
(`Machine.taken_append_input`), and on a tape with cells it stores every byte that it
takes (`Machine.stored_eq_taken`).  So over all the runs that share an input the
stored bytes and those that are left are what was supplied, whatever fails.
-/

namespace Brainfuck

/-- The byte that an event took from the input, the rest of a line apart. -/
def Event.takenByte? : Event → Option UInt8
  | .read byte => byte
  | _ => none

/-- The bytes that some events took from the input, the rests of lines apart. -/
def takenOf (events : List Event) : List UInt8 :=
  events.filterMap Event.takenByte?

@[simp]
theorem takenOf_append (first second : List Event) :
    takenOf (first ++ second) = takenOf first ++ takenOf second := by
  simp [takenOf]

@[simp]
theorem takenOf_prompt (prompt : Option String) : takenOf (promptEvents prompt) = [] := by
  cases prompt <;> rfl

@[simp]
theorem takenOf_log (entry : LogEntry) : takenOf [.log entry] = [] := rfl

private theorem Flushing.takenOf_eq
    {answer : Except String Unit} {events : List Event} (flushing : Flushing answer events) :
    takenOf events = [] := by
  cases flushing <;> rfl

/-- Fetching a byte takes what the fetch answers, and nothing when it fails. -/
theorem Fetching.takenOf_eq
    {answer : Except StreamFault (Option UInt8)} {before after : List UInt8}
    {events : List Event} (fetching : Fetching .byte answer before after events) :
    takenOf events = (answer.toOption.bind id).toList ∧ takenOf events ++ after = before := by
  cases fetching with
  | ended | byte _ | unread => exact ⟨rfl, rfl⟩
  | line lineMode _ | unreadLine lineMode _ => cases lineMode

/-- An effect that is completed leaves what was taken, if anything, in the current
cell; one that is not completed took nothing. -/
def Effect.Stores (taken : List UInt8) : Effect → Prop
  | .done tape _ => taken = [] ∨ taken = tape.current?.toList
  | .strayed _ _ | .failed _ _ _ => taken = []

section Instructions

variable {machine : Machine} {tape : Tape} {streams : Streams} {effect : Effect}
  {own : List Event}

theorem Performs.takenOf_eq_nil
    {command : Option Command} (performs : Performs machine tape streams command effect own)
    (notRead : command ≠ some .read) : takenOf own = [] := by
  cases performs with
  | nothing | wrote | unwritten => rfl
  | read => exact absurd rfl notRead

theorem Performs.reading
    (performs : Performs machine tape streams (some .read) effect own) :
    ReadCourse machine tape streams effect own := by
  cases performs with
  | nothing notRead => exact absurd rfl notRead
  | read reading => exact reading

/-- A read takes one byte from the front of the input or leaves the input alone. -/
theorem ReadCourse.taken_append_input
    (reading : ReadCourse machine tape streams effect own)
    (byteMode : machine.options.inputMode = .byte) :
    effect.Leaves fun left => takenOf own ++ left.input = streams.input := by
  cases reading with
  | interrupted flushing _ same => simp [Effect.Leaves, flushing.takenOf_eq, same]
  | fetched flushing fetching =>
      rw [byteMode] at fetching
      apply Machine.store_leaves
      simp [flushing.takenOf_eq, fetching.takenOf_eq.2]
  | unread flushing fetching | broken flushing fetching =>
      rw [byteMode] at fetching
      simp [Effect.Leaves, flushing.takenOf_eq, fetching.takenOf_eq.2]

/-- A value that is stored where there is a cell is the current one afterwards. -/
theorem Machine.store_of_current
    {old : UInt8} (present : tape.current? = some old) (value : Option UInt8)
    (streams : Streams) :
    ∃ tape', Machine.store value tape streams = .done tape' streams ∧
      ∀ new, value = some new → tape'.current? = some new := by
  cases value with
  | none => exact ⟨tape, rfl, by simp⟩
  | some new =>
      have inside : tape.pointer < tape.cells.size :=
        (Array.getElem?_eq_some_iff.mp present).1
      refine ⟨tape.put new, ?_, ?_⟩
      · simp only [store, modify, present]
      · intro other same
        cases same
        exact Tape.current?_put inside new

/-- A read stores the byte that it takes, if there is a cell for it. -/
theorem ReadCourse.stores
    {old : UInt8} (reading : ReadCourse machine tape streams effect own)
    (byteMode : machine.options.inputMode = .byte) (present : tape.current? = some old) :
    effect.Stores (takenOf own) := by
  cases reading with
  | interrupted flushing _ _ => simp [Effect.Stores, flushing.takenOf_eq]
  | @fetched byte left _ _ flushing fetching =>
      rw [byteMode] at fetching
      obtain ⟨tape', done, holds⟩ :=
        Machine.store_of_current present (machine.stored? byte) left
      rw [done]
      simp only [takenOf_append, takenOf_prompt, flushing.takenOf_eq, List.nil_append,
        fetching.takenOf_eq.1]
      cases byte with
      | none => exact .inl rfl
      | some byte =>
          right
          rw [holds byte rfl]
          rfl
  | unread flushing fetching =>
      rw [byteMode] at fetching
      left
      simp [flushing.takenOf_eq, fetching.takenOf_eq.1, Except.toOption]
  | broken flushing fetching =>
      rw [byteMode] at fetching
      simp [Effect.Stores, flushing.takenOf_eq, fetching.takenOf_eq.1, Except.toOption]

end Instructions

namespace Machine

variable {machine : Machine} {state next start reached : State} {tape : Tape}
  {streams : Streams} {count fuel : Nat}

/-- What the instruction at a state stores of the input: the cell at the pointer after
a read that got a byte. -/
def stored (machine : Machine) (state : State) : List UInt8 :=
  match machine.step state with
  | .next next =>
    if takenOf (machine.deeds state) = [] then [] else next.tape.current?.toList
  | _ => []

/-- What the first `count` instructions of a run store of the input. -/
def storedBy (machine : Machine) (count : Nat) (start : State) : List UInt8 :=
  (machine.trace count start).flatMap machine.stored

section Steps

theorem effect_keeps_input
    {command : Option Command} (notRead : command ≠ some .read) (tape : Tape)
    (streams : Streams) :
    (machine.effect command tape streams).Leaves fun left => left.input = streams.input := by
  unfold effect
  split
  · unfold moveRight
    split <;> rfl
  · unfold moveLeft
    split <;> rfl
  · apply modify_leaves
    rfl
  · apply modify_leaves
    rfl
  · have same := Streams.input_call machine.schedule .write streams
    unfold write
    cases tape.current? with
    | none => rfl
    | some value =>
        dsimp only
        unfold Streams.write
        generalize streams.call machine.schedule .write = outcome at same ⊢
        rcases outcome with ⟨_ | ⟨reason | reason⟩, left⟩ <;> exact same
  · exact absurd rfl notRead
  · rfl

theorem step_of_read (isRead : machine.command? state.index = some .read) :
    machine.step state =
      machine.resume state.index state.loops state.steps
        (machine.read state.tape state.streams) := by
  obtain ⟨character, found, command⟩ := Option.bind_eq_some_iff.mp isRead
  have isComma : character = ',' := Command.ofChar?_eq_some_iff.mp command
  subst isComma
  exact step_of_plain found (by decide) (by decide)

/-- What an instruction takes and what it leaves is the input that it found. -/
theorem taken_append_input
    (byteMode : machine.options.inputMode = .byte) (state : State) :
    takenOf (machine.deeds state) ++ (machine.step state).state.streams.input =
      state.streams.input := by
  have performs := (performs_deeds machine state).1
  have leaves : (machine.effect (machine.command? state.index) state.tape state.streams).Leaves
      fun left => takenOf (machine.deeds state) ++ left.input = state.streams.input := by
    by_cases isRead : machine.command? state.index = some .read
    · rw [isRead] at performs ⊢
      exact performs.reading.taken_append_input byteMode
    · rw [performs.takenOf_eq_nil isRead]
      exact effect_keeps_input isRead state.tape state.streams
  exact holds_after_step leaves

theorem stored_eq_taken
    {old : UInt8} (byteMode : machine.options.inputMode = .byte)
    (present : state.tape.current? = some old) :
    machine.stored state = takenOf (machine.deeds state) := by
  have performs := (performs_deeds machine state).1
  unfold stored
  by_cases isRead : machine.command? state.index = some .read
  · rw [isRead] at performs
    have stores : (machine.read state.tape state.streams).Stores
        (takenOf (machine.deeds state)) := performs.reading.stores byteMode present
    rw [step_of_read isRead]
    generalize machine.read state.tape state.streams = effect at stores
    cases effect with
    | done tape left =>
        simp only [resume]
        split
        · next nothing => exact nothing.symm
        · next something =>
            rcases stores with nothing | taken
            · exact absurd nothing something
            · exact taken.symm
    | strayed tape left => exact Eq.symm stores
    | failed failure tape left => exact Eq.symm stores
  · rw [performs.takenOf_eq_nil isRead]
    split <;> rfl

end Steps

section Runs

variable {size : Nat}

theorem storedBy_succ (machine : Machine) (count : Nat) (state : State) :
    machine.storedBy (count + 1) state =
      machine.stored state ++
        match machine.step state with
        | .next next => machine.storedBy count next
        | _ => [] := by
  unfold storedBy
  rw [trace]
  cases stepEq : machine.step state with
  | next next => rfl
  | ended left => simp [stored, stepEq]
  | failed failure left => simp [stored, stepEq]

theorem storedBy_eq_taken
    (byteMode : machine.options.inputMode = .byte) (sized : machine.size = size)
    (sound : start.tape.Sound size) :
    machine.storedBy count start = takenOf (machine.transcript count start) := by
  induction count generalizing start with
  | zero => rfl
  | succ count ih =>
      obtain ⟨old, present⟩ := sound.current?_eq_some
      rw [storedBy_succ, stored_eq_taken byteMode present]
      cases stepEq : machine.step start with
      | next next =>
          have move := step_eq_next_iff.mp stepEq
          rw [transcript_succ_of_next stepEq, takenOf_append]
          exact congrArg _ (ih (move.tape_bounded sized sound).1)
      | ended left | failed failure left =>
          rw [transcript_succ_of_stop (by simp [stepEq])]
          exact List.append_nil _

theorem chains_taken (byteMode : machine.options.inputMode = .byte) :
    machine.Chains fun before after own => takenOf own ++ after.input = before.input where
  nothing := fun _ => rfl
  trans := by
    intro first second third own further here onward
    rw [takenOf_append, List.append_assoc, onward, here]
  step := taken_append_input byteMode

/-- What a run has stored and what is left is the input that it started with. -/
theorem storedBy_append_input
    (arrived : machine.after count start = some reached)
    (byteMode : machine.options.inputMode = .byte) (sized : machine.size = size)
    (sound : start.tape.Sound size) :
    machine.storedBy count start ++ reached.streams.input = start.streams.input := by
  rw [storedBy_eq_taken byteMode sized sound]
  exact (chains_taken byteMode).of_after arrived

theorem storedBy_append_input_of_run
    {halt : Halt} (ran : machine.run fuel size streams = some halt)
    (byteMode : machine.options.inputMode = .byte) (sized : machine.size = size)
    (nonempty : 1 ≤ size) :
    machine.storedBy fuel (.initial size streams) ++ halt.state.streams.input =
      streams.input := by
  obtain ⟨unfinished, executed, rfl⟩ := Option.map_eq_some_iff.mp ran
  rw [(finish_streams machine unfinished).1, Streams.input_flush,
    storedBy_eq_taken byteMode sized (Tape.sound_blank nonempty)]
  exact (chains_taken byteMode).of_execute executed

end Runs

section Refused

/-- The instruction at a state is a read whose call the device refuses, and the flush
before it does not end the run. -/
structure Refuses (machine : Machine) (state : State) (reason : String) : Prop where
  isRead : machine.command? state.index = some .read
  flushed : ∀ other,
    machine.schedule .flush state.streams.counts.flush ≠ some (.other other)
  refused : machine.schedule .read state.streams.counts.read = some (.device reason)

/-- An instruction counts as a step and changes neither the tape nor the input. -/
structure PassesOver (machine : Machine) (state next : State) : Prop where
  step_eq : machine.step state = .next next
  index_eq : next.index = state.index + 1
  loops_eq : next.loops = state.loops
  steps_eq : next.steps = state.steps + 1
  tape_eq : next.tape = state.tape
  input_eq : next.streams.input = state.streams.input
  stored_eq : machine.stored state = []

private theorem fetch_of_refused
    {reason : String}
    (refused : machine.schedule .read streams.counts.read = some (.device reason)) :
    (machine.fetch streams).1 = .error (.device reason) ∧
      (machine.fetch streams).2.input = streams.input := by
  have called : streams.call machine.schedule .read =
      (some (.device reason),
        { streams with counts := streams.counts.bump .read }.record (.failed .read)) := by
    simp only [Streams.call, CallCounts.count, refused]
  unfold fetch Streams.read
  rw [called]
  exact ⟨rfl, rfl⟩

private theorem read_of_refused
    {reason : String}
    (flushed : ∀ other, machine.schedule .flush streams.counts.flush ≠ some (.other other))
    (refused : machine.schedule .read streams.counts.read = some (.device reason))
    (tape : Tape) :
    ∃ left, machine.read tape streams = .done tape left ∧ left.input = streams.input := by
  have counted := Streams.counts_flush machine.schedule (streams.ask machine.options.prompt)
  have same := Streams.input_flush machine.schedule (streams.ask machine.options.prompt)
  have notEnded : ∀ other,
      ((streams.ask machine.options.prompt).flush machine.schedule).1 ≠ .error other := by
    intro other failed
    apply flushed other
    rw [← Streams.counts_ask machine.options.prompt streams]
    exact Streams.scheduled_of_flush failed
  rw [Streams.counts_ask] at counted
  rw [Streams.input_ask] at same
  unfold read
  generalize (streams.ask machine.options.prompt).flush machine.schedule = outcome
    at counted same notEnded ⊢
  obtain ⟨answer, before⟩ := outcome
  rcases answer with other | _
  · exact absurd rfl (notEnded other)
  · have reads : before.counts.read = streams.counts.read := by
      rw [counted]
      rfl
    rw [← reads] at refused
    obtain ⟨failed, untaken⟩ := fetch_of_refused refused
    dsimp only at same ⊢
    generalize machine.fetch before = outcome at failed untaken ⊢
    obtain ⟨answer, left⟩ := outcome
    cases failed
    exact ⟨_, rfl, untaken.trans same⟩

/-- A read whose call the device refuses stores nothing and takes nothing, but it
counts. -/
theorem Refuses.passesOver
    {reason : String} (refuses : machine.Refuses state reason)
    (byteMode : machine.options.inputMode = .byte) :
    ∃ next, machine.PassesOver state next := by
  obtain ⟨left, done, untaken⟩ :=
    read_of_refused refuses.flushed refuses.refused state.tape
  have stepEq : machine.step state =
      .next (State.advance ⟨state.index, state.loops, state.steps, state.tape, left⟩) := by
    rw [step_of_read refuses.isRead, done]
    rfl
  have account := taken_append_input byteMode state
  rw [stepEq] at account
  have nothing : takenOf (machine.deeds state) = [] := by
    apply List.append_left_eq_self.mp
    exact account.trans untaken.symm
  refine ⟨_, stepEq, rfl, rfl, rfl, rfl, untaken, ?_⟩
  simp only [stored, stepEq, if_pos nothing]

end Refused

end Machine

def Action.fed : Action → List UInt8
  | .feed bytes => bytes
  | _ => []

/-- An action that runs nothing but on a machine that reads bytes. -/
def Action.ReadsBytes (options : Options) : Action → Prop
  | .run _ => options.inputMode = .byte
  | _ => True

namespace Session

/-- What an action stores of the input. -/
def storedBy (session : Session) (fuel : Nat) : Action → List UInt8
  | .run program => (session.machine program).storedBy fuel session.firstState
  | _ => []

/-- Sessions that share one input, each reading on where the last one stopped: the
bytes supplied so far, those stored so far, and the session at work.  At any time the
input can be handed over to a new machine, with options and failing calls of its own,
or a program be run on it by itself. -/
inductive Shares (start : Session) : List UInt8 → List UInt8 → Session → Prop where
  | here : Shares start start.streams.input [] start
  | act {session next : Session} {supplied kept : List UInt8} {action : Action} {fuel : Nat}
      {answer : Option Failure} :
      Shares start supplied kept session → action.KeepsSize →
      action.ReadsBytes session.options → session.act fuel action = some (answer, next) →
      Shares start (supplied ++ action.fed) (kept ++ session.storedBy fuel action) next
  | handOver {session other : Session} {supplied kept : List UInt8} {size : Nat} :
      Shares start supplied kept session → 1 ≤ size → other.registers = .blank size size →
      other.streams.input = session.streams.input → Shares start supplied kept other
  | execute {session : Session} {supplied kept : List UInt8} {options : Options}
      {program : Program} {streams : Streams} {fuel : Nat} {execution : Execution} :
      Shares start supplied kept session → options.inputMode = .byte →
      streams.input = session.streams.input →
      runProgram options program streams fuel = some execution →
      Shares start supplied
        (kept ++ (Machine.standard options program).storedBy fuel (.initial standardSize streams))
        { session with streams := execution.streams }

variable {session next start : Session} {supplied kept : List UInt8}

/-- The session has cells, and what was stored and what is left is what was supplied. -/
structure Balanced (supplied kept : List UInt8) (session : Session) : Prop where
  sized : ∃ size, 1 ≤ size ∧ session.registers.Sized size
  account : kept ++ session.streams.input = supplied

theorem firstState_sound
    {size : Nat} (sized : session.registers.Sized size) (nonempty : 1 ≤ size) :
    session.firstState.tape.Sound size := by
  unfold firstState
  rw [sized.cells]
  exact Tape.sound_blank nonempty

theorem Balanced.run
    {program : Program} {fuel : Nat} {answer : Option Failure}
    (balanced : session.Balanced supplied kept) (byteMode : session.options.inputMode = .byte)
    (ran : session.run fuel program = some (answer, next)) :
    (kept ++ (session.machine program).storedBy fuel session.firstState) ++
      next.streams.input = supplied := by
  obtain ⟨size, nonempty, sized⟩ := balanced.sized
  obtain ⟨halt, halted, outcome⟩ := Option.map_eq_some_iff.mp ran
  have account := Machine.storedBy_append_input_of_run (sized.cells ▸ halted) byteMode
    sized.size_eq nonempty
  cases outcome
  rw [firstState, sized.cells, List.append_assoc, account]
  exact balanced.account

theorem Balanced.act
    {action : Action} {fuel : Nat} {answer : Option Failure}
    (balanced : session.Balanced supplied kept) (keeps : action.KeepsSize)
    (readsBytes : action.ReadsBytes session.options)
    (acted : session.act fuel action = some (answer, next)) :
    next.Balanced (supplied ++ action.fed) (kept ++ session.storedBy fuel action) := by
  obtain ⟨size, nonempty, sized⟩ := balanced.sized
  refine ⟨⟨size, nonempty, sized_of_act sized nonempty keeps acted⟩, ?_⟩
  cases action with
  | edit edit =>
      have same : next.streams = session.streams := by
        simp only [Session.act] at acted
        split at acted <;> cases acted <;> rfl
      simpa [storedBy, Action.fed, same] using balanced.account
  | feed bytes =>
      cases acted
      simp only [storedBy, Action.fed, Session.feed, List.append_nil, ← List.append_assoc,
        balanced.account]
  | configure options =>
      cases acted
      simpa [storedBy, Action.fed] using balanced.account
  | run program =>
      simp only [storedBy, Action.fed, List.append_nil]
      exact balanced.run readsBytes acted

theorem Shares.balanced
    (shares : start.Shares supplied kept session) {size : Nat} (nonempty : 1 ≤ size)
    (sized : start.registers.Sized size) : session.Balanced supplied kept := by
  induction shares with
  | here => exact ⟨⟨size, nonempty, sized⟩, rfl⟩
  | act _ keeps readsBytes acted ih => exact ih.act keeps readsBytes acted
  | @handOver session other _ _ size' _ nonempty' blank same ih =>
      refine ⟨⟨size', nonempty', ?_⟩, ?_⟩
      · rw [blank]
        exact Registers.sized_blank size'
      · rw [same]
        exact ih.account
  | execute _ byteMode same ran ih =>
      obtain ⟨halt, halted, rfl⟩ := Option.map_eq_some_iff.mp ran
      have account := Machine.storedBy_append_input_of_run halted byteMode rfl (by decide)
      refine ⟨ih.sized, ?_⟩
      rw [List.append_assoc, account, same]
      exact ih.account

/-- Whatever the programs, however their runs end and whichever calls fail, the bytes
that reads have stored, in order, and those that are left are the bytes supplied,
between two runs and after every instruction of a run.  A read whose call the device
refuses counts as a step and does nothing else. -/
theorem input_is_conserved
    {size : Nat} (nonempty : 1 ≤ size) (options : Options) (schedule : FaultSchedule)
    (input : List UInt8) {bound : Int}
    (started : Session.start size options schedule input bound = .ok start)
    (shares : start.Shares supplied kept session) :
    kept ++ session.streams.input = supplied ∧
      (session.options.inputMode = .byte → ∀ program count state,
        (session.machine program).after count session.firstState = some state →
          (kept ++ (session.machine program).storedBy count session.firstState) ++
              state.streams.input = supplied ∧
            ∀ reason, (session.machine program).Refuses state reason →
              ∃ next, (session.machine program).PassesOver state next) := by
  have sized : start.registers.Sized size := by
    rw [registers_of_start started]
    exact Registers.sized_blank size
  have balanced := shares.balanced nonempty sized
  refine ⟨balanced.account, ?_⟩
  intro byteMode program count state arrived
  obtain ⟨size', nonempty', sized'⟩ := balanced.sized
  refine ⟨?_, fun reason refuses => refuses.passesOver byteMode⟩
  have account := Machine.storedBy_append_input arrived byteMode sized'.size_eq
    (firstState_sound sized' nonempty')
  rw [List.append_assoc, account]
  exact balanced.account

/-- The first read is refused, the second one gets a byte, and the run strays from the
tape.  After that the session is fed, and its next read gets the byte that was left. -/
theorem input_is_conserved_around_refused_read :
    let schedule : FaultSchedule := fun call number =>
      if call = .read ∧ number = 0 then some (.device "gone") else none
    let program : Program := #[',', '>', ',', '<', '<']
    let start : Session := ⟨.blank 2 2, .standard, schedule, .ofInput [1, 2]⟩
    let strayed : Session :=
      ⟨⟨2, #[0, 1], 0, [], 4, 1⟩, .standard, schedule,
        ⟨[2], ⟨2, 0, 0, 3⟩, [.flush, .read (some 1), .flush, .log (.readFailed 0 "gone"),
          .failed .read, .flush]⟩⟩
    let fed := strayed.feed [3]
    Session.start 2 .standard schedule [1, 2] = .ok start ∧
      (start.machine program).Refuses start.firstState "gone" ∧
      (∃ next, (start.machine program).PassesOver start.firstState next) ∧
      start.act 5 (.run program) = some (some (.offTape program 4 0 2), strayed) ∧
      start.Shares [1, 2, 3] [1] fed ∧ [1] ++ fed.streams.input = [1, 2, 3] ∧
      ∃ state, (fed.machine #[',']).after 1 fed.firstState = some state ∧
        (fed.machine #[',']).storedBy 1 fed.firstState = [2] ∧
        ([1] ++ (fed.machine #[',']).storedBy 1 fed.firstState) ++ state.streams.input =
          [1, 2, 3] := by
  intro schedule program start strayed fed
  have started : Session.start 2 .standard schedule [1, 2] = .ok start :=
    start_eq_ok_iff.mpr ⟨_, Registers.fresh_of_lt (by decide) (by decide) (by decide), rfl⟩
  have refuses : (start.machine program).Refuses start.firstState "gone" :=
    ⟨rfl, by intro other; simp [start, machine, schedule], rfl⟩
  have strays : start.act 5 (.run program) =
      some (some (.offTape program 4 0 2), strayed) := rfl
  have feeds : strayed.act 0 (.feed [3]) = some (none, fed) := rfl
  have shares : start.Shares [1, 2, 3] [1] fed :=
    (Shares.here.act (by trivial) (by rfl) strays).act (by trivial) (by trivial) feeds
  obtain ⟨_, atFirst⟩ :=
    input_is_conserved (by decide) .standard schedule [1, 2] started Shares.here
  obtain ⟨between, within⟩ :=
    input_is_conserved (by decide) .standard schedule [1, 2] started shares
  have passes := (atFirst rfl program 0 start.firstState rfl).2 "gone" refuses
  exact ⟨started, refuses, passes, strays, shares, between, _, rfl, rfl,
    (within rfl #[','] 1 _ rfl).1⟩

/-- On a tape without cells the read takes a byte and then finds no cell for it. -/
theorem input_is_lost_without_cells :
    let start : Session := ⟨.blank 0 0, .standard, .none, .ofInput [7]⟩
    ∃ next, Session.start 0 .standard .none [7] = .ok start ∧
      start.act 1 (.run #[',']) = some (some (.noSuchCell 0 0), next) ∧
      start.Shares [7] [] next ∧ [] ++ next.streams.input ≠ [7] := by
  intro start
  have started : Session.start 0 .standard .none [7] = .ok start :=
    start_eq_ok_iff.mpr ⟨_, Registers.fresh_of_lt (by decide) (by decide) (by decide), rfl⟩
  have fails : start.act 1 (.run #[',']) = some (some (.noSuchCell 0 0), _) := rfl
  have shares : start.Shares [7] [] _ := Shares.here.act (by trivial) (by rfl) fails
  exact ⟨_, started, fails, shares, by decide⟩

end Session

end Brainfuck
