import Brainfuck.Proofs.ConsumedInput
import Brainfuck.Proofs.Transcript

/-!
# The order of the calls

What a run has put out can be seen before it waits for input and after its end:
between a write and a later read there is a flush, and so there is behind the last
write.  A reading instruction asks before it flushes and flushes before it reads,
and nothing but the prompts is written where the prompts are.
-/

namespace Brainfuck

def callAt (events : List Event) (place : Nat) : Option StreamCall :=
  events[place]?.bind Event.call?

/-- The calls among some events come in an order that lets everything be seen that
was written before a read. -/
structure InOrder (mode : InputMode) (events : List Event) : Prop where
  /-- Between a write and a later read there is a flush. -/
  flushed : ∀ earlier later, earlier < later → callAt events earlier = some .write →
    callAt events later = some .read →
      ∃ between, earlier < between ∧ between < later ∧ callAt events between = some .flush
  /-- The rest of a line is read in line mode, directly behind a byte that does not
  end it. -/
  lines : ∀ place, callAt events place = some .readLine → mode = .line ∧
    ∃ before byte, place = before + 1 ∧ byte ≠ Streams.newline ∧
      events[before]? = some (.read (some byte))

def FlushedReads (events : List Event) : Prop :=
  ∀ place, callAt events place = some .read →
    ∃ before, before < place ∧ callAt events before = some .flush

/-- Some events are in order, and none of them is a write. -/
structure Unwritten (mode : InputMode) (events : List Event) : Prop
    extends InOrder mode events where
  unwritten : ∀ event ∈ events, event.call? ≠ some .write

/-- What a reading instruction makes happen begins with the prompt and a flush, and
there is nothing about a prompt behind them. -/
def AsksFirst (prompt : Option String) (own : List Event) : Prop :=
  ∃ first rest, own = promptEvents prompt ++ first :: rest ∧ first.call? = some .flush ∧
    ∀ event ∈ rest, event.onPrompts = false

/-- Of the calls that were counted between two times, none failed in a way that a
run does not handle. -/
def FailuresHandled (schedule : FaultSchedule) (before after : CallCounts) : Prop :=
  ∀ call number reason, before.count call ≤ number → number < after.count call →
    schedule call number ≠ some (.other reason)

section Places

variable {first second events : List Event} {kind : StreamCall} {place : Nat}

private theorem callAt_append_left (inside : place < first.length) :
    callAt (first ++ second) place = callAt first place := by
  rw [callAt, List.getElem?_append_left inside]
  rfl

private theorem callAt_append_right (first second : List Event) (place : Nat) :
    callAt (first ++ second) (first.length + place) = callAt second place := by
  rw [callAt, List.getElem?_append_right (Nat.le_add_right _ _), Nat.add_sub_cancel_left]
  rfl

private theorem exists_of_callAt (found : callAt events place = some kind) :
    place < events.length ∧ ∃ event ∈ events, event.call? = some kind := by
  obtain ⟨event, here, isCall⟩ := Option.bind_eq_some_iff.mp found
  obtain ⟨inside, _⟩ := List.getElem?_eq_some_iff.mp here
  exact ⟨inside, event, List.mem_of_getElem? here, isCall⟩

private theorem callAt_append_cases (found : callAt (first ++ second) place = some kind) :
    (place < first.length ∧ callAt first place = some kind) ∨
      ∃ behind, place = first.length + behind ∧ callAt second behind = some kind := by
  rcases Nat.lt_or_ge place first.length with inside | beyond
  · rw [callAt_append_left inside] at found
    exact .inl ⟨inside, found⟩
  · obtain ⟨behind, rfl⟩ := Nat.exists_eq_add_of_le beyond
    rw [callAt_append_right] at found
    exact .inr ⟨behind, rfl, found⟩

private theorem Event.onPrompts_of_call {event : Event} (isCall : event.call? = some kind) :
    event.onPrompts = false := by
  cases event with
  | prompt | promptFlush => cases isCall
  | read | readLine | write | flush | failed | log => rfl

end Places

section Joining

variable {mode : InputMode} {first second : List Event}

/-- Events in order stay so when others follow that flush before they read, or when
nothing was written. -/
theorem InOrder.append
    (one : InOrder mode first) (other : InOrder mode second)
    (flushes : (∀ event ∈ first, event.call? ≠ some .write) ∨ FlushedReads second) :
    InOrder mode (first ++ second) where
  flushed := by
    intro earlier later before wrote read
    rcases callAt_append_cases read with ⟨inside, read'⟩ | ⟨behind, rfl, read'⟩
    · rw [callAt_append_left (Nat.lt_trans before inside)] at wrote
      obtain ⟨between, after, within, flush⟩ := one.flushed earlier later before wrote read'
      refine ⟨between, after, within, ?_⟩
      rwa [callAt_append_left (Nat.lt_trans within inside)]
    · rcases callAt_append_cases wrote with ⟨inside, wrote'⟩ | ⟨ahead, rfl, wrote'⟩
      · rcases flushes with unwritten | flushed
        · obtain ⟨_, event, member, isWrite⟩ := exists_of_callAt wrote'
          exact absurd isWrite (unwritten event member)
        · obtain ⟨between, within, flush⟩ := flushed behind read'
          refine ⟨first.length + between, by omega, by omega, ?_⟩
          rwa [callAt_append_right]
      · obtain ⟨between, after, within, flush⟩ :=
          other.flushed ahead behind (by omega) wrote' read'
        refine ⟨first.length + between, by omega, by omega, ?_⟩
        rwa [callAt_append_right]
  lines := by
    intro place found
    rcases callAt_append_cases found with ⟨inside, found'⟩ | ⟨behind, rfl, found'⟩
    · obtain ⟨lineMode, before, byte, rfl, different, read⟩ := one.lines place found'
      refine ⟨lineMode, before, byte, rfl, different, ?_⟩
      rwa [List.getElem?_append_left (Nat.lt_of_succ_lt inside)]
    · obtain ⟨lineMode, before, byte, rfl, different, read⟩ := other.lines behind found'
      refine ⟨lineMode, first.length + before, byte, rfl, different, ?_⟩
      rwa [List.getElem?_append_right (Nat.le_add_right _ _), Nat.add_sub_cancel_left]

theorem Unwritten.append (one : Unwritten mode first) (other : Unwritten mode second) :
    Unwritten mode (first ++ second) where
  toInOrder := one.toInOrder.append other.toInOrder (.inl one.unwritten)
  unwritten := by
    intro event member
    rcases List.mem_append.mp member with here | there
    · exact one.unwritten event here
    · exact other.unwritten event there

theorem FlushedReads.append (one : FlushedReads first) (other : FlushedReads second) :
    FlushedReads (first ++ second) := by
  intro place read
  rcases callAt_append_cases read with ⟨inside, read'⟩ | ⟨behind, rfl, read'⟩
  · obtain ⟨before, earlier, flush⟩ := one place read'
    refine ⟨before, earlier, ?_⟩
    rwa [callAt_append_left (Nat.lt_trans earlier inside)]
  · obtain ⟨before, earlier, flush⟩ := other behind read'
    refine ⟨first.length + before, by omega, ?_⟩
    rwa [callAt_append_right]

private theorem flushedReads_of_unread (unread : ∀ event ∈ first, event.call? ≠ some .read) :
    FlushedReads first := by
  intro place read
  obtain ⟨_, event, member, isRead⟩ := exists_of_callAt read
  exact absurd isRead (unread event member)

private theorem inOrder_of_unlined
    (quiet : (∀ event ∈ first, event.call? ≠ some .write) ∨
      ∀ event ∈ first, event.call? ≠ some .read)
    (unlined : ∀ event ∈ first, event.call? ≠ some .readLine) : InOrder mode first where
  flushed := by
    intro earlier later _ wrote read
    obtain ⟨_, event, member, isWrite⟩ := exists_of_callAt wrote
    obtain ⟨_, other, member', isRead⟩ := exists_of_callAt read
    rcases quiet with unwritten | unread
    · exact absurd isWrite (unwritten event member)
    · exact absurd isRead (unread other member')
  lines := by
    intro place found
    obtain ⟨_, event, member, isLine⟩ := exists_of_callAt found
    exact absurd isLine (unlined event member)

private theorem unwritten_of_plain
    (plain : ∀ event ∈ first, event.call? ≠ some .write ∧ event.call? ≠ some .readLine) :
    Unwritten mode first where
  toInOrder := by
    apply inOrder_of_unlined
    · exact .inl fun event member => (plain event member).1
    · exact fun event member => (plain event member).2
  unwritten := fun event member => (plain event member).1

end Joining

section Instructions

variable {mode : InputMode}

private theorem unwritten_promptEvents (mode : InputMode) (prompt : Option String) :
    Unwritten mode (promptEvents prompt) := by
  apply unwritten_of_plain
  cases prompt <;> simp [promptEvents, Event.call?]

theorem callCount_promptEvents (prompt : Option String) (kind : StreamCall) :
    callCount (promptEvents prompt) kind = 0 := by
  cases prompt <;> simp [promptEvents, callCount, Event.call?]

private theorem unwritten_logs (mode : InputMode) (entries : List LogEntry) :
    Unwritten mode (entries.map .log) := by
  apply unwritten_of_plain
  simp [Event.call?]

private theorem callCount_logs (entries : List LogEntry) (kind : StreamCall) :
    callCount (entries.map .log) kind = 0 := by
  simp [callCount, Event.call?]

/-- A flush is one call, and only entries of the log follow it. -/
theorem Flushing.cons_eq
    {answer : Except String Unit} {flushed : List Event} (flushing : Flushing answer flushed) :
    ∃ (first : Event) (entries : List LogEntry), flushed = first :: entries.map .log ∧
      first.call? = some .flush := by
  cases flushing with
  | done => exact ⟨.flush, [], rfl, rfl⟩
  | refused reason => exact ⟨.failed .flush, [.flushFailed reason], rfl, rfl⟩
  | interrupted reason => exact ⟨.failed .flush, [], rfl, rfl⟩

variable {answer : Except StreamFault (Option UInt8)} {input input' : List UInt8}
  {fetched : List Event}

private theorem unwritten_of_line
    {byte : UInt8} {line : Event} (lineMode : mode = .line) (different : byte ≠ Streams.newline)
    (isLine : line.call? = some .readLine) : Unwritten mode [.read (some byte), line] := by
  have unwritten : ∀ event ∈ [.read (some byte), line], event.call? ≠ some .write := by
    have isRead : (Event.read (some byte)).call? = some .read := rfl
    simp [isRead, isLine]
  refine ⟨⟨?_, ?_⟩, unwritten⟩
  · intro earlier later _ wrote _
    obtain ⟨_, event, member, isWrite⟩ := exists_of_callAt wrote
    exact absurd isWrite (unwritten event member)
  · intro place found
    obtain ⟨inside, _⟩ := exists_of_callAt found
    match place with
    | 0 => cases found
    | 1 => exact ⟨lineMode, 0, byte, rfl, different, rfl⟩
    | place + 2 =>
        simp only [List.length_cons, List.length_nil] at inside
        omega

private theorem Fetching.unwritten (fetching : Fetching mode answer input input' fetched) :
    Unwritten mode fetched := by
  cases fetching with
  | ended | byte _ | unread =>
      apply unwritten_of_plain
      simp [Event.call?]
  | line lineMode different => exact unwritten_of_line lineMode different rfl
  | unreadLine lineMode different => exact unwritten_of_line lineMode different rfl

/-- What a reading instruction makes happen behind its flush: it reads once, unless
the flush ended the run. -/
structure FollowsFlush (machine : Machine) (streams : Streams) (rest : List Event) : Prop where
  unwritten : Unwritten machine.options.inputMode rest
  unasked : ∀ event ∈ rest, event.onPrompts = false
  unflushed : callCount rest .flush = 0
  reads : callCount rest .read = 1 ∨
    callCount rest .read = 0 ∧
      ∃ reason, machine.schedule .flush streams.counts.flush = some (.other reason)

variable {machine : Machine} {tape : Tape} {streams : Streams} {effect : Effect}
  {own rest : List Event}

private theorem Fetching.followsFlush
    (fetching : Fetching machine.options.inputMode answer input input' fetched) :
    FollowsFlush machine streams fetched where
  unwritten := fetching.unwritten
  unasked := by cases fetching <;> simp [Event.onPrompts]
  unflushed := by cases fetching <;> rfl
  reads := by
    left
    cases fetching <;> rfl

private theorem FollowsFlush.append_log
    (follows : FollowsFlush machine streams rest) (entry : LogEntry) :
    FollowsFlush machine streams (rest ++ [.log entry]) where
  unwritten := follows.unwritten.append (unwritten_logs _ [entry])
  unasked := by
    intro event member
    rcases List.mem_append.mp member with here | there
    · exact follows.unasked event here
    · rw [List.mem_singleton.mp there]
      rfl
  unflushed := by
    rw [callCount_append, follows.unflushed]
    rfl
  reads := by
    have quiet : callCount [Event.log entry] .read = 0 := rfl
    rw [callCount_append, quiet, Nat.add_zero]
    exact follows.reads

private theorem ReadCourse.append_eq (reading : ReadCourse machine tape streams effect own) :
    ∃ (first : Event) (entries : List LogEntry) (rest : List Event),
      own = promptEvents machine.options.prompt ++ first :: (entries.map .log ++ rest) ∧
        first.call? = some .flush ∧ FollowsFlush machine streams rest := by
  cases reading with
  | interrupted flushing scheduled _ =>
      obtain ⟨first, entries, rfl, isFlush⟩ := flushing.cons_eq
      refine ⟨first, entries, [], ?_, isFlush, unwritten_logs _ [], ?_, rfl, ?_⟩
      · rw [List.append_nil]
      · simp
      · exact .inr ⟨rfl, _, scheduled⟩
  | fetched flushing fetching | broken flushing fetching =>
      obtain ⟨first, entries, rfl, isFlush⟩ := flushing.cons_eq
      exact ⟨first, entries, _, rfl, isFlush, fetching.followsFlush⟩
  | @unread reason left flushed fetched flushing fetching =>
      obtain ⟨first, entries, rfl, isFlush⟩ := flushing.cons_eq
      exact ⟨first, entries, _, rfl, isFlush, fetching.followsFlush.append_log _⟩

private theorem ReadCourse.asksFirst (reading : ReadCourse machine tape streams effect own) :
    AsksFirst machine.options.prompt own := by
  obtain ⟨first, entries, rest, rfl, isFlush, follows⟩ := reading.append_eq
  refine ⟨first, _, rfl, isFlush, ?_⟩
  intro event member
  rcases List.mem_append.mp member with logged | behind
  · obtain ⟨entry, _, rfl⟩ := List.mem_map.mp logged
    rfl
  · exact follows.unasked event behind

private theorem ReadCourse.unwritten (reading : ReadCourse machine tape streams effect own) :
    Unwritten machine.options.inputMode own := by
  obtain ⟨first, entries, rest, rfl, isFlush, follows⟩ := reading.append_eq
  have flush : Unwritten machine.options.inputMode [first] := by
    apply unwritten_of_plain
    simp [isFlush]
  have behind := (unwritten_logs _ entries).append follows.unwritten
  exact (unwritten_promptEvents _ _).append (flush.append behind)

private theorem AsksFirst.flushedReads {prompt : Option String} (asks : AsksFirst prompt own) :
    FlushedReads own := by
  obtain ⟨first, rest, rfl, isFlush, _⟩ := asks
  have quiet : FlushedReads (promptEvents prompt) := by
    apply flushedReads_of_unread
    cases prompt <;> simp [promptEvents, Event.call?]
  apply quiet.append
  intro place read
  match place with
  | 0 =>
      rw [callAt, List.getElem?_cons_zero, Option.bind_some, isFlush] at read
      cases read
  | place + 1 => exact ⟨0, Nat.succ_pos _, isFlush⟩

private theorem AsksFirst.filter_eq {prompt : Option String} (asks : AsksFirst prompt own) :
    own.filter Event.onPrompts = promptEvents prompt := by
  obtain ⟨first, rest, rfl, isFlush, unasked⟩ := asks
  have prompts : (promptEvents prompt).filter Event.onPrompts = promptEvents prompt := by
    cases prompt <;> rfl
  have nothing : rest.filter Event.onPrompts = [] := by
    simpa using unasked
  rw [List.filter_append, prompts, List.filter_cons, Event.onPrompts_of_call isFlush, nothing]
  exact List.append_nil _

private theorem ReadCourse.callCount_eq (reading : ReadCourse machine tape streams effect own) :
    callCount own .flush = 1 ∧ (callCount own .read = 1 ∨ callCount own .read = 0 ∧
      ∃ reason, machine.schedule .flush streams.counts.flush = some (.other reason)) := by
  obtain ⟨first, entries, rest, rfl, isFlush, follows⟩ := reading.append_eq
  have counts : ∀ kind, callCount (promptEvents machine.options.prompt ++
      first :: (entries.map .log ++ rest)) kind = callCount [first] kind + callCount rest kind := by
    intro kind
    have split : first :: (entries.map Event.log ++ rest) =
        [first] ++ (entries.map Event.log ++ rest) := rfl
    rw [split]
    simp only [callCount_append, callCount_promptEvents, callCount_logs, Nat.zero_add]
  have flushes : callCount [first] .flush = 1 := by simp [callCount, isFlush]
  have reads : callCount [first] .read = 0 := by simp [callCount, isFlush]
  rw [counts, counts, flushes, reads, follows.unflushed, Nat.zero_add]
  exact ⟨rfl, follows.reads⟩

end Instructions

namespace Machine

variable {machine : Machine} {state start reached : State} {count fuel : Nat}

section Deeds

theorem deeds_inOrder (machine : Machine) (state : State) :
    InOrder machine.options.inputMode (machine.deeds state) ∧
      FlushedReads (machine.deeds state) := by
  have performs := (performs_deeds machine state).1
  generalize machine.deeds state = own at performs ⊢
  generalize machine.command? state.index = command at performs
  cases performs with
  | nothing _ | wrote | unwritten =>
      constructor
      · apply inOrder_of_unlined
        · right
          simp [Event.call?]
        · simp [Event.call?]
      · apply flushedReads_of_unread
        simp [Event.call?]
  | read reading => exact ⟨reading.unwritten.toInOrder, reading.asksFirst.flushedReads⟩

/-- Only a reading instruction makes something happen where the prompts are. -/
theorem deeds_prompts (machine : Machine) (state : State) :
    if machine.command? state.index = some .read then
      AsksFirst machine.options.prompt (machine.deeds state)
    else
      ∀ event ∈ machine.deeds state, event.onPrompts = false := by
  have performs := (performs_deeds machine state).1
  generalize machine.deeds state = own at performs ⊢
  generalize machine.command? state.index = command at performs ⊢
  cases performs with
  | nothing notRead =>
      rw [if_neg notRead]
      simp
  | wrote | unwritten => simp [Event.onPrompts]
  | read reading =>
      rw [if_pos rfl]
      exact reading.asksFirst

theorem deeds_callCount (machine : Machine) (state : State) :
    callCount (machine.deeds state) .flush = machine.readsAt state ∧
      (callCount (machine.deeds state) .read = machine.readsAt state ∨
        machine.readsAt state = 1 ∧
          ∃ reason, machine.schedule .flush state.streams.counts.flush = some (.other reason)) := by
  have performs := (performs_deeds machine state).1
  unfold readsAt
  generalize machine.deeds state = own at performs ⊢
  generalize machine.command? state.index = command at performs ⊢
  cases performs with
  | nothing notRead =>
      rw [if_neg notRead]
      exact ⟨rfl, .inl rfl⟩
  | wrote | unwritten => exact ⟨rfl, .inl rfl⟩
  | read reading =>
      obtain ⟨flushes, reads | ⟨_, interrupted⟩⟩ := reading.callCount_eq
      · exact ⟨flushes, .inl reads⟩
      · exact ⟨flushes, .inr ⟨rfl, interrupted⟩⟩

end Deeds

section Transcripts

theorem transcript_inOrder (machine : Machine) (count : Nat) (start : State) :
    InOrder machine.options.inputMode (machine.transcript count start) ∧
      FlushedReads (machine.transcript count start) := by
  induction count generalizing start with
  | zero =>
      constructor
      · apply inOrder_of_unlined
        · left
          simp [transcript]
        · simp [transcript]
      · apply flushedReads_of_unread
        simp [transcript]
  | succ count ih =>
      obtain ⟨inOrder, flushed⟩ := deeds_inOrder machine start
      cases stepEq : machine.step start with
      | next next =>
          obtain ⟨inOrder', flushed'⟩ := ih next
          rw [transcript_succ_of_next stepEq]
          exact ⟨inOrder.append inOrder' (.inr flushed'), flushed.append flushed'⟩
      | ended left | failed failure left =>
          rw [transcript_succ_of_stop (by simp [stepEq])]
          exact ⟨inOrder, flushed⟩

private theorem reads_succ_of_stop (stops : ∀ next, machine.step state ≠ .next next) (count : Nat) :
    machine.reads (count + 1) state = machine.readsAt state := by
  rw [reads_succ]
  split
  · next next stepEq => exact absurd stepEq (stops next)
  · rfl

theorem transcript_prompts (machine : Machine) (count : Nat) (start : State) :
    (machine.transcript count start).filter Event.onPrompts =
      (List.replicate (machine.reads count start)
        (promptEvents machine.options.prompt)).flatten := by
  have once : ∀ state, (machine.deeds state).filter Event.onPrompts =
      (List.replicate (machine.readsAt state) (promptEvents machine.options.prompt)).flatten := by
    intro state
    have prompts := deeds_prompts machine state
    unfold readsAt
    split at prompts
    · next isRead =>
        rw [if_pos isRead, prompts.filter_eq]
        simp
    · next notRead =>
        rw [if_neg notRead]
        simpa using prompts
  induction count generalizing start with
  | zero => rfl
  | succ count ih =>
      cases stepEq : machine.step start with
      | next next =>
          rw [transcript_succ_of_next stepEq, reads_succ, stepEq, List.filter_append, once, ih,
            ← List.flatten_append, List.replicate_append_replicate]
      | ended left | failed failure left =>
          have stops : ∀ next, machine.step start ≠ .next next := by simp [stepEq]
          rw [transcript_succ_of_stop stops, reads_succ_of_stop stops]
          exact once start

/-- Unless a flush is interrupted, a run flushes once for each read. -/
theorem transcript_callCount
    (handled : ∀ number reason, start.streams.counts.flush ≤ number →
      number < start.streams.counts.flush + callCount (machine.transcript count start) .flush →
        machine.schedule .flush number ≠ some (.other reason)) :
    callCount (machine.transcript count start) .flush = machine.reads count start ∧
      callCount (machine.transcript count start) .read = machine.reads count start := by
  have once : ∀ state, (∀ reason, machine.readsAt state = 1 →
      machine.schedule .flush state.streams.counts.flush ≠ some (.other reason)) →
      callCount (machine.deeds state) .flush = machine.readsAt state ∧
        callCount (machine.deeds state) .read = machine.readsAt state := by
    intro state uninterrupted
    obtain ⟨flushes, reads | ⟨isRead, reason, interrupted⟩⟩ := deeds_callCount machine state
    · exact ⟨flushes, reads⟩
    · exact absurd interrupted (uninterrupted reason isRead)
  induction count generalizing start with
  | zero => exact ⟨rfl, rfl⟩
  | succ count ih =>
      have flushes := (deeds_callCount machine start).1
      cases stepEq : machine.step start with
      | next next =>
          have counts := ((chains_adds machine).of_next stepEq).counts_eq .flush
          change next.streams.counts.flush = start.streams.counts.flush + _ at counts
          rw [transcript_succ_of_next stepEq, callCount_append] at handled
          have here : ∀ reason, machine.readsAt start = 1 →
              machine.schedule .flush start.streams.counts.flush ≠ some (.other reason) := by
            intro reason isRead
            exact handled _ reason (Nat.le_refl _) (by omega)
          have later : ∀ number reason, next.streams.counts.flush ≤ number →
              number < next.streams.counts.flush +
                callCount (machine.transcript count next) .flush →
                machine.schedule .flush number ≠ some (.other reason) := by
            intro number reason above below
            exact handled number reason (by omega) (by omega)
          obtain ⟨flushes, reads⟩ := once start here
          obtain ⟨flushes', reads'⟩ := ih later
          rw [transcript_succ_of_next stepEq, callCount_append, callCount_append, reads_succ,
            stepEq, flushes, reads, flushes', reads']
          exact ⟨rfl, rfl⟩
      | ended left | failed failure left =>
          have stops : ∀ next, machine.step start ≠ .next next := by simp [stepEq]
          rw [transcript_succ_of_stop stops] at handled
          rw [transcript_succ_of_stop stops, reads_succ_of_stop stops]
          apply once start
          intro reason isRead
          exact handled _ reason (Nat.le_refl _) (by omega)

end Transcripts

section Ends

theorem report_adds (state : State) :
    ∃ entries : List LogEntry, state.streams.Adds (report state).streams (entries.map .log) := by
  unfold report
  cases state.loops with
  | nil => exact ⟨[_], Streams.adds_of_silent _ rfl _⟩
  | cons innermost outer =>
      have warned := Streams.adds_of_silent (.log (.openLoops (innermost :: outer).length)) rfl
        state.streams
      exact ⟨[_, _], warned.trans (Streams.adds_of_silent _ rfl _)⟩

/-- The last call of a run is a flush. -/
theorem finish_adds (machine : Machine) (halt : Halt) :
    ∃ (last : Event) (entries : List LogEntry), last.call? = some .flush ∧
      halt.state.streams.Adds (machine.finish halt).state.streams (last :: entries.map .log) := by
  obtain ⟨flushed, flushing, adds⟩ := Streams.flush_course machine.schedule halt.state.streams
  obtain ⟨last, entries, rfl, isFlush⟩ := flushing.cons_eq
  have finished := finished_finish machine halt
  generalize machine.finish halt = finish at finished ⊢
  cases finished with
  | interrupted flushEq | failed flushEq _ =>
      rw [flushEq] at adds
      exact ⟨last, entries, isFlush, adds⟩
  | @ended flushed flushEq _ =>
      rw [flushEq] at adds
      obtain ⟨reported, more⟩ := report_adds { halt.state with streams := flushed }
      refine ⟨last, entries ++ reported, isFlush, ?_⟩
      rw [List.map_append]
      exact adds.trans more

private theorem filterMap_promptText?_eq
    {events : List Event} {text : String} {times : Nat}
    (prompts : events.filter Event.onPrompts =
      (List.replicate times (promptEvents (some text))).flatten) :
    events.filterMap Event.promptText? = List.replicate times text := by
  have onlyPrompts : events.filterMap Event.promptText? =
      (events.filter Event.onPrompts).filterMap Event.promptText? := by
    rw [List.filterMap_filter]
    congr 1
    funext event
    cases event <;> rfl
  rw [onlyPrompts, prompts]
  clear prompts onlyPrompts
  induction times with
  | zero => rfl
  | succ times ih =>
      rw [List.replicate_succ, List.flatten_cons, List.filterMap_append, ih]
      rfl

/-- What a whole run made happen. -/
structure CompleteRun (machine : Machine) (fuel : Nat) (start : State) (halt : Halt)
    (events : List Event) : Prop where
  adds : start.streams.Adds halt.state.streams events
  inOrder : InOrder machine.options.inputMode events
  flushedLast : ∃ (before : List Event) (last : Event) (entries : List LogEntry),
    events = before ++ last :: entries.map .log ∧ last.call? = some .flush
  /-- Each reading instruction asks once, and nothing else is where the prompts are. -/
  prompts : events.filter Event.onPrompts =
    (List.replicate (machine.reads fuel start) (promptEvents machine.options.prompt)).flatten
  counted : FailuresHandled machine.schedule start.streams.counts halt.state.streams.counts →
    callCount events .flush = callCount events .read + 1 ∧
      ∀ text, machine.options.prompt = some text →
        promptsOf events = String.join (List.replicate (callCount events .read) text)

theorem completeRun_finish
    {halt : Halt} (executed : machine.execute fuel start = some halt) :
    ∃ events, CompleteRun machine fuel start (machine.finish halt) events := by
  obtain ⟨last, entries, isFlush, closing⟩ := finish_adds machine halt
  have adds := ((chains_adds machine).of_execute executed).trans closing
  have prompts : (machine.transcript fuel start ++ last :: entries.map .log).filter
      Event.onPrompts = (List.replicate (machine.reads fuel start)
        (promptEvents machine.options.prompt)).flatten := by
    rw [List.filter_append, transcript_prompts]
    simp [Event.onPrompts_of_call isFlush]
  refine ⟨_, adds, ?_, ⟨_, last, entries, rfl, isFlush⟩, prompts, ?_⟩
  · have unread : ∀ event ∈ last :: entries.map .log, event.call? ≠ some .read := by
      simp [isFlush]
    obtain ⟨inOrder, _⟩ := transcript_inOrder machine fuel start
    apply inOrder.append
    · apply inOrder_of_unlined (.inr unread)
      simp [isFlush]
    · exact .inr (flushedReads_of_unread unread)
  · intro handled
    have flushOnce : callCount (last :: entries.map .log) .flush = 1 := by
      simp [callCount, isFlush]
    have noRead : callCount (last :: entries.map .log) .read = 0 := by
      simp [callCount, isFlush]
    have counts := adds.counts_eq .flush
    rw [callCount_append, flushOnce] at counts
    have uninterrupted : ∀ number reason, start.streams.counts.flush ≤ number →
        number < start.streams.counts.flush +
          callCount (machine.transcript fuel start) .flush →
          machine.schedule .flush number ≠ some (.other reason) := by
      intro number reason above below
      apply handled .flush number reason above
      rw [counts]
      exact Nat.lt_succ_of_lt below
    obtain ⟨flushes, reads⟩ := transcript_callCount uninterrupted
    rw [callCount_append, callCount_append, flushOnce, noRead, flushes, reads]
    refine ⟨rfl, ?_⟩
    intro text prompt
    rw [prompt] at prompts
    rw [promptsOf, filterMap_promptText?_eq prompts]
    rfl

end Ends

/-- The calls of a run come in order, whatever the streams do: what was written is
flushed before the next read and after the last instruction, the rest of a line is
read only behind its first byte, and an instruction that reads asks first. -/
theorem calls_come_in_order (machine : Machine) (length : Nat) (streams : Streams) :
    let start := State.initial length streams
    (∀ count reached, machine.after count start = some reached →
      streams.Adds reached.streams (machine.transcript count start) ∧
      reached.streams.Adds (machine.step reached).state.streams (machine.deeds reached) ∧
      if machine.command? reached.index = some .read then
        AsksFirst machine.options.prompt (machine.deeds reached)
      else ∀ event ∈ machine.deeds reached, event.onPrompts = false) ∧
    (∀ count, InOrder machine.options.inputMode (machine.transcript count start)) ∧
    ∀ fuel halt, machine.run fuel length streams = some halt →
      ∃ events, CompleteRun machine fuel start halt events := by
  intro start
  refine ⟨?_, ?_, ?_⟩
  · intro count reached arrived
    exact ⟨(chains_adds machine).of_after arrived, (performs_deeds machine reached).2,
      deeds_prompts machine reached⟩
  · intro count
    exact (transcript_inOrder machine count start).1
  · intro fuel halt ran
    obtain ⟨unfinished, executed, rfl⟩ := Option.map_eq_some_iff.mp ran
    exact completeRun_finish executed

/-- A line is read and its first byte put out; the flush before the second read fails
and is logged. -/
theorem calls_come_in_order_around_refused_flush :
    let schedule : FaultSchedule := fun call number =>
      if call = .flush ∧ number = 1 then some (.device "gone") else none
    let machine : Machine :=
      ⟨#[',', '.', ','], 1, { eof := .zero, inputMode := .line, prompt := some "? " }, schedule⟩
    let events : List Event :=
      [.prompt "? ", .promptFlush, .flush, .read (some 7), .readLine [8, 10], .write 7,
        .prompt "? ", .promptFlush, .failed .flush, .log (.flushFailed "gone"), .read (some 10),
        .flush, .log (.finished 3 0)]
    ∃ halt, machine.run 4 1 (.ofInput [7, 8, 10, 10]) = some halt ∧
      halt.state.streams.events = events ∧ InOrder .line events ∧
      FailuresHandled schedule .initial halt.state.streams.counts ∧
      callCount events .flush = callCount events .read + 1 ∧
      promptsOf events = String.join ["? ", "? "] := by
  intro schedule machine events
  have ran : machine.run 4 1 (.ofInput [7, 8, 10, 10]) =
      some ⟨none, ⟨3, [], 3, ⟨#[10], 0, 0⟩, ⟨[], ⟨2, 1, 1, 3⟩, events.reverse⟩⟩⟩ := rfl
  have handled : FailuresHandled schedule .initial ⟨2, 1, 1, 3⟩ := by
    intro call number reason _ _ scheduled
    simp only [schedule] at scheduled
    split at scheduled <;> cases scheduled
  obtain ⟨happened, complete⟩ :=
    (calls_come_in_order machine 1 (.ofInput [7, 8, 10, 10])).2.2 4 _ ran
  obtain rfl : events = happened := complete.adds.events_eq
  obtain ⟨flushes, prompts⟩ := complete.counted handled
  exact ⟨_, ran, rfl, complete.inOrder, handled, flushes, prompts "? " rfl⟩

end Machine

end Brainfuck
