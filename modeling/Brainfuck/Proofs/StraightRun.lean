import Mathlib.Order.Nat
import Brainfuck.Proofs.CountingLoop
import Brainfuck.Proofs.FailedRun
import Brainfuck.Proofs.Relocation

/-!
# Runs of straight texts

A straight text that is a whole program is executed once from left to right, until the
pointer would leave the tape or there is no character left.  The displacements of its
beginnings tell which of the two happens and where.  What was executed by then has the
closed form of a straight text, and the run leaves that on its blank tape.
-/

namespace Brainfuck

/-- The character at a place of a text moves off a tape with `size` cells, when the text
starts at the first of them. -/
def StraysAt (size : Nat) (text : List Char) (index : Nat) : Prop :=
  index < text.length ∧
    ¬ (0 ≤ displacement (text.take (index + 1)) ∧ displacement (text.take (index + 1)) < size)

instance (size : Nat) (text : List Char) (index : Nat) : Decidable (StraysAt size text index) :=
  inferInstanceAs (Decidable (index < text.length ∧
    ¬ (0 ≤ displacement (text.take (index + 1)) ∧ displacement (text.take (index + 1)) < size)))

/-- What a run leaves that executed the first `count` characters of a straight text, on a
tape with `size` cells that was blank. -/
structure LeftByStraight (size : Nat) (text : List Char) (count : Nat) (state : State) :
    Prop where
  steps_eq : state.steps = count
  pointer_eq : (state.tape.pointer : Int) = displacement (text.take count)
  highest : IsGreatest {place | ∃ done ≤ count, displacement (text.take done) = place}
    (state.tape.highest : Int)
  size_eq : state.tape.cells.size = size
  cell?_eq : ∀ place < size, ∃ value, state.tape.cells[place]? = some value ∧
    (value.toNat : Int) = change (text.take count) place % 256

def Streams.FlushHandled (schedule : FaultSchedule) (streams : Streams) : Prop :=
  ∀ reason, schedule .flush streams.counts.flush ≠ some (.other reason)

private theorem LeftByStraight.withStreams
    {size count : Nat} {text : List Char} {state : State}
    (left : LeftByStraight size text count state) (streams : Streams) :
    LeftByStraight size text count { state with streams := streams } :=
  ⟨left.steps_eq, left.pointer_eq, left.highest, left.size_eq, left.cell?_eq⟩

section Texts

variable {size index count : Nat} {text : List Char} {character : Char}

theorem displacement_take_succ (found : text[index]? = some character) :
    displacement (text.take (index + 1)) =
      displacement (text.take index) + displacement [character] := by
  rw [List.take_add_one, found, displacement_append]
  rfl

private theorem staysOn_of_not_straysAt
    (nonempty : 1 ≤ size) (inside : ∀ index < count, ¬ StraysAt size text index) :
    StaysOn size 0 (text.take count) := by
  intro front begins
  rw [Int.zero_add]
  have shorter : front.length ≤ min count text.length := by
    rw [← List.length_take]
    exact begins.length_le
  have front_eq : front = text.take front.length := by
    rw [List.prefix_iff_eq_take, List.take_take, Nat.min_eq_left (by omega)] at begins
    exact begins
  rw [front_eq]
  cases done : front.length with
  | zero =>
      rw [List.take_zero, displacement_nil]
      omega
  | succ index =>
      by_contra strays
      exact inside index (by omega) ⟨by omega, strays⟩

end Texts

namespace Machine

variable {machine : Machine} {size index count fuel : Nat} {text : List Char}
  {streams : Streams} {tape : Tape}

section Ends

variable {reached : State} {start : Streams} {cause : Option Failure}

theorem reported_of_flushHandled
    (handled : streams.FlushHandled machine.schedule) (cause : Option Failure) :
    machine.reported cause streams = cause := by
  unfold reported
  cases flushed : (streams.flush machine.schedule).1 with
  | error reason => exact absurd (Streams.scheduled_of_flush flushed) (handled reason)
  | ok _ => rfl

/-- A run that cannot go on behind some instructions ends there, and the last flush and
the report change nothing but the streams. -/
theorem Stops.exists_run
    (stops : Stops machine reached cause streams)
    (arrived : machine.after count (.initial size start) = some reached)
    (handled : streams.FlushHandled machine.schedule) :
    ∃ halt, (∀ fuel > count, machine.run fuel size start = some halt) ∧ halt.failure = cause ∧
      ∃ last, halt.state = { reached with streams := last } := by
  refine ⟨machine.finish ⟨cause, { reached with streams := streams }⟩, ?_, ?_, ?_⟩
  · intro fuel enough
    rw [run, stops.execute_eq arrived enough]
    rfl
  · rw [finish_failure_eq]
    exact reported_of_flushHandled handled cause
  · rw [finish_state_eq]
    exact ⟨_, rfl⟩

end Ends

section Beginnings

variable (straight : Straight text) (nonempty : 1 ≤ size) (sized : machine.size = size)
  (inside : ∀ index < count, ¬ StraysAt size text index)

include straight nonempty sized inside

theorem atStraight_initial (streams : Streams) :
    AtStraight (machine.running text) size (text.take count) (.initial size streams) where
  placed := by
    have whole : HasAt text.toArray 0 (text.take count ++ text.drop count) := by
      rw [List.take_append_drop]
      exact .of_toList text.toArray
    exact whole.append.1
  straight := straight.take count
  sized := sized
  cells := Array.size_replicate
  stays := staysOn_of_not_straysAt nonempty inside

theorem after_straight (bound : count ≤ text.length) (streams : Streams) :
    ∃ tape, (Tape.blank size).Shifts (displacement (text.take count)) (change (text.take count))
        tape ∧
      (machine.running text).after count (.initial size streams) =
        some ⟨count, [], count, tape, streams⟩ := by
  obtain ⟨tape, shifts, arrived⟩ :=
    (atStraight_initial straight nonempty sized inside streams).exists_after
  simp only [State.initial, List.length_take_of_le bound, Nat.zero_add] at shifts arrived
  exact ⟨tape, shifts, arrived⟩

/-- The pointer has been where the beginnings of the text lead. -/
theorem mem_visited_straight_iff (bound : count ≤ text.length) (streams : Streams) (place : Nat) :
    place ∈ (machine.running text).visited (.initial size streams) count ↔
      ∃ done ≤ count, displacement (text.take done) = place := by
  have pointers : ∀ done ≤ count, ∀ reached,
      (machine.running text).after done (.initial size streams) = some reached →
        (reached.tape.pointer : Int) = displacement (text.take done) := by
    intro done earlier reached arrived
    obtain ⟨tape, shifts, arrived'⟩ := after_straight straight nonempty sized
      (fun index less => inside index (by omega)) (Nat.le_trans earlier bound) streams
    rw [arrived] at arrived'
    cases arrived'
    exact shifts.pointer_eq.trans (Int.zero_add _)
  constructor
  · rintro ⟨done, earlier, reached, arrived, rfl⟩
    exact ⟨done, earlier, (pointers done earlier reached arrived).symm⟩
  · rintro ⟨done, earlier, moved⟩
    obtain ⟨tape, _, arrived⟩ := after_straight straight nonempty sized
      (fun index less => inside index (by omega)) (Nat.le_trans earlier bound) streams
    have pointer := pointers done earlier _ arrived
    exact ⟨done, earlier, _, arrived, by omega⟩

theorem exists_leftByStraight (bound : count ≤ text.length) (streams : Streams) :
    ∃ tape, (machine.running text).after count (.initial size streams) =
        some ⟨count, [], count, tape, streams⟩ ∧
      LeftByStraight size text count ⟨count, [], count, tape, streams⟩ := by
  obtain ⟨tape, shifts, arrived⟩ :=
    after_straight straight nonempty sized inside bound streams
  have visited := mem_visited_straight_iff straight nonempty sized inside bound streams
  obtain ⟨reaches, upper⟩ :=
    isGreatest_highest arrived sized (Tape.sound_blank nonempty) rfl
  refine ⟨tape, arrived, rfl, shifts.pointer_eq.trans (Int.zero_add _), ⟨?_, ?_⟩, ?_, ?_⟩
  · exact (visited _).mp reaches
  · rintro _ ⟨done, earlier, rfl⟩
    have stays := staysOn_of_not_straysAt nonempty
      fun index less => inside index (Nat.lt_of_lt_of_le less earlier)
    have placed := stays _ (List.prefix_refl _)
    obtain ⟨place, placeEq⟩ := Int.eq_ofNat_of_zero_le placed.1
    rw [Int.zero_add] at placeEq
    rw [placeEq]
    exact Int.ofNat_le.mpr (upper ((visited place).mpr ⟨done, earlier, placeEq⟩))
  · exact shifts.size_eq.trans Array.size_replicate
  · intro place within
    have blank : (Tape.blank size).cells[place]? = some 0 := by
      simp [Tape.blank, within]
    have offset : (place : Int) - (Tape.blank size).pointer = place := Int.sub_zero _
    have cell := shifts.cell?_eq place
    rw [blank, offset] at cell
    refine ⟨_, cell, (toNat_add_ofInt 0 _).trans ?_⟩
    rw [UInt8.toNat_zero, Int.natCast_zero, Int.zero_add]

end Beginnings

section Endings

variable (straight : Straight text)

include straight

private theorem effect_of_strays
    {character : Char} (found : text[index]? = some character) (sized : machine.size = size)
    (pointer : (tape.pointer : Int) = displacement (text.take index))
    (onTape : tape.pointer < size) (strays : StraysAt size text index) (streams : Streams) :
    machine.effect (Command.ofChar? character) tape streams = .strayed tape streams := by
  obtain ⟨_, off⟩ := strays
  rw [displacement_take_succ found, ← pointer] at off
  have known : character ∈ ['>', '<', '+', '-'] :=
    straight character (List.mem_of_getElem? found)
  simp only [List.mem_cons, List.not_mem_nil, or_false] at known
  rcases known with rfl | rfl | rfl | rfl
  · have moved : displacement ['>'] = 1 := rfl
    rw [moved] at off
    exact if_pos (by omega)
  · have moved : displacement ['<'] = -1 := rfl
    rw [moved] at off
    exact if_pos (by omega)
  · have still : displacement ['+'] = 0 := rfl
    rw [still] at off
    omega
  · have still : displacement ['-'] = 0 := rfl
    rw [still] at off
    omega

theorem stops_of_strays
    (sized : machine.size = size)
    (pointer : (tape.pointer : Int) = displacement (text.take index))
    (onTape : tape.pointer < size) (strays : StraysAt size text index) (streams : Streams) :
    Stops (machine.running text) ⟨index, [], index, tape, streams⟩
      (some (.offTape text.toArray index (displacement (text.take index)) size)) streams := by
  have within := strays.1
  have found : text[index]? = some text[index] := List.getElem?_eq_getElem within
  have foundHere : (machine.running text).program[index]? = some text[index] := by
    simp [running, found]
  have known : Straight [text[index]] :=
    List.forall_mem_singleton.mpr (straight _ (List.getElem_mem within))
  obtain ⟨notOpen, notClose⟩ := known.noBracket
  have strayed := effect_of_strays straight found sized pointer onTape strays streams
  have stuck : Stuck (machine.running text) ⟨index, [], index, tape, streams⟩ _ _ :=
    .stray foundHere notOpen notClose strayed
  have stops := Stops.failed stuck.step_eq
  rw [← pointer, ← sized]
  exact stops

end Endings

section Runs

variable (straight : Straight text) (nonempty : 1 ≤ size) (sized : machine.size = size)
  (handled : streams.FlushHandled machine.schedule)

include straight nonempty sized handled

theorem run_of_strays (least : IsLeast {index | StraysAt size text index} index) :
    ∃ halt, (∀ fuel > index, (machine.running text).run fuel size streams = some halt) ∧
      halt.failure = some (.outOfBounds (displacement (text.take index)) size index
        (context text.toArray index)) ∧
      LeftByStraight size text index halt.state := by
  obtain ⟨strays, lower⟩ := least
  have inside : ∀ earlier < index, ¬ StraysAt size text earlier :=
    fun earlier less there => absurd (lower there) (Nat.not_le.mpr less)
  obtain ⟨tape, arrived, left⟩ := exists_leftByStraight straight nonempty sized inside
    (Nat.le_of_lt strays.1) streams
  have onTape := (after_tape_sound arrived sized (Tape.sound_blank nonempty)).pointer_lt
  have stops := stops_of_strays straight sized left.pointer_eq onTape strays streams
  obtain ⟨halt, ran, failed, last, state⟩ := stops.exists_run arrived handled
  refine ⟨halt, ran, failed, ?_⟩
  rw [state]
  exact left.withStreams last

theorem run_of_stays (inside : ∀ index, ¬ StraysAt size text index) :
    ∃ halt, (∀ fuel > text.length, (machine.running text).run fuel size streams = some halt) ∧
      halt.failure = none ∧ LeftByStraight size text text.length halt.state := by
  obtain ⟨tape, arrived, left⟩ := exists_leftByStraight straight nonempty sized
    (fun index _ => inside index) (Nat.le_refl _) streams
  have ended : (machine.running text).program[text.length]? = none := by simp [running]
  have stops : Stops (machine.running text) ⟨text.length, [], text.length, tape, streams⟩ none
      streams := .ended (step_of_end ended)
  obtain ⟨halt, ran, failed, last, state⟩ := stops.exists_run arrived handled
  refine ⟨halt, ran, failed, ?_⟩
  rw [state]
  exact left.withStreams last

end Runs

/-- The closed form of straight programs.  A run fails just when a beginning of the program
leads off the tape, namely at the first character that does, and ends behind the last one
otherwise.  Both times the pointer, its greatest value and the cells are those that the
executed characters add up to. -/
theorem straight_run_closed_form
    (straight : Straight text) (nonempty : 1 ≤ size) (sized : machine.size = size)
    (handled : streams.FlushHandled machine.schedule) :
    ((∃ fuel halt, (machine.running text).run fuel size streams = some halt ∧
        ∃ pointer stated position context,
          halt.failure = some (.outOfBounds pointer stated position context)) ↔
      ∃ index, StraysAt size text index) ∧
    (∀ index, IsLeast {index | StraysAt size text index} index → ∃ halt,
      (∀ fuel > index, (machine.running text).run fuel size streams = some halt) ∧
      halt.failure = some (.outOfBounds (displacement (text.take index)) size index
        (context text.toArray index)) ∧
      LeftByStraight size text index halt.state) ∧
    ((∀ index, ¬ StraysAt size text index) → ∃ halt,
      (∀ fuel > text.length, (machine.running text).run fuel size streams = some halt) ∧
      halt.failure = none ∧ LeftByStraight size text text.length halt.state) := by
  refine ⟨⟨?_, ?_⟩, ?_, ?_⟩
  · rintro ⟨fuel, halt, ran, pointer, stated, position, context, failed⟩
    by_contra stays
    obtain ⟨halt', ran', ended, _⟩ :=
      run_of_stays straight nonempty sized handled (not_exists.mp stays)
    rw [run_unique ran (ran' _ (Nat.lt_succ_self _)), ended] at failed
    cases failed
  · intro strays
    obtain ⟨halt, ran, failed, _⟩ :=
      run_of_strays straight nonempty sized handled (Nat.isLeast_find strays)
    exact ⟨_, halt, ran _ (Nat.lt_succ_self _), _, _, _, _, failed⟩
  · intro index least
    exact run_of_strays straight nonempty sized handled least
  · exact run_of_stays straight nonempty sized handled

/-- A text counts its first cell down past zero, and its fourth character leaves a tape with
two cells. -/
theorem straight_run_closed_form_behind_second_cell :
    let text := ['-', '>', '+', '>', '<']
    let machine : Machine := ⟨#[], 2, .standard, .none⟩
    Straight text ∧ (Streams.ofInput []).FlushHandled machine.schedule ∧
      IsLeast {index | StraysAt 2 text index} 3 ∧
      ∃ halt, (machine.running text).run 4 2 (.ofInput []) = some halt ∧
        halt.failure = some (.outOfBounds 1 2 3 (context text.toArray 3)) ∧
        halt.state.steps = 3 ∧ halt.state.tape.pointer = 1 ∧ halt.state.tape.highest = 1 ∧
        ∃ value, halt.state.tape.cells[0]? = some value ∧ value.toNat = 255 := by
  intro text machine
  have straight : Straight text := by simp [Straight, text]
  have handled : (Streams.ofInput []).FlushHandled machine.schedule := by
    intro reason interrupted
    cases interrupted
  have least : IsLeast {index | StraysAt 2 text index} 3 := by
    refine ⟨by decide, ?_⟩
    intro index strays
    by_contra less
    have inside : ∀ index < 3, ¬ StraysAt 2 text index := by decide
    exact inside index (Nat.lt_of_not_le less) strays
  have sized : machine.size = (2 : Nat) := rfl
  have closed := straight_run_closed_form straight (by decide) sized handled
  obtain ⟨halt, ran, failed, left⟩ := closed.2.1 3 least
  have pointer : displacement (text.take 3) = 1 := by decide
  have below : ∀ done ≤ 3, displacement (text.take done) ≤ 1 := by decide
  obtain ⟨⟨done, earlier, highest⟩, upper⟩ := left.highest
  have atLeast := upper ⟨3, Nat.le_refl 3, pointer⟩
  have atMost := below done earlier
  have moved := left.pointer_eq
  obtain ⟨value, cell, amount⟩ := left.cell?_eq 0 (by decide)
  have down : change (text.take 3) 0 = -1 := by decide
  rw [pointer] at failed moved
  rw [Int.natCast_zero, down] at amount
  exact ⟨straight, handled, least, halt, ran 4 (by decide), failed, left.steps_eq, by omega,
    by omega, value, cell, by omega⟩

end Machine

end Brainfuck
