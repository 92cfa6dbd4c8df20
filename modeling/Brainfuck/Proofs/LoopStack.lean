import Brainfuck.Proofs.Scan
import Brainfuck.Proofs.Step

/-!
# The stack of loops and the text

A run skips loops, enters them, goes back and leaves them as its cells demand.
Its stack of loops depends on the text alone all the same: at every state of a
run it holds the brackets that the text in front of the next instruction leaves
open.
-/

namespace Brainfuck

section OpenBrackets

variable {program : Program} {index start stop : Nat} {outer : List Nat}

theorem openBrackets?_succ
    {character : Char} (found : program[index]? = some character) :
    openBrackets? program (index + 1) =
      (openBrackets? program index).bind fun opened =>
        openFrom? index opened [character] := by
  have listed : program.toList[index]? = some character := by simpa using found
  rw [openBrackets?, List.take_add_one, listed, Option.toList_some, openFrom?_append,
    length_take_of_getElem? listed, Nat.zero_add]
  rfl

/-- Behind a loop the same brackets are open as before it. -/
theorem openBrackets?_behind_partner (partners : Partners program.toList start stop) :
    openBrackets? program (stop + 1) = openBrackets? program start := by
  obtain ⟨before, body, behind, textEq, balanced, startEq, stopEq⟩ := partners
  have loop : program.toList = (before ++ ('[' :: body ++ [']'])) ++ behind := by
    simp [textEq]
  have behindLoop : program.toList.take (stop + 1) = before ++ ('[' :: body ++ [']']) := by
    have length : (before ++ ('[' :: body ++ [']'])).length = stop + 1 := by
      simp only [List.cons_append, List.length_append, List.length_cons, List.length_nil]
      omega
    rw [loop, ← length, List.take_left]
  have beforeLoop : program.toList.take start = before := by
    rw [loop, ← startEq, List.append_assoc, List.take_left]
  rw [openBrackets?, openBrackets?, behindLoop, beforeLoop, openFrom?_append]
  cases openFrom? 0 [] before with
  | none => rfl
  | some opened => exact openFrom?_of_balanced balanced.wrap _ opened

/-- At the start of the body of the innermost loop the same brackets are open
as further on in that body. -/
theorem openBrackets?_body
    (opened : openBrackets? program index = some (start :: outer)) :
    openBrackets? program (start + 1) = some (start :: outer) := by
  have leaves := leavesOpen_of_openFrom? opened
  have bound := leaves.lt_length start List.mem_cons_self
  have shorter : (program.toList.take index).take (start + 1) =
      program.toList.take (start + 1) := by
    rw [List.take_take, Nat.min_eq_left]
    have := List.length_take_le index program.toList
    omega
  rw [openBrackets?, ← shorter]
  generalize program.toList.take index = beginning at leaves
  cases leaves with
  | @loop before body _ front _ =>
      have split : before ++ '[' :: body = (before ++ ['[']) ++ body := by simp
      have length : (before ++ ['[']).length = before.length + 1 := by simp
      rw [split, ← length, List.take_left]
      exact (front.loop .nil).openFrom?_eq

/-- A closing bracket belongs to the bracket that was opened last, if any is
open. -/
theorem head?_eq_some_iff_partners
    {loops : List Nat} (opened : openBrackets? program index = some loops)
    (found : program[index]? = some ']') :
    loops.head? = some start ↔ Partners program.toList start index := by
  have listed : program.toList[index]? = some ']' := by simpa using found
  constructor
  · intro top
    cases loops with
    | nil => cases top
    | cons innermost outer =>
        cases top
        have partners := (leavesOpen_of_openFrom? opened).partners_of_close
          (program.toList.drop (index + 1))
        rwa [← split_of_getElem? listed, length_take_of_getElem? listed] at partners
  · rintro ⟨before, body, behind, textEq, balanced, startEq, stopEq⟩
    have beginning : program.toList.take index = before ++ '[' :: body := by
      have bodyLength : (before ++ '[' :: body).length = index := by
        simp only [List.length_append, List.length_cons]
        omega
      rw [textEq, ← bodyLength, List.take_left]
    rw [openBrackets?, beginning, openFrom?_append] at opened
    obtain ⟨outer, _, last⟩ := Option.bind_eq_some_iff.mp opened
    simp only [openFrom?, if_true, openFrom?_of_balanced balanced, Nat.zero_add] at last
    cases last
    exact congrArg some startEq

end OpenBrackets

namespace Machine

variable {machine : Machine} {state next : State}

/-- The stack of a state holds the brackets that are open in the text in front
of it. -/
def Nested (machine : Machine) (state : State) : Prop :=
  openBrackets? machine.program state.index = some state.loops

theorem nested_initial (length : Nat) (streams : Streams) :
    Nested machine (.initial length streams) := rfl

/-- The stack holds places of opening brackets. -/
theorem Nested.opens (nested : Nested machine state) :
    ∀ start ∈ state.loops, machine.program[start]? = some '[' := by
  intro start member
  have inFront := (leavesOpen_of_openFrom? nested).getElem?_of_mem start member
  rw [List.getElem?_take] at inFront
  split at inFront
  · simpa using inFront
  · cases inFront

theorem Nested.move (nested : Nested machine state) (move : Move machine state next) :
    Nested machine next := by
  unfold Nested at nested ⊢
  cases move with
  | plain found notOpen notClose _ =>
      rw [State.advance, State.goto, openBrackets?_succ found, nested]
      simp [openFrom?, notOpen, notClose]
  | skip found _ closing =>
      have partners := (closing?_eq_some_iff found).mp closing
      rw [State.goto, openBrackets?_behind_partner partners, nested]
  | enter found _ _ =>
      rw [State.advance, State.goto, openBrackets?_succ found, nested]
      simp [openFrom?]
  | again _ loops _ _ =>
      rw [loops] at nested
      rw [State.goto, openBrackets?_body nested, loops]
  | leave found loops _ =>
      rw [State.advance, State.goto, openBrackets?_succ found, nested, loops]
      simp [openFrom?]

theorem Stuck.nested
    {failure : Failure} {left : State} (stuck : Stuck machine state failure left)
    (nested : Nested machine state) : Nested machine left := by
  cases stuck <;> exact nested

/-- No instruction goes further than behind the end of the program. -/
theorem Nested.index_le (nested : Nested machine state) (move : Move machine state next) :
    next.index ≤ machine.program.size := by
  cases move with
  | plain found _ _ _ => exact (Array.getElem?_eq_some_iff.mp found).1
  | @skip stop found _ closing =>
      have partners := (closing?_eq_some_iff found).mp closing
      have closes : machine.program[stop]? = some ']' := by
        simpa using partners.getElem?_stop
      exact (Array.getElem?_eq_some_iff.mp closes).1
  | enter found _ _ => exact (Array.getElem?_eq_some_iff.mp found).1
  | @again _ start _ _ loops _ _ =>
      have opens := nested.opens start (by simp [loops])
      exact (Array.getElem?_eq_some_iff.mp opens).1
  | leave found _ _ => exact (Array.getElem?_eq_some_iff.mp found).1

theorem Reaches.nested
    {length : Nat} {streams : Streams}
    (reached : machine.Reaches (.initial length streams) state) : Nested machine state := by
  obtain ⟨count, arrived⟩ := reached
  exact after_preserves (Nested machine) (fun _ _ nested move => nested.move move) arrived
    (nested_initial length streams)

/-- What the text in front of a state says about its stack of loops. -/
structure MirrorsNesting (machine : Machine) (state : State) : Prop where
  neverOverclosed : NeverOverclosed (machine.program.toList.take state.index)
  listsUnclosed : ListsUnclosed (machine.program.toList.take state.index) state.loops.reverse
  depth : state.loops.length + (machine.program.toList.take state.index).count ']' =
    (machine.program.toList.take state.index).count '['
  top : machine.program[state.index]? = some ']' → ∀ start,
    state.loops.head? = some start ↔ Partners machine.program.toList start state.index

theorem Nested.mirrorsNesting (nested : Nested machine state) :
    MirrorsNesting machine state := by
  have leaves := leavesOpen_of_openFrom? nested
  exact {
    neverOverclosed := leaves.neverOverclosed
    listsUnclosed := leaves.listsUnclosed
    depth := leaves.length_add_count
    top := fun found _ => head?_eq_some_iff_partners nested found }

/-- At every state of a run the stack of loops is the one that the text in front
of it prescribes, so two states at one place of the program have one stack. -/
theorem loops_determined_by_text
    (length : Nat) (streams : Streams)
    (reached : machine.Reaches (.initial length streams) state) :
    MirrorsNesting machine state ∧
      ∀ other, machine.Reaches (.initial length streams) other →
        other.index = state.index → other.loops = state.loops := by
  have nested := reached.nested
  refine ⟨nested.mirrorsNesting, ?_⟩
  intro other otherReached sameIndex
  have otherNested := otherReached.nested
  unfold Nested at nested otherNested
  rw [sameIndex, nested] at otherNested
  exact (Option.some.inj otherNested).symm

/-- A loop is skipped, another one is entered, and a third one is skipped inside
it. -/
theorem loops_determined_inside_second_loop :
    Reaches ⟨#['[', ']', '+', '[', '-', '[', ']', ']'], 2, .standard, .none⟩
        (.initial 2 (.ofInput [])) ⟨7, [3], 5, ⟨#[0, 0], 0, 0⟩, .ofInput []⟩ ∧
      Partners ['[', ']', '+', '[', '-', '[', ']', ']'] 3 7 := by
  have reached : Reaches ⟨#['[', ']', '+', '[', '-', '[', ']', ']'], 2, .standard, .none⟩
      (.initial 2 (.ofInput [])) ⟨7, [3], 5, ⟨#[0, 0], 0, 0⟩, .ofInput []⟩ := ⟨5, rfl⟩
  have mirrors := (loops_determined_by_text 2 (.ofInput []) reached).1
  exact ⟨reached, (mirrors.top rfl 3).mp rfl⟩

end Machine

end Brainfuck
