import Brainfuck.Proofs.InputRelation

/-!
# The input that a run consumed

A read sees one byte of the input or, at its end, what the policy stores there.  So
a run depends on no more of its input than it has reads: two runs whose inputs are
the same to as many reads go the same way, whatever follows.
-/

namespace Brainfuck

/-- What a policy stores behind the end of the input. -/
def EofPolicy.padding? : EofPolicy → Option UInt8
  | .zero => some 0
  | .unchanged => none
  | .max => some 255

/-- What the read at a place of the input stores, if it stores anything. -/
def effectiveInput (eof : EofPolicy) (input : List UInt8) (place : Nat) : Option UInt8 :=
  input[place]?.or eof.padding?

/-- Two inputs are the same to the next `count` reads. -/
def AgreeUpTo (eof eof' : EofPolicy) (count : Nat) (input input' : List UInt8) : Prop :=
  ∀ place < count, effectiveInput eof input place = effectiveInput eof' input' place

namespace Machine

def readsAt (machine : Machine) (state : State) : Nat :=
  if machine.command? state.index = some .read then 1 else 0

/-- How many of the next `count` instructions of a run are reads. -/
def reads (machine : Machine) : Nat → State → Nat
  | 0, _ => 0
  | count + 1, state =>
    machine.readsAt state +
      match machine.step state with
      | .next next => reads machine count next
      | _ => 0

def byteReader (program : Program) (size : Nat) (options : Options) (eof : EofPolicy) :
    Machine :=
  reliable program size { options with eof := eof, inputMode := .byte }

variable {program : Program} {size : Nat} {options : Options} {eof eof' : EofPolicy}
  {input input' : List UInt8} {state state' : State}

section Inputs

private theorem stored?_head? (input : List UInt8) :
    (byteReader program size options eof).stored? input.head? = effectiveInput eof input 0 := by
  cases input with
  | nil => cases eof <;> rfl
  | cons byte rest => rfl

private theorem effectiveInput_inputLeft (input : List UInt8) (place : Nat) :
    effectiveInput eof ((byteReader program size options eof).inputLeft input) place =
      effectiveInput eof input (place + 1) := by
  cases input <;> rfl

private theorem keepsInputs_of_agreeUpTo
    {command : Option Command} {budget : Nat} (agree : AgreeUpTo eof eof' budget input input')
    (enough : (if command = some .read then 1 else 0) ≤ budget) :
    KeepsInputs (byteReader program size options eof) (byteReader program size options eof') command
      (AgreeUpTo eof eof' (budget - if command = some .read then 1 else 0)) input input' := by
  unfold KeepsInputs
  split at enough
  · next reads =>
      simp only [if_pos reads]
      constructor
      · rw [stored?_head?, stored?_head?]
        exact agree 0 enough
      · intro place within
        rw [effectiveInput_inputLeft, effectiveInput_inputLeft]
        exact agree (place + 1) (by omega)
  · next other =>
      simp only [if_neg other]
      exact agree

private theorem agreeUpTo_of_take
    {count : Nat} (enough : count ≤ input'.length)
    (same : input.take count = input'.take count) (eof eof' : EofPolicy) :
    AgreeUpTo eof eof' count input input' := by
  intro place within
  have bytes : input[place]? = input'[place]? := by
    rw [← List.getElem?_take_of_lt within, same, List.getElem?_take_of_lt within]
  have inside : place < input'.length := Nat.lt_of_lt_of_le within enough
  rw [effectiveInput, effectiveInput, bytes, List.getElem?_eq_getElem inside]
  rfl

private theorem agreeUpTo_padded (eof : EofPolicy) (input : List UInt8) (pad : Nat) :
    AgreeUpTo .zero eof (input.length + pad) input (input ++ List.replicate pad 0) := by
  intro place within
  unfold effectiveInput
  by_cases inside : place < input.length
  · rw [List.getElem?_append_left inside, List.getElem?_eq_getElem inside]
    rfl
  · have behind : input.length ≤ place := Nat.le_of_not_lt inside
    have padded : place - input.length < pad := by omega
    rw [List.getElem?_append_right behind, List.getElem?_eq_none behind,
      List.getElem?_replicate_of_lt padded]
    rfl

end Inputs

section Runs

/-- What two runs have in common for their next `count` instructions, when their
inputs are the same to the next `budget` reads. -/
structure Together (first second : Machine) (eof eof' : EofPolicy) (budget count : Nat)
    (state state' : State) : Prop where
  after : Option.Rel
    (State.Same (Streams.Alongside (AgreeUpTo eof eof' (budget - first.reads count state))))
    (first.after count state) (second.after count state')
  execute : Option.Rel (Halt.Related Eq
      (State.Same (Streams.Alongside (AgreeUpTo eof eof' (budget - first.reads count state)))))
    (first.execute count state) (second.execute count state')
  reads_eq : second.reads count state' = first.reads count state

variable {first second : Machine} {budget count : Nat}

theorem reads_succ (machine : Machine) (count : Nat) (state : State) :
    machine.reads (count + 1) state =
      machine.readsAt state +
        match machine.step state with
        | .next next => machine.reads count next
        | _ => 0 := rfl

theorem Together.succ
    (steps : Step.Related Eq
      (State.Same (Streams.Alongside (AgreeUpTo eof eof' (budget - first.readsAt state))))
      (first.step state) (second.step state'))
    (readsHere : second.readsAt state' = first.readsAt state)
    (onward : ∀ next next', first.step state = .next next →
      State.Same (Streams.Alongside (AgreeUpTo eof eof' (budget - first.readsAt state)))
        next next' →
      Together first second eof eof' (budget - first.readsAt state) count next next') :
    Together first second eof eof' budget (count + 1) state state' := by
  generalize stepEq : first.step state = made at steps onward
  generalize stepEq' : second.step state' = made' at steps
  cases steps with
  | @next next next' same =>
      obtain ⟨after, execute, readsLater⟩ := onward next next' rfl same
      rw [Nat.sub_sub] at after execute
      constructor
      · rw [after_succ, after_succ, reads_succ, stepEq, stepEq']
        exact after
      · rw [execute_succ, execute_succ, reads_succ, stepEq, stepEq']
        exact execute
      · rw [reads_succ, reads_succ, stepEq, stepEq', readsHere]
        exact congrArg _ readsLater
  | ended same =>
      constructor
      · rw [after_succ, after_succ, stepEq, stepEq']
        exact .none
      · rw [execute_succ, execute_succ, reads_succ, stepEq, stepEq']
        exact .some ⟨.none, same⟩
      · rw [reads_succ, reads_succ, stepEq, stepEq', readsHere]
  | failed failures same =>
      constructor
      · rw [after_succ, after_succ, stepEq, stepEq']
        exact .none
      · rw [execute_succ, execute_succ, reads_succ, stepEq, stepEq']
        exact .some ⟨.some failures, same⟩
      · rw [reads_succ, reads_succ, stepEq, stepEq', readsHere]

theorem together
    (same : State.Same (Streams.Alongside (AgreeUpTo eof eof' budget)) state state')
    (enough : (byteReader program size options eof).reads count state ≤ budget) :
    Together (byteReader program size options eof) (byteReader program size options eof') eof eof'
      budget count state state' := by
  induction count generalizing state state' budget with
  | zero => exact ⟨.some same, .none, rfl⟩
  | succ count ih =>
      have here := Nat.le_trans (Nat.le_add_right _ _) enough
      have pair : SameButReading (byteReader program size options eof)
          (byteReader program size options eof') :=
        sameButReading_reliable program size options eof eof' .byte .byte
      apply Together.succ
      · apply step_alongside pair same
        exact keepsInputs_of_agreeUpTo same.streams.inputs here
      · unfold readsAt
        rw [same.index_eq]
        rfl
      · intro next next' stepEq related
        rw [reads_succ, stepEq] at enough
        apply ih related
        exact Nat.le_sub_of_add_le' enough

/-- The runs on two inputs are the same, apart from the input, until more than
`budget` reads are executed. -/
structure SameUntil (first second : Machine) (size budget : Nat) (input input' : List UInt8) :
    Prop where
  after : ∀ count, first.reads count (.initial size (.ofInput input)) ≤ budget →
    Option.Rel (State.Same Streams.ShowSame)
      (first.after count (.initial size (.ofInput input)))
      (second.after count (.initial size (.ofInput input')))
  reads_eq : ∀ count, first.reads count (.initial size (.ofInput input)) ≤ budget →
    second.reads count (.initial size (.ofInput input')) =
      first.reads count (.initial size (.ofInput input))
  run : ∀ fuel, first.reads fuel (.initial size (.ofInput input)) ≤ budget →
    Option.Rel (Halt.Related Eq (State.Same Streams.ShowSame))
      (first.run fuel size (.ofInput input))
      (second.run fuel size (.ofInput input'))

private theorem sameUntil_of_agree (agree : AgreeUpTo eof eof' budget input input') :
    SameUntil (byteReader program size options eof) (byteReader program size options eof') size
      budget input input' := by
  have initially := alongside_ofInput agree size
  constructor
  · intro count enough
    have paired := (together initially enough).after
    generalize after _ count _ = reached at paired ⊢
    generalize after _ count _ = reached' at paired ⊢
    cases paired with
    | none => exact .none
    | some same => exact .some same.showSame
  · intro count enough
    exact (together initially enough).reads_eq
  · intro fuel enough
    have pair : SameButReading (byteReader program size options eof)
        (byteReader program size options eof') :=
      sameButReading_reliable program size options eof eof' .byte .byte
    refine rel_map ?_ (together initially enough).execute
    intro halt halt' _ same
    have finished := finish_alongside pair same
    exact ⟨finished.failure, finished.state.showSame⟩

private theorem SameUntil.exists_run
    {fuel : Nat} {halt : Halt} (same : SameUntil first second size budget input input')
    (ran : first.run fuel size (.ofInput input) = some halt)
    (enough : first.reads fuel (.initial size (.ofInput input)) ≤ budget) :
    ∃ halt', second.run fuel size (.ofInput input') = some halt' ∧
      Halt.Related Eq (State.Same Streams.ShowSame) halt halt' := by
  have runs := same.run fuel enough
  rw [ran] at runs
  generalize second.run fuel size (.ofInput input') = ran' at runs ⊢
  cases runs with
  | some related => exact ⟨_, rfl, related⟩

/-- A run depends on the input that it consumed: on the bytes that its reads took,
and behind the end of the input on what the policy stores. -/
theorem run_depends_on_consumed_input
    (program : Program) (size : Nat) (options : Options) :
    let reader := byteReader program size options
    (∀ eof eof' input input' budget, AgreeUpTo eof eof' budget input input' →
      SameUntil (reader eof) (reader eof') size budget input input') ∧
    (∀ eof input input' budget, budget ≤ input.length → budget ≤ input'.length →
      input.take budget = input'.take budget →
      SameUntil (reader .unchanged) (reader eof) size budget input input') ∧
    (∀ eof input pad,
      SameUntil (reader .zero) (reader eof) size (input.length + pad) input
        (input ++ List.replicate pad 0)) ∧
    (∀ eof input fuel halt, (reader .zero).run fuel size (.ofInput input) = some halt →
      ∃ enough, ∀ pad ≥ enough, ∃ halt',
        (reader eof).run fuel size (.ofInput (input ++ List.replicate pad 0)) = some halt' ∧
          Halt.Related Eq (State.Same Streams.ShowSame) halt halt') := by
  intro reader
  refine ⟨?_, ?_, ?_, ?_⟩
  · intro eof eof' input input' budget agree
    exact sameUntil_of_agree agree
  · intro eof input input' budget _ enough same
    exact sameUntil_of_agree (agreeUpTo_of_take enough same .unchanged eof)
  · intro eof input pad
    exact sameUntil_of_agree (agreeUpTo_padded eof input pad)
  · intro eof input fuel halt ran
    refine ⟨(reader .zero).reads fuel (.initial size (.ofInput input)), ?_⟩
    intro pad enough
    have same : SameUntil (reader .zero) (reader eof) size _ _ _ :=
      sameUntil_of_agree (agreeUpTo_padded eof input pad)
    exact same.exists_run ran (Nat.le_add_left_of_le enough)

/-- Behind the end of one input a zero is stored that the other one holds. -/
theorem run_depends_on_consumed_input_behind_its_end :
    let reader := byteReader #[',', '.', ',', '.'] 1 .standard
    AgreeUpTo .zero .max 2 [7] [7, 0] ∧
      ∃ halt, (reader .max).run 5 1 (.ofInput [7, 0]) = some halt ∧ halt.failure = none ∧
        halt.state.streams.output = [7, 0] := by
  intro reader
  have agree : AgreeUpTo .zero .max 2 [7] [7, 0] := by
    unfold AgreeUpTo
    decide
  have same : SameUntil (reader .zero) (reader .max) 1 2 [7] [7, 0] :=
    (run_depends_on_consumed_input #[',', '.', ',', '.'] 1 .standard).1 .zero .max [7] [7, 0] 2
      agree
  have ran : (reader .zero).run 5 1 (.ofInput [7]) = some _ := rfl
  obtain ⟨halt, ran', related⟩ := same.exists_run ran (by decide)
  refine ⟨agree, halt, ran', ?_, ?_⟩
  · have failures := related.failure
    generalize halt.failure = failure at failures ⊢
    cases failures
    rfl
  · exact related.state.streams.output_eq.symm

end Runs

end Machine

end Brainfuck
