import TapeMachine.Proofs.Lockstep
import TapeMachine.Proofs.Visits

/-! What a machine does at the end of its input. Machines that differ in this policy alone go
through the same states until one of them reads and the input has run dry; there the policy decides
about one cell and about whether the read was a step.
-/

namespace TapeMachine.Machine

-----------------------------------------------------------------------------------------
-- Reading at the end of the input
-----------------------------------------------------------------------------------------

/-- The machine is about to read into a cell, and there is nothing to read. It faults, or it goes
on to the next instruction and has, depending on the policy, stored zero in the cell or left the
cell as it was. Storing zero takes a mark off the cell.
-/
structure DryRead (machine : Machine) (cell : Nat) : Prop where
  reads : machine.request = .read cell
  ended : machine.input.read.1 = .ok none
  fault
    : (machine.withEofPolicy .fault).step
      = (.error .inputExhausted,
          { machine with
            eofPolicy := .fault
            input := machine.input.read.2 })
  unchanged
    : (machine.withEofPolicy .unchanged).step
      = (.ok (),
          { machine with
            eofPolicy := .unchanged
            input := machine.input.read.2
            programCounter := machine.programCounter + 1
            steps := machine.steps + 1 })
  zero
    : (machine.withEofPolicy .zero).step
      = (.ok (),
          { machine with
            eofPolicy := .zero
            input := machine.input.read.2
            tape := machine.tape.store cell 0
            programCounter := machine.programCounter + 1
            steps := machine.steps + 1 })
  unmarked : (machine.tape.store cell 0).cell cell = .data 0

theorem dryRead_of_ended {machine : Machine} {cell : Nat} (reads : machine.request = .read cell)
    (ended : machine.input.read.1 = .ok none)
    : machine.DryRead cell := by
  have taken : machine.input.read = (.ok none, machine.input.read.2) := Prod.ext ended rfl
  have tried (policy : EofPolicy)
      : (machine.withEofPolicy policy).step
        = counted ((machine.withEofPolicy policy).readCell cell) := by
    have alsoReads : (machine.withEofPolicy policy).request = .read cell := reads
    rw [step_eq_counted, attempt_of_read alsoReads]
  have sameInput (policy : EofPolicy)
      : (machine.withEofPolicy policy).input.read = (.ok none, machine.input.read.2) :=
    taken
  have inside : cell < machine.tape.size :=
    (Tape.locate_eq_ok_iff.mp (request_eq_read_iff.mp reads).2).2
  refine ⟨reads, ended, ?_, ?_, ?_, ?_⟩
  · rw [tried, readCell, sameInput]
    rfl
  · rw [tried, readCell, sameInput]
    rfl
  · rw [tried, readCell, sameInput]
    rfl
  · rw [Tape.cell_store, if_pos ⟨rfl, inside⟩]

/-- Only a read at the end of the input exhausts it. -/
theorem dryRead_of_exhausted {machine : Machine}
    (exhausted : machine.step.1 = .error .inputExhausted)
    : ∃ cell, machine.DryRead cell := by
  rw [step_eq_counted, counted_fst] at exhausted
  cases asks : machine.request with
  | nothing => exact absurd trivial (attempt_fault_not_fromDevice asks exhausted)
  | write cell =>
      rw [attempt_of_write asks, writeCell] at exhausted
      split at exhausted <;> cases exhausted
  | flush =>
      rw [attempt_of_flush asks, halt] at exhausted
      split at exhausted <;> cases exhausted
  | read cell =>
      refine ⟨cell, dryRead_of_ended asks ?_⟩
      rw [attempt_of_read asks, readCell_eq] at exhausted
      rcases taken : machine.input.read.1 with _ | _ | value
      · rw [taken] at exhausted
        cases exhausted
      · rfl
      · rw [taken] at exhausted
        cases exhausted

-----------------------------------------------------------------------------------------
-- Machines with another policy
-----------------------------------------------------------------------------------------

/-- A step that does not exhaust the input does not look at the policy. -/
theorem step_withEofPolicy {machine : Machine} (faults : machine.eofPolicy = .fault)
    (supplied : machine.step.1 ≠ .error .inputExhausted) (policy : EofPolicy)
    : (machine.withEofPolicy policy).step
      = (machine.step.1, machine.step.2.withEofPolicy policy) := by
  have supplies : ∀ cell, machine.request = .read cell → machine.input.read.1 = .ok none
      → policy = machine.eofPolicy := by
    intro cell reads ended
    have own : machine.withEofPolicy .fault = machine := by
      rw [withEofPolicy, ← faults]
    have exhausted := (dryRead_of_ended reads ended).fault
    rw [own] at exhausted
    exact absurd (congrArg Prod.fst exhausted) supplied
  exact step_recast supplies 0

/-- Equipment that faults at the end of the input, and the same equipment with another policy. No
step tells them apart but one that exhausts the input.
-/
def eofPolicies (policy : EofPolicy) : Lockstep where
  alike first second := first.eofPolicy = .fault ∧ second = { first with eofPolicy := policy }
  excused fault := fault = .inputExhausted
  step := by
    rintro machine _ ⟨faults, rfl⟩ binding
    have supplied : machine.step.1 ≠ .error .inputExhausted :=
      fun exhausted => binding .inputExhausted exhausted rfl
    have kept : machine.step.2.eofPolicy = .fault := machine.eofPolicy_step.trans faults
    exact ⟨_, ⟨kept, rfl⟩, step_withEofPolicy faults supplied policy⟩
  flush := by
    rintro first _ ⟨faults, rfl⟩
    exact ⟨rfl, faults, rfl⟩

-----------------------------------------------------------------------------------------
-- The states that a machine goes through
-----------------------------------------------------------------------------------------

/-- States that a machine goes through, and those that it goes through under other policies. If the
input was exhausted, then by the last of the states; up to there the others are the same, and if it
was not, they are the same to the end.
-/
structure Parted (exhausted : Prop) (states : List Machine) (others : EofPolicy → List Machine)
    : Prop where
  runsDry
    : exhausted
      → ∃ earlier dry,
          states = earlier ++ [dry]
          ∧ dry.step.1 = .error .inputExhausted
          ∧ ∀ state ∈ earlier, state.step.1 ≠ .error .inputExhausted
  begins : ∀ policy, states.map (withEofPolicy · policy) <+: others policy
  supplied : ¬ exhausted → ∀ state ∈ states, state.step.1 ≠ .error .inputExhausted
  same : ¬ exhausted → ∀ policy, others policy = states.map (withEofPolicy · policy)

namespace Parted

variable {exhausted : Prop}

theorem nil (unexhausted : ¬ exhausted)
    : Parted exhausted [] (fun _ => []) where
  runsDry ended := absurd ended unexhausted
  begins _ := List.prefix_rfl
  supplied _ := List.forall_mem_nil _
  same _ _ := rfl

/-- One state, from which all go on in the same way. -/
theorem single {machine : Machine} (unexhausted : ¬ exhausted)
    (supplied : machine.step.1 ≠ .error .inputExhausted)
    : Parted exhausted [machine] (fun policy => [machine.withEofPolicy policy]) where
  runsDry ended := absurd ended unexhausted
  begins _ := List.prefix_rfl
  supplied _ := List.forall_mem_singleton.mpr supplied
  same _ _ := rfl

/-- One state that exhausts the input, from which the others may go on. -/
theorem dry {machine : Machine} {others : EofPolicy → List Machine} (ended : exhausted)
    (fault : machine.step.1 = .error .inputExhausted)
    (begins : ∀ policy, [machine.withEofPolicy policy] <+: others policy)
    : Parted exhausted [machine] others where
  runsDry _ := ⟨[], machine, rfl, fault, List.forall_mem_nil _⟩
  begins := begins
  supplied unexhausted := absurd ended unexhausted
  same unexhausted := absurd ended unexhausted

/-- As long as the input is not exhausted the states can be continued. -/
theorem append {first second : List Machine}
    {others alsoOthers : EofPolicy → List Machine}
    (earlier : Parted False first others) (later : Parted exhausted second alsoOthers)
    : Parted exhausted (first ++ second) (fun policy => others policy ++ alsoOthers policy) where
  runsDry ended := by
    obtain ⟨before, dry, rfl, fault, supplied⟩ := later.runsDry ended
    exact ⟨first ++ before, dry, (List.append_assoc _ _ _).symm, fault,
      List.forall_mem_append.mpr ⟨earlier.supplied id, supplied⟩⟩
  begins policy := by
    rw [List.map_append, earlier.same id]
    exact (List.prefix_append_right_inj _).mpr (later.begins policy)
  supplied unexhausted :=
    List.forall_mem_append.mpr ⟨earlier.supplied id, later.supplied unexhausted⟩
  same unexhausted policy := by
    rw [List.map_append, earlier.same id, later.same unexhausted]

end Parted

/-- A drive is parted by its last step or not at all, by induction on its steps. -/
theorem parted_visited {machine : Machine} (faults : machine.eofPolicy = .fault) (budget : Nat)
    : Parted ((drive budget machine).1 = .error .inputExhausted) (visited budget machine)
        (fun policy => visited budget (machine.withEofPolicy policy)) := by
  fun_induction drive budget machine with
  | case1 machine => exact Parted.nil (by simp)
  | case2 budget machine running after stepped ih =>
      have going (policy : EofPolicy) : (machine.withEofPolicy policy).running = true := running
      have supplied : machine.step.1 ≠ .error .inputExhausted := by simp [stepped]
      have alsoStepped := step_withEofPolicy faults supplied
      have kept := machine.eofPolicy_step.trans faults
      simp only [stepped] at alsoStepped kept
      simp only [visited_succ_of_ok running stepped, visited_succ_of_ok (going _) (alsoStepped _)]
      exact (Parted.single id supplied).append (ih kept)
  | case3 budget machine running fault after stepped =>
      have going (policy : EofPolicy) : (machine.withEofPolicy policy).running = true := running
      rw [visited_succ_of_error running stepped]
      by_cases exhausted : fault = .inputExhausted
      · subst exhausted
        exact Parted.dry rfl (congrArg Prod.fst stepped)
          (fun policy => visited_begins (going policy) budget)
      · have supplied : machine.step.1 ≠ .error .inputExhausted := by simp [stepped, exhausted]
        have alsoStepped := step_withEofPolicy faults supplied
        simp only [stepped] at alsoStepped
        simp only [visited_succ_of_error (going _) (alsoStepped _)]
        exact Parted.single (by simp [exhausted]) supplied
  | case4 budget machine stopped =>
      have still : machine.running = false := Bool.not_eq_true _ ▸ stopped
      have alsoStill (policy : EofPolicy) : (machine.withEofPolicy policy).running = false := still
      simp only [visited_of_not_running still, visited_of_not_running (alsoStill _)]
      exact Parted.nil (by simp)

-----------------------------------------------------------------------------------------
-- Calls
-----------------------------------------------------------------------------------------

/-- The flush at the end of a run exhausts no input. -/
theorem finish_exhausted_iff {outcome : Except Fault Exit} {machine : Machine}
    : (finish outcome machine).1 = .error .inputExhausted
      ↔ outcome = .error .inputExhausted := by
  cases outcome with
  | error fault => rw [finish_error]
  | ok exit =>
      obtain ⟨_, same⟩ | ⟨error, _, failed⟩ := finish_ok exit machine
      · rw [same]
      · simp [failed]

theorem runBounded_exhausted_iff {machine : Machine} {address : Int} {budget : Nat}
    : (machine.runBounded address budget).1 = .error .inputExhausted
      ↔ (drive budget (machine.start address)).1 = .error .inputExhausted := by
  rw [runBounded_eq_finish, finish_exhausted_iff]

/-- An address that is off the tape exhausts no input. -/
theorem load_not_exhausted (machine : Machine) (source : String) (address : Int)
    : (machine.load source address).1 ≠ .error .inputExhausted := by
  simp only [load]
  split
  · simp
  · split <;> simp

theorem poke_not_exhausted (machine : Machine) (address : Int) (value : UInt8)
    : (machine.poke address value).1 ≠ .error .inputExhausted := by
  unfold poke
  split <;> simp

theorem peek_not_exhausted (machine : Machine) (address : Int)
    : machine.peek address ≠ .error .inputExhausted := by
  unfold peek
  split <;> simp

/-- A call is parted only by the steps that it takes. -/
theorem parted_visitedBy {machine after : Machine} {patience : Nat} {call : Call}
    {outcome : Except Fault Answer} (faults : machine.eofPolicy = .fault)
    (answered : machine.answer patience call = some (outcome, after))
    : Parted (outcome = .error .inputExhausted) (machine.visitedBy patience call)
        (fun policy => (machine.withEofPolicy policy).visitedBy patience call) := by
  have started (address : Int) (budget : Nat) :=
    @parted_visited (machine.start address) faults budget
  cases call with
  | step =>
      rw [answer_step] at answered
      obtain ⟨rfl, rfl⟩ := Prod.mk.inj (Option.some.inj answered)
      rw [map_eq_error_iff]
      by_cases exhausted : machine.step.1 = .error .inputExhausted
      · exact Parted.dry exhausted exhausted (fun _ => List.prefix_rfl)
      · exact Parted.single exhausted exhausted
  | run address =>
      obtain ⟨_, rfl, rfl⟩ := answer_run_eq_some_iff.mp answered
      rw [map_eq_error_iff, runBounded_exhausted_iff]
      exact started address patience
  | runBounded address budget =>
      rw [answer_runBounded] at answered
      obtain ⟨rfl, rfl⟩ := Prod.mk.inj (Option.some.inj answered)
      rw [map_eq_error_iff, runBounded_exhausted_iff]
      exact started address budget
  | load source address =>
      rw [answer_load] at answered
      obtain ⟨rfl, rfl⟩ := Prod.mk.inj (Option.some.inj answered)
      exact Parted.nil (mt map_eq_error_iff.mp (machine.load_not_exhausted source address))
  | poke address value =>
      rw [answer_poke] at answered
      obtain ⟨rfl, rfl⟩ := Prod.mk.inj (Option.some.inj answered)
      exact Parted.nil (mt map_eq_error_iff.mp (machine.poke_not_exhausted address value))
  | peek address =>
      obtain ⟨rfl, rfl⟩ := Prod.mk.inj (Option.some.inj answered)
      exact Parted.nil (mt map_eq_error_iff.mp (machine.peek_not_exhausted address))
  | isEnd | dump | size | reset | setEofPolicy =>
      obtain ⟨rfl, rfl⟩ := Prod.mk.inj (Option.some.inj answered)
      exact Parted.nil (by simp)

theorem permits_of_unset {call : Call} (unset : ∀ policy, call ≠ .setEofPolicy policy)
    (policy : EofPolicy)
    : (eofPolicies policy).Permits call :=
  fun other same => absurd same (unset other)

theorem binding_of_supplied {outcome : Except Fault Answer}
    (supplied : outcome ≠ .error .inputExhausted) (policy : EofPolicy)
    : Binding (eofPolicies policy).excused outcome := by
  rintro fault rfl rfl
  exact supplied rfl

/-- A call that does not exhaust the input is answered in the same way under every policy. -/
theorem answer_withEofPolicy {machine after : Machine} {patience : Nat} {call : Call}
    {outcome : Except Fault Answer} (faults : machine.eofPolicy = .fault)
    (unset : ∀ policy, call ≠ .setEofPolicy policy)
    (answered : machine.answer patience call = some (outcome, after))
    (supplied : outcome ≠ .error .inputExhausted) (policy : EofPolicy)
    : after.eofPolicy = .fault
      ∧ (machine.withEofPolicy policy).answer patience call
        = some (outcome, after.withEofPolicy policy) := by
  obtain ⟨_, ⟨kept, rfl⟩, same⟩ := (eofPolicies policy).answer (permits_of_unset unset policy)
    ⟨faults, rfl⟩ answered (binding_of_supplied supplied policy)
  exact ⟨kept, same⟩

theorem answerAll_withEofPolicy {machine finished : Machine} {patience : Nat} {calls : List Call}
    {outcomes : List (Except Fault Answer)} (faults : machine.eofPolicy = .fault)
    (unset : ∀ policy, .setEofPolicy policy ∉ calls)
    (answered : machine.answerAll patience calls = some (outcomes, finished))
    (supplied : .error .inputExhausted ∉ outcomes) (policy : EofPolicy)
    : (machine.withEofPolicy policy).answerAll patience calls
      = some (outcomes, finished.withEofPolicy policy) := by
  have permitted : ∀ call ∈ calls, (eofPolicies policy).Permits call := by
    intro call member
    exact permits_of_unset (fun other same => unset other (same ▸ member)) policy
  have binding : ∀ outcome ∈ outcomes, Binding (eofPolicies policy).excused outcome := by
    intro outcome member
    exact binding_of_supplied (fun exhausted => supplied (exhausted ▸ member)) policy
  obtain ⟨_, ⟨_, rfl⟩, same⟩ := (eofPolicies policy).answerAll permitted ⟨faults, rfl⟩ answered
    binding
  exact same

/-- The first call that exhausts the input is the one that parts the machines, by induction on the
calls before it.
-/
theorem parted_visitedByAll {machine finished : Machine} {patience : Nat} {calls : List Call}
    {outcomes : List (Except Fault Answer)} (faults : machine.eofPolicy = .fault)
    (unset : ∀ policy, .setEofPolicy policy ∉ calls)
    (answered : machine.answerAll patience calls = some (outcomes, finished))
    (exhausted : .error .inputExhausted ∈ outcomes)
    : ∃ count,
        outcomes[count]? = some (.error .inputExhausted)
        ∧ .error .inputExhausted ∉ outcomes.take count
        ∧ Parted True (machine.visitedByAll patience (calls.take (count + 1)))
            (fun policy =>
              (machine.withEofPolicy policy).visitedByAll patience (calls.take (count + 1))) := by
  induction calls generalizing machine outcomes with
  | nil =>
      obtain ⟨rfl, rfl⟩ := Prod.mk.inj (Option.some.inj answered)
      cases exhausted
  | cons call calls ih =>
      obtain ⟨outcome, after, rest, first, later, rfl⟩ := answerAll_cons_eq_some_iff.mp answered
      have parted := parted_visitedBy faults first
      by_cases now : outcome = .error .inputExhausted
      · rw [eq_true now] at parted
        refine ⟨0, congrArg some now, List.not_mem_nil, ?_⟩
        simpa only [Nat.zero_add, List.take_succ_cons, List.take_zero, visitedByAll_singleton]
          using parted
      · rw [eq_false now] at parted
        have next := answer_withEofPolicy faults
          (fun policy same => unset policy (same ▸ List.mem_cons_self)) first now
        obtain ⟨count, found, before, rest⟩ := ih (next .fault).1
          (fun policy member => unset policy (List.mem_cons_of_mem _ member)) later
          ((List.mem_cons.mp exhausted).resolve_left (Ne.symm now))
        refine ⟨count + 1, found, ?_, ?_⟩
        · rw [List.take_succ_cons]
          exact List.not_mem_cons_of_ne_of_not_mem (Ne.symm now) before
        · simp only [List.take_succ_cons, visitedByAll_cons first, visitedByAll_cons (next _).2]
          exact parted.append rest

/-- Machines that differ in what they do at the end of the input give the same answers and are left
in the same states, call by call, as long as no call exhausts the input of the one that faults. The
first call that does goes through the same states on all of them up to the read that faults, and
only there the policies differ.
-/
theorem policies_agree_until_dry {machine finished : Machine} {patience : Nat}
    {calls : List Call} {outcomes : List (Except Fault Answer)}
    (unset : ∀ policy, .setEofPolicy policy ∉ calls)
    (answered : (machine.withEofPolicy .fault).answerAll patience calls
      = some (outcomes, finished))
    : (∀ policy count, .error .inputExhausted ∉ outcomes.take count
        → ∃ reached,
            (machine.withEofPolicy .fault).answerAll patience (calls.take count)
              = some (outcomes.take count, reached)
            ∧ (machine.withEofPolicy policy).answerAll patience (calls.take count)
              = some (outcomes.take count, reached.withEofPolicy policy))
      ∧ (.error .inputExhausted ∈ outcomes
        → ∃ count states dry cell,
            outcomes[count]? = some (.error .inputExhausted)
            ∧ .error .inputExhausted ∉ outcomes.take count
            ∧ (machine.withEofPolicy .fault).visitedByAll patience (calls.take (count + 1))
              = states ++ [dry]
            ∧ (∀ state ∈ states, state.step.1 ≠ .error .inputExhausted)
            ∧ (∀ policy, (states ++ [dry]).map (withEofPolicy · policy)
              <+: (machine.withEofPolicy policy).visitedByAll patience (calls.take (count + 1)))
            ∧ dry.DryRead cell) := by
  constructor
  · intro policy count supplied
    obtain ⟨reached, beginning⟩ := answerAll_take answered count
    have unsetBefore : ∀ policy, .setEofPolicy policy ∉ calls.take count :=
      fun policy member => unset policy (List.mem_of_mem_take member)
    exact ⟨reached, beginning,
      @answerAll_withEofPolicy (machine.withEofPolicy .fault) _ _ _ _ rfl unsetBefore beginning
        supplied policy⟩
  · intro exhausted
    obtain ⟨count, found, before, parted⟩ := @parted_visitedByAll (machine.withEofPolicy .fault)
      _ _ _ _ rfl unset answered exhausted
    obtain ⟨states, dry, visited, fault, supplied⟩ := parted.runsDry trivial
    obtain ⟨cell, dryRead⟩ := dryRead_of_exhausted fault
    refine ⟨count, states, dry, cell, found, before, visited, supplied, ?_, dryRead⟩
    intro policy
    rw [← visited]
    exact parted.begins policy

/-- A machine without input, and calls that make it read into a cell with a mark. -/
def withoutInput : Machine :=
  create 0 (.bytes []) (.scripted (.ofReplies [] []))

def readIntoMark : List Call :=
  [.load "" 0, .load "," 10, .runBounded 10 5]

/-- The two loads succeed under each policy. The run is parted by its first step, before which the
cell has its mark on all machines.
-/
theorem policies_agree_until_dry_marked_cell
    : (∀ policy, ∃ reached,
        (withoutInput.withEofPolicy policy).answerAll 0 (readIntoMark.take 2)
          = some ([.ok (.diagnostics []), .ok (.diagnostics [])], reached))
      ∧ ∃ dry cell,
          DryRead dry cell
          ∧ dry.isEnd 0 = true
          ∧ ∀ policy, [dry.withEofPolicy policy]
              <+: (withoutInput.withEofPolicy policy).visitedByAll 0 readIntoMark := by
  have faulty : ((withoutInput.withEofPolicy .fault).answerAll 0 readIntoMark).map Prod.fst
        = some [.ok (.diagnostics []), .ok (.diagnostics []), .error .inputExhausted]
      ∧ ((withoutInput.withEofPolicy .fault).visitedByAll 0 readIntoMark).map (isEnd · 0)
        = [true] := by
    decide +kernel
  obtain ⟨faulty, marks⟩ := faulty
  obtain ⟨⟨outcomes, finished⟩, answered, rfl⟩ := Option.map_eq_some_iff.mp faulty
  obtain ⟨agree, parted⟩ := policies_agree_until_dry (by simp [readIntoMark]) answered
  constructor
  · intro policy
    obtain ⟨reached, _, same⟩ := agree policy 2 (by simp)
    exact ⟨_, same⟩
  · obtain ⟨count, states, dry, cell, found, before, visited, _, begins, dryRead⟩ :=
      parted (by simp)
    obtain rfl : count = 2 := by
      rcases count with _ | _ | _ | count <;> simp at found ⊢
    have whole : readIntoMark.take 3 = readIntoMark := rfl
    rw [whole] at visited begins
    rw [visited] at marks
    obtain rfl : states = [] := by
      simpa using congrArg List.length marks
    exact ⟨dry, cell, dryRead, by simpa using marks, begins⟩

end TapeMachine.Machine
