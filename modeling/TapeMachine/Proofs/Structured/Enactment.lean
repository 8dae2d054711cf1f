import TapeMachine.Proofs.Structured.Steps

/-! The machine acts out what the interpreter evaluates, as long as nothing is stored in the cells
of the program. The induction is on the depth of the evaluation; a piece of the program that
lies on the tape is enacted wherever it lies, so no invariant about the enclosing loops is
needed.
-/

namespace TapeMachine.Structured

open Machine (drive storedCells)

/-- None of the cells lies between two addresses, both included. -/
def Outside (low high : Int) (cells : List Nat) : Prop :=
  ∀ cell ∈ cells, (cell : Int) < low ∨ high < cell

theorem outside_nil (low high : Int)
    : Outside low high [] := by
  intro cell member
  cases member

theorem outside_append_iff {low high : Int} {first second : List Nat}
    : Outside low high (first ++ second) ↔ Outside low high first ∧ Outside low high second := by
  simp only [Outside, List.mem_append, or_imp, forall_and]

/-- How a machine acts out an evaluation: it takes steps that store in the same cells, and after
them it is where the evaluation is. If a cell of the program is stored in, the two may part, but
both have stored there.
-/
inductive Enacts (low high : Int) (machine : Machine) (depth target : Nat) : Evaluation → Prop
  | unfinished {evaluation : Evaluation} {steps : Nat} {reached : Machine}
    (outcome : evaluation.outcome = none)
    (stored : evaluation.stored = storedCells steps machine)
    (outside : Outside low high (storedCells steps machine))
    (driven : drive steps machine = (.ok .stepLimit, reached)) (enough : depth ≤ steps)
    : Enacts low high machine depth target evaluation
  | finished {steps : Nat} {reached : Machine}
    (outside : Outside low high (storedCells steps machine))
    (driven : drive steps machine = (.ok .stepLimit, reached))
    (arrived : reached.programCounter = target)
    : Enacts low high machine depth target
        ⟨some (.ok ()), reached.workspace, storedCells steps machine⟩
  | faulted {steps : Nat} {reached : Machine} {fault : Fault}
    (outside : Outside low high (storedCells steps machine))
    (driven : drive steps machine = (.error fault, reached))
    : Enacts low high machine depth target
        ⟨some (.error fault), reached.workspace, storedCells steps machine⟩
  | trespassed {evaluation : Evaluation} {steps : Nat}
    (inside : ¬ Outside low high evaluation.stored)
    (alsoInside : ¬ Outside low high (storedCells steps machine))
    : Enacts low high machine depth target evaluation

-----------------------------------------------------------------------------------------
-- Enactments one after the other
-----------------------------------------------------------------------------------------

/-- Steps before an enactment are part of it. -/
theorem Enacts.after_drive {low high : Int} {depth deeper target first : Nat}
    {machine middle : Machine} {evaluation : Evaluation}
    (rest : Enacts low high middle depth target evaluation)
    (driven : drive first machine = (.ok .stepLimit, middle))
    (outside : Outside low high (storedCells first machine))
    (deep : deeper ≤ first + depth)
    : Enacts low high machine deeper target
        { evaluation with stored := storedCells first machine ++ evaluation.stored } := by
  cases rest with
  | @unfinished _ steps reached outcome stored outsideRest drivenRest enough =>
      have whole := Machine.storedCells_add driven steps
      refine .unfinished outcome ?_ ?_ ((Machine.drive_add driven steps).trans drivenRest)
        (by omega)
      · simp only [stored, whole]
      · rw [whole]
        exact outside_append_iff.mpr ⟨outside, outsideRest⟩
  | @finished steps reached outsideRest drivenRest arrived =>
      have whole := Machine.storedCells_add driven steps
      simp only [← whole]
      refine .finished ?_ ((Machine.drive_add driven steps).trans drivenRest) arrived
      rw [whole]
      exact outside_append_iff.mpr ⟨outside, outsideRest⟩
  | @faulted steps reached fault outsideRest drivenRest =>
      have whole := Machine.storedCells_add driven steps
      simp only [← whole]
      refine .faulted ?_ ((Machine.drive_add driven steps).trans drivenRest)
      rw [whole]
      exact outside_append_iff.mpr ⟨outside, outsideRest⟩
  | @trespassed _ steps inside alsoInside =>
      have later : ¬ Outside low high (storedCells (first + steps) machine) := by
        rw [Machine.storedCells_add driven]
        exact fun both => alsoInside (outside_append_iff.mp both).2
      exact .trespassed (fun both => inside (outside_append_iff.mp both).2) later

theorem Evaluation.outside_of_andThen {low high : Int} {first : Evaluation}
    {next : Workspace → Evaluation}
    (outside : Outside low high (first.andThen next).stored)
    : Outside low high first.stored := by
  unfold andThen at outside
  split at outside
  · exact (outside_append_iff.mp outside).1
  · exact outside

/-- An enactment of a first evaluation goes on with one of the second, if the first one
finishes.
-/
theorem Enacts.andThen {low high : Int} {depth middle target : Nat} {machine : Machine}
    {evaluation : Evaluation} {next : Workspace → Evaluation}
    (first : Enacts low high machine depth middle evaluation)
    (second : ∀ steps reached,
      drive steps machine = (.ok .stepLimit, reached)
      → Outside low high (storedCells steps machine)
      → reached.programCounter = middle
      → Enacts low high reached depth target (next reached.workspace))
    : Enacts low high machine depth target (evaluation.andThen next) := by
  cases first with
  | unfinished outcome stored outside driven enough =>
      have same : evaluation.andThen next = evaluation := by
        simp only [Evaluation.andThen, outcome]
      rw [same]
      exact .unfinished outcome stored outside driven enough
  | @finished steps reached outside driven arrived =>
      exact (second steps reached driven outside arrived).after_drive driven outside
        (Nat.le_add_left _ _)
  | faulted outside driven => exact .faulted outside driven
  | trespassed inside alsoInside =>
      exact .trespassed (fun both => inside (Evaluation.outside_of_andThen both)) alsoInside

-----------------------------------------------------------------------------------------
-- Pieces of the program in place
-----------------------------------------------------------------------------------------

/-- A piece of the program lies where it was loaded, on the tape of a running machine. -/
structure Placed (policy : EofPolicy) (low high : Int) (start : Nat) (block : Block)
    (machine : Machine) : Prop where
  policy : machine.eofPolicy = policy
  holds : machine.tape.Holds start block.opcodes
  lower : low ≤ start
  upper : (start + block.opcodes.length : Nat) ≤ high
  room : high < machine.tape.size
  running : machine.running = true

section Placed

variable {policy : EofPolicy} {low high : Int} {start : Nat} {block body rest : Block}
  {first : Command} {machine : Machine}

/-- What was not stored in still holds the program. -/
theorem Placed.after_drive {steps : Nat} {reached : Machine}
    (placed : Placed policy low high start block machine)
    (driven : drive steps machine = (.ok .stepLimit, reached))
    (outside : Outside low high (storedCells steps machine))
    : Placed policy low high start block reached := by
  obtain ⟨samePolicy, holds, lower, upper, room, _⟩ := placed
  have size := Machine.size_drive steps machine
  have kept := Machine.eofPolicy_drive steps machine
  rw [driven] at size kept
  refine ⟨kept.trans samePolicy, holds.congr ?_, lower, upper, size ▸ room,
    (Machine.running_of_drive_stepLimit driven).2.1⟩
  intro index above below
  have untouched : index ∉ storedCells steps machine := by
    intro stored
    have apart := outside index stored
    omega
  have same := Machine.cell_drive_of_not_mem untouched
  rwa [driven] at same

theorem Placed.behind_command (placed : Placed policy low high start (.command first rest) machine)
    : Placed policy low high (start + 1) rest machine := by
  obtain ⟨samePolicy, holds, lower, upper, room, running⟩ := placed
  rw [Block.opcodes, List.length_cons] at upper
  exact ⟨samePolicy, holds.2, by omega, by omega, room, running⟩

theorem Placed.inside_loop (placed : Placed policy low high start (.loop body rest) machine)
    : Placed policy low high (start + 1) body machine := by
  obtain ⟨samePolicy, holds, lower, upper, room, running⟩ := placed
  rw [Block.opcodes, List.length_cons, List.length_append] at upper
  exact ⟨samePolicy, holds.2.append_left, by omega, by omega, room, running⟩

theorem Placed.behind_loop (placed : Placed policy low high start (.loop body rest) machine)
    : Placed policy low high (start + 1 + body.opcodes.length + 1) rest machine := by
  obtain ⟨samePolicy, holds, lower, upper, room, running⟩ := placed
  rw [Block.opcodes, List.length_cons, List.length_append, List.length_cons] at upper
  exact ⟨samePolicy, holds.2.append_right.2, by omega, by omega, room, running⟩

theorem Placed.goTo (placed : Placed policy low high start block machine) (target : Nat)
    : Placed policy low high start block (machine.goTo target) :=
  ⟨placed.policy, placed.holds, placed.lower, placed.upper, placed.room, placed.running⟩

/-- Where the machine enters a piece of the program. A loop is entered by either of its brackets,
since both of them make its test.
-/
def Block.EnteredAt (start : Nat) (programCounter : Int) : Block → Prop
  | .loop body _ =>
      programCounter = start ∨ programCounter = start + 1 + body.opcodes.length
  | _ => programCounter = start

theorem Block.EnteredAt.of_start {programCounter : Int}
    (first : programCounter = start)
    : block.EnteredAt start programCounter := by
  cases block with
  | done | command => exact first
  | loop body rest => exact Or.inl first

-----------------------------------------------------------------------------------------
-- Commands and loops
-----------------------------------------------------------------------------------------

/-- A command is one step, and the machine goes on behind it. -/
theorem Placed.enacts_command {depth target : Nat}
    (placed : Placed policy low high start (.command first rest) machine)
    (entered : machine.programCounter = start)
    (behind : ∀ reached,
      Placed policy low high (start + 1) rest reached
      → reached.programCounter = (start + 1 : Nat)
      → Enacts low high reached depth target (rest.eval policy depth reached.workspace))
    : Enacts low high machine (depth + 1) target
        ((Block.command first rest).eval policy (depth + 1) machine.workspace) := by
  have fetched : machine.fetch = .ok (.instruction start first.opcode) := by
    have inside := placed.room
    have upper := placed.upper
    rw [Block.opcodes, List.length_cons] at upper
    exact Machine.fetch_of_cell (Tape.locate_eq_ok_iff.mpr ⟨entered, by omega⟩) placed.holds.1
  have evaluated := Command.eval_eq_step fetched
  rw [placed.policy] at evaluated
  have stores := Machine.storedCells_one placed.running
  rw [Block.eval]
  by_cases outside : Outside low high (storedCells 1 machine)
  · cases stepped : machine.step with
    | mk outcome after =>
        rw [stepped, ← stores] at evaluated
        rw [evaluated]
        cases outcome with
        | error fault =>
            exact .faulted outside (Machine.drive_succ_of_error placed.running stepped 0)
        | ok done =>
            have driven := Machine.drive_one_of_instruction placed.running fetched stepped
            have arrived := Command.programCounter_of_step_ok fetched stepped
            have rest := behind after (placed.after_drive driven outside).behind_command
              (by rw [arrived, entered]; rfl)
            exact rest.after_drive driven outside (Nat.le_of_eq (Nat.add_comm _ _))
  · refine .trespassed (fun both => outside ?_) outside
    have first := Evaluation.outside_of_andThen both
    rwa [evaluated, ← stores] at first

/-- A loop is a test, and then the machine goes on behind the loop, or in its body and from there
to the test again.
-/
theorem Placed.enacts_loop {depth target : Nat}
    (placed : Placed policy low high start (.loop body rest) machine)
    (entered : (Block.loop body rest).EnteredAt start machine.programCounter)
    (behind : ∀ reached,
      Placed policy low high (start + 1 + body.opcodes.length + 1) rest reached
      → reached.programCounter = (start + 1 + body.opcodes.length + 1 : Nat)
      → Enacts low high reached depth target (rest.eval policy depth reached.workspace))
    (inside : ∀ reached,
      Placed policy low high (start + 1) body reached
      → reached.programCounter = (start + 1 : Nat)
      → Enacts low high reached depth (start + 1 + body.opcodes.length)
          (body.eval policy depth reached.workspace))
    (again : ∀ reached,
      Placed policy low high start (.loop body rest) reached
      → reached.programCounter = (start + 1 + body.opcodes.length : Nat)
      → Enacts low high reached depth target
          ((Block.loop body rest).eval policy depth reached.workspace))
    : Enacts low high machine (depth + 1) target
        ((Block.loop body rest).eval policy (depth + 1) machine.workspace) := by
  have room : start + 1 + body.opcodes.length + 1 < machine.tape.size := by
    have upper := placed.behind_loop.upper
    have room := placed.room
    omega
  have stores : storedCells 1 machine = [] := by
    rw [Machine.storedCells_one placed.running,
      storedCell_of_test placed.holds room entered]
    rfl
  have outside : Outside low high (storedCells 1 machine) := stores ▸ outside_nil low high
  cases located : machine.tape.locate machine.dataPointer with
  | error side =>
      have stepped := step_of_test_off_tape placed.holds room entered located
      have enacted : Enacts low high machine (depth + 1) target
          ⟨some (.error (.memory side)), machine.workspace, storedCells 1 machine⟩ :=
        .faulted outside (Machine.drive_succ_of_error placed.running stepped 0)
      rw [stores] at enacted
      rw [Block.eval_loop_off_tape depth body rest located]
      exact enacted
  | ok cell =>
      have stepped := step_of_test placed.holds room entered located
      obtain ⟨index, op, fetched⟩ := fetch_of_test placed.holds room entered
      have driven := Machine.drive_one_of_instruction placed.running fetched stepped
      have deep : depth + 1 ≤ 1 + depth := Nat.le_of_eq (Nat.add_comm _ _)
      by_cases zero : machine.tape.byte cell = 0
      · rw [if_pos zero] at driven
        have skipped := (behind _ (placed.behind_loop.goTo _) rfl).after_drive driven outside deep
        rw [stores] at skipped
        rw [Block.eval_loop_of_zero depth body rest located zero]
        exact skipped
      · rw [if_neg zero] at driven
        have round := (inside _ (placed.inside_loop.goTo _) rfl).andThen
          (fun steps reached drivenBody outsideBody arrived =>
            again reached ((placed.goTo _).after_drive drivenBody outsideBody) arrived)
        have entire := round.after_drive driven outside deep
        rw [stores] at entire
        rw [Block.eval_loop_of_nonzero depth body rest located zero]
        exact entire

/-- The machine acts out every evaluation of a piece of the program that is in place, by
induction on the depth of the evaluation.
-/
theorem Placed.enacts (placed : Placed policy low high start block machine)
    (entered : block.EnteredAt start machine.programCounter) (depth : Nat)
    : Enacts low high machine depth (start + block.opcodes.length)
        (block.eval policy depth machine.workspace) := by
  induction depth generalizing start block machine with
  | zero =>
      have nothing : Outside low high (storedCells 0 machine) := outside_nil low high
      exact .unfinished rfl rfl nothing (Machine.drive_zero placed.running) (Nat.le_refl 0)
  | succ depth ih =>
      cases block with
      | done =>
          have nothing : Outside low high (storedCells 0 machine) := outside_nil low high
          exact .finished nothing (Machine.drive_zero placed.running) entered
      | command first rest =>
          have target : start + (Block.command first rest).opcodes.length
              = start + 1 + rest.opcodes.length := by
            rw [Block.opcodes, List.length_cons]
            omega
          rw [target]
          refine placed.enacts_command entered ?_
          intro reached behind arrived
          exact ih behind (.of_start arrived)
      | loop body rest =>
          have target : start + (Block.loop body rest).opcodes.length
              = start + 1 + body.opcodes.length + 1 + rest.opcodes.length := by
            rw [Block.opcodes, List.length_cons, List.length_append, List.length_cons]
            omega
          rw [target]
          refine placed.enacts_loop entered ?_ ?_ ?_
          · intro reached behind arrived
            exact ih behind (.of_start arrived)
          · intro reached inside arrived
            exact ih inside (.of_start arrived)
          · intro reached whole arrived
            rw [← target]
            exact ih whole (Or.inr arrived)

end Placed

end TapeMachine.Structured
