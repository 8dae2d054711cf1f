import TapeMachine.Machine.Trace
import TapeMachine.Proofs.Drive

/-! What the trace of a run says. Its entries are, in order, the instructions of the steps that the
run takes, with the pointers as they are before each of them, and how many there are is decided by
how the run ends.
-/

namespace TapeMachine.Machine

/-- A shorter trace is the beginning of a longer one. -/
theorem executions_mono {budget larger : Nat} (more : budget ≤ larger) (machine : Machine)
    : executions budget machine <+: executions larger machine := by
  induction budget generalizing larger machine with
  | zero => exact List.nil_prefix
  | succ budget ih =>
      obtain ⟨larger, rfl⟩ : ∃ fewer, larger = fewer + 1 := ⟨larger - 1, by omega⟩
      cases running : machine.running with
      | false => simp [executions_of_not_running running]
      | true =>
          rcases stepped : machine.step with ⟨_ | _, after⟩
          · simp only [executions_succ_of_error running stepped, List.prefix_rfl]
          · rw [executions_succ_of_ok running stepped, executions_succ_of_ok running stepped,
              List.prefix_append_right_inj]
            exact ih (Nat.le_of_succ_le_succ more) after

theorem upcoming_of_fetch {machine : Machine} {index : Nat} {op : Opcode}
    (fetched : machine.fetch = .ok (.instruction index op))
    : machine.upcoming = some ⟨index, machine.dataPointer, op⟩ := by
  simp only [upcoming, fetched]

theorem upcoming_eq_some_iff {machine : Machine} {executed : Executed}
    : machine.upcoming = some executed
      ↔ ∃ index op,
          machine.fetch = .ok (.instruction index op)
          ∧ machine.programCounter = index
          ∧ executed = ⟨index, machine.dataPointer, op⟩ := by
  constructor
  · intro coming
    unfold upcoming at coming
    split at coming
    · rename_i index op fetched
      have located := Tape.locate_eq_ok_iff.mp (locate_of_fetch fetched)
      exact ⟨index, op, fetched, located.1, (Option.some.inj coming).symm⟩
    · cases coming
  · rintro ⟨index, op, fetched, _, rfl⟩
    exact upcoming_of_fetch fetched

/-- A step that succeeds executes an instruction and leaves the machine running, or it meets a
mark, and then the trace ends.
-/
theorem executions_succ_cases {machine after : Machine} (running : machine.running = true)
    (stepped : machine.step = (.ok (), after)) (budget : Nat)
    : (after.running = true
        ∧ ∃ executed,
            machine.upcoming = some executed
            ∧ executions (budget + 1) machine = executed :: executions budget after)
      ∨ (after.running = false
        ∧ machine.upcoming = none
        ∧ executions (budget + 1) machine = []) := by
  have flag := machine.running_step
  rw [stepped, running, Bool.true_and] at flag
  rw [executions_succ_of_ok running stepped]
  cases fetched : machine.fetch with
  | error fault =>
      simp only [step, fetched] at stepped
      cases stepped
  | ok request =>
      cases request with
      | halt =>
          rw [fetch_eq_halt_iff.mp fetched] at flag
          have nothing : machine.upcoming = none := by simp only [upcoming, fetched]
          rw [nothing, executions_of_not_running flag]
          exact .inr ⟨flag, rfl, rfl⟩
      | instruction index op =>
          have unmarked : machine.isEnd machine.programCounter = false := by
            rw [← Bool.not_eq_true, ← fetch_eq_halt_iff, fetched]
            simp
          rw [unmarked] at flag
          rw [upcoming_of_fetch fetched]
          exact .inl ⟨flag, _, rfl, rfl⟩

/-- The entry at a position tells of the instruction that is executed after so many steps, by
induction on the steps.
-/
theorem getElem?_executions {budget position : Nat} {machine : Machine} {executed : Executed}
    : (executions budget machine)[position]? = some executed
      ↔ position < budget
        ∧ ∃ reached,
            drive position machine = (.ok .stepLimit, reached)
            ∧ reached.upcoming = some executed := by
  induction budget generalizing position machine with
  | zero => simp
  | succ budget ih =>
      cases running : machine.running with
      | false => simp [executions_of_not_running running, drive_of_not_running running]
      | true =>
          rcases stepped : machine.step with ⟨fault | _, after⟩
          · rw [executions_succ_of_error running stepped]
            cases position with
            | zero => cases coming : machine.upcoming <;> simp [drive_zero running, coming]
            | succ position =>
                rw [drive_succ_of_error running stepped]
                cases machine.upcoming <;> simp
          · obtain ⟨_, first, coming, trace⟩ | ⟨stopped, coming, trace⟩ :=
              executions_succ_cases running stepped budget
            · cases position with
              | zero => simp [trace, drive_zero running, coming]
              | succ position =>
                  rw [trace, List.getElem?_cons_succ, drive_succ_of_ok running stepped, ih,
                    Nat.add_lt_add_iff_right]
            · cases position with
              | zero => simp [trace, drive_zero running, coming]
              | succ position =>
                  simp [trace, drive_succ_of_ok running stepped, drive_of_not_running stopped]

-----------------------------------------------------------------------------------------
-- The length of a trace
-----------------------------------------------------------------------------------------

section Length

variable {budget : Nat} {machine after : Machine}

theorem length_executions_of_stepLimit (driven : drive budget machine = (.ok .stepLimit, after))
    : (executions budget machine).length = budget := by
  fun_induction drive budget machine with
  | case1 machine => rfl
  | case2 budget machine running reached stepped ih =>
      obtain ⟨_, first, _, trace⟩ | ⟨stopped, _, _⟩ := executions_succ_cases running stepped budget
      · rw [trace, List.length_cons, ih driven]
      · rw [drive_of_not_running stopped] at driven
        cases driven
  | case3 budget machine running fault reached stepped => cases driven
  | case4 budget machine stopped => cases driven

/-- The mark that stops a machine is a step, but no instruction. -/
theorem length_executions_of_halted (running : machine.running = true)
    (driven : drive budget machine = (.ok .halted, after))
    : machine.steps + (executions budget machine).length + 1 = after.steps := by
  fun_induction drive budget machine with
  | case1 machine =>
      rw [if_pos running] at driven
      cases driven
  | case2 budget machine _ reached stepped ih =>
      have one := steps_of_step_ok stepped
      obtain ⟨still, first, _, trace⟩ | ⟨stopped, _, trace⟩ :=
        executions_succ_cases running stepped budget
      · have rest := ih still driven
        rw [trace, List.length_cons]
        omega
      · rw [drive_of_not_running stopped] at driven
        obtain ⟨_, rfl⟩ := Prod.mk.inj driven
        rw [trace, List.length_nil]
        omega
  | case3 budget machine _ fault reached stepped => cases driven
  | case4 budget machine stopped => exact absurd running stopped

/-- The step that faults adds to the trace if it gets as far as an instruction, and it is not
counted in any case.
-/
theorem length_executions_of_error {fault : Fault}
    (driven : drive budget machine = (.error fault, after))
    : ∃ count last,
        drive count machine = (.ok .stepLimit, last)
        ∧ last.step = (.error fault, after)
        ∧ (executions budget machine).length = count + last.upcoming.toList.length := by
  fun_induction drive budget machine with
  | case1 machine => cases driven
  | case2 budget machine running reached stepped ih =>
      obtain ⟨_, first, _, trace⟩ | ⟨stopped, _, _⟩ := executions_succ_cases running stepped budget
      · obtain ⟨count, last, before, faults, length⟩ := ih driven
        refine ⟨count + 1, last, ?_, faults, ?_⟩
        · rw [drive_succ_of_ok running stepped, before]
        · rw [trace, List.length_cons, length]
          omega
      · rw [drive_of_not_running stopped] at driven
        cases driven
  | case3 budget machine running cause reached stepped =>
      obtain ⟨same, rfl⟩ := Prod.mk.inj driven
      obtain rfl := Except.error.inj same
      refine ⟨0, machine, drive_zero running, stepped, ?_⟩
      rw [executions_succ_of_error running stepped, Nat.zero_add]
  | case4 budget machine stopped => cases driven

end Length

end TapeMachine.Machine
