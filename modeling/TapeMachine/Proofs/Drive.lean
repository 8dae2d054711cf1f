import TapeMachine.Machine.Run
import TapeMachine.Proofs.StepEffects

/-! Steps in a row. A drive that reaches its limit can be continued, one that has ended stays
as it is, and what every step keeps is kept by all of them together.
-/

namespace TapeMachine.Machine

/-- An instruction is one step, after which the machine is still running. -/
theorem drive_one_of_instruction {machine after : Machine} {index : Nat} {op : Opcode}
    (running : machine.running = true) (fetched : machine.fetch = .ok (.instruction index op))
    (stepped : machine.step = (.ok (), after))
    : drive 1 machine = (.ok .stepLimit, after) := by
  have unmarked : machine.isEnd machine.programCounter = false := by
    cases marked : machine.isEnd machine.programCounter with
    | false => rfl
    | true =>
        rw [fetch_eq_halt_iff.mpr marked] at fetched
        cases fetched
  have still : after.running = true := by
    have flag := machine.running_step
    rwa [stepped, running, unmarked] at flag
  rw [drive_succ_of_ok running stepped, drive_zero still]

/-- What every step keeps, a drive keeps. -/
theorem drive_preserves (kept : Machine → Prop)
    (step : ∀ machine, kept machine → kept machine.step.2)
    (budget : Nat) {machine : Machine} (start : kept machine)
    : kept (drive budget machine).2 := by
  fun_induction drive budget machine with
  | case1 machine => exact start
  | case2 budget machine running after stepped ih =>
      have next := step machine start
      rw [stepped] at next
      exact ih next
  | case3 budget machine running fault after stepped =>
      have next := step machine start
      rwa [stepped] at next
  | case4 budget machine stopped => exact start

-----------------------------------------------------------------------------------------
-- Drives that reach their limit, and drives that end
-----------------------------------------------------------------------------------------

/-- A drive reaches its limit only by as many successful steps of a machine that is still
running after them.
-/
theorem running_of_drive_stepLimit {budget : Nat} {machine after : Machine}
    (driven : drive budget machine = (.ok .stepLimit, after))
    : machine.running = true ∧ after.running = true ∧ after.steps = machine.steps + budget := by
  fun_induction drive budget machine with
  | case1 machine =>
      cases running : machine.running with
      | false => simp [running] at driven
      | true =>
          obtain ⟨_, rfl⟩ := Prod.mk.inj driven
          exact ⟨rfl, running, rfl⟩
  | case2 budget machine running reached stepped ih =>
      obtain ⟨_, still, count⟩ := ih driven
      have one := steps_of_step_ok stepped
      exact ⟨running, still, by omega⟩
  | case3 budget machine running fault reached stepped => cases driven
  | case4 budget machine stopped => cases driven

/-- A drive that reached its limit goes on where it stopped. -/
theorem drive_add {first : Nat} {machine middle : Machine}
    (driven : drive first machine = (.ok .stepLimit, middle)) (second : Nat)
    : drive (first + second) machine = drive second middle := by
  fun_induction drive first machine with
  | case1 machine =>
      obtain ⟨_, rfl⟩ := Prod.mk.inj driven
      rw [Nat.zero_add]
  | case2 budget machine running reached stepped ih =>
      rw [Nat.succ_add, drive_succ_of_ok running stepped]
      exact ih driven
  | case3 budget machine running fault reached stepped => cases driven
  | case4 budget machine stopped => cases driven

/-- A drive that ended before its limit is the same with every larger budget. -/
theorem drive_of_ended {budget larger : Nat} {machine : Machine}
    (ended : (drive budget machine).1 ≠ .ok .stepLimit) (more : budget ≤ larger)
    : drive larger machine = drive budget machine := by
  obtain ⟨extra, rfl⟩ := Nat.exists_eq_add_of_le more
  clear more
  fun_induction drive budget machine with
  | case1 machine =>
      cases running : machine.running with
      | false => rw [drive_of_not_running running, if_neg Bool.false_ne_true]
      | true => simp [running] at ended
  | case2 budget machine running reached stepped ih =>
      rw [Nat.succ_add, drive_succ_of_ok running stepped]
      exact ih ended
  | case3 budget machine running fault reached stepped =>
      rw [Nat.succ_add, drive_succ_of_error running stepped]
  | case4 budget machine stopped =>
      exact drive_of_not_running (Bool.not_eq_true _ ▸ stopped) _

/-- A drive to the end is one that ends before patience does. -/
theorem driveToEnd_of_ended {patience : Nat} {machine : Machine}
    (ended : (drive patience machine).1 ≠ .ok .stepLimit)
    : driveToEnd patience machine = some (drive patience machine) := by
  unfold driveToEnd
  rcases driven : drive patience machine with ⟨_ | _ | _, after⟩
  · rfl
  · rfl
  · rw [driven] at ended
    exact absurd rfl ended

theorem steps_drive_le (budget : Nat) (machine : Machine)
    : (drive budget machine).2.steps ≤ machine.steps + budget := by
  fun_induction drive budget machine with
  | case1 machine => exact Nat.le_refl _
  | case2 budget machine running reached stepped ih =>
      have one := steps_of_step_ok stepped
      omega
  | case3 budget machine running fault reached stepped =>
      have same := steps_of_step_error stepped
      exact Nat.le_trans (Nat.le_of_eq same) (Nat.le_add_right _ _)
  | case4 budget machine stopped => exact Nat.le_add_right _ _

/-- A drive that ends has stopped the machine or has steps left: a step that faults is not
counted.
-/
theorem steps_lt_or_stopped_of_ended {budget : Nat} {machine : Machine}
    (ended : (drive budget machine).1 ≠ .ok .stepLimit)
    : (drive budget machine).2.steps < machine.steps + budget
      ∨ (drive budget machine).2.running = false := by
  fun_induction drive budget machine with
  | case1 machine =>
      cases running : machine.running with
      | false => exact Or.inr rfl
      | true => simp [running] at ended
  | case2 budget machine running reached stepped ih =>
      have one := steps_of_step_ok stepped
      exact (ih ended).imp_left (by omega)
  | case3 budget machine running fault reached stepped =>
      have same := steps_of_step_error stepped
      have more : machine.steps < machine.steps + (budget + 1) :=
        Nat.lt_add_of_pos_right budget.succ_pos
      exact Or.inl (Nat.lt_of_le_of_lt (Nat.le_of_eq same) more)
  | case4 budget machine stopped => exact Or.inr (Bool.not_eq_true _ ▸ stopped)

theorem eofPolicy_drive (budget : Nat) (machine : Machine)
    : (drive budget machine).2.eofPolicy = machine.eofPolicy := by
  apply drive_preserves (fun later => later.eofPolicy = machine.eofPolicy)
  · intro later same
    rw [eofPolicy_step, same]
  · rfl

/-- The bytes written so far stay in front of those that a drive writes. -/
theorem accepted_drive (budget : Nat) (machine : Machine)
    : machine.output.accepted <+: (drive budget machine).2.output.accepted := by
  apply drive_preserves (fun later => machine.output.accepted <+: later.output.accepted)
  · intro later kept
    exact kept.trans later.output_step.accepted
  · exact List.prefix_rfl

theorem flushesSucceed_drive (budget : Nat) {machine : Machine}
    (succeed : machine.output.FlushesSucceed)
    : (drive budget machine).2.output.FlushesSucceed := by
  apply drive_preserves (fun later => later.output.FlushesSucceed)
  · intro later kept
    exact kept.after_use later.output_step
  · exact succeed

end TapeMachine.Machine
