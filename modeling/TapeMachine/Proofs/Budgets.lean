import TapeMachine.Proofs.Drive

/-! Runs with a budget against larger budgets and against the run without one. Everything
rests on when a drive ends before its limit; the flush at the end of a run only looks at how
the drive ended.
-/

namespace TapeMachine.Machine

-----------------------------------------------------------------------------------------
-- The flush at the end of a run
-----------------------------------------------------------------------------------------

/-- Finishing a run touches nothing but the output. -/
theorem finish_snd (outcome : Except Fault Exit) (machine : Machine)
    : (finish outcome machine).2 = { machine with output := machine.output.flush.2 } := by
  unfold finish
  rcases machine.output.flush with ⟨_ | _, later⟩ <;> cases outcome <;> rfl

theorem finish_error (fault : Fault) (machine : Machine)
    : (finish (.error fault) machine).1 = .error fault := by
  unfold finish
  rcases machine.output.flush with ⟨_ | _, later⟩ <;> rfl

/-- A run that ended without a fault fails exactly if its last flush does. -/
theorem finish_ok (exit : Exit) (machine : Machine)
    : (machine.output.flush.1 = .ok () ∧ (finish (.ok exit) machine).1 = .ok exit)
      ∨ ∃ error,
          machine.output.flush.1 = .error error
          ∧ (finish (.ok exit) machine).1 = .error (.io error) := by
  unfold finish
  rcases machine.output.flush with ⟨error | _, later⟩
  · exact Or.inr ⟨error, rfl, rfl⟩
  · exact Or.inl ⟨rfl, rfl⟩

theorem finish_of_flushed {exit : Exit} {machine : Machine}
    (flushed : machine.output.flush.1 = .ok ())
    : (finish (.ok exit) machine).1 = .ok exit := by
  rcases finish_ok exit machine with ⟨_, same⟩ | ⟨error, failed, _⟩
  · exact same
  · rw [flushed] at failed
    cases failed

/-- A run ends well exactly if its drive does and the flush behind it succeeds. -/
theorem finish_eq_ok_iff {outcome : Except Fault Exit} {exit : Exit} {machine : Machine}
    : (finish outcome machine).1 = .ok exit
      ↔ outcome = .ok exit ∧ machine.output.flush.1 = .ok () := by
  cases outcome with
  | error fault => simp [finish_error]
  | ok reached =>
      obtain ⟨flushed, same⟩ | ⟨error, failed, same⟩ := finish_ok reached machine
      · simp [flushed, same]
      · simp [failed, same]

theorem accepted_finish (outcome : Except Fault Exit) (machine : Machine)
    : (finish outcome machine).2.output.accepted = machine.output.accepted := by
  rw [finish_snd]
  exact machine.output.accepted_flush

/-- A run tells of a step limit only if its drive reached one. -/
theorem drive_of_finish_stepLimit {outcome : Except Fault Exit} {machine : Machine}
    (finished : (finish outcome machine).1 = .ok .stepLimit)
    : outcome = .ok .stepLimit := by
  cases outcome with
  | error fault => simp [finish_error] at finished
  | ok exit =>
      rcases finish_ok exit machine with ⟨_, same⟩ | ⟨error, _, failed⟩
      · exact same.symm.trans finished
      · simp [failed] at finished

-----------------------------------------------------------------------------------------
-- Conclusive budgets
-----------------------------------------------------------------------------------------

/-- The machine after a run with a budget shows that more steps would not have mattered: some
were left over, or it has stopped.
-/
def Conclusive (budget : Nat) (after : Machine) : Prop :=
  after.steps < budget ∨ after.running = false

instance (budget : Nat) (after : Machine) : Decidable (Conclusive budget after) :=
  inferInstanceAs (Decidable (_ ∨ _))

theorem runBounded_eq_finish (machine : Machine) (address : Int) (budget : Nat)
    : machine.runBounded address budget
      = finish (drive budget (machine.start address)).1
          (drive budget (machine.start address)).2 :=
  rfl

/-- The registers after a run are those after its drive. -/
theorem runBounded_registers (machine : Machine) (address : Int) (budget : Nat)
    : (machine.runBounded address budget).2.steps
        = (drive budget (machine.start address)).2.steps
      ∧ (machine.runBounded address budget).2.running
        = (drive budget (machine.start address)).2.running := by
  rw [runBounded_eq_finish, finish_snd]
  exact ⟨rfl, rfl⟩

/-- A budget is conclusive exactly if the drive ended before it was used up. -/
theorem conclusive_iff_ended (machine : Machine) (address : Int) (budget : Nat)
    : Conclusive budget (machine.runBounded address budget).2
      ↔ (drive budget (machine.start address)).1 ≠ .ok .stepLimit := by
  obtain ⟨steps, running⟩ := machine.runBounded_registers address budget
  have fresh : (machine.start address).steps + budget = budget := Nat.zero_add budget
  unfold Conclusive
  rw [steps, running]
  constructor
  · intro conclusive limit
    have driven : drive budget (machine.start address)
        = (.ok .stepLimit, (drive budget (machine.start address)).2) := by
      rw [← limit]
    obtain ⟨_, still, count⟩ := running_of_drive_stepLimit driven
    rcases conclusive with fewer | stopped
    · rw [count, fresh] at fewer
      exact Nat.lt_irrefl _ fewer
    · rw [stopped] at still
      cases still
  · intro ended
    have rest := steps_lt_or_stopped_of_ended ended
    rwa [fresh] at rest

/-- The run without a budget gives what every budget gives that its drive does not use up. -/
theorem run_eq_some_iff {patience : Nat} {machine : Machine} {address : Int}
    {result : Except Fault Exit × Machine}
    : machine.run patience address = some result
      ↔ (drive patience (machine.start address)).1 ≠ .ok .stepLimit
        ∧ machine.runBounded address patience = result := by
  unfold run driveToEnd runBounded
  rcases drive patience (machine.start address) with ⟨_ | _ | _, after⟩ <;> simp

/-- A conclusive budget decides every larger one. -/
theorem runBounded_of_conclusive {machine : Machine} {address : Int} {budget larger : Nat}
    (conclusive : Conclusive budget (machine.runBounded address budget).2)
    (more : budget ≤ larger)
    : machine.runBounded address larger = machine.runBounded address budget := by
  have ended := (machine.conclusive_iff_ended address budget).mp conclusive
  rw [runBounded_eq_finish, runBounded_eq_finish, drive_of_ended ended more]

/-- Two budgets that are both conclusive agree, whichever is the larger one. -/
theorem runBounded_unique {machine : Machine} {address : Int} {budget other : Nat}
    (conclusive : Conclusive budget (machine.runBounded address budget).2)
    (alsoConclusive : Conclusive other (machine.runBounded address other).2)
    : machine.runBounded address other = machine.runBounded address budget := by
  rcases Nat.le_total budget other with more | fewer
  · exact runBounded_of_conclusive conclusive more
  · exact (runBounded_of_conclusive alsoConclusive fewer).symm

theorem run_of_conclusive {machine : Machine} {address : Int} {budget : Nat}
    (conclusive : Conclusive budget (machine.runBounded address budget).2)
    : machine.run budget address = some (machine.runBounded address budget) :=
  run_eq_some_iff.mpr ⟨(machine.conclusive_iff_ended address budget).mp conclusive, rfl⟩

/-- The run without a budget ends exactly if some budget is conclusive for it. -/
theorem run_terminates_iff (machine : Machine) (address : Int)
    : (∃ patience result, machine.run patience address = some result)
      ↔ ∃ budget, Conclusive budget (machine.runBounded address budget).2 := by
  constructor
  · rintro ⟨patience, result, answered⟩
    have ended := (run_eq_some_iff.mp answered).1
    exact ⟨patience, (machine.conclusive_iff_ended address patience).mpr ended⟩
  · rintro ⟨budget, conclusive⟩
    exact ⟨budget, _, run_of_conclusive conclusive⟩

-----------------------------------------------------------------------------------------
-- Budgets that were used up
-----------------------------------------------------------------------------------------

theorem drive_of_not_conclusive {machine : Machine} {address : Int} {budget : Nat}
    (usedUp : ¬ Conclusive budget (machine.runBounded address budget).2)
    : drive budget (machine.start address)
      = (.ok .stepLimit, (drive budget (machine.start address)).2) := by
  rw [conclusive_iff_ended, ne_eq, Classical.not_not] at usedUp
  rw [← usedUp]

/-- What a run wrote within its budget is the beginning of what it writes with a larger one. -/
theorem accepted_runBounded_mono {machine : Machine} {address : Int} {budget larger : Nat}
    (more : budget ≤ larger)
    : (machine.runBounded address budget).2.output.accepted
      <+: (machine.runBounded address larger).2.output.accepted := by
  by_cases conclusive : Conclusive budget (machine.runBounded address budget).2
  · have settled := runBounded_of_conclusive conclusive more
    exact settled ▸ List.prefix_rfl
  · obtain ⟨extra, rfl⟩ := Nat.exists_eq_add_of_le more
    rw [runBounded_eq_finish, runBounded_eq_finish, accepted_finish, accepted_finish,
      drive_add (drive_of_not_conclusive conclusive)]
    exact accepted_drive extra _

/-- A mark that is reached as the last step of a budget still halts the machine. -/
theorem drive_of_mark_on_last_step {machine reached halted : Machine} {budget : Nat}
    (driven : drive budget machine = (.ok .stepLimit, reached))
    (marked : reached.isEnd reached.programCounter = true)
    (stepped : reached.step = (.ok (), halted))
    : drive (budget + 1) machine = (.ok .halted, halted)
      ∧ halted.steps = machine.steps + (budget + 1) := by
  obtain ⟨_, running, count⟩ := running_of_drive_stepLimit driven
  have stopped : halted.running = false := by
    have cleared := reached.running_step
    rwa [stepped, running, marked] at cleared
  have one := steps_of_step_ok stepped
  refine ⟨?_, by omega⟩
  rw [drive_add driven, drive_succ_of_ok running stepped, drive_of_not_running stopped]

/-- Runs with a budget and the run without one are the same run as far as they go. A budget
that is conclusive settles all larger ones and the run without one; a budget that is not was
used up, and its output is the beginning of every longer one.
-/
theorem runBounded_agrees_with_run (machine : Machine) (address : Int) (budget : Nat)
    : (machine.runBounded address budget).2.steps ≤ budget
      ∧ (Conclusive budget (machine.runBounded address budget).2
        → (∀ larger, budget ≤ larger
            → machine.runBounded address larger = machine.runBounded address budget)
          ∧ (∃ patience,
              machine.run patience address = some (machine.runBounded address budget))
          ∧ (∀ patience result, machine.run patience address = some result
            → result = machine.runBounded address budget)
          ∧ (machine.runBounded address budget).1 ≠ .ok .stepLimit)
      ∧ (¬ Conclusive budget (machine.runBounded address budget).2
        → (machine.runBounded address budget).2.steps = budget
          ∧ (machine.runBounded address budget).2.running = true
          ∧ ((machine.runBounded address budget).1 = .ok .stepLimit
            ∨ ∃ error,
                (drive budget (machine.start address)).2.output.flush.1 = .error error
                ∧ (machine.runBounded address budget).1 = .error (.io error))
          ∧ ∀ larger, budget ≤ larger
              → (machine.runBounded address budget).2.output.accepted
                <+: (machine.runBounded address larger).2.output.accepted)
      ∧ ((∃ patience result, machine.run patience address = some result)
        ↔ ∃ enough, Conclusive enough (machine.runBounded address enough).2)
      ∧ (∀ reached halted,
          drive budget (machine.start address) = (.ok .stepLimit, reached)
          → reached.isEnd reached.programCounter = true
          → reached.step = (.ok (), halted)
          → (machine.runBounded address (budget + 1)).2.steps = budget + 1
            ∧ (machine.runBounded address (budget + 1)).1 ≠ .ok .stepLimit
            ∧ (halted.output.flush.1 = .ok ()
              → (machine.runBounded address (budget + 1)).1 = .ok .halted)) := by
  have registers := machine.runBounded_registers address budget
  have fresh : (machine.start address).steps + budget = budget := Nat.zero_add budget
  refine ⟨?_, ?_, ?_, machine.run_terminates_iff address, ?_⟩
  · have bound := steps_drive_le budget (machine.start address)
    rwa [fresh, ← registers.1] at bound
  · intro conclusive
    refine ⟨fun _ => runBounded_of_conclusive conclusive, ⟨budget, run_of_conclusive conclusive⟩,
      ?_, ?_⟩
    · intro patience result answered
      obtain ⟨ended, rfl⟩ := run_eq_some_iff.mp answered
      exact runBounded_unique conclusive
        ((machine.conclusive_iff_ended address patience).mpr ended)
    · intro limit
      exact (machine.conclusive_iff_ended address budget).mp conclusive
        (drive_of_finish_stepLimit limit)
  · intro inconclusive
    have driven := drive_of_not_conclusive inconclusive
    obtain ⟨_, running, count⟩ := running_of_drive_stepLimit driven
    refine ⟨?_, registers.2.trans running, ?_, fun _ => accepted_runBounded_mono⟩
    · rw [registers.1, count, fresh]
    · rw [runBounded_eq_finish, driven]
      exact (finish_ok .stepLimit _).imp_left And.right
  · intro reached halted driven marked stepped
    obtain ⟨last, count⟩ := drive_of_mark_on_last_step driven marked stepped
    have steps := (machine.runBounded_registers address (budget + 1)).1
    rw [last] at steps
    refine ⟨steps.trans (count.trans (Nat.zero_add _)), ?_, ?_⟩
    · intro limit
      rw [runBounded_eq_finish] at limit
      have reachedLimit := drive_of_finish_stepLimit limit
      rw [last] at reachedLimit
      cases reachedLimit
    · intro flushed
      rw [runBounded_eq_finish, last]
      exact finish_of_flushed flushed

end TapeMachine.Machine
