import TapeMachine.Proofs.Budgets
import TapeMachine.Proofs.Conservation
import TapeMachine.Proofs.SeenCells

/-! How far steps reach. A step changes a cell only by storing under the data pointer, and it moves
the pointer by one cell at most. So what lies as many cells from the pointer as there are steps
stays as it is, whatever the program does to itself on the way.
-/

namespace TapeMachine.Machine

-----------------------------------------------------------------------------------------
-- Steps in a row
-----------------------------------------------------------------------------------------

theorem exists_of_mem_beforeSteps {count : Nat} {machine earlier : Machine}
    (member : earlier ∈ beforeSteps count machine)
    : ∃ done < count, earlier = afterSteps done machine := by
  induction count generalizing machine with
  | zero => cases member
  | succ count ih =>
      rcases List.mem_cons.mp member with rfl | later
      · exact ⟨0, Nat.zero_lt_succ _, rfl⟩
      · obtain ⟨done, fewer, same⟩ := ih later
        exact ⟨done + 1, Nat.succ_lt_succ fewer, same⟩

theorem size_afterSteps (count : Nat) (machine : Machine)
    : (afterSteps count machine).tape.size = machine.tape.size := by
  induction count generalizing machine with
  | zero => rfl
  | succ count ih => rw [afterSteps, ih, size_step]

/-- The data pointer moves by one cell a step at most, by induction on the steps. -/
theorem distance_afterSteps (count : Nat) (machine : Machine)
    : ((afterSteps count machine).dataPointer - machine.dataPointer).natAbs ≤ count := by
  induction count generalizing machine with
  | zero => simp only [afterSteps, Int.sub_self, Int.natAbs_zero, Nat.le_refl]
  | succ count ih =>
      have first := machine.distance_step
      have others := ih machine.step.2
      rw [afterSteps]
      omega

/-- A cell that no step stores in stays as it is, by induction on the steps. -/
theorem cell_afterSteps {count index : Nat} {machine : Machine}
    (untouched : ∀ earlier ∈ beforeSteps count machine, earlier.storedCell ≠ some index)
    : (afterSteps count machine).tape.cell index = machine.tape.cell index := by
  induction count generalizing machine with
  | zero => rfl
  | succ count ih =>
      rw [beforeSteps, List.forall_mem_cons] at untouched
      rw [afterSteps, ih untouched.2, cell_step_of_not_stored untouched.1]

section Steps

variable {count : Nat} {machine : Machine}

theorem seenAt_afterSteps {address : Int}
    (untouched : ∀ earlier ∈ beforeSteps count machine,
      earlier.Stores → earlier.dataPointer ≠ address)
    : (afterSteps count machine).seenAt address = machine.seenAt address := by
  apply seenAt_congr (size_afterSteps count machine)
  rintro index rfl
  apply cell_afterSteps
  intro earlier member stored
  obtain ⟨here, stores⟩ := stores_of_storedCell stored
  exact untouched earlier member stores here

/-- The pointer has not come to a cell that is as far away as there are steps before the last of
them is taken.
-/
theorem seenAt_afterSteps_of_far {address : Int}
    (far : count ≤ (address - machine.dataPointer).natAbs)
    : (afterSteps count machine).seenAt address = machine.seenAt address := by
  apply seenAt_afterSteps
  rintro earlier member - rfl
  obtain ⟨done, fewer, rfl⟩ := exists_of_mem_beforeSteps member
  have near := distance_afterSteps done machine
  omega

theorem tape_afterSteps_of_offTape
    (offTape : ∀ earlier ∈ beforeSteps count machine,
      earlier.dataPointer < 0 ∨ machine.tape.size ≤ earlier.dataPointer)
    : (afterSteps count machine).tape = machine.tape := by
  apply Tape.eq_of_cells (size_afterSteps count machine)
  intro index
  apply cell_afterSteps
  intro earlier member stored
  have inside := storedCell_lt stored
  obtain ⟨here, _⟩ := stores_of_storedCell stored
  have outside := offTape earlier member
  obtain ⟨done, _, rfl⟩ := exists_of_mem_beforeSteps member
  rw [size_afterSteps] at inside
  omega

end Steps

-----------------------------------------------------------------------------------------
-- Runs
-----------------------------------------------------------------------------------------

/-- A drive takes some steps in a row. -/
theorem drive_eq_afterSteps (budget : Nat) (machine : Machine)
    : ∃ count ≤ budget, (drive budget machine).2 = afterSteps count machine := by
  fun_induction drive budget machine with
  | case1 machine => exact ⟨0, Nat.le_refl 0, rfl⟩
  | case2 budget machine running after stepped ih =>
      obtain ⟨count, within, same⟩ := ih
      refine ⟨count + 1, Nat.succ_le_succ within, ?_⟩
      rw [same, afterSteps, stepped]
  | case3 budget machine running fault after stepped =>
      refine ⟨1, Nat.succ_le_succ (Nat.zero_le _), ?_⟩
      rw [afterSteps, stepped, afterSteps]
  | case4 budget machine stopped => exact ⟨0, Nat.zero_le _, rfl⟩

/-- Steps in a row, faults among them, keep the value and the mark of every cell that was not under
the data pointer when an instruction stored. The pointer gets no further than there are steps, so
cells that far from where it was are kept; and while it is off the tape, all of the tape is kept. A
run has the reach of the steps that it may take.
-/
theorem steps_act_near_pointer (machine : Machine) (count : Nat)
    : (∀ address,
        (∀ earlier ∈ beforeSteps count machine, earlier.Stores → earlier.dataPointer ≠ address)
        → (afterSteps count machine).seenAt address = machine.seenAt address)
      ∧ ((afterSteps count machine).dataPointer - machine.dataPointer).natAbs ≤ count
      ∧ (∀ address : Int,
          count ≤ (address - machine.dataPointer).natAbs
          → (afterSteps count machine).seenAt address = machine.seenAt address)
      ∧ ((∀ earlier ∈ beforeSteps count machine,
            earlier.dataPointer < 0 ∨ machine.tape.size ≤ earlier.dataPointer)
          → (afterSteps count machine).tape = machine.tape)
      ∧ ∀ start,
          ((machine.runBounded start count).2.dataPointer - machine.dataPointer).natAbs ≤ count
          ∧ ∀ address : Int,
              count ≤ (address - machine.dataPointer).natAbs
              → (machine.runBounded start count).2.seenAt address = machine.seenAt address := by
  refine ⟨fun _ => seenAt_afterSteps, distance_afterSteps count machine,
    fun _ => seenAt_afterSteps_of_far, tape_afterSteps_of_offTape, ?_⟩
  intro start
  obtain ⟨taken, within, reached⟩ := drive_eq_afterSteps count (machine.start start)
  -- The flush behind the drive is no matter of the tape or the pointer.
  rw [runBounded_eq_finish, finish_snd, reached]
  refine ⟨Nat.le_trans (distance_afterSteps taken (machine.start start)) within, ?_⟩
  intro address far
  have alsoFar : taken ≤ (address - (machine.start start).dataPointer).natAbs :=
    Nat.le_trans within far
  exact seenAt_afterSteps_of_far alsoFar

/-- A machine that walks to a cell and counts it up there, which is as far as it can change
anything; and one whose pointer moves further and further away from the tape.
-/
theorem steps_act_near_pointer_at_both_limits
    : ∃ walking stranded : Machine,
        walking.dataPointer = 0
        ∧ walking.seenAt 2 = (.ok 0, false)
        ∧ (afterSteps 3 walking).seenAt 2 = (.ok 1, false)
        ∧ (afterSteps 3 walking).seenAt 3 = walking.seenAt 3
        ∧ stranded.dataPointer = -1
        ∧ (afterSteps 2 stranded).dataPointer = -3
        ∧ (afterSteps 2 stranded).tape = stranded.tape := by
  let blank := create 0 (.bytes []) (.scripted (.ofReplies [] []))
  let walking : Machine :=
    { blank with
      tape := ⟨#[.data 0, .data 0, .data 0, .data 0, .data 62, .data 62, .data 43]⟩
      programCounter := 4 }
  let stranded : Machine := { blank with tape := ⟨#[.data 60]⟩, dataPointer := -1 }
  have stays := steps_act_near_pointer walking 3
  have keeps := steps_act_near_pointer stranded 2
  refine ⟨walking, stranded, rfl, rfl, ?_, stays.2.2.1 3 ?_, rfl, ?_, keeps.2.2.2.1 ?_⟩ <;>
    decide

end TapeMachine.Machine
