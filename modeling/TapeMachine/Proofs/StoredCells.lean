import TapeMachine.Proofs.Drive

/-! The cells that a drive stores in. They are the only ones that can change, and a cell that
was stored in holds no mark afterwards.
-/

namespace TapeMachine.Machine

/-- The cells that up to so many steps store in, in order and as often as they are stored in. -/
def storedCells : Nat → Machine → List Nat
  | 0, _ => []
  | budget + 1, machine =>
      if machine.running then
        machine.storedCell.toList
          ++ match machine.step with
            | (.ok (), after) => storedCells budget after
            | (.error _, _) => []
      else
        []

theorem storedCells_of_not_running {machine : Machine} (stopped : machine.running = false)
    (budget : Nat)
    : storedCells budget machine = [] := by
  cases budget <;> simp [storedCells, stopped]

theorem storedCells_succ_of_ok {machine after : Machine} (running : machine.running = true)
    (stepped : machine.step = (.ok (), after)) (budget : Nat)
    : storedCells (budget + 1) machine
      = machine.storedCell.toList ++ storedCells budget after := by
  simp only [storedCells, running, stepped, if_true]

theorem storedCells_succ_of_error {machine after : Machine} {fault : Fault}
    (running : machine.running = true) (stepped : machine.step = (.error fault, after))
    (budget : Nat)
    : storedCells (budget + 1) machine = machine.storedCell.toList := by
  simp only [storedCells, running, stepped, if_true, List.append_nil]

theorem storedCells_one {machine : Machine} (running : machine.running = true)
    : storedCells 1 machine = machine.storedCell.toList := by
  cases stepped : machine.step with
  | mk outcome after =>
      cases outcome with
      | error fault => exact storedCells_succ_of_error running stepped 0
      | ok done =>
          rw [storedCells_succ_of_ok running stepped, storedCells, List.append_nil]

/-- Continuing a drive appends to the cells it stored in. -/
theorem storedCells_add {first : Nat} {machine middle : Machine}
    (driven : drive first machine = (.ok .stepLimit, middle)) (second : Nat)
    : storedCells (first + second) machine
      = storedCells first machine ++ storedCells second middle := by
  fun_induction drive first machine with
  | case1 machine =>
      obtain ⟨_, rfl⟩ := Prod.mk.inj driven
      simp [storedCells]
  | case2 budget machine running reached stepped ih =>
      rw [Nat.succ_add, storedCells_succ_of_ok running stepped,
        storedCells_succ_of_ok running stepped, ih driven, List.append_assoc]
  | case3 budget machine running fault reached stepped => cases driven
  | case4 budget machine stopped => cases driven

/-- A drive that has ended stores nothing more. -/
theorem storedCells_of_ended {budget : Nat} {machine : Machine}
    (ended : (drive budget machine).1 ≠ .ok .stepLimit) (extra : Nat)
    : storedCells (budget + extra) machine = storedCells budget machine := by
  fun_induction drive budget machine with
  | case1 machine =>
      cases running : machine.running with
      | false => simp [storedCells_of_not_running running]
      | true => simp [running] at ended
  | case2 budget machine running reached stepped ih =>
      rw [Nat.succ_add, storedCells_succ_of_ok running stepped,
        storedCells_succ_of_ok running stepped, ih ended]
  | case3 budget machine running fault reached stepped =>
      rw [Nat.succ_add, storedCells_succ_of_error running stepped,
        storedCells_succ_of_error running stepped]
  | case4 budget machine stopped =>
      have still := Bool.not_eq_true _ ▸ stopped
      rw [storedCells_of_not_running still, storedCells_of_not_running still]

theorem storedCells_mono {budget larger : Nat} (more : budget ≤ larger) (machine : Machine)
    : storedCells budget machine <+: storedCells larger machine := by
  obtain ⟨extra, rfl⟩ := Nat.exists_eq_add_of_le more
  by_cases limit : (drive budget machine).1 = .ok .stepLimit
  · have driven : drive budget machine = (.ok .stepLimit, (drive budget machine).2) := by
      rw [← limit]
    rw [storedCells_add driven]
    exact List.prefix_append _ _
  · have same := storedCells_of_ended limit extra
    exact same ▸ List.prefix_rfl

/-- A drive that has ended has made all the stores there are. -/
theorem storedCells_subset_of_ended {budget : Nat} {machine : Machine}
    (ended : (drive budget machine).1 ≠ .ok .stepLimit) (other : Nat)
    : storedCells other machine ⊆ storedCells budget machine := by
  rcases Nat.le_total other budget with fewer | more
  · exact (storedCells_mono fewer machine).subset
  · obtain ⟨extra, rfl⟩ := Nat.exists_eq_add_of_le more
    rw [storedCells_of_ended ended]
    exact List.Subset.refl _

-----------------------------------------------------------------------------------------
-- What a step does to a cell
-----------------------------------------------------------------------------------------

/-- The coming step executes an instruction that stores under the data pointer: one that counts the
cell up or down, or a read that has a value for it.
-/
inductive Stores (machine : Machine) : Prop where
  | counts {position : Nat} {op : Opcode} (fetched : machine.fetch = .ok (.instruction position op))
      (upOrDown : op = .increment ∨ op = .decrement)
  | reads {position : Nat} {value : Int}
      (fetched : machine.fetch = .ok (.instruction position .read))
      (given : machine.input.read.1 = .ok (some value))
  | zeroes {position : Nat} (fetched : machine.fetch = .ok (.instruction position .read))
      (ended : machine.input.read.1 = .ok none) (policy : machine.eofPolicy = .zero)

theorem storedCell_eq_some_iff {machine : Machine} {index : Nat}
    : machine.storedCell = some index
      ↔ ∃ value, machine.upcomingStore = some (index, value) := by
  unfold storedCell
  cases machine.upcomingStore with
  | none => simp
  | some stored => simp [Prod.ext_iff]

/-- A step stores where the data pointer is, and only if its instruction stores. -/
theorem stores_of_storedCell {machine : Machine} {index : Nat}
    (stored : machine.storedCell = some index)
    : machine.dataPointer = index ∧ machine.Stores := by
  obtain ⟨value, stored⟩ := storedCell_eq_some_iff.mp stored
  unfold upcomingStore at stored
  split at stored
  · rename_i position op fetched
    unfold storeBy at stored
    split at stored
    · rename_i cell located
      obtain ⟨_, valued, same⟩ := Option.map_eq_some_iff.mp stored
      obtain ⟨rfl, _⟩ := Prod.mk.inj same
      refine ⟨(Tape.locate_eq_ok_iff.mp located).1, ?_⟩
      cases op with
      | increment => exact .counts fetched (.inl rfl)
      | decrement => exact .counts fetched (.inr rfl)
      | read =>
          simp only [storedValue] at valued
          split at valued
          · rename_i given
            exact .reads fetched given
          · rename_i ended
            split at valued
            · rename_i policy
              exact .zeroes fetched ended policy
            · cases valued
          · cases valued
      | moveRight | moveLeft | write | loopStart | loopEnd => cases valued
    · cases stored
  · cases stored

/-- Steps store on the tape only. -/
theorem storedCell_lt {machine : Machine} {index : Nat}
    (stores : machine.storedCell = some index)
    : index < machine.tape.size := by
  obtain ⟨value, stores⟩ := storedCell_eq_some_iff.mp stores
  unfold upcomingStore at stores
  split at stores
  · unfold storeBy at stores
    split at stores
    · rename_i cell located
      obtain ⟨_, _, same⟩ := Option.map_eq_some_iff.mp stores
      rw [← (Prod.mk.inj same).1]
      exact (Tape.locate_eq_ok_iff.mp located).2
    · cases stores
  · cases stores

theorem size_step (machine : Machine)
    : machine.step.2.tape.size = machine.tape.size := by
  rw [tape_step]
  cases machine.upcomingStore with
  | none => rfl
  | some stored => exact Tape.size_store _ _ _

theorem cell_step_of_not_stored {machine : Machine} {index : Nat}
    (untouched : machine.storedCell ≠ some index)
    : machine.step.2.tape.cell index = machine.tape.cell index := by
  rw [tape_step]
  cases stores : machine.upcomingStore with
  | none => rfl
  | some stored =>
      have other : stored.1 ≠ index := by
        intro same
        exact untouched (storedCell_eq_some_iff.mpr ⟨stored.2, by rw [stores, ← same]⟩)
      simp [Tape.storeIfAny, Tape.cell_store, other]

theorem cell_step_of_stored {machine : Machine} {index : Nat}
    (stores : machine.storedCell = some index)
    : ∃ value, machine.step.2.tape.cell index = .data value := by
  have inside := storedCell_lt stores
  obtain ⟨value, stores⟩ := storedCell_eq_some_iff.mp stores
  refine ⟨value, ?_⟩
  simp [tape_step, stores, Tape.storeIfAny, Tape.cell_store, inside]

-----------------------------------------------------------------------------------------
-- What a drive does to a cell
-----------------------------------------------------------------------------------------

theorem size_drive (budget : Nat) (machine : Machine)
    : (drive budget machine).2.tape.size = machine.tape.size := by
  apply drive_preserves (fun later => later.tape.size = machine.tape.size)
  · intro later same
    rw [size_step, same]
  · rfl

/-- A cell that is not stored in stays as it is, mark included. -/
theorem cell_drive_of_not_mem {budget index : Nat} {machine : Machine}
    (untouched : index ∉ storedCells budget machine)
    : (drive budget machine).2.tape.cell index = machine.tape.cell index := by
  fun_induction drive budget machine with
  | case1 machine => rfl
  | case2 budget machine running reached stepped ih =>
      rw [storedCells_succ_of_ok running stepped, List.mem_append, not_or] at untouched
      have first := cell_step_of_not_stored
        (fun stores => untouched.1 (Option.mem_toList.mpr stores))
      rw [stepped] at first
      rw [ih untouched.2, first]
  | case3 budget machine running fault reached stepped =>
      rw [storedCells_succ_of_error running stepped] at untouched
      have first := cell_step_of_not_stored (fun stores => untouched (Option.mem_toList.mpr stores))
      rwa [stepped] at first
  | case4 budget machine stopped => rfl

/-- A cell that is stored in ends up without a mark: whatever happens to it later is another
store.
-/
theorem cell_drive_of_mem {budget index : Nat} {machine : Machine}
    (stored : index ∈ storedCells budget machine)
    : ∃ value, (drive budget machine).2.tape.cell index = .data value := by
  fun_induction drive budget machine with
  | case1 machine => cases stored
  | case2 budget machine running reached stepped ih =>
      rw [storedCells_succ_of_ok running stepped, List.mem_append] at stored
      by_cases later : index ∈ storedCells budget reached
      · exact ih later
      · have now := stored.resolve_right later
        have first := cell_step_of_stored (Option.mem_toList.mp now)
        rw [stepped] at first
        rwa [cell_drive_of_not_mem later]
  | case3 budget machine running fault reached stepped =>
      rw [storedCells_succ_of_error running stepped] at stored
      have first := cell_step_of_stored (Option.mem_toList.mp stored)
      rwa [stepped] at first
  | case4 budget machine stopped =>
      rw [storedCells_of_not_running (Bool.not_eq_true _ ▸ stopped)] at stored
      cases stored

end TapeMachine.Machine
