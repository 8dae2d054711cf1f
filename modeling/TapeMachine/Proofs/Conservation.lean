import TapeMachine.Proofs.DeviceRequests
import TapeMachine.Proofs.StoredCells

/-! Nothing is lost or made up between a machine and its devices. Over any steps in a row, faults
among them, the output takes what the steps that wrote had in their cells, and the input is read
once by each step that reads a value and by no other.
-/

namespace TapeMachine.Machine

-----------------------------------------------------------------------------------------
-- Steps in a row
-----------------------------------------------------------------------------------------

/-- The machine after so many steps, whether they succeed or fault. -/
def afterSteps : Nat → Machine → Machine
  | 0, machine => machine
  | count + 1, machine => afterSteps count machine.step.2

/-- The machines before each of so many steps. -/
def beforeSteps : Nat → Machine → List Machine
  | 0, _ => []
  | count + 1, machine => machine :: beforeSteps count machine.step.2

/-- The byte that the coming step writes, if it succeeds in writing one. -/
def writtenByte (machine : Machine) : Option UInt8 :=
  match machine.request, machine.step.1 with
  | .write cell, .ok () => some (machine.tape.byte cell)
  | _, _ => none

/-- Whether the coming step reads a value into a cell. -/
def reads (machine : Machine) : Bool :=
  match machine.request with
  | .read _ => true
  | _ => false

/-- The machines before those of so many steps that read a value. -/
def readers (count : Nat) (machine : Machine) : List Machine :=
  (beforeSteps count machine).filter reads

-----------------------------------------------------------------------------------------
-- One step
-----------------------------------------------------------------------------------------

theorem writtenByte_of_not_write {machine : Machine}
    (otherwise : ∀ cell, machine.request ≠ .write cell)
    : machine.writtenByte = none := by
  unfold writtenByte
  split
  · rename_i cell asks _
    exact absurd asks (otherwise cell)
  · rfl

/-- A step appends the byte that it writes, and nothing if it faults. -/
theorem accepted_step (machine : Machine)
    : machine.step.2.output.accepted
      = machine.output.accepted ++ machine.writtenByte.toList := by
  cases asks : machine.request with
  | nothing =>
      rw [writtenByte_of_not_write (by simp [asks]), step_eq_counted, counted_output,
        (attempt_keeps_devices asks).2]
      simp
  | read cell =>
      rw [writtenByte_of_not_write (by simp [asks]), step_eq_counted, counted_output,
        attempt_of_read asks, readCell]
      rcases machine.input.read with ⟨_ | _ | value, later⟩
      · simp
      · cases machine.eofPolicy <;> simp
      · simp
  | write cell =>
      simp only [writtenByte, asks, step_eq_counted, counted_fst, counted_output,
        attempt_of_write asks, writeCell]
      rcases reply : machine.output.write (machine.tape.byte cell) with ⟨_ | _, later⟩
      · simp [Sink.accepted_write_error reply]
      · simp [Sink.accepted_write_ok reply]
  | flush =>
      rw [writtenByte_of_not_write (by simp [asks]), step_eq_counted, counted_output,
        attempt_of_flush asks, halt]
      have kept := machine.output.accepted_flush
      rcases reply : machine.output.flush with ⟨_ | _, later⟩ <;> simpa [reply] using kept

theorem input_readCell (machine : Machine) (cell : Nat)
    : (machine.readCell cell).2.input = machine.input.read.2 := by
  unfold readCell
  rcases machine.input.read with ⟨_ | _ | value, later⟩
  · rfl
  · cases machine.eofPolicy <;> rfl
  · rfl

/-- A step reads once if it reads, and leaves the input alone if it does not. -/
theorem input_step (machine : Machine)
    : machine.step.2.input = if machine.reads then machine.input.read.2 else machine.input := by
  rw [step_eq_counted, counted_input]
  cases asks : machine.request with
  | nothing => simp [reads, asks, (attempt_keeps_devices asks).1]
  | read cell => simp [reads, asks, attempt_of_read asks, input_readCell]
  | write cell =>
      simp only [reads, asks, attempt_of_write asks, writeCell]
      split <;> rfl
  | flush =>
      simp only [reads, asks, attempt_of_flush asks, halt]
      split <;> rfl

theorem clampToCell_toNat (value : Int)
    : ((clampToCell value).toNat : Int) = min 255 (max 0 value) := by
  rw [clampToCell, UInt8.toNat_ofNat']
  omega

/-- A value that is read is found in the cell after the step, as near as a cell can come to it. -/
theorem byte_step_of_read {machine : Machine} {value : Int} (reads : machine.reads = true)
    (given : machine.input.read.1 = .ok (some value))
    : ∃ cell : Nat,
        machine.dataPointer = cell
        ∧ machine.step.1 = .ok ()
        ∧ ((machine.step.2.tape.byte cell).toNat : Int) = min 255 (max 0 value) := by
  cases asks : machine.request with
  | nothing | write cell | flush => simp [Machine.reads, asks] at reads
  | read cell =>
      obtain ⟨_, located⟩ := request_eq_read_iff.mp asks
      obtain ⟨here, inside⟩ := Tape.locate_eq_ok_iff.mp located
      rcases found : machine.input.read with ⟨outcome, later⟩
      rw [found] at given
      obtain rfl : outcome = .ok (some value) := given
      refine ⟨cell, here, ?_, ?_⟩
      · simp only [step_eq_counted, counted_fst, attempt_of_read asks, readCell, found]
      · rw [← clampToCell_toNat]
        simp [step_eq_counted, attempt_of_read asks, readCell, found, Tape.byte, Tape.cell_store,
          inside, Cell.byte]

-----------------------------------------------------------------------------------------
-- Any number of steps
-----------------------------------------------------------------------------------------

theorem accepted_afterSteps (count : Nat) (machine : Machine)
    : (afterSteps count machine).output.accepted
      = machine.output.accepted ++ (beforeSteps count machine).filterMap writtenByte := by
  induction count generalizing machine with
  | zero => simp [afterSteps, beforeSteps]
  | succ count ih =>
      rw [afterSteps, beforeSteps, ih, accepted_step, List.append_assoc, List.filterMap_cons]
      cases machine.writtenByte <;> rfl

/-- The reads of the steps are the reads of the input in a row, by induction on the steps. -/
theorem readMany_readers (count : Nat) (machine : Machine)
    : machine.input.readMany (readers count machine).length
      = ((readers count machine).map (fun reader => reader.input.read.1),
          (afterSteps count machine).input) := by
  induction count generalizing machine with
  | zero => rfl
  | succ count ih =>
      have next := ih machine.step.2
      rw [input_step] at next
      simp only [readers, beforeSteps, afterSteps] at next ⊢
      cases reads : machine.reads with
      | false =>
          rw [if_neg (by simp [reads])] at next
          rwa [List.filter_cons_of_neg (by simp [reads])]
      | true =>
          rw [if_pos reads] at next
          rw [List.filter_cons_of_pos reads, List.length_cons, Input.readMany]
          simp only [next, List.map_cons]

/-- Between a machine and its devices nothing is lost or made up, whatever steps it takes and
whatever the devices answer. The output gets, in order and each once, the bytes of the steps that
wrote, and nothing from a step that faults. The input is read once by every step that reads a
value into a cell and by no other, and a value that is read ends up in that cell, as near as the
cell can come to it.
-/
theorem steps_conserve_io (machine : Machine) (count : Nat)
    : (afterSteps count machine).output.accepted
        = machine.output.accepted ++ (beforeSteps count machine).filterMap writtenByte
      ∧ (∀ earlier ∈ beforeSteps count machine, ∀ fault,
          earlier.step.1 = .error fault
          → earlier.step.2.output.accepted = earlier.output.accepted)
      ∧ machine.input.readMany (readers count machine).length
        = ((readers count machine).map (fun reader => reader.input.read.1),
            (afterSteps count machine).input)
      ∧ (∀ earlier ∈ beforeSteps count machine,
          earlier.step.2.input
          = if earlier.reads then earlier.input.read.2 else earlier.input)
      ∧ (∀ (position : Nat) (reader : Machine) (value : Int),
          (readers count machine)[position]? = some reader
          → (machine.input.readMany (readers count machine).length).1[position]?
            = some (.ok (some value))
          → ∃ cell : Nat,
              reader.dataPointer = cell
              ∧ reader.step.1 = .ok ()
              ∧ ((reader.step.2.tape.byte cell).toNat : Int) = min 255 (max 0 value)) := by
  refine ⟨accepted_afterSteps count machine, ?_, readMany_readers count machine,
    fun earlier _ => earlier.input_step, ?_⟩
  · intro earlier _ fault failed
    have nothing : earlier.writtenByte = none := by
      unfold writtenByte
      rw [failed]
      split
      · contradiction
      · rfl
    rw [accepted_step, nothing]
    simp
  · intro position reader value found given
    have reads : reader.reads = true := (List.mem_filter.mp (List.mem_of_getElem? found)).2
    rw [readMany_readers, List.getElem?_map, found] at given
    exact byte_step_of_read reads (Option.some.inj given)

end TapeMachine.Machine
