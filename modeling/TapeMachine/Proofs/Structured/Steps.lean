import TapeMachine.Proofs.StoredCells
import TapeMachine.Proofs.Structured.Scans

/-! The steps of the machine against the interpreter: a command on the tape is one step that does
what the interpreter does, and each bracket of a loop is one step that makes the loop's test.
-/

namespace TapeMachine

namespace Machine

/-- The part of a machine that the interpreter works on. -/
def workspace (machine : Machine) : Structured.Workspace :=
  ⟨machine.tape, machine.dataPointer, machine.input, machine.output⟩

/-- A step that only goes to another index. -/
def goTo (machine : Machine) (target : Nat) : Machine :=
  { machine with
    programCounter := target
    steps := machine.steps + 1 }

end Machine

namespace Structured

-----------------------------------------------------------------------------------------
-- Commands
-----------------------------------------------------------------------------------------

theorem saturating_raise (value : UInt8)
    : UInt8.ofNat (min 255 (value.toNat + 1)) = Machine.raise value := by
  unfold Machine.raise
  split
  · rename_i greatest
    subst greatest
    rfl
  · rename_i smaller
    have bound := value.toNat_lt
    have different : value.toNat ≠ 255 := fun same => smaller (UInt8.toNat_inj.mp same)
    apply UInt8.toNat_inj.mp
    rw [UInt8.toNat_ofNat', UInt8.toNat_add]
    simp only [UInt8.reduceToNat]
    omega

theorem saturating_lower (value : UInt8)
    : UInt8.ofNat (value.toNat - 1) = Machine.lower value := by
  unfold Machine.lower
  split
  · rename_i least
    subst least
    rfl
  · rename_i greater
    have bound := value.toNat_lt
    have different : value.toNat ≠ 0 := fun same => greater (UInt8.toNat_inj.mp same)
    apply UInt8.toNat_inj.mp
    rw [UInt8.toNat_ofNat', UInt8.toNat_sub]
    simp only [UInt8.reduceToNat]
    omega

/-- A step on a command does what the interpreter does with it, by cases on the command. -/
theorem Command.eval_eq_attempt {machine : Machine} {index : Nat} {command : Command}
    (fetched : machine.fetch = .ok (.instruction index command.opcode))
    : command.eval machine.eofPolicy machine.workspace
      = ⟨some machine.attempt.1, machine.attempt.2.workspace, machine.storedCell.toList⟩ := by
  simp only [Machine.attempt, Machine.storedCell, Machine.upcomingStore, fetched, Machine.perform]
  cases command with
  | moveRight =>
      simp only [eval, opcode, Workspace.move, Workspace.onCell, Machine.workspace,
        Machine.execute, Machine.movePointer, Machine.storeBy, Machine.storedValue]
      -- The pointer is located twice: where it was, for a store, and where it has gone.
      cases machine.tape.locate machine.dataPointer <;>
        cases machine.tape.locate (machine.dataPointer + 1) <;> rfl
  | moveLeft =>
      simp only [eval, opcode, Workspace.move, Workspace.onCell, Machine.workspace,
        Machine.execute, Machine.movePointer, Machine.storeBy, Machine.storedValue,
        Int.sub_eq_add_neg]
      cases machine.tape.locate machine.dataPointer <;>
        cases machine.tape.locate (machine.dataPointer + -1) <;> rfl
  | increment =>
      simp only [eval, opcode, Workspace.onCell, Machine.workspace, Machine.execute,
        Machine.movePointer, Machine.storeBy, saturating_raise]
      cases machine.tape.locate machine.dataPointer <;> rfl
  | decrement =>
      simp only [eval, opcode, Workspace.onCell, Machine.workspace, Machine.execute,
        Machine.movePointer, Machine.storeBy, saturating_lower]
      cases machine.tape.locate machine.dataPointer <;> rfl
  | write =>
      simp only [eval, opcode, Workspace.onCell, Machine.workspace, Machine.execute,
        Machine.movePointer, Machine.storeBy, Machine.act, Machine.writeCell]
      cases machine.tape.locate machine.dataPointer with
      | error side => rfl
      | ok cell =>
          simp only
          rcases machine.output.write (machine.tape.byte cell) with ⟨_ | _, later⟩ <;> rfl
  | read =>
      simp only [eval, opcode, Workspace.onCell, Machine.workspace, Machine.execute,
        Machine.movePointer, Machine.storeBy, Machine.storedValue, Machine.act, Machine.readCell]
      cases machine.tape.locate machine.dataPointer with
      | error side => rfl
      | ok cell =>
          simp only
          rcases machine.input.read with ⟨_ | _ | value, later⟩
          · rfl
          · cases machine.eofPolicy <;> rfl
          · rfl

theorem Command.programCounter_attempt {machine : Machine} {index : Nat} {command : Command}
    (fetched : machine.fetch = .ok (.instruction index command.opcode))
    : machine.attempt.2.programCounter = machine.programCounter := by
  have moved : (machine.movePointer command.opcode).programCounter = machine.programCounter := by
    cases command <;> rfl
  simp only [Machine.attempt, fetched, Machine.perform]
  cases located : machine.tape.locate (machine.movePointer command.opcode).dataPointer with
  | error side => rw [Machine.execute_of_error located, moved]
  | ok cell =>
      rw [Machine.execute_of_ok located, ← moved]
      cases command with
      | moveRight | moveLeft | increment | decrement => rfl
      | write =>
          simp only [opcode, Machine.act, Machine.writeCell]
          split <;> rfl
      | read =>
          simp only [opcode, Machine.act, Machine.readCell]
          rcases (machine.movePointer .read).input.read with ⟨_ | _ | value, later⟩
          · rfl
          · cases (machine.movePointer .read).eofPolicy <;> rfl
          · rfl

/-- A command that faults is a step that faults, and it leaves what the interpreter leaves. -/
theorem Command.eval_eq_step {machine : Machine} {index : Nat} {command : Command}
    (fetched : machine.fetch = .ok (.instruction index command.opcode))
    : command.eval machine.eofPolicy machine.workspace
      = ⟨some machine.step.1, machine.step.2.workspace, machine.storedCell.toList⟩ := by
  rw [eval_eq_attempt fetched]
  simp only [Machine.workspace, Machine.step_eq_counted, Machine.counted_fst,
    Machine.counted_tape, Machine.counted_dataPointer, Machine.counted_input,
    Machine.counted_output]

theorem Command.programCounter_of_step_ok {machine after : Machine} {index : Nat}
    {command : Command}
    (fetched : machine.fetch = .ok (.instruction index command.opcode))
    (stepped : machine.step = (.ok (), after))
    : after.programCounter = machine.programCounter + 1 := by
  have kept := programCounter_attempt fetched
  rw [Machine.step_eq_counted] at stepped
  rcases tried : machine.attempt with ⟨_ | _, reached⟩
  · rw [tried] at stepped
    cases stepped
  · rw [tried] at stepped kept
    obtain ⟨_, rfl⟩ := Prod.mk.inj stepped
    exact congrArg (· + 1) kept

-----------------------------------------------------------------------------------------
-- Loops
-----------------------------------------------------------------------------------------

section Test

variable {machine : Machine} {start : Nat} {body rest : Block}
  (holds : machine.tape.Holds start (Block.loop body rest).opcodes)
  (room : start + 1 + body.opcodes.length + 1 < machine.tape.size)
include holds room

theorem fetch_of_opening (first : machine.programCounter = start)
    : machine.fetch = .ok (.instruction start .loopStart) :=
  Machine.fetch_of_cell (Tape.locate_eq_ok_iff.mpr ⟨first, by omega⟩) holds.1

theorem fetch_of_closing (last : machine.programCounter = start + 1 + body.opcodes.length)
    : machine.fetch = .ok (.instruction (start + 1 + body.opcodes.length) .loopEnd) :=
  Machine.fetch_of_cell (Tape.locate_eq_ok_iff.mpr ⟨by omega, by omega⟩) holds.2.append_right.1

/-- The opening bracket makes the test of the loop: on zero it jumps to its partner, which the
step then passes.
-/
theorem step_of_opening (first : machine.programCounter = start) {cell : Nat}
    (located : machine.tape.locate machine.dataPointer = .ok cell)
    : machine.step
      = (.ok (), machine.goTo
          (if machine.tape.byte cell = 0 then start + 1 + body.opcodes.length + 1
            else start + 1)) := by
  have executed : machine.execute start .loopStart = machine.enterLoop start cell :=
    Machine.execute_of_ok located
  rw [Machine.step_eq_counted, Machine.attempt, fetch_of_opening holds room first]
  simp only [Machine.perform, executed, Machine.enterLoop]
  split
  · rw [matchingEnd_of_loop holds room]
    rfl
  · simp only [Machine.counted, Machine.advance, Machine.goTo, first]
    rfl

/-- The closing bracket makes the same test, the other way round. -/
theorem step_of_closing (last : machine.programCounter = start + 1 + body.opcodes.length)
    {cell : Nat} (located : machine.tape.locate machine.dataPointer = .ok cell)
    : machine.step
      = (.ok (), machine.goTo
          (if machine.tape.byte cell = 0 then start + 1 + body.opcodes.length + 1
            else start + 1)) := by
  have executed : machine.execute (start + 1 + body.opcodes.length) .loopEnd
      = machine.repeatLoop (start + 1 + body.opcodes.length) cell :=
    Machine.execute_of_ok located
  rw [Machine.step_eq_counted, Machine.attempt, fetch_of_closing holds room last]
  simp only [Machine.perform, executed, Machine.repeatLoop]
  split
  · simp only [Machine.counted, Machine.advance, Machine.goTo, last]
    rfl
  · rw [matchingStart_of_loop holds]
    rfl

variable (entry : machine.programCounter = start
  ∨ machine.programCounter = start + 1 + body.opcodes.length)
include entry

theorem fetch_of_test
    : ∃ index op, machine.fetch = .ok (.instruction index op) := by
  rcases entry with first | last
  · exact ⟨_, _, fetch_of_opening holds room first⟩
  · exact ⟨_, _, fetch_of_closing holds room last⟩

theorem step_of_test {cell : Nat}
    (located : machine.tape.locate machine.dataPointer = .ok cell)
    : machine.step
      = (.ok (), machine.goTo
          (if machine.tape.byte cell = 0 then start + 1 + body.opcodes.length + 1
            else start + 1)) := by
  rcases entry with first | last
  · exact step_of_opening holds room first located
  · exact step_of_closing holds room last located

/-- A test checks the data pointer first, and it stores nothing. -/
theorem step_of_test_off_tape {side : Side}
    (located : machine.tape.locate machine.dataPointer = .error side)
    : machine.step = (.error (.memory side), machine) := by
  rw [Machine.step_eq_counted, Machine.attempt]
  rcases entry with first | last
  · rw [fetch_of_opening holds room first]
    exact congrArg Machine.counted (Machine.execute_of_error located)
  · rw [fetch_of_closing holds room last]
    exact congrArg Machine.counted (Machine.execute_of_error located)

theorem storedCell_of_test
    : machine.storedCell = none := by
  unfold Machine.storedCell Machine.upcomingStore Machine.storeBy
  rcases entry with first | last
  · simp only [fetch_of_opening holds room first, Machine.storedValue]
    split <;> rfl
  · simp only [fetch_of_closing holds room last, Machine.storedValue]
    split <;> rfl

end Test

end Structured

end TapeMachine
