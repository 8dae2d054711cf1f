import TapeMachine.Machine.Step
import TapeMachine.Proofs.SinkUses

/-! What one step does to each part of the machine, whether it succeeds or faults: the one
cell it may store in, the data pointer, the running flag, the count of steps and the output.
-/

namespace TapeMachine

/-- Outcomes are compared by what they carry. -/
instance decidableEqOutcome {α : Type} [DecidableEq α] : DecidableEq (Except Fault α)
  | .ok first, .ok second => decidable_of_iff (first = second) ⟨congrArg _, Except.ok.inj⟩
  | .error first, .error second =>
      decidable_of_iff (first = second) ⟨congrArg _, Except.error.inj⟩
  | .ok _, .error _ => isFalse nofun
  | .error _, .ok _ => isFalse nofun

/-- How far an instruction moves the data pointer. -/
def Opcode.distance : Opcode → Int
  | .moveRight => 1
  | .moveLeft => -1
  | _ => 0

namespace Machine

-----------------------------------------------------------------------------------------
-- Fetching
-----------------------------------------------------------------------------------------

/-- A halt is fetched exactly from a marked cell. -/
theorem fetch_eq_halt_iff {machine : Machine}
    : machine.fetch = .ok .halt ↔ machine.isEnd machine.programCounter = true := by
  unfold fetch isEnd Tape.isEnd
  cases located : machine.tape.locate machine.programCounter with
  | error side => simp
  | ok index =>
      cases held : machine.tape.cell index with
      | endMark => simp [held, Cell.isEnd]
      | data value =>
          cases decoded : Opcode.ofByte? value <;> simp [held, decoded, Cell.isEnd]

/-- A cell that holds the code of an instruction and no mark is fetched as that instruction. -/
theorem fetch_of_cell {machine : Machine} {index : Nat} {op : Opcode}
    (located : machine.tape.locate machine.programCounter = .ok index)
    (held : machine.tape.cell index = .data op.byte)
    : machine.fetch = .ok (.instruction index op) := by
  simp only [fetch, located, held, Opcode.ofByte?_byte]

theorem fetch_of_endMark {machine : Machine} {index : Nat}
    (located : machine.tape.locate machine.programCounter = .ok index)
    (held : machine.tape.cell index = .endMark)
    : machine.fetch = .ok .halt := by
  simp only [fetch, located, held]

/-- An instruction is fetched from the tape, where the program counter is. -/
theorem locate_of_fetch {machine : Machine} {index : Nat} {op : Opcode}
    (fetched : machine.fetch = .ok (.instruction index op))
    : machine.tape.locate machine.programCounter = .ok index := by
  unfold fetch at fetched
  split at fetched
  · cases fetched
  · rename_i found located
    split at fetched
    · cases fetched
    · split at fetched
      · cases fetched
        exact located
      · cases fetched

-----------------------------------------------------------------------------------------
-- A step is an attempt, and it is counted if it succeeds
-----------------------------------------------------------------------------------------

/-- A step before it is counted. -/
def attempt (machine : Machine) : Except Fault Unit × Machine :=
  match machine.fetch with
  | .error fault => (.error fault, machine)
  | .ok fetched => machine.perform fetched

/-- Counts an attempt that succeeded. -/
def counted : Except Fault Unit × Machine → Except Fault Unit × Machine
  | (.ok (), after) => (.ok (), after.advance)
  | (.error fault, after) => (.error fault, after)

theorem step_eq_counted (machine : Machine)
    : machine.step = counted machine.attempt := by
  unfold step attempt
  cases machine.fetch with
  | error fault => rfl
  | ok fetched => rfl

section Counted

variable (tried : Except Fault Unit × Machine)

@[simp]
theorem counted_fst : (counted tried).1 = tried.1 := by
  obtain ⟨_ | _, after⟩ := tried <;> rfl

@[simp]
theorem counted_tape : (counted tried).2.tape = tried.2.tape := by
  obtain ⟨_ | _, after⟩ := tried <;> rfl

@[simp]
theorem counted_dataPointer : (counted tried).2.dataPointer = tried.2.dataPointer := by
  obtain ⟨_ | _, after⟩ := tried <;> rfl

@[simp]
theorem counted_running : (counted tried).2.running = tried.2.running := by
  obtain ⟨_ | _, after⟩ := tried <;> rfl

@[simp]
theorem counted_eofPolicy : (counted tried).2.eofPolicy = tried.2.eofPolicy := by
  obtain ⟨_ | _, after⟩ := tried <;> rfl

@[simp]
theorem counted_input : (counted tried).2.input = tried.2.input := by
  obtain ⟨_ | _, after⟩ := tried <;> rfl

@[simp]
theorem counted_output : (counted tried).2.output = tried.2.output := by
  obtain ⟨_ | _, after⟩ := tried <;> rfl

end Counted

-----------------------------------------------------------------------------------------
-- The one cell that a step may store in
-----------------------------------------------------------------------------------------

/-- The value that an instruction stores in the current cell, if it stores one. A value is
stored even if the cell holds it already.
-/
def storedValue (machine : Machine) (cell : Nat) : Opcode → Option UInt8
  | .increment => some (raise (machine.tape.byte cell))
  | .decrement => some (lower (machine.tape.byte cell))
  | .read =>
      match machine.input.read.1 with
      | .ok (some value) => some (clampToCell value)
      | .ok none => if machine.eofPolicy = .zero then some 0 else none
      | .error _ => none
  | _ => none

/-- The cell that an instruction stores in and the value it stores there, if the data pointer
is on the tape and the instruction stores a value.
-/
def storeBy (machine : Machine) (op : Opcode) : Option (Nat × UInt8) :=
  match machine.tape.locate machine.dataPointer with
  | .ok cell => (machine.storedValue cell op).map (fun value => (cell, value))
  | .error _ => none

/-- What the coming step stores, and where. -/
def upcomingStore (machine : Machine) : Option (Nat × UInt8) :=
  match machine.fetch with
  | .ok (.instruction _ op) => machine.storeBy op
  | _ => none

/-- The cell that the coming step stores in, if it stores a value. -/
def storedCell (machine : Machine) : Option Nat :=
  machine.upcomingStore.map Prod.fst

end Machine

/-- Stores a value if there is one. -/
def Tape.storeIfAny (tape : Tape) : Option (Nat × UInt8) → Tape
  | some (cell, value) => tape.store cell value
  | none => tape

namespace Machine

/-- An instruction on a cell changes the tape by the value it stores, by cases on the
instruction and on what the input gives.
-/
theorem tape_act (machine : Machine) (index cell : Nat) (op : Opcode)
    : (machine.act index cell op).2.tape
      = machine.tape.storeIfAny
          ((machine.storedValue cell op).map (fun value => (cell, value))) := by
  cases op with
  | moveRight | moveLeft | increment | decrement => rfl
  | write =>
      simp only [act, writeCell, storedValue]
      split <;> rfl
  | read =>
      simp only [act, readCell, storedValue]
      rcases machine.input.read with ⟨_ | _ | value, later⟩
      · rfl
      · cases machine.eofPolicy <;> rfl
      · rfl
  | loopStart =>
      simp only [act, enterLoop, storedValue]
      split
      · split <;> rfl
      · rfl
  | loopEnd =>
      simp only [act, repeatLoop, storedValue]
      split
      · rfl
      · split <;> rfl

/-- An instruction on a cell keeps the data pointer, the flag, the count and the policy. -/
theorem act_keeps (machine : Machine) (index cell : Nat) (op : Opcode)
    : (machine.act index cell op).2.dataPointer = machine.dataPointer
      ∧ (machine.act index cell op).2.running = machine.running
      ∧ (machine.act index cell op).2.steps = machine.steps
      ∧ (machine.act index cell op).2.eofPolicy = machine.eofPolicy := by
  cases op with
  | moveRight | moveLeft | increment | decrement => exact ⟨rfl, rfl, rfl, rfl⟩
  | write =>
      simp only [act, writeCell]
      split <;> exact ⟨rfl, rfl, rfl, rfl⟩
  | read =>
      simp only [act, readCell]
      rcases machine.input.read with ⟨_ | _ | value, later⟩
      · exact ⟨rfl, rfl, rfl, rfl⟩
      · cases machine.eofPolicy <;> exact ⟨rfl, rfl, rfl, rfl⟩
      · exact ⟨rfl, rfl, rfl, rfl⟩
  | loopStart =>
      simp only [act, enterLoop]
      split
      · split <;> exact ⟨rfl, rfl, rfl, rfl⟩
      · exact ⟨rfl, rfl, rfl, rfl⟩
  | loopEnd =>
      simp only [act, repeatLoop]
      split
      · exact ⟨rfl, rfl, rfl, rfl⟩
      · split <;> exact ⟨rfl, rfl, rfl, rfl⟩

@[simp]
theorem movePointer_tape (machine : Machine) (op : Opcode)
    : (machine.movePointer op).tape = machine.tape := by
  cases op <;> rfl

theorem execute_of_error {machine : Machine} {index : Nat} {op : Opcode} {side : Side}
    (located : machine.tape.locate (machine.movePointer op).dataPointer = .error side)
    : machine.execute index op = (.error (.memory side), machine.movePointer op) := by
  simp only [execute, movePointer_tape, located]

theorem execute_of_ok {machine : Machine} {index cell : Nat} {op : Opcode}
    (located : machine.tape.locate (machine.movePointer op).dataPointer = .ok cell)
    : machine.execute index op = (machine.movePointer op).act index cell op := by
  simp only [execute, movePointer_tape, located]

/-- The running flag, the count and the policy survive the execution of an instruction. -/
theorem execute_keeps (machine : Machine) (index : Nat) (op : Opcode)
    : (machine.execute index op).2.running = machine.running
      ∧ (machine.execute index op).2.steps = machine.steps
      ∧ (machine.execute index op).2.eofPolicy = machine.eofPolicy := by
  have moved : (machine.movePointer op).running = machine.running
      ∧ (machine.movePointer op).steps = machine.steps
      ∧ (machine.movePointer op).eofPolicy = machine.eofPolicy := by
    cases op <;> exact ⟨rfl, rfl, rfl⟩
  cases located : machine.tape.locate (machine.movePointer op).dataPointer with
  | error side => simpa only [execute_of_error located] using moved
  | ok cell =>
      obtain ⟨_, running, steps, policy⟩ := (machine.movePointer op).act_keeps index cell op
      rw [execute_of_ok located]
      exact ⟨running.trans moved.1, steps.trans moved.2.1, policy.trans moved.2.2⟩

/-- An instruction changes the tape by the value it stores, also if it faults. -/
theorem tape_execute (machine : Machine) (index : Nat) (op : Opcode)
    : (machine.execute index op).2.tape = machine.tape.storeIfAny (machine.storeBy op) := by
  cases op with
  | moveRight | moveLeft =>
      -- The pointer is checked after the move, but nothing is stored on either side of it.
      simp only [execute, storeBy, storedValue, movePointer, act]
      split <;> split <;> rfl
  | _ =>
      simp only [execute, storeBy, movePointer]
      cases machine.tape.locate machine.dataPointer with
      | error side => rfl
      | ok cell => exact machine.tape_act index cell _

/-- A step changes the tape by the value it stores and in no other way, also if it faults. -/
theorem tape_step (machine : Machine)
    : machine.step.2.tape = machine.tape.storeIfAny machine.upcomingStore := by
  rw [step_eq_counted, counted_tape]
  unfold attempt upcomingStore
  cases machine.fetch with
  | error fault => rfl
  | ok fetched =>
      cases fetched with
      | halt =>
          simp only [perform, halt]
          split <;> rfl
      | instruction index op => exact machine.tape_execute index op

-----------------------------------------------------------------------------------------
-- The data pointer
-----------------------------------------------------------------------------------------

theorem dataPointer_movePointer (machine : Machine) (op : Opcode)
    : (machine.movePointer op).dataPointer = machine.dataPointer + op.distance := by
  cases op with
  | moveRight | moveLeft => rfl
  | _ => exact (Int.add_zero _).symm

theorem dataPointer_step {machine : Machine} {index : Nat} {op : Opcode}
    (fetched : machine.fetch = .ok (.instruction index op))
    : machine.step.2.dataPointer = machine.dataPointer + op.distance := by
  have moved := machine.dataPointer_movePointer op
  simp only [step_eq_counted, counted_dataPointer, attempt, fetched, perform]
  cases located : machine.tape.locate (machine.movePointer op).dataPointer with
  | error side =>
      rw [execute_of_error located]
      exact moved
  | ok cell =>
      rw [execute_of_ok located]
      exact ((machine.movePointer op).act_keeps index cell op).1.trans moved

/-- A step moves the data pointer by one cell at most, also if it faults. -/
theorem distance_step (machine : Machine)
    : (machine.step.2.dataPointer - machine.dataPointer).natAbs ≤ 1 := by
  cases fetched : machine.fetch with
  | error fault =>
      simp only [step, fetched]
      omega
  | ok request =>
      cases request with
      | halt =>
          rw [step_eq_counted, counted_dataPointer]
          simp only [attempt, fetched, perform, halt]
          split <;> simp only [Int.sub_self, Int.natAbs_zero, Nat.zero_le]
      | instruction index op =>
          rw [dataPointer_step fetched]
          cases op <;> simp only [Opcode.distance] <;> omega

-----------------------------------------------------------------------------------------
-- Flag, count, policy and output
-----------------------------------------------------------------------------------------

/-- A step on a mark clears the running flag, even if the flush fails; no other step touches
it.
-/
theorem running_step (machine : Machine)
    : machine.step.2.running
      = (machine.running && !machine.isEnd machine.programCounter) := by
  have marked_iff := @fetch_eq_halt_iff machine
  rw [step_eq_counted, counted_running]
  unfold attempt
  cases fetched : machine.fetch with
  | error fault =>
      rw [fetched] at marked_iff
      have unmarked : machine.isEnd machine.programCounter = false := by simpa using marked_iff
      simp [unmarked]
  | ok request =>
      rw [fetched] at marked_iff
      cases request with
      | halt =>
          simp only [perform, halt, marked_iff.mp rfl]
          split <;> simp
      | instruction index op =>
          have unmarked : machine.isEnd machine.programCounter = false := by
            simpa using marked_iff
          simp [perform, machine.execute_keeps index op, unmarked]

/-- The policy stays, and so does the count until the attempt turns out to have succeeded. -/
theorem attempt_keeps (machine : Machine)
    : machine.attempt.2.steps = machine.steps
      ∧ machine.attempt.2.eofPolicy = machine.eofPolicy := by
  unfold attempt
  cases machine.fetch with
  | error fault => exact ⟨rfl, rfl⟩
  | ok request =>
      cases request with
      | halt =>
          simp only [perform, halt]
          split <;> exact ⟨rfl, rfl⟩
      | instruction index op => exact (machine.execute_keeps index op).2

theorem eofPolicy_step (machine : Machine)
    : machine.step.2.eofPolicy = machine.eofPolicy := by
  rw [step_eq_counted, counted_eofPolicy]
  exact machine.attempt_keeps.2

theorem steps_of_step_ok {machine after : Machine} (stepped : machine.step = (.ok (), after))
    : after.steps = machine.steps + 1 := by
  rw [step_eq_counted] at stepped
  rcases tried : machine.attempt with ⟨_ | _, reached⟩
  · rw [tried] at stepped
    cases stepped
  · rw [tried] at stepped
    obtain ⟨_, rfl⟩ := Prod.mk.inj stepped
    have kept := machine.attempt_keeps.1
    rw [tried] at kept
    exact congrArg (· + 1) kept

theorem steps_of_step_error {machine after : Machine} {fault : Fault}
    (stepped : machine.step = (.error fault, after))
    : after.steps = machine.steps := by
  rw [step_eq_counted] at stepped
  rcases tried : machine.attempt with ⟨_ | _, reached⟩
  · rw [tried] at stepped
    obtain ⟨_, rfl⟩ := Prod.mk.inj stepped
    have kept := machine.attempt_keeps.1
    rwa [tried] at kept
  · rw [tried] at stepped
    cases stepped

/-- The mark is passed like any other cell, once the output is flushed. -/
theorem programCounter_of_halt {machine after : Machine} (fetched : machine.fetch = .ok .halt)
    (stepped : machine.step = (.ok (), after))
    : after.programCounter = machine.programCounter + 1 := by
  simp only [step, fetched, perform, halt] at stepped
  rcases reply : machine.output.flush with ⟨_ | _, later⟩
  · rw [reply] at stepped
    cases stepped
  · rw [reply] at stepped
    obtain ⟨_, rfl⟩ := Prod.mk.inj stepped
    rfl

/-- Writing is the only instruction that uses the output. -/
theorem output_act (machine : Machine) (index cell : Nat) (op : Opcode)
    : machine.output.UsedOnce (machine.act index cell op).2.output := by
  cases op with
  | moveRight | moveLeft | increment | decrement => exact .unused
  | write =>
      have written := Sink.UsedOnce.written machine.output (machine.tape.byte cell)
      simp only [act, writeCell]
      rcases reply : machine.output.write (machine.tape.byte cell) with ⟨_ | _, later⟩ <;>
        (rw [reply] at written; exact written)
  | read =>
      simp only [act, readCell]
      rcases machine.input.read with ⟨_ | _ | value, later⟩
      · exact .unused
      · cases machine.eofPolicy <;> exact .unused
      · exact .unused
  | loopStart =>
      simp only [act, enterLoop]
      split
      · split <;> exact .unused
      · exact .unused
  | loopEnd =>
      simp only [act, repeatLoop]
      split
      · exact .unused
      · split <;> exact .unused

theorem movePointer_output (machine : Machine) (op : Opcode)
    : (machine.movePointer op).output = machine.output := by
  cases op <;> rfl

/-- A step uses the output at most once: an instruction may write to it, and the mark flushes
it.
-/
theorem output_step (machine : Machine)
    : machine.output.UsedOnce machine.step.2.output := by
  rw [step_eq_counted, counted_output]
  unfold attempt
  cases machine.fetch with
  | error fault => exact .unused
  | ok request =>
      cases request with
      | halt =>
          have flushes := Sink.UsedOnce.flushed machine.output
          simp only [perform, halt]
          rcases reply : machine.output.flush with ⟨_ | _, later⟩ <;>
            (rw [reply] at flushes; exact flushes)
      | instruction index op =>
          simp only [perform]
          cases located : machine.tape.locate (machine.movePointer op).dataPointer with
          | error side =>
              rw [execute_of_error located, movePointer_output]
              exact .unused
          | ok cell =>
              rw [execute_of_ok located]
              exact movePointer_output machine op ▸ output_act _ index cell op

end Machine

end TapeMachine
