import TapeMachine.Proofs.Guarded.Accesses
import TapeMachine.Proofs.StoredCells
import TapeMachine.Proofs.Visits

/-! Guarded steps and drives. A machine that has attempted few enough steps keeps its registers so
far inside their ranges that a guarded step is a step: a data pointer off the tape has been moved
there cell by cell, and a program counter off the tape is not advanced.
-/

namespace TapeMachine

namespace Guarded

-----------------------------------------------------------------------------------------
-- Instructions
-----------------------------------------------------------------------------------------

/-- Moves the data pointer if the instruction does. -/
def movePointer (machine : Machine) : Opcode → Except Overrun Machine
  | .moveRight => do
      let pointer ← signed (machine.dataPointer + 1)
      .ok { machine with dataPointer := pointer }
  | .moveLeft => do
      let pointer ← signed (machine.dataPointer - 1)
      .ok { machine with dataPointer := pointer }
  | _ => .ok machine

/-- Replaces the value of a cell by one that depends on it. -/
def changeCell (machine : Machine) (cell : Nat) (change : UInt8 → UInt8)
    : Except Overrun (Except Fault Unit × Machine) := do
  let found ← cellAt machine.tape cell
  let tape ← store machine.tape cell (change found.byte)
  .ok (.ok (), { machine with tape := tape })

/-- Writes the value of a cell to the output. -/
def writeCell (machine : Machine) (cell : Nat)
    : Except Overrun (Except Fault Unit × Machine) := do
  let found ← cellAt machine.tape cell
  match machine.output.write found.byte with
  | (.ok (), output) => .ok (.ok (), { machine with output := output })
  | (.error error, output) => .ok (.error (.io error), { machine with output := output })

/-- Reads a value from the input into a cell. -/
def readCell (machine : Machine) (cell : Nat) : Except Overrun (Except Fault Unit × Machine) :=
  match machine.input.read with
  | (.ok (some value), input) => do
      let tape ← store machine.tape cell (clampToCell value)
      .ok (.ok (), { machine with input := input, tape := tape })
  | (.ok none, input) =>
      match machine.eofPolicy with
      | .zero => do
          let tape ← store machine.tape cell 0
          .ok (.ok (), { machine with input := input, tape := tape })
      | .unchanged => .ok (.ok (), { machine with input := input })
      | .fault => .ok (.error .inputExhausted, { machine with input := input })
  | (.error error, input) => .ok (.error (.io error), { machine with input := input })

/-- Goes to the partner of a bracket; without one, the machine faults on the side where it was
looked for.
-/
def jump (machine : Machine) (side : Side) : Option Nat
    → Except Overrun (Except Fault Unit × Machine)
  | some partner => do
      let counter ← signed partner
      .ok (.ok (), { machine with programCounter := counter })
  | none => .ok (.error (.program side), machine)

/-- Goes to the end of the loop that starts at an index, if the cell is zero. -/
def enterLoop (machine : Machine) (index cell : Nat)
    : Except Overrun (Except Fault Unit × Machine) := do
  let found ← cellAt machine.tape cell
  if found.byte = 0 then do
    let partner ← matchingEnd machine.tape index
    jump machine .above partner
  else
    .ok (.ok (), machine)

/-- Goes back to the start of the loop that ends at an index, unless the cell is zero. -/
def repeatLoop (machine : Machine) (index cell : Nat)
    : Except Overrun (Except Fault Unit × Machine) := do
  let found ← cellAt machine.tape cell
  if found.byte = 0 then
    .ok (.ok (), machine)
  else do
    let partner ← matchingStart machine.tape index
    jump machine .below partner

/-- Executes the instruction at an index on the current cell. -/
def act (machine : Machine) (index cell : Nat)
    : Opcode → Except Overrun (Except Fault Unit × Machine)
  | .moveRight => .ok (.ok (), machine)
  | .moveLeft => .ok (.ok (), machine)
  | .increment => changeCell machine cell Machine.raise
  | .decrement => changeCell machine cell Machine.lower
  | .write => writeCell machine cell
  | .read => readCell machine cell
  | .loopStart => enterLoop machine index cell
  | .loopEnd => repeatLoop machine index cell

/-- Executes the instruction at an index. -/
def execute (machine : Machine) (index : Nat) (op : Opcode)
    : Except Overrun (Except Fault Unit × Machine) := do
  let moved ← movePointer machine op
  match moved.tape.locate moved.dataPointer with
  | .error side => .ok (.error (.memory side), moved)
  | .ok cell => act moved index cell op

-----------------------------------------------------------------------------------------
-- Steps and drives
-----------------------------------------------------------------------------------------

/-- What the cell under the program counter asks for. -/
def fetch (machine : Machine) : Except Overrun (Except Fault Machine.Fetched) :=
  match machine.tape.locate machine.programCounter with
  | .error side => .ok (.error (.program side))
  | .ok index => do
      match ← cellAt machine.tape index with
      | .endMark => .ok (.ok .halt)
      | .data value =>
          match Opcode.ofByte? value with
          | some op => .ok (.ok (.instruction index op))
          | none => .ok (.error (.invalidOperation value))

/-- Does what was fetched. -/
def perform (machine : Machine) : Machine.Fetched → Except Overrun (Except Fault Unit × Machine)
  | .halt => .ok machine.halt
  | .instruction index op => execute machine index op

/-- Counts a step and goes on to the next cell. -/
def advance (machine : Machine) : Except Overrun Machine := do
  let counter ← signed (machine.programCounter + 1)
  let steps ← unsigned (machine.steps + 1 : Nat)
  .ok { machine with programCounter := counter, steps := steps }

/-- Takes one step. -/
def step (machine : Machine) : Except Overrun (Except Fault Unit × Machine) := do
  match ← fetch machine with
  | .error fault => .ok (.error fault, machine)
  | .ok fetched => do
      match ← perform machine fetched with
      | (.ok (), after) => do
          let advanced ← advance after
          .ok (.ok (), advanced)
      | (.error fault, after) => .ok (.error fault, after)

/-- Takes up to so many steps while the machine is running. -/
def drive : Nat → Machine → Except Overrun (Except Fault Machine.Exit × Machine)
  | 0, machine => .ok (.ok (if machine.running then .stepLimit else .halted), machine)
  | budget + 1, machine =>
      if machine.running then do
        match ← step machine with
        | (.ok (), after) => drive budget after
        | (.error fault, after) => .ok (.error fault, after)
      else
        .ok (.ok .halted, machine)

-----------------------------------------------------------------------------------------
-- Guarded instructions are instructions
-----------------------------------------------------------------------------------------

section Instructions

variable {machine : Machine} {index cell : Nat}
  (fits : (machine.tape.size : Int) ≤ Text.greatestSigned)

theorem changeCell_eq_ok (inside : cell < machine.tape.size) (change : UInt8 → UInt8)
    : changeCell machine cell change
      = .ok (.ok (), machine.store cell (change (machine.tape.byte cell))) := by
  rw [changeCell, cellAt_eq_ok inside, ok_bind, store_eq_ok inside, ok_bind]
  rfl

theorem writeCell_eq_ok (inside : cell < machine.tape.size)
    : writeCell machine cell = .ok (machine.writeCell cell) := by
  rw [writeCell, cellAt_eq_ok inside, ok_bind, Machine.writeCell, Tape.byte]
  split <;> simp only [*]

theorem readCell_eq_ok (inside : cell < machine.tape.size)
    : readCell machine cell = .ok (machine.readCell cell) := by
  unfold readCell Machine.readCell
  rcases machine.input.read with ⟨_ | _ | value, later⟩
  · rfl
  · cases machine.eofPolicy with
    | zero => simp only [store_eq_ok inside, ok_bind]
    | unchanged | fault => rfl
  · simp only [store_eq_ok inside, ok_bind]

include fits

theorem jump_eq_ok (side : Side) {partner : Nat} (inside : partner < machine.tape.size)
    : jump machine side (some partner)
      = .ok (.ok (), { machine with programCounter := partner }) := by
  have least : Text.leastSigned ≤ 0 := by decide
  rw [jump, signed_eq_ok (by omega) (by omega), ok_bind]

theorem enterLoop_eq_ok (inside : cell < machine.tape.size) (here : index < machine.tape.size)
    : enterLoop machine index cell = .ok (machine.enterLoop index cell) := by
  rw [enterLoop, cellAt_eq_ok inside, ok_bind, Machine.enterLoop, Tape.byte]
  split
  · rw [matchingEnd_eq_ok fits here, ok_bind]
    cases matched : machine.tape.matchingEnd index with
    | none => rfl
    | some partner =>
        have last := Tape.succ_lt_of_matchingEnd matched
        exact jump_eq_ok fits .above (by omega)
  · rfl

theorem repeatLoop_eq_ok (inside : cell < machine.tape.size) (here : index < machine.tape.size)
    : repeatLoop machine index cell = .ok (machine.repeatLoop index cell) := by
  rw [repeatLoop, cellAt_eq_ok inside, ok_bind, Machine.repeatLoop, Tape.byte]
  split
  · rfl
  · rw [matchingStart_eq_ok fits here, ok_bind]
    cases matched : machine.tape.matchingStart index with
    | none => rfl
    | some partner =>
        have below := Tape.openingBelow_lt matched
        exact jump_eq_ok fits .below (by omega)

theorem act_eq_ok (inside : cell < machine.tape.size) (here : index < machine.tape.size)
    (op : Opcode)
    : act machine index cell op = .ok (machine.act index cell op) := by
  cases op with
  | moveRight | moveLeft => rfl
  | increment => exact changeCell_eq_ok inside Machine.raise
  | decrement => exact changeCell_eq_ok inside Machine.lower
  | write => exact writeCell_eq_ok inside
  | read => exact readCell_eq_ok inside
  | loopStart => exact enterLoop_eq_ok fits inside here
  | loopEnd => exact repeatLoop_eq_ok fits inside here

end Instructions

end Guarded

-----------------------------------------------------------------------------------------
-- How far the registers can go
-----------------------------------------------------------------------------------------

namespace Machine

/-- An instruction leaves the program counter where it is, or jumps to a cell of the tape. -/
theorem programCounter_act {machine : Machine} {index : Nat} (here : index < machine.tape.size)
    (cell : Nat) (op : Opcode)
    : (machine.act index cell op).2.programCounter = machine.programCounter
      ∨ ∃ partner : Nat,
          partner < machine.tape.size
          ∧ (machine.act index cell op).2.programCounter = partner := by
  cases op with
  | moveRight | moveLeft | increment | decrement => exact .inl rfl
  | write =>
      simp only [act, writeCell]
      split <;> exact .inl rfl
  | read =>
      simp only [act, readCell]
      rcases machine.input.read with ⟨_ | _ | value, later⟩
      · exact .inl rfl
      · cases machine.eofPolicy <;> exact .inl rfl
      · exact .inl rfl
  | loopStart =>
      simp only [act, enterLoop]
      split
      · cases matched : machine.tape.matchingEnd index with
        | none => exact .inl rfl
        | some partner =>
            have last := Tape.succ_lt_of_matchingEnd matched
            exact .inr ⟨partner, by omega, rfl⟩
      · exact .inl rfl
  | loopEnd =>
      simp only [act, repeatLoop]
      split
      · exact .inl rfl
      · cases matched : machine.tape.matchingStart index with
        | none => exact .inl rfl
        | some partner =>
            have below := Tape.openingBelow_lt matched
            exact .inr ⟨partner, by omega, rfl⟩

/-- A fetch that succeeds has found the program counter on the tape. -/
theorem programCounter_of_fetch {machine : Machine} {fetched : Fetched}
    (found : machine.fetch = .ok fetched)
    : ∃ index : Nat, machine.programCounter = index ∧ index < machine.tape.size := by
  cases fetched with
  | halt =>
      obtain ⟨index, here, marked⟩ := Tape.isEnd_iff.mp (fetch_eq_halt_iff.mp found)
      exact ⟨index, here, Tape.lt_size_of_endMark marked⟩
  | instruction index op => exact ⟨index, Tape.locate_eq_ok_iff.mp (locate_of_fetch found)⟩

/-- What is fetched leaves the program counter on the tape, also if it faults. -/
theorem programCounter_perform {machine : Machine} {fetched : Fetched}
    (found : machine.fetch = .ok fetched)
    : ∃ index : Nat,
        (machine.perform fetched).2.programCounter = index ∧ index < machine.tape.size := by
  obtain ⟨index, here, inside⟩ := programCounter_of_fetch found
  cases fetched with
  | halt =>
      simp only [perform, halt]
      split <;> exact ⟨index, here, inside⟩
  | instruction position op =>
      have moved : (machine.movePointer op).programCounter = machine.programCounter := by
        cases op <;> rfl
      have there := (Tape.locate_eq_ok_iff.mp (locate_of_fetch found)).2
      cases located : machine.tape.locate (machine.movePointer op).dataPointer with
      | error side =>
          rw [perform, execute_of_error located]
          exact ⟨index, moved.trans here, inside⟩
      | ok cell =>
          rw [perform, execute_of_ok located]
          rw [← movePointer_tape machine op] at there
          obtain kept | ⟨partner, within, jumped⟩ := programCounter_act there cell op
          · exact ⟨index, kept.trans (moved.trans here), inside⟩
          · exact ⟨partner, jumped, by rwa [movePointer_tape] at within⟩

/-- A step leaves the program counter where it is, or on the tape, or just behind it. -/
theorem programCounter_step (machine : Machine)
    : machine.step.2.programCounter = machine.programCounter
      ∨ (0 ≤ machine.step.2.programCounter
        ∧ machine.step.2.programCounter ≤ machine.tape.size) := by
  rw [step_eq_counted, attempt]
  cases found : machine.fetch with
  | error fault => exact .inl rfl
  | ok fetched =>
      obtain ⟨index, here, inside⟩ := programCounter_perform found
      rcases performed : machine.perform fetched with ⟨fault | _, after⟩
      · rw [performed] at here
        simp only [performed, counted] at here ⊢
        omega
      · rw [performed] at here
        simp only [performed, counted, advance] at here ⊢
        omega

/-- The machine has attempted so many steps since it was made or reset: it has moved its data
pointer by as many cells at most, and counted as many steps at most. Its tape and its program
counter are within the range of addresses.
-/
structure Within (attempts : Nat) (machine : Machine) : Prop where
  size : (machine.tape.size : Int) ≤ Text.greatestSigned
  least : Text.leastSigned ≤ machine.programCounter
  greatest : machine.programCounter ≤ Text.greatestSigned
  pointer : machine.dataPointer.natAbs ≤ attempts
  steps : machine.steps ≤ attempts

namespace Within

variable {attempts : Nat} {machine : Machine} (within : machine.Within attempts)

include within

/-- One more step is attempted; it may fault. -/
theorem step
    : machine.step.2.Within (attempts + 1) := by
  have lowest : Text.leastSigned ≤ 0 := by decide
  have size := within.size
  have least := within.least
  have greatest := within.greatest
  have moved := machine.distance_step
  have pointer : machine.step.2.dataPointer.natAbs ≤ attempts + 1 := by
    have before := within.pointer
    omega
  have steps : machine.step.2.steps ≤ attempts + 1 := by
    have counted := within.steps
    rcases stepped : machine.step with ⟨fault | _, after⟩
    · have same := steps_of_step_error stepped
      simp only
      omega
    · have one := steps_of_step_ok stepped
      simp only
      omega
  have counter := machine.programCounter_step
  exact ⟨by rwa [size_step], by omega, by omega, pointer, steps⟩

/-- A drive attempts as many steps as machines are visited, by induction on the drive. -/
theorem drive (budget : Nat)
    : (machine.drive budget).2.Within (attempts + (visited budget machine).length) := by
  fun_induction Machine.drive budget machine generalizing attempts with
  | case1 machine => exact within
  | case2 budget machine running after stepped ih =>
      have next := within.step
      rw [stepped] at next
      rw [visited_succ_of_ok running stepped, List.length_cons, Nat.add_comm _ 1, ← Nat.add_assoc]
      exact ih next
  | case3 budget machine running fault after stepped =>
      have next := within.step
      rw [stepped] at next
      rw [visited_succ_of_error running stepped]
      exact next
  | case4 budget machine stopped =>
      rw [visited_of_not_running (Bool.not_eq_true _ ▸ stopped)]
      exact within

theorem start {address : Int} (least : Text.leastSigned ≤ address)
    (greatest : address ≤ Text.greatestSigned)
    : (machine.start address).Within attempts where
  size := within.size
  least := least
  greatest := greatest
  pointer := within.pointer
  steps := Nat.zero_le _

end Within

end Machine

-----------------------------------------------------------------------------------------
-- Guarded steps are steps
-----------------------------------------------------------------------------------------

namespace Guarded

theorem fetch_eq_ok (machine : Machine)
    : fetch machine = .ok machine.fetch := by
  unfold fetch Machine.fetch
  cases located : machine.tape.locate machine.programCounter with
  | error side => rfl
  | ok index =>
      simp only [cellAt_eq_ok (Tape.locate_eq_ok_iff.mp located).2, ok_bind]
      cases machine.tape.cell index with
      | endMark => rfl
      | data value =>
          simp only
          cases Opcode.ofByte? value <;> rfl

section Steps

variable {attempts : Nat} {machine : Machine} (within : machine.Within attempts)

include within

theorem movePointer_eq_ok (few : (attempts : Int) < Text.greatestSigned) (op : Opcode)
    : movePointer machine op = .ok (machine.movePointer op) := by
  have symmetric : Text.leastSigned = -Text.greatestSigned - 1 := by decide
  have near := within.pointer
  cases op with
  | moveRight | moveLeft =>
      rw [movePointer, signed_eq_ok (by omega) (by omega), ok_bind]
      rfl
  | _ => rfl

theorem execute_eq_ok (few : (attempts : Int) < Text.greatestSigned) {index : Nat}
    (here : index < machine.tape.size) (op : Opcode)
    : execute machine index op = .ok (machine.execute index op) := by
  rw [execute, movePointer_eq_ok within few, ok_bind]
  cases located : machine.tape.locate (machine.movePointer op).dataPointer with
  | error side => simp only [Machine.execute_of_error located, Machine.movePointer_tape, located]
  | ok cell =>
      have inside := (Tape.locate_eq_ok_iff.mp located).2
      simp only [Machine.execute_of_ok located, Machine.movePointer_tape, located]
      apply act_eq_ok
      · rw [Machine.movePointer_tape]
        exact within.size
      · rwa [Machine.movePointer_tape]
      · rwa [Machine.movePointer_tape]

theorem perform_eq_ok (few : (attempts : Int) < Text.greatestSigned) {fetched : Machine.Fetched}
    (found : machine.fetch = .ok fetched)
    : perform machine fetched = .ok (machine.perform fetched) := by
  cases fetched with
  | halt => rfl
  | instruction index op =>
      exact execute_eq_ok within few (Tape.locate_eq_ok_iff.mp (Machine.locate_of_fetch found)).2 op

/-- A guarded step is a step. -/
theorem step_eq_ok (few : (attempts : Int) < Text.greatestSigned)
    : step machine = .ok machine.step := by
  have lowest : Text.leastSigned ≤ 0 := by decide
  have small : Text.greatestSigned < Text.greatestUnsigned := by decide
  have size := within.size
  have counted := within.steps
  rw [step, fetch_eq_ok, ok_bind, Machine.step]
  cases found : machine.fetch with
  | error fault => rfl
  | ok fetched =>
      obtain ⟨index, here, inside⟩ := Machine.programCounter_perform found
      have kept := machine.attempt_keeps.1
      simp only [Machine.attempt, found] at kept
      simp only [perform_eq_ok within few found, ok_bind]
      rcases performed : machine.perform fetched with ⟨fault | _, after⟩
      · rfl
      · rw [performed] at here kept
        simp only at here kept ⊢
        rw [advance, signed_eq_ok (by omega) (by omega), ok_bind, unsigned_eq_ok (by omega),
          ok_bind, ok_bind]
        rfl

/-- A guarded drive is a drive, if it attempts few enough steps. -/
theorem drive_eq_ok {budget : Nat}
    (few : ((attempts + (Machine.visited budget machine).length : Nat) : Int)
      ≤ Text.greatestSigned)
    : drive budget machine = .ok (machine.drive budget) := by
  fun_induction Machine.drive budget machine generalizing attempts with
  | case1 machine => rfl
  | case2 budget machine running after stepped ih =>
      rw [Machine.visited_succ_of_ok running stepped, List.length_cons] at few
      have next := within.step
      rw [stepped] at next
      rw [drive, if_pos running, step_eq_ok within (by omega), ok_bind, stepped]
      exact ih next (by omega)
  | case3 budget machine running fault after stepped =>
      rw [Machine.visited_succ_of_error running stepped, List.length_singleton] at few
      rw [drive, if_pos running, step_eq_ok within (by omega), ok_bind, stepped]
  | case4 budget machine stopped => rw [drive, if_neg stopped]

end Steps

end Guarded

end TapeMachine
