import TapeMachine.Proofs.Structured.Enactment
import TapeMachine.Proofs.Structured.Sites

/-! Where the control of a well-nested program can go. As long as the program is left alone, the
program counter stays in it, each bracket leads to the brackets of its own loop, and the only
ways to stop are the mark and the faults of data and devices. The invariant is that the program
is in place and the counter is in it; it says nothing about the cells around the program.
-/

namespace TapeMachine.Structured

open Machine (drive storedCells)

/-- The program counter is in a program in place, or at the mark behind it. -/
structure Within (program : Block) (start : Nat) (machine : Machine) : Prop where
  placed : InPlace program start machine.tape
  lower : start ≤ machine.programCounter
  upper : machine.programCounter ≤ (start + program.opcodes.length : Nat)

theorem Within.offset {program : Block} {start : Nat} {machine : Machine}
    (within : Within program start machine)
    : ∃ offset : Nat,
        machine.programCounter = (start + offset : Nat) ∧ offset ≤ program.opcodes.length := by
  have lower := within.lower
  have upper := within.upper
  exact ⟨machine.programCounter.toNat - start, by omega, by omega⟩

/-- How a step takes the control of a program from one machine to the next. A command goes on to
the next cell. A bracket of a loop lands on the last bracket if the current cell is zero and on
the first one if it is not, and passes it. The mark is passed as well.
-/
inductive Advances (program : Block) (start : Int) (before after : Machine) : Prop
  | command {offset : Nat} {command : Command}
    (held : program.opcodes[offset]? = some command.opcode)
    (here : before.programCounter = start + offset)
    (next : after.programCounter = start + offset + 1)
  | test {first last cell : Nat} (loop : program.HasLoop first last)
    (here : before.programCounter = start + first ∨ before.programCounter = start + last)
    (located : before.tape.locate before.dataPointer = .ok cell)
    (next : after.programCounter
      = start + (if before.tape.byte cell = 0 then last else first : Nat) + 1)
  | mark (here : before.programCounter = start + program.opcodes.length)
    (next : after.programCounter = start + program.opcodes.length + 1)

/-- A fault of the data pointer or of a device, and not of the program. -/
inductive FaultOfData : Fault → Prop
  | memory (side : Side) : FaultOfData (.memory side)
  | inputExhausted : FaultOfData .inputExhausted
  | io (error : Device.IoError) : FaultOfData (.io error)

-----------------------------------------------------------------------------------------
-- One step
-----------------------------------------------------------------------------------------

theorem Command.faultOfData {machine : Machine} {index : Nat} {command : Command} {fault : Fault}
    (fetched : machine.fetch = .ok (.instruction index command.opcode))
    (failed : machine.step.1 = .error fault)
    : FaultOfData fault := by
  have evaluated := congrArg Evaluation.outcome (Command.eval_eq_step fetched)
  simp only [failed] at evaluated
  have move (distance : Int)
      (moved : (machine.workspace.move distance).outcome = some (.error fault))
      : FaultOfData fault := by
    simp only [Workspace.move, Workspace.onCell] at moved
    split at moved
    · cases moved
      exact .memory _
    · cases moved
  cases command with
  | moveRight => exact move 1 evaluated
  | moveLeft => exact move (-1) evaluated
  | increment | decrement =>
      simp only [eval, Workspace.onCell] at evaluated
      split at evaluated
      · cases evaluated
        exact .memory _
      · cases evaluated
  | write =>
      simp only [eval, Workspace.onCell] at evaluated
      split at evaluated
      · cases evaluated
        exact .memory _
      · split at evaluated
        · cases evaluated
        · cases evaluated
          exact .io _
  | read =>
      simp only [eval, Workspace.onCell] at evaluated
      split at evaluated
      · cases evaluated
        exact .memory _
      · split at evaluated
        · cases evaluated
        · split at evaluated
          · cases evaluated
          · cases evaluated
          · cases evaluated
            exact .inputExhausted
        · cases evaluated
          exact .io _

section Step

variable {program : Block} {start : Nat} {machine : Machine}
  (within : Within program start machine)
include within

/-- The control advances as the program says, by cases on the place where it is. -/
theorem Within.advances {after : Machine} (stepped : machine.step = (.ok (), after))
    : Advances program start machine after := by
  obtain ⟨offset, here, bound⟩ := within.offset
  cases program.site bound with
  | command held =>
      have fetched := within.placed.fetch_of_instruction held here
      have next := Command.programCounter_of_step_ok fetched stepped
      exact .command held (by omega) (by omega)
  | @test first body rest piece bracket =>
      have test := within.placed.step_of_test piece (by omega)
      rw [stepped, Machine.testLoop] at test
      split at test
      · cases test
      · rename_i cell located
        obtain ⟨_, rfl⟩ := Prod.mk.inj test
        refine .test ⟨body, rest, piece, rfl⟩ (by omega) located ?_
        simp only [Machine.goTo]
        split <;> omega
  | mark behind =>
      subst behind
      have fetched := within.placed.fetch_of_mark here
      have next := Machine.programCounter_of_halt fetched stepped
      exact .mark (by omega) (by omega)

/-- The machine stops only at the mark of the program. -/
theorem Within.mark_of_stopped (running : machine.running = true)
    (stopped : machine.step.2.running = false)
    : machine.programCounter = (start + program.opcodes.length : Nat) := by
  have marked : machine.isEnd machine.programCounter = true := by
    rw [machine.running_step, running] at stopped
    simpa using stopped
  have halts := Machine.fetch_eq_halt_iff.mpr marked
  obtain ⟨offset, here, bound⟩ := within.offset
  -- Elsewhere in the program an instruction is fetched.
  rcases Nat.lt_or_eq_of_le bound with inside | behind
  · have held := List.getElem?_eq_getElem inside
    rw [within.placed.fetch_of_instruction held here] at halts
    cases halts
  · rw [here, behind]

/-- A fault in a program is not one of the program, by cases on the place of the control. -/
theorem Within.faultOfData {fault : Fault} (failed : machine.step.1 = .error fault)
    : FaultOfData fault := by
  obtain ⟨offset, here, bound⟩ := within.offset
  cases program.site bound with
  | command held =>
      exact Command.faultOfData (within.placed.fetch_of_instruction held here) failed
  | test piece bracket =>
      rw [within.placed.step_of_test piece (by omega), Machine.testLoop] at failed
      split at failed
      · cases failed
        exact .memory _
      · cases failed
  | mark behind =>
      subst behind
      simp only [Machine.step, within.placed.fetch_of_mark here, Machine.perform,
        Machine.halt] at failed
      rcases reply : machine.output.flush with ⟨error | _, later⟩
      · rw [reply] at failed
        cases failed
        exact .io error
      · rw [reply] at failed
        cases failed

/-- The invariant: a step that leaves the program alone and does not stop the machine stays in
the program.
-/
theorem Within.step {after : Machine} (stepped : machine.step = (.ok (), after))
    (still : after.running = true)
    (outside : Outside start (start + program.opcodes.length : Nat) machine.storedCell.toList)
    : Within program start after := by
  have placed : InPlace program start after.tape := by
    apply within.placed.congr
    intro index above below
    have untouched : machine.storedCell ≠ some index := by
      intro stored
      have apart := outside index (Option.mem_toList.mpr stored)
      omega
    have same := Machine.cell_step_of_not_stored untouched
    rwa [stepped] at same
  cases within.advances stepped with
  | command held here next =>
      have bound := (List.getElem?_eq_some_iff.mp held).1
      exact ⟨placed, by omega, by omega⟩
  | test loop here located next =>
      have bound := loop.lt_length
      split at next <;> exact ⟨placed, by omega, by omega⟩
  | mark here next =>
      have fetched := within.placed.fetch_of_mark here
      have flag := machine.running_step
      rw [stepped, Machine.fetch_eq_halt_iff.mp fetched, still] at flag
      simp at flag

end Step

-----------------------------------------------------------------------------------------
-- Runs
-----------------------------------------------------------------------------------------

section Run

variable {program : Block} {start count : Nat} {machine : Machine}
  (within : Within program start machine)
  (outside : Outside start (start + program.opcodes.length : Nat) (storedCells count machine))
include within outside

/-- As many steps as are taken stay in the program, by induction on them. -/
theorem Within.after_drive {reached : Machine}
    (driven : drive count machine = (.ok .stepLimit, reached))
    : Within program start reached := by
  fun_induction drive count machine with
  | case1 machine =>
      obtain ⟨_, rfl⟩ := Prod.mk.inj driven
      exact within
  | case2 budget machine running after stepped ih =>
      rw [Machine.storedCells_succ_of_ok running stepped, outside_append_iff] at outside
      have still := (Machine.running_of_drive_stepLimit driven).1
      exact ih (within.step stepped still outside.1) outside.2 driven
  | case3 budget machine running fault after stepped => cases driven
  | case4 budget machine stopped => cases driven

/-- However many steps are taken, they end at the mark or with a fault of data, if they end. -/
theorem Within.ending (running : machine.running = true)
    : (drive count machine).1 = .ok .stepLimit
      ∨ ((drive count machine).1 = .ok .halted
        ∧ (drive count machine).2.programCounter = start + program.opcodes.length + 1)
      ∨ ∃ fault, (drive count machine).1 = .error fault ∧ FaultOfData fault := by
  fun_induction drive count machine with
  | case1 machine => simp [running]
  | case2 budget machine running after stepped ih =>
      rw [Machine.storedCells_succ_of_ok running stepped, outside_append_iff] at outside
      cases still : after.running with
      | true => exact ih (within.step stepped still outside.1) outside.2 still
      | false =>
          have here := within.mark_of_stopped running (by rw [stepped]; exact still)
          have next := Machine.programCounter_of_halt (within.placed.fetch_of_mark here) stepped
          rw [here] at next
          rw [Machine.drive_of_not_running still]
          exact Or.inr (Or.inl ⟨rfl, next⟩)
  | case3 budget machine running fault after stepped =>
      have failed : machine.step.1 = .error fault := by rw [stepped]
      exact Or.inr (Or.inr ⟨fault, rfl, within.faultOfData failed⟩)
  | case4 budget machine stopped => exact absurd running stopped

end Run

/-- A well-nested program that was loaded keeps the control while it is left alone, for as long
as it runs. Before every step the program counter is in the program or at its mark, the step goes
on as the program says, a fault of the step is none of the program, and the machine is stopped
only at the mark of the program. So the run ends there or with a fault of data, if it ends.
-/
theorem run_stays_in_program {machine loaded : Machine} {source : String} {address : Int}
    {diagnostics : List Source.Diagnostic} {program : Block}
    (lexed : (Source.Program.ofString source).opcodes = program.opcodes)
    (loads : machine.load source address = (.ok diagnostics, loaded)) (count : Nat)
    (outside : Outside address (address + program.opcodes.length)
      (storedCells count (loaded.start address)))
    : (∀ earlier reached,
        earlier < count
        → drive earlier (loaded.start address) = (.ok .stepLimit, reached)
        → address ≤ reached.programCounter
          ∧ reached.programCounter ≤ address + program.opcodes.length
          ∧ (∀ after, reached.step = (.ok (), after) → Advances program address reached after)
          ∧ (∀ fault, reached.step.1 = .error fault
            → (∀ side, fault ≠ .program side) ∧ ∀ byte, fault ≠ .invalidOperation byte)
          ∧ (reached.step.2.running = false
            → reached.programCounter = address + program.opcodes.length))
      ∧ ((drive count (loaded.start address)).1 = .ok .stepLimit
        ∨ ((drive count (loaded.start address)).1 = .ok .halted
          ∧ (drive count (loaded.start address)).2.programCounter
            = address + program.opcodes.length + 1)
        ∨ ∃ fault, (drive count (loaded.start address)).1 = .error fault ∧ FaultOfData fault) := by
  obtain ⟨start, rfl, placed⟩ := inPlace_of_load lexed loads
  have within : Within program start (loaded.start start) := ⟨placed, Int.le_refl _, by
    simp only [Machine.start]
    omega⟩
  refine ⟨?_, within.ending outside rfl⟩
  intro earlier reached before driven
  have kept : Outside start (start + program.opcodes.length : Nat)
      (storedCells earlier (loaded.start start)) := by
    intro cell stored
    exact outside cell ((Machine.storedCells_mono (Nat.le_of_lt before) _).subset stored)
  have still := (Machine.running_of_drive_stepLimit driven).2.1
  have inside := within.after_drive kept driven
  refine ⟨inside.lower, inside.upper, fun _ => inside.advances, ?_, inside.mark_of_stopped still⟩
  intro fault failed
  cases inside.faultOfData failed <;> simp

/-- Reads a value and writes all values from it down to one. -/
def countdown : Block :=
  .command .read (.loop (.command .write (.command .decrement .done)) .done)

theorem opcodes_countdown
    : (Source.Program.ofString ",[.-]").opcodes = countdown.opcodes := by
  decide +kernel

/-- Counting down from two, the first test at the last bracket of the loop leads back into its
body, and the run ends behind the mark.
-/
theorem run_stays_in_program_countdown
    : ∃ diagnostics loaded reached after,
        (Machine.create 0 (.values [.ok (some 2)]) (.scripted (.ofReplies [] []))).load ",[.-]" 10
          = (.ok diagnostics, loaded)
        ∧ drive 4 (loaded.start 10) = (.ok .stepLimit, reached)
        ∧ reached.step = (.ok (), after)
        ∧ Advances countdown 10 reached after
        ∧ after.programCounter = 12
        ∧ (drive 9 (loaded.start 10)).1 = .ok .halted
        ∧ (drive 9 (loaded.start 10)).2.programCounter = 16 := by
  have begins : (fun answered : Except Fault (List Source.Diagnostic) × Machine =>
        (answered.1.toBool, storedCells 9 (answered.2.start 10),
          (drive 9 (answered.2.start 10)).1.toOption))
      ((Machine.create 0 (.values [.ok (some 2)]) (.scripted (.ofReplies [] []))).load ",[.-]" 10)
      = (true, [0, 0, 0], some .halted) := by
    decide +kernel
  have jumps : (fun answered : Except Fault (List Source.Diagnostic) × Machine =>
        ((drive 4 (answered.2.start 10)).1.toOption,
          (drive 4 (answered.2.start 10)).2.step.1.toBool,
          (drive 4 (answered.2.start 10)).2.step.2.programCounter))
      ((Machine.create 0 (.values [.ok (some 2)]) (.scripted (.ofReplies [] []))).load ",[.-]" 10)
      = (some .stepLimit, true, 12) := by
    decide +kernel
  rcases loads : (Machine.create 0 (.values [.ok (some 2)])
    (.scripted (.ofReplies [] []))).load ",[.-]" 10 with ⟨_ | diagnostics, loaded⟩
  · rw [loads] at begins
    cases begins
  · rw [loads] at begins jumps
    obtain ⟨_, stored, halts⟩ : _ ∧ _ ∧ _ := by simpa only [Prod.mk.injEq] using begins
    have outside : Outside 10 (10 + countdown.opcodes.length)
        (storedCells 9 (loaded.start 10)) := by
      intro cell member
      rw [stored] at member
      simp at member
      omega
    obtain ⟨steps, ending⟩ := run_stays_in_program opcodes_countdown loads 9 outside
    rcases driven : drive 4 (loaded.start 10) with ⟨_ | _ | _, reached⟩ <;>
      simp only [driven] at jumps
    · cases jumps
    · cases jumps
    · rcases stepped : reached.step with ⟨_ | _, after⟩ <;> simp only [stepped] at jumps
      · cases jumps
      · have advances := (steps 4 reached (by decide) driven).2.2.1 after stepped
        rcases ending with limit | ⟨halted, behind⟩ | ⟨fault, failed, _⟩
        · rw [limit] at halts
          cases halts
        · exact ⟨diagnostics, loaded, reached, after, rfl, driven, stepped, advances,
            (Prod.mk.inj (Prod.mk.inj jumps).2).2, halted, behind⟩
        · rw [failed] at halts
          cases halts

end TapeMachine.Structured
