import TapeMachine.Proofs.Structured.ControlFlow
import TapeMachine.Proofs.Traces

/-! A well-nested program runs the same wherever it is loaded, as long as it works on cells that
belong to neither place. Two machines with the program at two addresses are driven in lock step;
the scans and the mark of a program in place do not depend on the cells around it, so nothing is
asked of those.
-/

namespace TapeMachine

namespace Machine

-----------------------------------------------------------------------------------------
-- The same step in another place
-----------------------------------------------------------------------------------------

/-- The machine on another tape, with its program counter so much further on. -/
def moved (machine : Machine) (tape : Tape) (distance : Int) : Machine :=
  { machine with
    tape := tape
    programCounter := machine.programCounter + distance }

/-- The second outcome is the first one, and its machine is the first one moved. -/
def Moves {α : Type} (distance : Int) (first second : α × Machine) : Prop :=
  second = (first.1, first.2.moved second.2.tape distance)

/-- An instruction that only moves the data pointer. -/
def IsMove (op : Opcode) : Prop :=
  op = .moveRight ∨ op = .moveLeft

instance (op : Opcode) : Decidable (IsMove op) :=
  inferInstanceAs (Decidable (_ ∨ _))

section Command

variable (machine : Machine) (tape : Tape) (distance : Int)

theorem moves_halt
    : Moves distance machine.halt (machine.moved tape distance).halt := by
  simp only [Moves, halt, moved]
  rcases machine.output.flush with ⟨_ | _, later⟩ <;> rfl

/-- Commands look at the current cell only, by cases on the command. -/
theorem moves_act (command : Structured.Command) (index there : Nat) {cell : Nat}
    (seen : IsMove command.opcode ∨ tape.byte cell = machine.tape.byte cell)
    : Moves distance (machine.act index cell command.opcode)
        ((machine.moved tape distance).act there cell command.opcode) := by
  cases command with
  | moveRight | moveLeft | increment | decrement => rfl
  | write =>
      have same : tape.byte cell = machine.tape.byte cell := by
        simpa [IsMove, Structured.Command.opcode] using seen
      simp only [Moves, Structured.Command.opcode, act, writeCell, moved, same]
      rcases machine.output.write (machine.tape.byte cell) with ⟨_ | _, later⟩ <;> rfl
  | read =>
      simp only [Moves, Structured.Command.opcode, act, readCell, moved]
      rcases machine.input.read with ⟨_ | _ | value, later⟩
      · rfl
      · cases machine.eofPolicy <;> rfl
      · rfl

theorem movePointer_of_not_move (machine : Machine) {op : Opcode} (stays : ¬ IsMove op)
    : machine.movePointer op = machine := by
  cases op with
  | moveRight => exact absurd (Or.inl rfl) stays
  | moveLeft => exact absurd (Or.inr rfl) stays
  | _ => rfl

variable {machine tape} (size : tape.size = machine.tape.size)
include size

theorem moves_execute (command : Structured.Command) (index there : Nat)
    (seen : IsMove command.opcode
      ∨ ∀ cell : Nat, machine.dataPointer = cell → tape.byte cell = machine.tape.byte cell)
    : Moves distance (machine.execute index command.opcode)
        ((machine.moved tape distance).execute there command.opcode) := by
  have pointer : (machine.moved tape distance).movePointer command.opcode
      = (machine.movePointer command.opcode).moved tape distance := by
    cases command <;> rfl
  have locates := Tape.locate_congr size
  cases located : machine.tape.locate (machine.movePointer command.opcode).dataPointer with
  | error side =>
      have alsoLocated := (locates _).trans located
      rw [execute_of_error located, execute_of_error (by rw [pointer]; exact alsoLocated), pointer]
      rfl
  | ok cell =>
      have alsoLocated := (locates _).trans located
      rw [execute_of_ok located, execute_of_ok (by rw [pointer]; exact alsoLocated), pointer]
      apply moves_act
      by_cases move : IsMove command.opcode
      · exact Or.inl move
      · rw [machine.movePointer_of_not_move move] at located ⊢
        exact Or.inr (seen.resolve_left move cell (Tape.locate_eq_ok_iff.mp located).1)

/-- What is stored depends on the current cell only. -/
theorem storeBy_moved {op : Opcode}
    (seen : IsMove op
      ∨ ∀ cell : Nat, machine.dataPointer = cell → tape.byte cell = machine.tape.byte cell)
    : (machine.moved tape distance).storeBy op = machine.storeBy op := by
  simp only [storeBy, moved, Tape.locate_congr size]
  cases located : machine.tape.locate machine.dataPointer with
  | error side => rfl
  | ok cell =>
      rcases seen with (rfl | rfl) | same
      · rfl
      · rfl
      · have here := same cell (Tape.locate_eq_ok_iff.mp located).1
        cases op <;> simp [storedValue, here]

/-- The test of a loop looks at the current cell only. -/
theorem moves_testLoop {first last alsoFirst alsoLast : Nat}
    (opening : (alsoFirst : Int) = first + distance)
    (closing : (alsoLast : Int) = last + distance)
    (seen : ∀ cell : Nat, machine.dataPointer = cell → tape.byte cell = machine.tape.byte cell)
    : Moves distance (machine.testLoop first last)
        ((machine.moved tape distance).testLoop alsoFirst alsoLast) := by
  simp only [Moves, testLoop, moved, Tape.locate_congr size]
  cases located : machine.tape.locate machine.dataPointer with
  | error side => rfl
  | ok cell =>
      have same := seen cell (Tape.locate_eq_ok_iff.mp located).1
      simp only [goTo, same, Prod.mk.injEq, Machine.mk.injEq, true_and, and_true]
      split <;> omega

end Command

theorem Moves.outcome {α : Type} {distance : Int} {first second : α × Machine}
    (moves : Moves distance first second)
    : second.1 = first.1 := by
  rw [moves]

theorem Moves.machine {α : Type} {distance : Int} {first second : α × Machine}
    (moves : Moves distance first second)
    : second.2 = first.2.moved second.2.tape distance :=
  congrArg Prod.snd moves

theorem Moves.counted {distance : Int} {first second : Except Fault Unit × Machine}
    (moves : Moves distance first second)
    : Moves distance (counted first) (counted second) := by
  obtain ⟨outcome, machine⟩ := first
  rw [Moves] at moves ⊢
  rw [moves]
  cases outcome with
  | error fault => rfl
  | ok done =>
      simp only [Machine.counted, advance, Machine.moved, Int.add_right_comm]

/-- A store is made by an instruction other than a move, in the cell under the data pointer. -/
theorem upcoming_of_storedCell {machine : Machine} {cell : Nat}
    (stores : machine.storedCell = some cell)
    : ∃ executed,
        machine.upcoming = some executed
        ∧ ¬ IsMove executed.op
        ∧ executed.dataPointer = cell := by
  obtain ⟨value, stores⟩ := storedCell_eq_some_iff.mp stores
  unfold upcomingStore at stores
  split at stores
  · rename_i index op fetched
    refine ⟨_, upcoming_of_fetch fetched, ?_⟩
    unfold storeBy at stores
    split at stores
    · rename_i located
      obtain ⟨_, valued, same⟩ := Option.map_eq_some_iff.mp stores
      obtain ⟨rfl, _⟩ := Prod.mk.inj same
      refine ⟨?_, (Tape.locate_eq_ok_iff.mp located).1⟩
      rintro (rfl | rfl) <;> cases valued
    · cases stores
  · cases stores

end Machine

/-- The same store keeps the cells of two tapes alike. -/
theorem Tape.cell_storeIfAny_congr {tape other : Tape} (size : other.size = tape.size)
    (stored : Option (Nat × UInt8)) {index : Nat} (same : other.cell index = tape.cell index)
    : (other.storeIfAny stored).cell index = (tape.storeIfAny stored).cell index := by
  cases stored with
  | none => exact same
  | some store => simp only [storeIfAny, cell_store, size, same]

namespace Structured

open Machine (Executed Exit IsMove drive storedCells)

-----------------------------------------------------------------------------------------
-- Two machines with the program in two places
-----------------------------------------------------------------------------------------

/-- An address belongs to neither of two places that a program and its mark take up. -/
def Apart (program : Block) (here there address : Int) : Prop :=
  (address < here ∨ here + program.opcodes.length < address)
  ∧ (address < there ∨ there + program.opcodes.length < address)

/-- The instruction is a move, or the data pointer is apart from both places. -/
def StaysApart (program : Block) (here there : Int) (executed : Executed) : Prop :=
  IsMove executed.op ∨ Apart program here there executed.dataPointer

instance (program : Block) (here there address : Int)
    : Decidable (Apart program here there address) :=
  inferInstanceAs (Decidable (_ ∧ _))

instance (program : Block) (here there : Int) (executed : Executed)
    : Decidable (StaysApart program here there executed) :=
  inferInstanceAs (Decidable (_ ∨ _))

/-- The second machine is the first one moved from one place of the program to the other, on a tape
that has the program there and agrees with the first tape apart from both places.
-/
structure Twins (program : Block) (here there : Nat) (first second : Machine) : Prop where
  moved : second = first.moved second.tape (there - here)
  size : second.tape.size = first.tape.size
  cells : ∀ index : Nat, Apart program here there index
    → second.tape.cell index = first.tape.cell index
  placed : InPlace program there second.tape

section Step

variable {program : Block} {here there : Nat} {first second : Machine}
  (twins : Twins program here there first second)
include twins

theorem Twins.position {offset : Nat} (position : first.programCounter = (here + offset : Nat))
    : second.programCounter = (there + offset : Nat) := by
  have counter := congrArg Machine.programCounter twins.moved
  simp only [Machine.moved] at counter
  omega

theorem Twins.running
    : second.running = first.running := by
  rw [twins.moved, Machine.moved]

variable (within : Within program here first)
  (apart : ∀ executed, first.upcoming = some executed → StaysApart program here there executed)
include within apart

/-- An instruction that is no move sees the same current cell in both places. -/
theorem Twins.seen {offset : Nat} {op : Opcode}
    (position : first.programCounter = (here + offset : Nat))
    (held : program.opcodes[offset]? = some op)
    : IsMove op
      ∨ ∀ cell : Nat, first.dataPointer = cell
          → second.tape.byte cell = first.tape.byte cell := by
  have fetched := within.placed.fetch_of_instruction held position
  refine (apart _ (Machine.upcoming_of_fetch fetched)).imp_right ?_
  intro clear cell same
  exact congrArg Cell.byte (twins.cells cell (same ▸ clear))

/-- The steps of the two machines go the same way, by cases on the place in the program where both
of them are.
-/
theorem Twins.moves_step
    : Machine.Moves (there - here) first.step second.step := by
  obtain ⟨offset, position, bound⟩ := within.offset
  have alsoPosition := twins.position position
  cases program.site bound with
  | @command command held =>
      have executes := Machine.moves_execute (there - here) twins.size command (here + offset)
        (there + offset) (twins.seen within apart position held)
      rw [← twins.moved] at executes
      rw [Machine.step_eq_counted, Machine.step_eq_counted, Machine.attempt, Machine.attempt,
        within.placed.fetch_of_instruction held position,
        twins.placed.fetch_of_instruction held alsoPosition]
      exact executes.counted
  | @test start body rest piece bracket =>
      have loop : program.HasLoop start (start + 1 + body.opcodes.length) :=
        ⟨body, rest, piece, rfl⟩
      have seen : ∀ cell : Nat, first.dataPointer = cell
          → second.tape.byte cell = first.tape.byte cell := by
        rcases bracket with rfl | rfl
        · exact (twins.seen within apart position loop.brackets.1).resolve_left (by simp [IsMove])
        · exact (twins.seen within apart position loop.brackets.2).resolve_left (by simp [IsMove])
      rw [within.placed.step_of_test piece (by omega), twins.placed.step_of_test piece (by omega),
        twins.moved]
      exact Machine.moves_testLoop (there - here) twins.size (by omega) (by omega) seen
  | mark behind =>
      subst behind
      have halts := Machine.moves_halt first second.tape (there - here)
      rw [← twins.moved] at halts
      rw [Machine.step_eq_counted, Machine.step_eq_counted, Machine.attempt, Machine.attempt,
        within.placed.fetch_of_mark position, twins.placed.fetch_of_mark alsoPosition]
      exact halts.counted

/-- The steps of the two machines store the same in the same cell. -/
theorem Twins.upcomingStore
    : second.upcomingStore = first.upcomingStore := by
  obtain ⟨offset, position, bound⟩ := within.offset
  have alsoPosition := twins.position position
  rcases Nat.lt_or_eq_of_le bound with inside | behind
  · have held := List.getElem?_eq_getElem inside
    simp only [Machine.upcomingStore, within.placed.fetch_of_instruction held position,
      twins.placed.fetch_of_instruction held alsoPosition]
    rw [twins.moved]
    exact Machine.storeBy_moved _ twins.size (twins.seen within apart position held)
  · subst behind
    simp only [Machine.upcomingStore, within.placed.fetch_of_mark position,
      twins.placed.fetch_of_mark alsoPosition]

omit twins within in
/-- A step stores apart from both places. -/
theorem apart_of_storedCell {cell : Nat} (stored : first.storedCell = some cell)
    : Apart program here there cell := by
  obtain ⟨executed, upcoming, stays, same⟩ := Machine.upcoming_of_storedCell stored
  exact same ▸ (apart executed upcoming).resolve_left stays

theorem Twins.step
    : second.step.1 = first.step.1 ∧ Twins program here there first.step.2 second.step.2 := by
  have moves := twins.moves_step within apart
  have store := twins.upcomingStore within apart
  refine ⟨moves.outcome, moves.machine, ?_, ?_, ?_⟩
  · rw [Machine.size_step, Machine.size_step, twins.size]
  · intro index clear
    rw [Machine.tape_step, Machine.tape_step, store]
    exact Tape.cell_storeIfAny_congr twins.size _ (twins.cells index clear)
  · apply twins.placed.congr
    intro index above below
    apply Machine.cell_step_of_not_stored
    intro stored
    rw [Machine.storedCell, store] at stored
    have clear := apart_of_storedCell apart stored
    unfold Apart at clear
    omega

end Step

-----------------------------------------------------------------------------------------
-- Runs
-----------------------------------------------------------------------------------------

/-- Two machines that differ in the place of the program are driven in lock step, by induction on
the steps of the first one.
-/
theorem Twins.after_drive {program : Block} {here there count : Nat} {first second : Machine}
    (twins : Twins program here there first second) (within : Within program here first)
    (apart : ∀ executed ∈ Machine.executions count first,
      StaysApart program here there executed)
    : (drive count second).1 = (drive count first).1
      ∧ Twins program here there (drive count first).2 (drive count second).2 := by
  fun_induction drive count first generalizing second with
  | case1 machine =>
      rw [drive, twins.running]
      exact ⟨rfl, twins⟩
  | case2 budget machine running after stepped ih =>
      rw [Machine.executions_succ_of_ok running stepped] at apart
      have now : ∀ executed, machine.upcoming = some executed
          → StaysApart program here there executed := by
        intro executed upcoming
        exact apart executed (List.mem_append_left _ (Option.mem_toList.mpr upcoming))
      obtain ⟨outcome, next⟩ := twins.step within now
      rcases alsoStepped : second.step with ⟨_, alsoAfter⟩
      rw [stepped, alsoStepped] at outcome next
      obtain rfl : _ = Except.ok () := outcome
      rw [Machine.drive_succ_of_ok (twins.running.trans running) alsoStepped]
      cases still : after.running with
      | true =>
          have inside : Within program here after := by
            apply within.step stepped still
            intro cell stored
            have clear := apart_of_storedCell now (Option.mem_toList.mp stored)
            exact clear.1
          exact ih next inside
            (fun executed later => apart executed (List.mem_append_right _ later))
      | false =>
          rw [Machine.drive_of_not_running still,
            Machine.drive_of_not_running (next.running.trans still)]
          exact ⟨rfl, next⟩
  | case3 budget machine running fault after stepped =>
      rw [Machine.executions_succ_of_error running stepped] at apart
      obtain ⟨outcome, next⟩ := twins.step within
        (fun executed upcoming => apart executed (Option.mem_toList.mpr upcoming))
      rcases alsoStepped : second.step with ⟨_, alsoAfter⟩
      rw [stepped, alsoStepped] at outcome next
      obtain rfl : _ = Except.error fault := outcome
      rw [Machine.drive_succ_of_error (twins.running.trans running) alsoStepped]
      exact ⟨rfl, next⟩
  | case4 budget machine stopped =>
      have still : machine.running = false := Bool.not_eq_true _ ▸ stopped
      rw [Machine.drive_of_not_running (twins.running.trans still)]
      exact ⟨rfl, twins⟩

/-- Loading one program at two addresses makes twins of the machines that start there. -/
theorem twins_of_loads {machine first second : Machine} {source other : String}
    {here there : Int} {diagnostics others : List Source.Diagnostic} {program : Block}
    (lexed : (Source.Program.ofString source).opcodes = program.opcodes)
    (alsoLexed : (Source.Program.ofString other).opcodes = program.opcodes)
    (loads : machine.load source here = (.ok diagnostics, first))
    (alsoLoads : machine.load other there = (.ok others, second))
    : ∃ home away : Nat,
        here = home
        ∧ there = away
        ∧ Within program home (first.start home)
        ∧ Twins program home away (first.start home) (second.start away) := by
  obtain ⟨home, rfl, placed⟩ := inPlace_of_load lexed loads
  obtain ⟨away, rfl, alsoPlaced⟩ := inPlace_of_load alsoLexed alsoLoads
  have within : Within program home (first.start home) := by
    refine ⟨placed, Int.le_refl _, ?_⟩
    simp only [Machine.start]
    omega
  have cells : ∀ index : Nat, Apart program home away index
      → second.tape.cell index = first.tape.cell index := by
    intro index clear
    rw [Machine.cell_load_of_outside loads (lexed ▸ clear.1),
      Machine.cell_load_of_outside alsoLoads (alsoLexed ▸ clear.2)]
  obtain ⟨_, _, _, rfl⟩ := Machine.load_eq_ok loads
  obtain ⟨_, _, _, rfl⟩ := Machine.load_eq_ok alsoLoads
  refine ⟨home, away, rfl, rfl, within, ?_, ?_, cells, alsoPlaced⟩
  · simp only [Machine.start, Machine.moved, Machine.mk.injEq, true_and, and_true]
    omega
  · simp only [Machine.start, Tape.size_mark, Tape.size_storeAll]

/-- Two runs are in lock step: they ended in the same way or not at all, the machines differ in the
place of the control only, and their tapes agree apart from the two places of the program.
-/
structure InLockstep (program : Block) (here there : Int)
    (first second : Except Fault Exit × Machine) : Prop where
  outcome : second.1 = first.1
  programCounter : second.2.programCounter - there = first.2.programCounter - here
  dataPointer : second.2.dataPointer = first.2.dataPointer
  steps : second.2.steps = first.2.steps
  running : second.2.running = first.2.running
  written : second.2.output.accepted = first.2.output.accepted
  flushCount : second.2.output.flushCount = first.2.output.flushCount
  input : second.2.input = first.2.input
  cells : ∀ index : Nat, Apart program here there index
    → second.2.tape.cell index = first.2.tape.cell index

/-- A well-nested program that is loaded at two addresses runs in lock step from both of them, as
long as it executes nothing but moves on the cells of the two places.
-/
theorem run_in_lockstep_at_another_address {machine first second : Machine}
    {source other : String} {here there : Int} {diagnostics others : List Source.Diagnostic}
    {program : Block}
    (lexed : (Source.Program.ofString source).opcodes = program.opcodes)
    (alsoLexed : (Source.Program.ofString other).opcodes = program.opcodes)
    (loads : machine.load source here = (.ok diagnostics, first))
    (alsoLoads : machine.load other there = (.ok others, second)) (count : Nat)
    (apart : ∀ executed ∈ first.trace count here, StaysApart program here there executed)
    : ∀ steps, steps ≤ count
        → InLockstep program here there (drive steps (first.start here))
            (drive steps (second.start there)) := by
  obtain ⟨home, away, rfl, rfl, within, twins⟩ := twins_of_loads lexed alsoLexed loads alsoLoads
  intro steps fewer
  obtain ⟨outcome, next⟩ := twins.after_drive within (fun executed seen =>
    apart executed ((Machine.executions_mono fewer _).subset seen))
  have moved := next.moved
  refine ⟨outcome, ?_, ?_, ?_, ?_, ?_, ?_, ?_, next.cells⟩
  · have counter := congrArg Machine.programCounter moved
    simp only [Machine.moved] at counter
    omega
  all_goals rw [moved, Machine.moved]

/-- A countdown from two at two addresses whose places overlap. What the run at the second address
comes to is known from the run at the first one.
-/
theorem run_in_lockstep_at_another_address_overlapping
    : ∃ diagnostics first others second,
        (Machine.create 0 (.values [.ok (some 2)]) (.scripted (.ofReplies [] []))).load ",[.-]" 10
          = (.ok diagnostics, first)
        ∧ (Machine.create 0 (.values [.ok (some 2)]) (.scripted (.ofReplies [] []))).load ",[.-]" 12
          = (.ok others, second)
        ∧ (drive 9 (second.start 12)).1 = .ok .halted
        ∧ (drive 9 (second.start 12)).2.programCounter = 18
        ∧ (drive 9 (second.start 12)).2.output.accepted = [2, 1] := by
  have runs : (fun answered : Except Fault (List Source.Diagnostic) × Machine =>
        (answered.1.toBool, (drive 9 (answered.2.start 10)).1.toOption,
          (drive 9 (answered.2.start 10)).2.programCounter,
          (drive 9 (answered.2.start 10)).2.output.accepted))
      ((Machine.create 0 (.values [.ok (some 2)]) (.scripted (.ofReplies [] []))).load ",[.-]" 10)
      = (true, some .halted, 16, [2, 1]) := by
    decide +kernel
  have apart : ∀ executed ∈ ((Machine.create 0 (.values [.ok (some 2)])
        (.scripted (.ofReplies [] []))).load ",[.-]" 10).2.trace 9 10,
      StaysApart countdown 10 12 executed := by
    decide +kernel
  have room : ((Machine.create 0 (.values [.ok (some 2)])
        (.scripted (.ofReplies [] []))).load ",[.-]" 12).1.toBool = true := by
    decide +kernel
  rcases loads : (Machine.create 0 (.values [.ok (some 2)])
    (.scripted (.ofReplies [] []))).load ",[.-]" 10 with ⟨_ | diagnostics, first⟩
  · rw [loads] at runs
    cases runs
  · rcases alsoLoads : (Machine.create 0 (.values [.ok (some 2)])
      (.scripted (.ofReplies [] []))).load ",[.-]" 12 with ⟨_ | others, second⟩
    · rw [alsoLoads] at room
      cases room
    · rw [loads] at runs apart
      obtain ⟨_, halts, counter, written⟩ : _ ∧ _ ∧ _ ∧ _ := by
        simpa only [Prod.mk.injEq] using runs
      have lockstep := run_in_lockstep_at_another_address opcodes_countdown opcodes_countdown loads
        alsoLoads 9 apart 9 (Nat.le_refl 9)
      refine ⟨diagnostics, first, others, second, rfl, rfl, ?_, ?_,
        lockstep.written.trans written⟩
      · rw [lockstep.outcome]
        rcases ended : (drive 9 (first.start 10)).1 with fault | exit <;> rw [ended] at halts
        · cases halts
        · exact congrArg Except.ok (Option.some.inj halts)
      · have same := lockstep.programCounter
        omega

end Structured

end TapeMachine
