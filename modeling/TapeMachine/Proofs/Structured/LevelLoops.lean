import TapeMachine.Proofs.Structured.Relocation

/-! Where the data pointer of a well-nested program is. If every loop moves the pointer as far to
the right as to the left, then the place in the program tells where the pointer is, however often
the loops were gone through before.
-/

namespace TapeMachine

namespace Structured

open Machine (Executed IsMove drive storedCells executions)

-----------------------------------------------------------------------------------------
-- Programs with level loops
-----------------------------------------------------------------------------------------

/-- How far instructions move the data pointer together. -/
def drift : List Opcode → Int
  | [] => 0
  | op :: ops => op.distance + drift ops

theorem drift_append (first second : List Opcode)
    : drift (first ++ second) = drift first + drift second := by
  induction first with
  | nil => exact (Int.zero_add _).symm
  | cons op ops ih => rw [List.cons_append, drift, drift, ih, Int.add_assoc]

/-- Every loop of the program brings the data pointer back to where it was. -/
def Block.isLevel : Block → Bool
  | .done => true
  | .command _ rest => rest.isLevel
  | .loop body rest => drift body.opcodes == 0 && body.isLevel && rest.isLevel

/-- The loops of a piece are loops of the program, by induction on the way to the piece. -/
theorem Block.Piece.isLevel {program block : Block} {offset : Nat}
    (piece : program.Piece offset block) (level : program.isLevel = true)
    : block.isLevel = true := by
  induction piece with
  | whole => exact level
  | behindCommand _ ih => exact ih
  | insideLoop _ ih => exact (Bool.and_eq_true_iff.mp (Bool.and_eq_true_iff.mp ih).1).2
  | behindLoop _ ih => exact (Bool.and_eq_true_iff.mp ih).2

/-- Where the data pointer is at an offset of a program that begins on the first cell. -/
def Block.pointerAt (program : Block) (offset : Nat) : Int :=
  drift (program.opcodes.take offset)

theorem Block.pointerAt_succ {program : Block} {offset : Nat} {op : Opcode}
    (held : program.opcodes[offset]? = some op)
    : program.pointerAt (offset + 1) = program.pointerAt offset + op.distance := by
  rw [pointerAt, List.take_add_one, held, drift_append]
  simp [pointerAt, drift]

/-- Both brackets of a level loop are passed with the pointer in the same place. -/
theorem Block.HasLoop.pointerAt_eq {program : Block} {first last : Nat}
    (loop : program.HasLoop first last) (level : program.isLevel = true)
    : program.pointerAt last = program.pointerAt first := by
  obtain ⟨body, rest, piece, rfl⟩ := loop
  have body_level : drift body.opcodes = 0 := by
    have loops := piece.isLevel level
    simp only [isLevel, Bool.and_eq_true, beq_iff_eq] at loops
    exact loops.1.1
  obtain ⟨before, behind, whole, rfl⟩ := piece.split
  have upTo : program.opcodes.take (before.length + 1 + body.opcodes.length)
      = before ++ .loopStart :: body.opcodes := by
    rw [whole, Nat.add_assoc, List.take_append, List.take_of_length_le (by omega)]
    simp [opcodes, Nat.add_comm 1]
  have upToFirst : program.opcodes.take before.length = before := by
    rw [whole, List.take_left]
  rw [pointerAt, pointerAt, upTo, upToFirst, drift_append, ← List.singleton_append, drift_append,
    body_level]
  simp [drift, Opcode.distance]

-----------------------------------------------------------------------------------------
-- Steps and runs
-----------------------------------------------------------------------------------------

/-- The program counter is in the program, and the data pointer is where the place tells. -/
structure Tracked (program : Block) (start : Nat) (machine : Machine) : Prop where
  within : Within program start machine
  pointer : ∀ offset : Nat, machine.programCounter = (start + offset : Nat)
    → machine.dataPointer = program.pointerAt offset

/-- A program that is loaded on a machine whose data pointer is at the first cell begins so. -/
theorem tracked_of_load {machine loaded : Machine} {source : String} {start : Nat}
    {diagnostics : List Source.Diagnostic} {program : Block}
    (lexed : (Source.Program.ofString source).opcodes = program.opcodes)
    (loads : machine.load source start = (.ok diagnostics, loaded))
    (pointer : machine.dataPointer = 0)
    : Tracked program start (loaded.start start) := by
  obtain ⟨_, same, placed⟩ := inPlace_of_load lexed loads
  obtain rfl := Int.ofNat.inj same
  refine ⟨⟨placed, Int.le_refl _, ?_⟩, ?_⟩
  · simp only [Machine.start]
    omega
  · intro offset here
    simp only [Machine.start] at here
    obtain rfl : offset = 0 := by omega
    obtain ⟨_, _, _, rfl⟩ := Machine.load_eq_ok loads
    exact pointer

section Tracked

variable {program : Block} {start : Nat} {machine : Machine}
  (tracked : Tracked program start machine)
include tracked

/-- What is executed next is an instruction of the program, with the pointer in its place. -/
theorem Tracked.upcoming {executed : Executed} (coming : machine.upcoming = some executed)
    : ∃ offset,
        program.opcodes[offset]? = some executed.op
        ∧ executed.dataPointer = program.pointerAt offset := by
  obtain ⟨offset, here, bound⟩ := tracked.within.offset
  rcases Nat.lt_or_eq_of_le bound with inside | behind
  · have held := List.getElem?_eq_getElem inside
    have fetched := tracked.within.placed.fetch_of_instruction held here
    rw [Machine.upcoming_of_fetch fetched] at coming
    obtain rfl := Option.some.inj coming
    exact ⟨offset, held, tracked.pointer offset here⟩
  · subst behind
    simp only [Machine.upcoming, tracked.within.placed.fetch_of_mark here] at coming
    cases coming

variable (level : program.isLevel = true)
include level

/-- The pointer goes where the control goes, by cases on how the control advances. -/
theorem Tracked.step {after : Machine} (stepped : machine.step = (.ok (), after))
    (within : Within program start after)
    : Tracked program start after := by
  have pointer : ∀ {offset : Nat} {op : Opcode}, program.opcodes[offset]? = some op
      → machine.programCounter = (start + offset : Nat)
      → after.dataPointer = program.pointerAt (offset + 1) := by
    intro offset op held here
    have fetched := tracked.within.placed.fetch_of_instruction held here
    have moved := Machine.dataPointer_step fetched
    rw [stepped] at moved
    rw [Block.pointerAt_succ held, ← tracked.pointer offset here]
    exact moved
  refine ⟨within, fun offset there => ?_⟩
  cases tracked.within.advances stepped with
  | @command before command held here next =>
      obtain rfl : offset = before + 1 := by omega
      exact pointer held (by omega)
  | @test first last cell loop here located next =>
      obtain ⟨opening, closing⟩ := loop.brackets
      have same : program.pointerAt (last + 1) = program.pointerAt (first + 1) := by
        rw [Block.pointerAt_succ opening, Block.pointerAt_succ closing, loop.pointerAt_eq level]
        rfl
      have landed : after.dataPointer = program.pointerAt (first + 1) := by
        rcases here with here | here
        · exact pointer opening (by omega)
        · exact (pointer closing (by omega)).trans same
      split at next
      · obtain rfl : offset = last + 1 := by omega
        exact landed.trans same.symm
      · obtain rfl : offset = first + 1 := by omega
        exact landed
  | mark here next =>
      have upper := within.upper
      omega

/-- If nothing but a move is ever executed on the cells from the program on, the trace of a run is
that of instructions with the pointer in its place, by induction on the steps.
-/
theorem Tracked.trace {count : Nat}
    (before : ∀ offset op, program.opcodes[offset]? = some op
      → IsMove op ∨ program.pointerAt offset < start)
    : ∀ executed ∈ executions count machine, ∃ offset,
        program.opcodes[offset]? = some executed.op
        ∧ executed.dataPointer = program.pointerAt offset := by
  fun_induction drive count machine with
  | case1 machine => exact List.forall_mem_nil _
  | case2 budget machine running after stepped ih =>
      rw [Machine.executions_succ_of_ok running stepped]
      intro executed member
      rcases List.mem_append.mp member with now | later
      · exact tracked.upcoming (Option.mem_toList.mp now)
      · cases still : after.running with
        | true =>
            have within : Within program start after := by
              apply tracked.within.step stepped still
              intro cell stored
              obtain ⟨stores, coming, stays, here⟩ :=
                Machine.upcoming_of_storedCell (Option.mem_toList.mp stored)
              obtain ⟨offset, held, pointer⟩ := tracked.upcoming coming
              have low := (before offset stores.op held).resolve_left stays
              omega
            exact ih (tracked.step level stepped within) executed later
        | false =>
            rw [Machine.executions_of_not_running still] at later
            cases later
  | case3 budget machine running fault after stepped =>
      rw [Machine.executions_succ_of_error running stepped]
      exact fun executed member => tracked.upcoming (Option.mem_toList.mp member)
  | case4 budget machine stopped =>
      rw [Machine.executions_of_not_running (Bool.not_eq_true _ ▸ stopped)]
      exact List.forall_mem_nil _

end Tracked

end Structured

end TapeMachine
