import TapeMachine.Proofs.BracketScans
import TapeMachine.Proofs.Loading
import TapeMachine.Proofs.Structured.Block

/-! Where the brackets of a well-nested program find their partners. A scan that enters a piece of
the program comes out on its other side at the same depth, so it never depends on the cells
around it.
-/

namespace TapeMachine

namespace Tape

/-- The tape holds instructions from an index on, and none of their cells is marked. -/
def Holds (tape : Tape) (start : Nat) : List Opcode → Prop
  | [] => True
  | op :: ops => tape.cell start = .data op.byte ∧ tape.Holds (start + 1) ops

theorem Holds.append_left {tape : Tape} {start : Nat} {first second : List Opcode}
    (holds : tape.Holds start (first ++ second))
    : tape.Holds start first := by
  induction first generalizing start with
  | nil => trivial
  | cons op ops ih => exact ⟨holds.1, ih holds.2⟩

theorem Holds.append_right {tape : Tape} {start : Nat} {first second : List Opcode}
    (holds : tape.Holds start (first ++ second))
    : tape.Holds (start + first.length) second := by
  induction first generalizing start with
  | nil => exact holds
  | cons op ops ih =>
      have rest := ih holds.2
      rwa [Nat.add_assoc, Nat.add_comm 1] at rest

/-- Only the cells that hold the instructions matter. -/
theorem Holds.congr {tape other : Tape} {start : Nat} {ops : List Opcode}
    (holds : tape.Holds start ops)
    (same : ∀ index, start ≤ index → index < start + ops.length
      → other.cell index = tape.cell index)
    : other.Holds start ops := by
  induction ops generalizing start with
  | nil => trivial
  | cons op ops ih =>
      rw [List.length_cons] at same
      refine ⟨(same start (by omega) (by omega)).trans holds.1, ih holds.2 ?_⟩
      intro index above below
      exact same index (by omega) (by omega)

theorem holds_storeAll (tape : Tape) {start : Nat} {ops : List Opcode}
    (fits : start + ops.length ≤ tape.size)
    : (tape.storeAll start (ops.map Opcode.byte)).Holds start ops := by
  induction ops generalizing tape start with
  | nil => trivial
  | cons op ops ih =>
      rw [List.length_cons] at fits
      have room : start + 1 + ops.length ≤ (tape.store start op.byte).size := by
        rw [size_store]
        omega
      refine ⟨?_, ih (tape.store start op.byte) room⟩
      rw [List.map_cons, storeAll, cell_storeAll_of_outside _ (by omega), cell_store,
        if_pos (by omega)]

theorem byte_of_cell {tape : Tape} {index : Nat} {op : Opcode}
    (held : tape.cell index = .data op.byte)
    : tape.byte index = op.byte := by
  simp only [byte, held, Cell.byte]

end Tape

namespace Structured

theorem Command.byte_ne_brackets (command : Command)
    : command.opcode.byte ≠ Opcode.loopEnd.byte
      ∧ command.opcode.byte ≠ Opcode.loopStart.byte := by
  cases command <;> decide

/-- A forward scan passes a program and is as deep behind it as before it, by induction on the
program.
-/
theorem Block.closingFrom {tape : Tape} {start : Nat} {block : Block}
    (holds : tape.Holds start block.opcodes) (count depth : Nat)
    : tape.closingFrom (block.opcodes.length + count) start depth
      = tape.closingFrom count (start + block.opcodes.length) depth := by
  induction block generalizing start count depth with
  | done => simp [opcodes]
  | command first rest ih =>
      have code := Tape.byte_of_cell holds.1
      obtain ⟨noClose, noOpen⟩ := first.byte_ne_brackets
      simp only [opcodes, List.length_cons]
      rw [show rest.opcodes.length + 1 + count = rest.opcodes.length + count + 1 by omega,
        Tape.closingFrom_of_other _ (code ▸ noClose) (code ▸ noOpen), ih holds.2]
      congr 1
      omega
  | loop body rest inner ih =>
      have opens := Tape.byte_of_cell holds.1
      have inside : tape.Holds (start + 1) body.opcodes := holds.2.append_left
      obtain ⟨close, behind⟩ := holds.2.append_right
      have closes := Tape.byte_of_cell close
      simp only [opcodes, List.length_cons, List.length_append]
      rw [show body.opcodes.length + (rest.opcodes.length + 1) + 1 + count
          = body.opcodes.length + (rest.opcodes.length + count + 1) + 1 by omega,
        Tape.closingFrom_of_open _ opens, inner inside, Tape.closingFrom_of_close _ closes,
        ih behind]
      congr 1
      omega

/-- A backward scan passes a program as well, in the other order of its pieces. -/
theorem Block.openingBelow {tape : Tape} {start : Nat} {block : Block}
    (holds : tape.Holds start block.opcodes) (depth : Nat)
    : tape.openingBelow (start + block.opcodes.length) depth = tape.openingBelow start depth := by
  induction block generalizing start depth with
  | done => rfl
  | command first rest ih =>
      have code := Tape.byte_of_cell holds.1
      obtain ⟨noClose, noOpen⟩ := first.byte_ne_brackets
      simp only [opcodes, List.length_cons]
      rw [show start + (rest.opcodes.length + 1) = start + 1 + rest.opcodes.length by omega,
        ih holds.2, Tape.openingBelow_of_other (code ▸ noOpen) (code ▸ noClose)]
  | loop body rest inner ih =>
      have opens := Tape.byte_of_cell holds.1
      have inside : tape.Holds (start + 1) body.opcodes := holds.2.append_left
      obtain ⟨close, behind⟩ := holds.2.append_right
      have closes := Tape.byte_of_cell close
      simp only [opcodes, List.length_cons, List.length_append]
      rw [show start + (body.opcodes.length + (rest.opcodes.length + 1) + 1)
          = start + 1 + body.opcodes.length + 1 + rest.opcodes.length by omega,
        ih behind, Tape.openingBelow_of_close closes, inner inside,
        Tape.openingBelow_of_open opens]

section Partners

variable {tape : Tape} {start : Nat} {body rest : Block}
  (holds : tape.Holds start (Block.loop body rest).opcodes)
include holds

/-- The bracket that opens a loop finds the one behind the body. -/
theorem matchingEnd_of_loop
    (room : start + 1 + body.opcodes.length + 1 < tape.size)
    : tape.matchingEnd start = some (start + 1 + body.opcodes.length) := by
  have inside : tape.Holds (start + 1) body.opcodes := holds.2.append_left
  have closes := Tape.byte_of_cell holds.2.append_right.1
  unfold Tape.matchingEnd
  obtain ⟨count, enough⟩ : ∃ count,
      tape.size - (start + 1) = body.opcodes.length + (count + 1) :=
    ⟨tape.size - (start + 1) - body.opcodes.length - 1, by omega⟩
  rw [enough, Block.closingFrom inside, Tape.closingFrom_of_closed _ closes]
  exact if_pos room

/-- The bracket that closes a loop finds the one before the body. -/
theorem matchingStart_of_loop
    : tape.matchingStart (start + 1 + body.opcodes.length) = some start := by
  have opens := Tape.byte_of_cell holds.1
  have inside : tape.Holds (start + 1) body.opcodes := holds.2.append_left
  rw [Tape.matchingStart, Block.openingBelow inside, Tape.openingBelow_of_opened opens]

end Partners

end Structured

end TapeMachine
