import TapeMachine.Machine
import TapeMachine.Proofs.TapeCells

/-! What can be seen of the cells of a machine. A cell shows a value and is marked or not, and there
is nothing else to it, so machines that look the same at every address have the same tape.
-/

namespace TapeMachine.Machine

/-- What is seen at an address: the value of the cell, or that there is none, and whether the cell
is marked.
-/
def seenAt (machine : Machine) (address : Int) : Except Fault UInt8 × Bool :=
  (machine.peek address, machine.isEnd address)

theorem peek_of_byte {machine : Machine} {address : Int} {index : Nat} {value : UInt8}
    (here : address = index) (inside : index < machine.tape.size)
    (holds : machine.tape.byte index = value)
    : machine.peek address = .ok value := by
  simp only [peek, Tape.locate_eq_ok_iff.mpr ⟨here, inside⟩, holds]

section Congruence

variable {machine after : Machine} (size : after.tape.size = machine.tape.size) {address : Int}
  (same : ∀ index : Nat, address = index → after.tape.cell index = machine.tape.cell index)

include size same

/-- Cells that are the same are seen as the same, and so are addresses that are off the tape. -/
theorem peek_congr
    : after.peek address = machine.peek address := by
  unfold peek
  rw [Tape.locate_congr size]
  cases located : machine.tape.locate address with
  | error side => rfl
  | ok index =>
      have held := same index (Tape.locate_eq_ok_iff.mp located).1
      simp only [Tape.byte, held]

theorem seenAt_congr
    : after.seenAt address = machine.seenAt address := by
  have marks : after.isEnd address = machine.isEnd address := by
    rw [Bool.eq_iff_iff, isEnd, isEnd, Tape.isEnd_iff, Tape.isEnd_iff]
    apply exists_congr
    intro index
    exact and_congr_right (fun here => by rw [same index here])
  exact Prod.ext (peek_congr size same) marks

end Congruence

/-- What is seen at the address of a cell tells all of the cell. -/
theorem cell_of_seenAt {machine other : Machine} {index : Nat}
    (inside : index < machine.tape.size) (alsoInside : index < other.tape.size)
    (seen : other.seenAt index = machine.seenAt index)
    : other.tape.cell index = machine.tape.cell index := by
  have located := Tape.locate_eq_ok_iff.mpr ⟨rfl, inside⟩
  have alsoLocated := Tape.locate_eq_ok_iff.mpr ⟨rfl, alsoInside⟩
  obtain ⟨value, mark⟩ := Prod.mk.inj seen
  simp only [peek, located, alsoLocated, Except.ok.injEq, Tape.byte] at value
  simp only [isEnd, Tape.isEnd, located, alsoLocated] at mark
  cases held : machine.tape.cell index <;> cases alsoHeld : other.tape.cell index <;>
    simp_all [Cell.byte, Cell.isEnd]

/-- Machines that differ by their tapes at most are the same if their tapes are equally long and the
same is seen of them.
-/
theorem eq_of_seenAt {before machine other : Machine}
    (registers : machine = { before with tape := machine.tape })
    (alsoRegisters : other = { before with tape := other.tape })
    (size : other.tape.size = machine.tape.size)
    (seen : ∀ address, other.seenAt address = machine.seenAt address)
    : other = machine := by
  have cells (index : Nat) : other.tape.cell index = machine.tape.cell index := by
    by_cases inside : index < machine.tape.size
    · exact cell_of_seenAt inside (size ▸ inside) (seen index)
    · have outside := Nat.not_lt.mp inside
      rw [Tape.cell_of_size_le outside, Tape.cell_of_size_le (size ▸ outside)]
  rw [alsoRegisters, Tape.eq_of_cells size cells, ← registers]

end TapeMachine.Machine
