import TapeMachine.Machine.Load
import TapeMachine.Proofs.TapeCells

/-! What a load leaves on the tape: the codes of the instructions from its address on, a mark
behind them, and every other cell as it was.
-/

namespace TapeMachine.Machine

/-- A program that fits on the tape is loaded. -/
theorem load_eq_of_room {machine : Machine} {source : String} {start : Nat}
    (room : start + (Source.Program.ofString source).opcodes.length < machine.tape.size)
    : machine.load source start
      = (.ok (Source.Program.ofString source).diagnostics,
          { machine with
            tape :=
              (machine.tape.storeAll start
                ((Source.Program.ofString source).opcodes.map Opcode.byte)).mark
                  (start + (Source.Program.ofString source).opcodes.length) }) := by
  have first : machine.tape.locate start = .ok start :=
    Tape.locate_eq_ok_iff.mpr ⟨rfl, by omega⟩
  have last : machine.tape.locate (start + (Source.Program.ofString source).opcodes.length)
      = .ok (start + (Source.Program.ofString source).opcodes.length) :=
    Tape.locate_eq_ok_iff.mpr ⟨by omega, room⟩
  simp only [load, first, last]

theorem load_of_room {machine : Machine} {source : String} {start : Nat}
    (room : start + (Source.Program.ofString source).opcodes.length < machine.tape.size)
    : ∃ diagnostics loaded, machine.load source start = (.ok diagnostics, loaded) :=
  ⟨_, _, load_eq_of_room room⟩

/-- A load that succeeds has found room for the instructions and the mark behind them, and
changes nothing but the tape.
-/
theorem load_eq_ok {machine loaded : Machine} {source : String} {address : Int}
    {diagnostics : List Source.Diagnostic}
    (answered : machine.load source address = (.ok diagnostics, loaded))
    : ∃ start : Nat,
        address = start
        ∧ start + (Source.Program.ofString source).opcodes.length < machine.tape.size
        ∧ loaded
          = { machine with
              tape :=
                (machine.tape.storeAll start
                  ((Source.Program.ofString source).opcodes.map Opcode.byte)).mark
                    (start + (Source.Program.ofString source).opcodes.length) } := by
  simp only [load] at answered
  split at answered
  · cases answered
  · rename_i start found
    split at answered
    · cases answered
    · rename_i finish alsoFound
      obtain ⟨same, _⟩ := Tape.locate_eq_ok_iff.mp found
      obtain ⟨last, room⟩ := Tape.locate_eq_ok_iff.mp alsoFound
      have finishes : finish = start + (Source.Program.ofString source).opcodes.length := by
        omega
      subst finishes
      obtain ⟨_, rfl⟩ := Prod.mk.inj answered
      exact ⟨start, same, room, rfl⟩

/-- A load leaves the cells alone that the program and its mark do not take up. -/
theorem cell_load_of_outside {machine loaded : Machine} {source : String} {address : Int}
    {diagnostics : List Source.Diagnostic} {index : Nat}
    (answered : machine.load source address = (.ok diagnostics, loaded))
    (outside : (index : Int) < address
      ∨ address + (Source.Program.ofString source).opcodes.length < index)
    : loaded.tape.cell index = machine.tape.cell index := by
  obtain ⟨start, rfl, room, rfl⟩ := load_eq_ok answered
  have unmarked : ¬ (start + (Source.Program.ofString source).opcodes.length = index) := by
    omega
  have apart : index < start
      ∨ start + ((Source.Program.ofString source).opcodes.map Opcode.byte).length ≤ index := by
    rw [List.length_map]
    omega
  rw [Tape.cell_mark, if_neg (fun both => unmarked both.1),
    Tape.cell_storeAll_of_outside machine.tape apart]

theorem load_eq_error {machine after : Machine} {source : String} {address : Int} {fault : Fault}
    (answered : machine.load source address = (.error fault, after))
    : after = machine := by
  simp only [load] at answered
  split at answered
  · exact (Prod.mk.inj answered).2.symm
  · split at answered
    · exact (Prod.mk.inj answered).2.symm
    · cases answered

end TapeMachine.Machine
