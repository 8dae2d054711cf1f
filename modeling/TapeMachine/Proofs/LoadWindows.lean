import TapeMachine.Proofs.Guarded.Calls
import TapeMachine.Proofs.SeenCells
import TapeMachine.Proofs.SourceRuns

/-! A load writes all of its window or nothing at all. The window is given by the symbols in the
source text, so whatever else the text holds makes no difference to the machine.
-/

namespace TapeMachine.Machine

open Source (symbols)

/-- What is left of a machine when symbols have been loaded at an address: their codes and the mark
behind them, and everything else as it was.
-/
structure LoadedAt (before : Machine) (address : Int) (text : List Char) (after : Machine)
    : Prop where
  code : ∀ (offset : Nat) c, text[offset]? = some c
    → after.peek (address + offset) = .ok c.toUInt8
  sentinel : after.peek (address + text.length) = .ok 0xFF
  frame : ∀ other, other < address ∨ address + text.length < other
    → after.peek other = before.peek other
  marks : ∀ other, after.isEnd other = true
    ↔ other = address + text.length
      ∨ (before.isEnd other = true
        ∧ ¬ (address ≤ other ∧ other < address + text.length))
  size : after.tape.size = before.tape.size
  registers : after = { before with tape := after.tape }

-----------------------------------------------------------------------------------------
-- Codes of symbols
-----------------------------------------------------------------------------------------

/-- The code of an instruction is that of its symbol. -/
theorem map_byte_opcodes (source : String)
    : (Source.Program.ofString source).opcodes.map Opcode.byte
      = (symbols source.toList).map Char.toUInt8 := by
  rw [← Source.symbols_ofString, List.map_map]
  exact List.map_congr_left (fun op _ => op.byte_eq_symbol)

theorem length_opcodes (source : String)
    : (Source.Program.ofString source).opcodes.length = (symbols source.toList).length := by
  rw [← Source.symbols_ofString, List.length_map]

-----------------------------------------------------------------------------------------
-- Loads
-----------------------------------------------------------------------------------------

section Loads

variable {machine : Machine} {source : String} {address : Int}

theorem load_of_below (below : address < 0)
    : machine.load source address = (.error (.memory .below), machine) := by
  simp only [load, Tape.locate_eq_below_iff.mpr below]

theorem load_of_above (atLeast : 0 ≤ address)
    (above : machine.tape.size ≤ address + (symbols source.toList).length)
    : machine.load source address = (.error (.memory .above), machine) := by
  simp only [load, length_opcodes, Tape.locate_eq_above_iff.mpr above]
  cases located : machine.tape.locate address with
  | ok start => rfl
  | error side =>
      cases side with
      | above => rfl
      | below =>
          have below := Tape.locate_eq_below_iff.mp located
          omega

/-- Cell by cell, the codes are in the window, the mark is behind them, and nothing else is
written.
-/
theorem loadedAt_written (machine : Machine) {start : Nat} {text : List Char}
    (room : start + text.length < machine.tape.size)
    : machine.LoadedAt start text
        { machine with
          tape :=
            (machine.tape.storeAll start (text.map Char.toUInt8)).mark (start + text.length) } := by
  let written := (machine.tape.storeAll start (text.map Char.toUInt8)).mark (start + text.length)
  have size : written.size = machine.tape.size := by
    simp only [written, Tape.size_mark, Tape.size_storeAll]
  have marked : written.cell (start + text.length) = .endMark := by
    rw [Tape.cell_mark, if_pos ⟨rfl, by rwa [Tape.size_storeAll]⟩]
  have coded (offset : Nat) (c : Char) (found : text[offset]? = some c)
      : written.cell (start + offset) = .data c.toUInt8 := by
    have inside : offset < text.length := (List.getElem?_eq_some_iff.mp found).1
    rw [Tape.cell_mark, if_neg (by omega),
      Tape.cell_storeAll_of_getElem? _ (by rw [List.length_map]; omega)
        (by rw [List.getElem?_map, found]; rfl)]
  have kept (index : Nat) (outside : index < start ∨ start + text.length < index)
      : written.cell index = machine.tape.cell index := by
    rw [Tape.cell_mark, if_neg (by omega),
      Tape.cell_storeAll_of_outside _ (by rw [List.length_map]; omega)]
  constructor
  case code =>
    intro offset c found
    have inside : offset < text.length := (List.getElem?_eq_some_iff.mp found).1
    have onTape : start + offset < written.size := by omega
    exact peek_of_byte (Int.natCast_add start offset).symm onTape
      (congrArg Cell.byte (coded offset c found))
  case sentinel =>
    have onTape : start + text.length < written.size := by omega
    exact peek_of_byte (Int.natCast_add start text.length).symm onTape (congrArg Cell.byte marked)
  case frame =>
    intro other outside
    apply peek_congr size
    rintro index rfl
    exact kept index (by omega)
  case marks =>
    intro other
    rw [isEnd, Tape.isEnd_iff, isEnd, Tape.isEnd_iff]
    constructor
    · rintro ⟨index, rfl, held⟩
      by_cases last : index = start + text.length
      · exact .inl (by omega)
      · by_cases within : start ≤ index ∧ index < start + text.length
        · obtain ⟨offset, rfl⟩ := Nat.exists_eq_add_of_le within.1
          have found : text[offset]? = some text[offset] := List.getElem?_eq_getElem (by omega)
          rw [coded offset _ found] at held
          cases held
        · rw [kept index (by omega)] at held
          exact .inr ⟨⟨index, rfl, held⟩, by omega⟩
    · rintro (rfl | ⟨⟨index, rfl, held⟩, outside⟩)
      · exact ⟨start + text.length, (Int.natCast_add start text.length).symm, marked⟩
      · refine ⟨index, rfl, ?_⟩
        by_cases last : index = start + text.length
        · rw [last]
          exact marked
        · exact (kept index (by omega)).trans held
  case size => exact size
  case registers => rfl

theorem load_of_fitting (atLeast : 0 ≤ address)
    (room : address + (symbols source.toList).length < machine.tape.size)
    : ∃ loaded,
        machine.load source address
          = (.ok (Source.Program.ofString source).diagnostics, loaded)
        ∧ machine.LoadedAt address (symbols source.toList) loaded := by
  obtain ⟨start, rfl⟩ : ∃ start : Nat, address = start := ⟨address.toNat, by omega⟩
  have fits : start + (symbols source.toList).length < machine.tape.size := by omega
  refine ⟨_, load_eq_of_room (by rwa [length_opcodes]), ?_⟩
  rw [map_byte_opcodes, length_opcodes]
  exact machine.loadedAt_written fits

end Loads

/-- A load writes its window or nothing. Below the tape, and where the symbols of the source and
their mark do not fit, it faults and leaves the machine as it was. Where they fit, it reports what
it has skipped, and it leaves the codes of the symbols, the mark behind them, and nothing else that
is new. So sources with the same symbols are loaded to the same machine. All this goes by exact
sums, also next to the greatest address, where 64-bit sums are cut off.
-/
theorem load_writes_window_or_nothing (machine : Machine) (source : String) (address : Int)
    : (address < 0 → machine.load source address = (.error (.memory .below), machine))
      ∧ (0 ≤ address
        → machine.tape.size ≤ address + (symbols source.toList).length
        → machine.load source address = (.error (.memory .above), machine))
      ∧ (0 ≤ address
        → address + (symbols source.toList).length < machine.tape.size
        → ∃ loaded,
            machine.load source address
              = (.ok (Source.Program.ofString source).diagnostics, loaded)
            ∧ machine.LoadedAt address (symbols source.toList) loaded)
      ∧ (∀ other : String,
          symbols other.toList = symbols source.toList
          → (machine.load other address).2 = (machine.load source address).2)
      ∧ ((machine.tape.size : Int) ≤ Text.greatestSigned
        → (source.utf8ByteSize : Int) ≤ Text.greatestSigned
        → Guarded.load machine source address = .ok (machine.load source address)) := by
  refine ⟨load_of_below, load_of_above, load_of_fitting, ?_, ?_⟩
  · intro other same
    have bytes : (Source.Program.ofString other).opcodes.map Opcode.byte
        = (Source.Program.ofString source).opcodes.map Opcode.byte := by
      rw [map_byte_opcodes, map_byte_opcodes, same]
    have length : (Source.Program.ofString other).opcodes.length
        = (Source.Program.ofString source).opcodes.length := by
      rw [length_opcodes, length_opcodes, same]
    simp only [load, bytes, length]
    split
    · rfl
    · split <;> rfl
  · intro fits short
    exact Guarded.load_eq_ok fits short address

/-- A load over an old mark and up to another one, and a load at the last address that there is. -/
theorem load_writes_window_or_nothing_over_marks
    : ∃ machine loaded : Machine,
        machine.tape.cells = #[.data 7, .endMark, .data 7, .endMark, .data 7]
        ∧ machine.load "é+\n-" 1 = (.ok [⟨⟨1, 1, 0⟩, "é"⟩], loaded)
        ∧ loaded.peek 1 = .ok 43
        ∧ loaded.peek 2 = .ok 45
        ∧ loaded.peek 4 = machine.peek 4
        ∧ loaded.isEnd 1 = false
        ∧ loaded.isEnd 3 = true
        ∧ machine.load "+" Text.greatestSigned = (.error (.memory .above), machine)
        ∧ Guarded.load machine "+" Text.greatestSigned
          = .ok (.error (.memory .above), machine) := by
  let machine : Machine :=
    { create 0 (.bytes []) (.scripted (.ofReplies [] [])) with
      tape := ⟨#[.data 7, .endMark, .data 7, .endMark, .data 7]⟩ }
  have read : symbols "é+\n-".toList = ['+', '-'] := by decide
  have skipped : (Source.Program.ofString "é+\n-").diagnostics = [⟨⟨1, 1, 0⟩, "é"⟩] := by
    decide +kernel
  obtain ⟨_, _, fitting, _⟩ := load_writes_window_or_nothing machine "é+\n-" 1
  obtain ⟨loaded, answered, window⟩ := fitting (by decide) (by rw [read]; decide)
  obtain ⟨_, above, _, _, guarded⟩ := load_writes_window_or_nothing machine "+" Text.greatestSigned
  have faults := above (by decide) (by decide)
  rw [skipped] at answered
  rw [read] at window
  refine ⟨machine, loaded, rfl, answered, window.code 0 '+' rfl, window.code 1 '-' rfl,
    window.frame 4 (by decide), ?_, (window.marks 3).mpr (.inl rfl), faults, ?_⟩
  · rw [Bool.eq_false_iff]
    intro marked
    rcases (window.marks 1).mp marked with last | ⟨_, outside⟩
    · cases last
    · exact outside (by decide)
  · rw [← faults]
    exact guarded (by decide) (by decide)

end TapeMachine.Machine
