import TapeMachine.Tape

/-! The cells of a tape one by one: off the tape they read as zero, storing a row of values
reaches the cells of that row only, and a marked cell is on the tape.
-/

namespace TapeMachine.Tape

theorem cell_of_size_le {tape : Tape} {index : Nat} (outside : tape.size ≤ index)
    : tape.cell index = .data 0 := by
  simp only [cell, Array.getD_eq_getD_getElem?, Array.getElem?_eq_none outside, Option.getD_none]

/-- An array is its length and its entries, whatever is read behind its end. -/
theorem eq_of_getD {α : Type} {held other : Array α} {spare : α} (size : other.size = held.size)
    (entries : ∀ index, other.getD index spare = held.getD index spare)
    : other = held := by
  apply Array.ext size
  intro index inside alsoInside
  have same := entries index
  simpa only [Array.getD_eq_getD_getElem?, Array.getElem?_eq_getElem inside,
    Array.getElem?_eq_getElem alsoInside, Option.getD_some] using same

/-- A tape is its length and its cells. -/
theorem eq_of_cells {tape other : Tape} (size : other.size = tape.size)
    (cells : ∀ index, other.cell index = tape.cell index)
    : other = tape := by
  rcases tape with ⟨held⟩
  rcases other with ⟨alsoHeld⟩
  congr 1
  exact eq_of_getD size cells

theorem size_of_bytes {tape other : Tape} (same : other.bytes = tape.bytes)
    : other.size = tape.size := by
  simpa [bytes, size] using congrArg List.length same

/-- Tapes that show the same values show them at every index, whatever is marked. -/
theorem byte_of_bytes {tape other : Tape} (same : other.bytes = tape.bytes) (index : Nat)
    : other.byte index = tape.byte index := by
  have shown (shows : Tape) : shows.byte index = (shows.bytes[index]?).getD 0 := by
    simp only [byte, cell, bytes, Array.getD_eq_getD_getElem?, List.getElem?_map,
      Array.getElem?_toList]
    cases shows.cells[index]? <;> rfl
  rw [shown, shown, same]

theorem cell_storeAll_of_outside (tape : Tape) {start index : Nat} {values : List UInt8}
    (outside : index < start ∨ start + values.length ≤ index)
    : (tape.storeAll start values).cell index = tape.cell index := by
  induction values generalizing tape start with
  | nil => rfl
  | cons value rest ih =>
      rw [List.length_cons] at outside
      rw [storeAll, ih _ (by omega), cell_store, if_neg (by omega)]

theorem cell_storeAll_of_getElem? (tape : Tape) {start offset : Nat} {values : List UInt8}
    {value : UInt8} (fits : start + values.length ≤ tape.size)
    (found : values[offset]? = some value)
    : (tape.storeAll start values).cell (start + offset) = .data value := by
  induction values generalizing tape start offset with
  | nil => simp at found
  | cons first rest ih =>
      rw [List.length_cons] at fits
      cases offset with
      | zero =>
          simp only [List.getElem?_cons_zero, Option.some.injEq] at found
          rw [storeAll, cell_storeAll_of_outside _ (by omega), cell_store, if_pos (by omega),
            found]
      | succ offset =>
          rw [List.getElem?_cons_succ] at found
          have room : start + 1 + rest.length ≤ (tape.store start first).size := by
            rw [size_store]
            omega
          have later := ih (tape.store start first) room found
          rwa [Nat.add_right_comm] at later

/-- What an address denotes is a matter of how long the tape is. -/
theorem locate_congr {tape other : Tape} (size : other.size = tape.size) (address : Int)
    : other.locate address = tape.locate address := by
  simp only [locate, size]

theorem locate_eq_below_iff {tape : Tape} {address : Int}
    : tape.locate address = .error .below ↔ address < 0 := by
  unfold locate
  split
  · simp [*]
  · split <;> simp [*]

theorem locate_eq_above_iff {tape : Tape} {address : Int}
    : tape.locate address = .error .above ↔ tape.size ≤ address := by
  unfold locate
  split
  · simp only [Except.error.injEq, reduceCtorEq, false_iff]
    omega
  · split
    · simp only [reduceCtorEq, false_iff]
      omega
    · simp only [true_iff]
      omega

theorem lt_size_of_endMark {tape : Tape} {index : Nat}
    (marked : tape.cell index = .endMark)
    : index < tape.size := by
  apply Decidable.byContradiction
  intro outside
  rw [cell_of_size_le (Nat.not_lt.mp outside)] at marked
  cases marked

theorem isEnd_iff {tape : Tape} {address : Int}
    : tape.isEnd address = true ↔ ∃ index : Nat, address = index ∧ tape.cell index = .endMark := by
  unfold Tape.isEnd
  constructor
  · intro marked
    cases located : tape.locate address with
    | error side => simp [located] at marked
    | ok index =>
        refine ⟨index, (locate_eq_ok_iff.mp located).1, ?_⟩
        cases held : tape.cell index with
        | data value => simp [located, held, Cell.isEnd] at marked
        | endMark => rfl
  · rintro ⟨index, rfl, marked⟩
    have located : tape.locate index = .ok index :=
      locate_eq_ok_iff.mpr ⟨rfl, lt_size_of_endMark marked⟩
    simp [located, marked, Cell.isEnd]

end TapeMachine.Tape
