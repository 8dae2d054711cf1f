import TapeMachine.Proofs.BracketScans
import TapeMachine.Proofs.Calls

/-! More tape changes nothing until a machine runs off the end of the shorter one. Two machines
that differ in the length of their tapes only are driven in lock step; the length is seen by a
bounds check or a bracket scan that fails, and such a failure is an overflow.
-/

namespace TapeMachine

-----------------------------------------------------------------------------------------
-- Tapes with blank cells added
-----------------------------------------------------------------------------------------

namespace Tape

/-- The second tape is the first one with more cells, all of which are zero. -/
structure Wider (narrow wide : Tape) : Prop where
  longer : narrow.size ≤ wide.size
  kept : ∀ index, index < narrow.size → wide.cell index = narrow.cell index
  blank : ∀ index, narrow.size ≤ index → wide.cell index = .data 0

/-- Cells off a tape read as zero, so the two tapes show the same cell at every index. -/
theorem Wider.cell {narrow wide : Tape} (wider : narrow.Wider wide) (index : Nat)
    : wide.cell index = narrow.cell index := by
  by_cases inside : index < narrow.size
  · exact wider.kept index inside
  · have outside := Nat.not_lt.mp inside
    rw [wider.blank index outside, cell_of_size_le outside]

theorem Wider.byte {narrow wide : Tape} (wider : narrow.Wider wide) (index : Nat)
    : wide.byte index = narrow.byte index :=
  congrArg Cell.byte (wider.cell index)

theorem wider_of_cells {narrow wide : Tape} (longer : narrow.size ≤ wide.size)
    (cells : ∀ index, wide.cell index = narrow.cell index)
    : narrow.Wider wide where
  longer := longer
  kept index _ := cells index
  blank index outside := (cells index).trans (cell_of_size_le outside)

theorem wider_zeros {size larger : Nat} (more : size ≤ larger)
    : (zeros size).Wider (zeros larger) :=
  wider_of_cells (by simpa using more) (by simp)

theorem Wider.store {narrow wide : Tape} (wider : narrow.Wider wide) {index : Nat}
    (inside : index < narrow.size) (value : UInt8)
    : (narrow.store index value).Wider (wide.store index value) := by
  have alsoInside := Nat.lt_of_lt_of_le inside wider.longer
  apply wider_of_cells
  · simpa using wider.longer
  · intro other
    simp only [cell_store, inside, alsoInside, wider.cell]

theorem Wider.mark {narrow wide : Tape} (wider : narrow.Wider wide) {index : Nat}
    (inside : index < narrow.size)
    : (narrow.mark index).Wider (wide.mark index) := by
  have alsoInside := Nat.lt_of_lt_of_le inside wider.longer
  apply wider_of_cells
  · simpa using wider.longer
  · intro other
    simp only [cell_mark, inside, alsoInside, wider.cell]

theorem Wider.storeAll {narrow wide : Tape} (wider : narrow.Wider wide) {start : Nat}
    {values : List UInt8} (fits : start + values.length ≤ narrow.size)
    : (narrow.storeAll start values).Wider (wide.storeAll start values) := by
  induction values generalizing narrow wide start with
  | nil => exact wider
  | cons value rest ih =>
      rw [List.length_cons] at fits
      apply ih (wider.store (by omega) value)
      rw [size_store]
      omega

theorem Wider.locate_ok {narrow wide : Tape} (wider : narrow.Wider wide) {address : Int}
    {index : Nat} (located : narrow.locate address = .ok index)
    : wide.locate address = .ok index := by
  obtain ⟨same, inside⟩ := locate_eq_ok_iff.mp located
  exact locate_eq_ok_iff.mpr ⟨same, Nat.lt_of_lt_of_le inside wider.longer⟩

/-- An address that is off the shorter tape is off the wider one as well, unless it has passed
its end.
-/
theorem Wider.locate_error {narrow wide : Tape} (_ : narrow.Wider wide) {address : Int}
    {side : Side} (located : narrow.locate address = .error side) (notAbove : side ≠ .above)
    : wide.locate address = .error side := by
  cases side with
  | above => exact absurd rfl notAbove
  | below => exact locate_eq_below_iff.mpr (locate_eq_below_iff.mp located)

theorem Wider.isEnd {narrow wide : Tape} (wider : narrow.Wider wide) (address : Int)
    : wide.isEnd address = narrow.isEnd address := by
  rw [Bool.eq_iff_iff, isEnd_iff, isEnd_iff]
  simp only [wider.cell]

-----------------------------------------------------------------------------------------
-- Bracket scans
-----------------------------------------------------------------------------------------

/-- A forward scan that finds its bracket finds it on a wider tape as well, where it may look
further.
-/
theorem Wider.closingFrom {narrow wide : Tape} (wider : narrow.Wider wide)
    {count more index depth found : Nat} (farther : count ≤ more)
    (scanned : narrow.closingFrom count index depth = some found)
    : wide.closingFrom more index depth = some found := by
  induction count generalizing more index depth with
  | zero => cases scanned
  | succ count ih =>
      obtain ⟨more, rfl⟩ : ∃ less, more = less + 1 := ⟨more - 1, by omega⟩
      have rest := Nat.le_of_succ_le_succ farther
      by_cases closes : narrow.byte index = Opcode.loopEnd.byte
      · have alsoCloses := (wider.byte index).trans closes
        cases depth with
        | zero =>
            rw [closingFrom_of_closed count closes] at scanned
            rwa [closingFrom_of_closed more alsoCloses]
        | succ depth =>
            rw [closingFrom_of_close count closes] at scanned
            rw [closingFrom_of_close more alsoCloses]
            exact ih rest scanned
      · have alsoNot : wide.byte index ≠ Opcode.loopEnd.byte := wider.byte index ▸ closes
        by_cases opens : narrow.byte index = Opcode.loopStart.byte
        · rw [closingFrom_of_open count opens] at scanned
          rw [closingFrom_of_open more ((wider.byte index).trans opens)]
          exact ih rest scanned
        · rw [closingFrom_of_other count closes opens] at scanned
          rw [closingFrom_of_other more alsoNot (wider.byte index ▸ opens)]
          exact ih rest scanned

theorem Wider.matchingEnd {narrow wide : Tape} (wider : narrow.Wider wide) {start partner : Nat}
    (matched : narrow.matchingEnd start = some partner)
    : wide.matchingEnd start = some partner := by
  have longer := wider.longer
  unfold Tape.matchingEnd at matched ⊢
  cases scanned : narrow.closingFrom (narrow.size - (start + 1)) (start + 1) 0 with
  | none => simp [scanned] at matched
  | some found =>
      simp only [scanned] at matched
      split at matched
      · rename_i inside
        rw [wider.closingFrom (by omega) scanned]
        simp only [if_pos (Nat.lt_of_lt_of_le inside longer)]
        exact matched
      · cases matched

/-- A backward scan sees the same cells on both tapes. -/
theorem Wider.matchingStart {narrow wide : Tape} (wider : narrow.Wider wide) (finish : Nat)
    : wide.matchingStart finish = narrow.matchingStart finish :=
  openingBelow_congr wider.byte finish 0

end Tape

end TapeMachine
