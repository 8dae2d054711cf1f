import TapeMachine.Proofs.BracketScans
import TapeMachine.Proofs.TapeCells
import TapeMachine.Text.BoundedInteger

/-! Guarded operations: arithmetic that has no result outside the range of a 64-bit number, and
access to the tape that has no result off the tape. Within their ranges they are the operations
that the tape has, also where they count: the bracket scans, and storing a row of values.
-/

namespace TapeMachine.Guarded

/-- What an operation that has no result has attempted. -/
inductive Overrun where
  | signed (value : Int)
  | unsigned (value : Int)
  | index (index size : Nat)
  | slice (start finish size : Nat)
deriving DecidableEq, Inhabited

@[simp]
theorem ok_bind {α β : Type} (value : α) (next : α → Except Overrun β)
    : (Except.ok value >>= next) = next value :=
  rfl

-----------------------------------------------------------------------------------------
-- Numbers
-----------------------------------------------------------------------------------------

/-- A value, as a signed 64-bit number. -/
def signed (value : Int) : Except Overrun Int :=
  if Text.leastSigned ≤ value ∧ value ≤ Text.greatestSigned then
    .ok value
  else
    .error (.signed value)

/-- A value, as an unsigned 64-bit number. -/
def unsigned (value : Int) : Except Overrun Nat :=
  if 0 ≤ value ∧ value ≤ Text.greatestUnsigned then
    .ok value.toNat
  else
    .error (.unsigned value)

/-- The sum of signed 64-bit numbers, or the end of their range that it has passed. -/
def saturatingSum (first second : Int) : Int :=
  max Text.leastSigned (min Text.greatestSigned (first + second))

theorem signed_eq_ok {value : Int} (least : Text.leastSigned ≤ value)
    (greatest : value ≤ Text.greatestSigned)
    : signed value = .ok value :=
  if_pos ⟨least, greatest⟩

-- Behind the greatest address there is none.
example : signed (Text.greatestSigned + 1) = .error (.signed 9223372036854775808) :=
  rfl

theorem unsigned_eq_ok {value : Nat} (greatest : (value : Int) ≤ Text.greatestUnsigned)
    : unsigned value = .ok value := by
  rw [unsigned, if_pos ⟨Int.natCast_nonneg value, greatest⟩, Int.toNat_natCast]

theorem unsigned_pred {value : Nat} (greatest : (value : Int) ≤ Text.greatestUnsigned)
    : unsigned ((value + 1 : Nat) - 1) = .ok value := by
  have back : ((value + 1 : Nat) : Int) - 1 = value := by omega
  rw [back]
  exact unsigned_eq_ok greatest

-----------------------------------------------------------------------------------------
-- Cells
-----------------------------------------------------------------------------------------

/-- The cell at an index. -/
def cellAt (tape : Tape) (index : Nat) : Except Overrun Cell :=
  match tape.cells[index]? with
  | some cell => .ok cell
  | none => .error (.index index tape.size)

/-- Stores a value in the cell at an index. -/
def store (tape : Tape) (index : Nat) (value : UInt8) : Except Overrun Tape :=
  if index < tape.size then .ok (tape.store index value) else .error (.index index tape.size)

/-- Puts a mark on the cell at an index. -/
def mark (tape : Tape) (index : Nat) : Except Overrun Tape :=
  if index < tape.size then .ok (tape.mark index) else .error (.index index tape.size)

/-- Stores values in consecutive cells, until there are no more values or no more cells before
`finish`.
-/
def storeAll (tape : Tape) (start finish : Nat) : List UInt8 → Except Overrun Tape
  | [] => .ok tape
  | value :: rest =>
      if start < finish then do
        let stored ← store tape start value
        let next ← unsigned (start + 1 : Nat)
        storeAll stored next finish rest
      else
        .ok tape

section Cells

variable {tape : Tape} {index : Nat}

theorem getElem?_cells (inside : index < tape.size)
    : tape.cells[index]? = some (tape.cell index) := by
  have within : index < tape.cells.size := inside
  simp [Tape.cell, within]

theorem cellAt_eq_ok (inside : index < tape.size)
    : cellAt tape index = .ok (tape.cell index) := by
  rw [cellAt, getElem?_cells inside]

theorem store_eq_ok (inside : index < tape.size) (value : UInt8)
    : store tape index value = .ok (tape.store index value) :=
  if_pos inside

theorem mark_eq_ok (inside : index < tape.size)
    : mark tape index = .ok (tape.mark index) :=
  if_pos inside

/-- Values for which there is room are all stored, by induction on the values. -/
theorem storeAll_eq_ok {start finish : Nat} {values : List UInt8}
    (room : start + values.length = finish) (inside : finish ≤ tape.size)
    (fits : (tape.size : Int) ≤ Text.greatestSigned)
    : storeAll tape start finish values = .ok (tape.storeAll start values) := by
  induction values generalizing tape start with
  | nil => rfl
  | cons value rest ih =>
      rw [List.length_cons] at room
      have here : start < tape.size := by omega
      have next : unsigned (start + 1 : Nat) = .ok (start + 1) :=
        unsigned_eq_ok (by unfold Text.greatestSigned at fits; unfold Text.greatestUnsigned; omega)
      have later := @ih (tape.store start value) (start + 1) (by omega)
        (by rwa [Tape.size_store]) (by rwa [Tape.size_store])
      rw [storeAll, if_pos (by omega), store_eq_ok here, next]
      exact later

end Cells

-----------------------------------------------------------------------------------------
-- Bracket scans
-----------------------------------------------------------------------------------------

/-- Counts a cell in a scan that looks for a `closes` behind every `opens`. -/
def recount (opens closes : Opcode) (byte : UInt8) (unbalance : Nat) : Except Overrun Nat :=
  if byte = closes.byte then unsigned (unbalance - 1)
  else if byte = opens.byte then unsigned (unbalance + 1 : Nat)
  else .ok unbalance

/-- Goes up the tape until there is nothing left to close. There is no partner if the tape ends
before that.
-/
def closingAbove (tape : Tape) (index unbalance : Nat) : Except Overrun (Option Nat) :=
  if unbalance = 0 then
    .ok (some index)
  else do
    let _ ← unsigned (index + 1 : Nat)
    match _found : tape.cells[index + 1]? with
    | none => .ok none
    | some cell => do
        let remaining ← recount .loopStart .loopEnd cell.byte unbalance
        closingAbove tape (index + 1) remaining
termination_by tape.size - index
decreasing_by
  obtain ⟨within, _⟩ := Array.getElem?_eq_some_iff.mp _found
  have inside : index + 1 < tape.size := within
  omega

/-- Goes down the tape until there is nothing left to open. There is no partner if the tape ends
before that.
-/
def openingBelow (tape : Tape) : (index unbalance : Nat) → Except Overrun (Option Nat)
  | index, 0 => .ok (some index)
  | 0, _ + 1 => .ok none
  | index + 1, unbalance + 1 => do
      let found ← cellAt tape index
      let remaining ← recount .loopEnd .loopStart found.byte (unbalance + 1)
      openingBelow tape index remaining

/-- The end of the loop that starts at an index, unless it is the last cell. -/
def matchingEnd (tape : Tape) (start : Nat) : Except Overrun (Option Nat) := do
  match ← closingAbove tape start 1 with
  | none => .ok none
  | some index => do
      let next ← unsigned (index + 1 : Nat)
      .ok (if next < tape.size then some index else none)

/-- The start of the loop that ends at an index. -/
def matchingStart (tape : Tape) (finish : Nat) : Except Overrun (Option Nat) :=
  openingBelow tape finish 1

/-- A cell is counted as a bracket of the one kind, of the other kind, or not at all. -/
theorem recount_cases {opens closes : Opcode} {byte : UInt8} {depth : Nat}
    (fits : ((depth + 2 : Nat) : Int) ≤ Text.greatestUnsigned)
    : (byte = closes.byte ∧ recount opens closes byte (depth + 1) = .ok depth)
      ∨ (byte ≠ closes.byte
        ∧ byte = opens.byte
        ∧ recount opens closes byte (depth + 1) = .ok (depth + 2))
      ∨ (byte ≠ closes.byte
        ∧ byte ≠ opens.byte
        ∧ recount opens closes byte (depth + 1) = .ok (depth + 1)) := by
  unfold recount
  by_cases closed : byte = closes.byte
  · rw [if_pos closed]
    exact .inl ⟨closed, unsigned_pred (by omega)⟩
  · rw [if_neg closed]
    by_cases opened : byte = opens.byte
    · rw [if_pos opened]
      exact .inr (.inl ⟨closed, opened, unsigned_eq_ok (by omega)⟩)
    · rw [if_neg opened]
      exact .inr (.inr ⟨closed, opened, rfl⟩)

section Scans

variable {tape : Tape} {index unbalance : Nat}

theorem closingAbove_of_end (next : unsigned (index + 1 : Nat) = .ok (index + 1))
    (outside : tape.size ≤ index + 1)
    : closingAbove tape index (unbalance + 1) = .ok none := by
  have nothing : tape.cells[index + 1]? = none := Array.getElem?_eq_none outside
  rw [closingAbove, if_neg unbalance.succ_ne_zero, next, ok_bind]
  split
  · rfl
  · simp_all

theorem closingAbove_of_inside (next : unsigned (index + 1 : Nat) = .ok (index + 1))
    (inside : index + 1 < tape.size)
    : closingAbove tape index (unbalance + 1)
      = recount .loopStart .loopEnd (tape.byte (index + 1)) (unbalance + 1)
          >>= closingAbove tape (index + 1) := by
  have found := getElem?_cells inside
  rw [closingAbove, if_neg unbalance.succ_ne_zero, next, ok_bind]
  split
  · simp_all
  · rename_i cell alsoFound
    obtain rfl : cell = tape.cell (index + 1) := by simpa [found] using alsoFound.symm
    rfl

variable (fits : (tape.size : Int) ≤ Text.greatestSigned)

include fits

/-- No scan leaves more loops to close than it has seen cells, so their number stays in range, and
it is never lowered below zero. By induction on the cells above the index.
-/
theorem closingAbove_eq_ok {count depth : Nat} (rest : index + 1 + count = tape.size)
    (seen : depth ≤ index)
    : closingAbove tape index (depth + 1) = .ok (tape.closingFrom count (index + 1) depth) := by
  have small : Text.greatestSigned + 1 < Text.greatestUnsigned := by decide
  induction count generalizing index depth with
  | zero =>
      exact closingAbove_of_end (unsigned_eq_ok (by omega)) (Nat.le_of_eq rest.symm)
  | succ count ih =>
      rw [closingAbove_of_inside (unsigned_eq_ok (by omega)) (by omega)]
      have inRange : ((depth + 2 : Nat) : Int) ≤ Text.greatestUnsigned := by omega
      obtain ⟨closes, counted⟩ | ⟨_, opens, counted⟩ | ⟨noClose, noOpen, counted⟩ :=
        @recount_cases .loopStart .loopEnd (tape.byte (index + 1)) depth inRange
      · rw [counted]
        cases depth with
        | zero =>
            rw [Tape.closingFrom_of_closed count closes]
            simp [closingAbove]
        | succ depth =>
            rw [Tape.closingFrom_of_close count closes]
            exact ih (by omega) (by omega)
      · rw [counted, Tape.closingFrom_of_open count opens]
        exact ih (by omega) (by omega)
      · rw [counted, Tape.closingFrom_of_other count noClose noOpen]
        exact ih (by omega) (by omega)

theorem matchingEnd_eq_ok (inside : index < tape.size)
    : matchingEnd tape index = .ok (tape.matchingEnd index) := by
  have small : Text.greatestSigned < Text.greatestUnsigned := by decide
  have scan := @closingAbove_eq_ok tape index fits (tape.size - (index + 1)) 0 (by omega)
    (Nat.zero_le index)
  rw [matchingEnd, Tape.matchingEnd, scan]
  cases found : tape.closingFrom (tape.size - (index + 1)) (index + 1) 0 with
  | none => rfl
  | some partner =>
      have found := Tape.closingFrom_lt found
      have next : unsigned (partner + 1 : Nat) = .ok (partner + 1) := unsigned_eq_ok (by omega)
      rw [ok_bind]
      show (unsigned (partner + 1 : Nat) >>= _) = _
      rw [next, ok_bind]

/-- Going down, the loops to open and the cells below are together no more than the tape has
cells. By induction on the index.
-/
theorem openingBelow_eq_ok {depth : Nat} (seen : index + depth < tape.size)
    : openingBelow tape index (depth + 1) = .ok (tape.openingBelow index depth) := by
  have small : Text.greatestSigned + 1 < Text.greatestUnsigned := by decide
  induction index generalizing depth with
  | zero => rfl
  | succ index ih =>
      have inRange : ((depth + 2 : Nat) : Int) ≤ Text.greatestUnsigned := by omega
      simp only [openingBelow, cellAt_eq_ok (show index < tape.size by omega), ok_bind]
      obtain ⟨opens, counted⟩ | ⟨_, closes, counted⟩ | ⟨noOpen, noClose, counted⟩ :=
        @recount_cases .loopEnd .loopStart (tape.byte index) depth inRange
      · rw [← Tape.byte, counted]
        cases depth with
        | zero =>
            rw [Tape.openingBelow_of_opened opens]
            simp [openingBelow]
        | succ depth =>
            rw [Tape.openingBelow_of_open opens]
            exact ih (by omega)
      · rw [← Tape.byte, counted, Tape.openingBelow_of_close closes]
        exact ih (by omega)
      · rw [← Tape.byte, counted, Tape.openingBelow_of_other noOpen noClose]
        exact ih (by omega)

theorem matchingStart_eq_ok (inside : index < tape.size)
    : matchingStart tape index = .ok (tape.matchingStart index) :=
  openingBelow_eq_ok fits inside

end Scans

end TapeMachine.Guarded
