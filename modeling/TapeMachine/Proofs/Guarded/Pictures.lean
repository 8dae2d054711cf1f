import TapeMachine.Machine.Dump
import TapeMachine.Proofs.Guarded.Accesses

/-! The guarded picture of a machine. A zero row looks back at the row before it, which is a slice
of the tape; every row but the last is full, so there is such a slice.
-/

namespace TapeMachine.Guarded

/-- The values from an index up to another one. -/
def slice (values : List UInt8) (start finish : Nat) : Except Overrun (List UInt8) :=
  if start ≤ finish ∧ finish ≤ values.length then
    .ok ((values.drop start).take (finish - start))
  else
    .error (.slice start finish values.length)

/-- Whether a row is zero and so is the one before it, if there is one. -/
def repeatsZero (values : List UInt8) (row : Nat) (cells : List UInt8) : Except Overrun Bool :=
  if Dump.isZero cells = true ∧ 0 < row then do
    let previous ← unsigned (row - 1)
    let start ← unsigned (previous * Dump.rowWidth : Nat)
    let finish ← unsigned (row * Dump.rowWidth : Nat)
    let before ← slice values start finish
    .ok (Dump.isZero before)
  else
    .ok false

/-- The lines for the rows from a number on. `folded` tells that the row before them was not
shown.
-/
def linesFrom (values : List UInt8) (row : Nat) (folded : Bool)
    : List (List UInt8) → Except Overrun (List Dump.Line)
  | [] => .ok []
  | cells :: rest => do
      let next ← unsigned (row + 1 : Nat)
      let repeated ← repeatsZero values row cells
      if repeated then do
        let later ← linesFrom values next true rest
        .ok (if folded then later else .fold :: later)
      else do
        let address ← unsigned (row * Dump.rowWidth : Nat)
        let later ← linesFrom values next false rest
        .ok (.row address cells :: later)

/-- The picture of a machine. -/
def dump (machine : Machine) : Except Overrun String := do
  let lines ← linesFrom machine.tape.bytes 0 false (Dump.rows machine.tape.bytes)
  .ok ("PC: " ++ Text.integer machine.programCounter ++ "\n"
    ++ "Data address: " ++ Text.integer machine.dataPointer ++ "\n"
    ++ String.join (lines.map Dump.Line.render))

section Pictures

variable {values : List UInt8}

/-- The row with a number. -/
def rowAt (values : List UInt8) (row : Nat) : List UInt8 :=
  (values.drop (row * Dump.rowWidth)).take Dump.rowWidth

/-- The row before one that begins on the tape is a slice of the tape. -/
theorem slice_eq_rowAt {row : Nat} (inside : (row + 1) * Dump.rowWidth ≤ values.length)
    : slice values (row * Dump.rowWidth) ((row + 1) * Dump.rowWidth) = .ok (rowAt values row) := by
  have ordered : row * Dump.rowWidth ≤ (row + 1) * Dump.rowWidth :=
    Nat.mul_le_mul_right _ row.le_succ
  have width : (row + 1) * Dump.rowWidth - row * Dump.rowWidth = Dump.rowWidth := by
    rw [Nat.succ_mul, Nat.add_sub_cancel_left]
  rw [slice, if_pos ⟨ordered, inside⟩, width]
  rfl

variable (fits : (values.length : Int) ≤ Text.greatestSigned)

include fits

theorem repeatsZero_eq_ok {row : Nat} {cells : List UInt8} {afterZero : Bool}
    (inside : row * Dump.rowWidth < values.length)
    (before : afterZero = true
      ↔ ∃ previous, row = previous + 1 ∧ Dump.isZero (rowAt values previous) = true)
    : repeatsZero values row cells = .ok (Dump.isZero cells && afterZero) := by
  have small : Text.greatestSigned < Text.greatestUnsigned := by decide
  unfold repeatsZero
  by_cases zero : Dump.isZero cells = true ∧ 0 < row
  · obtain ⟨previous, rfl⟩ : ∃ previous, row = previous + 1 := ⟨row - 1, by omega⟩
    have same : afterZero = Dump.isZero (rowAt values previous) := by
      rw [Bool.eq_iff_iff, before]
      simp
    have ordered : previous * Dump.rowWidth ≤ (previous + 1) * Dump.rowWidth :=
      Nat.mul_le_mul_right _ previous.le_succ
    have least : previous + 1 ≤ (previous + 1) * Dump.rowWidth :=
      Nat.le_mul_of_pos_right _ (by decide)
    rw [if_pos zero, unsigned_pred (by omega), ok_bind, unsigned_eq_ok (by omega), ok_bind,
      unsigned_eq_ok (by omega), ok_bind, slice_eq_rowAt (Nat.le_of_lt inside), ok_bind, zero.1,
      Bool.true_and, same]
  · rw [if_neg zero]
    cases zeroHere : Dump.isZero cells with
    | false => rfl
    | true =>
        have first : afterZero = false := by
          rw [← Bool.not_eq_true, before]
          rintro ⟨previous, rfl, _⟩
          exact zero ⟨zeroHere, previous.succ_pos⟩
        rw [first]
        rfl

/-- The guarded lines are the lines. By induction on what is left of the tape, which decides how
many rows there still are.
-/
theorem linesFrom_eq_ok {remaining : List UInt8} {row : Nat} {afterZero folded : Bool}
    (place : remaining = values.drop (row * Dump.rowWidth))
    (before : afterZero = true
      ↔ ∃ previous, row = previous + 1 ∧ Dump.isZero (rowAt values previous) = true)
    : linesFrom values row folded (Dump.rows remaining)
      = .ok (Dump.linesFrom (row * Dump.rowWidth) afterZero folded (Dump.rows remaining)) := by
  have small : Text.greatestSigned < Text.greatestUnsigned := by decide
  fun_induction Dump.rows remaining generalizing row afterZero folded with
  | case1 => rfl
  | case2 value rest ih =>
      have inside : row * Dump.rowWidth < values.length := by
        have some := congrArg List.length place
        rw [List.length_cons, List.length_drop] at some
        omega
      have least : row ≤ row * Dump.rowWidth := Nat.le_mul_of_pos_right _ (by decide)
      have here : value :: rest.take (Dump.rowWidth - 1) = rowAt values row := by
        rw [rowAt, ← place]
        rfl
      have later : rest.drop (Dump.rowWidth - 1) = values.drop ((row + 1) * Dump.rowWidth) := by
        rw [Nat.succ_mul, ← List.drop_drop, ← place]
        rfl
      have next : unsigned (row + 1 : Nat) = .ok (row + 1) := unsigned_eq_ok (by omega)
      rw [linesFrom, next, ok_bind, repeatsZero_eq_ok fits inside before, ok_bind, Dump.linesFrom,
        ← Nat.succ_mul]
      have lookBack : Dump.isZero (value :: rest.take (Dump.rowWidth - 1)) = true
          ↔ ∃ previous, row + 1 = previous + 1 ∧ Dump.isZero (rowAt values previous) = true := by
        rw [here]
        simp
      cases repeated : Dump.isZero (value :: rest.take (Dump.rowWidth - 1)) && afterZero with
      | true =>
          rw [(Bool.and_eq_true_iff.mp repeated).1] at lookBack
          rw [if_pos rfl, if_pos rfl, ih later lookBack, ok_bind]
      | false =>
          rw [if_neg Bool.false_ne_true, if_neg Bool.false_ne_true, unsigned_eq_ok (by omega),
            ok_bind, ih later lookBack, ok_bind]

/-- On no tape does the picture look back at a row that is not there. -/
theorem lines_eq_ok
    : linesFrom values 0 false (Dump.rows values) = .ok (Dump.lines values) := by
  have place : values = values.drop (0 * Dump.rowWidth) := by simp
  have before : false = true
      ↔ ∃ previous, 0 = previous + 1 ∧ Dump.isZero (rowAt values previous) = true := by
    simp
  have pictured := @linesFrom_eq_ok values fits values 0 false false place before
  rwa [Nat.zero_mul] at pictured

end Pictures

theorem dump_eq_ok {machine : Machine} (fits : (machine.tape.size : Int) ≤ Text.greatestSigned)
    : dump machine = .ok machine.dump := by
  have length : machine.tape.bytes.length = machine.tape.size := by
    simp [Tape.bytes, Tape.size]
  rw [dump, lines_eq_ok (by rwa [length]), ok_bind]
  rfl

end TapeMachine.Guarded
