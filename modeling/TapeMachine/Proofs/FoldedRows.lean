import Mathlib.Data.List.Chain
import TapeMachine.Machine.Dump

/-! What the lines of a picture show. A row that is not zero is always shown; of zero rows in a row
the first one is shown, and all others are folded into one line. Since every row that is shown tells
its address, the whole tape can be restored from the lines and its length.
-/

namespace TapeMachine.Dump

-----------------------------------------------------------------------------------------
-- Rows
-----------------------------------------------------------------------------------------

theorem flatten_rows (values : List UInt8)
    : (rows values).flatten = values := by
  fun_induction rows values with
  | case1 => rfl
  | case2 value rest ih => rw [List.flatten_cons, ih, List.cons_append, List.take_append_drop]

/-- The row with a number: what lies on the tape from its address on, if anything does. -/
def row? (values : List UInt8) (number : Nat) : Option (List UInt8) :=
  if rowWidth * number < values.length then
    some ((values.drop (rowWidth * number)).take rowWidth)
  else
    none

theorem getElem?_rows (values : List UInt8) (number : Nat)
    : (rows values)[number]? = row? values number := by
  fun_induction rows values generalizing number with
  | case1 => simp [row?]
  | case2 value rest ih =>
      cases number with
      | zero => simp [row?, rowWidth]
      | succ number =>
          have later : (value :: rest).drop (rowWidth * (number + 1))
              = (rest.drop (rowWidth - 1)).drop (rowWidth * number) := by
            have count : rowWidth * (number + 1) = rowWidth - 1 + rowWidth * number + 1 := by
              simp only [rowWidth]
              omega
            rw [count, List.drop_succ_cons, List.drop_drop]
          have inside : rowWidth * number < (rest.drop (rowWidth - 1)).length
              ↔ rowWidth * (number + 1) < (value :: rest).length := by
            simp only [List.length_drop, List.length_cons, rowWidth]
            omega
          rw [List.getElem?_cons_succ, ih]
          simp only [row?, inside, later]

/-- A row that another one follows is full. -/
def Full (rows : List (List UInt8)) : Prop :=
  rows.IsChain (fun row _ => row.length = rowWidth)

theorem full_rows (values : List UInt8)
    : Full (rows values) := by
  fun_induction rows values with
  | case1 => exact .nil
  | case2 value rest ih =>
      refine List.IsChain.cons ih ?_
      intro next follows
      have more : rest.drop (rowWidth - 1) ≠ [] := by
        intro nothing
        rw [nothing, rows] at follows
        cases follows
      have long : rowWidth - 1 < rest.length := by
        simpa using more
      simp only [List.length_cons, List.length_take, rowWidth] at long ⊢
      omega

-----------------------------------------------------------------------------------------
-- Lines
-----------------------------------------------------------------------------------------

/-- The line that stands for zero rows that are not shown. -/
def foldOf (hidden : List (List UInt8)) : List Line :=
  if hidden = [] then [] else [.fold]

/-- Lines that show rows from the one with a number on. A row that is not zero is shown. A zero row
is shown as well, and all zero rows behind it are folded, up to a row that is not zero or the last
one.
-/
inductive Shows : Nat → List (List UInt8) → List Line → Prop
  | nothing (number : Nat)
    : Shows number [] []
  | row {number : Nat} {row : List UInt8} {rows : List (List UInt8)} {lines : List Line}
    (nonzero : isZero row = false) (later : Shows (number + 1) rows lines)
    : Shows number (row :: rows) (.row (rowWidth * number) row :: lines)
  | zeros {number : Nat} {row : List UInt8} {hidden rows : List (List UInt8)} {lines : List Line}
    (zero : isZero row = true) (hides : ∀ other ∈ hidden, isZero other = true)
    (ends : ∀ next ∈ rows.head?, isZero next = false)
    (later : Shows (number + (hidden.length + 1)) rows lines)
    : Shows number (row :: (hidden ++ rows))
        (.row (rowWidth * number) row :: (foldOf hidden ++ lines))

/-- Zero rows behind a fold are passed over. -/
theorem linesFrom_of_folded (address : Nat) (rows : List (List UInt8))
    : linesFrom address true true rows
      = linesFrom (address + rowWidth * (rows.takeWhile isZero).length) false false
          (rows.dropWhile isZero) := by
  induction rows generalizing address with
  | nil => rfl
  | cons row rows ih =>
      cases zero : isZero row with
      | true =>
          have distance : address + rowWidth * ((rows.takeWhile isZero).length + 1)
              = address + rowWidth + rowWidth * (rows.takeWhile isZero).length := by
            rw [Nat.mul_succ]
            omega
          simp [linesFrom, zero, ih, distance]
      | false => simp [linesFrom, zero]

/-- Zero rows behind a zero row are folded. -/
theorem linesFrom_of_afterZero (address : Nat) (rows : List (List UInt8))
    : linesFrom address true false rows
      = foldOf (rows.takeWhile isZero)
        ++ linesFrom (address + rowWidth * (rows.takeWhile isZero).length) false false
            (rows.dropWhile isZero) := by
  cases rows with
  | nil => rfl
  | cons row rows =>
      have folded := linesFrom_of_folded address (row :: rows)
      cases zero : isZero row with
      | true => simp_all [linesFrom, foldOf]
      | false => simp [linesFrom, foldOf, zero]

theorem linesFrom_of_nonzero (address : Nat) {row : List UInt8} (nonzero : isZero row = false)
    (rows : List (List UInt8))
    : linesFrom address false false (row :: rows)
      = .row address row :: linesFrom (address + rowWidth) false false rows := by
  simp [linesFrom, nonzero]

theorem linesFrom_of_zero (address : Nat) {row : List UInt8} (zero : isZero row = true)
    (rows : List (List UInt8))
    : linesFrom address false false (row :: rows)
      = .row address row
        :: (foldOf (rows.takeWhile isZero)
          ++ linesFrom (address + rowWidth * ((rows.takeWhile isZero).length + 1)) false false
              (rows.dropWhile isZero)) := by
  have distance : address + rowWidth * ((rows.takeWhile isZero).length + 1)
      = address + rowWidth + rowWidth * (rows.takeWhile isZero).length := by
    rw [Nat.mul_succ]
    omega
  rw [distance, ← linesFrom_of_afterZero]
  simp [linesFrom, zero]

/-- The lines show the rows, by induction on how many there are: a zero row takes those behind it
with it.
-/
theorem shows_linesFrom (number : Nat) (rows : List (List UInt8))
    : Shows number rows (linesFrom (rowWidth * number) false false rows) := by
  match rows with
  | [] => exact .nothing number
  | row :: rows =>
      cases zero : isZero row with
      | false =>
          rw [linesFrom_of_nonzero _ zero, ← Nat.mul_succ]
          exact .row zero (shows_linesFrom _ rows)
      | true =>
          have ends : ∀ next ∈ (rows.dropWhile isZero).head?, isZero next = false := by
            intro next first
            have stops := List.head?_dropWhile_not isZero rows
            rw [Option.mem_def.mp first] at stops
            simpa using stops
          have shown := Shows.zeros zero (List.all_eq_true.mp List.all_takeWhile) ends
            (shows_linesFrom (number + ((rows.takeWhile isZero).length + 1))
              (rows.dropWhile isZero))
          rw [linesFrom_of_zero _ zero, ← Nat.mul_add]
          rwa [List.takeWhile_append_dropWhile] at shown
termination_by rows.length
decreasing_by
  · exact Nat.lt_succ_self _
  · exact Nat.lt_succ_of_le (List.dropWhile_sublist isZero).length_le

theorem shows_lines (values : List UInt8)
    : Shows 0 (rows values) (lines values) :=
  shows_linesFrom 0 (rows values)

-----------------------------------------------------------------------------------------
-- What is shown and what is folded
-----------------------------------------------------------------------------------------

/-- The values that a line shows. -/
def Line.values? : Line → Option (List UInt8)
  | .row _ values => some values
  | .fold => none

/-- What a fold between two parts of the lines stands for: zero rows behind the one with a number,
which is zero itself and shown in the last line of the first part. Behind them the rows end, or the
first line of the second part shows a row that is not zero.
-/
structure FoldsAt (rowAt : Nat → Option (List UInt8)) (number count : Nat)
    (before after : List Line) : Prop where
  positive : 0 < count
  shown : ∃ row,
    rowAt number = some row
    ∧ isZero row = true
    ∧ before.getLast? = some (.row (rowWidth * number) row)
  hidden : ∀ other, number < other → other ≤ number + count
    → ∃ row, rowAt other = some row ∧ isZero row = true
  ends :
    (rowAt (number + count + 1) = none ∧ after = [])
    ∨ ∃ row,
        rowAt (number + count + 1) = some row
        ∧ isZero row = false
        ∧ after.head? = some (.row (rowWidth * (number + count + 1)) row)

/-- Lines further up make no difference to a fold. -/
theorem FoldsAt.cons {rowAt : Nat → Option (List UInt8)} {number count : Nat}
    {before after : List Line} (folds : FoldsAt rowAt number count before after) (line : Line)
    : FoldsAt rowAt number count (line :: before) after := by
  obtain ⟨positive, ⟨row, found, zero, last⟩, hidden, ends⟩ := folds
  refine ⟨positive, ⟨row, found, zero, ?_⟩, hidden, ends⟩
  rw [List.getLast?_cons, last, Option.getD_some]

namespace Shows

variable {number : Nat} {rows : List (List UInt8)} {lines : List Line}

/-- The first row is shown, whatever it is. -/
theorem head?_eq (shows : Shows number rows lines)
    : lines.head? = rows.head?.map (.row (rowWidth * number)) := by
  cases shows <;> rfl

/-- A row that is not zero is shown at its address. -/
theorem row_mem (shows : Shows number rows lines) {index : Nat} {row : List UInt8}
    (found : rows[index]? = some row) (nonzero : isZero row = false)
    : .row (rowWidth * (number + index)) row ∈ lines := by
  induction shows generalizing index with
  | nothing number => cases found
  | @row number first rows lines _ later ih =>
      cases index with
      | zero =>
          obtain rfl := Option.some.inj found
          exact List.mem_cons_self
      | succ index =>
          have member := ih found
          rw [Nat.succ_add_eq_add_succ] at member
          exact List.mem_cons_of_mem _ member
  | @zeros number first hidden rows lines zero hides _ later ih =>
      cases index with
      | zero =>
          obtain rfl := Option.some.inj found
          rw [zero] at nonzero
          cases nonzero
      | succ index =>
          rw [List.getElem?_cons_succ] at found
          rcases Nat.lt_or_ge index hidden.length with within | behind
          · rw [List.getElem?_append_left within] at found
            rw [hides row (List.mem_of_getElem? found)] at nonzero
            cases nonzero
          · rw [List.getElem?_append_right behind] at found
            have member := ih found
            have place : number + (hidden.length + 1) + (index - hidden.length)
                = number + (index + 1) := by
              omega
            rw [place] at member
            exact List.mem_cons_of_mem _ (List.mem_append_right _ member)

/-- Every row that is shown stands at its address. -/
theorem exists_of_row_mem (shows : Shows number rows lines) {address : Nat} {row : List UInt8}
    (member : .row address row ∈ lines)
    : ∃ index, address = rowWidth * (number + index) ∧ rows[index]? = some row := by
  induction shows with
  | nothing number => cases member
  | @row number first rows lines nonzero later ih =>
      rcases List.mem_cons.mp member with here | behind
      · obtain ⟨rfl, rfl⟩ := Line.row.inj here
        exact ⟨0, rfl, rfl⟩
      · obtain ⟨index, place, found⟩ := ih behind
        exact ⟨index + 1, by rw [place, Nat.add_assoc, Nat.add_comm 1], found⟩
  | @zeros number first hidden rows lines zero hides ends later ih =>
      rcases List.mem_cons.mp member with here | behind
      · obtain ⟨rfl, rfl⟩ := Line.row.inj here
        exact ⟨0, rfl, rfl⟩
      · have behind : .row address row ∈ lines := by
          rcases List.mem_append.mp behind with fold | behind
          · unfold foldOf at fold
            split at fold <;> simp at fold
          · exact behind
        obtain ⟨index, place, found⟩ := ih behind
        refine ⟨hidden.length + index + 1, by rw [place]; congr 1; omega, ?_⟩
        rw [List.getElem?_cons_succ, List.getElem?_append_right (Nat.le_add_right _ _),
          Nat.add_sub_cancel_left, found]

theorem head?_values (shows : Shows number rows lines)
    : (lines.filterMap Line.values?).head? = rows.head? := by
  cases shows <;> rfl

/-- No zero row is shown right after another one, nor with only a fold between them. -/
theorem values_apart (shows : Shows number rows lines)
    : (lines.filterMap Line.values?).IsChain
        (fun first second => isZero first = false ∨ isZero second = false) := by
  induction shows with
  | nothing number => exact .nil
  | row nonzero later ih => exact ih.cons (fun _ _ => .inl nonzero)
  | @zeros number first hidden rows lines zero hides ends later ih =>
      have folded : (foldOf hidden).filterMap Line.values? = [] := by
        unfold foldOf
        split <;> rfl
      have shown : (Line.row (rowWidth * number) first :: (foldOf hidden ++ lines)).filterMap
          Line.values? = first :: lines.filterMap Line.values? := by
        rw [List.filterMap_cons, List.filterMap_append, folded]
        rfl
      rw [shown]
      exact ih.cons (fun next follows => .inr (ends next (later.head?_values ▸ follows)))

/-- No two folds are next to each other: behind a fold a row is shown, or nothing more. -/
theorem folds_apart (shows : Shows number rows lines)
    : lines.IsChain (fun first second => first ≠ .fold ∨ second ≠ .fold) := by
  induction shows with
  | nothing number => exact .nil
  | row nonzero later ih => exact ih.cons (fun _ _ => .inl nofun)
  | @zeros number first hidden rows lines zero hides ends later ih =>
      refine List.IsChain.cons ?_ (fun _ _ => .inl nofun)
      unfold foldOf
      split
      · exact ih
      · refine ih.cons (fun next follows => .inr ?_)
        rw [later.head?_eq] at follows
        obtain ⟨row, _, rfl⟩ := Option.map_eq_some_iff.mp (Option.mem_def.mp follows)
        exact nofun

/-- Zero rows that are folded, with the line before them and those behind them. -/
theorem foldsAt_zeros {rowAt : Nat → Option (List UInt8)} {row : List UInt8}
    {hidden : List (List UInt8)} (zero : isZero row = true)
    (hides : ∀ other ∈ hidden, isZero other = true) (some : hidden ≠ [])
    (ends : ∀ next ∈ rows.head?, isZero next = false)
    (later : Shows (number + (hidden.length + 1)) rows lines)
    (places : ∀ index, rowAt (number + index) = (row :: (hidden ++ rows))[index]?)
    : FoldsAt rowAt number hidden.length [.row (rowWidth * number) row] lines := by
  refine ⟨List.length_pos_iff.mpr some, ⟨row, places 0, zero, rfl⟩, ?_, ?_⟩
  · intro other above below
    obtain ⟨index, rfl⟩ : ∃ index, other = number + (index + 1) := ⟨other - number - 1, by omega⟩
    have inside : index < hidden.length := by omega
    refine ⟨hidden[index], ?_, hides _ (List.getElem_mem inside)⟩
    rw [places, List.getElem?_cons_succ, List.getElem?_append_left inside,
      List.getElem?_eq_getElem inside]
  · have next : rowAt (number + hidden.length + 1) = rows.head? := by
      rw [Nat.add_assoc, places, List.getElem?_cons_succ,
        List.getElem?_append_right (Nat.le_refl _), Nat.sub_self, List.head?_eq_getElem?]
    rw [next, later.head?_eq]
    cases rows with
    | nil =>
        cases later
        exact .inl ⟨rfl, rfl⟩
    | cons following rows => exact .inr ⟨following, rfl, ends following rfl, rfl⟩

/-- Every fold stands for the zero rows behind a zero row that is shown before it. The induction is
on the lines up to the fold.
-/
theorem folds {rowAt : Nat → Option (List UInt8)} (shows : Shows number rows lines)
    (places : ∀ index, rowAt (number + index) = rows[index]?) {before after : List Line}
    (split : lines = before ++ .fold :: after)
    : ∃ last count, FoldsAt rowAt last count before after := by
  induction shows generalizing before with
  | nothing number => simp at split
  | @row number row rows lines nonzero later ih =>
      cases before with
      | nil => cases split
      | cons line before =>
          have places' : ∀ index, rowAt (number + 1 + index) = rows[index]? := by
            intro index
            rw [Nat.add_assoc, Nat.add_comm 1, places]
            rfl
          obtain ⟨last, count, folds⟩ := ih places' (List.cons.inj split).2
          exact ⟨last, count, folds.cons line⟩
  | @zeros number row hidden rows lines zero hides ends later ih =>
      have places' : ∀ index, rowAt (number + (hidden.length + 1) + index) = rows[index]? := by
        intro index
        rw [Nat.add_assoc, places, Nat.add_right_comm, List.getElem?_cons_succ,
          List.getElem?_append_right (Nat.le_add_right _ _), Nat.add_sub_cancel_left]
      cases before with
      | nil => cases split
      | cons line before =>
          obtain ⟨first, rest⟩ := List.cons.inj split
          by_cases none : hidden = []
          · rw [foldOf, if_pos none, List.nil_append] at rest
            obtain ⟨last, count, folds⟩ := ih places' rest
            exact ⟨last, count, folds.cons line⟩
          · rw [foldOf, if_neg none] at rest
            cases before with
            | nil =>
                obtain ⟨_, rfl⟩ := List.cons.inj rest
                subst first
                exact ⟨number, hidden.length, foldsAt_zeros zero hides none ends later places⟩
            | cons other before =>
                obtain ⟨last, count, folds⟩ := ih places' (List.cons.inj rest).2
                exact ⟨last, count, (folds.cons other).cons line⟩

end Shows

/-- Lines that show values and fold all zero rows that can be folded. -/
structure MinimallyFolded (values : List UInt8) (lines : List Line) : Prop where
  shown : ∀ number row,
    row? values number = some row → isZero row = false → .row (rowWidth * number) row ∈ lines
  placed : ∀ address row,
    .row address row ∈ lines → ∃ number, address = rowWidth * number ∧ row? values number = some row
  zerosApart : (lines.filterMap Line.values?).IsChain
    (fun first second => isZero first = false ∨ isZero second = false)
  foldsApart : lines.IsChain (fun first second => first ≠ .fold ∨ second ≠ .fold)
  folds : ∀ before after,
    lines = before ++ .fold :: after
    → ∃ number count, FoldsAt (row? values) number count before after

theorem minimallyFolded_lines (values : List UInt8)
    : MinimallyFolded values (lines values) := by
  have shows := shows_lines values
  refine ⟨?_, ?_, shows.values_apart, shows.folds_apart, ?_⟩
  · intro number row found nonzero
    rw [← getElem?_rows] at found
    have member := shows.row_mem found nonzero
    rwa [Nat.zero_add] at member
  · intro address row member
    obtain ⟨number, place, found⟩ := shows.exists_of_row_mem member
    rw [Nat.zero_add] at place
    exact ⟨number, place, getElem?_rows values number ▸ found⟩
  · intro before after split
    refine shows.folds (fun index => ?_) split
    rw [Nat.zero_add, getElem?_rows]

-----------------------------------------------------------------------------------------
-- Restoring the tape
-----------------------------------------------------------------------------------------

/-- Values with zeros behind them up to a length. -/
def padded (length : Nat) (values : List UInt8) : List UInt8 :=
  values ++ List.replicate (length - values.length) 0

/-- The values before some lines and those that the lines tell of. A row tells where it begins, and
what no line shows is zero.
-/
def restored (values : List UInt8) : List Line → List UInt8
  | [] => values
  | .row address row :: lines => restored (padded address values ++ row) lines
  | .fold :: lines => restored values lines

theorem padded_of_length {values : List UInt8} {length : Nat} (same : values.length = length)
    : padded length values = values := by
  rw [padded, same, Nat.sub_self, List.replicate_zero, List.append_nil]

/-- Rows that are zero are padding. -/
theorem padded_of_zeros {rows : List (List UInt8)} (zeros : ∀ row ∈ rows, isZero row = true)
    (values : List UInt8)
    : padded (values ++ rows.flatten).length values = values ++ rows.flatten := by
  have filled : rows.flatten = List.replicate rows.flatten.length 0 := by
    apply List.eq_replicate_of_mem
    intro value member
    obtain ⟨row, inRows, inRow⟩ := List.mem_flatten.mp member
    simpa using List.all_eq_true.mp (zeros row inRows) value inRow
  rw [padded, List.length_append, Nat.add_sub_cancel_left, ← filled]

theorem restored_foldOf (values : List UInt8) (hidden : List (List UInt8)) (lines : List Line)
    : restored values (foldOf hidden ++ lines) = restored values lines := by
  unfold foldOf
  split <;> rfl

/-- Rows that another one follows fill whole widths. -/
theorem length_flatten_of_full {front rows : List (List UInt8)} (full : Full (front ++ rows))
    (more : rows ≠ [])
    : front.flatten.length = rowWidth * front.length := by
  induction front with
  | nil => rfl
  | cons row front ih =>
      rw [List.cons_append] at full
      obtain ⟨followed, full⟩ := List.isChain_cons.mp full
      obtain ⟨next, follows⟩ := Option.ne_none_iff_exists'.mp
        (List.head?_eq_none_iff.not.mpr (List.append_ne_nil_of_right_ne_nil front more))
      rw [List.flatten_cons, List.length_append, ih full, followed next follows, List.length_cons,
        Nat.mul_succ, Nat.add_comm]

/-- The rows behind values come back from their lines, by induction on the lines: the values that a
row is put behind are as long as its address tells, and those that a fold stands for are padding.
-/
theorem Shows.padded_restored {number : Nat} {rows : List (List UInt8)} {lines : List Line}
    (shows : Shows number rows lines) (full : Full rows) {front values : List UInt8}
    (pads : padded front.length values = front)
    (starts : rows ≠ [] → front.length = rowWidth * number)
    : padded (front ++ rows.flatten).length (restored values lines) = front ++ rows.flatten := by
  induction shows generalizing front values with
  | nothing number =>
      rw [List.flatten_nil, List.append_nil]
      exact pads
  | @row number row rows lines nonzero later ih =>
      have begins := starts (List.cons_ne_nil _ _)
      rw [restored, ← begins, pads, List.flatten_cons, ← List.append_assoc]
      refine ih full.tail (padded_of_length rfl) (fun more => ?_)
      have wide : row.length = rowWidth := by
        simpa using @length_flatten_of_full [row] rows full more
      rw [List.length_append, begins, wide, Nat.mul_succ]
  | @zeros number row hidden rows lines zero hides ends later ih =>
      have begins := starts (List.cons_ne_nil _ _)
      have whole : front ++ (row :: (hidden ++ rows)).flatten
          = front ++ row ++ hidden.flatten ++ rows.flatten := by
        simp only [List.flatten_cons, List.flatten_append, List.append_assoc]
      rw [restored, ← begins, pads, restored_foldOf, whole]
      refine ih (full.tail.right_of_append) (padded_of_zeros hides (front ++ row)) (fun more => ?_)
      have wide := @length_flatten_of_full (row :: hidden) rows full more
      rw [List.append_assoc, List.length_append, begins, ← List.flatten_cons, wide, ← Nat.mul_add,
        List.length_cons]

/-- A tape comes back from its lines and its length. -/
theorem padded_restored_lines (values : List UInt8)
    : padded values.length (restored [] (lines values)) = values := by
  have comes := @Shows.padded_restored _ _ _ (shows_lines values) (full_rows values) [] [] rfl
    (fun _ => rfl)
  rwa [List.nil_append, flatten_rows] at comes

end TapeMachine.Dump
