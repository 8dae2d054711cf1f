/-! The tape: cells that hold bytes, and the marks that end a program. A mark is a state of the
cell and not a byte value, so no value that a program computes can end it.
-/

namespace TapeMachine

/-- The byte that a mark shows to those who look at cell values. -/
def endOfProgram : UInt8 := 0xFF

/-- A cell of the tape. -/
inductive Cell where
  | data (value : UInt8)
  | endMark
deriving DecidableEq, Inhabited

namespace Cell

def byte : Cell → UInt8
  | .data value => value
  | .endMark => endOfProgram

def isEnd : Cell → Bool
  | .data _ => false
  | .endMark => true

end Cell

structure Tape where
  cells : Array Cell
deriving DecidableEq, Inhabited

/-- The end of the tape that an address has passed. -/
inductive Side where
  | below
  | above
deriving DecidableEq, Inhabited

namespace Tape

/-- Tapes are at least this long. -/
def minimumSize : Nat := 30000

/-- Tapes are at most this long, so that every cell has an address. -/
def maximumSize : Nat := 9223372036854775807

/-- So many cells that hold zero. -/
def zeros (size : Nat) : Tape :=
  ⟨Array.replicate size (.data 0)⟩

/-- A new tape of the requested size, or of the least size if that is longer. -/
def blank (requested : Nat) : Tape :=
  zeros (max requested minimumSize)

def size (tape : Tape) : Nat :=
  tape.cells.size

/-- The cell at an index of the tape. -/
def cell (tape : Tape) (index : Nat) : Cell :=
  tape.cells.getD index (.data 0)

def byte (tape : Tape) (index : Nat) : UInt8 :=
  (tape.cell index).byte

/-- Stores a value, which removes a mark from the cell. -/
def store (tape : Tape) (index : Nat) (value : UInt8) : Tape :=
  ⟨tape.cells.setIfInBounds index (.data value)⟩

/-- Puts a mark on a cell, which replaces its value. -/
def mark (tape : Tape) (index : Nat) : Tape :=
  ⟨tape.cells.setIfInBounds index .endMark⟩

/-- Stores values in consecutive cells. -/
def storeAll (tape : Tape) (start : Nat) : List UInt8 → Tape
  | [] => tape
  | value :: rest => (tape.store start value).storeAll (start + 1) rest

/-- The index that an address denotes, or the side on which it is off the tape. -/
def locate (tape : Tape) (address : Int) : Except Side Nat :=
  if address < 0 then .error .below
  else if address.toNat < tape.size then .ok address.toNat
  else .error .above

/-- Whether an address denotes a marked cell. -/
def isEnd (tape : Tape) (address : Int) : Bool :=
  match tape.locate address with
  | .ok index => (tape.cell index).isEnd
  | .error _ => false

/-- The values of the cells in order. -/
def bytes (tape : Tape) : List UInt8 :=
  tape.cells.toList.map Cell.byte

@[simp]
theorem size_zeros (n : Nat)
    : (zeros n).size = n := by
  simp [zeros, size]

@[simp]
theorem size_store (tape : Tape) (index : Nat) (value : UInt8)
    : (tape.store index value).size = tape.size := by
  simp [store, size]

@[simp]
theorem size_mark (tape : Tape) (index : Nat)
    : (tape.mark index).size = tape.size := by
  simp [mark, size]

@[simp]
theorem size_storeAll (tape : Tape) (start : Nat) (values : List UInt8)
    : (tape.storeAll start values).size = tape.size := by
  induction values generalizing tape start with
  | nil => rfl
  | cons value rest ih => simp [storeAll, ih]

/-- An entry of an array is set, if there is one, and all other entries stay as they were. -/
theorem getD_setIfInBounds {α : Type} (held : Array α) (index other : Nat) (value spare : α)
    : (held.setIfInBounds index value).getD other spare
      = if index = other ∧ index < held.size then value else held.getD other spare := by
  simp only [Array.getD_eq_getD_getElem?, Array.getElem?_setIfInBounds]
  by_cases same : index = other
  · subst same
    by_cases inside : index < held.size <;> simp [inside]
  · simp [same]

/-- A stored value is found in its cell, and all other cells stay as they were. -/
theorem cell_store (tape : Tape) (index other : Nat) (value : UInt8)
    : (tape.store index value).cell other
      = if index = other ∧ index < tape.size then .data value else tape.cell other :=
  getD_setIfInBounds tape.cells index other _ _

/-- A mark is found on its cell, and all other cells stay as they were. -/
theorem cell_mark (tape : Tape) (index other : Nat)
    : (tape.mark index).cell other
      = if index = other ∧ index < tape.size then .endMark else tape.cell other :=
  getD_setIfInBounds tape.cells index other _ _

@[simp]
theorem cell_zeros (n index : Nat)
    : (zeros n).cell index = .data 0 := by
  simp only [zeros, cell, Array.getD_eq_getD_getElem?, Array.getElem?_replicate]
  split <;> rfl

/-- An address denotes an index exactly if it is that index and lies on the tape. -/
theorem locate_eq_ok_iff {tape : Tape} {address : Int} {index : Nat}
    : tape.locate address = .ok index ↔ address = index ∧ index < tape.size := by
  unfold locate
  split
  · simp only [reduceCtorEq, false_iff, not_and]
    omega
  · split
    · simp only [Except.ok.injEq]
      omega
    · simp only [reduceCtorEq, false_iff, not_and]
      omega

end Tape

end TapeMachine
