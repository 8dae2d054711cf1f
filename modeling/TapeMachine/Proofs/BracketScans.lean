import TapeMachine.Tape.Brackets

/-! The bracket scans cell by cell, and where they can find a partner. -/

namespace TapeMachine.Tape

section Forwards

variable {tape : Tape} {index : Nat} (count : Nat)

theorem closingFrom_of_closed (closes : tape.byte index = Opcode.loopEnd.byte)
    : tape.closingFrom (count + 1) index 0 = some index := by
  simp only [closingFrom, closes, if_true]

theorem closingFrom_of_close (closes : tape.byte index = Opcode.loopEnd.byte) (depth : Nat)
    : tape.closingFrom (count + 1) index (depth + 1)
      = tape.closingFrom count (index + 1) depth := by
  simp only [closingFrom, closes, if_true]

theorem closingFrom_of_open (opens : tape.byte index = Opcode.loopStart.byte) (depth : Nat)
    : tape.closingFrom (count + 1) index depth
      = tape.closingFrom count (index + 1) (depth + 1) := by
  have differs : Opcode.loopStart.byte ≠ Opcode.loopEnd.byte := by decide
  simp only [closingFrom, opens, if_neg differs, if_true]

theorem closingFrom_of_other (noClose : tape.byte index ≠ Opcode.loopEnd.byte)
    (noOpen : tape.byte index ≠ Opcode.loopStart.byte) (depth : Nat)
    : tape.closingFrom (count + 1) index depth = tape.closingFrom count (index + 1) depth := by
  simp only [closingFrom, if_neg noClose, if_neg noOpen]

/-- Nothing but the values of the cells matters. -/
theorem closingFrom_congr {other : Tape} (same : ∀ index, other.byte index = tape.byte index)
    (count index depth : Nat)
    : other.closingFrom count index depth = tape.closingFrom count index depth := by
  induction count generalizing index depth with
  | zero => rfl
  | succ count ih => simp only [closingFrom, same, ih]

/-- A partner is among the cells that are looked through, by induction on their number. -/
theorem closingFrom_lt {count index depth found : Nat}
    (scanned : tape.closingFrom count index depth = some found)
    : found < index + count := by
  fun_induction closingFrom tape count index depth with
  | case1 => cases scanned
  | case2 =>
      cases scanned
      omega
  | case3 count index depth closes ih =>
      have later := ih scanned
      omega
  | case4 count index depth noClose opens ih =>
      have later := ih scanned
      omega
  | case5 count index depth noClose noOpen ih =>
      have later := ih scanned
      omega

/-- The end of a loop has another cell behind it. -/
theorem succ_lt_of_matchingEnd {start partner : Nat}
    (matched : tape.matchingEnd start = some partner)
    : partner + 1 < tape.size := by
  unfold matchingEnd at matched
  split at matched
  · split at matched
    · rename_i last
      obtain rfl := Option.some.inj matched
      exact last
    · cases matched
  · cases matched

end Forwards

section Backwards

variable {tape : Tape} {index : Nat}

theorem openingBelow_of_opened (opens : tape.byte index = Opcode.loopStart.byte)
    : tape.openingBelow (index + 1) 0 = some index := by
  simp only [openingBelow, opens, if_true]

theorem openingBelow_of_open (opens : tape.byte index = Opcode.loopStart.byte) (depth : Nat)
    : tape.openingBelow (index + 1) (depth + 1) = tape.openingBelow index depth := by
  simp only [openingBelow, opens, if_true]

theorem openingBelow_of_close (closes : tape.byte index = Opcode.loopEnd.byte) (depth : Nat)
    : tape.openingBelow (index + 1) depth = tape.openingBelow index (depth + 1) := by
  have differs : Opcode.loopEnd.byte ≠ Opcode.loopStart.byte := by decide
  simp only [openingBelow, closes, if_neg differs, if_true]

theorem openingBelow_of_other (noOpen : tape.byte index ≠ Opcode.loopStart.byte)
    (noClose : tape.byte index ≠ Opcode.loopEnd.byte) (depth : Nat)
    : tape.openingBelow (index + 1) depth = tape.openingBelow index depth := by
  simp only [openingBelow, if_neg noOpen, if_neg noClose]

theorem openingBelow_congr {other : Tape} (same : ∀ index, other.byte index = tape.byte index)
    (index depth : Nat)
    : other.openingBelow index depth = tape.openingBelow index depth := by
  induction index generalizing depth with
  | zero => rfl
  | succ index ih => simp only [openingBelow, same, ih]

/-- A partner is below the index, by induction on the index. -/
theorem openingBelow_lt {index depth found : Nat}
    (scanned : tape.openingBelow index depth = some found)
    : found < index := by
  fun_induction openingBelow tape index depth with
  | case1 => cases scanned
  | case2 =>
      cases scanned
      omega
  | case3 index depth opens ih =>
      have later := ih scanned
      omega
  | case4 index depth noOpen closes ih =>
      have later := ih scanned
      omega
  | case5 index depth noOpen noClose ih =>
      have later := ih scanned
      omega

end Backwards

end TapeMachine.Tape
