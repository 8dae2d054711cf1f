import TapeMachine.Opcode
import TapeMachine.Tape

/-! Partners of the loop brackets, found by looking at the values that the tape holds right
now. Marks show their byte like any other cell and so are no brackets.
-/

namespace TapeMachine.Tape

/-- Looks through so many cells from an index on for the bracket that closes a loop, behind
as many loops that were opened in between as `depth` says.
-/
def closingFrom (tape : Tape) : (count index depth : Nat) → Option Nat
  | 0, _, _ => none
  | count + 1, index, depth =>
      if tape.byte index = Opcode.loopEnd.byte then
        match depth with
        | 0 => some index
        | depth + 1 => tape.closingFrom count (index + 1) depth
      else if tape.byte index = Opcode.loopStart.byte then
        tape.closingFrom count (index + 1) (depth + 1)
      else
        tape.closingFrom count (index + 1) depth

/-- Looks through the cells below an index for the bracket that opens a loop, behind as many
loops that were closed in between as `depth` says.
-/
def openingBelow (tape : Tape) : (index depth : Nat) → Option Nat
  | 0, _ => none
  | index + 1, depth =>
      if tape.byte index = Opcode.loopStart.byte then
        match depth with
        | 0 => some index
        | depth + 1 => tape.openingBelow index depth
      else if tape.byte index = Opcode.loopEnd.byte then
        tape.openingBelow index (depth + 1)
      else
        tape.openingBelow index depth

/-- The end of the loop that starts at an index. It is of no use as the last cell of the tape,
since there would be no cell to go on with.
-/
def matchingEnd (tape : Tape) (start : Nat) : Option Nat :=
  match tape.closingFrom (tape.size - (start + 1)) (start + 1) 0 with
  | some index => if index + 1 < tape.size then some index else none
  | none => none

/-- The start of the loop that ends at an index. -/
def matchingStart (tape : Tape) (finish : Nat) : Option Nat :=
  tape.openingBelow finish 0

end TapeMachine.Tape
