import TapeMachine.Machine
import TapeMachine.Text.Numeral

/-! A picture of the machine as text: both pointers, and the tape in rows of hexadecimal values,
where zero rows that follow a zero row are folded into one line.
-/

namespace TapeMachine

namespace Dump

def rowWidth : Nat := 16

/-- Cuts values into rows; only the last one may be shorter than the others. -/
def rows (values : List UInt8) : List (List UInt8) :=
  match values with
  | [] => []
  | value :: rest =>
      (value :: rest.take (rowWidth - 1)) :: rows (rest.drop (rowWidth - 1))
termination_by values.length
decreasing_by
  simp only [List.length_drop, List.length_cons]
  omega

/-- A line of the picture of a tape. -/
inductive Line where
  | row (address : Nat) (values : List UInt8)
  | fold
deriving DecidableEq, Inhabited

def isZero (row : List UInt8) : Bool :=
  row.all (fun value => value == 0)

/-- The lines for rows from an address on. `afterZero` tells that the row before them was zero,
and `folded` that it was not shown.
-/
def linesFrom (address : Nat) (afterZero folded : Bool) : List (List UInt8) → List Line
  | [] => []
  | row :: rest =>
      if isZero row && afterZero then
        if folded then
          linesFrom (address + rowWidth) true true rest
        else
          .fold :: linesFrom (address + rowWidth) true true rest
      else
        .row address row :: linesFrom (address + rowWidth) (isZero row) false rest

/-- The lines that show a whole tape. -/
def lines (values : List UInt8) : List Line :=
  linesFrom 0 false false (rows values)

def Line.render : Line → String
  | .row address values =>
      Text.hexadecimal 6 address ++ ":"
        ++ String.join (values.map (fun value => " " ++ Text.hexByte value)) ++ "\n"
  | .fold => "*\n"

end Dump

/-- The picture of a machine. -/
def Machine.dump (machine : Machine) : String :=
  "PC: " ++ Text.integer machine.programCounter ++ "\n"
    ++ "Data address: " ++ Text.integer machine.dataPointer ++ "\n"
    ++ String.join ((Dump.lines machine.tape.bytes).map Dump.Line.render)

end TapeMachine
