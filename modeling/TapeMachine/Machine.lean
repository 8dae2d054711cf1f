import TapeMachine.Fault
import TapeMachine.Input
import TapeMachine.Sink

/-! The machine: one tape for program and data, two pointers into it, and the devices it is
connected to. The pointers are integers, so that a pointer that has left the tape can be seen.
-/

namespace TapeMachine

structure Machine where
  tape : Tape
  dataPointer : Int
  programCounter : Int
  running : Bool
  /-- The steps taken since the last run started. -/
  steps : Nat
  eofPolicy : EofPolicy
  input : Input
  output : Sink
deriving Inhabited

namespace Machine

/-- A machine with a blank tape, of a size for which there can be one. -/
def create (requested : Nat) (input : Input) (output : Sink) : Machine where
  tape := .blank requested
  dataPointer := 0
  programCounter := 0
  running := false
  steps := 0
  eofPolicy := .zero
  input := input
  output := output

/-- A machine with a blank tape, if there can be one of the requested size. -/
def create? (requested : Nat) (input : Input) (output : Sink) : Option Machine :=
  if requested ≤ Tape.maximumSize then some (create requested input output) else none

def withEofPolicy (machine : Machine) (policy : EofPolicy) : Machine :=
  { machine with eofPolicy := policy }

/-- Clears the tape and the registers. The devices and the policy stay as they are. -/
def reset (machine : Machine) : Machine :=
  { machine with
    tape := .zeros machine.tape.size
    dataPointer := 0
    programCounter := 0
    running := false
    steps := 0 }

/-- The value of the cell at an address. -/
def peek (machine : Machine) (address : Int) : Except Fault UInt8 :=
  match machine.tape.locate address with
  | .ok index => .ok (machine.tape.byte index)
  | .error side => .error (.memory side)

/-- Stores a value in the cell at an address. -/
def poke (machine : Machine) (address : Int) (value : UInt8) : Except Fault Unit × Machine :=
  match machine.tape.locate address with
  | .ok index => (.ok (), { machine with tape := machine.tape.store index value })
  | .error side => (.error (.memory side), machine)

/-- Whether the cell at an address ends the program that reaches it. -/
def isEnd (machine : Machine) (address : Int) : Bool :=
  machine.tape.isEnd address

end Machine

end TapeMachine
