import TapeMachine.Machine
import TapeMachine.Tape.Brackets

/-! One step of the machine: the cell under the program counter is fetched and executed. A step
that faults leaves the machine as the fault found it.
-/

namespace TapeMachine.Machine

/-- What the cell under the program counter asks for. -/
inductive Fetched where
  | halt
  | instruction (index : Nat) (op : Opcode)
deriving DecidableEq, Inhabited

def fetch (machine : Machine) : Except Fault Fetched :=
  match machine.tape.locate machine.programCounter with
  | .error side => .error (.program side)
  | .ok index =>
      match machine.tape.cell index with
      | .endMark => .ok .halt
      | .data value =>
          match Opcode.ofByte? value with
          | some op => .ok (.instruction index op)
          | none => .error (.invalidOperation value)

/-- Moves the data pointer if the instruction does; it is checked only afterwards. -/
def movePointer (machine : Machine) : Opcode → Machine
  | .moveRight => { machine with dataPointer := machine.dataPointer + 1 }
  | .moveLeft => { machine with dataPointer := machine.dataPointer - 1 }
  | _ => machine

/-- Stores a value in a cell. -/
def store (machine : Machine) (index : Nat) (value : UInt8) : Machine :=
  { machine with tape := machine.tape.store index value }

/-- The next value up, if there is one. -/
def raise (value : UInt8) : UInt8 :=
  if value = 255 then 255 else value + 1

/-- The next value down, if there is one. -/
def lower (value : UInt8) : UInt8 :=
  if value = 0 then 0 else value - 1

/-- Writes the value of a cell to the output. -/
def writeCell (machine : Machine) (cell : Nat) : Except Fault Unit × Machine :=
  match machine.output.write (machine.tape.byte cell) with
  | (.ok (), output) => (.ok (), { machine with output := output })
  | (.error error, output) => (.error (.io error), { machine with output := output })

/-- Reads a value from the input into a cell. -/
def readCell (machine : Machine) (cell : Nat) : Except Fault Unit × Machine :=
  match machine.input.read with
  | (.ok (some value), input) =>
      (.ok (), { machine with
        input := input
        tape := machine.tape.store cell (clampToCell value) })
  | (.ok none, input) =>
      match machine.eofPolicy with
      | .zero =>
          (.ok (), { machine with
            input := input
            tape := machine.tape.store cell 0 })
      | .unchanged => (.ok (), { machine with input := input })
      | .fault => (.error .inputExhausted, { machine with input := input })
  | (.error error, input) => (.error (.io error), { machine with input := input })

/-- Goes to the end of the loop that starts at an index, if the cell is zero. -/
def enterLoop (machine : Machine) (index cell : Nat) : Except Fault Unit × Machine :=
  if machine.tape.byte cell = 0 then
    match machine.tape.matchingEnd index with
    | some partner => (.ok (), { machine with programCounter := partner })
    | none => (.error (.program .above), machine)
  else
    (.ok (), machine)

/-- Goes back to the start of the loop that ends at an index, unless the cell is zero. -/
def repeatLoop (machine : Machine) (index cell : Nat) : Except Fault Unit × Machine :=
  if machine.tape.byte cell = 0 then
    (.ok (), machine)
  else
    match machine.tape.matchingStart index with
    | some partner => (.ok (), { machine with programCounter := partner })
    | none => (.error (.program .below), machine)

/-- Executes the instruction at an index on the current cell. -/
def act (machine : Machine) (index cell : Nat) : Opcode → Except Fault Unit × Machine
  | .moveRight => (.ok (), machine)
  | .moveLeft => (.ok (), machine)
  | .increment => (.ok (), machine.store cell (raise (machine.tape.byte cell)))
  | .decrement => (.ok (), machine.store cell (lower (machine.tape.byte cell)))
  | .write => machine.writeCell cell
  | .read => machine.readCell cell
  | .loopStart => machine.enterLoop index cell
  | .loopEnd => machine.repeatLoop index cell

/-- Executes the instruction at an index. Every instruction needs the data pointer to be on the
tape.
-/
def execute (machine : Machine) (index : Nat) (op : Opcode) : Except Fault Unit × Machine :=
  let moved := machine.movePointer op
  match moved.tape.locate moved.dataPointer with
  | .error side => (.error (.memory side), moved)
  | .ok cell => moved.act index cell op

/-- Stops the machine. -/
def halt (machine : Machine) : Except Fault Unit × Machine :=
  match machine.output.flush with
  | (.ok (), output) => (.ok (), { machine with running := false, output := output })
  | (.error error, output) =>
      (.error (.io error), { machine with running := false, output := output })

/-- Counts a step and goes on to the next cell. A jump has gone to a bracket, so this passes
that bracket.
-/
def advance (machine : Machine) : Machine :=
  { machine with
    programCounter := machine.programCounter + 1
    steps := machine.steps + 1 }

/-- Does what was fetched. -/
def perform (machine : Machine) : Fetched → Except Fault Unit × Machine
  | .halt => machine.halt
  | .instruction index op => machine.execute index op

/-- Takes one step. -/
def step (machine : Machine) : Except Fault Unit × Machine :=
  match machine.fetch with
  | .error fault => (.error fault, machine)
  | .ok fetched =>
      match machine.perform fetched with
      | (.ok (), after) => (.ok (), after.advance)
      | (.error fault, after) => (.error fault, after)

end TapeMachine.Machine
