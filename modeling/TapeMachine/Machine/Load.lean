import TapeMachine.Machine
import TapeMachine.Source.Lexer

/-! Putting programs on the tape. -/

namespace TapeMachine.Machine

/-- Writes the instructions of a source text from an address on and a mark behind them, and
reports the text that was skipped. The whole range is checked before anything is written.
-/
def load (machine : Machine) (source : String) (address : Int)
    : Except Fault (List Source.Diagnostic) × Machine :=
  let program := Source.Program.ofString source
  match machine.tape.locate address with
  | .error side => (.error (.memory side), machine)
  | .ok start =>
      match machine.tape.locate (address + program.opcodes.length) with
      | .error side => (.error (.memory side), machine)
      | .ok finish =>
          (.ok program.diagnostics,
            { machine with
              tape := (machine.tape.storeAll start (program.opcodes.map Opcode.byte)).mark finish })

end TapeMachine.Machine
