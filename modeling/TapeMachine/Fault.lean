import TapeMachine.Device.IoError
import TapeMachine.Tape

/-! The conditions that stop a load, a step or a run. -/

namespace TapeMachine

inductive Fault where
  /-- The data pointer or another cell address is off the tape. -/
  | memory (side : Side)
  /-- The program counter, or the partner that a bracket looks for, is off the tape. -/
  | program (side : Side)
  /-- The cell to execute holds no instruction. -/
  | invalidOperation (byte : UInt8)
  /-- A value was read after the input had ended. -/
  | inputExhausted
  /-- The input or the output failed. -/
  | io (error : Device.IoError)
deriving DecidableEq, Inhabited

def Fault.message : Fault → String
  | .memory .below => "MemoryPointerUnderflow: data pointer moved below 0"
  | .memory .above => "MemoryPointerOverflow: data pointer moved past the end of the tape"
  | .program .below => "ProgramPointerUnderflow: no matching `[` before the start of the tape"
  | .program .above => "ProgramPointerOverflow: program counter moved past the end of the tape"
  | .invalidOperation byte =>
      "InvalidOperation: byte 0x" ++ Text.hexByte byte ++ " is not an instruction"
  | .inputExhausted => "InputExhausted: `,` executed after the input ended"
  | .io _ => "IO Error"

end TapeMachine
