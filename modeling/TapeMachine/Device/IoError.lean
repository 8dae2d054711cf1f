import TapeMachine.Text.Quoted

/-! Failures of the devices that a machine reads from and writes to. -/

namespace TapeMachine.Device

inductive ErrorKind where
  | interrupted
  | brokenPipe
  | unexpectedEof
  | wouldBlock
  | permissionDenied
  | invalidData
  | writeZero
  | storageFull
  | other
deriving DecidableEq, Inhabited

/-- Why a read, a write or a flush failed. -/
inductive IoError where
  /-- The device itself reported a failure. -/
  | device (kind : ErrorKind) (message : String)
  /-- A word of decimal input is no number. -/
  | badValue (word : String)
  /-- A line of decimal input is not well-formed UTF-8. -/
  | notUtf8
  /-- The device took nothing of what was written. -/
  | nothingWritten
  /-- The device has no room for what was written. -/
  | noSpace
deriving DecidableEq, Inhabited

namespace IoError

def kind : IoError → ErrorKind
  | .device kind _ => kind
  | .badValue _ => .invalidData
  | .notUtf8 => .invalidData
  | .nothingWritten => .writeZero
  | .noSpace => .storageFull

def message : IoError → String
  | .device _ message => message
  | .badValue word => "bad input value " ++ Text.quoted word ++ ": invalid digit found in string"
  | .notUtf8 => "stream did not contain valid UTF-8"
  | .nothingWritten => "failed to write whole buffer"
  | .noSpace => "No space left on device (os error 28)"

/-- An interrupted operation is tried again; every other failure is reported. -/
def isInterrupted (error : IoError) : Bool :=
  error.kind = .interrupted

end IoError

end TapeMachine.Device
