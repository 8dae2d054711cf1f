/-! The eight instructions of the machine. Each one is a character of the source text and a
byte on the tape, and the two codes agree.
-/

namespace TapeMachine

/-- An instruction of the machine. -/
inductive Opcode where
  | moveRight
  | moveLeft
  | increment
  | decrement
  | write
  | read
  | loopStart
  | loopEnd
deriving DecidableEq, Inhabited

namespace Opcode

/-- The instructions in the order in which they are listed. -/
def all : List Opcode :=
  [.moveRight, .moveLeft, .increment, .decrement, .write, .read, .loopStart, .loopEnd]

/-- The character that stands for an instruction in source text. -/
def symbol : Opcode → Char
  | .moveRight => '>'
  | .moveLeft => '<'
  | .increment => '+'
  | .decrement => '-'
  | .write => '.'
  | .read => ','
  | .loopStart => '['
  | .loopEnd => ']'

/-- The value of a tape cell that holds an instruction. -/
def byte : Opcode → UInt8
  | .moveRight => 0x3E
  | .moveLeft => 0x3C
  | .increment => 0x2B
  | .decrement => 0x2D
  | .write => 0x2E
  | .read => 0x2C
  | .loopStart => 0x5B
  | .loopEnd => 0x5D

/-- The instruction that a character stands for, if it stands for one. -/
def ofChar? (c : Char) : Option Opcode :=
  all.find? (fun op => op.symbol == c)

/-- The instruction that a cell value encodes, if it encodes one. -/
def ofByte? (b : UInt8) : Option Opcode :=
  all.find? (fun op => op.byte == b)

theorem ofChar?_symbol (op : Opcode)
    : ofChar? op.symbol = some op := by
  cases op <;> rfl

theorem ofByte?_byte (op : Opcode)
    : ofByte? op.byte = some op := by
  cases op <;> rfl

/-- The two codes of an instruction agree. -/
theorem byte_eq_symbol (op : Opcode)
    : op.byte = op.symbol.toUInt8 := by
  cases op <;> rfl

theorem symbol_of_ofChar? {c : Char} {op : Opcode} (h : ofChar? c = some op)
    : op.symbol = c := by
  simpa using List.find?_some h

end Opcode

end TapeMachine
