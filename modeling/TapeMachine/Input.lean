import TapeMachine.Device.Reader
import TapeMachine.Text.BoundedInteger
import TapeMachine.Text.Space
import TapeMachine.Text.Utf8

/-! Where a machine gets its input values from: the bytes of a device, the decimal numbers
written on it, or values given beforehand.
-/

namespace TapeMachine

open Device (IoError Reader)

/-- What reading does to the current cell once the input has ended. -/
inductive EofPolicy where
  | zero
  | unchanged
  | fault
deriving DecidableEq, Inhabited

/-- The value of a cell that is nearest to an input value. -/
def clampToCell (value : Int) : UInt8 :=
  UInt8.ofNat (min value.toNat 255)

/-- A source of input values. -/
inductive Input where
  /-- Every byte is a value. -/
  | bytes (reader : Reader)
  /-- Numbers between white space; the pending words are the rest of the last line. -/
  | decimal (reader : Reader) (pending : List (List Char))
  /-- The outcomes of the coming reads. -/
  | values (outcomes : List (Except IoError (Option Int)))
deriving Inhabited

namespace Input

/-- Reads lines up to the first one that has a word or cannot be decoded. Gives that word, the
words behind it in its line and what is left of the device; no word at an end of the stream.
-/
def readWord (reader : Reader)
    : Except IoError (Option (List Char)) × List (List Char) × Reader :=
  match _line : reader.readLine with
  | (.error error, later) => (.error error, [], later)
  | (.ok line, later) =>
      if _nonempty : line = [] then
        (.ok none, [], later)
      else
        match Text.decode? line with
        | none => (.error .notUtf8, [], later)
        | some text =>
            match Text.words text.toList with
            | [] => readWord later
            | word :: pending => (.ok (some word), pending, later)
termination_by reader.weight
decreasing_by exact Device.Reader.weight_readLine_lt _line _nonempty

/-- The value of a word of decimal input. -/
def wordValue (word : List Char) : Except IoError (Option Int) :=
  match Text.readSaturating word with
  | some value => .ok (some value)
  | none => .error (.badValue (String.ofList word))

/-- The next value; none at an end of the input. A word that is no number is used up. -/
def read : Input → Except IoError (Option Int) × Input
  | .bytes reader =>
      match reader.readByte with
      | (.ok (some b), later) => (.ok (some b.toNat), .bytes later)
      | (.ok none, later) => (.ok none, .bytes later)
      | (.error error, later) => (.error error, .bytes later)
  | .decimal reader (word :: pending) => (wordValue word, .decimal reader pending)
  | .decimal reader [] =>
      match readWord reader with
      | (.ok (some word), pending, later) => (wordValue word, .decimal later pending)
      | (.ok none, pending, later) => (.ok none, .decimal later pending)
      | (.error error, pending, later) => (.error error, .decimal later pending)
  | .values [] => (.ok none, .values [])
  | .values (outcome :: outcomes) => (outcome, .values outcomes)

/-- Whether reading a word would come to the end of what is known of the device. -/
def isWordless (reader : Reader) : Bool :=
  if reader.isUnended then
    true
  else
    match _line : reader.readLine with
    | (.error _, _) => false
    | (.ok line, later) =>
        if _nonempty : line = [] then
          false
        else
          match Text.decode? line with
          | none => false
          | some text => (Text.words text.toList).isEmpty && isWordless later
termination_by reader.weight
decreasing_by exact Device.Reader.weight_readLine_lt _line _nonempty

/-- Whether the next read would come to the end of what is known of the device, so that its outcome
depends on what the device will still find.
-/
def isStarved : Input → Bool
  | .bytes reader => reader.isDry
  | .decimal reader [] => isWordless reader
  | .decimal _ (_ :: _) => false
  | .values _ => false

/-- The input when more is known of its device. -/
def supply (more : Reader) : Input → Input
  | .bytes reader => .bytes (reader ++ more)
  | .decimal reader pending => .decimal (reader ++ more) pending
  | .values outcomes => .values outcomes

/-- The outcomes of so many reads, and the input after them. -/
def readMany : Nat → Input → List (Except IoError (Option Int)) × Input
  | 0, input => ([], input)
  | n + 1, input =>
      let (outcome, later) := input.read
      let (outcomes, finished) := readMany n later
      (outcome :: outcomes, finished)

end Input

end TapeMachine
