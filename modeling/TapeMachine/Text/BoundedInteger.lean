/-! Decimal integers read from text into a bounded range. The characters are taken from left
to right: the first one that is no digit makes the text malformed, unless the digits before
it have already left the range.
-/

namespace TapeMachine.Text

/-- What a run of digits amounts to under an upper bound. -/
inductive Magnitude where
  | exact (n : Nat)
  | tooLarge
  | malformed
deriving DecidableEq

/-- Reads digits behind those that amount to the given value. -/
def readDigits (bound : Nat) (value : Nat) : List Char → Magnitude
  | [] => .exact value
  | c :: rest =>
      if c.isDigit then
        let next := value * 10 + (c.toNat - '0'.toNat)
        if next ≤ bound then readDigits bound next rest else .tooLarge
      else
        .malformed

/-- A run of digits has at least one character. -/
def readMagnitude (bound : Nat) : List Char → Magnitude
  | [] => .malformed
  | c :: rest => readDigits bound 0 (c :: rest)

/-- The outcome of reading an integer. -/
inductive IntegerReading where
  | value (n : Int)
  | above
  | below
  | malformed
deriving DecidableEq

/-- Reads digits as a number that is not negative. -/
def readUnsigned (greatest : Int) (text : List Char) : IntegerReading :=
  match readMagnitude greatest.toNat text with
  | .exact n => .value n
  | .tooLarge => .above
  | .malformed => .malformed

/-- Reads digits as a number that is not positive. -/
def readNegated (least : Int) (text : List Char) : IntegerReading :=
  match readMagnitude least.natAbs text with
  | .exact n => .value (-n)
  | .tooLarge => .below
  | .malformed => .malformed

/-- Reads an optional sign and digits into the range from `least` to `greatest`. A minus sign
is only known to ranges that hold negative numbers.
-/
def readInteger (least greatest : Int) (text : List Char) : IntegerReading :=
  match text with
  | [] => .malformed
  | c :: rest =>
      if c = '-' ∧ least < 0 then readNegated least rest
      else if c = '+' then readUnsigned greatest rest
      else readUnsigned greatest text

/-- The range of signed 64-bit numbers. -/
def leastSigned : Int := -9223372036854775808

def greatestSigned : Int := 9223372036854775807

/-- The greatest unsigned 64-bit number. -/
def greatestUnsigned : Int := 18446744073709551615

/-- Reads a signed 64-bit number; one outside the range counts as the end of the range that
it passed.
-/
def readSaturating (text : List Char) : Option Int :=
  match readInteger leastSigned greatestSigned text with
  | .value n => some n
  | .above => some greatestSigned
  | .below => some leastSigned
  | .malformed => none

/-- Reads a number that has to lie in the given range. -/
def readWithin (least greatest : Int) (text : List Char) : Option Int :=
  match readInteger least greatest text with
  | .value n => some n
  | _ => none

end TapeMachine.Text
