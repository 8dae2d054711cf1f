import TapeMachine.Proofs.Conservation
import TapeMachine.Proofs.Numerals

/-! Words of decimal input as integers of any length. A word is a sign, digits and what stands
behind them. The digits alone decide whether the number is out of range, and then nothing behind
them is looked at; a number that is in range has to be the whole of the word.
-/

namespace TapeMachine

namespace Text

-----------------------------------------------------------------------------------------
-- Words taken apart
-----------------------------------------------------------------------------------------

/-- A word taken apart: whether a minus sign stands before it, the digits it goes on with, as many
as there are, and the text behind them.
-/
structure Numeral where
  negative : Bool
  digits : List Char
  rest : List Char
deriving DecidableEq, Inhabited

namespace Numeral

/-- The parts of a word behind its sign. -/
def unsigned (negative : Bool) (text : List Char) : Numeral where
  negative := negative
  digits := text.takeWhile Char.isDigit
  rest := text.dropWhile Char.isDigit

def ofWord : List Char → Numeral
  | '-' :: text => unsigned true text
  | '+' :: text => unsigned false text
  | text => unsigned false text

/-- The integer that the sign and the digits denote. -/
def value (numeral : Numeral) : Int :=
  if numeral.negative then -valueOf 10 numeral.digits else valueOf 10 numeral.digits

/-- The integer is a signed 64-bit number. -/
def InRange (numeral : Numeral) : Prop :=
  leastSigned ≤ numeral.value ∧ numeral.value ≤ greatestSigned

/-- There are digits, and nothing stands behind them. -/
def IsWhole (numeral : Numeral) : Prop :=
  numeral.digits ≠ [] ∧ numeral.rest = []

/-- The end of the range on the side of the sign. -/
def bound (numeral : Numeral) : Int :=
  if numeral.negative then leastSigned else greatestSigned

instance (numeral : Numeral) : Decidable numeral.InRange :=
  inferInstanceAs (Decidable (_ ∧ _))

instance (numeral : Numeral) : Decidable numeral.IsWhole :=
  inferInstanceAs (Decidable (_ ∧ _))

/-- An integer behind the end of its range comes as near to a cell value as that end. -/
theorem clamp_bound {numeral : Numeral} (outside : ¬ numeral.InRange)
    : min 255 (max 0 numeral.bound) = min 255 (max 0 numeral.value) := by
  unfold InRange leastSigned greatestSigned at outside
  unfold bound leastSigned greatestSigned
  split
  · rename_i negative
    have below : numeral.value ≤ 0 := by
      rw [value, if_pos negative]
      omega
    omega
  · rename_i positive
    have above : 0 ≤ numeral.value := by
      rw [value, if_neg positive]
      omega
    omega

end Numeral

-----------------------------------------------------------------------------------------
-- Digits
-----------------------------------------------------------------------------------------

/-- What is read of digits that amount to a number and stand before a text. -/
def Magnitude.ofRun (bound total : Nat) (rest : List Char) : Magnitude :=
  if bound < total then .tooLarge else if rest = [] then .exact total else .malformed

/-- Digits are read to their end unless they pass the bound on the way, by induction on the text.
All that comes behind a number only makes it greater, so it does not matter when the bound is
passed.
-/
theorem readDigits_eq {bound value : Nat} (small : value ≤ bound) (text : List Char)
    : readDigits bound value text
      = .ofRun bound
          (value * 10 ^ (text.takeWhile Char.isDigit).length
            + valueOf 10 (text.takeWhile Char.isDigit))
          (text.dropWhile Char.isDigit) := by
  induction text generalizing value with
  | nil => simp [readDigits, Magnitude.ofRun, valueOf_nil, Nat.not_lt.mpr small]
  | cons c text ih =>
      cases digit : c.isDigit with
      | false =>
          simp [readDigits, Magnitude.ofRun, valueOf_nil, Nat.not_lt.mpr small, digit]
      | true =>
          have total : value * 10 ^ (c :: text.takeWhile Char.isDigit).length
                + valueOf 10 (c :: text.takeWhile Char.isDigit)
              = (value * 10 + (c.toNat - '0'.toNat)) * 10 ^ (text.takeWhile Char.isDigit).length
                + valueOf 10 (text.takeWhile Char.isDigit) := by
            rw [valueOf_cons, digitValue_of_isDigit digit, List.length_cons, Nat.pow_succ',
              Nat.add_mul, Nat.mul_assoc, Nat.add_assoc]
          rw [readDigits, if_pos digit, List.takeWhile_cons_of_pos digit,
            List.dropWhile_cons_of_pos digit, total]
          by_cases within : value * 10 + (c.toNat - '0'.toNat) ≤ bound
          · simp only [if_pos within]
            exact ih within
          · have grows : value * 10 + (c.toNat - '0'.toNat)
                ≤ (value * 10 + (c.toNat - '0'.toNat))
                  * 10 ^ (text.takeWhile Char.isDigit).length :=
              Nat.le_mul_of_pos_right _ (Nat.pow_pos (by decide))
            simp only [if_neg within]
            rw [Magnitude.ofRun, if_pos (by omega)]

/-- Digits behind a sign: without any of them the text is malformed, even if nothing follows. -/
theorem readMagnitude_eq (bound : Nat) (text : List Char)
    : readMagnitude bound text
      = if bound < valueOf 10 (text.takeWhile Char.isDigit) then .tooLarge
        else if text.takeWhile Char.isDigit ≠ [] ∧ text.dropWhile Char.isDigit = [] then
          .exact (valueOf 10 (text.takeWhile Char.isDigit))
        else .malformed := by
  cases text with
  | nil => rfl
  | cons c text =>
      have whole := List.takeWhile_append_dropWhile (p := Char.isDigit) (l := c :: text)
      rw [readMagnitude, readDigits_eq (Nat.zero_le bound), Nat.zero_mul, Nat.zero_add,
        Magnitude.ofRun]
      by_cases ends : (c :: text).dropWhile Char.isDigit = []
      · have some : (c :: text).takeWhile Char.isDigit ≠ [] := by
          intro none
          rw [none, ends] at whole
          cases whole
        simp only [ends, some, ne_eq, not_false_eq_true, and_self]
      · simp only [ends, and_false]

-----------------------------------------------------------------------------------------
-- Signed numbers
-----------------------------------------------------------------------------------------

/-- What is read of a word: the end of its range if it is out of range, else its integer if nothing
is wrong with it.
-/
def Numeral.reading (numeral : Numeral) : Option Int :=
  if numeral.InRange then
    if numeral.IsWhole then some numeral.value else none
  else
    some numeral.bound

/-- What comes of a magnitude behind a sign. -/
def Magnitude.signed (negative : Bool) : Magnitude → Option Int
  | .exact n => some (if negative then -n else n)
  | .tooLarge => some (if negative then leastSigned else greatestSigned)
  | .malformed => none

/-- The greatest magnitude behind a sign. -/
def reach (negative : Bool) : Nat :=
  if negative then leastSigned.natAbs else greatestSigned.toNat

theorem Numeral.inRange_unsigned (negative : Bool) (text : List Char)
    : (unsigned negative text).InRange
      ↔ valueOf 10 (text.takeWhile Char.isDigit) ≤ reach negative := by
  cases negative <;>
    simp only [InRange, value, unsigned, reach, leastSigned, greatestSigned, Bool.false_eq_true,
      if_true, if_false] <;>
    omega

theorem signed_readMagnitude (negative : Bool) (text : List Char)
    : (readMagnitude (reach negative) text).signed negative
      = (Numeral.unsigned negative text).reading := by
  rw [readMagnitude_eq, Numeral.reading]
  by_cases within : valueOf 10 (text.takeWhile Char.isDigit) ≤ reach negative
  · rw [if_neg (Nat.not_lt.mpr within), if_pos ((Numeral.inRange_unsigned _ _).mpr within)]
    by_cases whole : (Numeral.unsigned negative text).IsWhole
    · have parts : text.takeWhile Char.isDigit ≠ [] ∧ text.dropWhile Char.isDigit = [] := whole
      rw [if_pos whole, if_pos parts]
      rfl
    · have parts : ¬ (text.takeWhile Char.isDigit ≠ [] ∧ text.dropWhile Char.isDigit = []) := whole
      rw [if_neg whole, if_neg parts]
      rfl
  · have outside := (Numeral.inRange_unsigned negative text).not.mpr within
    rw [if_pos (Nat.lt_of_not_le within), if_neg outside]
    rfl

section Sign

variable {word text : List Char}

theorem readSaturating_of_unsigned
    (behind : readInteger leastSigned greatestSigned word = readUnsigned greatestSigned text)
    : readSaturating word = (Numeral.unsigned false text).reading := by
  have greatest : reach false = greatestSigned.toNat := rfl
  rw [← signed_readMagnitude, readSaturating, behind, readUnsigned, greatest]
  cases readMagnitude greatestSigned.toNat text <;> rfl

theorem readSaturating_of_negated
    (behind : readInteger leastSigned greatestSigned word = readNegated leastSigned text)
    : readSaturating word = (Numeral.unsigned true text).reading := by
  have least : reach true = leastSigned.natAbs := rfl
  rw [← signed_readMagnitude, readSaturating, behind, readNegated, least]
  cases readMagnitude leastSigned.natAbs text <;> rfl

end Sign

/-- A word is read as its parts say, by cases on its sign. -/
theorem readSaturating_eq (word : List Char)
    : readSaturating word = (Numeral.ofWord word).reading := by
  unfold Numeral.ofWord
  split
  · exact readSaturating_of_negated rfl
  · exact readSaturating_of_unsigned rfl
  · rename_i noMinus noPlus
    cases word with
    | nil => rfl
    | cons c text =>
        have minus : ¬ (c = '-' ∧ leastSigned < 0) := fun sign => noMinus text (sign.1 ▸ rfl)
        have plus : c ≠ '+' := fun sign => noPlus text (sign ▸ rfl)
        apply readSaturating_of_unsigned
        rw [readInteger, if_neg minus, if_neg plus]

end Text

-----------------------------------------------------------------------------------------
-- Reading a word
-----------------------------------------------------------------------------------------

namespace Input

open Device (IoError Reader)
open Text (Numeral)

/-- Decimal input has a word to read next, and is left without it: the word is pending, or it is the
first one of the next line that has any.
-/
inductive Offers : Input → List Char → Input → Prop
  | pending (reader : Reader) (word : List Char) (later : List (List Char))
    : Offers (.decimal reader (word :: later)) word (.decimal reader later)
  | line {reader behind : Reader} {word : List Char} {later : List (List Char)}
    (found : readWord reader = (.ok (some word), later, behind))
    : Offers (.decimal reader []) word (.decimal behind later)

theorem Offers.read {input later : Input} {word : List Char} (offers : input.Offers word later)
    : input.read = (wordValue word, later) := by
  cases offers with
  | pending => rfl
  | line found => rw [Input.read, found]

theorem wordValue_of_reading {word : List Char} {value : Int}
    (reading : (Numeral.ofWord word).reading = some value)
    : wordValue word = .ok (some value) := by
  rw [wordValue, Text.readSaturating_eq, reading]

theorem wordValue_of_no_reading {word : List Char} (reading : (Numeral.ofWord word).reading = none)
    : wordValue word = .error (.badValue (String.ofList word)) := by
  rw [wordValue, Text.readSaturating_eq, reading]

/-- A word of decimal input is read as the integer that its sign and its digits denote, however
many there are. Out of the range of signed 64-bit numbers it counts as the end of the range,
whatever stands behind the digits; in range it has to be digits only, or it is invalid data. So an
instruction that reads an integer stores the cell value that is nearest to it.
-/
theorem decimal_words_are_integers {input later : Input} {word : List Char} {numeral : Numeral}
    (offers : input.Offers word later) (parts : Numeral.ofWord word = numeral)
    : (¬ numeral.InRange
        → input.read
          = (.ok (some (if numeral.negative then Text.leastSigned else Text.greatestSigned)),
              later))
      ∧ (numeral.InRange → numeral.IsWhole → input.read = (.ok (some numeral.value), later))
      ∧ (numeral.InRange → ¬ numeral.IsWhole
        → ∃ error, input.read = (.error error, later) ∧ error.kind = .invalidData)
      ∧ (numeral.IsWhole
        → ∀ machine : Machine,
            machine.input = input
            → machine.reads = true
            → ∃ cell : Nat,
                machine.dataPointer = cell
                ∧ machine.step.1 = .ok ()
                ∧ ((machine.step.2.tape.byte cell).toNat : Int)
                  = min 255 (max 0 numeral.value)) := by
  subst parts
  have beyond (outside : ¬ (Numeral.ofWord word).InRange)
      : input.read = (.ok (some (Numeral.ofWord word).bound), later) := by
    rw [offers.read, wordValue_of_reading (if_neg outside)]
  have exactly (inside : (Numeral.ofWord word).InRange) (whole : (Numeral.ofWord word).IsWhole)
      : input.read = (.ok (some (Numeral.ofWord word).value), later) := by
    have reading : (Numeral.ofWord word).reading = some (Numeral.ofWord word).value := by
      rw [Numeral.reading, if_pos inside, if_pos whole]
    rw [offers.read, wordValue_of_reading reading]
  refine ⟨beyond, exactly, ?_, ?_⟩
  · intro inside broken
    have reading : (Numeral.ofWord word).reading = none := by
      rw [Numeral.reading, if_pos inside, if_neg broken]
    have failed : input.read = (.error (.badValue (String.ofList word)), later) := by
      rw [offers.read, wordValue_of_no_reading reading]
    exact ⟨_, failed, rfl⟩
  · rintro whole machine rfl reads
    by_cases inside : (Numeral.ofWord word).InRange
    · exact Machine.byte_step_of_read reads (congrArg Prod.fst (exactly inside whole))
    · rw [← Numeral.clamp_bound inside]
      exact Machine.byte_step_of_read reads (congrArg Prod.fst (beyond inside))

/-- A number that is one below the range, with a letter behind it, and a number with many zeros
before it that is read into a cell.
-/
theorem decimal_words_are_integers_long
    : (decimal [] ["-9223372036854775809x".toList, []]).read
        = (.ok (some Text.leastSigned), decimal [] [[]])
      ∧ ∃ machine : Machine,
          machine.input = decimal [] ["+00000000000000000000000000000254".toList]
          ∧ machine.dataPointer = 1
          ∧ machine.step.1 = .ok ()
          ∧ (machine.step.2.tape.byte 1).toNat = 254 := by
  constructor
  · exact (decimal_words_are_integers (.pending [] "-9223372036854775809x".toList [[]]) rfl).1
      (by decide +kernel)
  · let machine : Machine :=
      { Machine.create 0 (decimal [] ["+00000000000000000000000000000254".toList])
          (.scripted (.ofReplies [] [])) with
        tape := ⟨#[.data Opcode.read.byte, .data 7]⟩
        dataPointer := 1 }
    have reads : machine.reads = true := by decide +kernel
    have value : (Numeral.ofWord "+00000000000000000000000000000254".toList).value = 254 := by
      decide +kernel
    obtain ⟨cell, here, done, stored⟩ := (decimal_words_are_integers
      (.pending [] "+00000000000000000000000000000254".toList []) rfl).2.2.2 (by decide +kernel)
      machine rfl reads
    obtain rfl : cell = 1 := (Int.ofNat.inj here).symm
    rw [value] at stored
    exact ⟨machine, rfl, rfl, done, Int.ofNat.inj stored⟩

end Input

end TapeMachine
