import TapeMachine.Input
import TapeMachine.Tape
import TapeMachine.Text.BoundedInteger

/-! What can be asked for on the command line. -/

namespace TapeMachine.Cli

/-- How the standard input is turned into values. -/
inductive InputMode where
  | bytes
  | decimal
deriving DecidableEq, Inhabited

structure Options where
  /-- The sample program runs if there is no file. -/
  file : Option String
  tapeSize : Nat
  loadAddress : Int
  startAddress : Int
  inputMode : InputMode
  eofPolicy : EofPolicy
  maxSteps : Option Nat
  dump : Bool
  tokens : Bool
deriving DecidableEq, Inhabited

/-- The options that have been given so far, each of them at most once. -/
structure Given where
  file : Option String := none
  tapeSize : Option Nat := none
  loadAddress : Option Int := none
  startAddress : Option Int := none
  inputMode : Option InputMode := none
  eofPolicy : Option EofPolicy := none
  maxSteps : Option Nat := none
  dump : Bool := false
  tokens : Bool := false
deriving DecidableEq, Inhabited

/-- Fills in what has not been given. A run starts where the program was loaded. -/
def Given.options (given : Given) : Options where
  file := given.file
  tapeSize := given.tapeSize.getD Tape.minimumSize
  loadAddress := given.loadAddress.getD 0
  startAddress := given.startAddress.getD (given.loadAddress.getD 0)
  inputMode := given.inputMode.getD .bytes
  eofPolicy := given.eofPolicy.getD .zero
  maxSteps := given.maxSteps
  dump := given.dump
  tokens := given.tokens

/-- Options that take a value. -/
inductive Setting where
  | tapeSize
  | loadAddress
  | startAddress
  | inputMode
  | eofPolicy
  | maxSteps
deriving DecidableEq, Inhabited

/-- How much the help tells. -/
inductive HelpForm where
  | short
  | long
deriving DecidableEq, Inhabited

/-- Options that take none. -/
inductive Flag where
  | dump
  | tokens
  | help (form : HelpForm)
  | version
deriving DecidableEq, Inhabited

inductive Switch where
  | setting (setting : Setting)
  | flag (flag : Flag)
deriving DecidableEq, Inhabited

/-- The option with a long name, which follows two dashes. -/
def Switch.ofLong? (name : String) : Option Switch :=
  [("tape-size", .setting .tapeSize), ("load-address", .setting .loadAddress),
    ("start-address", .setting .startAddress), ("input-mode", .setting .inputMode),
    ("eof", .setting .eofPolicy), ("max-steps", .setting .maxSteps),
    ("dump", .flag .dump), ("tokens", .flag .tokens), ("help", .flag (.help .long)),
    ("version", .flag .version)].lookup name

/-- The option with a name of one letter. -/
def Switch.ofShort? (name : Char) : Option Switch :=
  [('t', .setting .tapeSize), ('l', .setting .loadAddress), ('s', .setting .startAddress),
    ('i', .setting .inputMode), ('e', .setting .eofPolicy), ('m', .setting .maxSteps),
    ('d', .flag .dump), ('h', .flag (.help .short)), ('V', .flag .version)].lookup name

def InputMode.ofText? (text : String) : Option InputMode :=
  [("bytes", .bytes), ("decimal", .decimal)].lookup text

/-- The end-of-input policy with a name. -/
def eofPolicyOfText? (text : String) : Option EofPolicy :=
  [("zero", .zero), ("unchanged", .unchanged), ("fault", .fault)].lookup text

/-- An unsigned 64-bit number. -/
def countOfText? (text : String) : Option Nat :=
  (Text.readWithin 0 Text.greatestUnsigned text.toList).map Int.toNat

/-- A signed 64-bit number. -/
def addressOfText? (text : String) : Option Int :=
  Text.readWithin Text.leastSigned Text.greatestSigned text.toList

/-- The value of an option that was not given before. -/
def once {α : Type} (before : Option α) (value : Option α) : Option (Option α) :=
  match before, value with
  | none, some value => some (some value)
  | _, _ => none

/-- Gives a value to an option; none if it has one already or if the value does not fit. -/
def Given.set (given : Given) (setting : Setting) (text : String) : Option Given :=
  match setting with
  | .tapeSize =>
      (once given.tapeSize (countOfText? text)).map (fun value => { given with tapeSize := value })
  | .loadAddress =>
      (once given.loadAddress (addressOfText? text)).map
        (fun value => { given with loadAddress := value })
  | .startAddress =>
      (once given.startAddress (addressOfText? text)).map
        (fun value => { given with startAddress := value })
  | .inputMode =>
      (once given.inputMode (InputMode.ofText? text)).map
        (fun value => { given with inputMode := value })
  | .eofPolicy =>
      (once given.eofPolicy (eofPolicyOfText? text)).map
        (fun value => { given with eofPolicy := value })
  | .maxSteps =>
      (once given.maxSteps (countOfText? text)).map (fun value => { given with maxSteps := value })

/-- Names the file to run, which can be done once. -/
def Given.setFile (given : Given) (path : String) : Option Given :=
  (once given.file (some path)).map (fun file => { given with file := file })

end TapeMachine.Cli
