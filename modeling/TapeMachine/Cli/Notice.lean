import TapeMachine.Text.Numeral

/-! What the command line tells its user beside the output of the program. -/

namespace TapeMachine.Cli

/-- How much is logged. -/
inductive Level where
  | off
  | error
  | warn
  | info
  | debug
  | trace
deriving DecidableEq, Inhabited

namespace Level

def rank : Level → Nat
  | .off => 0
  | .error => 1
  | .warn => 2
  | .info => 3
  | .debug => 4
  | .trace => 5

/-- Whether entries of a level are logged. -/
def shows (level entry : Level) : Bool :=
  entry.rank ≤ level.rank

def label : Level → String
  | .off => "OFF"
  | .error => "ERROR"
  | .warn => "WARN"
  | .info => "INFO"
  | .debug => "DEBUG"
  | .trace => "TRACE"

/-- The level with a name; entries up to warnings are logged if the name is none of them. -/
def ofText (text : String) : Level :=
  ([("off", off), ("error", error), ("warn", warn), ("info", info), ("debug", debug),
    ("trace", trace)].lookup text).getD .warn

end Level

/-- How a piece of text stands out on a terminal. -/
inductive Style where
  | red
  | green
  | blue
  | dimmed
deriving DecidableEq, Inhabited

def Style.code : Style → String
  | .red => "31"
  | .green => "32"
  | .blue => "34"
  | .dimmed => "2"

/-- A text in a style, if the terminal can show it. -/
def paint (colour : Bool) (style : Style) (text : String) : String :=
  if colour then "\x1b[" ++ style.code ++ "m" ++ text ++ "\x1b[0m" else text

/-- A message to the user. -/
inductive Notice where
  | log (level : Level) (message : String) (fields : List (String × String))
  | starting
  | blank
  | finished (steps : Nat)
  | picture (dump : String)
  | failure (message : String)
  /-- The last words of an invocation that cannot go on. -/
  | crash (message : String)
deriving DecidableEq, Inhabited

namespace Notice

def isLog : Notice → Bool
  | .log .. => true
  | _ => false

/-- The text of a message. The time that a run has taken is supplied by the one who measured
it.
-/
def render (colour : Bool) (elapsed : String) : Notice → String
  | .log level message fields =>
      level.label ++ " " ++ message
        ++ String.join (fields.map (fun field => " " ++ field.1 ++ "=" ++ field.2)) ++ "\n"
  | .starting => paint colour .blue "Starting run" ++ "\n"
  | .blank => "\n"
  | .finished steps =>
      paint colour .green "Finished run with" ++ " " ++ Text.natural steps ++ " steps in "
        ++ elapsed ++ "\n"
  | .picture dump => dump
  | .failure message => paint colour .red "Error" ++ ": " ++ message ++ "\n"
  | .crash message => message ++ "\n"

end Notice

/-- A log entry, if its level is logged. -/
def Level.log (level entry : Level) (message : String) (fields : List (String × String))
    : List Notice :=
  if level.shows entry then [.log entry message fields] else []

end TapeMachine.Cli
