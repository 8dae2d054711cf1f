import TapeMachine.Cli.Options

/-! Reading the arguments of the command line from left to right. The first argument that is
wrong, or that asks for the help or the version, decides.
-/

namespace TapeMachine.Cli

/-- What a command line asks for. -/
inductive Request where
  | execute (options : Options)
  | help (form : HelpForm)
  | version
  | usageError
deriving DecidableEq, Inhabited

/-- The file to read the program from, if one is named. -/
def Request.file? : Request → Option String
  | .execute options => options.file
  | _ => none

/-- An option that takes effect by itself: it is remembered, or it ends the reading. -/
def Given.raise (given : Given) (flag : Flag) : Except Request Given :=
  match flag with
  | .help form => .error (.help form)
  | .version => .error .version
  | .dump => if given.dump then .error .usageError else .ok { given with dump := true }
  | .tokens => if given.tokens then .error .usageError else .ok { given with tokens := true }

/-- Where reading stands after an argument: some options may still need their value. -/
inductive Pending where
  | nothing (given : Given)
  | valueOf (setting : Setting) (given : Given)
deriving DecidableEq, Inhabited

/-- Gives a value to an option, or ends the reading. -/
def Given.assign (given : Given) (setting : Setting) (text : String) : Except Request Given :=
  match given.set setting text with
  | some given => .ok given
  | none => .error .usageError

/-- Reads an argument behind its two dashes: a name, and a value behind an equals sign. -/
def readLong (given : Given) (text : List Char) : Except Request Pending :=
  let name := text.takeWhile (fun c => c != '=')
  let attached := text.dropWhile (fun c => c != '=')
  match Switch.ofLong? (String.ofList name), attached with
  | none, _ => .error .usageError
  | some (.flag flag), [] => (given.raise flag).map .nothing
  | some (.flag _), _ :: _ => .error .usageError
  | some (.setting setting), [] => .ok (.valueOf setting given)
  | some (.setting setting), _ :: value =>
      (given.assign setting (String.ofList value)).map .nothing

/-- The value that follows the letter of an option directly; an equals sign in front of it does
not count.
-/
def attachedValue : List Char → List Char
  | [] => []
  | c :: rest => if c = '=' then rest else c :: rest

/-- Reads an argument behind its single dash: letters of options, of which only the last one
can take a value.
-/
def readShort (given : Given) : List Char → Except Request Pending
  | [] => .ok (.nothing given)
  | c :: rest =>
      match Switch.ofShort? c with
      | none => .error .usageError
      | some (.flag flag) =>
          match given.raise flag with
          | .ok given => readShort given rest
          | .error request => .error request
      | some (.setting setting) =>
          if rest.isEmpty then
            .ok (.valueOf setting given)
          else
            (given.assign setting (String.ofList (attachedValue rest))).map .nothing

/-- Reads arguments that are no options. -/
def readFiles (given : Given) : List String → Request
  | [] => .execute given.options
  | path :: rest =>
      match given.setFile path with
      | some given => readFiles given rest
      | none => .usageError

/-- Reads an argument that may be an option. -/
def readArgument (given : Given) (argument : String) : Except Request Pending :=
  match argument.toList with
  | '-' :: '-' :: text => readLong given text
  | '-' :: c :: text => readShort given (c :: text)
  | _ =>
      match given.setFile argument with
      | some given => .ok (.nothing given)
      | none => .error .usageError

/-- Reads arguments, the first of which may have to be the value of an option. Two dashes alone
end the options.
-/
def readFrom : Pending → List String → Request
  | .nothing given, [] => .execute given.options
  | .valueOf _ _, [] => .usageError
  | .nothing given, argument :: rest =>
      if argument = "--" then
        readFiles given rest
      else
        match readArgument given argument with
        | .ok pending => readFrom pending rest
        | .error request => request
  | .valueOf setting given, argument :: rest =>
      match given.assign setting argument with
      | .ok given => readFrom (.nothing given) rest
      | .error request => request

/-- What the arguments of a command line ask for. -/
def Request.ofArguments (arguments : List String) : Request :=
  readFrom (.nothing {}) arguments

end TapeMachine.Cli
