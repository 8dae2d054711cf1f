import TapeMachine.Cli.Help
import TapeMachine.Cli.Stages

/-! The command line program. It carries the bytes, the messages and the input of an invocation
between its stages and the outside, and decides nothing by itself.
-/

namespace TapeMachine.Cli

/-- The content of a file of the file system. -/
def readSource (path : String) : IO (Except FileError (List UInt8)) := do
  try
    return .ok (← IO.FS.readBinFile path).toList
  catch
    | .noFileOrDirectory .. => return .error .notFound
    | .inappropriateType _ code _ =>
        return .error (if code = 21 then .isADirectory else .notADirectory)
    | error => return .error (.other (toString error))

/-- A line of the standard input as bytes, empty at its end. -/
partial def readRawLine (stdin : IO.FS.Stream) (line : List UInt8) : IO (List UInt8) := do
  match (← stdin.read 1).toList with
  | [] => return line.reverse
  | b :: _ =>
      if b = Device.Reader.newline then
        return (b :: line).reverse
      else
        readRawLine stdin (b :: line)

/-- What the standard input finds next. -/
def nextEvent (stdin : IO.FS.Stream) : IO Device.Event := do
  try
    match ← readRawLine stdin [] with
    | [] => return .endOfStream
    | line => return .bytes line
  catch
    | error => return .failure (.device .other (toString error))

/-- Whether bytes could be delivered to the standard output. -/
def deliver (stdout : IO.FS.Stream) (bytes : List UInt8) : IO Bool := do
  try
    unless bytes.isEmpty do
      stdout.write bytes.toByteArray
      stdout.flush
    return true
  catch
    | _ => return false

/-- A stage as `Stage.tried` has it: as it is if the device has room, or as it is on a full device
if its output cannot be delivered.
-/
def settle (act : Outlet → Stage) : IO Stage := do
  let planned := act .working
  if ← deliver (← IO.getStdout) planned.stdout then return planned else return act .full

/-- Attends to an invocation as `Stage.attend` does, behind a stage whose output has been
delivered.
-/
partial def attend (colour : Bool) (began : Nat) (stage : Stage) : IO UInt32 := do
  unless stage.notices.isEmpty do
    let elapsed := Text.natural ((← IO.monoMsNow) - began) ++ "ms"
    stage.notices.forM (fun notice => IO.eprint (notice.render colour elapsed))
  match stage.remainder with
  | .ended exitCode => return exitCode.toUInt32
  | remainder =>
      if remainder.isStarved then
        attend colour began ⟨[], [], remainder.supply [← nextEvent (← IO.getStdin)]⟩
      else if remainder.mayDeliver then
        attend colour began (← settle (fun outlet => (remainder.onto outlet).next))
      else
        attend colour began remainder.next

/-- Whether text is painted, which the user can force or forbid. -/
def wantsColour : IO Bool := do
  if ((← IO.getEnv "CLICOLOR_FORCE").getD "0") != "0" then
    return true
  if (← IO.getEnv "NO_COLOR").isSome then
    return false
  (← IO.getStdout).isTty

end TapeMachine.Cli

open TapeMachine.Cli in
def main (arguments : List String) : IO UInt32 := do
  let colour ← wantsColour
  let level := Level.ofText ((← IO.getEnv "RUST_LOG").getD "warn")
  let request := Request.ofArguments arguments
  let content ← match request.file? with
    | some path => readSource path
    | none => pure (.error .notFound)
  if request = .usageError then
    IO.eprint usage
  attend colour (← IO.monoMsNow) (← settle (fun stdout =>
    begin ⟨fun _ => content, [], stdout, colour, level, fun form _ => helpText form⟩ arguments))
