import TapeMachine.Cli.Arguments
import TapeMachine.Cli.Listing
import TapeMachine.Files
import TapeMachine.Machine.Dump
import TapeMachine.Machine.Load
import TapeMachine.Machine.Trace
import TapeMachine.Sample

/-! A whole invocation of the command line, from its arguments to its exit code. It either ends
while it is prepared, or a program has been loaded and runs.
-/

namespace TapeMachine.Cli

open Source (Program Diagnostic)

/-- What an invocation finds around it. -/
structure Environment where
  fileContent : String → Except FileError (List UInt8)
  stdin : Device.Reader
  stdout : Outlet
  colour : Bool
  level : Level
  /-- The help on the command line, painted or not. -/
  help : HelpForm → Bool → String

/-- What an invocation leaves behind. -/
structure Report where
  exitCode : Nat
  stdout : List UInt8
  notices : List Notice
deriving DecidableEq, Inhabited

/-- Why an invocation was not successful. -/
inductive Failure where
  | unreadable (path : String) (error : FileError)
  | output (error : Device.IoError)
  | fault (cause : Fault)
  | stepLimit (steps : Nat)
deriving DecidableEq, Inhabited

def Failure.message : Failure → String
  | .unreadable path error => "Can't read " ++ path ++ ": " ++ error.message
  | .output error => "Can't write output: " ++ error.message
  | .fault cause => cause.message
  | .stepLimit steps => "Gave up after " ++ Text.natural steps ++ " steps"

/-- The report of an invocation with what it wrote and what it told before its end. -/
def Report.ofOutcome (stdout : List UInt8) (notices : List Notice)
    : Except Failure Unit → Report
  | .ok () => ⟨0, stdout, notices⟩
  | .error failure => ⟨1, stdout, notices ++ [.failure failure.message]⟩

/-- The text of the program to run. -/
def sourceOf (fileContent : String → Except FileError (List UInt8)) : Option String
    → Except Failure String
  | none => .ok helloWorld
  | some path =>
      match fileContent path with
      | .error error => .error (.unreadable path error)
      | .ok content =>
          match Text.decode? content with
          | none => .error (.unreadable path .notUtf8)
          | some text => .ok text

/-- The report of an invocation that cannot have the memory it asks for. -/
def Report.overflow : Report :=
  ⟨101, [], [.crash "capacity overflow"]⟩

/-- Lists the tokens of a program. -/
def listTokens (environment : Environment) (source : String) : Report :=
  let text := Text.encode (listing environment.colour source)
  match (Console.ofOutlet environment.stdout).writeAll text with
  | (outcome, console) =>
      .ofOutcome (Sink.console console).delivered [] (outcome.mapError .output)

/-- The line that tells the version. -/
def versionLine : String := "bfvm 0.1.0\n"

/-- Shows a text, and succeeds even if nobody can read it. -/
def showText (environment : Environment) (text : String) : Report :=
  match (Console.ofOutlet environment.stdout).writeAll (Text.encode text) with
  | (_, console) => ⟨0, (Sink.console console.flush.2).delivered, []⟩

def inputOf : InputMode → Device.Reader → Input
  | .bytes, stdin => .bytes stdin
  | .decimal, stdin => .decimal stdin []

/-- The machine that the options describe, if there can be one with so long a tape. -/
def machineFor (options : Options) (stdin : Device.Reader) (stdout : Outlet) : Option Machine :=
  (Machine.create? options.tapeSize (inputOf options.inputMode stdin)
    (.console (.ofOutlet stdout))).map (fun machine => machine.withEofPolicy options.eofPolicy)

/-- What is told of a machine that was set up. -/
def allocationNotices (level : Level) (machine : Machine) : List Notice :=
  level.log .info "allocated tape" [("size", Text.natural machine.tape.size)]

/-- What is told of a program that was loaded. -/
def loadNotices (level : Level) (address : Int) (program : Program) : List Notice :=
  let skipped := Text.natural program.diagnostics.length
  program.diagnostics.flatMap
      (fun d => level.log .debug "skipped while loading" [("diagnostic", d.message)])
    ++ level.log .debug "loaded program"
      [("load_address", Text.integer address),
        ("instructions", Text.natural program.opcodes.length), ("skipped", skipped)]
    ++ if program.diagnostics.isEmpty then
        []
      else
        level.log .info "ignored non-operation text" [("skipped", skipped)]

/-- What is told when a run starts. -/
def startNotices (level : Level) (address : Int) : List Notice :=
  [.starting] ++ level.log .debug "running" [("start_address", Text.integer address)]

/-- What is told of an instruction before it is executed. -/
def stepNotice (executed : Machine.Executed) : Notice :=
  .log .trace "step"
    [("pc", Text.natural executed.programCounter), ("dp", Text.integer executed.dataPointer),
      ("op", String.singleton executed.op.symbol)]

/-- What is told of the steps of a run. -/
def stepNotices (level : Level) (budget : Nat) (machine : Machine) (address : Int)
    : List Notice :=
  if level.shows .trace then (machine.trace budget address).map stepNotice else []

def exitLabel : Machine.Exit → String
  | .halted => "Halted"
  | .stepLimit => "StepLimit"

/-- What is told of the end of a run, of which the final flush is no part. -/
def stopNotices (level : Level) (outcome : Except Fault Machine.Exit) (machine : Machine)
    : List Notice :=
  match outcome with
  | .ok exit =>
      level.log .debug "stopped"
        [("exit", exitLabel exit), ("steps", Text.natural machine.steps)]
  | .error fault =>
      level.log .debug "faulted"
        [("fault", fault.message), ("pc", Text.integer machine.programCounter),
          ("dp", Text.integer machine.dataPointer), ("steps", Text.natural machine.steps)]

/-- What is told after a run. -/
def resultNotices (showDump : Bool) (machine : Machine) : List Notice :=
  [.blank, .finished machine.steps] ++ if showDump then [.picture machine.dump] else []

/-- Whether a run was successful. A run that took all the steps it may was not. -/
def judge (outcome : Except Fault Machine.Exit) (machine : Machine) : Except Failure Unit :=
  match outcome with
  | .ok .halted => .ok ()
  | .ok .stepLimit => .error (.stepLimit machine.steps)
  | .error fault => .error (.fault fault)

/-- Takes the steps of a run, as many as the options allow. -/
def driveWithin (patience : Nat) (maxSteps : Option Nat) (machine : Machine)
    : Option (Except Fault Machine.Exit × Machine) :=
  match maxSteps with
  | some budget => some (machine.drive budget)
  | none => machine.driveToEnd patience

/-- A program that has been loaded and is about to run, and what has been told until then. -/
structure Launch where
  level : Level
  options : Options
  told : List Notice
  machine : Machine

/-- Loads a program, unless the invocation ends with that. -/
def load (environment : Environment) (options : Options) (source : String)
    : Except Report Launch :=
  match machineFor options environment.stdin environment.stdout with
  | none => .error .overflow
  | some machine =>
      let allocated := allocationNotices environment.level machine
      match machine.load source options.loadAddress with
      | (.error fault, _) => .error (.ofOutcome [] allocated (.error (.fault fault)))
      | (.ok _, loaded) =>
          .ok {
            level := environment.level
            options := options
            told := allocated
              ++ loadNotices environment.level options.loadAddress (.ofString source)
            machine := loaded }

/-- Does what the options ask for, up to the run of a program. -/
def prepareOptions (environment : Environment) (options : Options) : Except Report Launch :=
  match sourceOf environment.fileContent options.file with
  | .error failure => .error (.ofOutcome [] [] (.error failure))
  | .ok source =>
      if options.tokens then
        .error (listTokens environment source)
      else
        load environment options source

/-- Does what a command line asks for, up to the run of a program. What a wrong command line is told
is not settled here.
-/
def prepare (environment : Environment) (arguments : List String) : Except Report Launch :=
  match Request.ofArguments arguments with
  | .usageError => .error ⟨2, [], []⟩
  | .help form => .error (showText environment (environment.help form environment.colour))
  | .version => .error (showText environment versionLine)
  | .execute options => prepareOptions environment options

/-- Runs a program that has been loaded. -/
def Launch.run (patience : Nat) (launch : Launch) : Option Report :=
  let options := launch.options
  let address := options.startAddress
  match driveWithin patience options.maxSteps (launch.machine.start address) with
  | none => none
  | some (outcome, stopped) =>
      let (result, finished) := Machine.finish outcome stopped
      let steps := stepNotices launch.level (options.maxSteps.getD patience) launch.machine address
      let notices := launch.told ++ startNotices launch.level address ++ steps
        ++ stopNotices launch.level outcome finished ++ resultNotices options.dump finished
      some (.ofOutcome finished.output.delivered notices (judge result finished))

/-- A whole invocation. There is no report of one whose run takes more steps than one has the
patience for.
-/
def invoke (patience : Nat) (environment : Environment) (arguments : List String)
    : Option Report :=
  match prepare environment arguments with
  | .error report => some report
  | .ok launch => launch.run patience

end TapeMachine.Cli
