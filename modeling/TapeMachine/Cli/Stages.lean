import TapeMachine.Cli.Session

/-! An invocation in stages. What a stage writes and tells can leave at once, and between the stages
input can arrive, so that nothing has to be known of it before it is needed.
-/

namespace TapeMachine.Cli

/-- A run under way. -/
structure Run where
  level : Level
  options : Options
  machine : Machine

/-- How an invocation goes on after a stage. -/
inductive Remainder where
  | ended (exitCode : Nat)
  | running (run : Run)
  | ending (run : Run) (outcome : Except Fault Machine.Exit)

/-- What has reached the standard output and what has been told, and how the invocation goes on. -/
structure Stage where
  stdout : List UInt8
  notices : List Notice
  remainder : Remainder

/-- The only stage of an invocation with a report. -/
def Stage.ofReport (report : Report) : Stage :=
  ⟨report.stdout, report.notices, .ended report.exitCode⟩

/-- The report of an invocation that is over. -/
def Stage.report? (stage : Stage) : Option Report :=
  match stage.remainder with
  | .ended exitCode => some ⟨exitCode, stage.stdout, stage.notices⟩
  | _ => none

/-- A stage behind another one. -/
def Stage.behind (first later : Stage) : Stage :=
  ⟨first.stdout ++ later.stdout, first.notices ++ later.notices, later.remainder⟩

namespace Run

/-- What is told of the next step. -/
def stepNotices (run : Run) : List Notice :=
  if run.level.shows .trace then run.machine.upcoming.toList.map stepNotice else []

/-- How the run ends if it takes no further step. -/
def exit? (run : Run) : Option Machine.Exit :=
  if run.machine.running then
    if run.options.maxSteps.any (fun budget => budget ≤ run.machine.steps) then
      some .stepLimit
    else
      none
  else
    some .halted

/-- Takes a step, whose output leaves, with what is told of it. -/
@[noinline]
def takeStep (told : List Notice) : Run → Stage
  | ⟨level, options, machine⟩ =>
      match machine.step with
      | (.ok (), after) =>
          let left := { after with output := after.output.emptied }
          ⟨after.output.delivered, told, .running ⟨level, options, left⟩⟩
      | (.error fault, after) => ⟨[], told, .ending ⟨level, options, after⟩ (.error fault)⟩

/-- Takes a step of the run, or comes to its end. -/
def proceed (run : Run) : Stage :=
  match run.exit? with
  | some exit => ⟨[], [], .ending run (.ok exit)⟩
  | none => run.takeStep run.stepNotices

/-- The last stage of a run. -/
def conclude (run : Run) (outcome : Except Fault Machine.Exit) : Stage :=
  let (result, finished) := Machine.finish outcome run.machine
  .ofReport (.ofOutcome finished.output.delivered
    (stopNotices run.level outcome finished ++ resultNotices run.options.dump finished)
    (judge result finished))

/-- Whether the next step needs input that has not arrived. -/
def isStarved (run : Run) : Bool :=
  run.exit?.isNone && run.machine.isAboutToRead && run.machine.input.isStarved

/-- Whether the next step may have output that leaves. -/
def mayDeliver (run : Run) : Bool :=
  run.exit?.isNone && run.machine.upcoming.all (fun executed => executed.op = .write)

/-- Input arrives. -/
def supply (more : Device.Reader) (run : Run) : Run :=
  { run with machine := { run.machine with input := run.machine.input.supply more } }

/-- The run with its output going to a device that has room or has none. -/
def onto (outlet : Outlet) (run : Run) : Run :=
  { run with machine := { run.machine with output := run.machine.output.onto outlet } }

end Run

/-- The first stage of an invocation, up to the start of a run. -/
def begin (environment : Environment) (arguments : List String) : Stage :=
  match prepare environment arguments with
  | .error report => .ofReport report
  | .ok launch =>
      let address := launch.options.startAddress
      ⟨[], launch.told ++ startNotices launch.level address,
        .running ⟨launch.level, launch.options, launch.machine.start address⟩⟩

namespace Remainder

/-- The next stage. -/
def next : Remainder → Stage
  | .ended exitCode => ⟨[], [], .ended exitCode⟩
  | .running run => run.proceed
  | .ending run outcome => run.conclude outcome

/-- Whether the invocation waits for input. -/
def isStarved : Remainder → Bool
  | .running run => run.isStarved
  | _ => false

/-- Whether the next stage may have output that leaves. -/
def mayDeliver : Remainder → Bool
  | .ended _ => false
  | .running run => run.mayDeliver
  | .ending _ _ => true

def supply (more : Device.Reader) : Remainder → Remainder
  | .ended exitCode => .ended exitCode
  | .running run => .running (run.supply more)
  | .ending run outcome => .ending (run.supply more) outcome

def onto (outlet : Outlet) : Remainder → Remainder
  | .ended exitCode => .ended exitCode
  | .running run => .running (run.onto outlet)
  | .ending run outcome => .ending (run.onto outlet) outcome

end Remainder

namespace Stage

/-- The next stage, behind everything so far. -/
def next (stage : Stage) : Stage :=
  stage.behind stage.remainder.next

/-- So many stages further. -/
def advance : Nat → Stage → Stage
  | 0, stage => stage
  | count + 1, stage => stage.next.advance count

def supply (more : Device.Reader) (stage : Stage) : Stage :=
  { stage with remainder := stage.remainder.supply more }

def onto (outlet : Outlet) (stage : Stage) : Stage :=
  { stage with remainder := stage.remainder.onto outlet }

/-- What a stage comes to on a device: it is tried as if there were room, which makes a difference
only if something is to leave.
-/
def tried (outlet : Outlet) (act : Outlet → Stage) : Stage :=
  let planned := act .working
  if planned.stdout.isEmpty then planned else act outlet

/-- The first stage on a device. -/
def opening (outlet : Outlet) (environment : Environment) (arguments : List String) : Stage :=
  tried outlet (fun stdout => begin { environment with stdout := stdout } arguments)

/-- The next stage on a device, behind everything so far. -/
def onward (outlet : Outlet) (stage : Stage) : Stage :=
  if stage.remainder.mayDeliver then
    stage.behind (tried outlet (fun stdout => (stage.remainder.onto stdout).next))
  else
    stage.next

/-- So many times, the next event of the standard input arrives if the invocation waits for it, and
otherwise the invocation goes on.
-/
def attend (outlet : Outlet) : Nat → Device.Reader → Stage → Stage
  | 0, _, stage => stage
  | count + 1, [], stage => (stage.onward outlet).attend outlet count []
  | count + 1, event :: coming, stage =>
      if stage.remainder.isStarved then
        (stage.supply [event]).attend outlet count coming
      else
        (stage.onward outlet).attend outlet count (event :: coming)

end Stage

end TapeMachine.Cli
