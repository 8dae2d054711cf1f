import TapeMachine.Cli.Stages
import TapeMachine.Proofs.DeviceExchange
import TapeMachine.Proofs.Invocations

/-! The stages of an invocation come to the report of the whole invocation. What a stage delivers
and tells is taken off the machine, so the stages of a run are those of a machine that has delivered
less, put behind what has left already.
-/

namespace TapeMachine

-----------------------------------------------------------------------------------------
-- Sinks and machines behind what they have delivered
-----------------------------------------------------------------------------------------

namespace Console

/-- The console with bytes that have reached the device before all others. -/
def behind (gone : List UInt8) (terminal : Console) : Console :=
  { terminal with delivered := terminal.delivered ++ gone.reverse }

theorem flush_behind (gone : List UInt8) (terminal : Console)
    : (terminal.behind gone).flush = (terminal.flush.1, terminal.flush.2.behind gone) := by
  unfold flush
  rw [show (terminal.behind gone).waiting = terminal.waiting from rfl,
    show (terminal.behind gone).outlet = terminal.outlet from rfl]
  split
  · rfl
  · split <;> simp [behind]

theorem write_behind (gone : List UInt8) (terminal : Console) (b : UInt8)
    : (terminal.behind gone).write b
      = ((terminal.write b).1, (terminal.write b).2.behind gone) := by
  unfold write
  rw [show (terminal.behind gone).hold b = (terminal.hold b).behind gone from rfl,
    show (terminal.behind gone).waiting = terminal.waiting from rfl, flush_behind, flush_behind]
  split
  · rcases (terminal.hold b).flush with ⟨_ | _, _⟩ <;> rfl
  · split
    · rfl
    · rcases terminal.flush with ⟨_ | _, _⟩ <;> rfl

end Console

namespace Sink

/-- The sink with bytes that have reached the device before all others. -/
def behind (gone : List UInt8) : Sink → Sink
  | .scripted sink => .scripted { sink with written := sink.written ++ gone.reverse }
  | .console terminal => .console (terminal.behind gone)

theorem behind_emptied (sink : Sink)
    : sink.emptied.behind sink.delivered = sink := by
  cases sink <;> simp [emptied, behind, delivered, Console.behind]

theorem delivered_behind (gone : List UInt8) (sink : Sink)
    : (sink.behind gone).delivered = gone ++ sink.delivered := by
  cases sink <;> simp [behind, delivered, Console.behind]

/-- What was delivered before makes no difference to any use of the sink. -/
theorem uses_behind (gone : List UInt8) (sink : Sink)
    : (∀ b, (sink.behind gone).write b = ((sink.write b).1, (sink.write b).2.behind gone))
      ∧ (sink.behind gone).flush = (sink.flush.1, sink.flush.2.behind gone) := by
  cases sink with
  | scripted device =>
      constructor
      · intro b
        simp only [behind, write, ScriptedSink.write]
        split <;> rfl
      · simp only [behind, flush, ScriptedSink.flush]
        split <;> rfl
  | console terminal =>
      constructor
      · intro b
        simp only [behind, write, Console.write_behind]
      · simp only [behind, flush, Console.flush_behind]

end Sink

/-- A sink can be exchanged for the same one behind some bytes. -/
def Exchange.behind (gone : List UInt8) : Exchange where
  inputs first second := second = first
  sinks first second := second = first.behind gone
  read := Exchange.read_same
  write := by
    rintro first _ rfl b
    rw [(first.uses_behind gone).1]
    exact ⟨rfl, rfl⟩
  flush := by
    rintro first _ rfl
    rw [(first.uses_behind gone).2]
    exact ⟨rfl, rfl⟩

namespace Machine

variable (gone : List UInt8) (machine : Machine)

/-- The machine with bytes that have reached the device of its output before all others. -/
def behind : Machine :=
  { machine with output := machine.output.behind gone }

/-- The machine after what has been delivered has left. -/
def relieved : Machine :=
  { machine with output := machine.output.emptied }

theorem behind_relieved
    : machine.relieved.behind machine.output.delivered = machine := by
  simp only [behind, relieved, Sink.behind_emptied]

theorem alike_behind
    : (Exchange.behind gone).Alike machine.equipment (machine.behind gone).equipment :=
  ⟨rfl, rfl, rfl⟩

variable {gone machine}

theorem eq_behind_of_agree {α : Type} {first second : α × Machine}
    (agree : Agree (Exchange.behind gone).Alike first second)
    : second = (first.1, first.2.behind gone) := by
  obtain ⟨⟨policy, input, output⟩, ⟨samePolicy, sameInput, behind⟩, rfl⟩ := agree
  dsimp only at samePolicy sameInput behind
  subst samePolicy sameInput behind
  rfl

theorem step_behind
    : (machine.behind gone).step = (machine.step.1, machine.step.2.behind gone) :=
  eq_behind_of_agree (machine.alike_behind gone).step

theorem drive_behind (budget : Nat)
    : drive budget (machine.behind gone)
      = ((drive budget machine).1, (drive budget machine).2.behind gone) :=
  eq_behind_of_agree ((Exchange.behind gone).lockstep.drive budget (machine.alike_behind gone)
    ((Exchange.behind gone).binding _))

theorem finish_behind (outcome : Except Fault Exit)
    : finish outcome (machine.behind gone)
      = ((finish outcome machine).1, (finish outcome machine).2.behind gone) :=
  eq_behind_of_agree ((Exchange.behind gone).lockstep.finish outcome (machine.alike_behind gone))

/-- What was delivered before does not show in the trace, by induction on the steps. -/
theorem executions_behind (budget : Nat)
    : executions budget (machine.behind gone) = executions budget machine := by
  induction budget generalizing machine with
  | zero => rfl
  | succ budget ih =>
      have same : (machine.behind gone).running = machine.running := rfl
      cases running : machine.running with
      | false =>
          rw [executions_of_not_running running, executions_of_not_running (same.trans running)]
      | true =>
          have stepsAlso := @step_behind gone machine
          rcases stepped : machine.step with ⟨fault | _, after⟩ <;> rw [stepped] at stepsAlso
          · rw [executions_succ_of_error running stepped,
              executions_succ_of_error (same.trans running) stepsAlso]
            rfl
          · rw [executions_succ_of_ok running stepped,
              executions_succ_of_ok (same.trans running) stepsAlso, ih]
            rfl

end Machine

namespace Cli

-----------------------------------------------------------------------------------------
-- Stages behind each other
-----------------------------------------------------------------------------------------

/-- A report of what came behind what has been delivered and told before. -/
def Report.behind (stdout : List UInt8) (notices : List Notice) (report : Report) : Report :=
  ⟨report.exitCode, stdout ++ report.stdout, notices ++ report.notices⟩

theorem behind_ofOutcome (gone stdout : List UInt8) (told notices : List Notice)
    (outcome : Except Failure Unit)
    : (Report.ofOutcome stdout notices outcome).behind gone told
      = .ofOutcome (gone ++ stdout) (told ++ notices) outcome := by
  rcases outcome with failure | _ <;> simp [Report.behind, Report.ofOutcome]

namespace Stage

/-- A stage that has delivered and told nothing yet. -/
def fresh (remainder : Remainder) : Stage :=
  ⟨[], [], remainder⟩

theorem behind_fresh (stage : Stage)
    : stage.behind (fresh stage.remainder) = stage := by
  simp [behind, fresh]

theorem behind_assoc (first second third : Stage)
    : (first.behind second).behind third = first.behind (second.behind third) := by
  simp [behind]

theorem advance_behind (first later : Stage) (count : Nat)
    : (first.behind later).advance count = first.behind (later.advance count) := by
  induction count generalizing later with
  | zero => rfl
  | succ count ih =>
      have moved : (first.behind later).next = first.behind later.next := behind_assoc _ _ _
      rw [advance, advance, moved, ih]

theorem advance_add (first second : Nat) (stage : Stage)
    : stage.advance (first + second) = (stage.advance first).advance second := by
  induction first generalizing stage with
  | zero => rw [Nat.zero_add, advance]
  | succ first ih => rw [Nat.succ_add, advance, advance, ih]

theorem report?_behind (first later : Stage)
    : (first.behind later).report?
      = later.report?.map (Report.behind first.stdout first.notices) := by
  obtain ⟨stdout, notices, _ | _ | _⟩ := later <;> rfl

theorem report?_ofReport (report : Report)
    : (ofReport report).report? = some report :=
  rfl

/-- Nothing comes behind the last stage. -/
theorem report?_advance {stage : Stage} {report : Report} (ended : stage.report? = some report)
    (count : Nat)
    : (stage.advance count).report? = some report := by
  induction count generalizing stage with
  | zero => exact ended
  | succ count ih =>
      apply ih
      obtain ⟨stdout, notices, exitCode | _ | _⟩ := stage <;> simp_all [report?, next, behind,
        Remainder.next]

/-- An invocation comes to one report only. -/
theorem report_unique {stage : Stage} {first second : Nat} {report other : Report}
    (ended : (stage.advance first).report? = some report)
    (alsoEnded : (stage.advance second).report? = some other)
    : report = other := by
  have late := report?_advance ended second
  have alsoLate := report?_advance alsoEnded first
  rw [← advance_add] at late alsoLate
  rw [Nat.add_comm, late] at alsoLate
  exact Option.some.inj alsoLate

end Stage

-----------------------------------------------------------------------------------------
-- The stages of a run
-----------------------------------------------------------------------------------------

namespace Run

/-- What is told of so many steps of a run. -/
def traced (budget : Nat) (run : Run) : List Notice :=
  if run.level.shows .trace then (run.machine.executions budget).map stepNotice else []

/-- The report of a run that is driven to an outcome from where it stands. -/
def report (budget : Nat) (run : Run) (outcome : Except Fault Machine.Exit) (stopped : Machine)
    : Report :=
  let (result, finished) := Machine.finish outcome stopped
  .ofOutcome finished.output.delivered
    (run.traced budget ++ stopNotices run.level outcome finished
      ++ resultNotices run.options.dump finished)
    (judge result finished)

variable {run : Run} {after : Machine}

theorem exit?_eq_none_iff
    : run.exit? = none
      ↔ run.machine.running = true
        ∧ ∀ limit, run.options.maxSteps = some limit → run.machine.steps < limit := by
  unfold exit?
  cases run.machine.running <;> cases run.options.maxSteps <;> simp

/-- A run that takes no further step ends with the next two stages. -/
theorem report?_of_exit {exit : Machine.Exit} {budget : Nat} (exits : run.exit? = some exit)
    (untraced : run.traced budget = [])
    : ((Stage.fresh (.running run)).advance 2).report?
      = some (run.report budget (.ok exit) run.machine) := by
  simp only [Stage.advance, Stage.next, Stage.fresh, Remainder.next, proceed, exits, conclude]
  rw [Stage.report?_behind]
  simp only [report, untraced]
  rfl

theorem traced_of_not_running (stopped : run.machine.running = false) (budget : Nat)
    : run.traced budget = [] := by
  simp [traced, Machine.executions_of_not_running stopped]

theorem report?_of_stopped (stopped : run.machine.running = false) (budget : Nat)
    : ((Stage.fresh (.running run)).advance 2).report?
      = some (run.report budget (.ok .halted) run.machine) :=
  report?_of_exit (by simp [exit?, stopped]) (traced_of_not_running stopped budget)

theorem traced_succ_of_error {fault : Fault} (running : run.machine.running = true)
    (stepped : run.machine.step = (.error fault, after)) (budget : Nat)
    : run.traced (budget + 1) = run.stepNotices := by
  simp only [traced, stepNotices, Machine.executions_succ_of_error running stepped]

theorem traced_succ_of_ok (running : run.machine.running = true)
    (stepped : run.machine.step = (.ok (), after)) (budget : Nat)
    : run.traced (budget + 1)
      = run.stepNotices ++ ({ run with machine := after.relieved } : Run).traced budget := by
  have later := @Machine.executions_behind after.output.delivered after.relieved budget
  rw [after.behind_relieved] at later
  simp only [traced, stepNotices]
  rw [Machine.executions_succ_of_ok running stepped, later]
  split
  · rw [List.map_append]
  · rfl

theorem proceed_of_ok (goesOn : run.exit? = none) (stepped : run.machine.step = (.ok (), after))
    : run.proceed
      = ⟨after.output.delivered, run.stepNotices,
          .running { run with machine := after.relieved }⟩ := by
  simp only [proceed, goesOn, takeStep, stepped]
  rfl

/-- The stages behind a step are those of a machine that has delivered nothing yet. -/
theorem report?_advance_succ (goesOn : run.exit? = none)
    (stepped : run.machine.step = (.ok (), after)) (count : Nat)
    : ((Stage.fresh (.running run)).advance (count + 1)).report?
      = ((Stage.fresh (.running { run with machine := after.relieved })).advance count).report?.map
          (Report.behind after.output.delivered run.stepNotices) := by
  have moved : (Stage.fresh (.running run)).next
      = run.proceed.behind (Stage.fresh run.proceed.remainder) := by
    rw [Stage.behind_fresh]
    rfl
  rw [Stage.advance, moved, Stage.advance_behind, Stage.report?_behind,
    proceed_of_ok goesOn stepped]

theorem proceed_of_error {fault : Fault} (goesOn : run.exit? = none)
    (stepped : run.machine.step = (.error fault, after))
    : run.proceed
      = ⟨[], run.stepNotices, .ending { run with machine := after } (.error fault)⟩ := by
  simp only [proceed, goesOn, takeStep, stepped]

/-- A run whose next step faults ends with the next two stages. -/
theorem report?_of_error {fault : Fault} {budget : Nat} (goesOn : run.exit? = none)
    (stepped : run.machine.step = (.error fault, after))
    : ((Stage.fresh (.running run)).advance 2).report?
      = some (run.report (budget + 1) (.error fault) after) := by
  obtain ⟨running, _⟩ := exit?_eq_none_iff.mp goesOn
  simp only [Stage.advance, Stage.next, Stage.fresh, Remainder.next,
    proceed_of_error goesOn stepped, conclude]
  rw [Stage.report?_behind]
  simp only [report, traced_succ_of_error running stepped, Stage.behind, Stage.report?_ofReport,
    Option.map_some, behind_ofOutcome, List.nil_append, List.append_assoc]

/-- What a step delivers and tells stands in front of the rest of the run. -/
theorem report_succ_of_ok (running : run.machine.running = true)
    (stepped : run.machine.step = (.ok (), after)) (budget : Nat)
    (outcome : Except Fault Machine.Exit) (stopped : Machine)
    : run.report (budget + 1) outcome (stopped.behind after.output.delivered)
      = (({ run with machine := after.relieved } : Run).report budget outcome stopped).behind
          after.output.delivered run.stepNotices := by
  have stop (machine : Machine) (gone : List UInt8)
      : stopNotices run.level outcome (machine.behind gone)
        = stopNotices run.level outcome machine := by
    cases outcome <;> rfl
  have result (machine : Machine) (gone : List UInt8)
      : resultNotices run.options.dump (machine.behind gone)
        = resultNotices run.options.dump machine := rfl
  have verdict (result : Except Fault Machine.Exit) (machine : Machine) (gone : List UInt8)
      : judge result (machine.behind gone) = judge result machine := by
    rcases result with _ | _ | _ <;> rfl
  have left (machine : Machine) (gone : List UInt8)
      : (machine.behind gone).output.delivered = gone ++ machine.output.delivered :=
    machine.output.delivered_behind gone
  simp only [report, Machine.finish_behind, behind_ofOutcome, stop, result, verdict, left,
    traced_succ_of_ok running stepped, List.append_assoc]

/-- The stages of a run come to the report of the drive, by induction on its steps. -/
theorem report?_of_drive {budget : Nat} {outcome : Except Fault Machine.Exit} {stopped : Machine}
    (driven : run.machine.drive budget = (outcome, stopped))
    (settled : Settled run.options outcome)
    (within : ∀ limit, run.options.maxSteps = some limit → run.machine.steps + budget = limit)
    : ∃ count,
        ((Stage.fresh (.running run)).advance count).report?
        = some (run.report budget outcome stopped) := by
  induction budget generalizing run stopped with
  | zero =>
      cases running : run.machine.running with
      | false =>
          rw [Machine.drive_of_not_running running] at driven
          obtain ⟨rfl, rfl⟩ := Prod.mk.inj driven
          exact ⟨2, report?_of_stopped running 0⟩
      | true =>
          rw [Machine.drive_zero running] at driven
          obtain ⟨rfl, rfl⟩ := Prod.mk.inj driven
          obtain ⟨limit, limited⟩ := Option.ne_none_iff_exists'.mp (fun none => settled none rfl)
          have reached : limit ≤ run.machine.steps := Nat.le_of_eq (within limit limited).symm
          have exits : run.exit? = some .stepLimit := by simp [exit?, running, limited, reached]
          exact ⟨2, report?_of_exit exits (by simp [traced])⟩
  | succ budget ih =>
      cases running : run.machine.running with
      | false =>
          rw [Machine.drive_of_not_running running] at driven
          obtain ⟨rfl, rfl⟩ := Prod.mk.inj driven
          exact ⟨2, report?_of_stopped running _⟩
      | true =>
          have goesOn : run.exit? = none := by
            refine exit?_eq_none_iff.mpr ⟨running, fun limit limited => ?_⟩
            have whole := within limit limited
            omega
          rcases stepped : run.machine.step with ⟨fault | _, after⟩
          · rw [Machine.drive_succ_of_error running stepped] at driven
            obtain ⟨rfl, rfl⟩ := Prod.mk.inj driven
            exact ⟨2, report?_of_error goesOn stepped⟩
          · rw [Machine.drive_succ_of_ok running stepped] at driven
            have counted := Machine.steps_of_step_ok stepped
            rw [← after.behind_relieved, Machine.drive_behind] at driven
            obtain ⟨rfl, rfl⟩ := Prod.mk.inj driven
            have still : ∀ limit, run.options.maxSteps = some limit
                → after.relieved.steps + budget = limit := by
              intro limit limited
              have whole := within limit limited
              have same : after.relieved.steps = after.steps := rfl
              omega
            obtain ⟨count, ended⟩ := @ih { run with machine := after.relieved } _ rfl settled still
            refine ⟨count + 1, ?_⟩
            rw [report?_advance_succ goesOn stepped, ended, Option.map_some]
            exact congrArg some (report_succ_of_ok running stepped budget _ _).symm

/-- A run without a limit comes to no report as long as its drive does not end, by induction on its
stages.
-/
theorem report?_of_endless {count : Nat} (unlimited : run.options.maxSteps = none)
    (driven : (run.machine.drive count).1 = .ok .stepLimit)
    : ((Stage.fresh (.running run)).advance count).report? = none := by
  induction count generalizing run with
  | zero => rfl
  | succ count ih =>
      have whole : run.machine.drive (count + 1)
          = (.ok .stepLimit, (run.machine.drive (count + 1)).2) :=
        Prod.ext driven rfl
      obtain ⟨running, _⟩ := Machine.running_of_drive_stepLimit whole
      have goesOn : run.exit? = none := by
        refine exit?_eq_none_iff.mpr ⟨running, fun limit limited => ?_⟩
        rw [unlimited] at limited
        cases limited
      rcases stepped : run.machine.step with ⟨fault | _, after⟩
      · rw [Machine.drive_succ_of_error running stepped] at driven
        cases driven
      · rw [Machine.drive_succ_of_ok running stepped, ← after.behind_relieved,
          Machine.drive_behind] at driven
        have later := @ih { run with machine := after.relieved } unlimited driven
        rw [report?_advance_succ goesOn stepped, later, Option.map_none]

end Run

-----------------------------------------------------------------------------------------
-- The stages of an invocation
-----------------------------------------------------------------------------------------

/-- A program that has been loaded, as a run that has not taken a step. -/
def Launch.started (launch : Launch) : Run :=
  ⟨launch.level, launch.options, launch.machine.start launch.options.startAddress⟩

/-- What is told until a run starts. -/
def Launch.introduction (launch : Launch) : List Notice :=
  launch.told ++ startNotices launch.level launch.options.startAddress

theorem Launch.report_eq_behind (patience : Nat) (launch : Launch)
    (outcome : Except Fault Machine.Exit) (stopped : Machine)
    : launch.report patience outcome stopped
      = (launch.started.report (allowance patience launch.options) outcome stopped).behind []
          launch.introduction := by
  simp only [Launch.report, Run.report, behind_ofOutcome, introduction, List.nil_append,
    List.append_assoc]
  rfl

theorem begin_of_launch {environment : Environment} {arguments : List String} {launch : Launch}
    (prepared : prepare environment arguments = .ok launch)
    : begin environment arguments = ⟨[], launch.introduction, .running launch.started⟩ := by
  simp only [begin, prepared]
  rfl

/-- The stages of an invocation come to a report exactly if the whole invocation does, and then it
is the same one.
-/
theorem stages_report_iff {environment : Environment} {arguments : List String} {report : Report}
    : (∃ count, ((begin environment arguments).advance count).report? = some report)
      ↔ ∃ patience, invoke patience environment arguments = some report := by
  cases prepared : prepare environment arguments with
  | error early =>
      have ended : ((begin environment arguments).advance 0).report? = some early := by
        simp only [begin, prepared]
        rfl
      simp only [invoke, prepared, Option.some.injEq]
      constructor
      · rintro ⟨count, alsoEnded⟩
        exact ⟨0, Stage.report_unique ended alsoEnded⟩
      · rintro ⟨_, rfl⟩
        exact ⟨0, ended⟩
  | ok launch =>
      have shown (count : Nat)
          : ((begin environment arguments).advance count).report?
            = ((Stage.fresh (.running launch.started)).advance count).report?.map
                (Report.behind [] launch.introduction) := by
        rw [begin_of_launch prepared, ← Stage.behind_fresh ⟨_, _, _⟩, Stage.advance_behind,
          Stage.report?_behind]
      -- Whatever the drive comes to, the stages come to.
      have comes {patience : Nat} {outcome : Except Fault Machine.Exit} {stopped : Machine}
          (settled : Settled launch.options outcome)
          (driven : launch.started.machine.drive (allowance patience launch.options)
            = (outcome, stopped))
          : ∃ count,
              ((begin environment arguments).advance count).report?
              = some (launch.report patience outcome stopped) := by
        have within : ∀ limit, launch.options.maxSteps = some limit
            → launch.started.machine.steps + allowance patience launch.options = limit := by
          intro limit limited
          rw [allowance, limited, Option.getD_some]
          exact Nat.zero_add limit
        obtain ⟨count, ended⟩ := Run.report?_of_drive driven settled within
        exact ⟨count, by rw [shown, ended, Launch.report_eq_behind, Option.map_some]⟩
      simp only [invoke, prepared, Launch.run_eq_some_iff]
      constructor
      · rintro ⟨count, ended⟩
        have settled : Settled launch.options
            (launch.started.machine.drive (allowance count launch.options)).1 := by
          intro unlimited unended
          rw [allowance, unlimited, Option.getD_none] at unended
          rw [shown, Run.report?_of_endless unlimited unended] at ended
          cases ended
        obtain ⟨_, alsoEnded⟩ := comes settled rfl
        exact ⟨count, _, _, settled, rfl, Stage.report_unique ended alsoEnded⟩
      · rintro ⟨patience, outcome, stopped, settled, driven, rfl⟩
        exact comes settled driven

end Cli

end TapeMachine
