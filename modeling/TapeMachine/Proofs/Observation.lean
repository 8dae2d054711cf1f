import TapeMachine.Proofs.DumpOption
import TapeMachine.Proofs.Invocations
import TapeMachine.Proofs.SampleRuns
import TapeMachine.Proofs.StepLines
import TapeMachine.Proofs.Traces

/-! Watching a run does not change it. What is logged, painted or dumped is told beside the run, so
neither the exit code nor the output depends on it; and the trace tells of every instruction of the
run, just before it is executed, and of nothing else.
-/

namespace TapeMachine.Cli

-----------------------------------------------------------------------------------------
-- Parts of what is told
-----------------------------------------------------------------------------------------

/-- What an invocation tells apart from its log. -/
def Report.told (report : Report) : List Notice :=
  report.notices.filter (fun notice => !notice.isLog)

/-- Entries of the log that only a trace shows. -/
def Notice.isTrace : Notice → Bool
  | .log .trace _ _ => true
  | _ => false

/-- The lines of the trace among what an invocation tells. -/
def Report.traceLines (report : Report) : List Notice :=
  report.notices.filter Notice.isTrace

/-- A choice among notices that leaves out the log of what happens around a run. -/
structure Overlooks (chosen : Notice → Bool) : Prop where
  info : ∀ message fields, chosen (.log .info message fields) = false
  debug : ∀ message fields, chosen (.log .debug message fields) = false

theorem overlooks_log : Overlooks (fun notice => !notice.isLog) :=
  ⟨fun _ _ => rfl, fun _ _ => rfl⟩

theorem overlooks_trace : Overlooks Notice.isTrace :=
  ⟨fun _ _ => rfl, fun _ _ => rfl⟩

namespace Overlooks

variable {chosen : Notice → Bool} (overlooks : Overlooks chosen)

include overlooks

theorem log_info (level : Level) (message : String) (fields : List (String × String))
    : (level.log .info message fields).filter chosen = [] := by
  unfold Level.log
  split <;> simp [overlooks.info]

theorem log_debug (level : Level) (message : String) (fields : List (String × String))
    : (level.log .debug message fields).filter chosen = [] := by
  unfold Level.log
  split <;> simp [overlooks.debug]

theorem allocationNotices (level : Level) (machine : Machine)
    : (allocationNotices level machine).filter chosen = [] :=
  overlooks.log_info _ _ _

theorem loadNotices (level : Level) (address : Int) (program : Source.Program)
    : (loadNotices level address program).filter chosen = [] := by
  simp only [Cli.loadNotices, List.filter_append, List.filter_flatMap, overlooks.log_debug]
  split <;> simp [overlooks.log_info]

/-- Until a run starts, only the log is told. -/
theorem loading (level : Level) (machine : Machine) (address : Int) (program : Source.Program)
    : (Cli.allocationNotices level machine ++ Cli.loadNotices level address program).filter chosen
      = [] := by
  rw [List.filter_append, overlooks.allocationNotices, overlooks.loadNotices, List.append_nil]

theorem startNotices (level : Level) (address : Int)
    : (startNotices level address).filter chosen = [Notice.starting].filter chosen := by
  simp only [Cli.startNotices, List.filter_append, overlooks.log_debug, List.append_nil]

theorem stopNotices (level : Level) (outcome : Except Fault Machine.Exit) (machine : Machine)
    : (stopNotices level outcome machine).filter chosen = [] := by
  cases outcome <;> exact overlooks.log_debug _ _ _

end Overlooks

/-- What is told of a failure at the end. -/
def failureNotices : Except Failure Unit → List Notice
  | .ok () => []
  | .error failure => [.failure failure.message]

theorem notices_ofOutcome (stdout : List UInt8) (notices : List Notice)
    (outcome : Except Failure Unit)
    : (Report.ofOutcome stdout notices outcome).notices = notices ++ failureNotices outcome := by
  rcases outcome with failure | _
  · rfl
  · exact (List.append_nil notices).symm

theorem exitCode_ofOutcome_congr (stdout : List UInt8) (first second : List Notice)
    (outcome : Except Failure Unit)
    : (Report.ofOutcome stdout first outcome).exitCode
      = (Report.ofOutcome stdout second outcome).exitCode := by
  rcases outcome with failure | _ <;> rfl

theorem filter_stepNotices_isLog (level : Level) (budget : Nat) (machine : Machine) (address : Int)
    : (stepNotices level budget machine address).filter (fun notice => !notice.isLog) = [] := by
  unfold stepNotices
  split
  · simp [List.filter_eq_nil_iff, stepNotice, Notice.isLog]
  · rfl

theorem filter_stepNotices_isTrace (level : Level) (budget : Nat) (machine : Machine)
    (address : Int)
    : (stepNotices level budget machine address).filter Notice.isTrace
      = stepNotices level budget machine address := by
  unfold stepNotices
  split
  · simp [List.filter_eq_self, stepNotice, Notice.isTrace]
  · rfl

theorem filter_resultNotices_isTrace (showDump : Bool) (machine : Machine)
    : (resultNotices showDump machine).filter Notice.isTrace = [] := by
  cases showDump <;> rfl

theorem filter_failureNotices_isTrace (outcome : Except Failure Unit)
    : (failureNotices outcome).filter Notice.isTrace = [] := by
  rcases outcome with failure | _ <;> rfl

theorem filter_failureNotices_isLog (outcome : Except Failure Unit)
    : (failureNotices outcome).filter (fun notice => !notice.isLog) = failureNotices outcome := by
  rcases outcome with failure | _ <;> rfl

section LaunchReport

variable (patience : Nat) (launch : Launch) (outcome : Except Fault Machine.Exit)
  (stopped : Machine)

/-- Apart from its log, what is told of a run does not depend on the level. -/
theorem told_report (silent : launch.told.filter (fun notice => !notice.isLog) = [])
    : (launch.report patience outcome stopped).told
      = .starting :: resultNotices launch.options.dump (Machine.finish outcome stopped).2
        ++ failureNotices (judge (Machine.finish outcome stopped).1
            (Machine.finish outcome stopped).2) := by
  have result : (resultNotices launch.options.dump (Machine.finish outcome stopped).2).filter
        (fun notice => !notice.isLog)
      = resultNotices launch.options.dump (Machine.finish outcome stopped).2 := by
    cases launch.options.dump <;> rfl
  simp only [Launch.report, Report.told, notices_ofOutcome, List.filter_append, silent,
    overlooks_log.startNotices, overlooks_log.stopNotices, filter_stepNotices_isLog, result,
    filter_failureNotices_isLog]
  rfl

theorem traceLines_report (untraced : launch.told.filter Notice.isTrace = [])
    : (launch.report patience outcome stopped).traceLines
      = stepNotices launch.level (allowance patience launch.options) launch.machine
          launch.options.startAddress := by
  simp only [Launch.report, Report.traceLines, notices_ofOutcome, List.filter_append, untraced,
    overlooks_trace.startNotices, overlooks_trace.stopNotices, filter_stepNotices_isTrace,
    filter_resultNotices_isTrace, filter_failureNotices_isTrace]
  simp [Notice.isTrace]

end LaunchReport

-----------------------------------------------------------------------------------------
-- Watched and unwatched invocations
-----------------------------------------------------------------------------------------

/-- The two reports are of runs that came to the same and wrote the same. -/
structure Report.Agrees (first second : Report) : Prop where
  exitCode : second.exitCode = first.exitCode
  stdout : second.stdout = first.stdout

/-- What is prepared, and what is prepared under other eyes: reports that agree, or the same loaded
program to be run with the same options but for the dump.
-/
inductive Watched (options : Options) (dump : Bool)
    : Except Report Launch → Except Report Launch → Prop
  | reports {report other : Report} (agrees : report.Agrees other) (told : other.told = report.told)
      : Watched options dump (.error report) (.error other)
  | launches {first second : Level} {told alsoTold : List Notice} {machine : Machine}
      (silent : told.filter (fun notice => !notice.isLog) = [])
      (alsoSilent : alsoTold.filter (fun notice => !notice.isLog) = [])
      : Watched options dump (.ok ⟨first, options, told, machine⟩)
          (.ok ⟨second, { options with dump := dump }, alsoTold, machine⟩)

section Watching

variable {patience : Nat} {environment : Environment} {options : Options}
  (level : Level) (colour dump : Bool)

theorem watched_load (source : String)
    : Watched options dump (load environment options source)
        (load { environment with level := level, colour := colour } { options with dump := dump }
          source) := by
  have sameMachine : machineFor { options with dump := dump } environment.stdin environment.stdout
      = machineFor options environment.stdin environment.stdout := rfl
  simp only [load, sameMachine]
  cases machineFor options environment.stdin environment.stdout with
  | none => exact .reports ⟨rfl, rfl⟩ rfl
  | some machine =>
      rcases loads : machine.load source options.loadAddress with ⟨fault | diagnostics, loaded⟩
      · simp only [loads]
        refine .reports ⟨rfl, rfl⟩ ?_
        simp only [Report.told, notices_ofOutcome, List.filter_append,
          overlooks_log.allocationNotices]
      · simp only [loads]
        exact .launches (overlooks_log.loading _ _ _ _) (overlooks_log.loading _ _ _ _)

theorem watched_prepareOptions (unlisted : options.tokens = false)
    : Watched options dump (prepareOptions environment options)
        (prepareOptions { environment with level := level, colour := colour }
          { options with dump := dump }) := by
  simp only [prepareOptions]
  cases sourceOf environment.fileContent options.file with
  | error failure => exact .reports ⟨rfl, rfl⟩ rfl
  | ok source =>
      have alsoUnlisted : ¬ options.tokens = true := by simp [unlisted]
      simp only [if_neg alsoUnlisted]
      exact watched_load level colour dump source

/-- A run takes the same steps, whoever watches. -/
theorem run_watched {first : Level} {told alsoTold : List Notice} {machine : Machine}
    {report : Report} (silent : told.filter (fun notice => !notice.isLog) = [])
    (alsoSilent : alsoTold.filter (fun notice => !notice.isLog) = [])
    (reported : Launch.run patience ⟨first, options, told, machine⟩ = some report)
    : ∃ other,
        Launch.run patience ⟨level, { options with dump := dump }, alsoTold, machine⟩ = some other
        ∧ report.Agrees other
        ∧ (dump = options.dump → other.told = report.told) := by
  obtain ⟨outcome, stopped, settled, driven, rfl⟩ := Launch.run_eq_some_iff.mp reported
  refine ⟨_, Launch.run_eq_some_iff.mpr ⟨outcome, stopped, settled, driven, rfl⟩, ⟨?_, ?_⟩, ?_⟩
  · exact exitCode_ofOutcome_congr _ _ _ _
  · simp only [Launch.report, stdout_ofOutcome]
  · intro same
    rw [told_report _ _ _ _ alsoSilent, told_report _ _ _ _ silent, same]

/-- The texts that are shown instead of a run may be painted; apart from that, it makes no
difference to an invocation who watches it.
-/
theorem invoke_watched {arguments alike : List String} {report : Report}
    (unlisted : ∀ options, Request.ofArguments arguments = .execute options
      → options.tokens = false)
    (reported : invoke patience environment arguments = some report)
    (asked : Request.ofArguments alike = (Request.ofArguments arguments).setDump dump)
    : ∃ other,
        invoke patience { environment with level := level, colour := colour } alike = some other
        ∧ other.exitCode = report.exitCode
        ∧ ((∀ form, Request.ofArguments arguments = .help form
            → environment.help form colour = environment.help form environment.colour)
          → other.stdout = report.stdout)
        ∧ (Request.ofArguments alike = Request.ofArguments arguments
          → other.told = report.told) := by
  simp only [invoke] at reported ⊢
  cases asks : Request.ofArguments arguments with
  | help form =>
      simp only [prepare, asks, Option.some.injEq] at reported
      subst reported
      rw [asks] at asked
      simp only [prepare, asked, Request.setDump]
      refine ⟨_, rfl, rfl, fun same => ?_, fun _ => rfl⟩
      rw [same form rfl]
      rfl
  | version | usageError =>
      simp only [prepare, asks, Option.some.injEq] at reported
      subst reported
      rw [asks] at asked
      simp only [prepare, asked, Request.setDump]
      exact ⟨_, rfl, rfl, fun _ => rfl, fun _ => rfl⟩
  | execute options =>
      have watched := @watched_prepareOptions environment options level colour dump
        (unlisted options asks)
      rw [asks] at asked
      simp only [prepare, asks, asked, Request.setDump] at reported ⊢
      generalize prepareOptions environment options = first at watched reported
      generalize prepareOptions { environment with level := level, colour := colour }
        { options with dump := dump } = second at watched
      cases watched with
      | reports agrees told =>
          obtain rfl := Option.some.inj reported
          exact ⟨_, rfl, agrees.exitCode, fun _ => agrees.stdout, fun _ => told⟩
      | launches silent alsoSilent =>
          obtain ⟨other, alsoReported, agrees, sameTold⟩ :=
            run_watched _ dump silent alsoSilent reported
          refine ⟨other, alsoReported, agrees.exitCode, fun _ => agrees.stdout, fun same => ?_⟩
          exact sameTold (congrArg Options.dump (Request.execute.inj same))

end Watching

-----------------------------------------------------------------------------------------
-- Invocations that run a program
-----------------------------------------------------------------------------------------

/-- What is told where nothing runs is at most a failure. -/
theorem not_starting_of_ends {environment : Environment} {arguments : List String}
    {report : Report} (ends : Ends environment arguments report)
    : .starting ∉ report.notices := by
  have quiet (outcome : Except Failure Unit) : .starting ∉ failureNotices outcome := by
    rcases outcome with failure | _ <;> simp [failureNotices]
  cases ends with
  | misused | shown => exact List.not_mem_nil
  | overflowing => simp [Report.overflow]
  | @coming _ _ notices outcome _ only =>
      rw [notices_ofOutcome, List.mem_append, not_or]
      refine ⟨?_, quiet outcome⟩
      obtain rfl | ⟨machine, rfl⟩ := only
      · exact List.not_mem_nil
      · unfold allocationNotices Level.log
        split <;> simp

/-- A program runs where a start is told of, and until then only the log is told. -/
theorem launches_of_starting {patience : Nat} {environment : Environment} {arguments : List String}
    {report : Report} (starting : .starting ∈ report.notices)
    (reported : invoke patience environment arguments = some report)
    : ∃ launch,
        Launches environment arguments launch
        ∧ launch.told.filter (fun notice => !notice.isLog) = []
        ∧ launch.told.filter Notice.isTrace = []
        ∧ launch.run patience = some report := by
  cases prepared : prepare environment arguments with
  | error early =>
      simp only [invoke, prepared, Option.some.injEq] at reported
      subst reported
      exact absurd starting (not_starting_of_ends (ends_of_prepare prepared))
  | ok launch =>
      simp only [invoke, prepared] at reported
      have launches := prepare_eq_ok_iff.mp prepared
      obtain ⟨source, machine, diagnostics, _, _, _, told⟩ := launches.loads
      exact ⟨launch, launches, told ▸ overlooks_log.loading _ _ _ _,
        told ▸ overlooks_trace.loading _ _ _ _, reported⟩

/-- Every invocation that runs a program tells of the start. -/
theorem Launches.starting {patience : Nat} {environment : Environment} {arguments : List String}
    {launch : Launch} {report : Report} (launches : Launches environment arguments launch)
    (reported : invoke patience environment arguments = some report)
    : .starting ∈ report.notices := by
  simp only [invoke, prepare_eq_ok_iff.mpr launches] at reported
  obtain ⟨outcome, stopped, _, _, rfl⟩ := Launch.run_eq_some_iff.mp reported
  simp [Launch.report, notices_ofOutcome, startNotices]

-----------------------------------------------------------------------------------------
-- The trace
-----------------------------------------------------------------------------------------

/-- The next step faults before it has an instruction to execute. -/
inductive Undecoded (machine : Machine) : Fault → Prop where
  | offTape {side : Side} (located : machine.tape.locate machine.programCounter = .error side)
    : Undecoded machine (.program side)
  | invalid {index : Nat} {byte : UInt8}
    (located : machine.tape.locate machine.programCounter = .ok index)
    (holds : machine.tape.cell index = .data byte) (unknown : Opcode.ofByte? byte = none)
    : Undecoded machine (.invalidOperation byte)
  | unflushed {error : Device.IoError} (marked : machine.isEnd machine.programCounter = true)
    (failed : machine.output.flush.1 = .error error)
    : Undecoded machine (.io error)

theorem undecoded_of_fetch_error {machine : Machine} {fault : Fault}
    (fetched : machine.fetch = .error fault)
    : Undecoded machine fault := by
  unfold Machine.fetch at fetched
  split at fetched
  · rename_i side located
    cases fetched
    exact .offTape located
  · rename_i index located
    split at fetched
    · cases fetched
    · rename_i byte holds
      split at fetched
      · cases fetched
      · rename_i unknown
        cases fetched
        exact .invalid located holds unknown

/-- A step that faults has an instruction in the trace, or it has not decoded any. -/
theorem undecoded_or_upcoming {machine : Machine} {fault : Fault}
    (faults : machine.step.1 = .error fault)
    : (Undecoded machine fault ∧ machine.upcoming = none)
      ∨ ∃ index op,
          machine.fetch = .ok (.instruction index op)
          ∧ machine.upcoming = some ⟨index, machine.dataPointer, op⟩ := by
  cases fetched : machine.fetch with
  | error cause =>
      simp only [Machine.step, fetched, Except.error.injEq] at faults
      subst faults
      exact .inl ⟨undecoded_of_fetch_error fetched, by simp only [Machine.upcoming, fetched]⟩
  | ok request =>
      cases request with
      | instruction index op => exact .inr ⟨index, op, rfl, Machine.upcoming_of_fetch fetched⟩
      | halt =>
          refine .inl ⟨?_, by simp only [Machine.upcoming, fetched]⟩
          have marked := Machine.fetch_eq_halt_iff.mp fetched
          simp only [Machine.step, fetched, Machine.perform, Machine.halt] at faults
          rcases reply : machine.output.flush with ⟨error | _, later⟩
          · simp only [reply, Except.error.injEq] at faults
            subst faults
            exact .unflushed marked (by rw [reply])
          · simp [reply] at faults

/-- The lines are the trace of a run within so many steps from a machine that has just been
started, and the run has counted so many steps.
-/
structure TraceOf (allowed : Nat) (started : Machine) (lines : List Notice) (count : Nat)
    : Prop where
  /-- A line tells of the instruction at its place in the run, as it is about to be executed: both
  pointers and the symbol are fields of the entry, and words of its text.
  -/
  content
    : ∀ position notice,
        lines[position]? = some notice
        ↔ position < allowed
          ∧ ∃ reached index op,
              started.drive position = (.ok .stepLimit, reached)
              ∧ reached.fetch = .ok (.instruction index op)
              ∧ reached.programCounter = index
              ∧ notice
                = .log .trace "step"
                    [("pc", Text.natural index), ("dp", Text.integer reached.dataPointer),
                      ("op", String.singleton op.symbol)]
              ∧ ∀ colour elapsed,
                  notice.render colour elapsed
                  = "TRACE step pc=" ++ Text.natural index
                    ++ " dp=" ++ Text.integer reached.dataPointer
                    ++ " op=" ++ String.singleton op.symbol ++ "\n"
  halted : (started.drive allowed).1 = .ok .halted → lines.length + 1 = count
  limited : (started.drive allowed).1 = .ok .stepLimit → lines.length = count
  faulted
    : ∀ fault,
        (started.drive allowed).1 = .error fault
        → ∃ last,
            started.drive count = (.ok .stepLimit, last)
            ∧ last.step.1 = .error fault
            ∧ ((Undecoded last fault ∧ lines.length = count)
              ∨ ((∃ index op, last.fetch = .ok (.instruction index op))
                ∧ lines.length = count + 1))

theorem traceOf_start (allowed : Nat) (machine : Machine) (address : Int)
    : TraceOf allowed (machine.start address) ((machine.trace allowed address).map stepNotice)
        ((machine.start address).drive allowed).2.steps := by
  have running : (machine.start address).running = true := rfl
  have fresh : (machine.start address).steps = 0 := rfl
  generalize began : machine.start address = started at running fresh
  rw [Machine.trace, began]
  constructor
  · intro position notice
    simp only [List.getElem?_map, Option.map_eq_some_iff, Machine.getElem?_executions,
      Machine.upcoming_eq_some_iff]
    constructor
    · rintro ⟨executed, ⟨within, reached, driven, index, op, fetched, there, rfl⟩, rfl⟩
      exact ⟨within, reached, index, op, driven, fetched, there, rfl, render_step _ _ _⟩
    · rintro ⟨within, reached, index, op, driven, fetched, there, rfl, _⟩
      exact ⟨_, ⟨within, reached, driven, index, op, fetched, there, rfl⟩, rfl⟩
  · intro halted
    have driven : started.drive allowed = (.ok .halted, (started.drive allowed).2) :=
      Prod.ext halted rfl
    have length := Machine.length_executions_of_halted running driven
    rw [List.length_map]
    omega
  · intro limited
    have driven : started.drive allowed = (.ok .stepLimit, (started.drive allowed).2) :=
      Prod.ext limited rfl
    obtain ⟨_, _, steps⟩ := Machine.running_of_drive_stepLimit driven
    rw [List.length_map, Machine.length_executions_of_stepLimit driven]
    omega
  · intro fault faulted
    have ended : started.drive allowed = (.error fault, (started.drive allowed).2) :=
      Prod.ext faulted rfl
    obtain ⟨count, last, driven, faults, length⟩ := Machine.length_executions_of_error ended
    obtain ⟨_, _, steps⟩ := Machine.running_of_drive_stepLimit driven
    have uncounted := Machine.steps_of_step_error faults
    obtain rfl : count = (started.drive allowed).2.steps := by omega
    have faults : last.step.1 = .error fault := by rw [faults]
    refine ⟨last, driven, faults, ?_⟩
    rw [List.length_map, length]
    obtain ⟨undecoded, nothing⟩ | ⟨index, op, fetched, something⟩ := undecoded_or_upcoming faults
    · exact .inl ⟨undecoded, by simp [nothing]⟩
    · exact .inr ⟨⟨index, op, fetched⟩, by simp [something]⟩

/-- The report of a run tells how many steps it has counted, and traces them if it is asked to. -/
theorem traceOf_run {patience : Nat} {launch : Launch} {report : Report}
    (silent : launch.told.filter (fun notice => !notice.isLog) = [])
    (untraced : launch.told.filter Notice.isTrace = []) (traced : launch.level = .trace)
    (reported : launch.run patience = some report)
    : ∃ count,
        (∀ steps, .finished steps ∈ report.notices ↔ steps = count)
        ∧ TraceOf (allowance patience launch.options)
            (launch.machine.start launch.options.startAddress) report.traceLines count := by
  obtain ⟨outcome, stopped, _, driven, rfl⟩ := Launch.run_eq_some_iff.mp reported
  have counted : (Machine.finish outcome stopped).2.steps = stopped.steps := by
    rw [Machine.finish_snd]
  refine ⟨stopped.steps, fun steps => ?_, ?_⟩
  · have outsideLog : .finished steps ∈ (launch.report patience outcome stopped).notices
        ↔ .finished steps ∈ (launch.report patience outcome stopped).told :=
      ⟨fun member => List.mem_filter.mpr ⟨member, rfl⟩, fun kept => (List.mem_filter.mp kept).1⟩
    rw [outsideLog, told_report _ _ _ _ silent]
    cases launch.options.dump <;>
      rcases judge (Machine.finish outcome stopped).1 (Machine.finish outcome stopped).2
        with _ | _ <;>
      simp [resultNotices, failureNotices, counted]
  · have lines := traceOf_start (allowance patience launch.options) launch.machine
      launch.options.startAddress
    rw [driven] at lines
    rwa [traceLines_report _ _ _ _ untraced, traced]

end TapeMachine.Cli
