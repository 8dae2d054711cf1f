import TapeMachine.Cli.Session
import TapeMachine.Proofs.Budgets

/-! The stages of an invocation, from the options to the report: which steps a run may take, and
when a report tells of success.
-/

namespace TapeMachine.Cli

/-- An environment without files and input, and with a help of one line. -/
def Environment.bare (stdout : Outlet) (colour : Bool) (level : Level) : Environment where
  fileContent _ := .error .notFound
  stdin := []
  stdout := stdout
  colour := colour
  level := level
  help _ _ := "Usage: bfvm [OPTIONS] [FILE]\n"

-----------------------------------------------------------------------------------------
-- Reports
-----------------------------------------------------------------------------------------

section Reports

variable (stdout : List UInt8) (notices : List Notice) (outcome : Except Failure Unit)

theorem exitCode_ofOutcome_eq_zero_iff
    : (Report.ofOutcome stdout notices outcome).exitCode = 0 ↔ outcome = .ok () := by
  rcases outcome with failure | _ <;> simp [Report.ofOutcome]

/-- A failure beyond a wrong command line has the exit code one. -/
theorem exitCode_ofOutcome
    : (Report.ofOutcome stdout notices outcome).exitCode = 0
      ∨ (Report.ofOutcome stdout notices outcome).exitCode = 1 := by
  rcases outcome with failure | _ <;> simp [Report.ofOutcome]

@[simp]
theorem stdout_ofOutcome
    : (Report.ofOutcome stdout notices outcome).stdout = stdout := by
  rcases outcome with failure | _ <;> rfl

end Reports

theorem judge_eq_ok_iff {outcome : Except Fault Machine.Exit} {machine : Machine}
    : judge outcome machine = .ok () ↔ outcome = .ok .halted := by
  rcases outcome with fault | _ | _ <;> simp [judge]

/-- The steps that a run may take: as many as the options allow, or else as many as there is
patience for.
-/
def allowance (patience : Nat) (options : Options) : Nat :=
  options.maxSteps.getD patience

/-- A run without a step limit of its own has to end before patience does. -/
def Settled (options : Options) (outcome : Except Fault Machine.Exit) : Prop :=
  options.maxSteps = none → outcome ≠ .ok .stepLimit

theorem driveWithin_eq_some_iff {patience : Nat} {options : Options} {machine : Machine}
    {result : Except Fault Machine.Exit × Machine}
    : driveWithin patience options.maxSteps machine = some result
      ↔ Settled options result.1 ∧ machine.drive (allowance patience options) = result := by
  unfold Settled allowance
  cases options.maxSteps with
  | some budget => simp [driveWithin]
  | none =>
      simp only [driveWithin, Option.getD_none, forall_const]
      constructor
      · intro found
        rcases driven : machine.drive patience with ⟨_ | _ | _, after⟩ <;>
          rw [Machine.driveToEnd, driven] at found
        · obtain rfl := Option.some.inj found
          exact ⟨nofun, rfl⟩
        · obtain rfl := Option.some.inj found
          exact ⟨nofun, rfl⟩
        · cases found
      · rintro ⟨ended, rfl⟩
        exact Machine.driveToEnd_of_ended ended

/-- The report of a run that has been driven to an outcome. -/
def Launch.report (patience : Nat) (launch : Launch) (outcome : Except Fault Machine.Exit)
    (stopped : Machine) : Report :=
  let options := launch.options
  let (result, finished) := Machine.finish outcome stopped
  .ofOutcome finished.output.delivered
    (launch.told ++ startNotices launch.level options.startAddress
      ++ stepNotices launch.level (allowance patience options) launch.machine options.startAddress
      ++ stopNotices launch.level outcome finished ++ resultNotices options.dump finished)
    (judge result finished)

/-- Running a loaded program is driving it and reporting. -/
theorem Launch.run_eq_some_iff {patience : Nat} {launch : Launch} {report : Report}
    : launch.run patience = some report
      ↔ ∃ outcome stopped,
          Settled launch.options outcome
          ∧ (launch.machine.start launch.options.startAddress).drive
              (allowance patience launch.options)
            = (outcome, stopped)
          ∧ report = launch.report patience outcome stopped := by
  simp only [Launch.run]
  constructor
  · intro reported
    split at reported
    · cases reported
    · rename_i outcome stopped driven
      obtain ⟨settled, same⟩ := driveWithin_eq_some_iff.mp driven
      exact ⟨outcome, stopped, settled, same, (Option.some.inj reported).symm⟩
  · rintro ⟨outcome, stopped, settled, same, rfl⟩
    rw [driveWithin_eq_some_iff.mpr ⟨settled, same⟩]
    rfl

-----------------------------------------------------------------------------------------
-- Preparations
-----------------------------------------------------------------------------------------

section Machines

variable {options : Options} {stdin : Device.Reader} {stdout : Outlet} {machine : Machine}

theorem machineFor_of_overflow (tooLong : Tape.maximumSize < options.tapeSize)
    : machineFor options stdin stdout = none := by
  rw [machineFor, Machine.create?, if_neg (Nat.not_le.mpr tooLong), Option.map_none]

/-- There is a machine exactly if its tape is not too long, and then it is a new one. -/
theorem machineFor_eq_some_iff
    : machineFor options stdin stdout = some machine
      ↔ options.tapeSize ≤ Tape.maximumSize
        ∧ machine = (Machine.create options.tapeSize (inputOf options.inputMode stdin)
            (.console (.ofOutlet stdout))).withEofPolicy options.eofPolicy := by
  by_cases fits : options.tapeSize ≤ Tape.maximumSize
  · rw [machineFor, Machine.create?, if_pos fits, Option.map_some, Option.some.injEq, eq_comm]
    exact (and_iff_right fits).symm
  · rw [machineFor_of_overflow (Nat.not_le.mp fits)]
    simp [fits]

end Machines

/-- An invocation gets as far as running a program: it reads the options, and this is the program
loaded on a new machine.
-/
structure Launches (environment : Environment) (arguments : List String) (launch : Launch)
    : Prop where
  asked : Request.ofArguments arguments = .execute launch.options
  unlisted : launch.options.tokens = false
  level : launch.level = environment.level
  loads
    : ∃ source machine diagnostics,
        sourceOf environment.fileContent launch.options.file = .ok source
        ∧ machineFor launch.options environment.stdin environment.stdout = some machine
        ∧ machine.load source launch.options.loadAddress = (.ok diagnostics, launch.machine)
        ∧ launch.told
          = allocationNotices environment.level machine
            ++ loadNotices environment.level launch.options.loadAddress (.ofString source)

theorem prepare_eq_ok_iff {environment : Environment} {arguments : List String} {launch : Launch}
    : prepare environment arguments = .ok launch ↔ Launches environment arguments launch := by
  constructor
  · intro prepared
    unfold prepare at prepared
    split at prepared
    · cases prepared
    · cases prepared
    · cases prepared
    · rename_i options asked
      unfold prepareOptions at prepared
      split at prepared
      · cases prepared
      · rename_i source found
        split at prepared
        · cases prepared
        · rename_i unlisted
          unfold load at prepared
          split at prepared
          · cases prepared
          · rename_i machine creates
            rcases loads : machine.load source options.loadAddress
              with ⟨fault | diagnostics, loaded⟩
            · simp only [loads] at prepared
              cases prepared
            · simp only [loads] at prepared
              cases prepared
              exact ⟨asked, Bool.not_eq_true _ ▸ unlisted, rfl,
                source, machine, diagnostics, found, creates, loads, rfl⟩
  · obtain ⟨level, options, told, loaded⟩ := launch
    rintro ⟨asked, unlisted, rfl, source, machine, diagnostics, found, creates, loads, all⟩
    dsimp only at asked unlisted found creates loads all
    subst all
    simp only [prepare, asked, prepareOptions, found, unlisted, Bool.false_eq_true, if_false, load,
      creates, loads]

/-- The report of an invocation that ends before a program runs, by what it ends with. -/
inductive Ends (environment : Environment) (arguments : List String) : Report → Prop
  | misused (asked : Request.ofArguments arguments = .usageError)
      : Ends environment arguments ⟨2, [], []⟩
  | shown (text : String)
      (asked
        : Request.ofArguments arguments = .version
          ∨ ∃ form, Request.ofArguments arguments = .help form)
      : Ends environment arguments (showText environment text)
  | overflowing {options : Options} (asked : Request.ofArguments arguments = .execute options)
      (tooLong : Tape.maximumSize < options.tapeSize)
      : Ends environment arguments .overflow
  | coming {options : Options} {stdout : List UInt8} {notices : List Notice}
      {outcome : Except Failure Unit} (asked : Request.ofArguments arguments = .execute options)
      (quiet : notices = [] ∨ ∃ machine, notices = allocationNotices environment.level machine)
      : Ends environment arguments (.ofOutcome stdout notices outcome)

theorem ends_of_prepare {environment : Environment} {arguments : List String} {report : Report}
    (prepared : prepare environment arguments = .error report)
    : Ends environment arguments report := by
  unfold prepare at prepared
  split at prepared
  · rename_i asked
    cases prepared
    exact .misused asked
  · rename_i form asked
    cases prepared
    exact .shown _ (.inr ⟨form, asked⟩)
  · rename_i asked
    cases prepared
    exact .shown _ (.inl asked)
  · rename_i options asked
    unfold prepareOptions at prepared
    split at prepared
    · cases prepared
      exact .coming asked (.inl rfl)
    · split at prepared
      · cases prepared
        exact .coming asked (.inl rfl)
      · unfold load at prepared
        split at prepared
        · rename_i nothing
          cases prepared
          refine .overflowing asked (Nat.lt_of_not_le fun fits => ?_)
          rw [machineFor_eq_some_iff.mpr ⟨fits, rfl⟩] at nothing
          cases nothing
        · rename_i machine _
          split at prepared
          · cases prepared
            exact .coming asked (.inr ⟨machine, rfl⟩)
          · cases prepared

end TapeMachine.Cli
