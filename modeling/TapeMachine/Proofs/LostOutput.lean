import TapeMachine.Proofs.Invocations
import TapeMachine.Proofs.Lockstep
import TapeMachine.Proofs.SampleRuns

/-! Output that cannot be delivered. A machine on a full device does what it does on one that has
room, except that everything it writes keeps waiting, until a write or a flush fails for it. So a
run on a full device ends no later, and it is a success only if there was nothing to deliver.
-/

namespace TapeMachine

-----------------------------------------------------------------------------------------
-- Consoles on a full device
-----------------------------------------------------------------------------------------

namespace Console

variable {terminal : Console}

theorem flush_of_full (full : terminal.outlet = .full)
    : terminal.flush = (if terminal.waiting = [] then .ok () else .error .noSpace, terminal) := by
  unfold flush
  rw [full]
  by_cases nothing : terminal.waiting = []
  · simp [nothing]
  · simp [nothing]

/-- A full device fails a newline at once; any other byte waits if there is a place for it. -/
theorem write_of_full (full : terminal.outlet = .full) (b : UInt8)
    : terminal.write b = (.ok (), terminal.hold b) ∧ b ≠ newline
      ∨ terminal.write b = (.error .noSpace, terminal) := by
  unfold write
  have holds : (terminal.hold b).flush = (.error .noSpace, terminal.hold b) :=
    flush_of_full full
  by_cases ends : b = newline
  · simp [ends, ends ▸ holds]
  · rw [if_neg ends]
    by_cases place : terminal.waiting.length < capacity
    · simp [place, ends]
    · have waiting : terminal.waiting ≠ [] := by
        intro nothing
        simp [nothing, capacity] at place
      simp [place, flush_of_full full, waiting]

/-- No text with a newline in it can be written to a full device, and no part of it gets
through.
-/
theorem writeAll_of_full (full : terminal.outlet = .full) {bytes : List UInt8}
    (ends : newline ∈ bytes)
    : (terminal.writeAll bytes).1 = .error .noSpace
      ∧ (terminal.writeAll bytes).2.delivered = terminal.delivered := by
  induction bytes generalizing terminal with
  | nil => cases ends
  | cons b rest ih =>
      obtain ⟨waits, other⟩ | fails := write_of_full full b
      · have later : newline ∈ rest := by
          simpa [Ne.symm other] using ends
        simp only [writeAll, waits]
        exact @ih (terminal.hold b) full later
      · simp only [writeAll, fails, and_self]

theorem flush_of_working (working : terminal.outlet = .working)
    : terminal.flush
      = (.ok (),
          { terminal with
            delivered := terminal.written
            waiting := [] }) := by
  unfold flush written
  rw [working]
  split
  · rename_i nothing
    rw [List.isEmpty_iff] at nothing
    cases terminal
    simp_all
  · rfl

/-- A newline is delivered at once by a device that has room, and nothing is taken back. -/
theorem delivered_write (working : terminal.outlet = .working) {b : UInt8}
    (ends : b = newline ∨ terminal.delivered ≠ [])
    : (terminal.write b).2.delivered ≠ [] := by
  have holding : (terminal.hold b).outlet = .working := working
  unfold write
  split
  · rw [flush_of_working holding, written_hold]
    exact List.cons_ne_nil _ _
  · rename_i other
    have before := ends.resolve_left other
    split
    · exact before
    · rw [flush_of_working working]
      exact List.append_ne_nil_of_right_ne_nil _ before

/-- A text with a newline in it does not all wait on a device that has room. -/
theorem writeAll_of_working (working : terminal.outlet = .working) {bytes : List UInt8}
    (ends : newline ∈ bytes ∨ terminal.delivered ≠ [])
    : (terminal.writeAll bytes).1 = .ok () ∧ (terminal.writeAll bytes).2.delivered ≠ [] := by
  induction bytes generalizing terminal with
  | nil => exact ⟨rfl, ends.resolve_left List.not_mem_nil⟩
  | cons b rest ih =>
      have taken := write_of_working working b
      have kept := terminal.outlet_write b
      have gone := @delivered_write terminal working b
      rcases reply : terminal.write b with ⟨_ | _, later⟩
      · rw [reply] at taken
        cases taken
      · rw [reply] at kept gone
        simp only [writeAll, reply]
        refine ih (kept.trans working) ?_
        rcases ends with newlineAhead | before
        · rcases List.mem_cons.mp newlineAhead with rfl | ahead
          · exact .inr (gone (.inl rfl))
          · exact .inl ahead
        · exact .inr (gone (.inr before))

end Console

-----------------------------------------------------------------------------------------
-- The same sink on a full device
-----------------------------------------------------------------------------------------

/-- A console that has room, and the same one on a full device: what the first has taken is still
waiting on the second.
-/
inductive Sink.Stalled : Sink → Sink → Prop
  | console {terminal : Console} (working : terminal.outlet = .working)
      : Stalled (.console terminal) (.console ⟨.full, [], terminal.written⟩)

namespace Sink.Stalled

variable {first second : Sink}

theorem succeed (stalled : Stalled first second)
    : first.FlushesSucceed := by
  cases stalled with
  | console working => exact working

/-- A flush of the full device fails exactly if anything was written. -/
theorem flush (stalled : Stalled first second)
    : second.flush = (if first.accepted = [] then .ok () else .error .noSpace, second)
      ∧ Stalled first.flush.2 second := by
  cases stalled with
  | @console terminal working =>
      have full : (⟨.full, [], terminal.written⟩ : Console).outlet = .full := rfl
      constructor
      · simp [Sink.flush, Console.flush_of_full full, accepted]
      · have kept := terminal.written_flush
        have still := terminal.outlet_flush.trans working
        simp only [Sink.flush]
        exact kept ▸ .console still

/-- A byte waits on the full device, or it fails to be written. -/
theorem write (stalled : Stalled first second) (b : UInt8)
    : (first.write b).1 = .ok ()
      ∧ (first.write b).2.accepted ≠ []
      ∧ ((second.write b).1 = .ok () ∧ Stalled (first.write b).2 (second.write b).2
        ∨ (second.write b).1 = .error .noSpace) := by
  cases stalled with
  | @console terminal working =>
      have full : (⟨.full, [], terminal.written⟩ : Console).outlet = .full := rfl
      have kept := terminal.outlet_write b
      have taken := Console.write_of_working working b
      rcases reply : terminal.write b with ⟨outcome, later⟩
      rw [reply] at kept taken
      obtain rfl : outcome = .ok () := taken
      have written := Console.written_write_ok reply
      simp only [Sink.write, reply, accepted, written]
      refine ⟨trivial, by simp, ?_⟩
      obtain ⟨waits, _⟩ | fails := Console.write_of_full full b
      · rw [waits]
        have held : (⟨.full, [], terminal.written⟩ : Console).hold b
            = ⟨.full, [], later.written⟩ := by
          rw [written]
          rfl
        rw [held]
        exact .inl ⟨rfl, .console (kept.trans working)⟩
      · rw [fails]
        exact .inr rfl

end Sink.Stalled

namespace Machine

/-- The same policy and the same input, but the output goes to a full device. -/
structure Stalled (first second : Equipment) : Prop where
  eofPolicy : second.eofPolicy = first.eofPolicy
  input : second.input = first.input
  output : first.output.Stalled second.output

/-- What can become of a machine on a full device: it did the same as the other one, or it failed
for lack of room, and the other one has written something.
-/
def Stalls {α : Type} (first second : Except Fault α × Machine) : Prop :=
  Agree Stalled first second
  ∨ second.1 = .error (.io .noSpace) ∧ first.2.output.accepted ≠ []

section Step

variable {machine : Machine} {equipment : Equipment}

/-- A step on the full device, by cases on what it asks the devices for. -/
theorem Stalled.step (stalled : Stalled machine.equipment equipment)
    : Stalls machine.step (machine.equippedWith equipment).step := by
  obtain ⟨policy, input, output⟩ := stalled
  have left := congrArg Equipment.output machine.equipment_step
  cases asks : machine.request with
  | nothing =>
      obtain ⟨kept, same⟩ := step_of_nothing asks equipment
      exact .inl ⟨equipment, kept ▸ ⟨policy, input, output⟩, same⟩
  | read cell =>
      refine .inl (agree_of_served ?_ ?_) <;> rw [asks]
      · exact ⟨policy, congrArg (·.read.1) input⟩
      · exact ⟨policy, congrArg (·.read.2) input, output⟩
  | write cell =>
      obtain ⟨taken, written, ⟨alsoTaken, still⟩ | failed⟩ := output.write (machine.tape.byte cell)
      · refine .inl (agree_of_served ?_ ?_) <;> rw [asks]
        · exact alsoTaken.trans taken.symm
        · exact ⟨policy, input, still⟩
      · rw [asks] at left
        have alsoAsks : (machine.equippedWith equipment).request = .write cell := asks
        have refused := congrArg (Except.mapError Fault.io) failed
        refine .inr ⟨(step_fst_of_write alsoAsks).trans refused, ?_⟩
        rwa [show machine.step.2.output = _ from left]
  | flush =>
      obtain ⟨reply, still⟩ := output.flush
      by_cases nothing : machine.equipment.output.accepted = []
      · rw [if_pos nothing] at reply
        refine .inl (agree_of_served ?_ ?_) <;> rw [asks]
        · exact (congrArg Prod.fst reply).trans output.succeed.flush_fst.symm
        · refine ⟨policy, input, ?_⟩
          rwa [show (equipment.served machine.tape .flush).output = equipment.output from
            congrArg Prod.snd reply]
      · rw [if_neg nothing] at reply
        rw [asks] at left
        have alsoAsks : (machine.equippedWith equipment).request = .flush := asks
        have refused := congrArg (fun reply => reply.1.mapError Fault.io) reply
        refine .inr ⟨(step_fst_of_flush alsoAsks).trans refused, ?_⟩
        rw [show machine.step.2.output = machine.equipment.output.flush.2 from left,
          Sink.accepted_flush]
        exact nothing

end Step

/-- A drive on the full device, by induction on the steps of the one that has room. Once a byte is
written it stays written, so a failure shows in the output at the end.
-/
theorem Stalled.drive {machine : Machine} {equipment : Equipment}
    (stalled : Stalled machine.equipment equipment) (budget : Nat)
    : Stalls (drive budget machine) (drive budget (machine.equippedWith equipment)) := by
  fun_induction Machine.drive budget machine generalizing equipment with
  | case1 machine => exact .inl ⟨equipment, stalled, rfl⟩
  | case2 budget machine running after stepped ih =>
      have alsoRunning : (machine.equippedWith equipment).running = true := running
      have stalls := stalled.step
      rw [stepped] at stalls
      obtain ⟨next, still, same⟩ | ⟨failed, written⟩ := stalls
      · rw [drive_succ_of_ok alsoRunning same]
        exact ih still
      · rw [drive_succ_of_error alsoRunning (Prod.ext failed rfl)]
        refine .inr ⟨rfl, fun nothing => written ?_⟩
        exact List.prefix_nil.mp (nothing ▸ accepted_drive budget after)
  | case3 budget machine running fault after stepped =>
      have alsoRunning : (machine.equippedWith equipment).running = true := running
      have stalls := stalled.step
      rw [stepped] at stalls
      obtain ⟨next, still, same⟩ | ⟨failed, written⟩ := stalls
      · rw [drive_succ_of_error alsoRunning same]
        exact .inl ⟨next, still, rfl⟩
      · rw [drive_succ_of_error alsoRunning (Prod.ext failed rfl)]
        exact .inr ⟨rfl, written⟩
  | case4 budget machine stopped =>
      have alsoStopped : (machine.equippedWith equipment).running = false :=
        Bool.not_eq_true _ ▸ stopped
      rw [drive_of_not_running alsoStopped]
      exact .inl ⟨equipment, stalled, rfl⟩

/-- A run on the full device succeeds exactly if the one that has room does and has nothing to
deliver, by how the drives ended and by the flush at the end.
-/
theorem Stalls.finish {first second : Except Fault Exit × Machine} (stalls : Stalls first second)
    (succeed : first.2.output.FlushesSucceed)
    : (finish second.1 second.2).1 = .ok .halted
      ↔ (finish first.1 first.2).1 = .ok .halted
        ∧ (finish first.1 first.2).2.output.delivered = [] := by
  have delivered : (Machine.finish first.1 first.2).2.output.delivered
      = first.2.output.accepted := by
    rw [finish_snd]
    exact succeed.delivered_flush
  rw [delivered, finish_eq_ok_iff, finish_eq_ok_iff]
  obtain ⟨equipment, stalled, rfl⟩ | ⟨failed, written⟩ := stalls
  · have output : (first.2.equippedWith equipment).output = equipment.output := rfl
    have own : first.2.equipment.output = first.2.output := rfl
    rw [output, stalled.output.flush.1, own, succeed.flush_fst]
    by_cases nothing : first.2.output.accepted = [] <;> simp [nothing]
  · simp [failed, written]

end Machine

-----------------------------------------------------------------------------------------
-- Nothing gets through to a full device
-----------------------------------------------------------------------------------------

/-- A console on a full device, to which nothing has got through. -/
inductive Sink.Blocked : Sink → Prop
  | console {terminal : Console} (full : terminal.outlet = .full)
      (nothing : terminal.delivered = []) : Blocked (.console terminal)

theorem Sink.Blocked.delivered {sink : Sink} (blocked : sink.Blocked)
    : sink.delivered = [] := by
  cases blocked with
  | console full nothing => simp [Sink.delivered, nothing]

theorem Sink.Stalled.blocked {first second : Sink} (stalled : first.Stalled second)
    : second.Blocked := by
  cases stalled with
  | console working => exact .console rfl rfl

theorem Sink.Blocked.after_use {before after : Sink} (blocked : before.Blocked)
    (used : before.UsedOnce after)
    : after.Blocked := by
  cases blocked with
  | @console terminal full nothing =>
      cases used with
      | unused => exact .console full nothing
      | written b =>
          simp only [write]
          obtain ⟨waits, _⟩ | fails := Console.write_of_full full b
          · rw [waits]
            exact .console full nothing
          · rw [fails]
            exact .console full nothing
      | flushed =>
          simp only [flush, Console.flush_of_full full]
          exact .console full nothing

/-- A run on a full device delivers nothing. -/
theorem Machine.blocked_finish_drive {machine : Machine} (blocked : machine.output.Blocked)
    (budget : Nat) (outcome : Except Fault Exit)
    : (finish outcome (drive budget machine).2).2.output.Blocked := by
  rw [finish_snd]
  have driven : (drive budget machine).2.output.Blocked := by
    apply drive_preserves (fun later => later.output.Blocked)
    · intro later kept
      exact kept.after_use later.output_step
    · exact blocked
  exact driven.after_use (.flushed _)

-----------------------------------------------------------------------------------------
-- Invocations
-----------------------------------------------------------------------------------------

namespace Cli

/-- The report of an invocation, and the report of the same one on a full device: it is a success
only where there was one and nothing to deliver, a wrong command line remains one, so does a tape
that cannot be had, and everything else is a failure.
-/
structure Report.Undelivered (report lost : Report) : Prop where
  success : lost.exitCode = 0 ↔ report.exitCode = 0 ∧ report.stdout = []
  misuse : lost.exitCode = 2 ↔ report.exitCode = 2
  overflow : lost.exitCode = 101 ↔ report.exitCode = 101
  failure
    : lost.exitCode ≠ 0 → lost.exitCode ≠ 2 → lost.exitCode ≠ 101 → lost.exitCode = 1
  nothing : lost.stdout = []

theorem undelivered_ofOutcome {stdout : List UInt8} {outcome lostOutcome : Except Failure Unit}
    (success : lostOutcome = .ok () ↔ outcome = .ok () ∧ stdout = [])
    (notices lostNotices : List Notice)
    : (Report.ofOutcome stdout notices outcome).Undelivered
        (.ofOutcome [] lostNotices lostOutcome) := by
  have code := exitCode_ofOutcome stdout notices outcome
  have lostCode := exitCode_ofOutcome [] lostNotices lostOutcome
  refine ⟨?_, by omega, by omega, by omega, stdout_ofOutcome _ _ _⟩
  rw [exitCode_ofOutcome_eq_zero_iff, exitCode_ofOutcome_eq_zero_iff, stdout_ofOutcome]
  exact success

/-- A report of a failure beyond the run of a program is the same on all devices. -/
theorem undelivered_of_failure {report : Report} (failed : report.exitCode ≠ 0)
    (known : report.exitCode = 1 ∨ report.exitCode = 2 ∨ report.exitCode = 101)
    (nothing : report.stdout = [])
    : report.Undelivered report :=
  ⟨by simp [failed], Iff.rfl, Iff.rfl, by omega, nothing⟩

/-- The listing ends with a newline, so none of it is shown as a success on a full device. -/
theorem undelivered_listTokens (environment : Environment) (source : String)
    : (listTokens { environment with stdout := .working } source).Undelivered
        (listTokens { environment with stdout := .full } source) := by
  have ends : Console.newline ∈ Text.encode (listing environment.colour source) := by
    have last : Console.newline ∈ Text.encode "\n" := by decide +kernel
    rw [listing, Text.encode_append]
    exact List.mem_append_right _ last
  obtain ⟨taken, delivered⟩ := @Console.writeAll_of_working (.ofOutlet .working) rfl _ (.inl ends)
  obtain ⟨failed, nothing⟩ := @Console.writeAll_of_full (.ofOutlet .full) rfl _ ends
  simp only [listTokens]
  rcases wrote : (Console.ofOutlet .working).writeAll
    (Text.encode (listing environment.colour source)) with ⟨outcome, console⟩
  rcases alsoWrote : (Console.ofOutlet .full).writeAll
    (Text.encode (listing environment.colour source)) with ⟨lostOutcome, lostConsole⟩
  rw [wrote] at taken delivered
  rw [alsoWrote] at failed nothing
  obtain rfl : outcome = .ok () := taken
  obtain rfl : lostOutcome = .error .noSpace := failed
  have blank : (Sink.console lostConsole).delivered = [] := congrArg List.reverse nothing
  rw [blank]
  have lost : Except.mapError Failure.output (.error .noSpace : Except Device.IoError Unit)
      = .error (.output .noSpace) := rfl
  have told : (Sink.console console).delivered ≠ [] := by
    simp [Sink.delivered, delivered]
  apply undelivered_ofOutcome
  simp [lost, told]

-----------------------------------------------------------------------------------------
-- Preparations and runs
-----------------------------------------------------------------------------------------

/-- What is prepared, and what is prepared on a full device: there is a report on both, or the same
program has been loaded.
-/
inductive Stalls : Except Report Launch → Except Report Launch → Prop
  | reports {report lost : Report} (undelivered : report.Undelivered lost)
      : Stalls (.error report) (.error lost)
  | launches {launch : Launch} {equipment : Machine.Equipment}
      (stalled : Machine.Stalled launch.machine.equipment equipment)
      : Stalls (.ok launch)
          (.ok { launch with machine := launch.machine.equippedWith equipment })

theorem stalls_load (environment : Environment) (options : Options) (source : String)
    : Stalls (load { environment with stdout := .working } options source)
        (load { environment with stdout := .full } options source) := by
  by_cases fits : options.tapeSize ≤ Tape.maximumSize
  · let machine := (Machine.create options.tapeSize (inputOf options.inputMode environment.stdin)
      (.console (.ofOutlet .working))).withEofPolicy options.eofPolicy
    let equipment : Machine.Equipment :=
      { machine.equipment with output := .console (.ofOutlet .full) }
    have creates : machineFor options environment.stdin .working = some machine :=
      machineFor_eq_some_iff.mpr ⟨fits, rfl⟩
    have alsoCreates : machineFor options environment.stdin .full
        = some (machine.equippedWith equipment) :=
      machineFor_eq_some_iff.mpr ⟨fits, rfl⟩
    have stalled : Machine.Stalled machine.equipment equipment := ⟨rfl, rfl, .console rfl⟩
    obtain ⟨kept, same⟩ := machine.load_equippedWith source options.loadAddress equipment
    simp only [load, creates, alsoCreates, same]
    rcases loads : machine.load source options.loadAddress with ⟨fault | diagnostics, loaded⟩
    · exact .reports (undelivered_ofOutcome (by simp) _ _)
    · rw [loads] at kept
      have still : Machine.Stalled loaded.equipment equipment := kept ▸ stalled
      exact @Stalls.launches ⟨environment.level, options, _, loaded⟩ equipment still
  · simp only [load, machineFor_of_overflow (Nat.not_le.mp fits)]
    exact .reports (undelivered_of_failure (by decide) (by decide) rfl)

theorem stalls_prepareOptions (environment : Environment) (options : Options)
    : Stalls (prepareOptions { environment with stdout := .working } options)
        (prepareOptions { environment with stdout := .full } options) := by
  simp only [prepareOptions]
  cases sourceOf environment.fileContent options.file with
  | error failure => exact .reports (undelivered_ofOutcome (by simp) _ _)
  | ok source =>
      by_cases listed : options.tokens = true
      · simp only [listed, if_true]
        exact .reports (undelivered_listTokens environment source)
      · simp only [if_neg listed]
        exact stalls_load environment options source

theorem undelivered_run {patience : Nat} {launch : Launch} {equipment : Machine.Equipment}
    {report : Report} (stalled : Machine.Stalled launch.machine.equipment equipment)
    (reported : launch.run patience = some report)
    : ∃ lost,
        Launch.run patience { launch with machine := launch.machine.equippedWith equipment }
          = some lost
        ∧ report.Undelivered lost := by
  obtain ⟨outcome, stopped, settled, driven, rfl⟩ := Launch.run_eq_some_iff.mp reported
  let started := launch.machine.start launch.options.startAddress
  let steps := allowance patience launch.options
  have alsoStalled : Machine.Stalled started.equipment equipment := stalled
  have stalls := alsoStalled.drive steps
  have succeed := @Machine.flushesSucceed_drive steps started stalled.output.succeed
  have blocked := fun outcome => @Machine.blocked_finish_drive
    (started.equippedWith equipment) stalled.output.blocked steps outcome
  rw [driven] at stalls succeed
  rcases alsoDriven : (started.equippedWith equipment).drive steps
    with ⟨lostOutcome, lostStopped⟩
  rw [alsoDriven] at stalls blocked
  have alsoSettled : Settled launch.options lostOutcome := by
    intro unlimited limit
    obtain ⟨_, _, same⟩ | ⟨failed, _⟩ := stalls
    · exact settled unlimited ((congrArg Prod.fst same).symm.trans limit)
    · cases limit.symm.trans failed
  refine ⟨_, Launch.run_eq_some_iff.mpr
    ⟨lostOutcome, lostStopped, alsoSettled, alsoDriven, rfl⟩, ?_⟩
  simp only [Launch.report]
  rw [(blocked lostOutcome).delivered]
  apply undelivered_ofOutcome
  rw [judge_eq_ok_iff, judge_eq_ok_iff]
  exact stalls.finish succeed

/-- Only a tape that cannot be had comes to its exit code. -/
theorem tooLong_of_exitCode {patience : Nat} {environment : Environment} {arguments : List String}
    {report : Report} (reported : invoke patience environment arguments = some report)
    (overflows : report.exitCode = 101)
    : ∃ options,
        Request.ofArguments arguments = .execute options
        ∧ Tape.maximumSize < options.tapeSize := by
  have other (stdout : List UInt8) (notices : List Notice) (outcome : Except Failure Unit)
      : (Report.ofOutcome stdout notices outcome).exitCode ≠ 101 := by
    have code := exitCode_ofOutcome stdout notices outcome
    omega
  cases prepared : prepare environment arguments with
  | error early =>
      simp only [invoke, prepared, Option.some.injEq] at reported
      subst reported
      cases ends_of_prepare prepared with
      | misused | shown => cases overflows
      | overflowing asked tooLong => exact ⟨_, asked, tooLong⟩
      | coming => exact absurd overflows (other _ _ _)
  | ok launch =>
      simp only [invoke, prepared] at reported
      obtain ⟨outcome, stopped, _, _, rfl⟩ := Launch.run_eq_some_iff.mp reported
      exact absurd overflows (other _ _ _)

/-- On a full device an invocation comes to an end if it does on one that has room, and it tells
of a success only if it has nothing to deliver; it cannot have a tape that the other one cannot
have. Left out are the invocations that show the version or the help, which succeed in any case.
-/
theorem lost_output_is_no_success {patience : Nat} {environment : Environment}
    {arguments : List String} {report : Report}
    (noVersion : Request.ofArguments arguments ≠ .version)
    (noHelp : ∀ form, Request.ofArguments arguments ≠ .help form)
    (reported : invoke patience { environment with stdout := .working } arguments = some report)
    : ∃ lost,
        invoke patience { environment with stdout := .full } arguments = some lost
        ∧ report.Undelivered lost
        ∧ (lost.exitCode = 101
          → ∃ options,
              Request.ofArguments arguments = .execute options
              ∧ Tape.maximumSize < options.tapeSize) := by
  have stalls : Stalls (prepare { environment with stdout := .working } arguments)
      (prepare { environment with stdout := .full } arguments) := by
    simp only [prepare]
    cases asked : Request.ofArguments arguments with
    | usageError => exact .reports (undelivered_of_failure (by decide) (by decide) rfl)
    | help form => exact absurd asked (noHelp form)
    | version => exact absurd asked noVersion
    | execute options => exact stalls_prepareOptions environment options
  have compared : ∃ lost,
      invoke patience { environment with stdout := .full } arguments = some lost
      ∧ report.Undelivered lost := by
    simp only [invoke] at reported ⊢
    generalize prepare { environment with stdout := .working } arguments = first at stalls reported
    generalize prepare { environment with stdout := .full } arguments = second at stalls
    cases stalls with
    | reports undelivered =>
        obtain rfl := Option.some.inj reported
        exact ⟨_, rfl, undelivered⟩
    | launches stalled => exact undelivered_run stalled reported
  obtain ⟨lost, alsoReported, undelivered⟩ := compared
  exact ⟨lost, alsoReported, undelivered, tooLong_of_exitCode alsoReported⟩

/-- Without any arguments the sample is run, which has something to deliver. -/
theorem lost_output_is_no_success_sample
    : ∃ patience report lost,
        invoke patience (.bare .working false .warn) [] = some report
        ∧ report.exitCode = 0
        ∧ invoke patience (.bare .full false .warn) [] = some lost
        ∧ lost.exitCode = 1 := by
  obtain ⟨enough, reports⟩ := @invoke_sample [] (Given.options {}) (.bare .working false .warn)
    0 rfl rfl rfl rfl rfl (by decide) (by decide) _ rfl rfl
    (fun _ pointer output loads => Structured.run_sample_on_itself loads pointer output)
  obtain ⟨notices, reported⟩ := reports enough (Nat.le_refl _)
  obtain ⟨lost, alsoReported, undelivered, tooLong⟩ := @lost_output_is_no_success enough
    (.bare .working false .warn) [] _ nofun nofun reported
  refine ⟨enough, _, lost, reported, rfl, alsoReported, undelivered.failure ?_ ?_ ?_⟩
  · rw [Ne, undelivered.success]
    exact fun nothing => List.cons_ne_nil _ _ nothing.2
  · rw [Ne, undelivered.misuse]
    simp
  · rw [Ne, undelivered.overflow]
    simp

/-- The help is a success even if all of it is lost, and a tape that is too long is more than a
failure on any device.
-/
theorem lost_help_is_a_success
    : (∃ report lost,
        invoke 0 (.bare .working false .warn) ["--help"] = some report
        ∧ report.exitCode = 0
        ∧ report.stdout ≠ []
        ∧ invoke 0 (.bare .full false .warn) ["--help"] = some lost
        ∧ lost.exitCode = 0)
      ∧ ∃ report lost,
          invoke 0 (.bare .working false .warn) ["-t", "9223372036854775808"] = some report
          ∧ report.exitCode = 101
          ∧ invoke 0 (.bare .full false .warn) ["-t", "9223372036854775808"] = some lost
          ∧ lost.exitCode = 101 := by
  have helped : Request.ofArguments ["--help"] = .help .long := by decide +kernel
  have asked : Request.ofArguments ["-t", "9223372036854775808"]
      = .execute (Given.options { tapeSize := some 9223372036854775808 }) := by
    decide +kernel
  constructor
  · have shown (stdout : Outlet)
        : invoke 0 (.bare stdout false .warn) ["--help"]
          = some (showText (.bare stdout false .warn) "Usage: bfvm [OPTIONS] [FILE]\n") := by
      simp only [invoke, prepare, helped]
      rfl
    exact ⟨_, _, shown .working, rfl, by decide +kernel, shown .full, rfl⟩
  · exact ⟨_, _, invoke_of_overflow asked rfl rfl (by decide) 0, rfl,
      invoke_of_overflow asked rfl rfl (by decide) 0, rfl⟩

end Cli

end TapeMachine
