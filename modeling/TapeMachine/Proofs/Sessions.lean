import TapeMachine.Proofs.ArrivingInput
import TapeMachine.Proofs.LostOutput
import TapeMachine.Proofs.Stages

/-! A session, in which stages are carried out one after the other while input arrives and output
leaves. It comes to the same as the invocation that has all its input beforehand and knows whether
its device has room.
-/

namespace TapeMachine

-----------------------------------------------------------------------------------------
-- Sinks that deliver nothing
-----------------------------------------------------------------------------------------

namespace Console

variable {terminal : Console} (working : terminal.outlet = .working)

/-- The console in front of another device. -/
def onto (outlet : Outlet) (terminal : Console) : Console :=
  { terminal with outlet := outlet }

include working

/-- A flush that delivers nothing is the same on a full device. -/
theorem flush_onto_full (silent : terminal.flush.2.delivered = [])
    : (terminal.onto .full).flush = (terminal.flush.1, terminal.flush.2.onto .full) := by
  have nothing : terminal.waiting = [] := by
    rw [flush_of_working working] at silent
    exact (List.append_eq_nil_iff.mp silent).1
  simp [flush, onto, nothing]

/-- A write that delivers nothing is the same on a full device. -/
theorem write_onto_full {b : UInt8} (silent : (terminal.write b).2.delivered = [])
    : (terminal.onto .full).write b
      = ((terminal.write b).1, (terminal.write b).2.onto .full) := by
  have other : b ≠ newline := fun ends => delivered_write working (.inl ends) silent
  unfold write at silent ⊢
  rw [if_neg other] at silent ⊢
  by_cases place : terminal.waiting.length < capacity
  · have alsoPlace : (terminal.onto .full).waiting.length < capacity := place
    rw [if_pos place, if_neg other, if_pos alsoPlace]
    rfl
  · rw [if_neg place, flush_of_working working] at silent
    have nothing : terminal.waiting = [] := (List.append_eq_nil_iff.mp silent).1
    simp [nothing, capacity] at place

theorem writeAll_onto_full {bytes : List UInt8}
    (silent : (terminal.writeAll bytes).2.delivered = [])
    : (terminal.onto .full).writeAll bytes
      = ((terminal.writeAll bytes).1, (terminal.writeAll bytes).2.onto .full) := by
  induction bytes generalizing terminal with
  | nil => rfl
  | cons b rest ih =>
      have taken := write_of_working working b
      have still := (terminal.outlet_write b).trans working
      rcases reply : terminal.write b with ⟨outcome, later⟩
      rw [reply] at taken still
      obtain rfl : outcome = .ok () := taken
      simp only [writeAll, reply] at silent ⊢
      have quiet : later.delivered = [] := Decidable.byContradiction
        (fun something => (writeAll_of_working still (.inr something)).2 silent)
      have same := @write_onto_full terminal working b (by rw [reply]; exact quiet)
      rw [reply] at same
      simp only [same]
      exact ih still silent

/-- Writing does not change the device. -/
theorem outlet_writeAll (bytes : List UInt8)
    : (terminal.writeAll bytes).2.outlet = .working := by
  induction bytes generalizing terminal with
  | nil => exact working
  | cons b rest ih =>
      have still := (terminal.outlet_write b).trans working
      rcases reply : terminal.write b with ⟨_ | _, later⟩ <;> rw [reply] at still <;>
        simp only [writeAll, reply]
      · exact still
      · exact ih still

end Console

namespace Sink

variable {sink : Sink} {outlet : Outlet}

theorem onto_onto (first second : Outlet)
    : (sink.onto first).onto second = sink.onto second := by
  cases sink <;> rfl

theorem outlet_of_onto {terminal : Console}
    (there : (console terminal).onto outlet = .console terminal)
    : terminal.outlet = outlet := by
  injection there with same
  rw [← same]

/-- Whatever goes to a device goes there after every use. -/
theorem UsedOnce.onto {after : Sink} (used : sink.UsedOnce after)
    (there : sink.onto outlet = sink)
    : after.onto outlet = after := by
  cases sink with
  | scripted device => cases used <;> rfl
  | console terminal =>
      have own := outlet_of_onto there
      have still (later : Console) (kept : later.outlet = terminal.outlet)
          : (Sink.console later).onto outlet = .console later := by
        rw [Sink.onto, ← own, ← kept]
      cases used with
      | unused => exact still terminal rfl
      | written b => exact still _ (terminal.outlet_write b)
      | flushed => exact still _ terminal.outlet_flush

variable (working : sink.onto .working = sink)
include working

/-- A write that delivers nothing is the same on a full device. -/
theorem write_onto_full {b : UInt8}
    (silent : (sink.write b).1 = .ok () → (sink.write b).2.delivered = [])
    : (sink.onto .full).write b = ((sink.write b).1, (sink.write b).2.onto .full) := by
  cases sink with
  | scripted device => rfl
  | console terminal =>
      have room := outlet_of_onto working
      have quiet := List.reverse_eq_nil_iff.mp (silent (Console.write_of_working room b))
      exact congrArg (fun reply => (reply.1, Sink.console reply.2))
        (Console.write_onto_full room quiet)

theorem flush_onto_full (silent : sink.flush.1 = .ok () → sink.flush.2.delivered = [])
    : (sink.onto .full).flush = (sink.flush.1, sink.flush.2.onto .full) := by
  cases sink with
  | scripted device => rfl
  | console terminal =>
      have room := outlet_of_onto working
      have quiet := List.reverse_eq_nil_iff.mp
        (silent (@FlushesSucceed.flush_fst (.console terminal) room))
      exact congrArg (fun reply => (reply.1, Sink.console reply.2))
        (Console.flush_onto_full room quiet)

end Sink

-----------------------------------------------------------------------------------------
-- Steps that deliver nothing
-----------------------------------------------------------------------------------------

namespace Machine

variable {machine : Machine}

/-- The machine with its output in front of another device. -/
def onto (outlet : Outlet) (machine : Machine) : Machine :=
  { machine with output := machine.output.onto outlet }

theorem onto_onto (first second : Outlet)
    : (machine.onto first).onto second = machine.onto second := by
  simp only [onto, Sink.onto_onto]

theorem step_onto_self {outlet : Outlet} (there : machine.onto outlet = machine)
    : machine.step.2.onto outlet = machine.step.2 := by
  have own : machine.output.onto outlet = machine.output := congrArg Machine.output there
  simp only [onto, machine.output_step.onto own]

/-- A step is the same on another device if the device gives the same reply, and afterwards too its
output is in front of that device.
-/
theorem step_onto_of_served {outlet : Outlet}
    (same : SameReply machine.equipment (machine.onto outlet).equipment machine.tape
      machine.request)
    (served : (machine.onto outlet).equipment.served machine.tape machine.request
      = { machine.equipment.served machine.tape machine.request with
          output :=
            (machine.equipment.served machine.tape machine.request).output.onto outlet })
    : (machine.onto outlet).step = (machine.step.1, machine.step.2.onto outlet) := by
  have stepped := step_equippedWith same
  rw [served, ← machine.equipment_step] at stepped
  exact stepped

/-- A step that asks the output for nothing is the same on all devices. -/
theorem step_onto_of_unwritten (outlet : Outlet) (noWrite : ∀ cell, machine.request ≠ .write cell)
    (noFlush : machine.request ≠ .flush)
    : (machine.onto outlet).step = (machine.step.1, machine.step.2.onto outlet) := by
  cases asks : machine.request with
  | nothing => exact step_onto_of_served (asks ▸ trivial) (asks ▸ rfl)
  | read cell => exact step_onto_of_served (asks ▸ ⟨rfl, rfl⟩) (asks ▸ rfl)
  | write cell => exact absurd asks (noWrite cell)
  | flush => exact absurd asks noFlush

/-- A step that delivers nothing is the same on a full device. -/
theorem step_onto_full (working : machine.onto .working = machine)
    (quiet : machine.step.1 = .ok () → machine.step.2.output.delivered = [])
    : (machine.onto .full).step = (machine.step.1, machine.step.2.onto .full) := by
  have room : machine.output.onto .working = machine.output := congrArg Machine.output working
  have left := congrArg Equipment.output machine.equipment_step
  cases asks : machine.request with
  | nothing | read cell =>
      exact step_onto_of_unwritten .full (by simp [asks]) (by simp [asks])
  | write cell =>
      have reply : (machine.onto .full).equipment.output.write (machine.tape.byte cell)
          = ((machine.output.write (machine.tape.byte cell)).1,
              (machine.output.write (machine.tape.byte cell)).2.onto .full) := by
        refine Sink.write_onto_full room (fun taken => ?_)
        rw [asks] at left
        rw [step_fst_of_write asks, taken, show machine.step.2.output = _ from left] at quiet
        exact quiet rfl
      apply step_onto_of_served <;> rw [asks]
      · simp only [SameReply, reply]
        rfl
      · simp only [Equipment.served, reply]
        rfl
  | flush =>
      have reply : (machine.onto .full).equipment.output.flush
          = (machine.output.flush.1, machine.output.flush.2.onto .full) := by
        refine Sink.flush_onto_full room (fun flushed => ?_)
        rw [asks] at left
        rw [step_fst_of_flush asks, flushed, show machine.step.2.output = _ from left] at quiet
        exact quiet rfl
      apply step_onto_of_served <;> rw [asks]
      · simp only [SameReply, reply]
        rfl
      · simp only [Equipment.served, reply]
        rfl

theorem load_onto (outlet : Outlet) (source : String) (address : Int)
    : (machine.onto outlet).load source address
      = ((machine.load source address).1, (machine.load source address).2.onto outlet) := by
  have loads := (machine.load_equippedWith source address (machine.onto outlet).equipment).2
  have kept := (machine.load_equippedWith source address machine.equipment).1
  refine loads.trans (congrArg (Prod.mk _) ?_)
  simp only [equippedWith, onto, equipment, Equipment.mk.injEq] at kept ⊢
  simp only [kept]

theorem finish_onto_full {outcome : Except Fault Exit} (working : machine.onto .working = machine)
    (quiet : (finish outcome machine).2.output.delivered = [])
    : finish outcome (machine.onto .full)
      = ((finish outcome machine).1, (finish outcome machine).2.onto .full) := by
  have room : machine.output.onto .working = machine.output := congrArg Machine.output working
  rw [finish_snd] at quiet
  have reply : (machine.onto .full).output.flush
      = (machine.output.flush.1, machine.output.flush.2.onto .full) :=
    Sink.flush_onto_full room (fun _ => quiet)
  unfold finish
  rw [reply]
  rcases machine.output.flush with ⟨_ | _, later⟩ <;> cases outcome <;> rfl

end Machine

namespace Cli

-----------------------------------------------------------------------------------------
-- Stages on a device
-----------------------------------------------------------------------------------------

namespace Run

variable {run : Run} {outlet : Outlet}

theorem onto_onto (first second : Outlet)
    : (run.onto first).onto second = run.onto second := by
  simp only [onto, Sink.onto_onto]

/-- A stage is the same on another device if the step that it takes is. -/
theorem proceed_onto
    (stepped : run.exit? = none
      → (run.machine.onto outlet).step = (run.machine.step.1, run.machine.step.2.onto outlet))
    : (run.onto outlet).proceed = run.proceed.onto outlet := by
  have sameExit : (run.onto outlet).exit? = run.exit? := rfl
  have sameNotices : (run.onto outlet).stepNotices = run.stepNotices := rfl
  unfold proceed
  rw [sameExit, sameNotices]
  cases exits : run.exit? with
  | some exit => rfl
  | none =>
      simp only [takeStep]
      rw [show (run.onto outlet).machine = run.machine.onto outlet from rfl, stepped exits]
      rcases run.machine.step with ⟨_ | _, after⟩
      · rfl
      · cases reached : after.output <;>
          simp [Machine.onto, reached, Sink.onto, Sink.delivered, Sink.emptied, Stage.onto,
            Remainder.onto, Run.onto]

/-- A stage that has nothing to write is the same on all devices. -/
theorem proceed_onto_of_silent (outlet : Outlet) (silent : run.mayDeliver = false)
    : (run.onto outlet).proceed = run.proceed.onto outlet := by
  apply proceed_onto
  intro goesOn
  apply Machine.step_onto_of_unwritten
  · intro cell asks
    obtain ⟨⟨index, fetched⟩, _⟩ := Machine.request_eq_write_iff.mp asks
    simp [mayDeliver, goesOn, Machine.upcoming, fetched] at silent
  · intro asks
    have fetched := Machine.request_eq_flush_iff.mp asks
    simp [mayDeliver, goesOn, Machine.upcoming, fetched] at silent

/-- A stage that delivers nothing is the same on a full device. -/
theorem proceed_onto_full (working : run.machine.onto .working = run.machine)
    (quiet : run.proceed.stdout = [])
    : (run.onto .full).proceed = run.proceed.onto .full := by
  apply proceed_onto
  intro goesOn
  refine Machine.step_onto_full working (fun taken => ?_)
  simp only [proceed, goesOn, takeStep] at quiet
  rcases stepped : run.machine.step with ⟨_ | _, after⟩ <;> rw [stepped] at quiet taken
  · cases taken
  · exact quiet

theorem proceed_onto_self (there : run.machine.onto outlet = run.machine)
    : run.proceed.onto outlet = run.proceed := by
  have own : run.onto outlet = run := by
    rw [Run.onto, ← Machine.onto, there]
  rw [← proceed_onto, own]
  intro _
  rw [there, Machine.step_onto_self there]

theorem conclude_onto_full {outcome : Except Fault Machine.Exit}
    (working : run.machine.onto .working = run.machine)
    (quiet : (run.conclude outcome).stdout = [])
    : (run.onto .full).conclude outcome = (run.conclude outcome).onto .full := by
  have delivered : (Machine.finish outcome run.machine).2.output.delivered = [] := by
    simpa only [conclude, Stage.ofReport, stdout_ofOutcome] using quiet
  have finished := Machine.finish_onto_full working delivered
  have alsoDelivered (machine : Machine)
      : (machine.onto .full).output.delivered = machine.output.delivered := by
    cases reached : machine.output <;> simp [Machine.onto, reached, Sink.onto, Sink.delivered]
  unfold conclude
  rw [show (run.onto .full).machine = run.machine.onto .full from rfl, finished]
  simp only [alsoDelivered]
  rcases Machine.finish outcome run.machine with ⟨_ | _ | _, reached⟩ <;> cases outcome <;> rfl

end Run

namespace Remainder

variable (remainder : Remainder)

theorem next_onto_self (outlet : Outlet)
    : (remainder.onto outlet).next.onto outlet = (remainder.onto outlet).next := by
  cases remainder with
  | ended exitCode => rfl
  | running run => exact Run.proceed_onto_self (Machine.onto_onto outlet outlet)
  | ending run outcome => rfl

/-- A stage that delivers nothing is the same on a full device. -/
theorem next_onto_full (quiet : (remainder.onto .working).next.stdout = [])
    : (remainder.onto .full).next = (remainder.onto .working).next.onto .full := by
  cases remainder with
  | ended exitCode => rfl
  | running run =>
      have same := @Run.proceed_onto_full (run.onto .working) (Machine.onto_onto _ _) quiet
      rwa [Run.onto_onto] at same
  | ending run outcome =>
      have same := @Run.conclude_onto_full (run.onto .working) outcome (Machine.onto_onto _ _) quiet
      rwa [Run.onto_onto] at same

theorem next_onto_of_silent (outlet : Outlet) (silent : remainder.mayDeliver = false)
    : (remainder.onto outlet).next = remainder.next.onto outlet := by
  cases remainder with
  | ended exitCode => rfl
  | running run => exact Run.proceed_onto_of_silent outlet silent
  | ending run outcome => cases silent

end Remainder

namespace Stage

/-- A stage that is tried comes to what it is on the device. -/
theorem tried_onto {act : Outlet → Stage} (self : ∀ outlet, (act outlet).onto outlet = act outlet)
    (full : (act .working).stdout = [] → act .full = (act .working).onto .full) (outlet : Outlet)
    : (tried outlet act).onto outlet = act outlet := by
  unfold tried
  dsimp only
  split
  · rename_i quiet
    cases outlet with
    | working => exact self .working
    | full => exact (full (List.isEmpty_iff.mp quiet)).symm
  · exact self outlet

theorem behind_onto (first later : Stage) (outlet : Outlet)
    : (first.behind later).onto outlet = first.behind (later.onto outlet) :=
  rfl

/-- The next stage of a session is the next stage on the device. -/
theorem onward_onto (stage : Stage) (outlet : Outlet)
    : (stage.onward outlet).onto outlet = (stage.onto outlet).next := by
  have next : (stage.onto outlet).next = stage.behind (stage.remainder.onto outlet).next := rfl
  rw [next]
  unfold onward
  cases silent : stage.remainder.mayDeliver with
  | true =>
      rw [if_pos rfl, behind_onto, tried_onto stage.remainder.next_onto_self
        stage.remainder.next_onto_full]
  | false =>
      rw [if_neg Bool.false_ne_true, stage.remainder.next_onto_of_silent outlet silent]
      rfl

theorem report?_onto (stage : Stage) (outlet : Outlet)
    : (stage.onto outlet).report? = stage.report? := by
  obtain ⟨stdout, notices, _ | _ | _⟩ := stage <;> rfl

end Stage

-----------------------------------------------------------------------------------------
-- Preparations on a device
-----------------------------------------------------------------------------------------

section Preparations

variable (environment : Environment)

/-- A text of which nothing is delivered has nothing in it, so a full device does not lose it. -/
theorem showText_full {text : String}
    (quiet : (showText { environment with stdout := .working } text).stdout = [])
    : showText { environment with stdout := .full } text
      = showText { environment with stdout := .working } text := by
  simp only [showText, Sink.delivered, List.reverse_eq_nil_iff] at quiet ⊢
  have room := @Console.outlet_writeAll (.ofOutlet .working) rfl (Text.encode text)
  have unwritten : ((Console.ofOutlet .working).writeAll (Text.encode text)).2.delivered = [] := by
    rw [Console.flush_of_working room] at quiet
    exact (List.append_eq_nil_iff.mp quiet).2
  have same := Console.writeAll_onto_full rfl unwritten
  rw [show (Console.ofOutlet .working).onto .full = .ofOutlet .full from rfl] at same
  rw [same, Console.flush_onto_full room quiet]
  rfl

/-- A listing of which nothing is delivered has nothing in it. -/
theorem listTokens_full {source : String}
    (quiet : (listTokens { environment with stdout := .working } source).stdout = [])
    : listTokens { environment with stdout := .full } source
      = listTokens { environment with stdout := .working } source := by
  simp only [listTokens, stdout_ofOutcome, Sink.delivered, List.reverse_eq_nil_iff] at quiet ⊢
  have same := Console.writeAll_onto_full rfl quiet
  rw [show (Console.ofOutlet .working).onto .full = .ofOutlet .full from rfl] at same
  rw [same]
  rfl

/-- The same program with its output in front of another device. -/
def Launch.onto (outlet : Outlet) (launch : Launch) : Launch :=
  { launch with machine := launch.machine.onto outlet }

theorem machineFor_onto (options : Options) (stdin : Device.Reader) (first second : Outlet)
    : machineFor options stdin second
      = (machineFor options stdin first).map (Machine.onto second) := by
  unfold machineFor Machine.create?
  split <;> rfl

/-- A program is loaded in the same way, whatever its output goes to. -/
theorem load_onto (options : Options) (source : String) (first second : Outlet)
    : load { environment with stdout := second } options source
      = (load { environment with stdout := first } options source).map (Launch.onto second) := by
  simp only [load, machineFor_onto options environment.stdin first second]
  cases machineFor options environment.stdin first with
  | none => rfl
  | some machine =>
      simp only [Option.map_some, Machine.load_onto]
      rcases machine.load source options.loadAddress with ⟨_ | _, _⟩ <;> rfl

/-- A first stage that delivers nothing is the same on a full device. -/
theorem begin_onto_full {arguments : List String}
    (quiet : (begin { environment with stdout := .working } arguments).stdout = [])
    : begin { environment with stdout := .full } arguments
      = (begin { environment with stdout := .working } arguments).onto .full := by
  simp only [begin, prepare] at quiet ⊢
  cases asked : Request.ofArguments arguments with
  | usageError => rfl
  | help _ | version =>
      simp only [asked] at quiet ⊢
      rw [showText_full environment quiet]
      rfl
  | execute options =>
      simp only [asked, prepareOptions] at quiet ⊢
      cases found : sourceOf environment.fileContent options.file with
      | error failure => rfl
      | ok source =>
          simp only [found] at quiet ⊢
          cases listed : options.tokens with
          | true =>
              simp only [listed, if_true] at quiet ⊢
              rw [listTokens_full environment quiet]
              rfl
          | false =>
              simp only [Bool.false_eq_true, if_false]
              rw [load_onto environment options source .working .full]
              cases load { environment with stdout := .working } options source <;> rfl

/-- What an invocation has loaded writes to its device. -/
theorem begin_onto_self (outlet : Outlet) (arguments : List String)
    : (begin { environment with stdout := outlet } arguments).onto outlet
      = begin { environment with stdout := outlet } arguments := by
  simp only [begin]
  cases prepared : prepare { environment with stdout := outlet } arguments with
  | error report => rfl
  | ok launch =>
      obtain ⟨source, machine, diagnostics, _, creates, loads, _⟩ :=
        (prepare_eq_ok_iff.mp prepared).loads
      have there : machine.onto outlet = machine := by
        have again := machineFor_onto launch.options environment.stdin outlet outlet
        rw [creates, Option.map_some] at again
        exact (Option.some.inj again).symm
      have kept := machine.load_onto outlet source launch.options.loadAddress
      rw [there, loads] at kept
      have same : launch.machine.onto outlet = launch.machine := (Prod.mk.inj kept).2.symm
      have started : (launch.machine.start launch.options.startAddress).onto outlet
          = launch.machine.start launch.options.startAddress :=
        congrArg (Machine.start · launch.options.startAddress) same
      exact congrArg
        (fun machine => Stage.mk [] launch.introduction
          (.running ⟨launch.level, launch.options, machine⟩))
        started

theorem opening_onto (outlet : Outlet) (arguments : List String)
    : (Stage.opening outlet environment arguments).onto outlet
      = begin { environment with stdout := outlet } arguments :=
  Stage.tried_onto (begin_onto_self environment · arguments) (begin_onto_full environment) outlet

end Preparations

-----------------------------------------------------------------------------------------
-- Sessions
-----------------------------------------------------------------------------------------

namespace Stage

/-- A stage as it is if all the coming input is known and the device is settled. -/
def foreseen (outlet : Outlet) (coming : Device.Reader) (stage : Stage) : Stage :=
  (stage.supply coming).onto outlet

theorem onto_supply (outlet : Outlet) (more : Device.Reader) (stage : Stage)
    : (stage.onto outlet).supply more = (stage.supply more).onto outlet := by
  obtain ⟨stdout, notices, _ | _ | _⟩ := stage <;> rfl

theorem supply_nil (stage : Stage)
    : stage.supply [] = stage := by
  obtain ⟨stdout, notices, _ | run | ⟨run, outcome⟩⟩ := stage <;>
    simp [supply, Remainder.supply, Run.supply, Input.supply_nil]

theorem supply_cons (event : Device.Event) (coming : Device.Reader) (stage : Stage)
    : stage.supply (event :: coming) = (stage.supply [event]).supply coming := by
  obtain ⟨stdout, notices, _ | run | ⟨run, outcome⟩⟩ := stage <;>
    simp only [supply, Remainder.supply, Run.supply, Input.supply_cons coming event]

/-- If an invocation does not wait for input, its session goes on with its next stage. -/
theorem foreseen_onward {outlet : Outlet} {coming : Device.Reader} {stage : Stage}
    (goesOn : coming = [] ∨ stage.remainder.isStarved = false)
    : (stage.onward outlet).foreseen outlet coming = (stage.foreseen outlet coming).next := by
  rw [foreseen, foreseen, ← onto_supply, ← onto_supply, onward_onto]
  obtain rfl | fed := goesOn
  · rw [supply_nil, supply_nil]
  · have alsoFed : (stage.onto outlet).remainder.isStarved = false := by
      obtain ⟨stdout, notices, _ | _ | _⟩ := stage <;> exact fed
    rw [next_supply coming alsoFed]

/-- A session goes on with the stages of the invocation whenever no input arrives, by induction on
what happens in it.
-/
theorem foreseen_attend (stage : Stage) (outlet : Outlet) (count : Nat) (coming : Device.Reader)
    : ∃ taken rest,
        (stage.attend outlet count coming).foreseen outlet rest
          = (stage.foreseen outlet coming).advance taken
        ∧ taken + coming.length = count + rest.length := by
  induction count generalizing stage coming with
  | zero => exact ⟨0, coming, rfl, by omega⟩
  | succ count ih =>
      cases coming with
      | nil =>
          obtain ⟨taken, rest, same, counted⟩ := ih (stage.onward outlet) []
          rw [foreseen_onward (.inl rfl)] at same
          exact ⟨taken + 1, rest, same, by omega⟩
      | cons event coming =>
          cases waits : stage.remainder.isStarved with
          | true =>
              obtain ⟨taken, rest, same, counted⟩ := ih (stage.supply [event]) coming
              have known : (stage.supply [event]).foreseen outlet coming
                  = stage.foreseen outlet (event :: coming) := by
                rw [foreseen, foreseen, supply_cons event coming stage]
              rw [known] at same
              refine ⟨taken, rest, ?_, by rw [List.length_cons]; omega⟩
              rwa [attend, if_pos waits]
          | false =>
              obtain ⟨taken, rest, same, counted⟩ := ih (stage.onward outlet) (event :: coming)
              rw [foreseen_onward (.inr waits)] at same
              refine ⟨taken + 1, rest, ?_, by omega⟩
              rwa [attend, if_neg (by simp [waits])]

theorem report?_foreseen (outlet : Outlet) (coming : Device.Reader) (stage : Stage)
    : (stage.foreseen outlet coming).report? = stage.report? := by
  rw [foreseen, report?_onto, report?_supply]

end Stage

/-- A session comes to a report exactly if the invocation does that has all its input beforehand and
knows its device, and then it is the same one.
-/
theorem session_report_iff {outlet : Outlet} {environment : Environment} {arguments : List String}
    {coming : Device.Reader} {report : Report}
    : (∃ count,
        ((Stage.opening outlet environment arguments).attend outlet count coming).report?
        = some report)
      ↔ ∃ patience,
          invoke patience
              { environment with
                stdin := environment.stdin ++ coming
                stdout := outlet }
              arguments
            = some report := by
  rw [← stages_report_iff]
  have start : (Stage.opening outlet environment arguments).foreseen outlet coming
      = begin
          { environment with
            stdin := environment.stdin ++ coming
            stdout := outlet }
          arguments := by
    rw [Stage.foreseen, ← Stage.onto_supply, opening_onto,
      begin_append coming { environment with stdout := outlet }]
  constructor
  · rintro ⟨count, ended⟩
    obtain ⟨taken, rest, same, _⟩ :=
      (Stage.opening outlet environment arguments).foreseen_attend outlet count coming
    rw [start] at same
    exact ⟨taken, by rw [← same, Stage.report?_foreseen, ended]⟩
  · rintro ⟨count, ended⟩
    obtain ⟨taken, rest, same, counted⟩ :=
      (Stage.opening outlet environment arguments).foreseen_attend outlet
        (count + coming.length) coming
    rw [start] at same
    obtain ⟨extra, rfl⟩ : ∃ extra, taken = count + extra := ⟨taken - count, by omega⟩
    refine ⟨count + coming.length, ?_⟩
    rw [← Stage.report?_foreseen outlet rest, same, Stage.advance_add]
    exact Stage.report?_advance ended extra

end Cli

end TapeMachine
