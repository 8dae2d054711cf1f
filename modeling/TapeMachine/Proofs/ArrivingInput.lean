import TapeMachine.Cli.Stages
import TapeMachine.Proofs.Invocations
import TapeMachine.Proofs.Lockstep
import TapeMachine.Proofs.ReaderSignals

/-! Input that arrives while an invocation is under way. As long as a read does not come to the end
of what is known of the device, it makes no difference what the device will find behind that.
-/

namespace TapeMachine

-----------------------------------------------------------------------------------------
-- Reads from a device of which more becomes known
-----------------------------------------------------------------------------------------

namespace Device.Reader

variable (more : Reader)

theorem readByte_append {reader : Reader} (wet : reader.isDry = false)
    : (reader ++ more).readByte = (reader.readByte.1, reader.readByte.2 ++ more) := by
  fun_induction isDry reader with
  | case1 => cases wet
  | case2 later ih => exact ih wet
  | case3 b chunk later => rfl
  | case4 later => rfl
  | case5 error later ih =>
      simp only [List.cons_append, readByte]
      cases seen : error.isInterrupted with
      | false => simp
      | true =>
          rw [seen, Bool.true_and] at wet
          simp [ih wet]

theorem readLineFrom_append {reader : Reader} (ended : reader.isUnended = false)
    (line : List UInt8)
    : readLineFrom line (reader ++ more)
      = ((readLineFrom line reader).1, (readLineFrom line reader).2 ++ more) := by
  fun_induction isUnended reader generalizing line with
  | case1 => cases ended
  | case2 chunk later ih =>
      simp only [List.cons_append, readLineFrom]
      split
      · rename_i whole
        rw [whole, List.isEmpty_nil, Bool.true_and] at ended
        exact ih ended _
      · rfl
  | case3 later => rfl
  | case4 error later ih =>
      simp only [List.cons_append, readLineFrom]
      cases seen : error.isInterrupted with
      | false => simp
      | true =>
          rw [seen, Bool.true_and] at ended
          simp [ih ended]

end Device.Reader

namespace Input

variable (more : Device.Reader)

open Device (Reader)

/-- A word is the same if more comes behind its line, by the lines that are passed over. -/
theorem readWord_append {reader : Reader} (found : isWordless reader = false)
    : readWord (reader ++ more)
      = ((readWord reader).1, (readWord reader).2.1, (readWord reader).2.2 ++ more) := by
  have lines {reader later : Reader} {outcome : Except Device.IoError (List UInt8)}
      (ended : ¬ reader.isUnended = true) (line : reader.readLine = (outcome, later))
      : (reader ++ more).readLine = (outcome, later ++ more) := by
    have longer := Reader.readLineFrom_append more (Bool.not_eq_true _ ▸ ended) []
    rwa [← Reader.readLine, ← Reader.readLine, line] at longer
  fun_induction isWordless reader with
  | case1 reader unended => cases found
  | case2 reader ended error later line =>
      rw [readWord_of_line line, readWord_of_line (lines ended line)]
  | case3 reader ended later line =>
      simp only [readWord_of_line line, readWord_of_line (lines ended line), if_true]
  | case4 reader ended bytes later line nonempty undecoded =>
      simp only [readWord_of_line line, readWord_of_line (lines ended line), if_neg nonempty,
        undecoded]
  | case5 reader ended bytes later line nonempty text decoded ih =>
      simp only [readWord_of_line line, readWord_of_line (lines ended line), if_neg nonempty,
        decoded]
      split
      · rename_i blank
        rw [blank, List.isEmpty_nil, Bool.true_and] at found
        exact ih found
      · rfl

theorem supply_nil (input : Input)
    : input.supply [] = input := by
  cases input <;> simp [supply]

theorem supply_cons (event : Device.Event) (input : Input)
    : input.supply (event :: more) = (input.supply [event]).supply more := by
  cases input <;> simp [supply]

/-- An input that does not wait for its device gives the same whatever that will still find. -/
theorem read_supply {input : Input} (fed : input.isStarved = false)
    : (input.supply more).read = (input.read.1, input.read.2.supply more) := by
  cases input with
  | bytes reader =>
      simp only [supply, read, Reader.readByte_append more fed]
      rcases reader.readByte with ⟨_ | _ | b, later⟩ <;> rfl
  | decimal reader pending =>
      cases pending with
      | nil =>
          simp only [supply, read, readWord_append more fed]
          rcases readWord reader with ⟨_ | _ | word, pending, later⟩ <;> rfl
      | cons word pending => rfl
  | values outcomes =>
      cases outcomes <;> rfl

end Input

-----------------------------------------------------------------------------------------
-- Steps on an input of which more becomes known
-----------------------------------------------------------------------------------------

namespace Machine

variable {machine : Machine} (more : Device.Reader)

/-- The machine when more is known of the device of its input. -/
def supplied (machine : Machine) : Machine :=
  { machine with input := machine.input.supply more }

theorem isAboutToRead_iff
    : machine.isAboutToRead = true ↔ ∃ cell, machine.request = .read cell := by
  simp only [request_eq_read_iff, isAboutToRead, upcoming]
  cases fetched : machine.fetch with
  | error fault => simp
  | ok request =>
      cases request with
      | halt => simp
      | instruction index op =>
          cases located : machine.tape.locate machine.dataPointer <;>
            simp [Except.isOk, Except.toBool]

/-- A step that does not wait for the input is the same whatever will still arrive. -/
theorem step_supplied (fed : machine.isAboutToRead = true → machine.input.isStarved = false)
    : (machine.supplied more).step = (machine.step.1, machine.step.2.supplied more) := by
  have served : SameReply machine.equipment (machine.supplied more).equipment machine.tape
        machine.request
      ∧ (machine.supplied more).equipment.served machine.tape machine.request
        = { machine.equipment.served machine.tape machine.request with
            input :=
              (machine.equipment.served machine.tape machine.request).input.supply more } := by
    cases asks : machine.request with
    | nothing => exact ⟨trivial, rfl⟩
    | write cell => exact ⟨rfl, rfl⟩
    | flush => exact ⟨rfl, rfl⟩
    | read cell =>
        have same : (machine.supplied more).equipment.input.read = _ :=
          Input.read_supply more (fed (isAboutToRead_iff.mpr ⟨cell, asks⟩))
        simp only [SameReply, Equipment.served, same]
        exact ⟨⟨rfl, rfl⟩, rfl⟩
  have stepped := step_equippedWith served.1
  rw [served.2, ← machine.equipment_step] at stepped
  exact stepped

theorem load_supplied (source : String) (address : Int)
    : (machine.supplied more).load source address
      = ((machine.load source address).1, (machine.load source address).2.supplied more) := by
  have loads := (machine.load_equippedWith source address (machine.supplied more).equipment).2
  have kept := (machine.load_equippedWith source address machine.equipment).1
  refine loads.trans (congrArg (Prod.mk _) ?_)
  simp only [equippedWith, supplied, equipment, Equipment.mk.injEq] at kept ⊢
  simp only [kept]

theorem finish_supplied (outcome : Except Fault Exit)
    : finish outcome (machine.supplied more)
      = ((finish outcome machine).1, (finish outcome machine).2.supplied more) := by
  unfold finish
  rw [show (machine.supplied more).output = machine.output from rfl]
  rcases machine.output.flush with ⟨_ | _, _⟩ <;> cases outcome <;> rfl

end Machine

namespace Cli

variable (more : Device.Reader)

-----------------------------------------------------------------------------------------
-- Stages on an input of which more becomes known
-----------------------------------------------------------------------------------------

namespace Run

theorem proceed_supply {run : Run} (fed : run.isStarved = false)
    : (run.supply more).proceed = run.proceed.supply more := by
  have sameExit : (run.supply more).exit? = run.exit? := rfl
  have sameNotices : (run.supply more).stepNotices = run.stepNotices := rfl
  unfold proceed
  rw [sameExit, sameNotices]
  cases exits : run.exit? with
  | some exit => rfl
  | none =>
      have stepped := @Machine.step_supplied run.machine more (fun reads => by
        simpa [isStarved, exits, reads] using fed)
      have sameMachine : (run.supply more).machine = run.machine.supplied more := rfl
      simp only [takeStep]
      rw [sameMachine, stepped]
      rcases run.machine.step with ⟨_ | _, after⟩ <;> rfl

theorem conclude_supply (run : Run) (outcome : Except Fault Machine.Exit)
    : (run.supply more).conclude outcome = (run.conclude outcome).supply more := by
  have sameMachine : (run.supply more).machine = run.machine.supplied more := rfl
  unfold conclude
  rw [sameMachine, Machine.finish_supplied]
  rcases Machine.finish outcome run.machine with ⟨_ | _ | _, finished⟩ <;>
    cases outcome <;> rfl

end Run

/-- A stage that does not wait for the input is the same whatever will still arrive. -/
theorem Stage.next_supply {stage : Stage} (fed : stage.remainder.isStarved = false)
    : (stage.supply more).next = stage.next.supply more := by
  obtain ⟨stdout, notices, exitCode | run | ⟨run, outcome⟩⟩ := stage
  · rfl
  · simp only [next, supply, Remainder.supply, Remainder.next, Run.proceed_supply more fed]
    rfl
  · simp only [next, supply, Remainder.supply, Remainder.next, Run.conclude_supply more]
    rfl

theorem Stage.report?_supply (stage : Stage)
    : (stage.supply more).report? = stage.report? := by
  obtain ⟨stdout, notices, _ | _ | _⟩ := stage <;> rfl

-----------------------------------------------------------------------------------------
-- Preparations
-----------------------------------------------------------------------------------------

/-- The same program when more is known of the device of its input. -/
def Launch.supply (launch : Launch) : Launch :=
  { launch with machine := launch.machine.supplied more }

theorem machineFor_append (options : Options) (stdin : Device.Reader) (stdout : Outlet)
    : machineFor options (stdin ++ more) stdout
      = (machineFor options stdin stdout).map (Machine.supplied more) := by
  have sameInput : inputOf options.inputMode (stdin ++ more)
      = (inputOf options.inputMode stdin).supply more := by
    cases options.inputMode <;> rfl
  unfold machineFor Machine.create?
  rw [sameInput]
  split <;> rfl

/-- Nothing is read before a run starts, so what is prepared is the same. -/
theorem prepare_append (environment : Environment) (arguments : List String)
    : prepare { environment with stdin := environment.stdin ++ more } arguments
      = (prepare environment arguments).map (Launch.supply more) := by
  have loaded (options : Options) (source : String)
      : load { environment with stdin := environment.stdin ++ more } options source
        = (load environment options source).map (Launch.supply more) := by
    simp only [load, machineFor_append]
    cases machineFor options environment.stdin environment.stdout with
    | none => rfl
    | some machine =>
        simp only [Option.map_some, Machine.load_supplied]
        rcases machine.load source options.loadAddress with ⟨_ | _, _⟩ <;> rfl
  unfold prepare
  split <;> rename_i asked
  · rfl
  · rfl
  · rfl
  · simp only [prepareOptions]
    cases sourceOf environment.fileContent _ with
    | error failure => rfl
    | ok source =>
        simp only []
        split
        · rfl
        · exact loaded _ source

theorem begin_append (environment : Environment) (arguments : List String)
    : begin { environment with stdin := environment.stdin ++ more } arguments
      = (begin environment arguments).supply more := by
  simp only [begin, prepare_append]
  cases prepare environment arguments <;> rfl

end Cli

end TapeMachine
