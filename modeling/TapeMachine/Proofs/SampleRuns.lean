import TapeMachine.Proofs.Invocations
import TapeMachine.Proofs.Structured.Excerpts
import TapeMachine.Proofs.Structured.Refinement

/-! The sample program. It computes with the first five cells and begins with increments, so what it
prints depends on what these cells hold at first: zero, if it was loaded behind them, or its own
first instructions, if it was loaded where it is loaded by default.
-/

namespace TapeMachine

/-- A value after so many increments. -/
def raised : Nat → UInt8 → UInt8
  | 0, value => value
  | count + 1, value => raised count (Machine.raise value)

namespace Structured

-----------------------------------------------------------------------------------------
-- The sample as a structured program
-----------------------------------------------------------------------------------------

/-- Commands, each of them so many times, and a program behind them. -/
def Block.ofRuns (runs : List (Nat × Command)) (rest : Block) : Block :=
  (runs.flatMap (fun run => List.replicate run.1 run.2)).foldr .command rest

/-- Counts the first cell down and adds to four more. -/
def multiplication : Block :=
  .ofRuns [(1, .moveRight), (7, .increment), (1, .moveRight), (10, .increment), (1, .moveRight),
    (3, .increment), (1, .moveRight), (1, .increment), (4, .moveLeft), (1, .decrement)] .done

/-- Writes the letters, each of them from a cell that is near to it. -/
def letters : Block :=
  .ofRuns [(1, .moveRight), (2, .increment), (1, .write), (1, .moveRight), (1, .increment),
    (1, .write), (7, .increment), (2, .write), (3, .increment), (1, .write), (1, .moveRight),
    (2, .increment), (1, .write), (2, .moveLeft), (15, .increment), (1, .write), (1, .moveRight),
    (1, .write), (3, .increment), (1, .write), (6, .decrement), (1, .write), (8, .decrement),
    (1, .write), (1, .moveRight), (1, .increment), (1, .write), (1, .moveRight), (1, .write)] .done

/-- The sample behind its first five instructions. -/
def greeting : Block :=
  .ofRuns [(5, .increment)] (.loop multiplication letters)

def sample : Block :=
  .ofRuns [(5, .increment)] greeting

theorem opcodes_helloWorld
    : (Source.Program.ofString helloWorld).opcodes = sample.opcodes := by
  decide +kernel

theorem opcodes_sample
    : sample.opcodes = List.replicate 5 .increment ++ greeting.opcodes :=
  rfl

/-- The first five cells after five increments of the first one, if all of them held the same
before.
-/
def bench (filler : UInt8) : Workspace where
  tape := ⟨#[.data (raised 5 filler), .data filler, .data filler, .data filler, .data filler]⟩
  dataPointer := 0
  input := .bytes []
  output := .console (.ofOutlet .working)

theorem byte_bench (filler : UInt8)
    : (bench filler).tape.byte 0 = raised 5 filler := by
  simp [bench, Tape.byte, Tape.cell, Cell.byte]

/-- What the sample prints if it starts on cells that hold its own first instructions. -/
def garbled : List UInt8 :=
  [255, 255, 255, 255, 255, 204, 255, 255, 255, 249, 241, 205, 96]

/-- The sample prints something from its five cells, and stores in no other ones. -/
def Prints (filler : UInt8) (bytes : List UInt8) : Prop :=
  (greeting.eval .fault 200 (bench filler)).outcome = some (.ok ())
  ∧ (∀ cell ∈ (greeting.eval .fault 200 (bench filler)).stored, cell < 5)
  ∧ (greeting.eval .fault 200 (bench filler)).after.output.accepted = bytes

theorem prints_greeting : Prints 0 (Text.encode "Hello World!\n") := by
  unfold Prints
  decide +kernel

theorem prints_garbled : Prints Opcode.increment.byte garbled := by
  unfold Prints
  decide +kernel

end Structured

-----------------------------------------------------------------------------------------
-- The sample on the machine
-----------------------------------------------------------------------------------------

namespace Machine

theorem step_of_increment {machine : Machine} {index cell : Nat}
    (fetched : machine.fetch = .ok (.instruction index .increment))
    (located : machine.tape.locate machine.dataPointer = .ok cell)
    : machine.step = (.ok (), (machine.store cell (raise (machine.tape.byte cell))).advance)
      ∧ machine.storedCell = some cell := by
  constructor
  · rw [step_eq_counted]
    simp only [attempt, fetched, perform]
    rw [execute_of_ok located]
    rfl
  · simp only [storedCell, upcomingStore, fetched, storeBy, located, storedValue, Option.map_some]

/-- A machine before and after so many increments of its first cell. -/
structure Incremented (start count : Nat) (before after : Machine) : Prop where
  driven : drive count before = (.ok .stepLimit, after)
  stored : storedCells count before = List.replicate count 0
  programCounter : after.programCounter = (start + count : Nat)
  dataPointer : after.dataPointer = 0
  output : after.output = before.output
  byte : after.tape.byte 0 = raised count (before.tape.byte 0)

/-- Increments of the first cell. They may lie on it themselves: only the first one can, and it is
executed before it is overwritten.
-/
theorem drive_increments {machine : Machine} {start count : Nat}
    (running : machine.running = true) (counter : machine.programCounter = start)
    (pointer : machine.dataPointer = 0)
    (holds : machine.tape.Holds start (List.replicate count .increment))
    (room : start + count < machine.tape.size)
    : ∃ reached, Incremented start count machine reached := by
  induction count generalizing machine start with
  | zero => exact ⟨machine, ⟨drive_zero running, rfl, counter, pointer, rfl, rfl⟩⟩
  | succ count ih =>
      obtain ⟨held, rest⟩ := holds
      have fetched : machine.fetch = .ok (.instruction start .increment) :=
        fetch_of_cell (Tape.locate_eq_ok_iff.mpr ⟨counter, by omega⟩) held
      have located : machine.tape.locate machine.dataPointer = .ok 0 :=
        Tape.locate_eq_ok_iff.mpr ⟨pointer, by omega⟩
      obtain ⟨stepped, stored⟩ := step_of_increment fetched located
      have first : (machine.tape.store 0 (raise (machine.tape.byte 0))).byte 0
          = raise (machine.tape.byte 0) := by
        rw [Tape.byte, Tape.cell_store, if_pos ⟨rfl, by omega⟩]
        rfl
      have others : ∀ index, start + 1 ≤ index
          → (machine.tape.store 0 (raise (machine.tape.byte 0))).cell index
            = machine.tape.cell index := by
        intro index above
        rw [Tape.cell_store, if_neg (by omega)]
      obtain ⟨reached, driven, cells, arrived, still, output, value⟩ :=
        @ih (machine.store 0 (raise (machine.tape.byte 0))).advance (start + 1) running
          (congrArg (· + 1) counter) pointer (rest.congr (fun index above _ => others index above))
          (by simpa [advance, store] using (by omega : start + 1 + count < machine.tape.size))
      refine ⟨reached, ⟨(drive_succ_of_ok running stepped count).trans driven, ?_, ?_, still,
        output, ?_⟩⟩
      · rw [storedCells_succ_of_ok running stepped, stored, cells]
        rfl
      · rw [arrived, Nat.add_right_comm, Nat.add_assoc]
      · rw [value]
        exact congrArg (raised count) first

end Machine

namespace Structured

open Machine (drive storedCells)

/-- The sample in place is five increments, and the greeting in place behind them. -/
theorem sample_inPlace {start : Nat} {tape : Tape} (inPlace : InPlace sample start tape)
    : tape.Holds start (List.replicate 5 .increment) ∧ InPlace greeting (start + 5) tape := by
  obtain ⟨holds, marked⟩ := inPlace
  have length : start + sample.opcodes.length = start + 5 + greeting.opcodes.length := by
    rw [opcodes_sample, List.length_append, List.length_replicate, Nat.add_assoc]
  rw [opcodes_sample] at holds
  rw [length] at marked
  exact ⟨holds.append_left, holds.append_right, marked⟩

section Incremented

variable {machine reached : Machine} {start : Nat}
  (incremented : Machine.Incremented start 5 machine reached)
include incremented

/-- The five cells when the first five instructions are done. -/
theorem excerpt_of_incremented {filler : UInt8} (room : 5 ≤ machine.tape.size)
    (output : machine.output = .console (.ofOutlet .working))
    (filled : ∀ cell, cell < 5 → machine.tape.byte cell = filler)
    : Excerpt (bench filler) reached.workspace := by
  obtain ⟨driven, stored, _, pointer, sink, first⟩ := incremented
  have size := Machine.size_drive 5 machine
  rw [driven] at size
  have others : ∀ cell, cell ≠ 0 → reached.tape.byte cell = machine.tape.byte cell := by
    intro cell other
    have untouched : cell ∉ storedCells 5 machine := by
      rw [stored]
      exact fun member => other (List.eq_of_mem_replicate member)
    have same := Machine.cell_drive_of_not_mem untouched
    rw [driven] at same
    exact congrArg Cell.byte same
  refine ⟨size ▸ room, ?_, pointer, sink.trans output, rfl⟩
  rintro (_ | _ | _ | _ | _ | cell) within
  · rw [byte_bench, ← filled 0 (by decide)]
    exact first
  · exact (others 1 (by decide)).trans (filled 1 (by decide))
  · exact (others 2 (by decide)).trans (filled 2 (by decide))
  · exact (others 3 (by decide)).trans (filled 3 (by decide))
  · exact (others 4 (by decide)).trans (filled 4 (by decide))
  · have inside : cell + 5 < 5 := within
    omega

/-- The first five instructions store in the first cell, which lies before the rest of them. -/
theorem outside_of_incremented (high : Int)
    : Outside (start + 5 : Nat) high (storedCells 5 machine) := by
  intro cell member
  rw [incremented.stored] at member
  have zero := List.eq_of_mem_replicate member
  omega

/-- Behind the first five instructions the machine acts out the greeting. -/
theorem enacts_greeting (inPlace : InPlace greeting (start + 5) machine.tape)
    (running : machine.running = true) (depth : Nat)
    : Enacts (start + 5 : Nat) (start + 5 + greeting.opcodes.length : Nat) machine depth
        (start + 5 + greeting.opcodes.length)
        { greeting.eval machine.eofPolicy depth reached.workspace with
          stored := storedCells 5 machine
            ++ (greeting.eval machine.eofPolicy depth reached.workspace).stored } := by
  have outside := outside_of_incremented incremented (start + 5 + greeting.opcodes.length : Nat)
  have placed : Placed machine.eofPolicy (start + 5 : Nat)
      (start + 5 + greeting.opcodes.length : Nat) (start + 5) greeting machine :=
    ⟨rfl, inPlace.holds, Int.le_refl _, Int.le_refl _, Int.ofNat_lt.mpr inPlace.room, running⟩
  have enacts := (placed.after_drive incremented.driven outside).enacts
    (.of_start incremented.programCounter) depth
  exact enacts.after_drive incremented.driven outside (Nat.le_add_left depth 5)

end Incremented

/-- The sample, loaded anywhere, prints what it prints from its five cells if these hold the same
value at first.
-/
theorem run_sample {machine loaded : Machine} {start : Nat} {filler : UInt8}
    {bytes : List UInt8} {diagnostics : List Source.Diagnostic}
    (loads : machine.load helloWorld start = (.ok diagnostics, loaded))
    (pointer : machine.dataPointer = 0)
    (output : machine.output = .console (.ofOutlet .working))
    (filled : ∀ cell, cell < 5 → loaded.tape.byte cell = filler)
    (prints : Prints filler bytes)
    : ∃ patience after,
        loaded.run patience start = some (.ok .halted, after)
        ∧ after.output.accepted = bytes := by
  obtain ⟨_, same, whole⟩ := inPlace_of_load opcodes_helloWorld loads
  obtain rfl := Int.ofNat.inj same
  obtain ⟨increments, inPlace⟩ := sample_inPlace whole
  have room := inPlace.room
  have kept : loaded.dataPointer = 0 ∧ loaded.output = .console (.ofOutlet .working) := by
    obtain ⟨_, _, _, rfl⟩ := Machine.load_eq_ok loads
    exact ⟨pointer, output⟩
  have flushes : loaded.output.FlushesSucceed := by
    rw [kept.2]
    rfl
  obtain ⟨reached, incremented⟩ := @Machine.drive_increments (loaded.start start) start 5 rfl rfl
    kept.1 increments (by simp only [Machine.start]; omega)
  obtain ⟨finishes, stays, printed⟩ := prints
  obtain ⟨outcome, stored, after⟩ := (excerpt_of_incremented incremented
    (by simp only [Machine.start]; omega) kept.2 filled).eval finishes loaded.eofPolicy
  have settled := outcome.trans finishes
  have outside : Outside (start + 5 : Nat) (start + 5 + greeting.opcodes.length : Nat)
      (greeting.eval loaded.eofPolicy 200 reached.workspace).stored := by
    intro cell member
    have inside := stays cell (stored ▸ member)
    omega
  obtain ⟨patience, ⟨ending, finished⟩, answered, ends⟩ :=
    (enacts_greeting incremented inPlace rfl 200).run_ends inPlace.marked (by omega) flushes
      (fun unfinished => Option.some_ne_none _ (settled.symm.trans unfinished))
      (outside_append_iff.mpr ⟨outside_of_incremented incremented _, outside⟩)
  have written : finished.output.accepted = bytes := by
    rw [← printed, ← after.output]
    exact ends.written
  obtain ⟨_, halted, _⟩ | ⟨fault, faulted, _⟩ := ends.ending
  · obtain rfl : ending = .ok .halted := halted
    exact ⟨patience, finished, answered, written⟩
  · cases settled.symm.trans faulted

/-- Loaded at the first cell, the sample starts on cells that hold its own increments. -/
theorem run_sample_on_itself {machine loaded : Machine} {diagnostics : List Source.Diagnostic}
    (loads : machine.load helloWorld 0 = (.ok diagnostics, loaded))
    (pointer : machine.dataPointer = 0)
    (output : machine.output = .console (.ofOutlet .working))
    : ∃ patience after,
        loaded.run patience 0 = some (.ok .halted, after) ∧ after.output.accepted = garbled := by
  obtain ⟨start, zero, inPlace⟩ := inPlace_of_load opcodes_helloWorld loads
  obtain rfl : start = 0 := by omega
  refine @run_sample machine loaded 0 _ _ _ loads pointer output ?_ prints_garbled
  intro cell inside
  have found : sample.opcodes[cell]? = some .increment := by
    rw [opcodes_sample, List.getElem?_append_left (by simpa using inside),
      List.getElem?_replicate, if_pos inside]
  have held := inPlace.holds.getElem? found
  rw [Nat.zero_add] at held
  exact Tape.byte_of_cell held

/-- Loaded behind the first five cells of a blank tape, the sample starts on zeros. -/
theorem run_sample_on_zeros {machine loaded : Machine} {start size : Nat}
    {diagnostics : List Source.Diagnostic}
    (loads : machine.load helloWorld start = (.ok diagnostics, loaded)) (behind : 5 ≤ start)
    (blank : machine.tape = .zeros size) (pointer : machine.dataPointer = 0)
    (output : machine.output = .console (.ofOutlet .working))
    : ∃ patience after,
        loaded.run patience start = some (.ok .halted, after)
        ∧ after.output.accepted = Text.encode "Hello World!\n" := by
  refine run_sample loads pointer output ?_ prints_greeting
  intro cell inside
  have kept := Machine.cell_load_of_outside loads (.inl (by omega : (cell : Int) < start))
  rw [blank, Tape.cell_zeros] at kept
  rw [Tape.byte, kept]
  rfl

end Structured

-----------------------------------------------------------------------------------------
-- Invocations
-----------------------------------------------------------------------------------------

namespace Cli

/-- A run that halts is reported as a success, with all that it wrote. -/
theorem Launch.run_of_halted {launch : Launch} {after : Machine} {enough patience : Nat}
    (unlimited : launch.options.maxSteps = none) (succeed : launch.machine.output.FlushesSucceed)
    (halts : launch.machine.run enough launch.options.startAddress = some (.ok .halted, after))
    (patient : enough ≤ patience)
    : ∃ notices, launch.run patience = some ⟨0, after.output.accepted, notices⟩ := by
  obtain ⟨ended, same⟩ := Machine.run_eq_some_iff.mp halts
  have still := @Machine.flushesSucceed_drive enough
    (launch.machine.start launch.options.startAddress) succeed
  have longer := Machine.drive_of_ended ended patient
  rcases driven : Machine.drive enough (launch.machine.start launch.options.startAddress)
    with ⟨outcome, stopped⟩
  rw [Machine.runBounded_eq_finish, driven] at same
  rw [driven] at ended still longer
  have delivered : after.output.delivered = after.output.accepted := by
    have finished : after = { stopped with output := stopped.output.flush.2 } :=
      (congrArg Prod.snd same).symm.trans (Machine.finish_snd outcome stopped)
    rw [finished]
    exact still.delivered_flush.trans stopped.output.accepted_flush.symm
  have within : driveWithin patience launch.options.maxSteps
        (launch.machine.start launch.options.startAddress)
      = some (outcome, stopped) := by
    rw [unlimited, driveWithin, Machine.driveToEnd_of_ended (longer ▸ ended), longer]
  simp only [Launch.run, within, same, judge, Report.ofOutcome, delivered]
  exact ⟨_, rfl⟩

section Sample

variable {arguments : List String} {options : Options} {environment : Environment} {address : Nat}
  (asked : Request.ofArguments arguments = .execute options) (noFile : options.file = none)
  (loadAddress : options.loadAddress = address) (untold : options.tokens = false)
  (working : environment.stdout = .working) (fits : options.tapeSize ≤ Tape.maximumSize)
  (room : address + Structured.sample.opcodes.length < max options.tapeSize Tape.minimumSize)
include asked noFile loadAddress untold working fits room

/-- An invocation without a file loads the sample on a new machine. -/
theorem launches_sample
    : ∃ (launch : Launch) (machine : Machine) (diagnostics : List Source.Diagnostic),
        Launches environment arguments launch
        ∧ launch.options = options
        ∧ machine.tape = .blank options.tapeSize
        ∧ machine.dataPointer = 0
        ∧ machine.output = .console (.ofOutlet .working)
        ∧ machine.load helloWorld address = (.ok diagnostics, launch.machine) := by
  let machine := (Machine.create options.tapeSize (inputOf options.inputMode environment.stdin)
    (.console (.ofOutlet .working))).withEofPolicy options.eofPolicy
  have creates : machineFor options environment.stdin environment.stdout = some machine :=
    machineFor_eq_some_iff.mpr ⟨fits, by rw [working]⟩
  have size : machine.tape.size = max options.tapeSize Tape.minimumSize := Tape.size_zeros _
  rw [← size, ← Structured.opcodes_helloWorld] at room
  obtain ⟨diagnostics, loaded, loads⟩ := Machine.load_of_room room
  have found : sourceOf environment.fileContent options.file = .ok helloWorld := by
    rw [noFile]
    rfl
  let told := allocationNotices environment.level machine
    ++ loadNotices environment.level options.loadAddress (.ofString helloWorld)
  exact ⟨⟨environment.level, options, told, loaded⟩, machine, diagnostics,
    ⟨asked, untold, rfl, helloWorld, machine, diagnostics, found, creates, loadAddress ▸ loads,
      rfl⟩, rfl, rfl, rfl, rfl, loads⟩

/-- What an invocation comes to that runs the sample at an address. -/
theorem invoke_sample {bytes : List UInt8}
    (startAddress : options.startAddress = address) (unlimited : options.maxSteps = none)
    (prints : ∀ {machine loaded : Machine} {diagnostics : List Source.Diagnostic},
      machine.tape = .blank options.tapeSize
      → machine.dataPointer = 0
      → machine.output = .console (.ofOutlet .working)
      → machine.load helloWorld address = (.ok diagnostics, loaded)
      → ∃ patience after,
          loaded.run patience address = some (.ok .halted, after)
          ∧ after.output.accepted = bytes)
    : ∃ enough, ∀ patience, enough ≤ patience → ∃ notices,
        invoke patience environment arguments = some ⟨0, bytes, notices⟩ := by
  obtain ⟨launch, machine, diagnostics, launches, rfl, blank, pointer, output, loads⟩ :=
    launches_sample asked noFile loadAddress untold working fits room
  obtain ⟨enough, after, halts, rfl⟩ := prints blank pointer output loads
  have succeed : launch.machine.output.FlushesSucceed := by
    obtain ⟨_, _, _, same⟩ := Machine.load_eq_ok loads
    rw [same, show _ = machine.output from rfl, output]
    rfl
  refine ⟨enough, fun patience patient => ?_⟩
  simp only [invoke, prepare_eq_ok_iff.mpr launches]
  exact Launch.run_of_halted unlimited succeed (startAddress ▸ halts) patient

end Sample

/-- Nothing is printed by an invocation that cannot have a tape as long as it asks for. -/
theorem invoke_of_overflow {arguments : List String} {options : Options} {source : String}
    {environment : Environment}
    (asked : Request.ofArguments arguments = .execute options)
    (found : sourceOf environment.fileContent options.file = .ok source)
    (untold : options.tokens = false) (tooLong : Tape.maximumSize < options.tapeSize)
    (patience : Nat)
    : invoke patience environment arguments = some .overflow := by
  simp only [invoke, prepare, asked, prepareOptions, found, untold, Bool.false_eq_true, if_false,
    load, machineFor_of_overflow tooLong]

/-- Whatever else it asks for, an invocation that runs the sample at its default address prints the
garbled greeting and succeeds, or it fails for want of a tape as long as it asks for; the greeting
itself appears if the sample is loaded and started behind the first five cells.
-/
theorem sample_garbled_by_default {arguments : List String} {options : Options}
    {environment : Environment}
    (asked : Request.ofArguments arguments = .execute options) (noFile : options.file = none)
    (sameAddress : options.startAddress = options.loadAddress)
    (unlimited : options.maxSteps = none) (untold : options.tokens = false)
    (working : environment.stdout = .working)
    : (options.loadAddress = 0
        → options.tapeSize ≤ Tape.maximumSize
        → ∃ enough, ∀ patience, enough ≤ patience → ∃ notices,
            invoke patience environment arguments = some ⟨0, Structured.garbled, notices⟩)
      ∧ (5 ≤ options.loadAddress
        → options.loadAddress + Structured.sample.opcodes.length
          < max options.tapeSize Tape.minimumSize
        → options.tapeSize ≤ Tape.maximumSize
        → ∃ enough, ∀ patience, enough ≤ patience → ∃ notices,
            invoke patience environment arguments
              = some ⟨0, Text.encode "Hello World!\n", notices⟩)
      ∧ (Tape.maximumSize < options.tapeSize
        → ∀ patience, ∃ report,
            invoke patience environment arguments = some report
            ∧ report.exitCode = 101
            ∧ report.stdout = [])
      ∧ Structured.garbled ≠ Text.encode "Hello World!\n" := by
  refine ⟨?_, ?_, ?_, by decide +kernel⟩
  · intro first fits
    have room : 0 + Structured.sample.opcodes.length < max options.tapeSize Tape.minimumSize :=
      Nat.lt_of_lt_of_le (by decide) (Nat.le_max_right _ _)
    exact invoke_sample asked noFile first untold working fits room (sameAddress.trans first)
      unlimited (fun _ pointer output loads =>
        Structured.run_sample_on_itself loads pointer output)
  · intro behind room fits
    obtain ⟨address, same⟩ : ∃ address : Nat, options.loadAddress = address :=
      ⟨options.loadAddress.toNat, by omega⟩
    rw [same] at behind room
    exact invoke_sample asked noFile same untold working fits (by omega) (sameAddress.trans same)
      unlimited (fun blank pointer output loads =>
        Structured.run_sample_on_zeros loads (by omega) blank pointer output)
  · intro tooLong patience
    have found : sourceOf environment.fileContent options.file = .ok helloWorld := by
      rw [noFile]
      rfl
    exact ⟨.overflow, invoke_of_overflow asked found untold tooLong patience, rfl, rfl⟩

/-- The invocation without any arguments. -/
theorem sample_garbled_by_default_without_arguments
    : ∃ enough, ∀ patience, enough ≤ patience → ∃ notices,
        invoke patience (.bare .working false .warn) []
          = some ⟨0, Structured.garbled, notices⟩ :=
  (@sample_garbled_by_default [] (Given.options {}) (.bare .working false .warn)
    rfl rfl rfl rfl rfl rfl).1 rfl (by decide)

end Cli

end TapeMachine
