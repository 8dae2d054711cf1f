import TapeMachine.Proofs.DeviceRequests
import TapeMachine.Proofs.Guarded.Steps

/-! What a step leaves behind when it faults, and what it can have changed when it succeeds. The
ways to fault are listed once, each with the machine that it leaves; everything else is read off
that list.
-/

namespace TapeMachine.Machine

-----------------------------------------------------------------------------------------
-- Steps that fault
-----------------------------------------------------------------------------------------

/-- How a step can fault, and the machine that is left: nothing could be fetched, the flush at a
mark failed, the data pointer is off the tape, a device did not write or read, there was nothing to
read, or a bracket has no partner.
-/
inductive Faults (machine : Machine) : Fault → Machine → Prop where
  | unfetched {fault : Fault} (fetched : machine.fetch = .error fault)
    : machine.Faults fault machine
  | unflushed {error : Device.IoError} {output : Sink} (fetched : machine.fetch = .ok .halt)
      (failed : machine.output.flush = (.error error, output))
    : machine.Faults (.io error) { machine with running := false, output := output }
  | offTape {index : Nat} {op : Opcode} {side : Side}
      (fetched : machine.fetch = .ok (.instruction index op))
      (located : machine.tape.locate (machine.movePointer op).dataPointer = .error side)
    : machine.Faults (.memory side) (machine.movePointer op)
  | unwritten {index cell : Nat} {error : Device.IoError} {output : Sink}
      (fetched : machine.fetch = .ok (.instruction index .write))
      (failed : machine.output.write (machine.tape.byte cell) = (.error error, output))
    : machine.Faults (.io error) { machine with output := output }
  | unread {index cell : Nat} {error : Device.IoError} {input : Input}
      (fetched : machine.fetch = .ok (.instruction index .read))
      (located : machine.tape.locate machine.dataPointer = .ok cell)
      (failed : machine.input.read = (.error error, input))
    : machine.Faults (.io error) { machine with input := input }
  | dry {index cell : Nat} {input : Input}
      (fetched : machine.fetch = .ok (.instruction index .read))
      (located : machine.tape.locate machine.dataPointer = .ok cell)
      (ended : machine.input.read = (.ok none, input)) (policy : machine.eofPolicy = .fault)
    : machine.Faults .inputExhausted { machine with input := input }
  | unmatched {index : Nat} {op : Opcode} {side : Side}
      (fetched : machine.fetch = .ok (.instruction index op))
      (bracket : op = .loopStart ∨ op = .loopEnd)
    : machine.Faults (.program side) machine

/-- An instruction on a cell faults in one of the listed ways, by cases on the instruction. -/
theorem faults_of_act {machine after : Machine} {index cell : Nat} {op : Opcode} {fault : Fault}
    (fetched : machine.fetch = .ok (.instruction index op))
    (located : machine.tape.locate (machine.movePointer op).dataPointer = .ok cell)
    (failed : (machine.movePointer op).act index cell op = (.error fault, after))
    : machine.Faults fault after := by
  cases op with
  | moveRight | moveLeft | increment | decrement => cases failed
  | write =>
      replace failed : machine.writeCell cell = (.error fault, after) := failed
      unfold writeCell at failed
      split at failed <;> cases failed
      rename_i reply
      exact .unwritten fetched reply
  | read =>
      replace failed : machine.readCell cell = (.error fault, after) := failed
      unfold readCell at failed
      split at failed
      · cases failed
      · rename_i ended
        split at failed <;> cases failed
        rename_i policy
        exact .dry fetched located ended policy
      · rename_i reply
        cases failed
        exact .unread fetched located reply
  | loopStart =>
      replace failed : machine.enterLoop index cell = (.error fault, after) := failed
      unfold enterLoop at failed
      split at failed
      · split at failed <;> cases failed
        exact .unmatched fetched (.inl rfl)
      · cases failed
  | loopEnd =>
      replace failed : machine.repeatLoop index cell = (.error fault, after) := failed
      unfold repeatLoop at failed
      split at failed
      · cases failed
      · split at failed <;> cases failed
        exact .unmatched fetched (.inr rfl)

/-- A step that faults does so in one of the listed ways. -/
theorem faults_of_step {machine after : Machine} {fault : Fault}
    (stepped : machine.step = (.error fault, after))
    : machine.Faults fault after := by
  obtain failed : machine.attempt = (.error fault, after) := by
    rw [step_eq_counted] at stepped
    rcases tried : machine.attempt with ⟨_ | _, reached⟩ <;> rw [tried] at stepped <;> cases stepped
    rfl
  unfold attempt at failed
  cases fetched : machine.fetch with
  | error found =>
      rw [fetched] at failed
      cases failed
      exact .unfetched fetched
  | ok request =>
      rw [fetched] at failed
      cases request with
      | halt =>
          simp only [perform, halt] at failed
          rcases reply : machine.output.flush with ⟨_ | _, output⟩ <;> rw [reply] at failed <;>
            cases failed
          exact .unflushed fetched reply
      | instruction index op =>
          simp only [perform] at failed
          cases located : machine.tape.locate (machine.movePointer op).dataPointer with
          | error side =>
              rw [execute_of_error located] at failed
              cases failed
              exact .offTape fetched located
          | ok cell =>
              rw [execute_of_ok located] at failed
              exact faults_of_act fetched located failed

/-- How far the coming step moves the data pointer. -/
def shift (machine : Machine) : Int :=
  match machine.fetch with
  | .ok (.instruction _ .moveRight) => 1
  | .ok (.instruction _ .moveLeft) => -1
  | _ => 0

theorem shift_of_fetch {machine : Machine} {index : Nat} {op : Opcode}
    (fetched : machine.fetch = .ok (.instruction index op))
    : machine.shift = op.distance := by
  cases op <;> simp only [shift, fetched, Opcode.distance]

section Faults

variable {machine after : Machine} {fault : Fault} (faults : machine.Faults fault after)

include faults

theorem Faults.keeps
    : after.tape = machine.tape
      ∧ after.programCounter = machine.programCounter
      ∧ after.steps = machine.steps
      ∧ after.eofPolicy = machine.eofPolicy := by
  cases faults with
  | @offTape index op side fetched located => cases op <;> exact ⟨rfl, rfl, rfl, rfl⟩
  | unfetched | unflushed | unwritten | unread | dry | unmatched => exact ⟨rfl, rfl, rfl, rfl⟩

/-- A move leaves the data pointer off the tape, as the fault says, and nothing else moves it. -/
theorem Faults.pointer
    : after.dataPointer = machine.dataPointer + machine.shift
      ∧ (machine.shift ≠ 0
        → (after.dataPointer < 0 ∧ fault = .memory .below)
          ∨ (machine.tape.size ≤ after.dataPointer ∧ fault = .memory .above)) := by
  have unmoved (still : machine.shift = 0) (same : after.dataPointer = machine.dataPointer)
      : after.dataPointer = machine.dataPointer + machine.shift
        ∧ (machine.shift ≠ 0
          → (after.dataPointer < 0 ∧ fault = .memory .below)
            ∨ (machine.tape.size ≤ after.dataPointer ∧ fault = .memory .above)) := by
    rw [still, same]
    exact ⟨(Int.add_zero _).symm, fun moved => absurd rfl moved⟩
  cases faults with
  | unfetched fetched | unflushed fetched | unwritten fetched | unread fetched | dry fetched =>
      exact unmoved (by simp only [shift, fetched]) rfl
  | unmatched fetched bracket =>
      obtain rfl | rfl := bracket <;> exact unmoved (by simp only [shift, fetched]) rfl
  | @offTape index op side fetched located =>
      have moved := machine.dataPointer_movePointer op
      rw [← shift_of_fetch fetched] at moved
      refine ⟨moved, fun _ => ?_⟩
      cases side with
      | below => exact .inl ⟨Tape.locate_eq_below_iff.mp located, rfl⟩
      | above => exact .inr ⟨(Tape.locate_eq_above_iff.mp located), rfl⟩

/-- A mark faults only because its flush fails. -/
theorem Faults.flush (marked : machine.isEnd machine.programCounter = true)
    : ∃ error, machine.output.flush.1 = .error error ∧ fault = .io error := by
  have halts := fetch_eq_halt_iff.mpr marked
  cases faults with
  | @unflushed error output fetched failed => exact ⟨error, by rw [failed], rfl⟩
  | unfetched fetched | offTape fetched | unwritten fetched | unread fetched | dry fetched
  | unmatched fetched =>
      rw [halts] at fetched
      cases fetched

theorem Faults.output
    : after.output.accepted = machine.output.accepted
      ∧ after.output.delivered = machine.output.delivered := by
  cases faults with
  | unfetched | unread | dry | unmatched => exact ⟨rfl, rfl⟩
  | @offTape index op side fetched located =>
      rw [movePointer_output]
      exact ⟨rfl, rfl⟩
  | unflushed fetched failed =>
      have kept := machine.output.accepted_flush
      rw [failed] at kept
      exact ⟨kept, Sink.delivered_flush_error failed⟩
  | unwritten fetched failed =>
      exact ⟨Sink.accepted_write_error failed, Sink.delivered_write_error failed⟩

theorem Faults.input
    : after.input = machine.input
      ∨ ((∃ index, machine.fetch = .ok (.instruction index .read))
        ∧ 0 ≤ machine.dataPointer
        ∧ machine.dataPointer < machine.tape.size
        ∧ after.input = machine.input.read.2) := by
  cases faults with
  | unfetched | unflushed | unwritten | unmatched => exact .inl rfl
  | @offTape index op side fetched located => cases op <;> exact .inl rfl
  | @unread index cell _ _ fetched located reply | @dry index cell _ fetched located reply _ =>
      obtain ⟨here, inside⟩ := Tape.locate_eq_ok_iff.mp located
      exact .inr ⟨⟨index, fetched⟩, by omega, by omega, by rw [reply]⟩

end Faults

-----------------------------------------------------------------------------------------
-- Steps that succeed
-----------------------------------------------------------------------------------------

section Success

variable {machine after : Machine} (stepped : machine.step = (.ok (), after))

include stepped

theorem performed_of_step
    : ∃ fetched reached,
        machine.fetch = .ok fetched
        ∧ machine.perform fetched = (.ok (), reached)
        ∧ after = reached.advance := by
  unfold step at stepped
  split at stepped
  · cases stepped
  · rename_i fetched found
    split at stepped <;> cases stepped
    rename_i reached performed
    exact ⟨fetched, reached, found, performed, rfl⟩

/-- A step that succeeds leaves the program counter on the tape or just behind it. -/
theorem programCounter_of_step
    : 0 ≤ after.programCounter ∧ after.programCounter ≤ machine.tape.size := by
  obtain ⟨fetched, reached, found, performed, rfl⟩ := performed_of_step stepped
  obtain ⟨index, here, inside⟩ := programCounter_perform found
  rw [performed] at here
  have there : reached.programCounter = index := here
  simp only [advance, there]
  omega

/-- A mark leaves the data pointer where it is, and every instruction leaves it on the tape. -/
theorem dataPointer_of_step
    : if machine.isEnd machine.programCounter then
        after.dataPointer = machine.dataPointer
      else
        0 ≤ after.dataPointer ∧ after.dataPointer < machine.tape.size := by
  obtain ⟨fetched, reached, found, performed, rfl⟩ := performed_of_step stepped
  cases fetched with
  | halt =>
      rw [if_pos (fetch_eq_halt_iff.mp found)]
      simp only [perform, halt] at performed
      split at performed <;> cases performed
      rfl
  | instruction index op =>
      have unmarked : ¬ machine.isEnd machine.programCounter = true := by
        rw [← fetch_eq_halt_iff, found]
        intro halts
        cases halts
      rw [if_neg unmarked]
      simp only [perform] at performed
      cases located : machine.tape.locate (machine.movePointer op).dataPointer with
      | error side =>
          rw [execute_of_error located] at performed
          cases performed
      | ok cell =>
          have kept := ((machine.movePointer op).act_keeps index cell op).1
          obtain ⟨here, inside⟩ := Tape.locate_eq_ok_iff.mp located
          rw [← execute_of_ok located, performed, here] at kept
          have there : reached.dataPointer = cell := kept
          simp only [advance, there]
          omega

end Success

/-- An instruction that stores counts the cell up or down, or reads into it. -/
theorem Stores.instruction {machine : Machine} (stores : machine.Stores)
    : ∃ position op,
        machine.fetch = .ok (.instruction position op)
        ∧ (op = .increment ∨ op = .decrement ∨ op = .read) := by
  cases stores with
  | counts fetched upOrDown => exact ⟨_, _, fetched, upOrDown.imp_right .inl⟩
  | reads fetched | zeroes fetched => exact ⟨_, _, fetched, .inr (.inr rfl)⟩

-----------------------------------------------------------------------------------------
-- Atomicity
-----------------------------------------------------------------------------------------

/-- What is left of a machine after a step that faulted: everything but the data pointer after a
move, which has left the tape, the flag after a mark, whose flush has failed, and the input after a
read with the data pointer on the tape.
-/
structure FaultedStep (machine : Machine) (fault : Fault) (after : Machine) : Prop where
  tape : after.tape = machine.tape
  programCounter : after.programCounter = machine.programCounter
  steps : after.steps = machine.steps
  eofPolicy : after.eofPolicy = machine.eofPolicy
  dataPointer : after.dataPointer = machine.dataPointer + machine.shift
  moved : machine.shift ≠ 0
    → (after.dataPointer < 0 ∧ fault = .memory .below)
      ∨ (machine.tape.size ≤ after.dataPointer ∧ fault = .memory .above)
  running : after.running = (machine.running && !machine.isEnd machine.programCounter)
  marked : machine.isEnd machine.programCounter = true
    → ∃ error, machine.output.flush.1 = .error error ∧ fault = .io error
  accepted : after.output.accepted = machine.output.accepted
  delivered : after.output.delivered = machine.output.delivered
  input : after.input = machine.input
    ∨ ((∃ index, machine.fetch = .ok (.instruction index .read))
      ∧ 0 ≤ machine.dataPointer
      ∧ machine.dataPointer < machine.tape.size
      ∧ after.input = machine.input.read.2)

/-- What a step that succeeded has done: it is counted, it has stored at most under the data
pointer, and it has left both pointers where they can be.
-/
structure CompletedStep (machine after : Machine) : Prop where
  steps : after.steps = machine.steps + 1
  programCounter : 0 ≤ after.programCounter ∧ after.programCounter ≤ machine.tape.size
  size : after.tape.size = machine.tape.size
  cells : ∀ index, after.tape.cell index ≠ machine.tape.cell index
    → machine.dataPointer = index
      ∧ ∃ position op,
          machine.fetch = .ok (.instruction position op)
          ∧ (op = .increment ∨ op = .decrement ∨ op = .read)
  dataPointer
    : if machine.isEnd machine.programCounter then
        after.dataPointer = machine.dataPointer
      else
        0 ≤ after.dataPointer ∧ after.dataPointer < machine.tape.size

/-- A step happens as a whole or, up to a pointer, a flag and a value that was read, not at all. -/
theorem step_is_atomic (machine : Machine)
    : match machine.step with
      | (.error fault, after) => machine.FaultedStep fault after
      | (.ok (), after) => machine.CompletedStep after := by
  rcases stepped : machine.step with ⟨fault | _, after⟩
  · have faults := faults_of_step stepped
    have flag := machine.running_step
    rw [stepped] at flag
    obtain ⟨tape, programCounter, steps, eofPolicy⟩ := faults.keeps
    exact {
      tape, programCounter, steps, eofPolicy
      dataPointer := faults.pointer.1
      moved := faults.pointer.2
      running := flag
      marked := faults.flush
      accepted := faults.output.1
      delivered := faults.output.2
      input := faults.input
    }
  · have size := machine.size_step
    rw [stepped] at size
    refine ⟨steps_of_step_ok stepped, programCounter_of_step stepped, size, ?_,
      dataPointer_of_step stepped⟩
    intro index changed
    by_cases stores : machine.storedCell = some index
    · obtain ⟨here, storing⟩ := stores_of_storedCell stores
      exact ⟨here, storing.instruction⟩
    · have kept := cell_step_of_not_stored stores
      rw [stepped] at kept
      exact absurd kept changed

end TapeMachine.Machine
