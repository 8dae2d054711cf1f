import TapeMachine.Proofs.Budgets
import TapeMachine.Proofs.Conservation
import TapeMachine.Proofs.Visits

/-! What a run that has returned says about its output. The steps that it took decide how often the
output was flushed, whether the machine is still running and which fault is reported; a run that
reports none has had all its bytes taken and flushed.
-/

namespace TapeMachine

-----------------------------------------------------------------------------------------
-- Counting flushes
-----------------------------------------------------------------------------------------

namespace Sink

/-- Only scripted devices count their flushes. -/
def isScripted : Sink → Bool
  | .scripted _ => true
  | .console _ => false

theorem flushCount_flush {sink : Sink} (scripted : sink.isScripted = true)
    : sink.flush.2.flushCount = sink.flushCount + 1 := by
  cases sink with
  | scripted device =>
      simp only [flush, flushCount, ScriptedSink.flush]
      split <;> rfl
  | console terminal => cases scripted

theorem flushCount_write (sink : Sink) (b : UInt8)
    : (sink.write b).2.flushCount = sink.flushCount := by
  cases sink with
  | scripted device =>
      simp only [write, flushCount, ScriptedSink.write]
      split <;> rfl
  | console terminal => rfl

theorem UsedOnce.isScripted {before after : Sink} (used : before.UsedOnce after)
    : after.isScripted = before.isScripted := by
  cases used with
  | unused => rfl
  | written b => cases before <;> rfl
  | flushed => cases before <;> rfl

end Sink

namespace Machine

/-- The coming step executes a mark. -/
def atMark (machine : Machine) : Bool :=
  machine.isEnd machine.programCounter

theorem flushCount_step {machine : Machine} (scripted : machine.output.isScripted = true)
    : machine.step.2.output.flushCount = machine.output.flushCount + machine.atMark.toNat := by
  rw [step_eq_counted, counted_output]
  cases asks : machine.request with
  | flush =>
      have marked : machine.atMark = true := fetch_eq_halt_iff.mp (request_eq_flush_iff.mp asks)
      have once := Sink.flushCount_flush scripted
      rw [attempt_of_flush asks, marked, halt]
      rcases reply : machine.output.flush with ⟨_ | _, later⟩ <;> (rw [reply] at once; exact once)
  | nothing =>
      have unmarked : machine.atMark = false := (running_attempt (by simp [asks])).1
      rw [(attempt_keeps_devices asks).2, unmarked]
      rfl
  | read cell =>
      have unmarked : machine.atMark = false := (running_attempt (by simp [asks])).1
      rw [attempt_of_read asks, readCell_eq, unmarked]
      rfl
  | write cell =>
      have unmarked : machine.atMark = false := (running_attempt (by simp [asks])).1
      have kept := machine.output.flushCount_write (machine.tape.byte cell)
      rw [attempt_of_write asks, unmarked, writeCell]
      rcases reply : machine.output.write (machine.tape.byte cell) with ⟨_ | _, later⟩ <;>
        (rw [reply] at kept; exact kept)

/-- A running machine is stopped by a mark and by nothing else. -/
theorem running_step_of_running {machine : Machine} (running : machine.running = true)
    : machine.step.2.running = !machine.atMark := by
  rw [running_step, running, Bool.true_and, atMark]

-----------------------------------------------------------------------------------------
-- A drive by the states that it visits
-----------------------------------------------------------------------------------------

/-- What holds of a running machine without a budget, before a mark, before a fault, and before any
other step if it holds behind it, holds of every running machine.
-/
theorem running_induction {motive : Nat → (machine : Machine) → machine.running = true → Prop}
    (limit : ∀ machine running, motive 0 machine running)
    (mark : ∀ budget machine running after,
      machine.atMark = true
      → machine.step = (.ok (), after)
      → motive (budget + 1) machine running)
    (fault : ∀ budget machine running fault after,
      machine.step = (.error fault, after)
      → motive (budget + 1) machine running)
    (instruction : ∀ budget machine running after (still : after.running = true),
      machine.atMark = false
      → machine.step = (.ok (), after)
      → motive budget after still
      → motive (budget + 1) machine running)
    (budget : Nat) {machine : Machine} (running : machine.running = true)
    : motive budget machine running := by
  induction budget generalizing machine with
  | zero => exact limit machine running
  | succ budget ih =>
      have flag := running_step_of_running running
      rcases stepped : machine.step with ⟨found | _, after⟩
      · exact fault budget machine running found after stepped
      · rw [stepped] at flag
        cases marked : machine.atMark with
        | true => exact mark budget machine running after marked stepped
        | false =>
            rw [marked] at flag
            exact instruction budget machine running after flag marked stepped (ih flag)

/-- A mark ends a drive, and nothing is visited behind it. -/
theorem drive_of_mark {machine after : Machine} (running : machine.running = true)
    (marked : machine.atMark = true) (stepped : machine.step = (.ok (), after)) (budget : Nat)
    : drive (budget + 1) machine = (.ok .halted, after)
      ∧ visited (budget + 1) machine = [machine] := by
  have stopped := running_step_of_running running
  rw [stepped, marked] at stopped
  rw [drive_succ_of_ok running stepped, visited_succ_of_ok running stepped,
    drive_of_not_running stopped, visited_of_not_running stopped]
  exact ⟨rfl, rfl⟩

/-- A drive stops the machine exactly if it executes a mark. -/
theorem running_drive {machine : Machine} (running : machine.running = true) (budget : Nat)
    : (drive budget machine).2.running = !(visited budget machine).any atMark := by
  induction budget, running using running_induction with
  | limit machine running => exact running
  | mark budget machine running after marked stepped =>
      have flag := running_step_of_running running
      obtain ⟨driven, seen⟩ := drive_of_mark running marked stepped budget
      rw [stepped] at flag
      rw [driven, seen, List.any_cons, List.any_nil, Bool.or_false]
      exact flag
  | fault budget machine running fault after stepped =>
      have flag := running_step_of_running running
      rw [stepped] at flag
      rw [drive_succ_of_error running stepped, visited_succ_of_error running stepped,
        List.any_cons, List.any_nil, Bool.or_false]
      exact flag
  | instruction budget machine running after still unmarked stepped ih =>
      rw [drive_succ_of_ok running stepped, visited_succ_of_ok running stepped, ih, List.any_cons,
        unmarked, Bool.false_or]

theorem isScripted_drive {machine : Machine} (scripted : machine.output.isScripted = true)
    (budget : Nat)
    : (drive budget machine).2.output.isScripted = true := by
  apply drive_preserves (fun later => later.output.isScripted = true)
  · intro reached still
    exact reached.output_step.isScripted.trans still
  · exact scripted

/-- A drive flushes once if it executes a mark, and otherwise not at all. -/
theorem flushCount_drive {machine : Machine} (running : machine.running = true)
    (scripted : machine.output.isScripted = true) (budget : Nat)
    : (drive budget machine).2.output.flushCount
      = machine.output.flushCount + ((visited budget machine).any atMark).toNat := by
  induction budget, running using running_induction with
  | limit machine running => rfl
  | mark budget machine running after marked stepped =>
      have count := flushCount_step scripted
      obtain ⟨driven, seen⟩ := drive_of_mark running marked stepped budget
      rw [stepped] at count
      rw [driven, seen, List.any_cons, List.any_nil, Bool.or_false]
      exact count
  | fault budget machine running fault after stepped =>
      have count := flushCount_step scripted
      rw [stepped] at count
      rw [drive_succ_of_error running stepped, visited_succ_of_error running stepped,
        List.any_cons, List.any_nil, Bool.or_false]
      exact count
  | instruction budget machine running after still unmarked stepped ih =>
      have count := flushCount_step scripted
      have kind := machine.output_step.isScripted
      rw [stepped, unmarked] at count
      rw [stepped] at kind
      rw [drive_succ_of_ok running stepped, visited_succ_of_ok running stepped,
        ih (kind.trans scripted), List.any_cons, unmarked, Bool.false_or]
      exact congrArg (· + _) count

/-- A step on a mark leaves the mark behind it. -/
theorem isEnd_behind_step {machine after : Machine} (marked : machine.atMark = true)
    (stepped : machine.step = (.ok (), after))
    : after.isEnd (after.programCounter - 1) = true := by
  have halts : machine.fetch = .ok .halt := fetch_eq_halt_iff.mpr marked
  have tape := machine.tape_step
  rw [stepped, upcomingStore, halts] at tape
  have same : after.tape = machine.tape := tape
  rw [isEnd, same, programCounter_of_halt halts stepped, Int.add_sub_cancel]
  exact marked

/-- A drive that halts has the mark right behind it. -/
theorem isEnd_behind_drive {machine after : Machine} (running : machine.running = true)
    {budget : Nat} (driven : drive budget machine = (.ok .halted, after))
    : after.isEnd (after.programCounter - 1) = true := by
  induction budget, running using running_induction with
  | limit machine running =>
      rw [drive_zero running] at driven
      cases driven
  | mark budget machine running reached marked stepped =>
      rw [(drive_of_mark running marked stepped budget).1] at driven
      cases driven
      exact isEnd_behind_step marked stepped
  | fault budget machine running fault reached stepped =>
      rw [drive_succ_of_error running stepped] at driven
      cases driven
  | instruction budget machine running reached still unmarked stepped ih =>
      rw [drive_succ_of_ok running stepped] at driven
      exact ih driven

/-- The output takes what the visited states write. -/
theorem accepted_visited (budget : Nat) (machine : Machine)
    : (drive budget machine).2.output.accepted
      = machine.output.accepted ++ (visited budget machine).filterMap writtenByte := by
  fun_induction drive budget machine with
  | case1 machine => exact (List.append_nil _).symm
  | case2 budget machine running reached stepped ih =>
      have written := machine.accepted_step
      rw [stepped] at written
      rw [visited_succ_of_ok running stepped, ih, written, List.append_assoc, List.filterMap_cons]
      cases machine.writtenByte <;> rfl
  | case3 budget machine running fault reached stepped =>
      have written := machine.accepted_step
      rw [stepped] at written
      rw [visited_succ_of_error running stepped, written, List.filterMap_cons]
      cases machine.writtenByte <;> rfl
  | case4 budget machine stopped =>
      rw [visited_of_not_running (Bool.not_eq_true _ ▸ stopped)]
      exact (List.append_nil _).symm

/-- A drive faults exactly as one of its steps does. -/
theorem drive_eq_error_iff {machine : Machine} {fault : Fault} (budget : Nat)
    : (drive budget machine).1 = .error fault
      ↔ ∃ state ∈ visited budget machine, state.step.1 = .error fault := by
  fun_induction drive budget machine with
  | case1 machine => simp
  | case2 budget machine running reached stepped ih =>
      rw [visited_succ_of_ok running stepped, ih]
      simp [stepped]
  | case3 budget machine running found reached stepped =>
      rw [visited_succ_of_error running stepped]
      simp [stepped]
  | case4 budget machine stopped =>
      rw [visited_of_not_running (Bool.not_eq_true _ ▸ stopped)]
      simp

/-- A write that succeeds has had its byte taken. -/
theorem accepted_of_write {machine : Machine} {index : Nat}
    (fetched : machine.fetch = .ok (.instruction index .write)) (stepped : machine.step.1 = .ok ())
    : ∃ cell : Nat,
        machine.dataPointer = cell
        ∧ machine.step.2.output.accepted = machine.output.accepted ++ [machine.tape.byte cell] := by
  cases located : machine.tape.locate machine.dataPointer with
  | error side =>
      have moved : machine.tape.locate (machine.movePointer .write).dataPointer = .error side :=
        located
      simp [step, fetched, perform, execute_of_error moved] at stepped
  | ok cell =>
      have asks : machine.request = .write cell :=
        request_eq_write_iff.mpr ⟨⟨index, fetched⟩, located⟩
      refine ⟨cell, (Tape.locate_eq_ok_iff.mp located).1, ?_⟩
      rw [accepted_step, writtenByte, asks, stepped]
      rfl

-----------------------------------------------------------------------------------------
-- Runs that return
-----------------------------------------------------------------------------------------

/-- A run from an address has returned, within its budget or, if it has none, within one's patience.
-/
inductive Returns (machine : Machine) (address : Int)
    : Nat → Except Fault Exit → Machine → Prop where
  | bounded {budget : Nat} {outcome : Except Fault Exit} {after : Machine}
      (ran : machine.runBounded address budget = (outcome, after))
    : machine.Returns address budget outcome after
  | unbounded {patience : Nat} {outcome : Except Fault Exit} {after : Machine}
      (ran : machine.run patience address = some (outcome, after))
    : machine.Returns address patience outcome after

/-- A run with a budget always returns. -/
theorem returns_runBounded (machine : Machine) (address : Int) (budget : Nat)
    : machine.Returns address budget (machine.runBounded address budget).1
        (machine.runBounded address budget).2 :=
  .bounded rfl

/-- A run that has returned is the one with the budget. -/
theorem Returns.runBounded {machine after : Machine} {address : Int} {budget : Nat}
    {outcome : Except Fault Exit} (returned : machine.Returns address budget outcome after)
    : machine.runBounded address budget = (outcome, after) := by
  cases returned with
  | bounded ran => exact ran
  | unbounded ran => exact (run_eq_some_iff.mp ran).2

/-- A run flushes once at its end, besides the flush of a mark. -/
theorem flushCount_runBounded {machine : Machine} (scripted : machine.output.isScripted = true)
    (address : Int) (budget : Nat)
    : (machine.runBounded address budget).2.output.flushCount
      = machine.output.flushCount
        + if (visited budget (machine.start address)).any atMark then 2 else 1 := by
  have running : (machine.start address).running = true := rfl
  have driven := flushCount_drive running scripted budget
  have kind : (machine.start address).output.isScripted = true := scripted
  have still := isScripted_drive kind budget
  rw [runBounded_eq_finish, finish_snd]
  refine (Sink.flushCount_flush still).trans ?_
  rw [driven]
  cases (visited budget (machine.start address)).any atMark <;> rfl

/-- A run that reports no fault had none in its steps, and its last flush succeeded. -/
theorem all_ok_of_runBounded {machine : Machine} {address : Int} {budget : Nat} {exit : Exit}
    (ran : (machine.runBounded address budget).1 = .ok exit)
    : (∀ state ∈ visited budget (machine.start address), state.step.1 = .ok ())
      ∧ (drive budget (machine.start address)).1 = .ok exit
      ∧ (drive budget (machine.start address)).2.output.flush.1 = .ok () := by
  rw [runBounded_eq_finish, finish_eq_ok_iff] at ran
  refine ⟨?_, ran⟩
  intro state member
  cases stepped : state.step.1 with
  | ok _ => rfl
  | error fault =>
      have faulted := (drive_eq_error_iff budget).mpr ⟨state, member, stepped⟩
      rw [ran.1] at faulted
      cases faulted

/-- A run whose steps did not fault reports the failure of its last flush. -/
theorem runBounded_of_flush_error {machine : Machine} {address : Int} {budget : Nat}
    {error : Device.IoError}
    (stepped : ∀ state ∈ visited budget (machine.start address), state.step.1 = .ok ())
    (failed : (drive budget (machine.start address)).2.output.flush.1 = .error error)
    : (machine.runBounded address budget).1 = .error (.io error) := by
  rw [runBounded_eq_finish]
  cases ended : (drive budget (machine.start address)).1 with
  | error fault =>
      obtain ⟨state, member, faulted⟩ := (drive_eq_error_iff budget).mp ended
      rw [stepped state member] at faulted
      cases faulted
  | ok exit =>
      rcases finish_ok exit (drive budget (machine.start address)).2 with
        ⟨flushed, _⟩ | ⟨found, reply, reported⟩
      · rw [failed] at flushed
        cases flushed
      · rw [failed] at reply
        cases reply
        exact reported

/-- A run that has returned accounts for its output. It has flushed twice if it executed a mark,
even if that flush failed, and once otherwise. If a step faulted, the run reports that fault,
whatever became of the last flush; if none did and the last flush failed, it reports that failure,
and only the output is not as the steps left it. If it reports neither, every byte that it was to
write was taken and then flushed. The machine is stopped exactly if a mark was executed, and a run
that has halted has the mark right behind it.
-/
theorem runs_account_for_output {machine after : Machine} {address : Int} {budget : Nat}
    {outcome : Except Fault Exit} (returned : machine.Returns address budget outcome after)
    : (machine.output.isScripted = true
        → after.output.flushCount
          = machine.output.flushCount
            + if (visited budget (machine.start address)).any atMark then 2 else 1)
      ∧ (∀ state ∈ visited budget (machine.start address), ∀ fault,
          state.step.1 = .error fault → outcome = .error fault)
      ∧ ((∀ state ∈ visited budget (machine.start address), state.step.1 = .ok ())
        → ∀ error, (drive budget (machine.start address)).2.output.flush.1 = .error error
          → outcome = .error (.io error))
      ∧ after
        = { (drive budget (machine.start address)).2 with
            output := (drive budget (machine.start address)).2.output.flush.2 }
      ∧ (∀ exit, outcome = .ok exit
        → (∀ state ∈ visited budget (machine.start address), ∀ index,
            state.fetch = .ok (.instruction index .write)
            → ∃ cell : Nat,
                state.dataPointer = cell
                ∧ state.step.2.output.accepted
                  = state.output.accepted ++ [state.tape.byte cell])
          ∧ (drive budget (machine.start address)).2.output.flush.1 = .ok ()
          ∧ after.output.accepted
            = machine.output.accepted
              ++ (visited budget (machine.start address)).filterMap writtenByte
          ∧ after.output.delivered = after.output.accepted)
      ∧ (after.running = false ↔ (visited budget (machine.start address)).any atMark = true)
      ∧ (outcome = .ok .halted → after.isEnd (after.programCounter - 1) = true) := by
  have running : (machine.start address).running = true := rfl
  obtain rfl := (congrArg Prod.fst returned.runBounded).symm
  obtain rfl := (congrArg Prod.snd returned.runBounded).symm
  refine ⟨fun scripted => flushCount_runBounded scripted address budget, ?_,
    fun stepped error => runBounded_of_flush_error stepped, finish_snd _ _, ?_, ?_, ?_⟩
  · intro state member fault faulted
    have ended := (drive_eq_error_iff budget).mpr ⟨state, member, faulted⟩
    rw [runBounded_eq_finish, ended]
    exact finish_error fault _
  · intro exit reported
    obtain ⟨stepped, _, flushed⟩ := all_ok_of_runBounded reported
    refine ⟨?_, flushed, ?_, ?_⟩
    · intro state member index fetched
      exact accepted_of_write fetched (stepped state member)
    · rw [runBounded_eq_finish, accepted_finish]
      exact accepted_visited budget (machine.start address)
    · rw [runBounded_eq_finish, accepted_finish, finish_snd]
      exact Sink.delivered_flush_ok (Prod.ext flushed rfl)
  · rw [(machine.runBounded_registers address budget).2, running_drive running,
      Bool.not_eq_eq_eq_not, Bool.not_false]
  · intro halted
    obtain ⟨_, ended, _⟩ := all_ok_of_runBounded halted
    have marked := isEnd_behind_drive running (Prod.ext ended rfl)
    rw [runBounded_eq_finish, finish_snd]
    exact marked

/-- A program of one write whose output device takes the byte but cannot be flushed. -/
def closedPipe : Machine :=
  { create 0 (.bytes [])
      (.scripted (.ofReplies []
        [.error (.device .brokenPipe "closed"), .error (.device .brokenPipe "still closed")])) with
    tape := ((Tape.blank 0).storeAll 0 [Opcode.write.byte]).mark 1 }

/-- The flush of the mark fails and the last one fails, too. The run reports the first of them. -/
theorem runs_account_for_output_closed_pipe
    : (closedPipe.runBounded 0 5).1 = .error (.io (.device .brokenPipe "closed"))
      ∧ (closedPipe.runBounded 0 5).2.output.flushCount = 2
      ∧ (closedPipe.runBounded 0 5).2.running = false := by
  obtain ⟨flushes, fault, _, _, _, stopped, _⟩ :=
    runs_account_for_output (closedPipe.returns_runBounded 0 5)
  have marked : (visited 5 (closedPipe.start 0)).any atMark = true := by decide +kernel
  have faulted : ∃ state ∈ visited 5 (closedPipe.start 0),
      state.step.1 = .error (.io (.device .brokenPipe "closed")) := by
    decide +kernel
  obtain ⟨state, member, reply⟩ := faulted
  have counted := flushes rfl
  rw [if_pos marked] at counted
  exact ⟨fault state member _ reply, counted, stopped.mpr marked⟩

end Machine

end TapeMachine
