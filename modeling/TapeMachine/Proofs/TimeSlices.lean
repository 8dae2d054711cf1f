import TapeMachine.Proofs.DeviceExchange

/-! Runs in slices. A run that has used up its budget can be resumed at the program counter it
reached, and the slices together come to what one run with the budgets together comes to. Every
slice counts its steps from zero and ends with a flush, so the counter is behind and the output is
flushed more often; nothing else is different.
-/

namespace TapeMachine

-----------------------------------------------------------------------------------------
-- Sinks that were flushed more or less often
-----------------------------------------------------------------------------------------

/-- Sinks whose flushes all succeed, which have taken the same bytes, and which answer writes in
the same way.
-/
inductive Sink.UpToFlushes : Sink → Sink → Prop
  | scripted {first second : ScriptedSink} (writes : second.writes = first.writes)
      (written : second.written = first.written)
      (succeed : FlushesSucceed (.scripted first))
      (alsoSucceed : FlushesSucceed (.scripted second))
      : UpToFlushes (.scripted first) (.scripted second)
  | console {first second : Console} (written : second.written = first.written)
      (working : first.outlet = .working) (alsoWorking : second.outlet = .working)
      : UpToFlushes (.console first) (.console second)

namespace Sink.UpToFlushes

variable {first second : Sink}

theorem succeed (same : UpToFlushes first second)
    : first.FlushesSucceed ∧ second.FlushesSucceed := by
  cases same with
  | scripted writes written succeed alsoSucceed => exact ⟨succeed, alsoSucceed⟩
  | console written working alsoWorking => exact ⟨working, alsoWorking⟩

theorem accepted (same : UpToFlushes first second)
    : second.accepted = first.accepted := by
  cases same with
  | scripted writes written succeed alsoSucceed => exact congrArg List.reverse written
  | console written working alsoWorking => exact congrArg List.reverse written

/-- Writes are answered in the same way: by the same replies, or by two consoles with room. -/
theorem write (same : UpToFlushes first second) (b : UInt8)
    : (second.write b).1 = (first.write b).1
      ∧ UpToFlushes (first.write b).2 (second.write b).2 := by
  obtain ⟨succeed, alsoSucceed⟩ := same.succeed
  have still := succeed.after_use (.written first b)
  have alsoStill := alsoSucceed.after_use (.written second b)
  cases same with
  | @scripted first second writes written =>
      simp only [Sink.write, ScriptedSink.write, writes] at still alsoStill ⊢
      rcases settled : ScriptedSink.settle first.writes with ⟨_ | _, later⟩ <;>
        rw [settled] at still alsoStill
      · exact ⟨rfl, .scripted rfl written still alsoStill⟩
      · exact ⟨rfl, .scripted rfl (congrArg (b :: ·) written) still alsoStill⟩
  | @console first second written working alsoWorking =>
      have taken := Console.write_of_working working b
      have alsoTaken := Console.write_of_working alsoWorking b
      rcases reply : first.write b with ⟨outcome, later⟩
      rcases alsoReply : second.write b with ⟨alsoOutcome, alsoLater⟩
      rw [reply] at taken
      rw [alsoReply] at alsoTaken
      obtain rfl : outcome = .ok () := taken
      obtain rfl : alsoOutcome = .ok () := alsoTaken
      simp only [Sink.write, reply, alsoReply] at still alsoStill ⊢
      refine ⟨trivial, .console ?_ still alsoStill⟩
      rw [Console.written_write_ok reply, Console.written_write_ok alsoReply, written]

/-- A flush on one side alone makes no difference. -/
theorem flush_right (same : UpToFlushes first second)
    : UpToFlushes first second.flush.2 := by
  have still := same.succeed.2.after_use (.flushed second)
  cases same with
  | @scripted first second writes written succeed =>
      have kept := second.written_flush
      have script : second.flush.2.writes = second.writes := by
        unfold ScriptedSink.flush
        split <;> rfl
      exact .scripted (script.trans writes) (kept.trans written) succeed still
  | @console first second written working =>
      exact .console (second.written_flush.trans written) working still

theorem symm (same : UpToFlushes first second)
    : UpToFlushes second first := by
  cases same with
  | scripted writes written succeed alsoSucceed =>
      exact .scripted writes.symm written.symm alsoSucceed succeed
  | console written working alsoWorking => exact .console written.symm alsoWorking working

end Sink.UpToFlushes

theorem Sink.FlushesSucceed.upToFlushes {sink : Sink} (succeed : sink.FlushesSucceed)
    : sink.UpToFlushes sink := by
  cases sink with
  | scripted device => exact .scripted rfl rfl succeed succeed
  | console terminal => exact .console rfl succeed succeed

/-- The same input, and sinks that were flushed more or less often, can be exchanged. -/
def Exchange.flushes : Exchange where
  inputs first second := second = first
  sinks := Sink.UpToFlushes
  read := Exchange.read_same
  write same b := same.write b
  flush same := by
    obtain ⟨succeed, alsoSucceed⟩ := same.succeed
    exact ⟨alsoSucceed.flush_fst.trans succeed.flush_fst.symm,
      same.flush_right.symm.flush_right.symm⟩

namespace Machine

-----------------------------------------------------------------------------------------
-- The count of steps
-----------------------------------------------------------------------------------------

/-- The machine with so many steps more on its counter. -/
def ahead (lead : Nat) (machine : Machine) : Machine :=
  machine.recast machine.eofPolicy (machine.steps + lead)

theorem step_ahead (lead : Nat) (machine : Machine)
    : (machine.ahead lead).step = (machine.step.1, machine.step.2.ahead lead) := by
  unfold ahead
  rw [step_recast (fun _ _ _ => rfl), eofPolicy_step]

theorem drive_ahead (lead budget : Nat) (machine : Machine)
    : drive budget (machine.ahead lead)
      = ((drive budget machine).1, (drive budget machine).2.ahead lead) := by
  fun_induction drive budget machine with
  | case1 machine => rfl
  | case2 budget machine running after stepped ih =>
      have alsoStepped := machine.step_ahead lead
      have alsoRunning : (machine.ahead lead).running = true := running
      rw [stepped] at alsoStepped
      rw [drive_succ_of_ok alsoRunning alsoStepped, ih]
  | case3 budget machine running fault after stepped =>
      have alsoStepped := machine.step_ahead lead
      have alsoRunning : (machine.ahead lead).running = true := running
      rw [stepped] at alsoStepped
      rw [drive_succ_of_error alsoRunning alsoStepped]
  | case4 budget machine stopped =>
      have alsoStopped : (machine.ahead lead).running = false := Bool.not_eq_true _ ▸ stopped
      exact drive_of_not_running alsoStopped _

theorem finish_ahead (lead : Nat) (outcome : Except Fault Exit) (machine : Machine)
    : finish outcome (machine.ahead lead)
      = ((finish outcome machine).1, (finish outcome machine).2.ahead lead) := by
  have sameOutput : (machine.ahead lead).output = machine.output := rfl
  unfold finish
  rw [sameOutput]
  rcases machine.output.flush with ⟨_ | _, later⟩ <;> cases outcome <;> rfl

/-- What is left of a run after a drive that used up its budget is a run of its own, but for the
count.
-/
theorem runBounded_add {machine middle : Machine} {address : Int} {first : Nat}
    (driven : drive first (machine.start address) = (.ok .stepLimit, middle)) (second : Nat)
    : machine.runBounded address (first + second)
      = ((middle.runBounded middle.programCounter second).1,
          (middle.runBounded middle.programCounter second).2.ahead first) := by
  obtain ⟨_, running, count⟩ := running_of_drive_stepLimit driven
  have fresh : middle = (middle.start middle.programCounter).ahead first := by
    have steps : middle.steps = 0 + first := count
    simp only [start, ahead, recast, ← running, ← steps]
  rw [runBounded_eq_finish, drive_add driven]
  calc finish (drive second middle).1 (drive second middle).2
      = finish (drive second ((middle.start middle.programCounter).ahead first)).1
          (drive second ((middle.start middle.programCounter).ahead first)).2 := by
        rw [← fresh]
    _ = _ := by
        rw [drive_ahead, finish_ahead, ← runBounded_eq_finish]

-----------------------------------------------------------------------------------------
-- Runs that are resumed
-----------------------------------------------------------------------------------------

/-- The last slice of a run ends as the whole run does and leaves the machine as the whole run
does, but for the steps that were taken before the slice.
-/
structure Resumed (before : Nat) (whole slice : Except Fault Exit × Machine) : Prop where
  outcome : slice.1 = whole.1
  tape : slice.2.tape = whole.2.tape
  dataPointer : slice.2.dataPointer = whole.2.dataPointer
  programCounter : slice.2.programCounter = whole.2.programCounter
  running : slice.2.running = whole.2.running
  eofPolicy : slice.2.eofPolicy = whole.2.eofPolicy
  input : slice.2.input = whole.2.input
  written : slice.2.output.accepted = whole.2.output.accepted
  steps : slice.2.steps + before = whole.2.steps

theorem Resumed.refl (run : Except Fault Exit × Machine)
    : Resumed 0 run run :=
  ⟨rfl, rfl, rfl, rfl, rfl, rfl, rfl, rfl, rfl⟩

/-- A slice of what is left of a run is a slice of the run. -/
theorem Resumed.trans {first second : Nat} {whole rest slice : Except Fault Exit × Machine}
    (outer : Resumed first whole rest) (inner : Resumed second rest slice)
    : Resumed (first + second) whole slice where
  outcome := inner.outcome.trans outer.outcome
  tape := inner.tape.trans outer.tape
  dataPointer := inner.dataPointer.trans outer.dataPointer
  programCounter := inner.programCounter.trans outer.programCounter
  running := inner.running.trans outer.running
  eofPolicy := inner.eofPolicy.trans outer.eofPolicy
  input := inner.input.trans outer.input
  written := inner.written.trans outer.written
  steps := by
    have count := outer.steps
    rw [← inner.steps] at count
    omega

/-- One cut: the second slice starts with the sink flushed once more, which no step can tell. -/
theorem resumed_once {machine reached : Machine} {address : Int} {first : Nat}
    (succeed : machine.output.FlushesSucceed)
    (limit : machine.runBounded address first = (.ok .stepLimit, reached)) (second : Nat)
    : Resumed first (machine.runBounded address (first + second))
        (reached.runBounded reached.programCounter second) := by
  rcases driven : drive first (machine.start address) with ⟨outcome, middle⟩
  rw [runBounded_eq_finish, driven] at limit
  obtain rfl := drive_of_finish_stepLimit (congrArg Prod.fst limit)
  have flushed : reached
      = middle.equippedWith ⟨middle.eofPolicy, middle.input, middle.output.flush.2⟩ :=
    (congrArg Prod.snd limit).symm.trans (finish_snd _ middle)
  have counter : reached.programCounter = middle.programCounter := by
    rw [flushed]
    rfl
  have still : middle.output.FlushesSucceed := by
    have kept := @flushesSucceed_drive first (machine.start address) succeed
    rwa [driven] at kept
  have alike : Exchange.flushes.Alike middle.equipment
      ⟨middle.eofPolicy, middle.input, middle.output.flush.2⟩ :=
    ⟨rfl, rfl, still.upToFlushes.flush_right⟩
  obtain ⟨last, left, same⟩ := Exchange.flushes.lockstep.runBounded middle.programCounter second
    alike (Exchange.flushes.binding _)
  rw [runBounded_add driven, counter, flushed, same]
  exact ⟨rfl, rfl, rfl, rfl, rfl, left.eofPolicy, left.inputs, left.sinks.accepted, rfl⟩

/-- Runs from an address in slices: as long as a slice uses up its budget, the next one goes on at
the program counter. Gives the steps before the last slice, and what the last slice came to.
-/
def runInSlices (machine : Machine) (address : Int) (budget : Nat)
    : List Nat → Nat × (Except Fault Exit × Machine)
  | [] => (0, machine.runBounded address budget)
  | next :: later =>
      match machine.runBounded address budget with
      | (.ok .stepLimit, reached) =>
          let (before, slice) := reached.runInSlices reached.programCounter next later
          (budget + before, slice)
      | ended => (0, ended)

/-- A run that ended before its limit is the whole run. -/
theorem runBounded_of_ended {machine : Machine} {address : Int} {budget larger : Nat}
    (succeed : machine.output.FlushesSucceed)
    (ended : (machine.runBounded address budget).1 ≠ .ok .stepLimit) (more : budget ≤ larger)
    : machine.runBounded address larger = machine.runBounded address budget := by
  apply runBounded_of_conclusive _ more
  rw [conclusive_iff_ended]
  intro limit
  have flushed := (@flushesSucceed_drive budget (machine.start address) succeed).flush_fst
  apply ended
  rw [runBounded_eq_finish, limit]
  exact finish_of_flushed flushed

theorem flushesSucceed_runBounded (machine : Machine) (address : Int) (budget : Nat)
    (succeed : machine.output.FlushesSucceed)
    : (machine.runBounded address budget).2.output.FlushesSucceed := by
  rw [runBounded_eq_finish, finish_snd]
  exact (@flushesSucceed_drive budget (machine.start address) succeed).after_use (.flushed _)

/-- All cuts, by induction on the slices. -/
theorem resumed_in_slices {machine : Machine} (succeed : machine.output.FlushesSucceed)
    (address : Int) (budget : Nat) (later : List Nat)
    : Resumed (machine.runInSlices address budget later).1
        (machine.runBounded address (budget + later.foldr (· + ·) 0))
        (machine.runInSlices address budget later).2 := by
  induction later generalizing machine address budget with
  | nil => exact Resumed.refl _
  | cons next later ih =>
      have kept := @flushesSucceed_runBounded machine address budget succeed
      rw [List.foldr_cons]
      unfold runInSlices
      split
      · rename_i reached limit
        rw [limit] at kept
        exact (resumed_once succeed limit _).trans (ih kept _ next)
      · rename_i ended
        have unlimited : (machine.runBounded address budget).1 ≠ .ok .stepLimit := by
          intro limit
          exact ended _ (Prod.ext limit rfl)
        rw [runBounded_of_ended succeed unlimited (Nat.le_add_right _ _)]
        exact Resumed.refl _

/-- A run that has used up its budget and is resumed at its program counter comes to what one run
with both budgets comes to, and so does a run that is cut into any number of slices: it ends in
the same way and leaves the same tape, registers, input and written bytes, with fewer steps on the
counter by exactly those that were taken before the last slice. For this no flush between the
slices may fail.
-/
theorem slices_make_one_run {machine : Machine} (succeed : machine.output.FlushesSucceed)
    (address : Int)
    : (∀ first second reached,
        machine.runBounded address first = (.ok .stepLimit, reached)
        → Resumed first (machine.runBounded address (first + second))
            (reached.runBounded reached.programCounter second))
      ∧ ∀ budget later,
          Resumed (machine.runInSlices address budget later).1
            (machine.runBounded address (budget + later.foldr (· + ·) 0))
            (machine.runInSlices address budget later).2 :=
  ⟨fun _ second _ limit => resumed_once succeed limit second, resumed_in_slices succeed address⟩

/-- A loop that overwrites the bracket it starts with, so that it cannot be repeated. -/
def overwrittenLoop : Machine :=
  { create 0 (.bytes []) (.scripted (.ofReplies [] [])) with
    tape := ((Tape.blank 0).storeAll 0 [Opcode.loopStart.byte, Opcode.write.byte,
      Opcode.increment.byte, Opcode.loopEnd.byte]).mark 4 }

/-- Three slices of the loop, the last of which starts behind the overwritten bracket, come to the
fault that one run of it comes to.
-/
theorem slices_make_one_run_overwritten_loop
    : (overwrittenLoop.runInSlices 0 1 [2, 3]).1 = 3
      ∧ (overwrittenLoop.runInSlices 0 1 [2, 3]).2.1 = .error (.program .below)
      ∧ (overwrittenLoop.runInSlices 0 1 [2, 3]).2.2.steps = 0
      ∧ (overwrittenLoop.runInSlices 0 1 [2, 3]).2.2.output.accepted = [Opcode.loopStart.byte] := by
  have whole : (overwrittenLoop.runInSlices 0 1 [2, 3]).1 = 3
      ∧ (overwrittenLoop.runBounded 0 6).1 = .error (.program .below)
      ∧ (overwrittenLoop.runBounded 0 6).2.steps = 3
      ∧ (overwrittenLoop.runBounded 0 6).2.output.accepted = [Opcode.loopStart.byte] := by
    decide +kernel
  obtain ⟨before, outcome, steps, written⟩ := whole
  have succeed : overwrittenLoop.output.FlushesSucceed := List.forall_mem_nil _
  have resumed := (slices_make_one_run succeed 0).2 1 [2, 3]
  have total : 1 + [2, 3].foldr (· + ·) 0 = 6 := rfl
  rw [total, before] at resumed
  have counter : (overwrittenLoop.runInSlices 0 1 [2, 3]).2.2.steps + 3 = 0 + 3 :=
    resumed.steps.trans steps
  exact ⟨before, resumed.outcome.trans outcome, Nat.add_right_cancel counter,
    resumed.written.trans written⟩

end Machine

end TapeMachine
