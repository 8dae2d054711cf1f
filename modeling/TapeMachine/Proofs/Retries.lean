import TapeMachine.Proofs.DeviceFailures
import TapeMachine.Proofs.DeviceRequests

/-! Steps that are taken again after a device failed them. Neither a read, a write nor the flush at
the end of a program leaves anything behind when it fails, so a machine that persists gets through
the same states as if its devices had never failed.
-/

namespace TapeMachine.Machine

-----------------------------------------------------------------------------------------
-- Persisting
-----------------------------------------------------------------------------------------

/-- The machine on devices from whose scripts the failures are removed. -/
def withoutFailures (machine : Machine) : Machine :=
  { machine with
    input := machine.input.withoutFailures
    output := machine.output.withoutFailures }

/-- The value that the coming step reads, which is none at the end of the input, if it reads one. -/
def valueRead (machine : Machine) : Option (Option Int) :=
  match machine.request with
  | .read _ => machine.input.read.1.toOption
  | _ => none

/-- What is to be seen of a machine after a step, and the value that the step has read. -/
structure Snapshot where
  tape : Tape
  dataPointer : Int
  programCounter : Int
  running : Bool
  steps : Nat
  written : List UInt8
  value : Option (Option Int)
deriving DecidableEq, Inhabited

def snapshot (machine : Machine) (value : Option (Option Int)) : Snapshot where
  tape := machine.tape
  dataPointer := machine.dataPointer
  programCounter := machine.programCounter
  running := machine.running
  steps := machine.steps
  written := machine.output.accepted
  value := value

/-- How far one has come by calls of a step. -/
inductive Progress where
  | unfinished
  | halted
  | faulted (fault : Fault)
deriving DecidableEq, Inhabited

/-- Calls for a step so many times at most. A step that a device has failed is called for again;
all other faults, and a step on a mark that succeeds, are the end. Gives what is to be seen after
each step that succeeds.
-/
def persist : Nat → Machine → List Snapshot × Progress
  | 0, _ => ([], .unfinished)
  | calls + 1, machine =>
      match machine.step with
      | (.ok (), after) =>
          let seen := after.snapshot machine.valueRead
          if machine.isEnd machine.programCounter then
            ([seen], .halted)
          else
            let (later, progress) := persist calls after
            (seen :: later, progress)
      | (.error (.io _), after) => persist calls after
      | (.error fault, _) => ([], .faulted fault)

-----------------------------------------------------------------------------------------
-- Two machines side by side
-----------------------------------------------------------------------------------------

/-- An input and a sink that together fail at most so often, beside others that never fail and are
otherwise the same.
-/
def MendedDevices (failures : Nat) (input reliableInput : Input) (output reliableOutput : Sink)
    : Prop :=
  ∃ reads uses, failures = reads + uses
    ∧ Device.Mended Input.Supplies reads input reliableInput
    ∧ Device.Mended Sink.Takes uses output reliableOutput

/-- Two machines that differ in their devices only: those of the first one fail at most so often,
those of the second one never. On a mark the flag may differ too, since a flush that failed has
cleared it.
-/
structure Mended (failures : Nat) (machine reliable : Machine) : Prop where
  rewired : ∃ running input output, reliable = machine.rewired running input output
  flag : machine.isEnd machine.programCounter = false → reliable.running = machine.running
  devices : MendedDevices failures machine.input reliable.input machine.output reliable.output

/-- What the steps of two such machines can come to. -/
inductive Mended.Matched (failures : Nat) (machine reliable : Machine) : Prop
  /-- A device has failed the first machine, and the second one can wait for it. -/
  | failed {fewer : Nat} {error : Device.IoError} {after : Machine}
      (count : failures = fewer + 1)
      (stepped : machine.step = (.error (.io error), after))
      (mended : Mended fewer after reliable)
  | succeeded {after reached : Machine}
      (stepped : machine.step = (.ok (), after))
      (reliably : reliable.step = (.ok (), reached))
      (seen : reached.snapshot reliable.valueRead = after.snapshot machine.valueRead)
      (mended : Mended failures after reached)
  | faulted {fault : Fault} {after reached : Machine}
      (other : ∀ error, fault ≠ .io error)
      (stepped : machine.step = (.error fault, after))
      (reliably : reliable.step = (.error fault, reached))

/-- Two reads that find the same do the same, and are not failed by a device. -/
theorem readCell_rewired {machine : Machine} {input later reached : Input} {value : Option Int}
    (found : machine.input.read = (.ok value, later)) (given : input.read = (.ok value, reached))
    (cell : Nat) (running : Bool) (output : Sink)
    : ∃ outcome after, machine.readCell cell = (outcome, after)
      ∧ (machine.rewired running input output).readCell cell
        = (outcome, after.rewired running reached output)
      ∧ after.input = later
      ∧ after.output = machine.output
      ∧ ∀ error, outcome ≠ .error (.io error) := by
  have rewiredRead : (machine.rewired running input output).input.read = (.ok value, reached) :=
    given
  unfold readCell
  rw [found, rewiredRead]
  cases value with
  | some value => exact ⟨_, _, rfl, rfl, rfl, rfl, by simp⟩
  | none =>
      simp only [rewired]
      cases machine.eofPolicy <;> exact ⟨_, _, rfl, rfl, rfl, rfl, by simp⟩

namespace Mended

variable {failures : Nat} {machine reliable : Machine}

/-- Attempts that are the same apart from the devices are steps that match. -/
theorem matched_of_alike {outcome : Except Fault Unit} {after : Machine} {running : Bool}
    {input : Input} {output : Sink} (tried : machine.attempt = (outcome, after))
    (reliably : reliable.attempt = (outcome, after.rewired running input output))
    (other : ∀ error, outcome ≠ .error (.io error)) (flag : running = after.running)
    (value : reliable.valueRead = machine.valueRead)
    (devices : MendedDevices failures after.input input after.output output)
    : Matched failures machine reliable := by
  have stepped := machine.step_eq_counted
  have reliablyStepped := reliable.step_eq_counted
  rw [tried] at stepped
  rw [reliably] at reliablyStepped
  cases outcome with
  | error fault =>
      exact .faulted (fun error same => other error (congrArg _ same)) stepped reliablyStepped
  | ok =>
      refine .succeeded stepped reliablyStepped ?_
        ⟨⟨running, input, output, rfl⟩, fun _ => flag, devices⟩
      obtain ⟨reads, uses, _, _, takes⟩ := devices
      simp only [snapshot, value, flag, Machine.rewired, advance, Sink.accepted_of_mended takes]

theorem step_of_nothing (mended : Mended failures machine reliable)
    (asks : machine.request = .nothing)
    : Matched failures machine reliable := by
  obtain ⟨⟨running, input, output, rfl⟩, flag, devices⟩ := mended
  obtain ⟨unmarked, kept⟩ := running_attempt (by simp [asks] : machine.request ≠ .flush)
  obtain ⟨sameInput, sameOutput⟩ := attempt_keeps_devices asks
  have reliably := attempt_rewired asks running input output
  rcases tried : machine.attempt with ⟨outcome, after⟩
  rw [tried] at reliably kept sameInput sameOutput
  refine matched_of_alike tried reliably ?_ ((flag unmarked).trans kept.symm) ?_ ?_
  · rintro error rfl
    exact attempt_fault_not_fromDevice asks (congrArg Prod.fst tried) trivial
  · simp only [valueRead, rewired_request, asks]
  · rw [sameInput, sameOutput]
    exact devices

theorem step_of_read {cell : Nat} (mended : Mended failures machine reliable)
    (asks : machine.request = .read cell)
    : Matched failures machine reliable := by
  obtain ⟨⟨running, input, output, rfl⟩, flag, reads, uses, count, supplies, takes⟩ := mended
  obtain ⟨unmarked, kept⟩ := running_attempt (by simp [asks] : machine.request ≠ .flush)
  obtain ⟨error, later, fewer, less, failed, still⟩ | ⟨value, later, reached, found, given, next⟩ :=
    supplies.used Input.read_retryable
  · have stepped : machine.step = (.error (.io error), { machine with input := later }) := by
      rw [step_eq_counted, attempt_of_read asks, readCell, failed]
      rfl
    exact .failed (by omega) stepped
      ⟨⟨running, input, output, rfl⟩, flag, fewer, uses, rfl, still, takes⟩
  · obtain ⟨outcome, after, tried, reliably, rfl, sameOutput, other⟩ :=
      readCell_rewired found given cell running output
    have alsoAsks : (machine.rewired running input output).request = .read cell := asks
    rw [← attempt_of_read asks] at tried
    rw [tried] at kept
    refine matched_of_alike tried ((attempt_of_read alsoAsks).trans reliably) other
      ((flag unmarked).trans kept.symm) ?_ ⟨reads, uses, count, next, ?_⟩
    · simp only [valueRead, rewired_request, asks, found, given]
    · rw [sameOutput]
      exact takes

theorem step_of_write {cell : Nat} (mended : Mended failures machine reliable)
    (asks : machine.request = .write cell)
    : Matched failures machine reliable := by
  obtain ⟨⟨running, input, output, rfl⟩, flag, reads, uses, count, supplies, takes⟩ := mended
  obtain ⟨unmarked, kept⟩ := running_attempt (by simp [asks] : machine.request ≠ .flush)
  obtain ⟨error, later, fewer, less, failed, still⟩ | ⟨_, later, reached, taken, given, next⟩ :=
    takes.used (Sink.write_retryable (machine.tape.byte cell))
  · have stepped : machine.step = (.error (.io error), { machine with output := later }) := by
      rw [step_eq_counted, attempt_of_write asks, writeCell, failed]
      rfl
    exact .failed (by omega) stepped
      ⟨⟨running, input, output, rfl⟩, flag, reads, fewer, rfl, supplies, still⟩
  · have tried : machine.attempt = (.ok (), { machine with output := later }) := by
      rw [attempt_of_write asks, writeCell, taken]
    have alsoAsks : (machine.rewired running input output).request = .write cell := asks
    have reliably : (machine.rewired running input output).attempt
        = (.ok (), ({ machine with output := later } : Machine).rewired running input reached) := by
      rw [attempt_of_write alsoAsks, writeCell, rewired_tape, given]
      rfl
    refine matched_of_alike tried reliably (by simp) (flag unmarked) ?_
      ⟨reads, uses, count, supplies, next⟩
    simp only [valueRead, rewired_request, asks]

theorem step_of_flush (mended : Mended failures machine reliable)
    (asks : machine.request = .flush)
    : Matched failures machine reliable := by
  obtain ⟨⟨running, input, output, rfl⟩, flag, reads, uses, count, supplies, takes⟩ := mended
  obtain ⟨error, later, fewer, less, failed, still⟩ | ⟨_, later, reached, flushed, given, next⟩ :=
    takes.used Sink.flush_retryable
  · have marked : machine.isEnd machine.programCounter ≠ false := by
      simp [fetch_eq_halt_iff.mp (request_eq_flush_iff.mp asks)]
    have stepped : machine.step
        = (.error (.io error), { machine with running := false, output := later }) := by
      rw [step_eq_counted, attempt_of_flush asks, halt, failed]
      rfl
    -- The flag is cleared already, but the counter is still on the mark.
    exact .failed (by omega) stepped
      ⟨⟨running, input, output, rfl⟩, fun unmarked => absurd unmarked marked, reads, fewer, rfl,
        supplies, still⟩
  · have tried : machine.attempt
        = (.ok (), { machine with running := false, output := later }) := by
      rw [attempt_of_flush asks, halt, flushed]
    have alsoAsks : (machine.rewired running input output).request = .flush := asks
    have reliably : (machine.rewired running input output).attempt
        = (.ok (), ({ machine with running := false, output := later } : Machine).rewired false
            input reached) := by
      rw [attempt_of_flush alsoAsks, halt, given]
      rfl
    refine matched_of_alike tried reliably (by simp) rfl ?_ ⟨reads, uses, count, supplies, next⟩
    simp only [valueRead, rewired_request, asks]

/-- The steps of two such machines match, by cases on what they ask for. -/
theorem step (mended : Mended failures machine reliable)
    : Matched failures machine reliable := by
  cases asks : machine.request with
  | nothing => exact mended.step_of_nothing asks
  | read cell => exact mended.step_of_read asks
  | write cell => exact mended.step_of_write asks
  | flush => exact mended.step_of_flush asks

theorem isEnd_eq (mended : Mended failures machine reliable)
    : reliable.isEnd reliable.programCounter = machine.isEnd machine.programCounter := by
  obtain ⟨⟨running, input, output, rfl⟩, _⟩ := mended
  rfl

end Mended

-----------------------------------------------------------------------------------------
-- Calls in a row
-----------------------------------------------------------------------------------------

section Persist

variable {machine after : Machine}

theorem persist_succ_of_failed {error : Device.IoError}
    (stepped : machine.step = (.error (.io error), after)) (calls : Nat)
    : persist (calls + 1) machine = persist calls after := by
  rw [persist, stepped]

theorem persist_succ_of_faulted {fault : Fault} (other : ∀ error, fault ≠ .io error)
    (stepped : machine.step = (.error fault, after)) (calls : Nat)
    : persist (calls + 1) machine = ([], .faulted fault) := by
  rw [persist, stepped]
  cases fault with
  | io error => exact absurd rfl (other error)
  | _ => rfl

theorem persist_succ_of_halted (stepped : machine.step = (.ok (), after))
    (marked : machine.isEnd machine.programCounter = true) (calls : Nat)
    : persist (calls + 1) machine = ([after.snapshot machine.valueRead], .halted) := by
  rw [persist, stepped]
  exact if_pos marked

theorem persist_succ_of_succeeded (stepped : machine.step = (.ok (), after))
    (unmarked : machine.isEnd machine.programCounter = false) (calls : Nat)
    : persist (calls + 1) machine
      = (after.snapshot machine.valueRead :: (persist calls after).1, (persist calls after).2) := by
  rw [persist, stepped]
  exact if_neg (by simp [unmarked])

end Persist

namespace Mended

variable {failures : Nat} {machine reliable : Machine}

/-- One call more: it is lost to a failure, both machines end with it in the same way, or it takes
both of them a step further.
-/
theorem persist_succ (mended : Mended failures machine reliable)
    : (∃ fewer after, failures = fewer + 1
        ∧ Mended fewer after reliable
        ∧ ∀ calls, persist (calls + 1) machine = persist calls after)
      ∨ (∀ calls others, persist (others + 1) reliable = persist (calls + 1) machine)
      ∨ ∃ after reached, Mended failures after reached
        ∧ ∀ calls others, persist others reached = persist calls after
          → persist (others + 1) reliable = persist (calls + 1) machine := by
  cases mended.step with
  | failed count stepped still =>
      exact .inl ⟨_, _, count, still, persist_succ_of_failed stepped⟩
  | faulted other stepped reliably =>
      refine .inr (.inl (fun calls others => ?_))
      rw [persist_succ_of_faulted other stepped, persist_succ_of_faulted other reliably]
  | succeeded stepped reliably seen next =>
      cases marked : machine.isEnd machine.programCounter with
      | true =>
          refine .inr (.inl (fun calls others => ?_))
          rw [persist_succ_of_halted stepped marked,
            persist_succ_of_halted reliably (mended.isEnd_eq.trans marked), seen]
      | false =>
          refine .inr (.inr ⟨_, _, next, fun calls others same => ?_⟩)
          rw [persist_succ_of_succeeded stepped marked,
            persist_succ_of_succeeded reliably (mended.isEnd_eq.trans marked), seen, same]

/-- The reliable machine gets as far with no more calls, by induction on the calls. -/
theorem persist_fewer (mended : Mended failures machine reliable) (calls : Nat)
    : ∃ fewer, fewer ≤ calls ∧ persist fewer reliable = persist calls machine := by
  induction calls generalizing failures machine reliable with
  | zero => exact ⟨0, Nat.le_refl 0, rfl⟩
  | succ calls ih =>
      obtain ⟨_, after, _, still, lost⟩ | ended | ⟨after, reached, next, further⟩ :=
        mended.persist_succ
      · obtain ⟨fewer, bound, same⟩ := ih still
        exact ⟨fewer, Nat.le_succ_of_le bound, same.trans (lost calls).symm⟩
      · exact ⟨calls + 1, Nat.le_refl _, ended calls calls⟩
      · obtain ⟨fewer, bound, same⟩ := ih next
        exact ⟨fewer + 1, Nat.succ_le_succ bound, further calls fewer same⟩

/-- The other machine gets as far with more calls. By induction on the calls and the failures
together, since a call may use up either.
-/
theorem persist_more (mended : Mended failures machine reliable) (calls : Nat)
    : ∃ more, calls ≤ more ∧ persist more machine = persist calls reliable := by
  induction left : calls + failures generalizing calls failures machine reliable with
  | zero =>
      obtain ⟨rfl, _⟩ := Nat.add_eq_zero_iff.mp left
      exact ⟨0, Nat.le_refl 0, rfl⟩
  | succ total ih =>
      cases calls with
      | zero => exact ⟨0, Nat.le_refl 0, rfl⟩
      | succ calls =>
          obtain ⟨fewer, after, count, still, lost⟩ | ended | ⟨after, reached, next, further⟩ :=
            mended.persist_succ
          · obtain ⟨more, enough, same⟩ := ih still (calls + 1) (by omega)
            exact ⟨more + 1, Nat.le_succ_of_le enough, (lost more).trans same⟩
          · exact ⟨calls + 1, Nat.le_refl _, (ended calls calls).symm⟩
          · obtain ⟨more, enough, same⟩ := ih next calls (by omega)
            exact ⟨more + 1, Nat.succ_le_succ enough, (further more calls same.symm).symm⟩

/-- Where there are no failures, no call is lost. -/
theorem length_persist (mended : Mended 0 machine reliable) {calls : Nat}
    (unfinished : (persist calls machine).2 = .unfinished)
    : (persist calls machine).1.length = calls := by
  induction calls generalizing machine reliable with
  | zero => rfl
  | succ calls ih =>
      cases mended.step with
      | failed count stepped still => cases count
      | faulted other stepped reliably =>
          rw [persist_succ_of_faulted other stepped] at unfinished
          cases unfinished
      | succeeded stepped reliably seen next =>
          cases marked : machine.isEnd machine.programCounter with
          | true =>
              rw [persist_succ_of_halted stepped marked] at unfinished
              cases unfinished
          | false =>
              rw [persist_succ_of_succeeded stepped marked] at unfinished ⊢
              exact congrArg (· + 1) (ih next unfinished)

/-- The reliable machine beside itself. -/
theorem reliably (mended : Mended failures machine reliable)
    : Mended 0 reliable reliable := by
  obtain ⟨_, _, _, _, _, ⟨coming, _, supplies⟩, ⟨written, _, takes⟩⟩ := mended
  exact ⟨⟨reliable.running, reliable.input, reliable.output, rfl⟩, fun _ => rfl, 0, 0, rfl,
    ⟨coming, supplies, supplies⟩, ⟨written, takes, takes⟩⟩

end Mended

theorem mended_withoutFailures {machine : Machine} {device : ScriptedSink}
    (kind : ∀ reader pending, machine.input ≠ .decimal reader pending)
    (scripted : machine.output = .scripted device)
    : ∃ failures, Mended failures machine machine.withoutFailures := by
  obtain ⟨reads, supplies⟩ := Input.mended_withoutFailures kind
  have takes := Sink.mended_withoutFailures device
  rw [← scripted] at takes
  exact ⟨reads + device.failures, ⟨machine.running, _, _, rfl⟩, fun _ => rfl, reads, _, rfl,
    supplies, takes⟩

/-- A machine that takes every step again that a device has failed gets through the same states,
reads the same values, writes the same bytes and ends in the same way as on devices from whose
scripts the failures are removed; on these no call is lost. A run without an end is compared by its
beginnings. Decimal input is excepted, and so is a console, which a full device fails forever.
-/
theorem retrying_loses_nothing {machine : Machine} {device : ScriptedSink}
    (kind : ∀ reader pending, machine.input ≠ .decimal reader pending)
    (scripted : machine.output = .scripted device)
    : (∀ calls, ∃ fewer, fewer ≤ calls
        ∧ persist fewer machine.withoutFailures = persist calls machine)
      ∧ (∀ calls, ∃ more, calls ≤ more
        ∧ persist more machine = persist calls machine.withoutFailures)
      ∧ ∀ calls, (persist calls machine.withoutFailures).2 = .unfinished
        → (persist calls machine.withoutFailures).1.length = calls := by
  obtain ⟨failures, mended⟩ := mended_withoutFailures kind scripted
  exact ⟨mended.persist_fewer, mended.persist_more, fun _ => mended.reliably.length_persist⟩

/-- An echo of one byte on devices that fail once to read it, twice to write it and once to flush.
-/
def unreliableEcho : Machine :=
  { create 0 (.bytes [.failure (.device .brokenPipe "closed"), .bytes [65]])
      (.scripted (.ofReplies [.nothing, .failure (.device .wouldBlock "busy")]
        [.error (.device .other "flush")])) with
    tape := ((Tape.blank 0).storeAll 0 [Opcode.read.byte, Opcode.write.byte]).mark 2
    dataPointer := 10
    running := true }

/-- What the echo comes to with enough calls is known from three calls on devices that work, though
six calls on its own are not enough.
-/
theorem retrying_loses_nothing_echo
    : (persist 6 unreliableEcho).2 = .unfinished
      ∧ ∃ more, 3 ≤ more
        ∧ (persist more unreliableEcho).2 = .halted
        ∧ (persist more unreliableEcho).1.map Snapshot.written = [[], [65], [65]]
        ∧ (persist more unreliableEcho).1.map Snapshot.value = [some (some 65), none, none] := by
  have reliably : (persist 3 unreliableEcho.withoutFailures).2 = .halted
      ∧ (persist 3 unreliableEcho.withoutFailures).1.map Snapshot.written = [[], [65], [65]]
      ∧ (persist 3 unreliableEcho.withoutFailures).1.map Snapshot.value
        = [some (some 65), none, none] := by
    decide +kernel
  obtain ⟨more, enough, same⟩ :=
    (@retrying_loses_nothing unreliableEcho _ (by simp [unreliableEcho, create]) rfl).2.1 3
  rw [← same] at reliably
  exact ⟨by decide +kernel, more, enough, reliably⟩

end TapeMachine.Machine
