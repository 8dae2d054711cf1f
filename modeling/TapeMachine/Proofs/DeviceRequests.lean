import TapeMachine.Proofs.StepEffects

/-! What the coming step asks of the devices of a machine. A step asks for at most one thing, which
is a read, a write or a flush, and apart from the answer it does not depend on the devices.
-/

namespace TapeMachine.Machine

/-- A request to the devices, with the cell that it is made for. -/
inductive Request where
  | nothing
  | read (cell : Nat)
  | write (cell : Nat)
  | flush
deriving DecidableEq, Inhabited

/-- What the coming step asks for: reading and writing take the data pointer to be on the tape. -/
def request (machine : Machine) : Request :=
  match machine.fetch with
  | .error _ => .nothing
  | .ok .halt => .flush
  | .ok (.instruction _ op) =>
      match op, machine.tape.locate machine.dataPointer with
      | .read, .ok cell => .read cell
      | .write, .ok cell => .write cell
      | _, _ => .nothing

/-- The machine with another running flag, which no step looks at, and on other devices. -/
def rewired (machine : Machine) (running : Bool) (input : Input) (output : Sink) : Machine :=
  { machine with
    running := running
    input := input
    output := output }

@[simp]
theorem rewired_tape (machine : Machine) (running : Bool) (input : Input) (output : Sink)
    : (machine.rewired running input output).tape = machine.tape :=
  rfl

@[simp]
theorem rewired_request (machine : Machine) (running : Bool) (input : Input) (output : Sink)
    : (machine.rewired running input output).request = machine.request :=
  rfl

-----------------------------------------------------------------------------------------
-- Steps by what they ask for
-----------------------------------------------------------------------------------------

section Attempt

variable {machine : Machine} {cell : Nat}

theorem request_eq_flush_iff
    : machine.request = .flush ↔ machine.fetch = .ok .halt := by
  unfold request
  split
  · simp [*]
  · simp [*]
  · rename_i fetched
    rw [fetched]
    split <;> simp

/-- A step that asks for no flush leaves the flag alone. -/
theorem running_attempt (asks : machine.request ≠ .flush)
    : machine.isEnd machine.programCounter = false
      ∧ machine.attempt.2.running = machine.running := by
  have unmarked : machine.isEnd machine.programCounter = false := by
    rwa [Ne, request_eq_flush_iff, fetch_eq_halt_iff, Bool.not_eq_true] at asks
  have flag := machine.running_step
  rw [step_eq_counted, counted_running, unmarked, Bool.not_false, Bool.and_true] at flag
  exact ⟨unmarked, flag⟩

theorem request_eq_read_iff
    : machine.request = .read cell
      ↔ (∃ index, machine.fetch = .ok (.instruction index .read))
        ∧ machine.tape.locate machine.dataPointer = .ok cell := by
  unfold request
  split
  · simp [*]
  · simp [*]
  · rename_i index op fetched
    rw [fetched]
    cases op <;> cases machine.tape.locate machine.dataPointer <;> simp

theorem request_eq_write_iff
    : machine.request = .write cell
      ↔ (∃ index, machine.fetch = .ok (.instruction index .write))
        ∧ machine.tape.locate machine.dataPointer = .ok cell := by
  unfold request
  split
  · simp [*]
  · simp [*]
  · rename_i index op fetched
    rw [fetched]
    cases op <;> cases machine.tape.locate machine.dataPointer <;> simp

theorem attempt_of_flush (asks : machine.request = .flush)
    : machine.attempt = machine.halt := by
  simp only [attempt, request_eq_flush_iff.mp asks, perform]

theorem attempt_of_read (asks : machine.request = .read cell)
    : machine.attempt = machine.readCell cell := by
  obtain ⟨⟨index, fetched⟩, located⟩ := request_eq_read_iff.mp asks
  simp only [attempt, fetched, perform]
  exact execute_of_ok located

theorem attempt_of_write (asks : machine.request = .write cell)
    : machine.attempt = machine.writeCell cell := by
  obtain ⟨⟨index, fetched⟩, located⟩ := request_eq_write_iff.mp asks
  simp only [attempt, fetched, perform]
  exact execute_of_ok located

end Attempt

/-- What becomes of a read, by what the input gives and by the policy. -/
def readOutcome (policy : EofPolicy) : Except Device.IoError (Option Int) → Except Fault Unit
  | .ok (some _) => .ok ()
  | .ok none => if policy = .fault then .error .inputExhausted else .ok ()
  | .error error => .error (.io error)

/-- Reading into a cell takes one value from the input and stores what there is to store. -/
theorem readCell_eq (machine : Machine) (cell : Nat)
    : machine.readCell cell
      = (readOutcome machine.eofPolicy machine.input.read.1,
          { machine with
            input := machine.input.read.2
            tape := machine.tape.storeIfAny
              ((machine.storedValue cell .read).map (fun value => (cell, value))) }) := by
  unfold readCell storedValue
  rcases machine.input.read with ⟨_ | _ | value, later⟩
  · rfl
  · cases machine.eofPolicy <;> simp [readOutcome, Tape.storeIfAny]
  · rfl

/-- An instruction that neither reads nor writes does the same on all devices. -/
theorem act_rewired {machine : Machine} {op : Opcode} (noRead : op ≠ .read)
    (noWrite : op ≠ .write) (index cell : Nat) (running : Bool) (input : Input) (output : Sink)
    : (machine.rewired running input output).act index cell op
      = ((machine.act index cell op).1,
          (machine.act index cell op).2.rewired running input output) := by
  cases op with
  | moveRight | moveLeft | increment | decrement => rfl
  | write => exact absurd rfl noWrite
  | read => exact absurd rfl noRead
  | loopStart =>
      simp only [act, enterLoop]
      rw [rewired_tape]
      split
      · split <;> rfl
      · rfl
  | loopEnd =>
      simp only [act, repeatLoop]
      rw [rewired_tape]
      split
      · rfl
      · split <;> rfl

/-- A step asks for nothing if it fetches no instruction, leaves the tape with the data pointer, or
executes something else than a read or a write.
-/
theorem cases_of_request_nothing {machine : Machine} (asks : machine.request = .nothing)
    : (∃ fault, machine.fetch = .error fault)
      ∨ ∃ index op, machine.fetch = .ok (.instruction index op)
        ∧ ((∃ side,
              machine.tape.locate (machine.movePointer op).dataPointer = .error side)
          ∨ ∃ cell, machine.tape.locate (machine.movePointer op).dataPointer = .ok cell
              ∧ op ≠ .read
              ∧ op ≠ .write) := by
  cases fetched : machine.fetch with
  | error fault => exact .inl ⟨fault, rfl⟩
  | ok request =>
      cases request with
      | halt =>
          rw [request_eq_flush_iff.mpr fetched] at asks
          cases asks
      | instruction index op =>
          refine .inr ⟨index, op, rfl, ?_⟩
          cases located : machine.tape.locate (machine.movePointer op).dataPointer with
          | error side => exact .inl ⟨side, rfl⟩
          | ok cell =>
              refine .inr ⟨cell, rfl, ?_, ?_⟩
              · rintro rfl
                rw [request_eq_read_iff.mpr ⟨⟨index, fetched⟩, located⟩] at asks
                cases asks
              · rintro rfl
                rw [request_eq_write_iff.mpr ⟨⟨index, fetched⟩, located⟩] at asks
                cases asks

/-- A step that asks for nothing is the same on all devices and leaves them as they are. -/
theorem attempt_rewired {machine : Machine} (asks : machine.request = .nothing)
    (running : Bool) (input : Input) (output : Sink)
    : (machine.rewired running input output).attempt
      = (machine.attempt.1, machine.attempt.2.rewired running input output) := by
  have sameFetch : (machine.rewired running input output).fetch = machine.fetch := rfl
  unfold attempt
  rw [sameFetch]
  obtain ⟨fault, fetched⟩ | ⟨index, op, fetched, decided⟩ := cases_of_request_nothing asks
  · rw [fetched]
  · have pointer : (machine.rewired running input output).movePointer op
        = (machine.movePointer op).rewired running input output := by
      cases op <;> rfl
    simp only [fetched, perform]
    obtain ⟨side, located⟩ | ⟨cell, located, noRead, noWrite⟩ := decided
    · rw [execute_of_error located, execute_of_error (by rw [pointer]; exact located), pointer]
    · rw [execute_of_ok located, execute_of_ok (by rw [pointer]; exact located), pointer]
      exact act_rewired noRead noWrite index cell running input output

theorem attempt_keeps_devices {machine : Machine} (asks : machine.request = .nothing)
    : machine.attempt.2.input = machine.input ∧ machine.attempt.2.output = machine.output := by
  have same := congrArg Prod.snd
    (attempt_rewired asks machine.running machine.input machine.output)
  have own : machine.rewired machine.running machine.input machine.output = machine := rfl
  rw [own] at same
  rw [same]
  exact ⟨rfl, rfl⟩

-----------------------------------------------------------------------------------------
-- Faults of the devices
-----------------------------------------------------------------------------------------

/-- The fault comes from a device, which has failed or has no more values to give. -/
def FromDevice : Fault → Prop
  | .inputExhausted => True
  | .io _ => True
  | _ => False

theorem fetch_fault_not_fromDevice {machine : Machine} {fault : Fault}
    (fetched : machine.fetch = .error fault)
    : ¬ FromDevice fault := by
  unfold fetch at fetched
  split at fetched
  · cases fetched
    exact id
  · split at fetched
    · cases fetched
    · split at fetched <;> cases fetched
      exact id

theorem act_fault_not_fromDevice {machine : Machine} {index cell : Nat} {op : Opcode}
    {fault : Fault} (noRead : op ≠ .read) (noWrite : op ≠ .write)
    (failed : (machine.act index cell op).1 = .error fault)
    : ¬ FromDevice fault := by
  cases op with
  | moveRight | moveLeft | increment | decrement => cases failed
  | write => exact absurd rfl noWrite
  | read => exact absurd rfl noRead
  | loopStart =>
      simp only [act, enterLoop] at failed
      split at failed
      · split at failed <;> cases failed
        exact id
      · cases failed
  | loopEnd =>
      simp only [act, repeatLoop] at failed
      split at failed
      · cases failed
      · split at failed <;> cases failed
        exact id

/-- A step that asks for nothing does not fail on account of a device. -/
theorem attempt_fault_not_fromDevice {machine : Machine} {fault : Fault}
    (asks : machine.request = .nothing) (failed : machine.attempt.1 = .error fault)
    : ¬ FromDevice fault := by
  unfold attempt at failed
  obtain ⟨found, fetched⟩ | ⟨index, op, fetched, decided⟩ := cases_of_request_nothing asks
  · rw [fetched] at failed
    cases failed
    exact fetch_fault_not_fromDevice fetched
  · simp only [fetched, perform] at failed
    obtain ⟨side, located⟩ | ⟨cell, located, noRead, noWrite⟩ := decided
    · rw [execute_of_error located] at failed
      cases failed
      exact id
    · rw [execute_of_ok located] at failed
      exact act_fault_not_fromDevice noRead noWrite failed

end TapeMachine.Machine
