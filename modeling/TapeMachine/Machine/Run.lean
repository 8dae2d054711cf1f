import TapeMachine.Machine.Step

/-! Runs: steps from a start address until the program ends, faults, or has taken as many steps
as it may. The output is flushed after every run.
-/

namespace TapeMachine.Machine

/-- Why a run ended without a fault. -/
inductive Exit where
  | halted
  | stepLimit
deriving DecidableEq, Inhabited

/-- Sets the machine running at an address. -/
def start (machine : Machine) (address : Int) : Machine :=
  { machine with running := true, programCounter := address, steps := 0 }

/-- Takes up to so many steps while the machine is running. -/
def drive : Nat → Machine → Except Fault Exit × Machine
  | 0, machine => (.ok (if machine.running then .stepLimit else .halted), machine)
  | budget + 1, machine =>
      if machine.running then
        match machine.step with
        | (.ok (), after) => drive budget after
        | (.error fault, after) => (.error fault, after)
      else
        (.ok .halted, machine)

theorem drive_of_not_running {machine : Machine} (stopped : machine.running = false)
    (budget : Nat)
    : drive budget machine = (.ok .halted, machine) := by
  cases budget <;> simp [drive, stopped]

theorem drive_zero {machine : Machine} (running : machine.running = true)
    : drive 0 machine = (.ok .stepLimit, machine) := by
  rw [drive, if_pos running]

theorem drive_succ_of_ok {machine after : Machine} (running : machine.running = true)
    (stepped : machine.step = (.ok (), after)) (budget : Nat)
    : drive (budget + 1) machine = drive budget after := by
  simp only [drive, running, stepped, if_true]

theorem drive_succ_of_error {machine after : Machine} {fault : Fault}
    (running : machine.running = true) (stepped : machine.step = (.error fault, after))
    (budget : Nat)
    : drive (budget + 1) machine = (.error fault, after) := by
  simp only [drive, running, stepped, if_true]

/-- Flushes the output at the end of a run. A fault of the run counts more than a failure to
flush.
-/
def finish (outcome : Except Fault Exit) (machine : Machine) : Except Fault Exit × Machine :=
  match machine.output.flush with
  | (flushed, output) =>
      let finished := { machine with output := output }
      match outcome, flushed with
      | .error fault, _ => (.error fault, finished)
      | .ok exit, .ok () => (.ok exit, finished)
      | .ok _, .error error => (.error (.io error), finished)

/-- Runs from an address for at most so many steps. -/
def runBounded (machine : Machine) (address : Int) (budget : Nat)
    : Except Fault Exit × Machine :=
  match drive budget (machine.start address) with
  | (outcome, after) => finish outcome after

/-- Takes steps while the machine is running. There is no result if there are more of them than
one has the patience for.
-/
def driveToEnd (patience : Nat) (machine : Machine) : Option (Except Fault Exit × Machine) :=
  match drive patience machine with
  | (.ok .stepLimit, _) => none
  | (outcome, after) => some (outcome, after)

/-- Runs from an address to the end of the program. -/
def run (patience : Nat) (machine : Machine) (address : Int)
    : Option (Except Fault Exit × Machine) :=
  (driveToEnd patience (machine.start address)).map (fun (outcome, after) => finish outcome after)

end TapeMachine.Machine
