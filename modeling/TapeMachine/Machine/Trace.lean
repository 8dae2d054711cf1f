import TapeMachine.Machine.Run

/-! The machines that take the steps of a run, and what a run executes, instruction by instruction.
Both are what one walk along the steps of a drive shows, and a place in it is a drive of so many
steps.
-/

namespace TapeMachine.Machine

/-- What a look at each machine that takes a step of a drive shows, behind what has been seen
before, which comes last first.
-/
def sightings {α : Type} (look : Machine → Option α) (seen : List α) : Nat → Machine → List α
  | 0, _ => seen.reverse
  | budget + 1, machine =>
      if machine.running then
        let seen := (look machine).toList ++ seen
        match machine.step with
        | (.ok (), after) => sightings look seen budget after
        | (.error _, _) => seen.reverse
      else
        seen.reverse

/-- The machines that take the steps of a drive, one after the other. -/
def visited (budget : Nat) (machine : Machine) : List Machine :=
  sightings some [] budget machine

/-- An instruction and the pointers just before it is executed. -/
structure Executed where
  programCounter : Nat
  dataPointer : Int
  op : Opcode
deriving DecidableEq, Inhabited

/-- The instruction that the next step executes, if it gets as far as that. -/
def upcoming (machine : Machine) : Option Executed :=
  match machine.fetch with
  | .ok (.instruction index op) => some ⟨index, machine.dataPointer, op⟩
  | _ => none

/-- Whether the next step reads from the input. -/
def isAboutToRead (machine : Machine) : Bool :=
  machine.upcoming.any (fun executed => executed.op = .read)
    && (machine.tape.locate machine.dataPointer).isOk

/-- The instructions that up to so many steps execute. -/
def executions (budget : Nat) (machine : Machine) : List Executed :=
  sightings upcoming [] budget machine

/-- The instructions that a run from an address executes within so many steps. -/
def trace (budget : Nat) (machine : Machine) (address : Int) : List Executed :=
  executions budget (machine.start address)

-----------------------------------------------------------------------------------------
-- Looking while walking
-----------------------------------------------------------------------------------------

section Sightings

variable {α : Type} {look : Machine → Option α}

/-- What was seen before stays in front. -/
theorem sightings_eq_append (seen : List α) (budget : Nat) (machine : Machine)
    : sightings look seen budget machine = seen.reverse ++ sightings look [] budget machine := by
  induction budget generalizing seen machine with
  | zero => simp [sightings]
  | succ budget ih =>
      simp only [sightings]
      split
      · split
        · rw [ih, ih (_ ++ [])]
          simp
        · simp
      · simp

theorem reverse_look (machine : Machine)
    : ((look machine).toList ++ []).reverse = (look machine).toList := by
  cases look machine <;> rfl

theorem sightings_of_not_running {machine : Machine} (stopped : machine.running = false)
    (budget : Nat)
    : sightings look [] budget machine = [] := by
  cases budget <;> simp [sightings, stopped]

theorem sightings_succ_of_ok {machine after : Machine} (running : machine.running = true)
    (stepped : machine.step = (.ok (), after)) (budget : Nat)
    : sightings look [] (budget + 1) machine
      = (look machine).toList ++ sightings look [] budget after := by
  simp only [sightings, running, stepped, if_true]
  rw [sightings_eq_append, reverse_look]

theorem sightings_succ_of_error {machine after : Machine} {fault : Fault}
    (running : machine.running = true) (stepped : machine.step = (.error fault, after))
    (budget : Nat)
    : sightings look [] (budget + 1) machine = (look machine).toList := by
  simp only [sightings, running, stepped, if_true]
  rw [reverse_look]

end Sightings

-----------------------------------------------------------------------------------------
-- The states that a drive visits
-----------------------------------------------------------------------------------------

section Visited

variable {machine after : Machine}

@[simp]
theorem visited_zero (machine : Machine)
    : visited 0 machine = [] :=
  rfl

theorem visited_of_not_running (stopped : machine.running = false) (budget : Nat)
    : visited budget machine = [] :=
  sightings_of_not_running stopped budget

theorem visited_succ_of_ok (running : machine.running = true)
    (stepped : machine.step = (.ok (), after)) (budget : Nat)
    : visited (budget + 1) machine = machine :: visited budget after :=
  sightings_succ_of_ok running stepped budget

theorem visited_succ_of_error {fault : Fault} (running : machine.running = true)
    (stepped : machine.step = (.error fault, after)) (budget : Nat)
    : visited (budget + 1) machine = [machine] :=
  sightings_succ_of_error running stepped budget

/-- The state at a position is the one that a drive of so many steps comes to, by induction on the
steps.
-/
theorem getElem?_visited {budget position : Nat} {reached : Machine}
    : (visited budget machine)[position]? = some reached
      ↔ position < budget ∧ drive position machine = (.ok .stepLimit, reached) := by
  induction budget generalizing position machine with
  | zero => simp
  | succ budget ih =>
      cases running : machine.running with
      | false => simp [visited_of_not_running running, drive_of_not_running running]
      | true =>
          rcases stepped : machine.step with ⟨fault | _, after⟩
          · rw [visited_succ_of_error running stepped]
            cases position with
            | zero => simp [drive_zero running]
            | succ position => simp [drive_succ_of_error running stepped]
          · rw [visited_succ_of_ok running stepped]
            cases position with
            | zero => simp [drive_zero running]
            | succ position =>
                rw [List.getElem?_cons_succ, drive_succ_of_ok running stepped, ih,
                  Nat.add_lt_add_iff_right]

/-- A look while walking is a look at the visited states. -/
theorem sightings_eq_filterMap {α : Type} (look : Machine → Option α) (budget : Nat)
    (machine : Machine)
    : sightings look [] budget machine = (visited budget machine).filterMap look := by
  induction budget generalizing machine with
  | zero => rfl
  | succ budget ih =>
      cases running : machine.running with
      | false => rw [sightings_of_not_running running, visited_of_not_running running]; rfl
      | true =>
          rcases stepped : machine.step with ⟨fault | _, after⟩
          · rw [sightings_succ_of_error running stepped, visited_succ_of_error running stepped]
            cases seen : look machine <;> simp [seen]
          · rw [sightings_succ_of_ok running stepped, visited_succ_of_ok running stepped, ih]
            cases seen : look machine <;> simp [seen]

theorem executions_eq_filterMap (budget : Nat) (machine : Machine)
    : executions budget machine = (visited budget machine).filterMap upcoming :=
  sightings_eq_filterMap upcoming budget machine

end Visited

-----------------------------------------------------------------------------------------
-- The instructions that a drive executes
-----------------------------------------------------------------------------------------

section Executions

variable {machine after : Machine}

@[simp]
theorem executions_zero (machine : Machine)
    : executions 0 machine = [] :=
  rfl

theorem executions_of_not_running (stopped : machine.running = false) (budget : Nat)
    : executions budget machine = [] :=
  sightings_of_not_running stopped budget

theorem executions_succ_of_ok (running : machine.running = true)
    (stepped : machine.step = (.ok (), after)) (budget : Nat)
    : executions (budget + 1) machine = machine.upcoming.toList ++ executions budget after :=
  sightings_succ_of_ok running stepped budget

theorem executions_succ_of_error {fault : Fault} (running : machine.running = true)
    (stepped : machine.step = (.error fault, after)) (budget : Nat)
    : executions (budget + 1) machine = machine.upcoming.toList :=
  sightings_succ_of_error running stepped budget

end Executions

end TapeMachine.Machine
