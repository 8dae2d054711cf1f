import TapeMachine.Machine.Call
import TapeMachine.Machine.Trace

/-! The states that a machine goes through while it answers calls: the machines that take the steps
of a run or of a sequence of calls, one for every step that is attempted.
-/

namespace TapeMachine.Machine

/-- The machines that take a step while a call is answered. -/
def visitedBy (patience : Nat) (machine : Machine) : Call → List Machine
  | .step => [machine]
  | .run address => visited patience (machine.start address)
  | .runBounded address budget => visited budget (machine.start address)
  | _ => []

/-- The machines that take a step while calls are answered one after the other. -/
def visitedByAll (patience : Nat) (machine : Machine) : List Call → List Machine
  | [] => []
  | call :: calls =>
      machine.visitedBy patience call
        ++ match machine.answer patience call with
          | none => []
          | some (_, after) => after.visitedByAll patience calls

theorem visited_begins {machine : Machine} (running : machine.running = true) (budget : Nat)
    : [machine] <+: visited (budget + 1) machine := by
  rcases stepped : machine.step with ⟨_ | _, after⟩
  · simp only [visited_succ_of_error running stepped, List.prefix_rfl]
  · rw [visited_succ_of_ok running stepped]
    exact List.prefix_append [machine] _

theorem visitedByAll_cons {machine after : Machine} {patience : Nat} {call : Call}
    {outcome : Except Fault Answer}
    (answered : machine.answer patience call = some (outcome, after)) (calls : List Call)
    : machine.visitedByAll patience (call :: calls)
      = machine.visitedBy patience call ++ after.visitedByAll patience calls := by
  simp only [visitedByAll, answered]

theorem visitedByAll_singleton (machine : Machine) (patience : Nat) (call : Call)
    : machine.visitedByAll patience [call] = machine.visitedBy patience call := by
  simp only [visitedByAll]
  split <;> exact List.append_nil _

end TapeMachine.Machine
