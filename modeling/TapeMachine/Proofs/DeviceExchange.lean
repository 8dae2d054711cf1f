import TapeMachine.Proofs.Lockstep

/-! Devices that can be exchanged without notice. Two inputs, or two sinks, that give the same
answers now and after every use keep machines in lock step.
-/

namespace TapeMachine

/-- Pairs of devices that give the same answer to whatever they are asked, and that leave pairs of
devices behind of which the same is true.
-/
structure Exchange where
  inputs : Input → Input → Prop
  sinks : Sink → Sink → Prop
  read
    : ∀ {first second : Input},
        inputs first second
        → second.read.1 = first.read.1 ∧ inputs first.read.2 second.read.2
  write
    : ∀ {first second : Sink},
        sinks first second
        → ∀ b, (second.write b).1 = (first.write b).1 ∧ sinks (first.write b).2 (second.write b).2
  flush
    : ∀ {first second : Sink},
        sinks first second
        → second.flush.1 = first.flush.1 ∧ sinks first.flush.2 second.flush.2

namespace Exchange

open Machine (Equipment Agree Lockstep)

variable (exchange : Exchange)

/-- An input can be exchanged for itself. -/
theorem read_same {first second : Input} (same : second = first)
    : second.read.1 = first.read.1 ∧ second.read.2 = first.read.2 := by
  subst same
  exact ⟨rfl, rfl⟩

/-- The exchange the other way round. -/
def reversed : Exchange where
  inputs first second := exchange.inputs second first
  sinks first second := exchange.sinks second first
  read paired := (exchange.read paired).imp_left Eq.symm
  write paired b := (exchange.write paired b).imp_left Eq.symm
  flush paired := (exchange.flush paired).imp_left Eq.symm

/-- The values to come are the same, by induction on their number. -/
theorem readMany {first second : Input} (paired : exchange.inputs first second) (count : Nat)
    : (second.readMany count).1 = (first.readMany count).1 := by
  induction count generalizing first second with
  | zero => rfl
  | succ count ih =>
      obtain ⟨same, later⟩ := exchange.read paired
      simp only [Input.readMany]
      rw [same, ih later]

/-- The same policy, and devices that can be exchanged. -/
structure Alike (first second : Equipment) : Prop where
  eofPolicy : second.eofPolicy = first.eofPolicy
  inputs : exchange.inputs first.input second.input
  sinks : exchange.sinks first.output second.output

section Step

variable {exchange} {machine : Machine} {equipment : Equipment}

/-- To one and the same request, exchanged devices give the same reply, and they can still be
exchanged after it.
-/
theorem Alike.served {first second : Equipment} (alike : exchange.Alike first second)
    (tape : Tape) (request : Machine.Request)
    : Machine.SameReply first second tape request
      ∧ exchange.Alike (first.served tape request) (second.served tape request) := by
  obtain ⟨policy, inputs, sinks⟩ := alike
  cases request with
  | nothing => exact ⟨trivial, policy, inputs, sinks⟩
  | read cell => exact (exchange.read inputs).imp (⟨policy, ·⟩) (⟨policy, ·, sinks⟩)
  | write cell => exact (exchange.write sinks (tape.byte cell)).imp_right (⟨policy, inputs, ·⟩)
  | flush => exact (exchange.flush sinks).imp_right (⟨policy, inputs, ·⟩)

/-- No step tells the devices apart. -/
theorem Alike.step (alike : exchange.Alike machine.equipment equipment)
    : Agree exchange.Alike machine.step (machine.equippedWith equipment).step := by
  obtain ⟨same, still⟩ := alike.served machine.tape machine.request
  exact Machine.agree_of_served same still

end Step

/-- Machines on exchanged devices are in lock step, whatever faults they meet. -/
def lockstep : Lockstep where
  alike := exchange.Alike
  excused _ := False
  step alike _ := alike.step
  flush alike := (exchange.flush alike.sinks).imp_right (⟨alike.eofPolicy, alike.inputs, ·⟩)

theorem binding {α : Type} (outcome : Except Fault α)
    : Machine.Binding exchange.lockstep.excused outcome :=
  fun _ _ => id

theorem permits (call : Call) : exchange.lockstep.Permits call := by
  intro policy _ first second alike
  exact ⟨rfl, alike.inputs, alike.sinks⟩

/-- Calls in a row get the same answers on exchanged devices, or no answer on either. -/
theorem answerAll {machine : Machine} {equipment : Equipment}
    (alike : exchange.Alike machine.equipment equipment) (patience : Nat) (calls : List Call)
    : (machine.answerAll patience calls = none
        ∧ (machine.equippedWith equipment).answerAll patience calls = none)
      ∨ ∃ outcomes finished last,
          machine.answerAll patience calls = some (outcomes, finished)
          ∧ (machine.equippedWith equipment).answerAll patience calls
            = some (outcomes, finished.equippedWith last)
          ∧ exchange.Alike finished.equipment last := by
  cases answered : machine.answerAll patience calls with
  | some answers =>
      obtain ⟨outcomes, finished⟩ := answers
      obtain ⟨last, still, same⟩ := exchange.lockstep.answerAll
        (fun call _ => exchange.permits call) alike answered
        (fun outcome _ => exchange.binding outcome)
      exact .inr ⟨outcomes, finished, last, rfl, same, still⟩
  | none =>
      refine .inl ⟨rfl, ?_⟩
      cases otherwise : (machine.equippedWith equipment).answerAll patience calls with
      | none => rfl
      | some answers =>
          -- With an answer on the exchanged devices there would be one on the first ones too.
          have back : exchange.reversed.Alike (machine.equippedWith equipment).equipment
              machine.equipment :=
            ⟨alike.eofPolicy.symm, alike.inputs, alike.sinks⟩
          obtain ⟨_, _, same⟩ := exchange.reversed.lockstep.answerAll
            (fun call _ => exchange.reversed.permits call) back otherwise
            (fun outcome _ => exchange.reversed.binding outcome)
          rw [Machine.equippedWith_equippedWith, Machine.equippedWith_equipment, answered] at same
          cases same

end Exchange

end TapeMachine
