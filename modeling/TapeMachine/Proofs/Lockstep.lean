import TapeMachine.Proofs.Calls
import TapeMachine.Proofs.DeviceRequests

/-! Machines that differ only in what they are equipped with, which is their devices and what they
do at the end of the input. If one step and one flush do not tell two equipments apart, then
neither do whole runs, nor calls in a row. Some faults may be excused: nothing is promised of a
step that ends in one of them.
-/

namespace TapeMachine.Machine

-----------------------------------------------------------------------------------------
-- Equipment
-----------------------------------------------------------------------------------------

/-- What a machine works with, beside its tape and its registers. -/
structure Equipment where
  eofPolicy : EofPolicy
  input : Input
  output : Sink
deriving Inhabited

def equipment (machine : Machine) : Equipment where
  eofPolicy := machine.eofPolicy
  input := machine.input
  output := machine.output

/-- The machine with other equipment. -/
def equippedWith (machine : Machine) (equipment : Equipment) : Machine :=
  { machine with
    eofPolicy := equipment.eofPolicy
    input := equipment.input
    output := equipment.output }

@[simp]
theorem equippedWith_equippedWith (machine : Machine) (first second : Equipment)
    : (machine.equippedWith first).equippedWith second = machine.equippedWith second :=
  rfl

@[simp]
theorem equippedWith_equipment (machine : Machine)
    : machine.equippedWith machine.equipment = machine :=
  rfl

/-- The machine with another policy and another count of steps, which nothing but a read and the
counting itself look at.
-/
def recast (machine : Machine) (policy : EofPolicy) (steps : Nat) : Machine :=
  { machine with
    eofPolicy := policy
    steps := steps }

/-- An instruction does the same whatever the count is, and only a read that finds the end of the
input looks at the policy.
-/
theorem act_recast {machine : Machine} {op : Opcode} {policy : EofPolicy}
    (same : op = .read → machine.input.read.1 = .ok none → policy = machine.eofPolicy)
    (index cell steps : Nat)
    : (machine.recast policy steps).act index cell op
      = ((machine.act index cell op).1, (machine.act index cell op).2.recast policy steps) := by
  have sameTape : (machine.recast policy steps).tape = machine.tape := rfl
  have sameOutput : (machine.recast policy steps).output = machine.output := rfl
  have sameInput : (machine.recast policy steps).input = machine.input := rfl
  cases op with
  | moveRight | moveLeft | increment | decrement => rfl
  | read =>
      simp only [act, readCell]
      rw [sameInput]
      rcases taken : machine.input.read with ⟨_ | _ | value, later⟩
      · rfl
      · obtain rfl := same rfl (congrArg Prod.fst taken)
        cases machine.eofPolicy <;> rfl
      · rfl
  | write =>
      simp only [act, writeCell]
      rw [sameTape, sameOutput]
      split <;> rfl
  | loopStart =>
      simp only [act, enterLoop]
      rw [sameTape]
      split
      · split <;> rfl
      · rfl
  | loopEnd =>
      simp only [act, repeatLoop]
      rw [sameTape]
      split
      · rfl
      · split <;> rfl

theorem attempt_recast {machine : Machine} {policy : EofPolicy}
    (same : ∀ cell, machine.request = .read cell → machine.input.read.1 = .ok none
      → policy = machine.eofPolicy)
    (steps : Nat)
    : (machine.recast policy steps).attempt
      = (machine.attempt.1, machine.attempt.2.recast policy steps) := by
  have sameFetch : (machine.recast policy steps).fetch = machine.fetch := rfl
  unfold attempt
  rw [sameFetch]
  cases fetched : machine.fetch with
  | error fault => rfl
  | ok request =>
      cases request with
      | halt =>
          have sameOutput : (machine.recast policy steps).output = machine.output := rfl
          simp only [perform, halt]
          rw [sameOutput]
          split <;> rfl
      | instruction index op =>
          have pointer : (machine.recast policy steps).movePointer op
              = (machine.movePointer op).recast policy steps := by
            cases op <;> rfl
          simp only [perform]
          cases located : machine.tape.locate (machine.movePointer op).dataPointer with
          | error side =>
              rw [execute_of_error located, execute_of_error (by rw [pointer]; exact located),
                pointer]
          | ok cell =>
              rw [execute_of_ok located, execute_of_ok (by rw [pointer]; exact located), pointer]
              apply act_recast
              rintro rfl dry
              exact same cell (request_eq_read_iff.mpr ⟨⟨index, fetched⟩, located⟩) dry

/-- A step counts itself and does not look at the count. -/
theorem step_recast {machine : Machine} {policy : EofPolicy}
    (same : ∀ cell, machine.request = .read cell → machine.input.read.1 = .ok none
      → policy = machine.eofPolicy)
    (lead : Nat)
    : (machine.recast policy (machine.steps + lead)).step
      = (machine.step.1, machine.step.2.recast policy (machine.step.2.steps + lead)) := by
  rw [step_eq_counted, step_eq_counted, attempt_recast same, ← machine.attempt_keeps.1]
  rcases machine.attempt with ⟨_ | _, after⟩
  · rfl
  · simp only [counted, advance, recast, Nat.add_right_comm]

-----------------------------------------------------------------------------------------
-- Replies of the devices
-----------------------------------------------------------------------------------------

/-- The equipment after a request has been served. -/
def Equipment.served (equipment : Equipment) (tape : Tape) : Request → Equipment
  | .nothing => equipment
  | .read _ => { equipment with input := equipment.input.read.2 }
  | .write cell => { equipment with output := (equipment.output.write (tape.byte cell)).2 }
  | .flush => { equipment with output := equipment.output.flush.2 }

/-- Two equipments reply to a request in the same way, and to a read under the same policy. -/
def SameReply (first second : Equipment) (tape : Tape) : Request → Prop
  | .nothing => True
  | .read _ =>
      second.eofPolicy = first.eofPolicy ∧ second.input.read.1 = first.input.read.1
  | .write cell =>
      (second.output.write (tape.byte cell)).1 = (first.output.write (tape.byte cell)).1
  | .flush => second.output.flush.1 = first.output.flush.1

theorem counted_equippedWith (attempted : Except Fault Unit × Machine) (equipment : Equipment)
    : counted (attempted.1, attempted.2.equippedWith equipment)
      = ((counted attempted).1, (counted attempted).2.equippedWith equipment) := by
  obtain ⟨_ | _, after⟩ := attempted <;> rfl

/-- Of its equipment, a step leaves what has served its request. -/
theorem equipment_step (machine : Machine)
    : machine.step.2.equipment = machine.equipment.served machine.tape machine.request := by
  rw [step_eq_counted]
  cases asks : machine.request with
  | nothing =>
      obtain ⟨sameInput, sameOutput⟩ := attempt_keeps_devices asks
      simp only [equipment, counted_eofPolicy, counted_input, counted_output, sameInput, sameOutput,
        machine.attempt_keeps.2, Equipment.served]
  | read cell =>
      rw [attempt_of_read asks, readCell_eq]
      simp only [equipment, counted_eofPolicy, counted_input, counted_output, Equipment.served]
  | write cell =>
      rw [attempt_of_write asks, writeCell]
      rcases reply : machine.output.write (machine.tape.byte cell) with ⟨_ | _, later⟩ <;>
        simp only [equipment, counted_eofPolicy, counted_input, counted_output, Equipment.served,
          reply]
  | flush =>
      rw [attempt_of_flush asks, halt]
      rcases reply : machine.output.flush with ⟨_ | _, later⟩ <;>
        simp only [equipment, counted_eofPolicy, counted_input, counted_output, Equipment.served,
          reply]

/-- A step that asks the devices for nothing is the same with all equipment and leaves it as it
is.
-/
theorem step_of_nothing {machine : Machine} (asks : machine.request = .nothing)
    (equipment : Equipment)
    : machine.step.2.equipment = machine.equipment
      ∧ (machine.equippedWith equipment).step
        = (machine.step.1, machine.step.2.equippedWith equipment) := by
  constructor
  · rw [equipment_step, asks]
    rfl
  · have flag := (running_attempt (by simp [asks] : machine.request ≠ .flush)).2
    have elsewhere := attempt_rewired asks machine.running equipment.input equipment.output
    have otherwise := @attempt_recast
      (machine.rewired machine.running equipment.input equipment.output) equipment.eofPolicy
      (fun cell reads _ => by
        rw [rewired_request, asks] at reads
        cases reads)
      machine.steps
    rw [elsewhere] at otherwise
    have attempted : (machine.equippedWith equipment).attempt
        = (machine.attempt.1, machine.attempt.2.equippedWith equipment) := by
      refine otherwise.trans ?_
      simp only [rewired, recast, equippedWith, flag, machine.attempt_keeps.1]
    rw [step_eq_counted, step_eq_counted, attempted]
    exact counted_equippedWith machine.attempt equipment

/-- A step that asks for a write fails exactly if the write does. -/
theorem step_fst_of_write {machine : Machine} {cell : Nat} (asks : machine.request = .write cell)
    : machine.step.1 = (machine.output.write (machine.tape.byte cell)).1.mapError .io := by
  rw [step_eq_counted, counted_fst, attempt_of_write asks, writeCell]
  rcases machine.output.write (machine.tape.byte cell) with ⟨_ | _, later⟩ <;> rfl

/-- A step that asks for a flush fails exactly if the flush does. -/
theorem step_fst_of_flush {machine : Machine} (asks : machine.request = .flush)
    : machine.step.1 = machine.output.flush.1.mapError .io := by
  rw [step_eq_counted, counted_fst, attempt_of_flush asks, halt]
  rcases machine.output.flush with ⟨_ | _, later⟩ <;> rfl

/-- A step knows of its devices only what they reply to its request, by cases on the request. -/
theorem step_equippedWith {machine : Machine} {equipment : Equipment}
    (same : SameReply machine.equipment equipment machine.tape machine.request)
    : (machine.equippedWith equipment).step
      = (machine.step.1,
          machine.step.2.equippedWith (equipment.served machine.tape machine.request)) := by
  cases asks : machine.request with
  | nothing => exact (step_of_nothing asks equipment).2
  | read cell =>
      have alsoAsks : (machine.equippedWith equipment).request = .read cell := asks
      rw [asks] at same
      obtain ⟨policy, sameRead⟩ : equipment.eofPolicy = machine.eofPolicy
          ∧ equipment.input.read.1 = machine.input.read.1 := same
      rw [step_eq_counted, step_eq_counted, attempt_of_read asks, attempt_of_read alsoAsks,
        ← counted_equippedWith, readCell_eq, readCell_eq]
      simp only [equippedWith, storedValue, policy, sameRead, Equipment.served]
  | write cell =>
      have alsoAsks : (machine.equippedWith equipment).request = .write cell := asks
      rw [asks] at same
      have reply : (machine.equippedWith equipment).output.write
            ((machine.equippedWith equipment).tape.byte cell)
          = ((machine.output.write (machine.tape.byte cell)).1,
              (equipment.output.write (machine.tape.byte cell)).2) :=
        Prod.ext same rfl
      rw [step_eq_counted, step_eq_counted, attempt_of_write asks, attempt_of_write alsoAsks,
        ← counted_equippedWith, writeCell, writeCell, reply]
      rcases machine.output.write (machine.tape.byte cell) with ⟨_ | _, later⟩ <;> rfl
  | flush =>
      have alsoAsks : (machine.equippedWith equipment).request = .flush := asks
      rw [asks] at same
      have reply : (machine.equippedWith equipment).output.flush
          = (machine.output.flush.1, equipment.output.flush.2) :=
        Prod.ext same rfl
      rw [step_eq_counted, step_eq_counted, attempt_of_flush asks, attempt_of_flush alsoAsks,
        ← counted_equippedWith, halt, halt, reply]
      rcases machine.output.flush with ⟨_ | _, later⟩ <;> rfl

-----------------------------------------------------------------------------------------
-- Equipment that cannot be told apart
-----------------------------------------------------------------------------------------

/-- The outcome is no excused fault. -/
def Binding {α : Type} (excused : Fault → Prop) (outcome : Except Fault α) : Prop :=
  ∀ fault, outcome = .error fault → ¬ excused fault

theorem binding_ok {α : Type} (excused : Fault → Prop) (value : α)
    : Binding excused (.ok value : Except Fault α) := by
  intro fault failed
  cases failed

/-- What a fault comes with does not matter for whether it is excused. -/
theorem binding_error {α β : Type} {excused : Fault → Prop} {fault : Fault}
    (binding : Binding excused (.error fault : Except Fault α))
    : Binding excused (.error fault : Except Fault β) := by
  rintro _ ⟨⟩
  exact binding fault rfl

theorem map_eq_error_iff {α β : Type} {outcome : Except Fault α} {f : α → β} {fault : Fault}
    : outcome.map f = .error fault ↔ outcome = .error fault := by
  cases outcome with
  | error other => simp [Except.map]
  | ok value => simp [Except.map]

theorem binding_of_map {α β : Type} {excused : Fault → Prop} {outcome : Except Fault α}
    {f : α → β} (binding : Binding excused (outcome.map f))
    : Binding excused outcome :=
  fun fault failed => binding fault (map_eq_error_iff.mpr failed)

/-- The second outcome is the first one, and so is its machine, but for equipment that is alike. -/
def Agree {α : Type} (alike : Equipment → Equipment → Prop) (first second : α × Machine) : Prop :=
  ∃ equipment,
    alike first.2.equipment equipment ∧ second = (first.1, first.2.equippedWith equipment)

/-- Machines agree on a step if their devices reply in the same way and are alike after that. -/
theorem agree_of_served {alike : Equipment → Equipment → Prop} {machine : Machine}
    {equipment : Equipment}
    (same : SameReply machine.equipment equipment machine.tape machine.request)
    (still : alike (machine.equipment.served machine.tape machine.request)
      (equipment.served machine.tape machine.request))
    : Agree alike machine.step (machine.equippedWith equipment).step :=
  ⟨_, machine.equipment_step ▸ still, step_equippedWith same⟩

/-- Equipment that is alike: neither a flush nor a step, unless it ends in an excused fault, tells
one from the other.
-/
structure Lockstep where
  alike : Equipment → Equipment → Prop
  excused : Fault → Prop
  step
    : ∀ {machine : Machine} {equipment : Equipment},
        alike machine.equipment equipment
        → Binding excused machine.step.1
        → Agree alike machine.step (machine.equippedWith equipment).step
  flush
    : ∀ {first second : Equipment},
        alike first second
        → second.output.flush.1 = first.output.flush.1
          ∧ alike { first with output := first.output.flush.2 }
              { second with output := second.output.flush.2 }

namespace Lockstep

variable (lockstep : Lockstep) {machine : Machine} {equipment : Equipment}

/-- Drives agree step by step, by induction on the steps of the first machine. -/
theorem drive (budget : Nat) (alike : lockstep.alike machine.equipment equipment)
    (binding : Binding lockstep.excused (drive budget machine).1)
    : Agree lockstep.alike (drive budget machine)
        (drive budget (machine.equippedWith equipment)) := by
  fun_induction Machine.drive budget machine generalizing equipment with
  | case1 machine => exact ⟨equipment, alike, rfl⟩
  | case2 budget machine running after stepped ih =>
      obtain ⟨next, still, same⟩ := lockstep.step alike (stepped ▸ binding_ok _ ())
      rw [stepped] at still same
      have alsoRunning : (machine.equippedWith equipment).running = true := running
      rw [drive_succ_of_ok alsoRunning same]
      exact ih still binding
  | case3 budget machine running fault after stepped =>
      obtain ⟨next, still, same⟩ := lockstep.step alike (stepped ▸ binding_error binding)
      rw [stepped] at still same
      have alsoRunning : (machine.equippedWith equipment).running = true := running
      rw [drive_succ_of_error alsoRunning same]
      exact ⟨next, still, rfl⟩
  | case4 budget machine stopped =>
      have alsoStopped : (machine.equippedWith equipment).running = false :=
        Bool.not_eq_true _ ▸ stopped
      rw [drive_of_not_running alsoStopped]
      exact ⟨equipment, alike, rfl⟩

theorem finish (outcome : Except Fault Exit) (alike : lockstep.alike machine.equipment equipment)
    : Agree lockstep.alike (finish outcome machine)
        (finish outcome (machine.equippedWith equipment)) := by
  obtain ⟨same, still⟩ := lockstep.flush alike
  rcases reply : machine.output.flush with ⟨flushed, later⟩
  rcases otherReply : equipment.output.flush with ⟨otherFlushed, otherLater⟩
  have output : machine.equipment.output = machine.output := rfl
  rw [output, reply, otherReply] at same still
  obtain rfl : otherFlushed = flushed := same
  refine ⟨{ equipment with output := otherLater }, ?_, ?_⟩
  · rw [finish_snd, reply]
    exact still
  · have otherOutput : (machine.equippedWith equipment).output.flush = (otherFlushed, otherLater) :=
      otherReply
    unfold Machine.finish
    rw [reply, otherOutput]
    cases outcome <;> cases otherFlushed <;> rfl

theorem binding_of_finish {outcome : Except Fault Exit} {excused : Fault → Prop}
    (binding : Binding excused (Machine.finish outcome machine).1)
    : Binding excused outcome := by
  cases outcome with
  | error fault => rwa [finish_error] at binding
  | ok exit => exact binding_ok excused exit

theorem runBounded (address : Int) (budget : Nat)
    (alike : lockstep.alike machine.equipment equipment)
    (binding : Binding lockstep.excused (machine.runBounded address budget).1)
    : Agree lockstep.alike (machine.runBounded address budget)
        ((machine.equippedWith equipment).runBounded address budget) := by
  rw [runBounded_eq_finish] at binding
  obtain ⟨next, still, same⟩ :=
    @Lockstep.drive lockstep (machine.start address) equipment budget alike
      (binding_of_finish binding)
  have started : (machine.equippedWith equipment).start address
      = (machine.start address).equippedWith equipment := rfl
  rw [runBounded_eq_finish, runBounded_eq_finish, started, same]
  exact lockstep.finish _ still

end Lockstep

-----------------------------------------------------------------------------------------
-- Calls
-----------------------------------------------------------------------------------------

/-- A load neither looks at the equipment nor changes it. -/
theorem load_equippedWith (machine : Machine) (source : String) (address : Int)
    (equipment : Equipment)
    : (machine.load source address).2.equipment = machine.equipment
      ∧ (machine.equippedWith equipment).load source address
        = ((machine.load source address).1,
            (machine.load source address).2.equippedWith equipment) := by
  have sameTape : (machine.equippedWith equipment).tape = machine.tape := rfl
  simp only [load]
  rw [sameTape]
  split
  · exact ⟨rfl, rfl⟩
  · split <;> exact ⟨rfl, rfl⟩

theorem poke_equippedWith (machine : Machine) (address : Int) (value : UInt8)
    (equipment : Equipment)
    : (machine.poke address value).2.equipment = machine.equipment
      ∧ (machine.equippedWith equipment).poke address value
        = ((machine.poke address value).1,
            (machine.poke address value).2.equippedWith equipment) := by
  have sameTape : (machine.equippedWith equipment).tape = machine.tape := rfl
  simp only [poke]
  rw [sameTape]
  split <;> exact ⟨rfl, rfl⟩

namespace Lockstep

variable (lockstep : Lockstep) {machine : Machine} {equipment : Equipment}

/-- The call keeps equipment alike that is: this is in question only if it sets the policy. -/
def Permits (call : Call) : Prop :=
  ∀ policy, call = .setEofPolicy policy
    → ∀ first second, lockstep.alike first second
      → lockstep.alike { first with eofPolicy := policy } { second with eofPolicy := policy }

/-- A call is answered alike, by cases on what it asks for. -/
theorem answer {patience : Nat} {call : Call} {outcome : Except Fault Answer} {after : Machine}
    (permitted : lockstep.Permits call)
    (alike : lockstep.alike machine.equipment equipment)
    (answered : machine.answer patience call = some (outcome, after))
    (binding : Binding lockstep.excused outcome)
    : ∃ next,
        lockstep.alike after.equipment next
        ∧ (machine.equippedWith equipment).answer patience call
          = some (outcome, after.equippedWith next) := by
  cases call with
  | load source address =>
      obtain ⟨kept, same⟩ := machine.load_equippedWith source address equipment
      rw [answer_load] at answered
      obtain ⟨rfl, rfl⟩ := Prod.mk.inj (Option.some.inj answered)
      exact ⟨equipment, kept ▸ alike, by rw [answer_load, same]⟩
  | step =>
      rw [answer_step] at answered
      obtain ⟨rfl, rfl⟩ := Prod.mk.inj (Option.some.inj answered)
      obtain ⟨next, still, same⟩ := lockstep.step alike (binding_of_map binding)
      exact ⟨next, still, by rw [answer_step, same]⟩
  | run address =>
      obtain ⟨ended, rfl, rfl⟩ := answer_run_eq_some_iff.mp answered
      have runBinding := binding_of_map binding
      obtain ⟨next, still, same⟩ := lockstep.runBounded address patience alike runBinding
      obtain ⟨_, _, driven⟩ := @Lockstep.drive lockstep (machine.start address) equipment patience
        alike (binding_of_finish runBinding)
      refine ⟨next, still, answer_run_eq_some_iff.mpr ⟨?_, by rw [same], by rw [same]⟩⟩
      intro limit
      exact ended ((congrArg Prod.fst driven).symm.trans limit)
  | runBounded address budget =>
      rw [answer_runBounded] at answered
      obtain ⟨rfl, rfl⟩ := Prod.mk.inj (Option.some.inj answered)
      obtain ⟨next, still, same⟩ :=
        lockstep.runBounded address budget alike (binding_of_map binding)
      exact ⟨next, still, by rw [answer_runBounded, same]⟩
  | poke address value =>
      obtain ⟨kept, same⟩ := machine.poke_equippedWith address value equipment
      rw [answer_poke] at answered
      obtain ⟨rfl, rfl⟩ := Prod.mk.inj (Option.some.inj answered)
      exact ⟨equipment, kept ▸ alike, by rw [answer_poke, same]⟩
  | peek | isEnd | dump | size =>
      obtain ⟨rfl, rfl⟩ := Prod.mk.inj (Option.some.inj answered)
      exact ⟨equipment, alike, rfl⟩
  | reset =>
      obtain ⟨rfl, rfl⟩ := Prod.mk.inj (Option.some.inj answered)
      exact ⟨equipment, alike, rfl⟩
  | setEofPolicy policy =>
      obtain ⟨rfl, rfl⟩ := Prod.mk.inj (Option.some.inj answered)
      exact ⟨_, permitted policy rfl _ _ alike, rfl⟩

/-- Calls in a row are answered alike as long as no excused fault is among the answers. -/
theorem answerAll {patience : Nat} {calls : List Call} {outcomes : List (Except Fault Answer)}
    {finished : Machine}
    (permitted : ∀ call ∈ calls, lockstep.Permits call)
    (alike : lockstep.alike machine.equipment equipment)
    (answered : machine.answerAll patience calls = some (outcomes, finished))
    (binding : ∀ outcome ∈ outcomes, Binding lockstep.excused outcome)
    : ∃ last,
        lockstep.alike finished.equipment last
        ∧ (machine.equippedWith equipment).answerAll patience calls
          = some (outcomes, finished.equippedWith last) := by
  induction calls generalizing machine equipment outcomes with
  | nil =>
      obtain ⟨rfl, rfl⟩ := Prod.mk.inj (Option.some.inj answered)
      exact ⟨equipment, alike, rfl⟩
  | cons call calls ih =>
      obtain ⟨outcome, after, rest, first, later, rfl⟩ := answerAll_cons_eq_some_iff.mp answered
      obtain ⟨next, still, same⟩ := lockstep.answer (permitted call List.mem_cons_self) alike first
        (binding outcome List.mem_cons_self)
      obtain ⟨last, stillLast, alsoLater⟩ := ih
        (fun call member => permitted call (List.mem_cons_of_mem _ member)) still later
        (fun outcome member => binding outcome (List.mem_cons_of_mem _ member))
      exact ⟨last, stillLast, answerAll_cons_eq_some_iff.mpr
        ⟨outcome, after.equippedWith next, rest, same, alsoLater, rfl⟩⟩

end Lockstep

end TapeMachine.Machine
