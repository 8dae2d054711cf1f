import TapeMachine.Machine.Call
import TapeMachine.Proofs.Budgets
import TapeMachine.Proofs.Loading
import TapeMachine.Proofs.StoredCells

/-! Sequences of calls: a sequence is answered call by call, its beginnings are answered the same
way, and no call changes the length of the tape.
-/

namespace TapeMachine.Machine

/-- A sequence is answered if its first call is and the rest is, from the machine that the
first call leaves.
-/
theorem answerAll_cons_eq_some_iff {patience : Nat} {machine finished : Machine} {call : Call}
    {calls : List Call} {outcomes : List (Except Fault Answer)}
    : machine.answerAll patience (call :: calls) = some (outcomes, finished)
      ↔ ∃ outcome after rest,
          machine.answer patience call = some (outcome, after)
          ∧ after.answerAll patience calls = some (rest, finished)
          ∧ outcomes = outcome :: rest := by
  simp only [answerAll]
  cases machine.answer patience call with
  | none => simp
  | some first =>
      obtain ⟨outcome, after⟩ := first
      constructor
      · intro answered
        obtain ⟨⟨rest, _⟩, later, same⟩ := Option.map_eq_some_iff.mp answered
        obtain ⟨rfl, rfl⟩ := Prod.mk.inj same
        exact ⟨outcome, after, rest, rfl, later, rfl⟩
      · rintro ⟨_, _, rest, first, later, rfl⟩
        obtain ⟨rfl, rfl⟩ := Prod.mk.inj (Option.some.inj first)
        exact Option.map_eq_some_iff.mpr ⟨(rest, finished), later, rfl⟩

/-- The first calls of a sequence get the first answers. -/
theorem answerAll_take {patience : Nat} {machine finished : Machine} {calls : List Call}
    {outcomes : List (Except Fault Answer)}
    (answered : machine.answerAll patience calls = some (outcomes, finished)) (count : Nat)
    : ∃ reached,
        machine.answerAll patience (calls.take count) = some (outcomes.take count, reached) := by
  induction calls generalizing machine outcomes count with
  | nil =>
      obtain ⟨rfl, rfl⟩ := Prod.mk.inj (Option.some.inj answered)
      exact ⟨machine, by simp [answerAll]⟩
  | cons call calls ih =>
      obtain ⟨outcome, after, rest, first, later, rfl⟩ := answerAll_cons_eq_some_iff.mp answered
      cases count with
      | zero => exact ⟨machine, rfl⟩
      | succ count =>
          obtain ⟨reached, beginning⟩ := ih later count
          exact ⟨reached, answerAll_cons_eq_some_iff.mpr
            ⟨outcome, after, rest.take count, first, beginning, rfl⟩⟩

section Answers

variable (patience : Nat) (machine : Machine)

theorem answer_load (source : String) (address : Int)
    : machine.answer patience (.load source address)
      = some ((machine.load source address).1.map .diagnostics,
          (machine.load source address).2) :=
  rfl

theorem answer_step
    : machine.answer patience .step
      = some (machine.step.1.map (fun _ => .done), machine.step.2) :=
  rfl

theorem answer_runBounded (address : Int) (budget : Nat)
    : machine.answer patience (.runBounded address budget)
      = some ((machine.runBounded address budget).1.map .exit,
          (machine.runBounded address budget).2) :=
  rfl

theorem answer_poke (address : Int) (value : UInt8)
    : machine.answer patience (.poke address value)
      = some ((machine.poke address value).1.map (fun _ => .done),
          (machine.poke address value).2) :=
  rfl

end Answers

/-- A run is answered as the same run with a budget that is never used up. -/
theorem answer_run_eq_some_iff {patience : Nat} {machine after : Machine} {address : Int}
    {outcome : Except Fault Answer}
    : machine.answer patience (.run address) = some (outcome, after)
      ↔ (drive patience (machine.start address)).1 ≠ .ok .stepLimit
        ∧ outcome = (machine.runBounded address patience).1.map (fun _ => .done)
        ∧ after = (machine.runBounded address patience).2 := by
  simp only [answer, Option.map_eq_some_iff]
  constructor
  · rintro ⟨result, finished, same⟩
    obtain ⟨ended, rfl⟩ := run_eq_some_iff.mp finished
    obtain ⟨rfl, rfl⟩ := Prod.mk.inj same
    exact ⟨ended, rfl, rfl⟩
  · rintro ⟨ended, rfl, rfl⟩
    exact ⟨_, run_eq_some_iff.mpr ⟨ended, rfl⟩, rfl⟩

-----------------------------------------------------------------------------------------
-- The length of the tape
-----------------------------------------------------------------------------------------

theorem size_runBounded (machine : Machine) (address : Int) (budget : Nat)
    : (machine.runBounded address budget).2.tape.size = machine.tape.size := by
  rw [runBounded_eq_finish, finish_snd]
  exact size_drive budget (machine.start address)

theorem size_load (machine : Machine) (source : String) (address : Int)
    : (machine.load source address).2.tape.size = machine.tape.size := by
  rcases answered : machine.load source address with ⟨fault | diagnostics, loaded⟩
  · rw [load_eq_error answered]
  · obtain ⟨start, _, _, rfl⟩ := load_eq_ok answered
    simp

theorem size_poke (machine : Machine) (address : Int) (value : UInt8)
    : (machine.poke address value).2.tape.size = machine.tape.size := by
  unfold poke
  split
  · exact Tape.size_store _ _ _
  · rfl

theorem size_answer {patience : Nat} {machine after : Machine} {call : Call}
    {outcome : Except Fault Answer}
    (answered : machine.answer patience call = some (outcome, after))
    : after.tape.size = machine.tape.size := by
  cases call with
  | run address =>
      obtain ⟨_, _, rfl⟩ := answer_run_eq_some_iff.mp answered
      exact machine.size_runBounded address patience
  | load source address =>
      obtain ⟨_, rfl⟩ := Prod.mk.inj (Option.some.inj answered)
      exact machine.size_load source address
  | step =>
      obtain ⟨_, rfl⟩ := Prod.mk.inj (Option.some.inj answered)
      exact machine.size_step
  | runBounded address budget =>
      obtain ⟨_, rfl⟩ := Prod.mk.inj (Option.some.inj answered)
      exact machine.size_runBounded address budget
  | poke address value =>
      obtain ⟨_, rfl⟩ := Prod.mk.inj (Option.some.inj answered)
      exact machine.size_poke address value
  | reset =>
      obtain ⟨_, rfl⟩ := Prod.mk.inj (Option.some.inj answered)
      exact Tape.size_zeros _
  | peek | isEnd | dump | size | setEofPolicy =>
      obtain ⟨_, rfl⟩ := Prod.mk.inj (Option.some.inj answered)
      rfl

/-- The tape of a machine keeps the length it was made with. -/
theorem size_answerAll {patience : Nat} {machine finished : Machine} {calls : List Call}
    {outcomes : List (Except Fault Answer)}
    (answered : machine.answerAll patience calls = some (outcomes, finished))
    : finished.tape.size = machine.tape.size := by
  induction calls generalizing machine outcomes with
  | nil =>
      obtain ⟨_, rfl⟩ := Prod.mk.inj (Option.some.inj answered)
      rfl
  | cons call calls ih =>
      obtain ⟨_, after, _, first, later, _⟩ := answerAll_cons_eq_some_iff.mp answered
      rw [ih later, size_answer first]

end TapeMachine.Machine
