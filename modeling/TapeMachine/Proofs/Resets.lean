import TapeMachine.Proofs.Calls

/-! A reset forgets everything but the devices and the policy. No call changes the length of the
tape, so a machine with any history is after a reset what it was when it was new, on the devices as
they are by then.
-/

namespace TapeMachine.Machine

/-- Calls in a row are answered as their first part, and then the rest from the machine that the
first part leaves.
-/
theorem answerAll_append {patience : Nat} {machine reached : Machine} {calls : List Call}
    {outcomes : List (Except Fault Answer)}
    (answered : machine.answerAll patience calls = some (outcomes, reached)) (further : List Call)
    : machine.answerAll patience (calls ++ further)
      = (reached.answerAll patience further).map
          (fun (later, finished) => (outcomes ++ later, finished)) := by
  induction calls generalizing machine outcomes with
  | nil =>
      obtain ⟨rfl, rfl⟩ := Prod.mk.inj (Option.some.inj answered)
      exact (Option.map_id_apply).symm
  | cons call calls ih =>
      obtain ⟨outcome, after, rest, first, later, rfl⟩ := answerAll_cons_eq_some_iff.mp answered
      simp only [List.cons_append, answerAll, first, ih later, Option.map_map]
      rfl

/-- A reset of a machine whose tape has the length that was asked for is a new machine. -/
theorem reset_of_size {machine : Machine} {requested : Nat}
    (size : machine.tape.size = max requested Tape.minimumSize)
    : machine.reset
      = (create requested machine.input machine.output).withEofPolicy machine.eofPolicy := by
  simp only [reset, create, withEofPolicy, Tape.blank, size]

/-- Whatever a machine has been through, its tape has the length that was asked for, and a reset
makes it a new machine on its present devices, with its present policy. So calls behind a reset get
the answers that a new machine gives, and leave what they leave of a new machine.
-/
theorem reset_leaves_no_residue (requested : Nat) (input : Input) (output : Sink) (patience : Nat)
    (calls : List Call) {outcomes : List (Except Fault Answer)} {machine : Machine}
    (answered : (create requested input output).answerAll patience calls
      = some (outcomes, machine))
    : machine.tape.size = max requested Tape.minimumSize
      ∧ machine.reset
        = (create requested machine.input machine.output).withEofPolicy machine.eofPolicy
      ∧ (∀ longer further,
          machine.reset.answerAll longer further
            = ((create requested machine.input machine.output).withEofPolicy
                machine.eofPolicy).answerAll longer further)
      ∧ ∀ further,
          (create requested input output).answerAll patience (calls ++ .reset :: further)
            = (((create requested machine.input machine.output).withEofPolicy
                machine.eofPolicy).answerAll patience further).map
                (fun (later, finished) => (outcomes ++ .ok .done :: later, finished)) := by
  have size : machine.tape.size = max requested Tape.minimumSize :=
    (size_answerAll answered).trans (Tape.size_zeros _)
  have fresh := reset_of_size size
  refine ⟨size, fresh, fun longer further => by rw [fresh], ?_⟩
  intro further
  rw [answerAll_append answered, ← fresh]
  simp only [answerAll, answer, Option.map_map]
  rfl

/-- A machine that has run off its tape, and that is still running since, is new after a reset. -/
theorem reset_leaves_no_residue_off_tape
    : ∃ outcomes machine,
        (create 0 (.bytes []) (.scripted (.ofReplies [] []))).answerAll 0
            [.load "+<" 10, .setEofPolicy .fault, .runBounded 10 5]
          = some (outcomes, machine)
        ∧ machine.running = true
        ∧ machine.dataPointer = -1
        ∧ machine.steps = 1
        ∧ machine.reset
          = (create 0 machine.input machine.output).withEofPolicy machine.eofPolicy := by
  obtain ⟨outcomes, machine, answered⟩
      : ∃ outcomes machine,
          (create 0 (.bytes []) (.scripted (.ofReplies [] []))).answerAll 0
              [.load "+<" 10, .setEofPolicy .fault, .runBounded 10 5]
            = some (outcomes, machine) :=
    ⟨_, _, rfl⟩
  have residue : ((create 0 (.bytes []) (.scripted (.ofReplies [] []))).answerAll 0
        [.load "+<" 10, .setEofPolicy .fault, .runBounded 10 5]).map
          (fun (_, machine) => (machine.running, machine.dataPointer, machine.steps))
      = some (true, -1, 1) := by
    decide +kernel
  rw [answered] at residue
  obtain ⟨running, pointer, steps⟩ := by simpa using residue
  exact ⟨outcomes, machine, answered, running, pointer, steps,
    (reset_leaves_no_residue 0 _ _ 0 _ answered).2.1⟩

end TapeMachine.Machine
