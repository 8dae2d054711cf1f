import TapeMachine.Proofs.Structured.Block

/-! The interpreter on the beginning of a tape. An evaluation that finishes there has neither gone
beyond it nor, without any input, read a value; so it is the same evaluation on every tape that
begins in this way, whatever the input and the policy are.
-/

namespace TapeMachine.Structured

/-- The first workspace is an excerpt from the second one: its tape is the beginning of the other
tape, and it has nothing to read.
-/
structure Excerpt (part whole : Workspace) : Prop where
  longer : part.tape.size ≤ whole.tape.size
  bytes : ∀ index, index < part.tape.size → whole.tape.byte index = part.tape.byte index
  dataPointer : whole.dataPointer = part.dataPointer
  output : whole.output = part.output
  ended : part.input.read.1 = .ok none

/-- An evaluation on an excerpt, and the same evaluation on the whole. -/
structure Mirrors (part whole : Evaluation) : Prop where
  outcome : whole.outcome = part.outcome
  stored : whole.stored = part.stored
  after : Excerpt part.after whole.after

-----------------------------------------------------------------------------------------
-- Commands
-----------------------------------------------------------------------------------------

namespace Excerpt

variable {part whole : Workspace} (excerpt : Excerpt part whole)
include excerpt

theorem finished
    : Mirrors (.finished part) (.finished whole) :=
  ⟨rfl, rfl, excerpt⟩

theorem store {cell : Nat} (inside : cell < part.tape.size) (value : UInt8)
    : Mirrors (part.store cell value) (whole.store cell value) := by
  have alsoInside := Nat.lt_of_lt_of_le inside excerpt.longer
  refine ⟨rfl, rfl, ?_, ?_, excerpt.dataPointer, excerpt.output, excerpt.ended⟩
  · simpa [Workspace.store] using excerpt.longer
  · intro index within
    simp only [Workspace.store, Tape.size_store] at within ⊢
    have same := excerpt.bytes index within
    simp only [Tape.byte, Tape.cell_store, inside, alsoInside, and_true] at same ⊢
    split
    · rfl
    · exact same

/-- What finishes on the excerpt has found its cell there, and finds it on the whole. -/
theorem onCell {act alsoAct : Nat → Evaluation}
    (settled : (part.onCell act).outcome = some (.ok ()))
    (mirrors : ∀ cell, cell < part.tape.size → (act cell).outcome = some (.ok ())
      → Mirrors (act cell) (alsoAct cell))
    : Mirrors (part.onCell act) (whole.onCell alsoAct) := by
  unfold Workspace.onCell at settled ⊢
  cases located : part.tape.locate part.dataPointer with
  | error side =>
      rw [located] at settled
      cases settled
  | ok cell =>
      obtain ⟨here, inside⟩ := Tape.locate_eq_ok_iff.mp located
      have alsoLocated : whole.tape.locate whole.dataPointer = .ok cell :=
        Tape.locate_eq_ok_iff.mpr
          ⟨excerpt.dataPointer.trans here, Nat.lt_of_lt_of_le inside excerpt.longer⟩
      rw [located] at settled
      rw [alsoLocated]
      exact mirrors cell inside settled

theorem move {distance : Int} (settled : (part.move distance).outcome = some (.ok ()))
    : Mirrors (part.move distance) (whole.move distance) := by
  have moved : Excerpt { part with dataPointer := part.dataPointer + distance }
      { whole with dataPointer := whole.dataPointer + distance } :=
    ⟨excerpt.longer, excerpt.bytes, congrArg (· + distance) excerpt.dataPointer, excerpt.output,
      excerpt.ended⟩
  exact moved.onCell settled (fun _ _ _ => moved.finished)

/-- A command that finishes on the excerpt does the same on the whole, by cases on the command. -/
theorem command {command : Command} (settled : (command.eval .fault part).outcome = some (.ok ()))
    (policy : EofPolicy)
    : Mirrors (command.eval .fault part) (command.eval policy whole) := by
  cases command with
  | moveRight => exact excerpt.move settled
  | moveLeft => exact excerpt.move settled
  | increment =>
      refine excerpt.onCell settled (fun cell inside _ => ?_)
      rw [excerpt.bytes cell inside]
      exact excerpt.store inside _
  | decrement =>
      refine excerpt.onCell settled (fun cell inside _ => ?_)
      rw [excerpt.bytes cell inside]
      exact excerpt.store inside _
  | write =>
      refine excerpt.onCell settled (fun cell inside done => ?_)
      rw [excerpt.bytes cell inside, excerpt.output]
      rcases reply : part.output.write (part.tape.byte cell) with ⟨error | _, later⟩
      · rw [reply] at done
        cases done
      · exact ⟨rfl, rfl, excerpt.longer, excerpt.bytes, excerpt.dataPointer, rfl, excerpt.ended⟩
  | read =>
      refine excerpt.onCell settled (fun cell inside done => ?_)
      have taken : part.input.read = (.ok none, part.input.read.2) := Prod.ext excerpt.ended rfl
      rw [taken] at done
      cases done

end Excerpt

-----------------------------------------------------------------------------------------
-- Programs
-----------------------------------------------------------------------------------------

theorem Evaluation.andThen_of_finished {first : Evaluation} {next : Workspace → Evaluation}
    (finished : first.outcome = some (.ok ()))
    : first.andThen next
      = { next first.after with stored := first.stored ++ (next first.after).stored } := by
  simp only [andThen, finished]

theorem Evaluation.finished_of_andThen {first : Evaluation} {next : Workspace → Evaluation}
    (settled : (first.andThen next).outcome = some (.ok ()))
    : first.outcome = some (.ok ()) ∧ (next first.after).outcome = some (.ok ()) := by
  unfold andThen at settled
  split at settled
  · rename_i finished
    exact ⟨finished, settled⟩
  · rename_i unfinished
    exact absurd settled unfinished

theorem Mirrors.andThen {part whole : Evaluation} {next alsoNext : Workspace → Evaluation}
    (settled : (part.andThen next).outcome = some (.ok ()))
    (first : part.outcome = some (.ok ()) → Mirrors part whole)
    (second : ∀ {before alsoBefore}, Excerpt before alsoBefore
      → (next before).outcome = some (.ok ()) → Mirrors (next before) (alsoNext alsoBefore))
    : Mirrors (part.andThen next) (whole.andThen alsoNext) := by
  obtain ⟨finished, settled⟩ := Evaluation.finished_of_andThen settled
  have mirrors := first finished
  have later := second mirrors.after settled
  rw [Evaluation.andThen_of_finished finished,
    Evaluation.andThen_of_finished (mirrors.outcome.trans finished)]
  refine ⟨later.outcome, ?_, later.after⟩
  simp only [mirrors.stored, later.stored]

/-- A program that finishes on the excerpt does the same on the whole, by induction on the depth of
the evaluation.
-/
theorem Excerpt.eval {part whole : Workspace} {depth : Nat} {block : Block}
    (excerpt : Excerpt part whole)
    (settled : (block.eval .fault depth part).outcome = some (.ok ())) (policy : EofPolicy)
    : Mirrors (block.eval .fault depth part) (block.eval policy depth whole) := by
  induction depth generalizing block part whole with
  | zero => cases settled
  | succ depth ih =>
      cases block with
      | done => exact excerpt.finished
      | command first rest =>
          rw [Block.eval] at settled ⊢
          rw [Block.eval]
          exact Mirrors.andThen settled (excerpt.command · policy) ih
      | loop body rest =>
          rw [Block.eval] at settled ⊢
          rw [Block.eval]
          refine excerpt.onCell settled (fun cell inside done => ?_)
          rw [excerpt.bytes cell inside]
          split at done
          · rename_i zero
            rw [if_pos zero, if_pos zero]
            exact ih excerpt done
          · rename_i nonzero
            rw [if_neg nonzero, if_neg nonzero]
            exact Mirrors.andThen done (ih excerpt) ih

end TapeMachine.Structured
