import TapeMachine.Proofs.Budgets
import TapeMachine.Proofs.Structured.Enactment
import TapeMachine.Proofs.Structured.Sites

/-! A well-nested program that is loaded and run ends exactly as the interpreter ends on it, as
long as the program is left alone. At its end the machine steps on the mark behind the program,
where it flushes its output and stops.
-/

namespace TapeMachine

namespace Machine

/-- The machine stops behind the mark, if it can flush its output. -/
theorem step_of_mark {machine : Machine} {index : Nat}
    (here : machine.programCounter = index) (marked : machine.tape.cell index = .endMark)
    (flushes : machine.output.flush.1 = .ok ())
    : machine.step
      = (.ok (), advance { machine with running := false, output := machine.output.flush.2 }) := by
  have located := Tape.locate_eq_ok_iff.mpr ⟨here, Tape.lt_size_of_endMark marked⟩
  simp only [step, fetch_of_endMark located marked, perform, halt]
  rcases reply : machine.output.flush with ⟨_ | _, later⟩
  · rw [reply] at flushes
    cases flushes
  · rfl

/-- The interpreter on what the machine holds, going only so deep. -/
def evaluate (machine : Machine) (program : Structured.Block) (depth : Nat)
    : Structured.Evaluation :=
  program.eval machine.eofPolicy depth machine.workspace

end Machine

namespace Structured

open Machine (Exit drive storedCells)

/-- A run ended as an evaluation did: it left the same behind, and it stopped behind the mark at
an address or with the fault of the evaluation.
-/
structure EndsAs (evaluation : Evaluation) (mark : Int) (result : Except Fault Exit × Machine)
    : Prop where
  tape : result.2.tape = evaluation.after.tape
  dataPointer : result.2.dataPointer = evaluation.after.dataPointer
  input : result.2.input = evaluation.after.input
  written : result.2.output.accepted = evaluation.after.output.accepted
  ending :
    (evaluation.outcome = some (.ok ())
      ∧ result.1 = .ok .halted
      ∧ result.2.programCounter = mark + 1
      ∧ result.2.running = false)
    ∨ ∃ fault, evaluation.outcome = some (.error fault) ∧ result.1 = .error fault

/-- The flush at the end of a run changes nothing that is compared. -/
theorem EndsAs.of_finish {evaluation : Evaluation} {mark : Int} {outcome : Except Fault Exit}
    {after : Machine} (same : EndsAs evaluation mark (outcome, after))
    (kept : (Machine.finish outcome after).1 = outcome)
    : EndsAs evaluation mark (Machine.finish outcome after) := by
  obtain ⟨tape, dataPointer, input, written, ending⟩ := same
  have finished := Machine.finish_snd outcome after
  refine ⟨?_, ?_, ?_, (Machine.accepted_finish outcome after).trans written, ?_⟩
  · rw [finished]
    exact tape
  · rw [finished]
    exact dataPointer
  · rw [finished]
    exact input
  · rw [kept, finished]
    exact ending

-----------------------------------------------------------------------------------------
-- What an enactment says about a run
-----------------------------------------------------------------------------------------

section Enacts

variable {low high : Int} {depth last : Nat} {evaluation : Evaluation} {machine : Machine}
  {address : Int} (enacts : Enacts low high (machine.start address) depth last evaluation)
include enacts

/-- An evaluation that ends is a run that ends: the machine goes to the mark, or it faults on the
way.
-/
theorem Enacts.run_ends (marked : machine.tape.cell last = .endMark)
    (within : low ≤ last ∧ last ≤ high) (flushes : machine.output.FlushesSucceed)
    (ended : evaluation.outcome ≠ none) (outside : Outside low high evaluation.stored)
    : ∃ patience result,
        machine.run patience address = some result ∧ EndsAs evaluation last result := by
  cases enacts with
  | unfinished outcome => exact absurd outcome ended
  | @finished steps reached _ driven arrived =>
      have untouched : last ∉ storedCells steps (machine.start address) := by
        intro stored
        have apart := outside last stored
        omega
      have held := (Machine.cell_drive_of_not_mem untouched).trans marked
      have begun : (machine.start address).output.FlushesSucceed := flushes
      have succeed := Machine.flushesSucceed_drive steps begun
      rw [driven] at held succeed
      have stepped := Machine.step_of_mark arrived held succeed.flush_fst
      obtain ⟨halted, _⟩ := Machine.drive_of_mark_on_last_step driven
        (Tape.isEnd_iff.mpr ⟨last, arrived, held⟩) stepped
      refine ⟨steps + 1, _, Machine.run_eq_some_iff.mpr ⟨?_, rfl⟩, ?_⟩
      · rw [halted]
        simp
      · rw [Machine.runBounded_eq_finish, halted]
        refine EndsAs.of_finish ⟨rfl, rfl, rfl, reached.output.accepted_flush, ?_⟩ ?_
        · exact Or.inl ⟨rfl, rfl, congrArg (· + 1) arrived, rfl⟩
        · have again := (succeed.after_use (.flushed _)).flush_fst
          exact Machine.finish_of_flushed again
  | @faulted steps reached fault _ driven =>
      refine ⟨steps, _, Machine.run_eq_some_iff.mpr ⟨?_, rfl⟩, ?_⟩
      · rw [driven]
        simp
      · rw [Machine.runBounded_eq_finish, driven]
        refine EndsAs.of_finish ⟨rfl, rfl, rfl, rfl, ?_⟩ (Machine.finish_error fault reached)
        exact Or.inr ⟨fault, rfl, rfl⟩
  | trespassed inside => exact absurd outside inside

/-- An evaluation that is unfinished is a run that has not ended after as many steps. -/
theorem Enacts.goes_on (unfinished : evaluation.outcome = none)
    (outside : Outside low high evaluation.stored)
    : ∃ steps, depth ≤ steps ∧ (drive steps (machine.start address)).1 = .ok .stepLimit := by
  cases enacts with
  | @unfinished _ steps reached _ _ _ driven enough => exact ⟨steps, enough, by rw [driven]⟩
  | finished => cases unfinished
  | faulted => cases unfinished
  | trespassed inside => exact absurd outside inside

theorem Enacts.trespasses (inside : ¬ Outside low high evaluation.stored)
    : ∃ steps, ¬ Outside low high (storedCells steps (machine.start address)) := by
  cases enacts with
  | unfinished _ stored outside => exact absurd (stored ▸ outside) inside
  | finished outside => exact absurd outside inside
  | faulted outside => exact absurd outside inside
  | @trespassed _ steps _ alsoInside => exact ⟨steps, alsoInside⟩

end Enacts

-----------------------------------------------------------------------------------------
-- Loaded programs
-----------------------------------------------------------------------------------------

/-- A load puts the program in place, with a mark behind it. -/
theorem placed_of_load {machine loaded : Machine} {source : String} {address : Int}
    {diagnostics : List Source.Diagnostic} {program : Block}
    (lexed : (Source.Program.ofString source).opcodes = program.opcodes)
    (loads : machine.load source address = (.ok diagnostics, loaded))
    : ∃ start : Nat,
        address = start
        ∧ Placed loaded.eofPolicy start (start + program.opcodes.length) start program
            (loaded.start start)
        ∧ loaded.tape.cell (start + program.opcodes.length) = .endMark
        ∧ loaded.output = machine.output := by
  obtain ⟨start, located, inPlace⟩ := inPlace_of_load lexed loads
  have room := inPlace.room
  have output : loaded.output = machine.output := by
    obtain ⟨_, _, _, rfl⟩ := Machine.load_eq_ok loads
    rfl
  refine ⟨start, located, ⟨rfl, inPlace.holds, Int.le_refl _, by omega, ?_, rfl⟩,
    inPlace.marked, output⟩
  simp only [Machine.start]
  omega

/-- A well-nested program that was loaded runs as the interpreter evaluates it. If the evaluation
ends without a store in the program or its mark, the run ends in the same way; if the run ends
without such a store, so does the evaluation, and in the same way; and if the evaluation never
ends and never makes such a store, then the run does not end.
-/
theorem run_refines_evaluation {machine loaded : Machine} {source : String} {address : Int}
    {diagnostics : List Source.Diagnostic} {program : Block}
    (lexed : (Source.Program.ofString source).opcodes = program.opcodes)
    (loads : machine.load source address = (.ok diagnostics, loaded))
    (flushes : machine.output.FlushesSucceed)
    : (∀ depth,
        (loaded.evaluate program depth).outcome ≠ none
        → Outside address (address + program.opcodes.length)
            (loaded.evaluate program depth).stored
        → ∃ patience result,
            loaded.run patience address = some result
            ∧ ∀ deeper, depth ≤ deeper
              → EndsAs (loaded.evaluate program deeper) (address + program.opcodes.length)
                  result)
      ∧ (∀ patience result,
          loaded.run patience address = some result
          → Outside address (address + program.opcodes.length)
              (storedCells patience (loaded.start address))
          → ∀ depth, patience < depth
            → Outside address (address + program.opcodes.length)
                (loaded.evaluate program depth).stored
              ∧ EndsAs (loaded.evaluate program depth) (address + program.opcodes.length) result)
      ∧ ((∀ depth,
          (loaded.evaluate program depth).outcome = none
          ∧ Outside address (address + program.opcodes.length)
              (loaded.evaluate program depth).stored)
        → ∀ patience, loaded.run patience address = none) := by
  obtain ⟨start, rfl, placed, marked, output⟩ := placed_of_load lexed loads
  have enacts : ∀ depth,
      Enacts start (start + program.opcodes.length) (loaded.start start) depth
        (start + program.opcodes.length) (loaded.evaluate program depth) :=
    placed.enacts (.of_start rfl)
  have ends := fun depth => (enacts depth).run_ends marked (by omega) (output ▸ flushes)
  refine ⟨?_, ?_, ?_⟩
  · intro depth ended outside
    obtain ⟨patience, result, answered, same⟩ := ends depth ended outside
    refine ⟨patience, result, answered, ?_⟩
    intro deeper more
    rwa [Machine.evaluate, Block.eval_of_ended ended more]
  · intro patience result answered outside depth deep
    obtain ⟨ended, rfl⟩ := Machine.run_eq_some_iff.mp answered
    have kept : Outside start (start + program.opcodes.length)
        (loaded.evaluate program depth).stored := by
      apply Classical.byContradiction
      intro inside
      obtain ⟨steps, trespassed⟩ := (enacts depth).trespasses inside
      exact trespassed (fun cell stored =>
        outside cell (Machine.storedCells_subset_of_ended ended steps stored))
    have decided : (loaded.evaluate program depth).outcome ≠ none := by
      intro unfinished
      obtain ⟨steps, enough, limit⟩ := (enacts depth).goes_on unfinished kept
      rw [Machine.drive_of_ended ended (by omega)] at limit
      exact ended limit
    obtain ⟨longer, other, alsoAnswered, same⟩ := ends depth decided kept
    obtain ⟨alsoEnded, rfl⟩ := Machine.run_eq_some_iff.mp alsoAnswered
    refine ⟨kept, ?_⟩
    rwa [Machine.runBounded_unique ((Machine.conclusive_iff_ended _ _ _).mpr ended)
      ((Machine.conclusive_iff_ended _ _ _).mpr alsoEnded)] at same
  · intro forever patience
    apply Option.eq_none_iff_forall_ne_some.mpr
    intro result answered
    obtain ⟨ended, _⟩ := Machine.run_eq_some_iff.mp answered
    obtain ⟨unfinished, kept⟩ := forever patience
    obtain ⟨steps, enough, limit⟩ := (enacts patience).goes_on unfinished kept
    rw [Machine.drive_of_ended ended enough] at limit
    exact ended limit

/-- A program that reads a value and counts down from it. -/
theorem run_refines_evaluation_countdown
    : ∃ diagnostics loaded patience after,
        (Machine.create 0 (.values [.ok (some 2)]) (.scripted (.ofReplies [] []))).load ",[.-]" 10
          = (.ok diagnostics, loaded)
        ∧ loaded.run patience 10 = some (.ok .halted, after)
        ∧ after.programCounter = 16
        ∧ after.output.accepted = [2, 1] := by
  have lexed : (Source.Program.ofString ",[.-]").opcodes
      = (Block.command .read
          (.loop (.command .write (.command .decrement .done)) .done)).opcodes := by
    decide +kernel
  have room : ((Machine.create 0 (.values [.ok (some 2)])
        (.scripted (.ofReplies [] []))).load ",[.-]" 10).1.toBool = true := by
    decide +kernel
  have evaluated : (fun evaluation : Evaluation =>
        (evaluation.outcome.map Except.toBool, evaluation.stored, evaluation.after.output.accepted))
      (((Machine.create 0 (.values [.ok (some 2)])
        (.scripted (.ofReplies [] []))).load ",[.-]" 10).2.evaluate
          (.command .read (.loop (.command .write (.command .decrement .done)) .done)) 8)
      = (some true, [0, 0, 0], [2, 1]) := by
    decide +kernel
  have flushes : (Sink.scripted (.ofReplies [] [])).FlushesSucceed := by
    intro reply member
    cases member
  rcases loads : (Machine.create 0 (.values [.ok (some 2)])
    (.scripted (.ofReplies [] []))).load ",[.-]" 10 with ⟨_ | diagnostics, loaded⟩
  · rw [loads] at room
    cases room
  · rw [loads] at evaluated
    simp only [Prod.mk.injEq] at evaluated
    obtain ⟨normal, stored, accepted⟩ := evaluated
    have forward := (run_refines_evaluation lexed loads flushes).1 8
    rw [stored] at forward
    obtain ⟨patience, ⟨outcome, after⟩, answered, ends⟩ := forward
      (fun unfinished => by rw [unfinished] at normal; cases normal)
      (fun cell member => by simp at member; omega)
    have same := ends 8 (Nat.le_refl 8)
    obtain ⟨_, rfl, counter, _⟩ | ⟨fault, faulted, _⟩ := same.ending
    · exact ⟨diagnostics, loaded, patience, after, rfl, answered, counter,
        same.written.trans accepted⟩
    · rw [faulted] at normal
      cases normal

end Structured

end TapeMachine
