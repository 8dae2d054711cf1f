import TapeMachine.Fault
import TapeMachine.Input
import TapeMachine.Opcode
import TapeMachine.Sink

/-! Programs with their loops as a tree, and an interpreter for them that holds the program apart
from the tape. There is no program counter and there are no brackets: a loop is evaluated as a
loop.
-/

namespace TapeMachine.Structured

/-- The instructions that are no brackets. -/
inductive Command where
  | moveRight
  | moveLeft
  | increment
  | decrement
  | write
  | read
deriving DecidableEq, Inhabited

def Command.opcode : Command → Opcode
  | .moveRight => .moveRight
  | .moveLeft => .moveLeft
  | .increment => .increment
  | .decrement => .decrement
  | .write => .write
  | .read => .read

/-- A well-nested program, which is a list of nodes: it is at its end, or it has a command or a
loop as its first node and goes on behind it.
-/
inductive Block where
  | done
  | command (first : Command) (rest : Block)
  | loop (body rest : Block)
deriving DecidableEq, Inhabited

/-- The program as instructions in a row, each loop between its brackets. -/
def Block.opcodes : Block → List Opcode
  | .done => []
  | .command first rest => first.opcode :: rest.opcodes
  | .loop body rest => .loopStart :: (body.opcodes ++ .loopEnd :: rest.opcodes)

/-- What the interpreter works on. -/
structure Workspace where
  tape : Tape
  dataPointer : Int
  input : Input
  output : Sink
deriving Inhabited

/-- How far an evaluation got: its outcome, or none if it is unfinished, what it left behind,
and the cells it has stored in, in order.
-/
structure Evaluation where
  outcome : Option (Except Fault Unit)
  after : Workspace
  stored : List Nat
deriving Inhabited

namespace Evaluation

def finished (workspace : Workspace) : Evaluation :=
  ⟨some (.ok ()), workspace, []⟩

def faulted (fault : Fault) (workspace : Workspace) : Evaluation :=
  ⟨some (.error fault), workspace, []⟩

def unfinished (workspace : Workspace) : Evaluation :=
  ⟨none, workspace, []⟩

/-- Goes on with a second evaluation if the first one finished. -/
def andThen (first : Evaluation) (next : Workspace → Evaluation) : Evaluation :=
  match first.outcome with
  | some (.ok ()) =>
      { next first.after with stored := first.stored ++ (next first.after).stored }
  | _ => first

end Evaluation

namespace Workspace

/-- Acts on the current cell, once the data pointer is known to be on the tape. -/
def onCell (workspace : Workspace) (act : Nat → Evaluation) : Evaluation :=
  match workspace.tape.locate workspace.dataPointer with
  | .error side => .faulted (.memory side) workspace
  | .ok cell => act cell

/-- Moves the data pointer, which is checked only afterwards. -/
def move (workspace : Workspace) (distance : Int) : Evaluation :=
  let moved := { workspace with dataPointer := workspace.dataPointer + distance }
  moved.onCell (fun _ => .finished moved)

def store (workspace : Workspace) (cell : Nat) (value : UInt8) : Evaluation where
  outcome := some (.ok ())
  after := { workspace with tape := workspace.tape.store cell value }
  stored := [cell]

end Workspace

/-- Commands on cells saturate, write and read as the policy says. -/
def Command.eval (policy : EofPolicy) (workspace : Workspace) : Command → Evaluation
  | .moveRight => workspace.move 1
  | .moveLeft => workspace.move (-1)
  | .increment =>
      workspace.onCell (fun cell =>
        workspace.store cell (UInt8.ofNat (min 255 ((workspace.tape.byte cell).toNat + 1))))
  | .decrement =>
      workspace.onCell (fun cell =>
        workspace.store cell (UInt8.ofNat ((workspace.tape.byte cell).toNat - 1)))
  | .write =>
      workspace.onCell (fun cell =>
        match workspace.output.write (workspace.tape.byte cell) with
        | (.ok (), output) => .finished { workspace with output := output }
        | (.error error, output) => .faulted (.io error) { workspace with output := output })
  | .read =>
      workspace.onCell (fun cell =>
        match workspace.input.read with
        | (.ok (some value), input) =>
            Workspace.store { workspace with input := input } cell (clampToCell value)
        | (.ok none, input) =>
            match policy with
            | .zero => Workspace.store { workspace with input := input } cell 0
            | .unchanged => .finished { workspace with input := input }
            | .fault => .faulted .inputExhausted { workspace with input := input }
        | (.error error, input) => .faulted (.io error) { workspace with input := input })

/-- Evaluates a program, going only so deep. A loop checks the data pointer, and while the
current cell is not zero it evaluates its body and tests again.
-/
def Block.eval (policy : EofPolicy) : Nat → Block → Workspace → Evaluation
  | 0, _, workspace => .unfinished workspace
  | _ + 1, .done, workspace => .finished workspace
  | depth + 1, .command first rest, workspace =>
      (first.eval policy workspace).andThen (rest.eval policy depth)
  | depth + 1, .loop body rest, workspace =>
      workspace.onCell (fun cell =>
        if workspace.tape.byte cell = 0 then
          rest.eval policy depth workspace
        else
          (body.eval policy depth workspace).andThen
            ((Block.loop body rest).eval policy depth))

section Test

variable {policy : EofPolicy} {workspace : Workspace} (depth : Nat) (body rest : Block)

theorem Block.eval_loop_off_tape {side : Side}
    (located : workspace.tape.locate workspace.dataPointer = .error side)
    : (Block.loop body rest).eval policy (depth + 1) workspace
      = .faulted (.memory side) workspace := by
  rw [eval, Workspace.onCell, located]

theorem Block.eval_loop_of_zero {cell : Nat}
    (located : workspace.tape.locate workspace.dataPointer = .ok cell)
    (zero : workspace.tape.byte cell = 0)
    : (Block.loop body rest).eval policy (depth + 1) workspace
      = rest.eval policy depth workspace := by
  rw [eval, Workspace.onCell, located]
  exact if_pos zero

theorem Block.eval_loop_of_nonzero {cell : Nat}
    (located : workspace.tape.locate workspace.dataPointer = .ok cell)
    (nonzero : workspace.tape.byte cell ≠ 0)
    : (Block.loop body rest).eval policy (depth + 1) workspace
      = (body.eval policy depth workspace).andThen
          ((Block.loop body rest).eval policy depth) := by
  rw [eval, Workspace.onCell, located]
  exact if_neg nonzero

end Test

-----------------------------------------------------------------------------------------
-- Deeper evaluations
-----------------------------------------------------------------------------------------

theorem Evaluation.outcome_of_andThen {first : Evaluation} {next : Workspace → Evaluation}
    (ended : (first.andThen next).outcome ≠ none)
    : first.outcome ≠ none := by
  intro unfinished
  simp only [andThen, unfinished] at ended
  exact ended rfl

theorem Evaluation.andThen_congr {first : Evaluation} {next deeper : Workspace → Evaluation}
    (ended : (first.andThen next).outcome ≠ none)
    (same : ∀ workspace, (next workspace).outcome ≠ none → deeper workspace = next workspace)
    : first.andThen deeper = first.andThen next := by
  unfold andThen at ended ⊢
  split
  · rename_i finished
    rw [finished] at ended
    rw [same first.after ended]
  · rfl

/-- An evaluation that has ended is the same at every greater depth, so the depth only says how
long one looks.
-/
theorem Block.eval_of_ended {policy : EofPolicy} {depth deeper : Nat} {block : Block}
    {workspace : Workspace} (ended : (block.eval policy depth workspace).outcome ≠ none)
    (more : depth ≤ deeper)
    : block.eval policy deeper workspace = block.eval policy depth workspace := by
  induction depth generalizing deeper block workspace with
  | zero => exact absurd rfl ended
  | succ depth ih =>
      obtain ⟨deeper, rfl⟩ : ∃ fewer, deeper = fewer + 1 := ⟨deeper - 1, by omega⟩
      have stillMore : depth ≤ deeper := Nat.le_of_succ_le_succ more
      cases block with
      | done => rfl
      | command first rest =>
          rw [eval] at ended
          exact Evaluation.andThen_congr ended (fun _ restEnded => ih restEnded stillMore)
      | loop body rest =>
          cases located : workspace.tape.locate workspace.dataPointer with
          | error side =>
              rw [eval_loop_off_tape _ body rest located, eval_loop_off_tape _ body rest located]
          | ok cell =>
              by_cases zero : workspace.tape.byte cell = 0
              · rw [eval_loop_of_zero _ body rest located zero] at ended
                rw [eval_loop_of_zero _ body rest located zero,
                  eval_loop_of_zero _ body rest located zero]
                exact ih ended stillMore
              · rw [eval_loop_of_nonzero _ body rest located zero] at ended
                rw [eval_loop_of_nonzero _ body rest located zero,
                  eval_loop_of_nonzero _ body rest located zero,
                  ih (Evaluation.outcome_of_andThen ended) stillMore]
                exact Evaluation.andThen_congr ended (fun _ again => ih again stillMore)

end TapeMachine.Structured
