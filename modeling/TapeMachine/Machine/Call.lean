import TapeMachine.Machine.Dump
import TapeMachine.Machine.Load
import TapeMachine.Machine.Run

/-! The calls that a machine answers, as data, so that whole histories of a machine can be
spoken of.
-/

namespace TapeMachine

/-- A request to a machine. -/
inductive Call where
  | load (source : String) (address : Int)
  | step
  | run (address : Int)
  | runBounded (address : Int) (budget : Nat)
  | peek (address : Int)
  | poke (address : Int) (value : UInt8)
  | isEnd (address : Int)
  | dump
  | size
  | reset
  | setEofPolicy (policy : EofPolicy)
deriving DecidableEq, Inhabited

/-- What a machine answers to a call that does not fault. -/
inductive Answer where
  | done
  | diagnostics (skipped : List Source.Diagnostic)
  | exit (exit : Machine.Exit)
  | byte (value : UInt8)
  | flag (value : Bool)
  | number (value : Nat)
  | text (text : String)
deriving DecidableEq, Inhabited

namespace Machine

/-- Answers a call. There is no answer to a run that takes more steps than one has the patience
for.
-/
def answer (patience : Nat) (machine : Machine) : Call → Option (Except Fault Answer × Machine)
  | .load source address =>
      let (outcome, after) := machine.load source address
      some (outcome.map .diagnostics, after)
  | .step =>
      let (outcome, after) := machine.step
      some (outcome.map (fun _ => .done), after)
  | .run address =>
      (machine.run patience address).map
        (fun (outcome, after) => (outcome.map (fun _ => .done), after))
  | .runBounded address budget =>
      let (outcome, after) := machine.runBounded address budget
      some (outcome.map .exit, after)
  | .peek address => some ((machine.peek address).map .byte, machine)
  | .poke address value =>
      let (outcome, after) := machine.poke address value
      some (outcome.map (fun _ => .done), after)
  | .isEnd address => some (.ok (.flag (machine.isEnd address)), machine)
  | .dump => some (.ok (.text machine.dump), machine)
  | .size => some (.ok (.number machine.tape.size), machine)
  | .reset => some (.ok .done, machine.reset)
  | .setEofPolicy policy => some (.ok .done, machine.withEofPolicy policy)

/-- Answers calls one after the other. -/
def answerAll (patience : Nat) (machine : Machine)
    : List Call → Option (List (Except Fault Answer) × Machine)
  | [] => some ([], machine)
  | call :: calls =>
      match machine.answer patience call with
      | none => none
      | some (outcome, after) =>
          (after.answerAll patience calls).map
            (fun (outcomes, finished) => (outcome :: outcomes, finished))

end Machine

end TapeMachine
