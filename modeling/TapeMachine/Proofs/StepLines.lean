import TapeMachine.Cli.Session
import TapeMachine.Proofs.PictureReading

/-! The lines of a trace. Each of them shows the program counter, the data pointer and the symbol of
an instruction as words of their own, and all three can be read back from it.
-/

namespace TapeMachine.Cli

/-- The words of the line that shows a step, by the texts of its fields. -/
def stepWords (programCounter dataPointer symbol : List Char) : List (List Char) :=
  [['T', 'R', 'A', 'C', 'E'], ['s', 't', 'e', 'p'], ['p', 'c', '='] ++ programCounter,
    ['d', 'p', '='] ++ dataPointer, ['o', 'p', '='] ++ symbol ++ ['\n']]

section Lines

variable (programCounter dataPointer symbol : String)

/-- The entry of a step is shown in one line, alike on all terminals and at all times. -/
theorem render_step (colour : Bool) (elapsed : String)
    : (Notice.log .trace "step" [("pc", programCounter), ("dp", dataPointer),
        ("op", symbol)]).render colour elapsed
      = "TRACE step pc=" ++ programCounter ++ " dp=" ++ dataPointer ++ " op=" ++ symbol
        ++ "\n" := by
  apply String.toList_injective
  simp [Notice.render, Level.label]

theorem toList_stepLine
    : ("TRACE step pc=" ++ programCounter ++ " dp=" ++ dataPointer ++ " op=" ++ symbol
        ++ "\n").toList
      = [' '].intercalate
          (stepWords programCounter.toList dataPointer.toList symbol.toList) := by
  simp [stepWords, List.intercalate]

end Lines

/-- No field of a step has a blank in it. -/
theorem blank_not_mem_stepWords (executed : Machine.Executed)
    : ∀ word ∈ stepWords (Text.natural executed.programCounter).toList
        (Text.integer executed.dataPointer).toList [executed.op.symbol],
        ' ' ∉ word := by
  have natural : ' ' ∉ (Text.natural executed.programCounter).toList := by
    rw [Text.natural, String.toList_ofList]
    exact Text.not_mem_digits (by decide) (by decide) (by decide) _
  have integer : ' ' ∉ (Text.integer executed.dataPointer).toList :=
    Text.not_mem_integer (by decide) (by decide) _
  have symbol : ' ' ≠ executed.op.symbol := by
    cases executed.op <;> decide
  simp [stepWords, natural, integer, symbol]

/-- The instruction that a line tells of. -/
def executedOfLine? (line : String) : Option Machine.Executed :=
  match line.toList.splitOn ' ' with
  | [_, _, _ :: _ :: _ :: programCounter, _ :: _ :: _ :: dataPointer, _ :: _ :: _ :: symbol :: _] =>
      (Opcode.ofChar? symbol).map (fun op =>
        ⟨Text.valueOf 10 programCounter, Text.integerValue dataPointer, op⟩)
  | _ => none

/-- An instruction comes back from its line, so that no two instructions have the same one. -/
theorem executedOfLine?_render (executed : Machine.Executed) (colour : Bool) (elapsed : String)
    : executedOfLine? ((stepNotice executed).render colour elapsed) = some executed := by
  have number : Text.valueOf 10 (Text.natural executed.programCounter).toList
      = executed.programCounter := by
    rw [Text.natural, String.toList_ofList, Text.valueOf_digits (by decide) (by decide)]
  have symbol : (String.singleton executed.op.symbol).toList = [executed.op.symbol] := by simp
  rw [stepNotice, render_step, executedOfLine?, toList_stepLine, symbol,
    List.splitOn_intercalate ' ' (blank_not_mem_stepWords executed) (List.cons_ne_nil _ _)]
  simp [stepWords, Opcode.ofChar?_symbol, number, Text.integerValue_integer]

end TapeMachine.Cli
