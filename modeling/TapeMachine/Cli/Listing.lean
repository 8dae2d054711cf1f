import TapeMachine.Cli.Notice
import TapeMachine.Source.Lexer

/-! A source text as the list of its tokens: instructions in a row, and every skipped word at
the end of a line of its own.
-/

namespace TapeMachine.Cli

def listToken (colour : Bool) : Source.Token → String
  | .op op => String.singleton op.symbol
  | .comment text => "\t\t" ++ paint colour .dimmed text ++ "\n"

/-- The tokens of a source text, and a newline behind them. -/
def listing (colour : Bool) (source : String) : String :=
  String.join ((Source.Lexer.ofString source).collect.1.map (listToken colour)) ++ "\n"

end TapeMachine.Cli
