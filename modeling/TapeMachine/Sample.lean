/-! The program that runs when no other one is given. -/

namespace TapeMachine

/-- Prints a greeting, if it does not lie in the cells that it computes with. -/
def helloWorld : String :=
  "++++++++++[>+++++++>++++++++++>+++>+<<<<-]>++.>+.+++++++..+++.>++.<<+++++++++++++++.>.+++."
    ++ "------.--------.>+.>."

end TapeMachine
