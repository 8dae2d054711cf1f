import TapeMachine.Opcode
import TapeMachine.Source.Position
import TapeMachine.Text.Quoted

/-! The pieces of source text: instructions, and the words between them that are skipped. -/

namespace TapeMachine.Source

/-- An instruction, or a word that is none. -/
inductive Token where
  | op (op : Opcode)
  | comment (text : String)
deriving DecidableEq, Inhabited

/-- A token and the place where it begins. -/
structure Located where
  position : Position
  token : Token
deriving DecidableEq, Inhabited

/-- A skipped word and the place where it begins. -/
structure Diagnostic where
  position : Position
  text : String
deriving DecidableEq, Inhabited

/-- The message that reports a skipped word. -/
def Diagnostic.message (d : Diagnostic) : String :=
  Text.natural d.position.line ++ ":" ++ Text.natural d.position.column
    ++ ": skipped non-operation text " ++ Text.quoted d.text

/-- The instructions of a source text in order, and its skipped words. -/
structure Program where
  opcodes : List Opcode
  diagnostics : List Diagnostic
deriving DecidableEq, Inhabited

def Located.opcode? (located : Located) : Option Opcode :=
  match located.token with
  | .op op => some op
  | .comment _ => none

def Located.diagnostic? (located : Located) : Option Diagnostic :=
  match located.token with
  | .op _ => none
  | .comment text => some ⟨located.position, text⟩

/-- Separates the instructions from the skipped words, both in order. -/
def Program.ofTokens (tokens : List Located) : Program :=
  ⟨tokens.filterMap Located.opcode?, tokens.filterMap Located.diagnostic?⟩

end TapeMachine.Source
