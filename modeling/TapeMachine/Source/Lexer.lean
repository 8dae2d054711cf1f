import TapeMachine.Source.Token
import TapeMachine.Text.Space

/-! Cutting source text into tokens. White space is skipped, an instruction is one character,
and a comment is a maximal run of characters that are neither. A lexer can be asked for one
token or for all that are left, in any order, and it keeps its place in the text.
-/

namespace TapeMachine.Source

/-- The text that is left and its place in the whole. -/
structure Lexer where
  position : Position
  rest : List Char
deriving DecidableEq, Inhabited

namespace Lexer

def ofString (source : String) : Lexer :=
  ⟨.start, source.toList⟩

/-- Characters that belong to comments. -/
def isComment (c : Char) : Bool :=
  !Text.isSpace c && (Opcode.ofChar? c).isNone

/-- Passes over the leading characters with a property. -/
def dropWhile (lexer : Lexer) (p : Char → Bool) : Lexer :=
  ⟨lexer.position.after (lexer.rest.takeWhile p), lexer.rest.dropWhile p⟩

def skipSpace (lexer : Lexer) : Lexer :=
  lexer.dropWhile Text.isSpace

/-- The token that begins with the first character, which is no white space. -/
def take (lexer : Lexer) : Option Token × Lexer :=
  match lexer.rest with
  | [] => (none, lexer)
  | c :: rest =>
      let behind : Lexer := ⟨lexer.position.advance c, rest⟩
      match Opcode.ofChar? c with
      | some op => (some (.op op), behind)
      | none =>
          (some (.comment (String.ofList (c :: rest.takeWhile isComment))),
            behind.dropWhile isComment)

/-- The next token; none at the end of the text. -/
def next (lexer : Lexer) : Option Token × Lexer :=
  lexer.skipSpace.take

theorem length_dropWhile_le (lexer : Lexer) (p : Char → Bool)
    : (lexer.dropWhile p).rest.length ≤ lexer.rest.length :=
  Text.length_dropWhile_le p lexer.rest

theorem length_take_lt {lexer later : Lexer} {token : Token}
    (h : lexer.take = (some token, later))
    : later.rest.length < lexer.rest.length := by
  unfold take at h
  cases rest : lexer.rest with
  | nil => simp [rest] at h
  | cons c text =>
      simp only [rest] at h
      cases op : Opcode.ofChar? c with
      | some _ =>
          simp only [op, Prod.mk.injEq] at h
          obtain ⟨_, rfl⟩ := h
          simp
      | none =>
          simp only [op, Prod.mk.injEq] at h
          obtain ⟨_, rfl⟩ := h
          exact Nat.lt_succ_of_le
            (length_dropWhile_le ⟨lexer.position.advance c, text⟩ isComment)

/-- All tokens that are left, behind those already found, which come last first. -/
def locateAll (lexer : Lexer) (found : List Located) : List Located × Lexer :=
  match _taken : lexer.skipSpace.take with
  | (none, finished) => (found.reverse, finished)
  | (some token, later) => later.locateAll (⟨lexer.skipSpace.position, token⟩ :: found)
termination_by lexer.rest.length
decreasing_by
  exact Nat.lt_of_lt_of_le (length_take_lt _taken) (lexer.length_dropWhile_le Text.isSpace)

/-- The tokens that are left. -/
def collect (lexer : Lexer) : List Token × Lexer :=
  let (found, finished) := lexer.locateAll []
  (found.map Located.token, finished)

/-- The program that is left. -/
def program (lexer : Lexer) : Program × Lexer :=
  let (found, finished) := lexer.locateAll []
  (.ofTokens found, finished)

end Lexer

/-- The program that a source text holds. -/
def Program.ofString (source : String) : Program :=
  (Lexer.ofString source).program.1

end TapeMachine.Source
