/-! Places in source text, counted in lines, columns and characters. -/

namespace TapeMachine.Source

/-- A place in source text. Lines and columns count from one, the offset counts the
characters before the place.
-/
structure Position where
  line : Nat
  column : Nat
  offset : Nat
deriving DecidableEq, Inhabited

namespace Position

def start : Position :=
  ⟨1, 1, 0⟩

/-- The place behind a character. -/
def advance (p : Position) (c : Char) : Position :=
  if c = '\n' then
    ⟨p.line + 1, 1, p.offset + 1⟩
  else
    ⟨p.line, p.column + 1, p.offset + 1⟩

/-- The place behind a text. -/
def after (p : Position) (text : List Char) : Position :=
  text.foldl advance p

theorem after_append (p : Position) (first second : List Char)
    : p.after (first ++ second) = (p.after first).after second :=
  List.foldl_append

end Position

end TapeMachine.Source
