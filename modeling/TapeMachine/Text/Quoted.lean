import TapeMachine.Text.GraphemeExtend
import TapeMachine.Text.Numeral
import TapeMachine.Text.Unprintable

/-! Text in double quotes for messages: everything that could be mistaken, or that would not
be visible, is written as an escape sequence.
-/

namespace TapeMachine.Text

/-- Characters that are shown by their code point. -/
def isHidden (c : Char) : Bool :=
  if c.toNat < 0x7F then
    c.toNat < 0x20
  else
    graphemeExtendRanges.contains c || unprintableRanges.contains c

/-- One character as it is written between quotes. -/
def escape (c : Char) : String :=
  if c = '"' then "\\\""
  else if c = '\\' then "\\\\"
  else if c = '\x00' then "\\0"
  else if c = '\t' then "\\t"
  else if c = '\r' then "\\r"
  else if c = '\n' then "\\n"
  else if isHidden c then "\\u\x7b" ++ hexadecimal 1 c.toNat ++ "\x7d"
  else String.singleton c

/-- A text as it is quoted in messages. -/
def quoted (text : String) : String :=
  "\"" ++ String.join (text.toList.map escape) ++ "\""

end TapeMachine.Text
