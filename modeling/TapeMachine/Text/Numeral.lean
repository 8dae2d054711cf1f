/-! Numbers as text: positional digits, most significant first, in decimal and in
hexadecimal with lower-case letters.
-/

namespace TapeMachine.Text

/-- The digits of a number in a base of at least two. -/
def digits (base : Nat) (n : Nat) : List Char :=
  if _small : n < base ∨ base < 2 then
    [Nat.digitChar n]
  else
    digits base (n / base) ++ [Nat.digitChar (n % base)]
termination_by n
decreasing_by exact Nat.div_lt_self (by omega) (by omega)

/-- Fills a text up to the given width from the left with zeros. -/
def padLeft (width : Nat) (text : List Char) : List Char :=
  List.replicate (width - text.length) '0' ++ text

def natural (n : Nat) : String :=
  String.ofList (digits 10 n)

/-- An integer in decimal; only negative numbers carry a sign. -/
def integer (n : Int) : String :=
  if n < 0 then "-" ++ natural n.natAbs else natural n.natAbs

/-- A number in hexadecimal, of at least the given width. -/
def hexadecimal (width : Nat) (n : Nat) : String :=
  String.ofList (padLeft width (digits 16 n))

/-- A byte as two hexadecimal digits. -/
def hexByte (b : UInt8) : String :=
  hexadecimal 2 b.toNat

/-- Bytes as hexadecimal digits without separators. -/
def hexBytes (bytes : List UInt8) : String :=
  String.join (bytes.map hexByte)

end TapeMachine.Text
