import Mathlib.Data.Nat.Digits.Defs
import TapeMachine.Text.Numeral

/-! What digits amount to in positional notation, the most significant one first. Reading the digits
of a number gives the number back, with any number of zeros before them.
-/

namespace TapeMachine.Text

/-- The number that a digit stands for. -/
def digitValue (c : Char) : Nat :=
  if c.isDigit then c.toNat - '0'.toNat else c.toNat - 'a'.toNat + 10

/-- The number that digits denote. -/
def valueOf (base : Nat) (digits : List Char) : Nat :=
  Nat.ofDigits base (digits.map digitValue).reverse

theorem digitValue_of_isDigit {c : Char} (digit : c.isDigit = true)
    : digitValue c = c.toNat - '0'.toNat :=
  if_pos digit

theorem digitValue_digitChar {n : Nat} (small : n < 16)
    : digitValue (Nat.digitChar n) = n := by
  revert n
  decide

theorem valueOf_nil (base : Nat)
    : valueOf base [] = 0 :=
  rfl

/-- A digit counts as many times as there are numbers with the digits behind it. -/
theorem valueOf_cons (base : Nat) (c : Char) (digits : List Char)
    : valueOf base (c :: digits) = digitValue c * base ^ digits.length + valueOf base digits := by
  simp only [valueOf, List.map_cons, Nat.ofDigits_reverse_cons, List.length_map]
  rw [Nat.add_comm, Nat.mul_comm]

theorem valueOf_concat (base : Nat) (digits : List Char) (c : Char)
    : valueOf base (digits ++ [c]) = valueOf base digits * base + digitValue c := by
  simp only [valueOf, List.map_append, List.map_singleton, List.reverse_append,
    List.reverse_singleton, List.singleton_append, Nat.ofDigits_cons]
  rw [Nat.add_comm, Nat.mul_comm]

-----------------------------------------------------------------------------------------
-- Reading digits back
-----------------------------------------------------------------------------------------

/-- The digits of a number denote it, by induction on the digits. -/
theorem valueOf_digits {base : Nat} (atLeast : 2 ≤ base) (atMost : base ≤ 16) (n : Nat)
    : valueOf base (digits base n) = n := by
  fun_induction digits base n with
  | case1 n single =>
      have small : n < 16 := by omega
      rw [← List.nil_append [Nat.digitChar n], valueOf_concat, digitValue_digitChar small,
        valueOf_nil, Nat.zero_mul, Nat.zero_add]
  | case2 n several ih =>
      have small : n % base < 16 := Nat.lt_of_lt_of_le (Nat.mod_lt n (by omega)) atMost
      rw [valueOf_concat, ih, digitValue_digitChar small, Nat.div_add_mod']

theorem valueOf_padLeft (base width : Nat) (digits : List Char)
    : valueOf base (padLeft width digits) = valueOf base digits := by
  unfold padLeft
  induction width - digits.length with
  | zero => rfl
  | succ count ih =>
      have zero : digitValue '0' = 0 := rfl
      rw [List.replicate_succ, List.cons_append, valueOf_cons, zero, Nat.zero_mul, Nat.zero_add, ih]

/-- Every character of a number in positional notation is a digit. -/
theorem exists_digitChar_of_mem_digits {base : Nat} (atLeast : 2 ≤ base) (atMost : base ≤ 16)
    {n : Nat} {c : Char} (member : c ∈ digits base n)
    : ∃ d, d < 16 ∧ c = Nat.digitChar d := by
  fun_induction digits base n with
  | case1 n single => exact ⟨n, by omega, List.mem_singleton.mp member⟩
  | case2 n several ih =>
      rcases List.mem_append.mp member with before | last
      · exact ih before
      · have small : n % base < 16 := Nat.lt_of_lt_of_le (Nat.mod_lt n (by omega)) atMost
        exact ⟨n % base, small, List.mem_singleton.mp last⟩

end TapeMachine.Text
