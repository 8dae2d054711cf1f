import TapeMachine.Text.Ranges

/-! White space, and the words it separates. -/

namespace TapeMachine.Text

/-- The code points with the Unicode property White_Space. -/
def spaceRanges : Ranges :=
  [(0x09, 0x0D), (0x20, 0x20), (0x85, 0x85), (0xA0, 0xA0), (0x1680, 0x1680),
    (0x2000, 0x200A), (0x2028, 0x2029), (0x202F, 0x202F), (0x205F, 0x205F),
    (0x3000, 0x3000)]

def isSpace (c : Char) : Bool :=
  spaceRanges.contains c

theorem length_dropWhile_le {α : Type} (p : α → Bool) (xs : List α)
    : (xs.dropWhile p).length ≤ xs.length :=
  (List.dropWhile_sublist p).length_le

/-- What has a property is taken from the front of a list, up to what has it not. -/
theorem span_append {α : Type} {p : α → Bool} {front rest : List α}
    (inside : ∀ x ∈ front, p x = true) (stops : ∀ x ∈ rest.head?, p x = false)
    : (front ++ rest).takeWhile p = front ∧ (front ++ rest).dropWhile p = rest := by
  rw [List.takeWhile_append_of_pos inside, List.dropWhile_append_of_pos inside]
  cases rest with
  | nil => exact ⟨List.append_nil front, rfl⟩
  | cons x rest => simp [stops x rfl]

/-- The words of a text: its maximal runs of characters other than white space. -/
def words (text : List Char) : List (List Char) :=
  match _start : text.dropWhile isSpace with
  | [] => []
  | c :: rest =>
      (c :: rest.takeWhile (fun x => !isSpace x))
        :: words (rest.dropWhile (fun x => !isSpace x))
termination_by text.length
decreasing_by
  have skipped := length_dropWhile_le isSpace text
  have taken := length_dropWhile_le (fun x => !isSpace x) rest
  rw [_start] at skipped
  simp only [List.length_cons] at skipped
  omega

end TapeMachine.Text
