import TapeMachine.Proofs.FoldedRows
import TapeMachine.Proofs.Numerals

/-! Reading a picture back. The text falls into lines at its newlines, a row into its address and
its values at the colon, and every number comes back from its digits. With the length of the tape
that gives both pointers and every value on the tape.
-/

namespace TapeMachine

-----------------------------------------------------------------------------------------
-- Numbers
-----------------------------------------------------------------------------------------

namespace Text

/-- The integer that a text denotes. -/
def integerValue : List Char → Int
  | '-' :: digits => -(valueOf 10 digits : Int)
  | digits => valueOf 10 digits

/-- The bytes that pairs of hexadecimal digits denote, with a blank before each of them. -/
def bytesOf : List Char → List UInt8
  | ' ' :: high :: low :: rest => UInt8.ofNat (valueOf 16 [high, low]) :: bytesOf rest
  | _ => []

/-- What stands before numbers and between them. -/
def separators : List Char :=
  ['-', ':', ' ', '\n']

theorem digitChar_not_mem_separators {d : Nat} (small : d < 16)
    : Nat.digitChar d ∉ separators := by
  revert d
  decide

theorem not_mem_digits {base : Nat} (atLeast : 2 ≤ base) (atMost : base ≤ 16) {c : Char}
    (separates : c ∈ separators) (n : Nat)
    : c ∉ digits base n := by
  intro member
  obtain ⟨d, small, rfl⟩ := exists_digitChar_of_mem_digits atLeast atMost member
  exact digitChar_not_mem_separators small separates

theorem not_mem_hexadecimal {c : Char} (separates : c ∈ separators) (width n : Nat)
    : c ∉ (hexadecimal width n).toList := by
  rw [hexadecimal, String.toList_ofList, padLeft]
  intro member
  rcases List.mem_append.mp member with padding | digit
  · obtain rfl := List.eq_of_mem_replicate padding
    exact digitChar_not_mem_separators (Nat.zero_lt_succ 15) separates
  · exact not_mem_digits (by decide) (by decide) separates n digit

theorem not_mem_integer {c : Char} (separates : c ∈ separators) (unsigned : c ≠ '-') (n : Int)
    : c ∉ (integer n).toList := by
  have digit : c ∉ digits 10 n.natAbs := not_mem_digits (by decide) (by decide) separates _
  unfold integer natural
  split <;> simp [digit, unsigned]

theorem valueOf_hexadecimal (width n : Nat)
    : valueOf 16 (hexadecimal width n).toList = n := by
  rw [hexadecimal, String.toList_ofList, valueOf_padLeft, valueOf_digits (by decide) (by decide)]

/-- A byte has two digits. -/
theorem toList_hexByte (byte : UInt8)
    : (hexByte byte).toList
      = [Nat.digitChar (byte.toNat / 16), Nat.digitChar (byte.toNat % 16)] := by
  have bound := byte.toNat_lt
  rw [hexByte, hexadecimal, String.toList_ofList, digits]
  split
  next single =>
      have small : byte.toNat < 16 := by omega
      rw [Nat.div_eq_of_lt small, Nat.mod_eq_of_lt small]
      rfl
  next several =>
      rw [digits, dif_pos (by omega)]
      rfl

theorem integerValue_integer (n : Int)
    : integerValue (integer n).toList = n := by
  have value : valueOf 10 (digits 10 n.natAbs) = n.natAbs :=
    valueOf_digits (by decide) (by decide) _
  unfold integer natural
  split
  next negative =>
      have signed : ("-" ++ String.ofList (digits 10 n.natAbs)).toList
          = '-' :: digits 10 n.natAbs := by
        simp
      rw [signed, integerValue, value]
      omega
  next positive =>
      rw [String.toList_ofList, integerValue, value]
      · omega
      · intro rest signed
        exact not_mem_digits (by decide) (by decide) (c := '-') (by decide) n.natAbs
          (signed ▸ List.mem_cons_self)

/-- An integer comes back from behind a title. -/
theorem integerValue_drop (title : String) (n : Int)
    : integerValue ((title ++ integer n).toList.drop title.length) = n := by
  rw [String.toList_append, ← String.length_toList, List.drop_left, integerValue_integer]

theorem bytesOf_hexBytes (values : List UInt8)
    : bytesOf (values.flatMap (fun value => ' ' :: (hexByte value).toList)) = values := by
  induction values with
  | nil => rfl
  | cons value values ih =>
      have pair := valueOf_hexadecimal 2 value.toNat
      rw [← hexByte, toList_hexByte] at pair
      rw [List.flatMap_cons, toList_hexByte]
      simp only [List.cons_append, List.nil_append, bytesOf, pair, UInt8.ofNat_toNat, ih]

end Text

-----------------------------------------------------------------------------------------
-- Lines
-----------------------------------------------------------------------------------------

namespace Dump

/-- The line that a text shows. -/
def Line.ofText (text : List Char) : Line :=
  if ':' ∈ text then
    .row (Text.valueOf 16 (text.takeWhile (· ≠ ':')))
      (Text.bytesOf ((text.dropWhile (· ≠ ':')).drop 1))
  else
    .fold

/-- The text of a line, without the newline behind it. -/
def Line.text : Line → List Char
  | .row address values =>
      (Text.hexadecimal 6 address).toList
        ++ ':' :: values.flatMap (fun value => ' ' :: (Text.hexByte value).toList)
  | .fold => ['*']

theorem Line.toList_render (line : Line)
    : line.render.toList = line.text ++ ['\n'] := by
  cases line with
  | row address values => simp [render, text, String.toList_join, List.flatMap_map]
  | fold => rfl

theorem Line.newline_not_mem_text (line : Line)
    : '\n' ∉ line.text := by
  have digit := @Text.not_mem_hexadecimal '\n' (by decide)
  cases line with
  | row address values => simp [text, Text.hexByte, digit]
  | fold => decide

/-- A line comes back from its text, since no digit is a colon. -/
theorem Line.ofText_text (line : Line)
    : ofText line.text = line := by
  cases line with
  | row address values =>
      have digits : ∀ c ∈ (Text.hexadecimal 6 address).toList, decide (c ≠ ':') = true := by
        intro c member
        have other : c ≠ ':' := by
          rintro rfl
          exact Text.not_mem_hexadecimal (by decide) _ _ member
        exact decide_eq_true other
      have colon : ':' ∈ (row address values).text :=
        List.mem_append_right _ List.mem_cons_self
      rw [ofText, if_pos colon, text, List.takeWhile_append_of_pos digits,
        List.dropWhile_append_of_pos digits]
      simp [Text.valueOf_hexadecimal, Text.bytesOf_hexBytes]
  | fold => rfl

/-- Lines come back from a text with a newline behind each of them, by induction on the lines. -/
theorem splitOn_newlines {lines : List (List Char)} (single : ∀ line ∈ lines, '\n' ∉ line)
    : (lines.flatMap (· ++ ['\n'])).splitOn '\n' = lines ++ [[]] := by
  induction lines with
  | nil => rfl
  | cons line lines ih =>
      obtain ⟨here, later⟩ := List.forall_mem_cons.mp single
      have inside : ∀ c ∈ line, (c == '\n') = false := by
        intro c member
        exact beq_eq_false_iff_ne.mpr (fun newline => here (newline ▸ member))
      rw [List.flatMap_cons, List.append_assoc, List.cons_append, List.nil_append, List.splitOn,
        List.splitOnP_append_cons_of_forall_mem inside _ (by decide)]
      exact congrArg (line :: ·) (ih later)

-----------------------------------------------------------------------------------------
-- Pictures
-----------------------------------------------------------------------------------------

/-- What a picture tells. -/
structure Picture where
  programCounter : Int
  dataPointer : Int
  lines : List Line
deriving DecidableEq, Inhabited

/-- The picture that a text shows, whose first two lines name the pointers. -/
def Picture.ofText (text : String) : Option Picture :=
  match text.toList.splitOn '\n' with
  | first :: second :: rest =>
      some {
        programCounter := Text.integerValue (first.drop "PC: ".length)
        dataPointer := Text.integerValue (second.drop "Data address: ".length)
        lines := rest.dropLast.map Line.ofText
      }
  | _ => none

/-- The lines of the text that shows a picture. -/
def Picture.textLines (picture : Picture) : List (List Char) :=
  ("PC: " ++ Text.integer picture.programCounter).toList
    :: ("Data address: " ++ Text.integer picture.dataPointer).toList
    :: picture.lines.map Line.text

theorem Picture.newline_not_mem_textLines (picture : Picture)
    : ∀ line ∈ picture.textLines, '\n' ∉ line := by
  have digit := @Text.not_mem_integer '\n' (by decide) (by decide)
  intro line member
  rcases List.mem_cons.mp member with rfl | member
  · simp [digit]
  · rcases List.mem_cons.mp member with rfl | member
    · simp [digit]
    · obtain ⟨shown, _, rfl⟩ := List.mem_map.mp member
      exact shown.newline_not_mem_text

/-- A picture comes back from its text. -/
theorem Picture.ofText_eq_some {text : String} {picture : Picture}
    (shows : text.toList = picture.textLines.flatMap (· ++ ['\n']))
    : ofText text = some picture := by
  have inverse : Line.ofText ∘ Line.text = id := funext Line.ofText_text
  rw [ofText, shows, splitOn_newlines picture.newline_not_mem_textLines]
  simp only [textLines, List.cons_append, List.dropLast_concat, Text.integerValue_drop,
    List.map_map, inverse, List.map_id]

/-- The picture of a machine. -/
def Picture.ofMachine (machine : Machine) : Picture where
  programCounter := machine.programCounter
  dataPointer := machine.dataPointer
  lines := Dump.lines machine.tape.bytes

theorem Picture.ofText_dump (machine : Machine)
    : ofText machine.dump = some (ofMachine machine) := by
  apply ofText_eq_some
  have shown : (fun line => line.render.toList) = (fun line => Line.text line ++ ['\n']) :=
    funext Line.toList_render
  simp [Machine.dump, textLines, ofMachine, String.toList_join, List.flatMap_map, shown]

/-- Both pointers and the values on a tape of a size, read from the text of a picture. -/
def decode (size : Nat) (text : String) : Option (Int × Int × List UInt8) := do
  let picture ← Picture.ofText text
  some (picture.programCounter, picture.dataPointer, padded size (restored [] picture.lines))

theorem decode_dump (machine : Machine)
    : decode machine.tape.size machine.dump
      = some (machine.programCounter, machine.dataPointer, machine.tape.bytes) := by
  have size : machine.tape.size = machine.tape.bytes.length := by
    simp [Tape.bytes, Tape.size]
  have values := padded_restored_lines machine.tape.bytes
  rw [decode, Picture.ofText_dump, size]
  simp only [Option.bind_eq_bind, Option.bind_some, Picture.ofMachine, values]

end Dump

namespace Machine

/-- A picture with the size of the tape tells both pointers and every value, so machines that differ
in one of them have different pictures. Its lines show every row that is not zero at its address,
never two zero rows one after the other, and stand for all others by as few folds as can be.
-/
theorem dump_is_lossless_and_folded (machine : Machine)
    : Dump.decode machine.tape.size machine.dump
        = some (machine.programCounter, machine.dataPointer, machine.tape.bytes)
      ∧ (∀ other : Machine,
          other.tape.size = machine.tape.size
          → other.dump = machine.dump
          → other.programCounter = machine.programCounter
            ∧ other.dataPointer = machine.dataPointer
            ∧ other.tape.bytes = machine.tape.bytes)
      ∧ ∃ lines : List Dump.Line,
          machine.dump
            = "PC: " ++ Text.integer machine.programCounter ++ "\n"
              ++ "Data address: " ++ Text.integer machine.dataPointer ++ "\n"
              ++ String.join (lines.map Dump.Line.render)
          ∧ Dump.MinimallyFolded machine.tape.bytes lines := by
  refine ⟨Dump.decode_dump machine, ?_, _, rfl, Dump.minimallyFolded_lines _⟩
  intro other size same
  have told := Dump.decode_dump other
  rw [size, same, Dump.decode_dump machine] at told
  simp only [Option.some.injEq, Prod.mk.injEq] at told
  exact ⟨told.1.symm, told.2.1.symm, told.2.2.symm⟩

/-- A short last row behind three zero rows is shown at its address, whether a mark stands there or
the value that a mark shows.
-/
theorem dump_is_lossless_and_folded_short_row
    : ∃ marked stored : Machine,
        marked.tape = ⟨Array.replicate 48 (.data 0) ++ #[.endMark]⟩
        ∧ stored.tape = ⟨Array.replicate 48 (.data 0) ++ #[.data endOfProgram]⟩
        ∧ stored.tape.bytes = marked.tape.bytes
        ∧ ∃ lines : List Dump.Line,
            marked.dump
              = "PC: " ++ Text.integer 0 ++ "\n" ++ "Data address: " ++ Text.integer 0 ++ "\n"
                ++ String.join (lines.map Dump.Line.render)
            ∧ .row 48 [endOfProgram] ∈ lines := by
  let marked : Machine :=
    { Machine.create 0 default default with
      tape := ⟨Array.replicate 48 (.data 0) ++ #[.endMark]⟩ }
  let stored : Machine :=
    { marked with tape := ⟨Array.replicate 48 (.data 0) ++ #[.data endOfProgram]⟩ }
  have bytes : stored.tape.bytes = marked.tape.bytes := by decide
  have same : stored.dump = marked.dump := by
    simp only [dump, bytes]
    rfl
  obtain ⟨_, alike, lines, text, folded⟩ := dump_is_lossless_and_folded marked
  exact ⟨marked, stored, rfl, rfl, (alike stored rfl same).2.2, lines, text,
    folded.shown 3 [endOfProgram] (by decide) (by decide)⟩

end Machine

end TapeMachine
