import TapeMachine.Proofs.ReaderSignals
import TapeMachine.Proofs.Words

/-! Decimal input delivers the words of its lines. What the coming reads find is a queue that the
signals of the reader alone determine: they are cut into lines, and every line is good for some
outcomes. A read takes the first outcome of the queue and leaves the others.
-/

namespace TapeMachine

-----------------------------------------------------------------------------------------
-- Cutting signals into lines
-----------------------------------------------------------------------------------------

namespace Device

/-- What comes of a reader that is read line by line. -/
inductive Passage where
  | line (content : List UInt8)
  /-- The end of the stream, with nothing read before it. -/
  | pause
  | failure (error : IoError)
deriving DecidableEq, Inhabited

/-- What has come when a line was asked for. -/
def Passage.ofLine : Except IoError (List UInt8) → Passage
  | .ok [] => .pause
  | .ok (b :: content) => .line (b :: content)
  | .error error => .failure error

theorem Passage.ofLine_of_nonempty {line : List UInt8} (nonempty : line ≠ [])
    : ofLine (.ok line) = .line line := by
  cases line with
  | nil => exact absurd rfl nonempty
  | cons b content => rfl

namespace Signal

/-- Cuts signals behind every newline and at every end of the stream, a part of a line having been
read before them. A failure discards that part.
-/
def passages (line : List UInt8) : List Signal → List Passage
  | [] => if line = [] then [] else [.line line]
  | .byte b :: later =>
      if b = Reader.newline then
        .line (line ++ [b]) :: passages [] later
      else
        passages (line ++ [b]) later
  | .endOfStream :: later => (if line = [] then .pause else .line line) :: passages [] later
  | .failure error :: later => .failure error :: passages [] later

/-- The first passage is what comes of the line that is read next; there is none behind the last
signal.
-/
theorem passages_of_lineFrom {line : List UInt8} {outcome : Except IoError (List UInt8)}
    {signals later : List Signal} (read : lineFrom line signals = (outcome, later))
    : passages line signals = .ofLine outcome :: passages [] later
      ∨ outcome = .ok [] ∧ passages line signals = [] ∧ passages [] later = [] := by
  fun_induction lineFrom line signals with
  | case1 line =>
      cases read
      cases line with
      | nil => exact Or.inr ⟨rfl, rfl, rfl⟩
      | cons b line => exact Or.inl rfl
  | case2 line later =>
      cases read
      rw [passages, if_pos rfl]
      cases line <;> exact Or.inl rfl
  | case3 line b later goesOn ih =>
      rw [passages, if_neg goesOn]
      exact ih read
  | case4 line later =>
      cases read
      cases line <;> exact Or.inl rfl
  | case5 line error later =>
      cases read
      exact Or.inl rfl

/-- Bytes without a newline only make the line longer. -/
theorem passages_of_bytes {chunk : List UInt8} (inside : Reader.newline ∉ chunk)
    (line : List UInt8) (later : List Signal)
    : passages line (chunk.map .byte ++ later) = passages (line ++ chunk) later := by
  induction chunk generalizing line with
  | nil => rw [List.append_nil]; rfl
  | cons b chunk ih =>
      have goesOn : b ≠ Reader.newline := fun ends => inside (ends ▸ List.mem_cons_self)
      have rest : Reader.newline ∉ chunk := fun found => inside (List.mem_cons_of_mem b found)
      rw [List.map_cons, List.cons_append, passages, if_neg goesOn, ih rest, List.append_assoc]
      rfl

end Signal

/-- The bytes that an event brings. -/
def Event.chunk : Event → List UInt8
  | .bytes chunk => chunk
  | .endOfStream | .failure _ => []

/-- The one who reads sees nothing of the event but its bytes. -/
def Event.showsOnlyBytes : Event → Bool
  | .bytes _ => true
  | .endOfStream => false
  | .failure error => error.isInterrupted

theorem Reader.signals_of_plain {reader : Reader}
    (plain : ∀ event ∈ reader, event.showsOnlyBytes = true)
    : reader.signals = (reader.flatMap Event.chunk).map .byte := by
  induction reader with
  | nil => rfl
  | cons event later ih =>
      have rest := ih (fun event member => plain event (List.mem_cons_of_mem _ member))
      have here := plain event List.mem_cons_self
      rw [List.flatMap_cons, List.map_append, ← rest]
      cases event with
      | bytes chunk => rfl
      | endOfStream => cases here
      | failure error => exact if_pos here

end Device

-----------------------------------------------------------------------------------------
-- The queue of outcomes
-----------------------------------------------------------------------------------------

namespace Input

open Device (Event IoError Passage Reader Signal)

/-- What the reads find in a passage. -/
def outcomesIn : Passage → List (Except IoError (Option Int))
  | .line content =>
      match Text.decode? content with
      | none => [.error .notUtf8]
      | some text => (Text.words text.toList).map wordValue
  | .pause => [.ok none]
  | .failure error => [.error error]

theorem outcomesIn_of_text {content : List UInt8} {text : String}
    (decoded : Text.decode? content = some text)
    : outcomesIn (.line content) = (Text.words text.toList).map wordValue := by
  rw [outcomesIn, decoded]

/-- What the coming reads of decimal input find, before it has ended for good. -/
def outcomesOf (reader : Reader) (pending : List (List Char))
    : List (Except IoError (Option Int)) :=
  pending.map wordValue ++ (Signal.passages [] reader.signals).flatMap outcomesIn

/-- What a read comes to that looked for a word. -/
def wordOutcome : Except IoError (Option (List Char)) → Except IoError (Option Int)
  | .ok (some word) => wordValue word
  | .ok none => .ok none
  | .error error => .error error

theorem read_decimal_nil (reader : Reader)
    : (decimal reader []).read
      = (wordOutcome (readWord reader).1,
          .decimal (readWord reader).2.2 (readWord reader).2.1) := by
  rw [read]
  rcases readWord reader with ⟨_ | _ | word, pending, later⟩ <;> rfl

/-- The queue begins with what comes of the next line; it is empty behind the last one. -/
theorem outcomesOf_of_line {reader later : Reader} {outcome : Except IoError (List UInt8)}
    (found : reader.readLine = (outcome, later))
    : outcomesOf reader [] = outcomesIn (.ofLine outcome) ++ outcomesOf later []
      ∨ outcome = .ok [] ∧ outcomesOf reader [] = [] ∧ outcomesOf later [] = [] := by
  have signals := Reader.readLineFrom_signals [] reader
  rw [show Reader.readLineFrom [] reader = (outcome, later) from found] at signals
  rcases Signal.passages_of_lineFrom signals with next | ⟨empty, ended, still⟩
  · left
    rw [outcomesOf, next]
    exact List.flatMap_cons
  · refine Or.inr ⟨empty, ?_, ?_⟩
    · rw [outcomesOf, ended]
      rfl
    · rw [outcomesOf, still]
      rfl

theorem outcomesOf_of_nonempty {reader later : Reader} {line : List UInt8}
    (found : reader.readLine = (.ok line, later)) (nonempty : line ≠ [])
    : outcomesOf reader [] = outcomesIn (.line line) ++ outcomesOf later [] := by
  rcases outcomesOf_of_line found with next | ⟨empty, _⟩
  · rwa [Passage.ofLine_of_nonempty nonempty] at next
  · exact absurd (Except.ok.inj empty) nonempty

/-- Looking for a word takes the first outcome, by induction on the lines that have none. -/
theorem readWord_takes_outcome (reader : Reader)
    : wordOutcome (readWord reader).1 = (outcomesOf reader []).headD (.ok none)
      ∧ outcomesOf (readWord reader).2.2 (readWord reader).2.1 = (outcomesOf reader []).tail := by
  fun_induction readWord reader with
  | case1 reader error later found =>
      rcases outcomesOf_of_line found with next | ⟨empty, _⟩
      · rw [next]
        exact ⟨rfl, rfl⟩
      · cases empty
  | case2 reader later found =>
      rcases outcomesOf_of_line found with next | ⟨_, ended, still⟩
      · rw [next]
        exact ⟨rfl, rfl⟩
      · rw [ended, still]
        exact ⟨rfl, rfl⟩
  | case3 reader line later found nonempty undecoded =>
      rw [outcomesOf_of_nonempty found nonempty, outcomesIn, undecoded]
      exact ⟨rfl, rfl⟩
  | case4 reader line later found nonempty text decoded blank ih =>
      rw [outcomesOf_of_nonempty found nonempty, outcomesIn_of_text decoded, blank]
      exact ih
  | case5 reader line later found nonempty text decoded word pending cut =>
      rw [outcomesOf_of_nonempty found nonempty, outcomesIn_of_text decoded, cut]
      exact ⟨rfl, rfl⟩

/-- A read takes the first outcome of the queue. -/
theorem read_takes_outcome (reader : Reader) (pending : List (List Char))
    : ∃ later rest,
        (decimal reader pending).read
          = ((outcomesOf reader pending).headD (.ok none), .decimal later rest)
        ∧ outcomesOf later rest = (outcomesOf reader pending).tail := by
  cases pending with
  | cons word pending => exact ⟨reader, pending, rfl, rfl⟩
  | nil =>
      obtain ⟨found, left⟩ := readWord_takes_outcome reader
      refine ⟨(readWord reader).2.2, (readWord reader).2.1, ?_, left⟩
      rw [read_decimal_nil, found]

/-- So many reads take so many outcomes, and find no value where the queue is used up. -/
theorem readMany_decimal (reader : Reader) (pending : List (List Char)) (count : Nat)
    : ((decimal reader pending).readMany count).1
      = (List.range count).map (fun n => (outcomesOf reader pending).getD n (.ok none)) := by
  induction count generalizing reader pending with
  | zero => rfl
  | succ count ih =>
      obtain ⟨later, rest, found, left⟩ := read_takes_outcome reader pending
      simp only [readMany, found, ih, left, List.range_succ_eq_map, List.map_cons, List.map_map]
      cases outcomesOf reader pending <;> rfl

-----------------------------------------------------------------------------------------
-- Lines of a text
-----------------------------------------------------------------------------------------

theorem outcomesIn_encoded (text : List Char)
    : outcomesIn (.line (text.flatMap String.utf8EncodeChar))
      = (Text.words text).map wordValue := by
  have decoded := Text.decode?_eq_some_iff.mpr (Text.encode_ofList text).symm
  rw [outcomesIn_of_text decoded, String.toList_ofList]

/-- The lines of a text have its words, whatever part of a line has been read before it. The
induction is on the characters of the text: all but the newline leave the line unfinished.
-/
theorem outcomes_of_text (front text : List Char)
    : (Signal.passages (front.flatMap String.utf8EncodeChar)
          ((text.flatMap String.utf8EncodeChar).map .byte)).flatMap outcomesIn
      = (Text.words (front ++ text)).map wordValue := by
  have blank : Text.words [] = [] := Text.words_of_nil rfl
  induction text generalizing front with
  | nil =>
      have line := outcomesIn_encoded front
      rw [List.append_nil, ← line, List.flatMap_nil, List.map_nil, Signal.passages]
      split
      · rename_i empty
        have nothing : outcomesIn (.line []) = (Text.words []).map wordValue :=
          outcomesIn_encoded []
        rw [empty, nothing, blank]
        rfl
      · exact List.append_nil _
  | cons c text ih =>
      have longer : (front ++ [c]).flatMap String.utf8EncodeChar
          = front.flatMap String.utf8EncodeChar ++ String.utf8EncodeChar c := by
        rw [List.flatMap_append, List.flatMap_singleton]
      rw [List.flatMap_cons, List.map_append]
      by_cases ends : c = '\n'
      · subst ends
        have newline : String.utf8EncodeChar '\n' = [Reader.newline] := rfl
        have space : Text.isSpace '\n' = true := rfl
        have line : Text.words (front ++ ['\n']) = Text.words front := by
          rw [Text.words_append space, blank, List.append_nil]
        rw [newline] at longer ⊢
        rw [List.map_singleton, List.singleton_append, Signal.passages, if_pos rfl, ← longer,
          List.flatMap_cons, outcomesIn_encoded, line, Text.words_append space, List.map_append]
        exact congrArg _ (ih [])
      · have inside : Reader.newline ∉ String.utf8EncodeChar c :=
          fun found => ends (Text.eq_newline_of_mem_utf8EncodeChar found)
        rw [Signal.passages_of_bytes inside, ← longer, ih, List.append_assoc]
        rfl

/-- Every word and every line that is not well-formed is a value or invalid data. -/
theorem value_or_invalid_of_line {content : List UInt8} {outcome : Except IoError (Option Int)}
    (member : outcome ∈ outcomesIn (.line content))
    : (∃ value, outcome = .ok (some value))
      ∨ ∃ error, outcome = .error error ∧ error.kind = .invalidData := by
  rw [outcomesIn] at member
  split at member
  · exact Or.inr ⟨_, List.mem_singleton.mp member, rfl⟩
  · obtain ⟨word, _, rfl⟩ := List.mem_map.mp member
    rw [wordValue]
    split
    · exact Or.inl ⟨_, rfl⟩
    · exact Or.inr ⟨_, rfl, rfl⟩

/-- Decimal input delivers what the lines of its signals hold, in order, and no value ever after. A
line delivers a value or invalid data for each of its words, which are what white space separates,
or invalid data once if it is not well-formed. If nothing but bytes is seen, and they are those of a
text, its words are delivered, however the bytes are cut into chunks.
-/
theorem decimal_input_delivers_words (reader : Reader) (count : Nat)
    : ((decimal reader []).readMany count).1
        = (List.range count).map (fun n =>
            ((Signal.passages [] reader.signals).flatMap outcomesIn).getD n (.ok none))
      ∧ (∀ content, ∀ outcome ∈ outcomesIn (.line content),
          (∃ value, outcome = .ok (some value))
          ∨ ∃ error, outcome = .error error ∧ error.kind = .invalidData)
      ∧ (∀ text, Text.words text = (text.splitOnP Text.isSpace).filter (· ≠ []))
      ∧ (∀ text,
          (∀ event ∈ reader, event.showsOnlyBytes = true)
          → Text.decode? (reader.flatMap Event.chunk) = some text
          → ((decimal reader []).readMany count).1
            = (List.range count).map (fun n =>
                ((Text.words text.toList).map wordValue).getD n (.ok none))) := by
  have delivered := readMany_decimal reader [] count
  refine ⟨delivered, fun _ _ => value_or_invalid_of_line, Text.words_eq_splitOnP, ?_⟩
  intro text plain decoded
  have bytes := Text.decode?_eq_some_iff.mp decoded
  rw [← text.ofList_toList, Text.encode_ofList] at bytes
  have queue : outcomesOf reader [] = (Text.words text.toList).map wordValue := by
    rw [outcomesOf, Reader.signals_of_plain plain, bytes]
    exact outcomes_of_text [] text.toList
  rw [delivered, queue]

/-- A space of two bytes is cut in the middle and interrupted there. It still ends the word before
it, and the word behind it is no number.
-/
theorem decimal_input_delivers_words_split_space
    : ((decimal
            [.bytes [0x31, 0xC2], .failure (.device .interrupted "again"), .bytes [0xA0, 0x78]]
            []).readMany 3).1
      = [.ok (some 1), .error (.badValue "x"), .ok none] := by
  have plain : ∀ event ∈ [Event.bytes [0x31, 0xC2], .failure (.device .interrupted "again"),
      .bytes [0xA0, 0x78]], event.showsOnlyBytes = true := by
    decide
  have decoded : Text.decode? [0x31, 0xC2, 0xA0, 0x78] = some "1\u00A0x" :=
    Text.decode?_eq_some_iff.mpr (Text.encode_ofList ['1', '\u00A0', 'x']).symm
  have found : Text.words ("1\u00A0x").toList = [['1'], ['x']] := by decide +kernel
  rw [(decimal_input_delivers_words _ 3).2.2.2 "1\u00A0x" plain decoded, found]
  rfl

end Input

end TapeMachine
