import TapeMachine.Input

/-! What a reader tells the one who reads from it: bytes, ends of the stream and failures, one
after the other. Neither the chunks that the bytes come in nor interruptions make a difference to
the bytes, lines and words that are read.
-/

namespace TapeMachine

open Device (IoError Reader)

namespace Device

inductive Signal where
  | byte (b : UInt8)
  | endOfStream
  | failure (error : IoError)
deriving DecidableEq, Inhabited

namespace Signal

/-- What reading a byte comes to, by the next signal. -/
def byteAnswer : Option Signal → Except IoError (Option UInt8)
  | some (.byte b) => .ok (some b)
  | some (.failure error) => .error error
  | some .endOfStream | none => .ok none

/-- Goes on with a line, signal by signal. -/
def lineFrom (line : List UInt8) : List Signal → Except IoError (List UInt8) × List Signal
  | [] => (.ok line, [])
  | .byte b :: later =>
      if b = Reader.newline then (.ok (line ++ [b]), later) else lineFrom (line ++ [b]) later
  | .endOfStream :: later => (.ok line, later)
  | .failure error :: later => (.error error, later)

/-- A chunk takes a line further or ends it, by induction on the bytes of the chunk. -/
theorem lineFrom_chunk (line chunk : List UInt8) (later : List Signal)
    : lineFrom line (chunk.map .byte ++ later)
      = match chunk.dropWhile (fun b => b != Reader.newline) with
        | [] => lineFrom (line ++ chunk) later
        | b :: rest =>
            (.ok (line ++ chunk.takeWhile (fun b => b != Reader.newline) ++ [b]),
              rest.map .byte ++ later) := by
  induction chunk generalizing line with
  | nil => simp
  | cons b chunk ih =>
      by_cases ends : b = Reader.newline
      · simp [lineFrom, ends]
      · have goesOn : (b != Reader.newline) = true := bne_iff_ne.mpr ends
        rw [List.map_cons, List.cons_append, lineFrom, if_neg ends, ih]
        simp only [List.dropWhile_cons, List.takeWhile_cons, goesOn, if_true]
        split <;> simp

end Signal

namespace Reader

/-- The signals of a reader. A reader that is interrupted gives no sign of it. -/
def signals : Reader → List Signal
  | [] => []
  | .bytes chunk :: later => chunk.map .byte ++ signals later
  | .endOfStream :: later => .endOfStream :: signals later
  | .failure error :: later =>
      if error.isInterrupted then signals later else .failure error :: signals later

/-- Reading a byte takes the next signal. -/
theorem readByte_signals (reader : Reader)
    : reader.readByte.1 = Signal.byteAnswer reader.signals.head?
      ∧ reader.readByte.2.signals = reader.signals.tail := by
  fun_induction readByte reader with
  | case1 => exact ⟨rfl, rfl⟩
  | case2 later ih => exact ih
  | case3 b chunk later => exact ⟨rfl, rfl⟩
  | case4 later => exact ⟨rfl, rfl⟩
  | case5 error later interrupted ih =>
      rw [signals, if_pos interrupted]
      exact ih
  | case6 error later uninterrupted =>
      rw [signals, if_neg uninterrupted]
      exact ⟨rfl, rfl⟩

theorem readByte_congr {first second later : Reader} {outcome : Except IoError (Option UInt8)}
    (same : second.signals = first.signals) (found : first.readByte = (outcome, later))
    : ∃ rest, second.readByte = (outcome, rest) ∧ rest.signals = later.signals := by
  obtain ⟨answer, left⟩ := first.readByte_signals
  obtain ⟨otherAnswer, otherLeft⟩ := second.readByte_signals
  rw [same, ← answer, found] at otherAnswer
  rw [same, ← left, found] at otherLeft
  exact ⟨second.readByte.2, Prod.ext otherAnswer rfl, otherLeft⟩

/-- Reading a line takes the signals up to its end. -/
theorem readLineFrom_signals (line : List UInt8) (reader : Reader)
    : Signal.lineFrom line reader.signals
      = ((readLineFrom line reader).1, (readLineFrom line reader).2.signals) := by
  fun_induction readLineFrom line reader with
  | case1 line => rfl
  | case2 line chunk later whole ih => rw [signals, Signal.lineFrom_chunk, whole, ih]
  | case3 line chunk later b rest found => rw [signals, Signal.lineFrom_chunk, found, signals]
  | case4 line later => rfl
  | case5 line error later interrupted ih => rw [signals, if_pos interrupted, ih]
  | case6 line error later uninterrupted =>
      rw [signals, if_neg uninterrupted]
      rfl

theorem readLine_congr {first second later : Reader} {outcome : Except IoError (List UInt8)}
    (same : second.signals = first.signals) (found : first.readLine = (outcome, later))
    : ∃ rest, second.readLine = (outcome, rest) ∧ rest.signals = later.signals := by
  have lines : (second.readLine.1, second.readLine.2.signals)
      = (first.readLine.1, first.readLine.2.signals) := by
    rw [readLine, readLine, ← readLineFrom_signals, ← readLineFrom_signals, same]
  rw [found] at lines
  obtain ⟨sameOutcome, sameRest⟩ := Prod.mk.inj lines
  exact ⟨second.readLine.2, Prod.ext sameOutcome rfl, sameRest⟩

end Reader

end Device

namespace Input

/-- What a line comes to that was looked through for words. -/
theorem readWord_of_line {reader later : Reader} {outcome : Except IoError (List UInt8)}
    (found : reader.readLine = (outcome, later))
    : readWord reader
      = match outcome with
        | .error error => (.error error, [], later)
        | .ok line =>
            if line = [] then
              (.ok none, [], later)
            else
              match Text.decode? line with
              | none => (.error .notUtf8, [], later)
              | some text =>
                  match Text.words text.toList with
                  | [] => readWord later
                  | word :: pending => (.ok (some word), pending, later) := by
  rw [readWord]
  split <;> rename_i found' <;> rw [found] at found' <;> cases found'
  · rfl
  · rfl

/-- Readers with the same signals give the same words, by induction on the lines without any. -/
theorem readWord_congr {first second : Reader} (same : second.signals = first.signals)
    : (readWord second).1 = (readWord first).1
      ∧ (readWord second).2.1 = (readWord first).2.1
      ∧ (readWord second).2.2.signals = (readWord first).2.2.signals := by
  fun_induction readWord first generalizing second with
  | case1 first error later found =>
      obtain ⟨rest, alsoFound, sameRest⟩ := Device.Reader.readLine_congr same found
      rw [readWord_of_line alsoFound]
      exact ⟨rfl, rfl, sameRest⟩
  | case2 first later found =>
      obtain ⟨rest, alsoFound, sameRest⟩ := Device.Reader.readLine_congr same found
      rw [readWord_of_line alsoFound]
      exact ⟨rfl, rfl, sameRest⟩
  | case3 first line later found nonempty undecoded =>
      obtain ⟨rest, alsoFound, sameRest⟩ := Device.Reader.readLine_congr same found
      simp only [readWord_of_line alsoFound, if_neg nonempty, undecoded]
      exact ⟨trivial, trivial, sameRest⟩
  | case4 first line later found nonempty text decoded blank ih =>
      obtain ⟨rest, alsoFound, sameRest⟩ := Device.Reader.readLine_congr same found
      simp only [readWord_of_line alsoFound, if_neg nonempty, decoded, blank]
      exact ih sameRest
  | case5 first line later found nonempty text decoded word pending cut =>
      obtain ⟨rest, alsoFound, sameRest⟩ := Device.Reader.readLine_congr same found
      simp only [readWord_of_line alsoFound, if_neg nonempty, decoded, cut]
      exact ⟨trivial, trivial, sameRest⟩

/-- Two inputs of one kind whose readers have the same signals; decimal input has the same words
pending.
-/
inductive SameSignals : Input → Input → Prop
  | bytes {first second : Reader} (same : second.signals = first.signals)
      : SameSignals (.bytes first) (.bytes second)
  | decimal {first second : Reader} (same : second.signals = first.signals)
      (pending : List (List Char))
      : SameSignals (.decimal first pending) (.decimal second pending)

/-- A read finds the same on both, and leaves the same to be found. -/
theorem SameSignals.read {first second : Input} (same : SameSignals first second)
    : second.read.1 = first.read.1 ∧ SameSignals first.read.2 second.read.2 := by
  cases same with
  | @bytes first second same =>
      rcases found : first.readByte with ⟨outcome, later⟩
      obtain ⟨rest, alsoFound, sameRest⟩ := Device.Reader.readByte_congr same found
      simp only [Input.read, found, alsoFound]
      rcases outcome with _ | _ | b <;> exact ⟨rfl, .bytes sameRest⟩
  | @decimal first second same pending =>
      cases pending with
      | cons word pending => exact ⟨rfl, .decimal same pending⟩
      | nil =>
          obtain ⟨sameWord, samePending, sameRest⟩ := readWord_congr same
          rcases found : readWord first with ⟨outcome, pending, later⟩
          rcases alsoFound : readWord second with ⟨otherOutcome, otherPending, rest⟩
          rw [found, alsoFound] at sameWord samePending sameRest
          obtain rfl : otherOutcome = outcome := sameWord
          obtain rfl : otherPending = pending := samePending
          simp only [Input.read, found, alsoFound]
          rcases otherOutcome with _ | _ | word <;> exact ⟨rfl, .decimal sameRest _⟩

end Input

end TapeMachine
