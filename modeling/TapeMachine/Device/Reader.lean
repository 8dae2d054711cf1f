import TapeMachine.Device.IoError

/-! A readable device, given by what its coming reads will find. Bytes and whole lines can be
read from it; interruptions are not seen by the one who reads.
-/

namespace TapeMachine.Device

/-- What a read finds. -/
inductive Event where
  /-- Some bytes, which further reads go on with; no bytes are passed over. -/
  | bytes (chunk : List UInt8)
  /-- The end of the stream, once. -/
  | endOfStream
  | failure (error : IoError)
deriving DecidableEq, Inhabited

/-- The coming events of a device, which is at its end once they are used up. -/
abbrev Reader := List Event

namespace Reader

def newline : UInt8 := 0x0A

/-- The next byte; none at an end of the stream. -/
def readByte : Reader → Except IoError (Option UInt8) × Reader
  | [] => (.ok none, [])
  | .bytes [] :: later => readByte later
  | .bytes (b :: chunk) :: later => (.ok (some b), .bytes chunk :: later)
  | .endOfStream :: later => (.ok none, later)
  | .failure error :: later =>
      if error.isInterrupted then readByte later else (.error error, later)

/-- Goes on with a line of which a part has been read. -/
def readLineFrom (line : List UInt8) : Reader → Except IoError (List UInt8) × Reader
  | [] => (.ok line, [])
  | .bytes chunk :: later =>
      match chunk.dropWhile (fun b => b != newline) with
      | [] => readLineFrom (line ++ chunk) later
      | b :: rest =>
          (.ok (line ++ chunk.takeWhile (fun b => b != newline) ++ [b]), .bytes rest :: later)
  | .endOfStream :: later => (.ok line, later)
  | .failure error :: later =>
      if error.isInterrupted then readLineFrom line later else (.error error, later)

/-- The next line with the newline that ends it, if one does. It is empty at an end of the
stream, and a failure loses the part of the line before it.
-/
def readLine (reader : Reader) : Except IoError (List UInt8) × Reader :=
  readLineFrom [] reader

/-- Whether a read of a byte would come to the end of what is known of the device. -/
def isDry : Reader → Bool
  | [] => true
  | .bytes [] :: later => isDry later
  | .bytes (_ :: _) :: _ => false
  | .endOfStream :: _ => false
  | .failure error :: later => error.isInterrupted && isDry later

/-- Whether a read of a line would come to the end of what is known of the device. -/
def isUnended : Reader → Bool
  | [] => true
  | .bytes chunk :: later => (chunk.dropWhile (fun b => b != newline)).isEmpty && isUnended later
  | .endOfStream :: _ => false
  | .failure error :: later => error.isInterrupted && isUnended later

def eventWeight : Event → Nat
  | .bytes chunk => chunk.length + 1
  | _ => 1

/-- A measure of what is left to read. -/
def weight : Reader → Nat
  | [] => 0
  | event :: later => eventWeight event + weight later

theorem length_takeWhile_add_length_dropWhile {α : Type} (p : α → Bool) (xs : List α)
    : (xs.takeWhile p).length + (xs.dropWhile p).length = xs.length := by
  rw [← List.length_append, List.takeWhile_append_dropWhile]

/-- The line and what is left after it hold no more than there was. -/
theorem weight_readLineFrom {line found : List UInt8} {reader later : Reader}
    (h : readLineFrom line reader = (.ok found, later))
    : weight later + found.length ≤ weight reader + line.length := by
  induction reader generalizing line with
  | nil =>
      simp only [readLineFrom, Prod.mk.injEq, Except.ok.injEq] at h
      obtain ⟨rfl, rfl⟩ := h
      exact Nat.le_refl _
  | cons event events ih =>
      cases event with
      | bytes chunk =>
          have whole := length_takeWhile_add_length_dropWhile (fun b => b != newline) chunk
          rw [readLineFrom] at h
          split at h
          · have rest := ih h
            simp only [List.length_append] at rest
            simp only [weight, eventWeight] at rest ⊢
            omega
          · rename_i b rest split
            rw [split] at whole
            simp only [Prod.mk.injEq, Except.ok.injEq] at h
            obtain ⟨rfl, rfl⟩ := h
            simp only [weight, eventWeight, List.length_append, List.length_cons,
              List.length_nil] at whole ⊢
            omega
      | endOfStream =>
          simp only [readLineFrom, Prod.mk.injEq, Except.ok.injEq] at h
          obtain ⟨rfl, rfl⟩ := h
          simp only [weight]
          omega
      | failure error =>
          rw [readLineFrom] at h
          split at h
          · have rest := ih h
            simp only [weight] at rest ⊢
            omega
          · simp at h

/-- A line that is not empty leaves less to read. -/
theorem weight_readLine_lt {found : List UInt8} {reader later : Reader}
    (h : readLine reader = (.ok found, later)) (nonempty : found ≠ [])
    : weight later < weight reader := by
  have bound := weight_readLineFrom h
  have positive := List.length_pos_iff.mpr nonempty
  simp only [List.length_nil] at bound
  omega

end Reader

end TapeMachine.Device
