import TapeMachine.Input
import TapeMachine.Sink

/-! Reading a byte, reading a line and writing a byte as loops that ask a device once in every turn
and turn again after an interruption. On every script they end, after no more turns than there are
entries in it and one more, with what `readByte`, `readLineFrom` and `settle` give at once.
-/

namespace TapeMachine

open Device (IoError Reader)

namespace Device

/-- Takes turns, so many at most, until one of them gives a result. -/
def takeTurns {σ ρ : Type} (turn : σ → σ ⊕ ρ) : Nat → σ → Option ρ
  | 0, _ => none
  | turns + 1, state =>
      match turn state with
      | .inl next => takeTurns turn turns next
      | .inr result => some result

/-- A loop ends with a result if every turn either gives it or leaves less to do for it, by
induction on the turns.
-/
theorem takeTurns_eq_some {σ ρ : Type} (turn : σ → σ ⊕ ρ) (result : σ → ρ) (size : σ → Nat)
    (unfolds : ∀ state, result state = (turn state).elim result id)
    (shrinks : ∀ state next, turn state = .inl next → size next < size state)
    {turns : Nat} {state : σ} (enough : size state < turns)
    : takeTurns turn turns state = some (result state) := by
  induction turns generalizing state with
  | zero => exact absurd enough (Nat.not_lt_zero _)
  | succ turns ih =>
      have same := unfolds state
      rw [takeTurns]
      cases taken : turn state with
      | inl next =>
          have less := shrinks state next taken
          rw [taken, Sum.elim_inl] at same
          rw [same]
          exact ih (by omega)
      | inr value =>
          rw [taken, Sum.elim_inr] at same
          exact congrArg some same.symm

namespace Reader

/-- What the device has when it is asked once: some bytes, which are none at an end of the stream,
or a failure. Empty chunks are passed over.
-/
def ask : Reader → Except IoError (List UInt8) × Reader
  | [] => (.ok [], [])
  | .bytes [] :: later => ask later
  | .bytes (b :: chunk) :: later => (.ok (b :: chunk), later)
  | .endOfStream :: later => (.ok [], later)
  | .failure error :: later => (.error error, later)

/-- A failure is an entry of the script, and asking uses it up. -/
theorem length_ask_of_error {reader later : Reader} {error : IoError}
    (asked : reader.ask = (.error error, later))
    : later.length < reader.length := by
  fun_induction ask reader with
  | case1 => cases asked
  | case2 events ih => exact Nat.lt_succ_of_lt (ih asked)
  | case3 b chunk events => cases asked
  | case4 events => cases asked
  | case5 reported events =>
      cases asked
      exact Nat.lt_succ_self _

/-- So are bytes. -/
theorem length_ask_of_bytes {reader later : Reader} {b : UInt8} {chunk : List UInt8}
    (asked : reader.ask = (.ok (b :: chunk), later))
    : later.length < reader.length := by
  fun_induction ask reader with
  | case1 => cases asked
  | case2 events ih => exact Nat.lt_succ_of_lt (ih asked)
  | case3 first rest events =>
      cases asked
      exact Nat.lt_succ_self _
  | case4 events => cases asked
  | case5 reported events => cases asked

/-- One turn of reading a byte. -/
def byteTurn (reader : Reader) : Reader ⊕ (Except IoError (Option UInt8) × Reader) :=
  match reader.ask with
  | (.ok [], later) => .inr (.ok none, later)
  | (.ok (b :: chunk), later) => .inr (.ok (some b), .bytes chunk :: later)
  | (.error error, later) =>
      if error.isInterrupted then .inl later else .inr (.error error, later)

theorem readByte_eq_turn (reader : Reader)
    : reader.readByte = (byteTurn reader).elim readByte id := by
  unfold byteTurn
  fun_induction ask reader with
  | case1 => rfl
  | case2 later ih => exact ih
  | case3 b chunk later => rfl
  | case4 later => rfl
  | case5 error later => cases interrupted : error.isInterrupted <;> simp [readByte, interrupted]

theorem byteLoop_ends (reader : Reader) {turns : Nat} (enough : reader.length < turns)
    : takeTurns byteTurn turns reader = some reader.readByte := by
  refine takeTurns_eq_some byteTurn readByte List.length readByte_eq_turn ?_ enough
  intro state next taken
  unfold byteTurn at taken
  split at taken
  · cases taken
  · cases taken
  · rename_i asked
    split at taken
    · cases taken
      exact length_ask_of_error asked
    · cases taken

/-- One turn of reading a line of which a part has been read. -/
def lineTurn (state : List UInt8 × Reader)
    : (List UInt8 × Reader) ⊕ (Except IoError (List UInt8) × Reader) :=
  match state.2.ask with
  | (.ok [], later) => .inr (.ok state.1, later)
  | (.ok (b :: chunk), later) =>
      match (b :: chunk).dropWhile (fun b => b != newline) with
      | [] => .inl (state.1 ++ (b :: chunk), later)
      | last :: rest =>
          .inr (.ok (state.1 ++ (b :: chunk).takeWhile (fun b => b != newline) ++ [last]),
            .bytes rest :: later)
  | (.error error, later) =>
      if error.isInterrupted then .inl (state.1, later) else .inr (.error error, later)

theorem readLineFrom_eq_turn (state : List UInt8 × Reader)
    : readLineFrom state.1 state.2
      = (lineTurn state).elim (fun state => readLineFrom state.1 state.2) id := by
  obtain ⟨line, reader⟩ := state
  unfold lineTurn
  simp only
  fun_induction ask reader with
  | case1 => rfl
  | case2 later ih =>
      rw [readLineFrom, List.dropWhile_nil, List.append_nil]
      exact ih
  | case3 b chunk later =>
      simp only [readLineFrom]
      cases (b :: chunk).dropWhile (fun b => b != newline) <;> rfl
  | case4 later => rfl
  | case5 error later =>
      cases interrupted : error.isInterrupted <;> simp [readLineFrom, interrupted]

theorem lineLoop_ends (line : List UInt8) (reader : Reader) {turns : Nat}
    (enough : reader.length < turns)
    : takeTurns lineTurn turns (line, reader) = some (readLineFrom line reader) := by
  refine takeTurns_eq_some lineTurn (fun state => readLineFrom state.1 state.2)
    (fun state => state.2.length) readLineFrom_eq_turn ?_ enough
  intro state next taken
  unfold lineTurn at taken
  split at taken
  · cases taken
  · rename_i asked
    split at taken
    · cases taken
      exact length_ask_of_bytes asked
    · cases taken
  · rename_i asked
    split at taken
    · cases taken
      exact length_ask_of_error asked
    · cases taken

end Reader

end Device

namespace ScriptedSink

/-- One turn of writing a byte. -/
def writeTurn : List WriteReply → List WriteReply ⊕ (Except IoError Unit × List WriteReply)
  | [] => .inr (.ok (), [])
  | .accepted :: later => .inr (.ok (), later)
  | .nothing :: later => .inr (.error .nothingWritten, later)
  | .failure error :: later =>
      if error.isInterrupted then .inl later else .inr (.error error, later)

theorem settle_eq_turn (replies : List WriteReply)
    : settle replies = (writeTurn replies).elim settle id := by
  match replies with
  | [] | .accepted :: later | .nothing :: later => rfl
  | .failure error :: later =>
      cases interrupted : error.isInterrupted <;> simp [settle, writeTurn, interrupted]

theorem writeLoop_ends (replies : List WriteReply) {turns : Nat} (enough : replies.length < turns)
    : Device.takeTurns writeTurn turns replies = some (settle replies) := by
  refine Device.takeTurns_eq_some writeTurn settle List.length settle_eq_turn ?_ enough
  intro state next taken
  unfold writeTurn at taken
  split at taken
  · cases taken
  · cases taken
  · cases taken
  · split at taken
    · cases taken
      exact Nat.lt_succ_self _
    · cases taken

end ScriptedSink

end TapeMachine
