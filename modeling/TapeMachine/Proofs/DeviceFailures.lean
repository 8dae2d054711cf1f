import TapeMachine.Input
import TapeMachine.Sink

/-! Devices that fail now and then. A failure uses up one failing entry of a script and nothing
else, so a device that fails can be compared with one that gives or takes the same and never fails.
Decimal input is left out: it is read by lines, and a failure loses the part of a line before it.
-/

namespace TapeMachine

open Device (IoError Reader)

namespace Device

-----------------------------------------------------------------------------------------
-- Devices side by side
-----------------------------------------------------------------------------------------

section Mended

variable {δ View Answer : Type} {shows : δ → View → Nat → Prop}
  {use : δ → Except IoError Answer × δ} {answer : View → Answer} {next : View → View}

/-- A use of a device either fails, which uses up a failure and leaves what the device shows, or
gets the answer that this calls for. What a device shows comes with a bound on its failures.
-/
def Retryable (shows : δ → View → Nat → Prop)
    (use : δ → Except IoError Answer × δ) (answer : View → Answer)
    (next : View → View) : Prop :=
  ∀ {device view failures}, shows device view failures
    → (∃ error later fewer, failures = fewer + 1
        ∧ use device = (.error error, later)
        ∧ shows later view fewer)
      ∨ ∃ later, use device = (.ok (answer view), later)
        ∧ shows later (next view) failures

/-- The first device fails at most so often; the second one never fails and shows the same. -/
def Mended (shows : δ → View → Nat → Prop) (failures : Nat) (device reliable : δ)
    : Prop :=
  ∃ view, shows device view failures ∧ shows reliable view 0

/-- A use fails on the first device alone, or both give the same answer. -/
theorem Mended.used {failures : Nat} {device reliable : δ}
    (mended : Mended shows failures device reliable)
    (retryable : Retryable shows use answer next)
    : (∃ error later fewer, failures = fewer + 1
        ∧ use device = (.error error, later)
        ∧ Mended shows fewer later reliable)
      ∨ ∃ found later reached, use device = (.ok found, later)
        ∧ use reliable = (.ok found, reached)
        ∧ Mended shows failures later reached := by
  obtain ⟨view, shown, reliably⟩ := mended
  obtain ⟨_, _, _, none, _⟩ | ⟨reached, answered, same⟩ := retryable reliably
  · cases none
  · obtain ⟨error, later, fewer, count, failed, still⟩ | ⟨later, found, shown⟩ := retryable shown
    · exact .inl ⟨error, later, fewer, count, failed, view, still, reliably⟩
    · exact .inr ⟨_, later, reached, found, answered, next view, shown, same⟩

end Mended

-----------------------------------------------------------------------------------------
-- Bytes from a reader
-----------------------------------------------------------------------------------------

def Event.isFailure : Event → Bool
  | .failure _ => true
  | _ => false

namespace Reader

/-- What the coming reads of a byte give, failures apart: bytes, and ends of the stream. -/
def items : Reader → List (Option UInt8)
  | [] => []
  | .bytes chunk :: later => chunk.map some ++ items later
  | .endOfStream :: later => none :: items later
  | .failure _ :: later => items later

def failures (reader : Reader) : Nat :=
  reader.countP Event.isFailure

theorem failures_failure (error : IoError) (later : Reader)
    : failures (.failure error :: later) = failures later + 1 :=
  List.countP_cons_of_pos rfl

def withoutFailures (reader : Reader) : Reader :=
  reader.filter (fun event => !event.isFailure)

theorem items_withoutFailures (reader : Reader)
    : items (withoutFailures reader) = items reader := by
  induction reader with
  | nil => rfl
  | cons event later ih =>
      cases event with
      | bytes chunk => exact congrArg (chunk.map some ++ ·) ih
      | endOfStream => exact congrArg (none :: ·) ih
      | failure error => exact ih

theorem failures_withoutFailures (reader : Reader)
    : failures (withoutFailures reader) = 0 := by
  simp [failures, withoutFailures, List.countP_eq_zero]

/-- A read that fails loses nothing but the failure, by induction on the events passed over. -/
theorem readByte_error {reader later : Reader} {error : IoError}
    (read : reader.readByte = (.error error, later))
    : items later = items reader ∧ failures later < failures reader := by
  fun_induction readByte reader with
  | case1 => cases read
  | case2 events ih => exact ih read
  | case3 b chunk events => cases read
  | case4 events => cases read
  | case5 reported events interrupted ih =>
      obtain ⟨same, fewer⟩ := ih read
      rw [failures_failure]
      exact ⟨same, Nat.lt_succ_of_lt fewer⟩
  | case6 reported events uninterrupted =>
      obtain ⟨_, rfl⟩ := Prod.mk.inj read
      rw [failures_failure]
      exact ⟨rfl, Nat.lt_succ_self _⟩

/-- A read that succeeds gives the next item, and the end of the stream after the last one. -/
theorem readByte_ok {reader later : Reader} {found : Option UInt8}
    (read : reader.readByte = (.ok found, later))
    : found = (items reader).head?.join
      ∧ items later = (items reader).tail
      ∧ failures later ≤ failures reader := by
  fun_induction readByte reader with
  | case1 =>
      cases read
      exact ⟨rfl, rfl, Nat.le_refl _⟩
  | case2 events ih => exact ih read
  | case3 b chunk events =>
      cases read
      exact ⟨rfl, rfl, Nat.le_refl _⟩
  | case4 events =>
      cases read
      exact ⟨rfl, rfl, Nat.le_refl _⟩
  | case5 reported events interrupted ih =>
      obtain ⟨next, rest, fewer⟩ := ih read
      rw [failures_failure]
      exact ⟨next, rest, Nat.le_succ_of_le fewer⟩
  | case6 reported events uninterrupted => cases read

end Reader

end Device

-----------------------------------------------------------------------------------------
-- Inputs
-----------------------------------------------------------------------------------------

namespace Input

def withoutFailures : Input → Input
  | .bytes reader => .bytes reader.withoutFailures
  | .decimal reader pending => .decimal reader pending
  | .values outcomes => .values (outcomes.filter Except.isOk)

/-- What the coming reads of an input give, failures apart, if there are at most so many of
these.
-/
inductive Supplies : Input → List (Option Int) → Nat → Prop
  | bytes {reader : Reader} {failures : Nat} (bound : reader.failures ≤ failures)
      : Supplies (.bytes reader)
          (reader.items.map (Option.map (fun b => (b.toNat : Int)))) failures
  | values {outcomes : List (Except IoError (Option Int))} {failures : Nat}
      (bound : outcomes.countP (fun outcome => !outcome.isOk) ≤ failures)
      : Supplies (.values outcomes) (outcomes.filterMap Except.toOption) failures

/-- A read gives what is to come next, or fails and leaves it to come. -/
theorem read_retryable
    : Device.Retryable Supplies Input.read (fun coming => coming.head?.join) List.tail := by
  intro input coming failures supplies
  cases supplies with
  | @bytes reader _ bound =>
      simp only [Input.read]
      rcases read : reader.readByte with ⟨error | found, later⟩
      · obtain ⟨same, fewer⟩ := Device.Reader.readByte_error read
        refine .inl ⟨error, _, failures - 1, by omega, rfl, ?_⟩
        rw [← same]
        exact .bytes (by omega)
      · obtain ⟨next, rest, fewer⟩ := Device.Reader.readByte_ok read
        refine .inr ⟨.bytes later, ?_, ?_⟩
        · rw [List.head?_map, Option.join_map_eq_map_join, ← next]
          cases found <;> rfl
        · rw [← List.map_tail, ← rest]
          exact .bytes (by omega)
  | @values outcomes _ bound =>
      match outcomes with
      | [] => exact .inr ⟨_, rfl, .values (Nat.zero_le _)⟩
      | .error error :: later =>
          rw [List.countP_cons_of_pos rfl] at bound
          exact .inl ⟨error, _, failures - 1, by omega, rfl, .values (by omega)⟩
      | .ok value :: later =>
          rw [List.countP_cons_of_neg (by simp [Except.isOk, Except.toBool])] at bound
          exact .inr ⟨_, rfl, .values bound⟩

theorem mended_withoutFailures {input : Input}
    (kind : ∀ reader pending, input ≠ .decimal reader pending)
    : ∃ failures, Device.Mended Supplies failures input input.withoutFailures := by
  cases input with
  | bytes reader =>
      refine ⟨reader.failures, _, .bytes (Nat.le_refl _), ?_⟩
      rw [← reader.items_withoutFailures]
      exact .bytes (Nat.le_of_eq reader.failures_withoutFailures)
  | decimal reader pending => exact absurd rfl (kind reader pending)
  | values outcomes =>
      refine ⟨_, _, .values (Nat.le_refl _), ?_⟩
      have same : (outcomes.filter Except.isOk).filterMap Except.toOption
          = outcomes.filterMap Except.toOption := by
        rw [List.filterMap_filter]
        congr 1
        funext outcome
        cases outcome <;> rfl
      rw [← same]
      exact .values (by simp [List.countP_eq_zero])

end Input

-----------------------------------------------------------------------------------------
-- Sinks
-----------------------------------------------------------------------------------------

def WriteReply.isFailure : WriteReply → Bool
  | .accepted => false
  | _ => true

namespace ScriptedSink

/-- The failing replies that are left, to writes and to flushes. -/
def failures (sink : ScriptedSink) : Nat :=
  sink.writes.countP WriteReply.isFailure + sink.flushes.countP (fun reply => !reply.isOk)

def withoutFailures (sink : ScriptedSink) : ScriptedSink :=
  { sink with
    writes := sink.writes.filter (fun reply => !reply.isFailure)
    flushes := sink.flushes.filter Except.isOk }

theorem failures_withoutFailures (sink : ScriptedSink)
    : sink.withoutFailures.failures = 0 := by
  simp [failures, withoutFailures, List.countP_eq_zero]

theorem settle_error {replies later : List WriteReply} {error : IoError}
    (settled : settle replies = (.error error, later))
    : later.countP WriteReply.isFailure < replies.countP WriteReply.isFailure := by
  fun_induction settle replies with
  | case1 => cases settled
  | case2 rest => cases settled
  | case3 rest =>
      cases settled
      rw [List.countP_cons_of_pos rfl]
      exact Nat.lt_succ_self _
  | case4 reported rest interrupted ih =>
      rw [List.countP_cons_of_pos rfl]
      exact Nat.lt_succ_of_lt (ih settled)
  | case5 reported rest uninterrupted =>
      cases settled
      rw [List.countP_cons_of_pos rfl]
      exact Nat.lt_succ_self _

theorem settle_ok {replies later : List WriteReply}
    (settled : settle replies = (.ok (), later))
    : later.countP WriteReply.isFailure ≤ replies.countP WriteReply.isFailure := by
  fun_induction settle replies with
  | case1 =>
      cases settled
      exact Nat.le_refl _
  | case2 rest =>
      cases settled
      exact Nat.le_refl _
  | case3 rest => cases settled
  | case4 reported rest interrupted ih =>
      rw [List.countP_cons_of_pos rfl]
      exact Nat.le_succ_of_le (ih settled)
  | case5 reported rest uninterrupted => cases settled

end ScriptedSink

namespace Sink

def withoutFailures : Sink → Sink
  | .scripted sink => .scripted sink.withoutFailures
  | .console terminal => .console terminal

/-- The bytes that a scripted sink has taken, the latest one first, if it fails at most so often
from now on.
-/
inductive Takes : Sink → List UInt8 → Nat → Prop
  | scripted {sink : ScriptedSink} {failures : Nat} (bound : sink.failures ≤ failures)
      : Takes (.scripted sink) sink.written failures

/-- A write is taken, or fails and takes nothing. -/
theorem write_retryable (b : UInt8)
    : Device.Retryable Takes (fun sink => sink.write b) (fun _ => ()) (b :: ·) := by
  rintro _ _ failures @⟨device, _, bound⟩
  simp only [Sink.write, ScriptedSink.write]
  simp only [ScriptedSink.failures] at bound
  rcases settled : ScriptedSink.settle device.writes with ⟨error | _, later⟩
  · have fewer := ScriptedSink.settle_error settled
    refine .inl ⟨error, _, failures - 1, by omega, rfl, .scripted ?_⟩
    simp only [ScriptedSink.failures]
    omega
  · have fewer := ScriptedSink.settle_ok settled
    refine .inr ⟨_, rfl, .scripted ?_⟩
    simp only [ScriptedSink.failures]
    omega

/-- A flush takes nothing, whether it fails or not. -/
theorem flush_retryable
    : Device.Retryable Takes Sink.flush (fun _ => ()) id := by
  rintro _ _ failures @⟨device, _, bound⟩
  simp only [Sink.flush, ScriptedSink.flush]
  simp only [ScriptedSink.failures] at bound
  match replies : device.flushes with
  | [] =>
      rw [replies] at bound
      exact .inr ⟨_, rfl, .scripted bound⟩
  | .error error :: later =>
      rw [replies, List.countP_cons_of_pos rfl] at bound
      refine .inl ⟨error, _, failures - 1, by omega, rfl, .scripted ?_⟩
      simp only [ScriptedSink.failures]
      omega
  | .ok () :: later =>
      rw [replies, List.countP_cons_of_neg (by simp [Except.isOk, Except.toBool])] at bound
      exact .inr ⟨_, rfl, .scripted bound⟩

theorem mended_withoutFailures (device : ScriptedSink)
    : Device.Mended Takes device.failures (.scripted device)
        (Sink.scripted device).withoutFailures :=
  ⟨device.written, .scripted (Nat.le_refl _),
    .scripted (Nat.le_of_eq device.failures_withoutFailures)⟩

theorem accepted_of_mended {failures : Nat} {sink reliable : Sink}
    (mended : Device.Mended Takes failures sink reliable)
    : reliable.accepted = sink.accepted := by
  obtain ⟨written, ⟨_⟩, reliably⟩ := mended
  generalize taken : ScriptedSink.written _ = written at reliably
  obtain ⟨_⟩ := reliably
  exact congrArg List.reverse taken.symm

end Sink

end TapeMachine
