import TapeMachine.Proofs.DeviceExchange
import TapeMachine.Proofs.ReaderSignals
import TapeMachine.Proofs.RetryLoops

/-! Interrupted reads and writes are tried again, and nobody notices: interruptions that are put
into the scripts of the devices change nothing that a machine does or answers, and trying again
comes to an end on every script.
-/

namespace TapeMachine

open Device (IoError Reader Event)

-----------------------------------------------------------------------------------------
-- Scripts with interruptions put in
-----------------------------------------------------------------------------------------

/-- The second reader is the first one with interruptions put in, between its events or where a
chunk of bytes is cut in two.
-/
inductive Device.Reader.Interrupted : Reader → Reader → Prop
  | done : Interrupted [] []
  | event (event : Event) {reader other : Reader} (later : Interrupted reader other)
      : Interrupted (event :: reader) (event :: other)
  | cut (front back : List UInt8) {reader other : Reader}
      (later : Interrupted (.bytes back :: reader) other)
      : Interrupted (.bytes (front ++ back) :: reader) (.bytes front :: other)
  | interruption {error : IoError} (interrupted : error.isInterrupted = true)
      {reader other : Reader} (later : Interrupted reader other)
      : Interrupted reader (.failure error :: other)

/-- The second list of replies is the first one with interruptions put in. -/
inductive WriteReply.Interrupted : List WriteReply → List WriteReply → Prop
  | done : Interrupted [] []
  | reply (reply : WriteReply) {replies others : List WriteReply}
      (later : Interrupted replies others)
      : Interrupted (reply :: replies) (reply :: others)
  | interruption {error : IoError} (interrupted : error.isInterrupted = true)
      {replies others : List WriteReply} (later : Interrupted replies others)
      : Interrupted replies (.failure error :: others)

inductive Input.Interrupted : Input → Input → Prop
  | bytes {reader other : Reader} (interrupted : reader.Interrupted other)
      : Interrupted (.bytes reader) (.bytes other)
  | decimal {reader other : Reader} (interrupted : reader.Interrupted other)
      (pending : List (List Char))
      : Interrupted (.decimal reader pending) (.decimal other pending)

inductive Sink.Interrupted : Sink → Sink → Prop
  | scripted {sink : ScriptedSink} {writes : List WriteReply}
      (interrupted : WriteReply.Interrupted sink.writes writes)
      : Interrupted (.scripted sink) (.scripted { sink with writes := writes })

-----------------------------------------------------------------------------------------
-- What is left of them when the interruptions are passed over
-----------------------------------------------------------------------------------------

/-- Interruptions are no signals, and bytes are the same signals in one chunk or in two. -/
theorem Device.Reader.Interrupted.signals {reader other : Reader}
    (interrupted : reader.Interrupted other)
    : other.signals = reader.signals := by
  induction interrupted with
  | done => rfl
  | event event later ih => cases event <;> simp only [Reader.signals, ih]
  | cut front back later ih =>
      rw [Reader.signals, ih, Reader.signals, Reader.signals, List.map_append, List.append_assoc]
  | interruption interrupted later ih => rw [Reader.signals, if_pos interrupted, ih]

namespace WriteReply

def isInterruption : WriteReply → Bool
  | .failure error => error.isInterrupted
  | _ => false

/-- The replies that are not passed over. -/
def heeded (replies : List WriteReply) : List WriteReply :=
  replies.filter (fun reply => !reply.isInterruption)

/-- What a write comes to, by the next reply that is heeded. -/
def writeAnswer : Option WriteReply → Except IoError Unit
  | some .nothing => .error .nothingWritten
  | some (.failure error) => .error error
  | some .accepted | none => .ok ()

theorem Interrupted.heeded {replies others : List WriteReply}
    (interrupted : Interrupted replies others)
    : heeded others = heeded replies := by
  induction interrupted with
  | done => rfl
  | reply reply later ih => simp only [WriteReply.heeded, List.filter_cons] at ih ⊢; rw [ih]
  | interruption interrupted later ih =>
      rw [WriteReply.heeded, List.filter_cons_of_neg (by simp [isInterruption, interrupted])]
      exact ih

end WriteReply

/-- A write takes the next reply that is heeded. -/
theorem ScriptedSink.settle_heeded (replies : List WriteReply)
    : (settle replies).1 = WriteReply.writeAnswer (WriteReply.heeded replies).head?
      ∧ WriteReply.heeded (settle replies).2 = (WriteReply.heeded replies).tail := by
  fun_induction settle replies with
  | case1 => exact ⟨rfl, rfl⟩
  | case2 later => exact ⟨rfl, rfl⟩
  | case3 later => exact ⟨rfl, rfl⟩
  | case4 error later interrupted ih =>
      have passedOver : WriteReply.heeded (.failure error :: later) = WriteReply.heeded later :=
        List.filter_cons_of_neg (by simp [WriteReply.isInterruption, interrupted])
      rwa [passedOver]
  | case5 error later uninterrupted =>
      have kept : WriteReply.heeded (.failure error :: later)
          = .failure error :: WriteReply.heeded later :=
        List.filter_cons_of_pos (by simpa [WriteReply.isInterruption] using uninterrupted)
      rw [kept]
      exact ⟨rfl, rfl⟩

/-- Two scripted sinks that differ in replies to writes which are passed over. -/
inductive Sink.SameReplies : Sink → Sink → Prop
  | scripted {sink : ScriptedSink} {writes : List WriteReply}
      (same : WriteReply.heeded writes = WriteReply.heeded sink.writes)
      : SameReplies (.scripted sink) (.scripted { sink with writes := writes })

theorem Sink.SameReplies.write {first second : Sink} (same : SameReplies first second) (b : UInt8)
    : (second.write b).1 = (first.write b).1
      ∧ SameReplies (first.write b).2 (second.write b).2 := by
  obtain @⟨sink, writes, same⟩ := same
  obtain ⟨answer, left⟩ := ScriptedSink.settle_heeded sink.writes
  obtain ⟨otherAnswer, otherLeft⟩ := ScriptedSink.settle_heeded writes
  rw [same, ← answer] at otherAnswer
  rw [same, ← left] at otherLeft
  simp only [Sink.write, ScriptedSink.write]
  rcases settled : ScriptedSink.settle sink.writes with ⟨outcome, later⟩
  rcases otherSettled : ScriptedSink.settle writes with ⟨otherOutcome, rest⟩
  rw [settled, otherSettled] at otherAnswer otherLeft
  obtain rfl : otherOutcome = outcome := otherAnswer
  cases otherOutcome <;> exact ⟨rfl, .scripted otherLeft⟩

theorem Sink.SameReplies.flush {first second : Sink} (same : SameReplies first second)
    : second.flush.1 = first.flush.1 ∧ SameReplies first.flush.2 second.flush.2 := by
  obtain @⟨sink, writes, same⟩ := same
  simp only [Sink.flush, ScriptedSink.flush]
  cases sink.flushes <;> exact ⟨rfl, .scripted same⟩

/-- Devices that differ in interruptions only can be exchanged. -/
def Exchange.interruptions : Exchange where
  inputs := Input.SameSignals
  sinks := Sink.SameReplies
  read same := same.read
  write same b := same.write b
  flush same := same.flush

theorem Input.Interrupted.sameSignals {input other : Input} (interrupted : input.Interrupted other)
    : input.SameSignals other := by
  cases interrupted with
  | bytes interrupted => exact .bytes interrupted.signals
  | decimal interrupted pending => exact .decimal interrupted.signals pending

theorem Sink.Interrupted.sameReplies {sink other : Sink} (interrupted : sink.Interrupted other)
    : sink.SameReplies other := by
  cases interrupted with
  | scripted interrupted => exact .scripted interrupted.heeded

theorem Sink.SameReplies.seen {first second : Sink} (same : first.SameReplies second)
    : second.accepted = first.accepted ∧ second.flushCount = first.flushCount := by
  cases same with
  | scripted same => exact ⟨rfl, rfl⟩

namespace Machine

/-- Interruptions go unnoticed. Calls in a row get the same answers on devices into whose scripts
interruptions were put, or no answer on either; they leave the same tape and registers, the same
bytes written, as many flushes and the same values to be read. Trying again ends on every script.
-/
theorem interruptions_go_unnoticed {machine : Machine} {input : Input} {output : Sink}
    (inputs : machine.input.Interrupted input) (sinks : machine.output.Interrupted output)
    (patience : Nat) (calls : List Call)
    : ((machine.answerAll patience calls = none
          ∧ { machine with input := input, output := output }.answerAll patience calls = none)
        ∨ ∃ outcomes finished leftInput leftOutput,
            machine.answerAll patience calls = some (outcomes, finished)
            ∧ { machine with input := input, output := output }.answerAll patience calls
              = some (outcomes, { finished with input := leftInput, output := leftOutput })
            ∧ leftOutput.accepted = finished.output.accepted
            ∧ leftOutput.flushCount = finished.output.flushCount
            ∧ ∀ count, (leftInput.readMany count).1 = (finished.input.readMany count).1)
      ∧ (∀ reader : Reader,
          Device.takeTurns Device.Reader.byteTurn (reader.length + 1) reader
          = some reader.readByte)
      ∧ (∀ (line : List UInt8) (reader : Reader),
          Device.takeTurns Device.Reader.lineTurn (reader.length + 1) (line, reader)
          = some (reader.readLineFrom line))
      ∧ ∀ replies : List WriteReply,
          Device.takeTurns ScriptedSink.writeTurn (replies.length + 1) replies
          = some (ScriptedSink.settle replies) := by
  refine ⟨?_, fun reader => reader.byteLoop_ends (Nat.lt_succ_self _),
    fun line reader => reader.lineLoop_ends line (Nat.lt_succ_self _),
    fun replies => ScriptedSink.writeLoop_ends replies (Nat.lt_succ_self _)⟩
  have alike : Exchange.interruptions.Alike machine.equipment
      ⟨machine.eofPolicy, input, output⟩ :=
    ⟨rfl, inputs.sameSignals, sinks.sameReplies⟩
  obtain unanswered | ⟨outcomes, finished, last, answered, same, still⟩ :=
    Exchange.interruptions.answerAll alike patience calls
  · exact .inl unanswered
  · have policy : last.eofPolicy = finished.eofPolicy := still.eofPolicy
    obtain ⟨written, flushes⟩ := still.sinks.seen
    refine .inr ⟨outcomes, finished, last.input, last.output, answered, ?_, written, flushes,
      Exchange.interruptions.readMany still.inputs⟩
    refine same.trans ?_
    rw [equippedWith, policy]

/-- A number that is cut in two by an interruption is read and echoed as if it had come in one
piece, though the write is interrupted too. That is known from the run without interruptions.
-/
theorem interruptions_go_unnoticed_cut_number
    : ∃ outcomes finished,
        (create 0
          (.decimal [.bytes [54], .failure (.device .interrupted "again"), .bytes [53, 10]] [])
          (.scripted (.ofReplies [.failure (.device .interrupted "again")] []))).answerAll 3
            [.load ",." 10, .run 10]
          = some (outcomes, finished)
        ∧ outcomes.map Except.toOption = [some (.diagnostics []), some .done]
        ∧ finished.output.accepted = [65] := by
  have plainly : ((create 0 (.decimal [.bytes [54, 53, 10]] [])
        (.scripted (.ofReplies [] []))).answerAll 3 [.load ",." 10, .run 10]).map
        (fun answered => (answered.1.map Except.toOption, answered.2.output.accepted))
      = some ([some (.diagnostics []), some .done], [65]) := by
    decide +kernel
  have cut : Device.Reader.Interrupted [.bytes [54, 53, 10]]
      [.bytes [54], .failure (.device .interrupted "again"), .bytes [53, 10]] :=
    .cut [54] [53, 10] (.interruption rfl (.event _ .done))
  have unsettled : WriteReply.Interrupted [] [.failure (.device .interrupted "again")] :=
    .interruption rfl .done
  obtain ⟨⟨none, _⟩ | ⟨outcomes, finished, leftInput, leftOutput, answered, same, written, _⟩, _⟩ :=
    @interruptions_go_unnoticed
      (create 0 (.decimal [.bytes [54, 53, 10]] []) (.scripted (.ofReplies [] []))) _ _
      (.decimal cut []) (.scripted unsettled) 3 [.load ",." 10, .run 10]
  · rw [none] at plainly
    cases plainly
  · rw [answered] at plainly
    obtain ⟨done, accepted⟩ := Prod.mk.inj (Option.some.inj plainly)
    exact ⟨_, _, same, done, written.trans accepted⟩

end Machine

end TapeMachine
