import TapeMachine.Device.IoError

/-! Where a machine sends its output: a device whose replies are given beforehand, or a console
that holds back incomplete lines. Bytes are kept with the latest one first.
-/

namespace TapeMachine

open Device (IoError)

/-- How a device answers a write. -/
inductive WriteReply where
  | accepted
  | nothing
  | failure (error : IoError)
deriving DecidableEq, Inhabited

/-- A device with given replies; it accepts everything once they are used up. -/
structure ScriptedSink where
  writes : List WriteReply
  flushes : List (Except IoError Unit)
  written : List UInt8
  flushCount : Nat
deriving Inhabited

namespace ScriptedSink

def ofReplies (writes : List WriteReply) (flushes : List (Except IoError Unit)) : ScriptedSink :=
  ⟨writes, flushes, [], 0⟩

/-- The outcome of writing a byte, and the replies that are left: a write that is interrupted
is tried again.
-/
def settle : List WriteReply → Except IoError Unit × List WriteReply
  | [] => (.ok (), [])
  | .accepted :: later => (.ok (), later)
  | .nothing :: later => (.error .nothingWritten, later)
  | .failure error :: later =>
      if error.isInterrupted then settle later else (.error error, later)

def write (sink : ScriptedSink) (b : UInt8) : Except IoError Unit × ScriptedSink :=
  match settle sink.writes with
  | (.ok (), later) => (.ok (), { sink with writes := later, written := b :: sink.written })
  | (.error error, later) => (.error error, { sink with writes := later })

def flush (sink : ScriptedSink) : Except IoError Unit × ScriptedSink :=
  match sink.flushes with
  | [] => (.ok (), { sink with flushCount := sink.flushCount + 1 })
  | outcome :: later =>
      (outcome, { sink with flushes := later, flushCount := sink.flushCount + 1 })

theorem written_write_ok {sink later : ScriptedSink} {b : UInt8}
    (h : sink.write b = (.ok (), later))
    : later.written = b :: sink.written := by
  unfold write at h
  split at h
  · obtain ⟨_, rfl⟩ := Prod.mk.inj h
    rfl
  · simp at h

theorem written_write_error {sink later : ScriptedSink} {b : UInt8} {error : IoError}
    (h : sink.write b = (.error error, later))
    : later.written = sink.written := by
  unfold write at h
  split at h
  · simp at h
  · obtain ⟨_, rfl⟩ := Prod.mk.inj h
    rfl

theorem written_flush (sink : ScriptedSink)
    : sink.flush.2.written = sink.written := by
  unfold flush
  split <;> rfl

end ScriptedSink

/-- Whether the device behind a console has room. -/
inductive Outlet where
  | working
  | full
deriving DecidableEq, Inhabited

/-- A line-buffered console: bytes wait until their line is complete, until too many of them
wait, or until a flush.
-/
structure Console where
  outlet : Outlet
  delivered : List UInt8
  waiting : List UInt8
deriving DecidableEq, Inhabited

namespace Console

/-- As many bytes can wait. -/
def capacity : Nat := 1024

def newline : UInt8 := 0x0A

def ofOutlet (outlet : Outlet) : Console :=
  ⟨outlet, [], []⟩

/-- Delivers the waiting bytes, which fails on a full device if there are any. -/
def flush (console : Console) : Except IoError Unit × Console :=
  if console.waiting.isEmpty then
    (.ok (), console)
  else
    match console.outlet with
    | .full => (.error .noSpace, console)
    | .working =>
        (.ok (), { console with
          delivered := console.waiting ++ console.delivered
          waiting := [] })

/-- Lets a byte wait. -/
def hold (console : Console) (b : UInt8) : Console :=
  { console with waiting := b :: console.waiting }

/-- Writes a byte; a write that fails leaves the console as it was. -/
def write (console : Console) (b : UInt8) : Except IoError Unit × Console :=
  if b = newline then
    match (console.hold b).flush with
    | (.ok (), flushed) => (.ok (), flushed)
    | (.error error, _) => (.error error, console)
  else if console.waiting.length < capacity then
    (.ok (), console.hold b)
  else
    match console.flush with
    | (.ok (), flushed) => (.ok (), flushed.hold b)
    | (.error error, _) => (.error error, console)

/-- The bytes that were written, the latest one first. -/
def written (console : Console) : List UInt8 :=
  console.waiting ++ console.delivered

theorem written_hold (console : Console) (b : UInt8)
    : (console.hold b).written = b :: console.written :=
  rfl

theorem written_flush (console : Console)
    : console.flush.2.written = console.written := by
  unfold flush
  split
  · rfl
  · split <;> simp [written]

theorem written_write_ok {console later : Console} {b : UInt8}
    (h : console.write b = (.ok (), later))
    : later.written = b :: console.written := by
  unfold write at h
  split at h
  · split at h
    · rename_i flushed outcome
      obtain ⟨_, rfl⟩ := Prod.mk.inj h
      simpa [outcome, written_hold] using written_flush (console.hold b)
    · simp at h
  · split at h
    · obtain ⟨_, rfl⟩ := Prod.mk.inj h
      rfl
    · split at h
      · rename_i flushed outcome
        obtain ⟨_, rfl⟩ := Prod.mk.inj h
        simpa [outcome, written_hold] using written_flush console
      · simp at h

theorem write_error {console later : Console} {b : UInt8} {error : IoError}
    (h : console.write b = (.error error, later))
    : later = console := by
  unfold write at h
  split at h
  · split at h
    · simp at h
    · exact (Prod.mk.inj h).2.symm
  · split at h
    · simp at h
    · split at h
      · simp at h
      · exact (Prod.mk.inj h).2.symm

/-- Writes bytes up to the first one that fails. -/
def writeAll (console : Console) : List UInt8 → Except IoError Unit × Console
  | [] => (.ok (), console)
  | b :: rest =>
      match console.write b with
      | (.ok (), later) => later.writeAll rest
      | (.error error, later) => (.error error, later)

end Console

/-- A receiver of output bytes. -/
inductive Sink where
  | scripted (sink : ScriptedSink)
  | console (terminal : Console)
deriving Inhabited

namespace Sink

def write : Sink → UInt8 → Except IoError Unit × Sink
  | .scripted sink, b =>
      let (outcome, later) := sink.write b
      (outcome, .scripted later)
  | .console terminal, b =>
      let (outcome, later) := terminal.write b
      (outcome, .console later)

def flush : Sink → Except IoError Unit × Sink
  | .scripted sink =>
      let (outcome, later) := sink.flush
      (outcome, .scripted later)
  | .console terminal =>
      let (outcome, later) := terminal.flush
      (outcome, .console later)

/-- The bytes that the sink has taken, in order. -/
def accepted : Sink → List UInt8
  | .scripted sink => sink.written.reverse
  | .console terminal => terminal.written.reverse

/-- The bytes that have reached the device, in order. -/
def delivered : Sink → List UInt8
  | .scripted sink => sink.written.reverse
  | .console terminal => terminal.delivered.reverse

/-- The sink without the bytes that have reached the device. -/
def emptied : Sink → Sink
  | .scripted sink => .scripted { sink with written := [] }
  | .console terminal => .console { terminal with delivered := [] }

/-- The same console in front of another device. -/
def onto (outlet : Outlet) : Sink → Sink
  | .scripted sink => .scripted sink
  | .console terminal => .console { terminal with outlet := outlet }

/-- The number of flushes that a scripted device was asked for. -/
def flushCount : Sink → Nat
  | .scripted sink => sink.flushCount
  | .console _ => 0

/-- A byte that is written comes behind those before it. -/
theorem accepted_write_ok {sink later : Sink} {b : UInt8} (h : sink.write b = (.ok (), later))
    : later.accepted = sink.accepted ++ [b] := by
  cases sink with
  | scripted device =>
      cases reply : device.write b with
      | mk outcome after =>
          simp only [write, reply, Prod.mk.injEq] at h
          obtain ⟨rfl, rfl⟩ := h
          simp [accepted, ScriptedSink.written_write_ok reply]
  | console terminal =>
      cases reply : terminal.write b with
      | mk outcome after =>
          simp only [write, reply, Prod.mk.injEq] at h
          obtain ⟨rfl, rfl⟩ := h
          simp [accepted, Console.written_write_ok reply]

/-- A write that fails takes nothing. -/
theorem accepted_write_error {sink later : Sink} {b : UInt8} {error : IoError}
    (h : sink.write b = (.error error, later))
    : later.accepted = sink.accepted := by
  cases sink with
  | scripted device =>
      cases reply : device.write b with
      | mk outcome after =>
          simp only [write, reply, Prod.mk.injEq] at h
          obtain ⟨rfl, rfl⟩ := h
          simp [accepted, ScriptedSink.written_write_error reply]
  | console terminal =>
      cases reply : terminal.write b with
      | mk outcome after =>
          simp only [write, reply, Prod.mk.injEq] at h
          obtain ⟨rfl, rfl⟩ := h
          simp [accepted, Console.write_error reply]

/-- A flush neither adds nor loses anything. -/
theorem accepted_flush (sink : Sink)
    : sink.flush.2.accepted = sink.accepted := by
  cases sink with
  | scripted device => exact congrArg List.reverse device.written_flush
  | console terminal => exact congrArg List.reverse terminal.written_flush

end Sink

end TapeMachine
