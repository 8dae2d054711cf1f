import TapeMachine.Sink

/-! What a single use of a sink, which is a write or a flush, keeps of it. -/

namespace TapeMachine

open Device (IoError)

theorem Console.outlet_flush (terminal : Console)
    : terminal.flush.2.outlet = terminal.outlet := by
  unfold flush
  split
  · rfl
  · split <;> rfl

theorem Console.outlet_write (terminal : Console) (b : UInt8)
    : (terminal.write b).2.outlet = terminal.outlet := by
  unfold write
  split
  · have kept := (terminal.hold b).outlet_flush
    rcases reply : (terminal.hold b).flush with ⟨_ | _, later⟩
    · rfl
    · rwa [reply] at kept
  · split
    · rfl
    · have kept := terminal.outlet_flush
      rcases reply : terminal.flush with ⟨_ | _, later⟩
      · rfl
      · rwa [reply] at kept

theorem ScriptedSink.flushes_write (device : ScriptedSink) (b : UInt8)
    : (device.write b).2.flushes = device.flushes := by
  unfold write
  split <;> rfl

theorem ScriptedSink.flushes_flush_subset (device : ScriptedSink)
    : device.flush.2.flushes ⊆ device.flushes := by
  unfold flush
  split
  · exact List.Subset.refl _
  · rename_i outcome later replies
    exact replies ▸ List.subset_cons_self outcome later

namespace Sink

/-- A sink before and after it was used at most once. -/
inductive UsedOnce : Sink → Sink → Prop
  | unused {sink : Sink} : UsedOnce sink sink
  | written (sink : Sink) (b : UInt8) : UsedOnce sink (sink.write b).2
  | flushed (sink : Sink) : UsedOnce sink sink.flush.2

/-- The bytes that were taken before stay in front. -/
theorem UsedOnce.accepted {before after : Sink} (used : before.UsedOnce after)
    : before.accepted <+: after.accepted := by
  cases used with
  | unused => exact List.prefix_rfl
  | written b =>
      rcases reply : before.write b with ⟨_ | _, later⟩
      · simp only [accepted_write_error reply, List.prefix_rfl]
      · simp only [accepted_write_ok reply, List.prefix_append]
  | flushed => exact before.accepted_flush ▸ List.prefix_rfl

/-- A write that fails delivers nothing. -/
theorem delivered_write_error {sink later : Sink} {b : UInt8} {error : IoError}
    (failed : sink.write b = (.error error, later))
    : later.delivered = sink.delivered := by
  cases sink with
  | scripted device =>
      have same := accepted_write_error failed
      obtain ⟨_, rfl⟩ := Prod.mk.inj failed
      exact same
  | console terminal =>
      rcases reply : terminal.write b with ⟨outcome, after⟩
      simp only [write, reply, Prod.mk.injEq] at failed
      obtain ⟨rfl, rfl⟩ := failed
      rw [Console.write_error reply]

/-- A flush that fails delivers nothing. -/
theorem delivered_flush_error {sink later : Sink} {error : IoError}
    (failed : sink.flush = (.error error, later))
    : later.delivered = sink.delivered := by
  cases sink with
  | scripted device =>
      obtain ⟨_, rfl⟩ := Prod.mk.inj failed
      exact congrArg List.reverse device.written_flush
  | console terminal =>
      rcases reply : terminal.flush with ⟨outcome, after⟩
      simp only [flush, reply, Prod.mk.injEq] at failed
      obtain ⟨rfl, rfl⟩ := failed
      unfold Console.flush at reply
      split at reply
      · cases reply
      · split at reply <;> cases reply
        rfl

/-- A flush that succeeds delivers what was taken. -/
theorem delivered_flush_ok {sink later : Sink} (flushed : sink.flush = (.ok (), later))
    : later.delivered = sink.accepted := by
  cases sink with
  | scripted device =>
      obtain ⟨_, rfl⟩ := Prod.mk.inj flushed
      exact congrArg List.reverse device.written_flush
  | console terminal =>
      rcases reply : terminal.flush with ⟨outcome, after⟩
      simp only [flush, reply, Prod.mk.injEq] at flushed
      obtain ⟨rfl, rfl⟩ := flushed
      unfold Console.flush at reply
      split at reply
      · rename_i nothing
        cases reply
        simp only [delivered, accepted, Console.written, List.isEmpty_iff.mp nothing,
          List.nil_append]
      · split at reply <;> cases reply
        rfl

/-- Every flush of the sink succeeds, whatever is written to it before. -/
def FlushesSucceed : Sink → Prop
  | .scripted device => ∀ reply ∈ device.flushes, reply = .ok ()
  | .console terminal => terminal.outlet = .working

theorem FlushesSucceed.flush_fst {sink : Sink} (succeed : sink.FlushesSucceed)
    : sink.flush.1 = .ok () := by
  cases sink with
  | scripted device =>
      simp only [Sink.flush, ScriptedSink.flush]
      split
      · rfl
      · rename_i outcome later replies
        exact succeed outcome (replies ▸ List.mem_cons_self)
  | console terminal =>
      have working : terminal.outlet = .working := succeed
      simp only [Sink.flush, Console.flush, working]
      split <;> rfl

theorem FlushesSucceed.delivered_flush {sink : Sink} (succeed : sink.FlushesSucceed)
    : sink.flush.2.delivered = sink.accepted :=
  delivered_flush_ok (Prod.ext succeed.flush_fst rfl)

theorem FlushesSucceed.after_use {before after : Sink} (succeed : before.FlushesSucceed)
    (used : before.UsedOnce after)
    : after.FlushesSucceed := by
  cases used with
  | unused => exact succeed
  | written b =>
      cases before with
      | scripted device =>
          intro reply member
          exact succeed reply (device.flushes_write b ▸ member)
      | console terminal => exact (terminal.outlet_write b).trans succeed
  | flushed =>
      cases before with
      | scripted device =>
          intro reply member
          exact succeed reply (device.flushes_flush_subset member)
      | console terminal => exact terminal.outlet_flush.trans succeed

end Sink

/-- A console whose device has room takes every byte. -/
theorem Console.write_of_working {terminal : Console} (working : terminal.outlet = .working)
    (b : UInt8)
    : (terminal.write b).1 = .ok () := by
  unfold write
  split
  · have flushed : (terminal.hold b).flush.1 = .ok () :=
      @Sink.FlushesSucceed.flush_fst (.console (terminal.hold b)) working
    rcases reply : (terminal.hold b).flush with ⟨_ | _, later⟩
    · rw [reply] at flushed
      cases flushed
    · rfl
  · split
    · rfl
    · have flushed : terminal.flush.1 = .ok () :=
        @Sink.FlushesSucceed.flush_fst (.console terminal) working
      rcases reply : terminal.flush with ⟨_ | _, later⟩
      · rw [reply] at flushed
        cases flushed
      · rfl

end TapeMachine
