import Mathlib.Logic.Relation
import TapeMachine.Proofs.EofPolicies
import TapeMachine.Proofs.SinkUses

/-! Devices that do not get in the way. A run that neither reads nor fails to write goes the same
way whatever the input is and wherever the output goes, as long as the sink takes everything.
-/

namespace TapeMachine

-----------------------------------------------------------------------------------------
-- Sinks that take everything
-----------------------------------------------------------------------------------------

namespace Sink

/-- However the sink is used, it takes every byte, and every flush of it succeeds. -/
def AcceptsAll (sink : Sink) : Prop :=
  ∀ later, Relation.ReflTransGen UsedOnce sink later
    → (∀ b, (later.write b).1 = .ok ()) ∧ later.flush.1 = .ok ()

theorem AcceptsAll.after_use {before after : Sink} (accepts : before.AcceptsAll)
    (used : before.UsedOnce after)
    : after.AcceptsAll :=
  fun later uses => accepts later (.head used uses)

theorem AcceptsAll.write_eq {sink : Sink} (accepts : sink.AcceptsAll) (b : UInt8)
    : sink.write b = (.ok (), (sink.write b).2) :=
  Prod.ext ((accepts sink .refl).1 b) rfl

theorem AcceptsAll.flush_eq {sink : Sink} (accepts : sink.AcceptsAll)
    : sink.flush = (.ok (), sink.flush.2) :=
  Prod.ext (accepts sink .refl).2 rfl

/-- A console whose device has room takes everything, since no use of it takes the room away. -/
theorem acceptsAll_of_working {terminal : Console} (working : terminal.outlet = .working)
    : AcceptsAll (.console terminal) := by
  have still : ∀ later, Relation.ReflTransGen UsedOnce (.console terminal) later
      → ∃ other : Console, later = .console other ∧ other.outlet = .working := by
    intro later uses
    induction uses with
    | refl => exact ⟨terminal, rfl, working⟩
    | tail _ used ih =>
        obtain ⟨other, rfl, room⟩ := ih
        cases used with
        | unused => exact ⟨other, rfl, room⟩
        | written b => exact ⟨_, rfl, (other.outlet_write b).trans room⟩
        | flushed => exact ⟨_, rfl, other.outlet_flush.trans room⟩
  intro later uses
  obtain ⟨other, rfl, room⟩ := still later uses
  exact ⟨Console.write_of_working room,
    @FlushesSucceed.flush_fst (.console other) room⟩

end Sink

-----------------------------------------------------------------------------------------
-- Runs that read nothing
-----------------------------------------------------------------------------------------

namespace Machine

/-- Equipment on which every read is a fault, and equipment with an input that was left alone. Both
sinks take everything, and the second one has taken the same bytes behind those it had before.
-/
structure Undisturbed (input : Input) (taken : List UInt8) (first second : Equipment)
    : Prop where
  faults : first.eofPolicy = .fault
  ended : first.input.read.1 = .ok none
  accepts : first.output.AcceptsAll
  unread : second.input = input
  alsoAccepts : second.output.AcceptsAll
  accepted : second.output.accepted = taken ++ first.output.accepted

section Step

variable {input : Input} {taken : List UInt8} {machine : Machine} {equipment : Equipment}

theorem Undisturbed.flush {first second : Equipment} (alike : Undisturbed input taken first second)
    : Undisturbed input taken { first with output := first.output.flush.2 }
        { second with output := second.output.flush.2 } where
  faults := alike.faults
  ended := alike.ended
  accepts := alike.accepts.after_use (.flushed _)
  unread := alike.unread
  alsoAccepts := alike.alsoAccepts.after_use (.flushed _)
  accepted := by
    simp only [Sink.accepted_flush]
    exact alike.accepted

theorem Undisturbed.write {first second : Equipment} (alike : Undisturbed input taken first second)
    (b : UInt8)
    : Undisturbed input taken { first with output := (first.output.write b).2 }
        { second with output := (second.output.write b).2 } where
  faults := alike.faults
  ended := alike.ended
  accepts := alike.accepts.after_use (.written _ b)
  unread := alike.unread
  alsoAccepts := alike.alsoAccepts.after_use (.written _ b)
  accepted := by
    simp only [Sink.accepted_write_ok (alike.accepts.write_eq b),
      Sink.accepted_write_ok (alike.alsoAccepts.write_eq b), alike.accepted, List.append_assoc]

variable (alike : Undisturbed input taken machine.equipment equipment)
include alike

/-- A read would be a fault. -/
theorem Undisturbed.exhausted {cell : Nat} (reads : machine.request = .read cell)
    : machine.step.1 = .error .inputExhausted := by
  have own : machine.withEofPolicy .fault = machine := by
    rw [withEofPolicy, ← show machine.eofPolicy = .fault from alike.faults]
  have fault := (dryRead_of_ended reads alike.ended).fault
  rw [own] at fault
  exact congrArg Prod.fst fault

/-- No step but a read tells the equipment apart, by cases on what it asks for. -/
theorem Undisturbed.step (supplied : machine.step.1 ≠ .error .inputExhausted)
    : Agree (Undisturbed input taken) machine.step (machine.equippedWith equipment).step := by
  have served : SameReply machine.equipment equipment machine.tape machine.request
      ∧ Undisturbed input taken (machine.equipment.served machine.tape machine.request)
          (equipment.served machine.tape machine.request) := by
    cases asks : machine.request with
    | nothing => exact ⟨trivial, alike⟩
    | read cell => exact absurd (alike.exhausted asks) supplied
    | write cell =>
        have taken := congrArg Prod.fst (alike.accepts.write_eq (machine.tape.byte cell))
        have alsoTaken := congrArg Prod.fst (alike.alsoAccepts.write_eq (machine.tape.byte cell))
        exact ⟨alsoTaken.trans taken.symm, alike.write (machine.tape.byte cell)⟩
    | flush =>
        have flushed := congrArg Prod.fst alike.accepts.flush_eq
        have alsoFlushed := congrArg Prod.fst alike.alsoAccepts.flush_eq
        exact ⟨alsoFlushed.trans flushed.symm, alike.flush⟩
  exact agree_of_served served.1 served.2

end Step

/-- Machines are in lock step until the first one reads. -/
def undisturbed (input : Input) (taken : List UInt8) : Lockstep where
  alike := Undisturbed input taken
  excused fault := fault = .inputExhausted
  step alike binding := alike.step (fun exhausted => binding .inputExhausted exhausted rfl)
  flush alike :=
    ⟨(congrArg Prod.fst alike.alsoAccepts.flush_eq).trans
      (congrArg Prod.fst alike.accepts.flush_eq).symm, alike.flush⟩

end Machine

end TapeMachine
