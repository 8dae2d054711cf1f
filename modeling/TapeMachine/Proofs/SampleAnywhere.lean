import TapeMachine.Proofs.SampleRuns
import TapeMachine.Proofs.Structured.LevelLoops
import TapeMachine.Proofs.TapeLength
import TapeMachine.Proofs.WillingDevices

/-! The sample behind the cells that it computes with. It prints its greeting on a tape that is just
long enough, with nothing to read. A longer tape, another place and other devices are no different
to it, so it prints its greeting from everywhere, in as many steps.
-/

namespace TapeMachine

-----------------------------------------------------------------------------------------
-- What a run executes and where it stores
-----------------------------------------------------------------------------------------

namespace Machine

/-- Every store of a drive is in its trace, by induction on the steps. -/
theorem exists_of_mem_storedCells {budget cell : Nat} {machine : Machine}
    (stored : cell ∈ storedCells budget machine)
    : ∃ executed ∈ executions budget machine,
        ¬ IsMove executed.op ∧ executed.dataPointer = cell := by
  fun_induction drive budget machine with
  | case1 machine => cases stored
  | case2 budget machine running after stepped ih =>
      rw [storedCells_succ_of_ok running stepped] at stored
      rw [executions_succ_of_ok running stepped]
      rcases List.mem_append.mp stored with now | later
      · obtain ⟨executed, upcoming, fact⟩ := upcoming_of_storedCell (Option.mem_toList.mp now)
        exact ⟨executed, List.mem_append_left _ (Option.mem_toList.mpr upcoming), fact⟩
      · obtain ⟨executed, member, fact⟩ := ih later
        exact ⟨executed, List.mem_append_right _ member, fact⟩
  | case3 budget machine running fault after stepped =>
      rw [storedCells_succ_of_error running stepped] at stored
      rw [executions_succ_of_error running stepped]
      obtain ⟨executed, upcoming, fact⟩ := upcoming_of_storedCell (Option.mem_toList.mp stored)
      exact ⟨executed, Option.mem_toList.mpr upcoming, fact⟩
  | case4 budget machine stopped =>
      rw [storedCells_of_not_running (Bool.not_eq_true _ ▸ stopped)] at stored
      cases stored

end Machine

namespace Structured

open Machine (Executed IsMove drive storedCells executions)

-----------------------------------------------------------------------------------------
-- Where the sample computes
-----------------------------------------------------------------------------------------

/-- The instruction is a move, or the data pointer is at one of the first five cells. -/
def StaysInFront (executed : Executed) : Prop :=
  IsMove executed.op ∨ executed.dataPointer < 5

theorem lt_of_staysInFront {count cell : Nat} {machine : Machine}
    (stays : ∀ executed ∈ executions count machine, StaysInFront executed)
    (stored : cell ∈ storedCells count machine)
    : cell < 5 := by
  obtain ⟨executed, member, other, here⟩ := Machine.exists_of_mem_storedCells stored
  have front := (stays executed member).resolve_left other
  omega

theorem isLevel_sample : sample.isLevel = true := by
  decide +kernel

theorem pointerAt_sample {offset : Nat} {op : Opcode}
    (held : sample.opcodes[offset]? = some op)
    : IsMove op ∨ sample.pointerAt offset < 5 := by
  have each : ∀ place : Fin sample.opcodes.length,
      IsMove (sample.opcodes.get place) ∨ sample.pointerAt place < 5 := by
    decide +kernel
  obtain ⟨inside, rfl⟩ := List.getElem?_eq_some_iff.mp held
  exact each ⟨offset, inside⟩

section Loaded

variable {machine loaded : Machine} {start : Nat} {diagnostics : List Source.Diagnostic}
  (loads : machine.load helloWorld start = (.ok diagnostics, loaded))
  (pointer : machine.dataPointer = 0) (behind : 5 ≤ start)
include loads pointer behind

/-- Behind the five cells, the sample executes nothing but moves elsewhere than on them. Its loop is
level, so this can be seen from its text.
-/
theorem staysInFront_of_load (count : Nat)
    : ∀ executed ∈ executions count (loaded.start start), StaysInFront executed := by
  intro executed member
  have tracked := tracked_of_load opcodes_helloWorld loads pointer
  have front : ∀ offset op, sample.opcodes[offset]? = some op
      → IsMove op ∨ sample.pointerAt offset < start := by
    intro offset op held
    exact (pointerAt_sample held).imp_right (fun low => by omega)
  obtain ⟨offset, held, here⟩ := tracked.trace isLevel_sample front executed member
  rw [StaysInFront, here]
  exact pointerAt_sample held

/-- So it stays as it was loaded, and halts behind itself if it halts. -/
theorem programCounter_of_halted {count : Nat}
    (halts : (drive count (loaded.start start)).1 = .ok .halted)
    : (drive count (loaded.start start)).2.programCounter
      = start + sample.opcodes.length + 1 := by
  have within := (tracked_of_load opcodes_helloWorld loads pointer).within
  have outside : Outside start (start + sample.opcodes.length : Nat)
      (storedCells count (loaded.start start)) := by
    intro cell stored
    have low := lt_of_staysInFront (staysInFront_of_load loads pointer behind count) stored
    omega
  obtain limit | ⟨_, counter⟩ | ⟨fault, failed, _⟩ := within.ending outside rfl
  · cases limit.symm.trans halts
  · exact counter
  · cases failed.symm.trans halts

end Loaded

-----------------------------------------------------------------------------------------
-- Other tapes and other places
-----------------------------------------------------------------------------------------

/-- A new machine on which every read is a fault, at a console. -/
def dry (size : Nat) : Machine :=
  { Machine.create 0 (.values []) (.console (.ofOutlet .working)) with
    tape := .zeros size
    eofPolicy := .fault }

/-- Driven patiently enough, the machine prints the greeting in so many steps. -/
structure Greets (patience steps : Nat) (machine : Machine) : Prop where
  halts : (drive patience machine).1 = .ok .halted
  taken : (drive patience machine).2.steps = steps
  accepted : (drive patience machine).2.output.accepted = Text.encode "Hello World!\n"

theorem greets_of_run {patience : Nat} {machine after : Machine} {address : Int}
    (answered : machine.run patience address = some (.ok .halted, after))
    (accepted : after.output.accepted = Text.encode "Hello World!\n")
    : ∃ steps, Greets patience steps (machine.start address) := by
  obtain ⟨_, ran⟩ := Machine.run_eq_some_iff.mp answered
  rw [Machine.runBounded_eq_finish] at ran
  have written := Machine.accepted_finish (drive patience (machine.start address)).1
    (drive patience (machine.start address)).2
  rw [ran] at written
  have halts := (Machine.finish_eq_ok_iff.mp (congrArg Prod.fst ran)).1
  exact ⟨_, halts, rfl, written.symm.trans accepted⟩

theorem Greets.onTape {patience steps : Nat} {machine : Machine} {wide : Tape}
    (greets : Greets patience steps machine) (wider : machine.tape.Wider wide)
    : Greets patience steps (machine.onTape wide) := by
  have fits : Machine.Fits (drive patience machine).1 := by
    rw [greets.halts]
    simp [Machine.Fits]
  obtain ⟨_, _, driven⟩ := Machine.follows_drive wider fits
  obtain ⟨halts, taken, accepted⟩ := greets
  constructor <;> rw [driven]
  · exact halts
  · exact taken
  · exact accepted

/-- Right behind the five cells the sample greets, on a tape that ends with its mark and therefore
on every tape that it fits on.
-/
theorem greets_at_home
    : ∃ patience steps, ∀ {size : Nat} {loaded : Machine} {diagnostics : List Source.Diagnostic},
        (dry size).load helloWorld (5 : Nat) = (.ok diagnostics, loaded)
        → Greets patience steps (loaded.start (5 : Nat)) := by
  have fits : 5 + (Source.Program.ofString helloWorld).opcodes.length
      < (dry (5 + sample.opcodes.length + 1)).tape.size := by
    rw [opcodes_helloWorld, dry, Tape.size_zeros]
    exact Nat.lt_succ_self _
  obtain ⟨_, narrow, narrowLoads⟩ := Machine.load_of_room fits
  obtain ⟨patience, after, answered, accepted⟩ :=
    run_sample_on_zeros narrowLoads (Nat.le_refl 5) rfl rfl rfl
  obtain ⟨steps, greets⟩ := greets_of_run answered accepted
  refine ⟨patience, steps, fun {size loaded _} loads => ?_⟩
  obtain ⟨_, _, room, _⟩ := Machine.load_eq_ok loads
  have wider : (dry (5 + sample.opcodes.length + 1)).tape.Wider (.zeros size) := by
    apply Tape.wider_zeros
    rw [opcodes_helloWorld, dry, Tape.size_zeros] at room
    omega
  have loadFits : Machine.Fits
      ((dry (5 + sample.opcodes.length + 1)).load helloWorld (5 : Nat)).1 := by
    rw [narrowLoads]
    simp [Machine.Fits]
  obtain ⟨tape, wider', same⟩ := Machine.follows_load wider loadFits
  rw [narrowLoads] at wider' same
  obtain rfl := congrArg Prod.snd (loads.symm.trans same)
  exact greets.onTape wider'

/-- At another address everything goes as at home, since the sample computes with cells that belong
to neither place.
-/
theorem greets_anywhere
    : ∃ patience steps, ∀ {size start : Nat} {loaded : Machine}
        {diagnostics : List Source.Diagnostic},
        5 ≤ start
        → (dry size).load helloWorld start = (.ok diagnostics, loaded)
        → Greets patience steps (loaded.start start) := by
  obtain ⟨patience, steps, atHome⟩ := greets_at_home
  refine ⟨patience, steps, fun {size start loaded _} behind loads => ?_⟩
  have homeRoom : 5 + (Source.Program.ofString helloWorld).opcodes.length
      < (dry size).tape.size := by
    obtain ⟨_, same, room, _⟩ := Machine.load_eq_ok loads
    omega
  obtain ⟨_, home, homeLoads⟩ := Machine.load_of_room homeRoom
  obtain ⟨halts, taken, accepted⟩ := atHome homeLoads
  obtain ⟨_, _, first, second, within, twins⟩ :=
    twins_of_loads opcodes_helloWorld opcodes_helloWorld homeLoads loads
  obtain rfl := Int.ofNat.inj first
  obtain rfl := Int.ofNat.inj second
  have apart : ∀ executed ∈ executions patience (home.start (5 : Nat)),
      StaysApart sample 5 start executed := by
    intro executed member
    have stays := staysInFront_of_load homeLoads rfl (Nat.le_refl 5) patience executed member
    refine stays.imp_right (fun front => ⟨.inl front, .inl ?_⟩)
    omega
  obtain ⟨outcome, next⟩ := twins.after_drive within apart
  refine ⟨outcome.trans halts, ?_, ?_⟩ <;> rw [next.moved]
  · exact taken
  · exact accepted

-----------------------------------------------------------------------------------------
-- Other devices
-----------------------------------------------------------------------------------------

theorem length_helloWorld : sample.opcodes.length = helloWorld.length := by
  decide +kernel

theorem diagnostics_helloWorld : (Source.Program.ofString helloWorld).diagnostics = [] := by
  decide +kernel

/-- With an input that can be anything and a sink that takes everything, the machine runs as the one
without input does.
-/
theorem Greets.run_equippedWith {patience steps start : Nat} {loaded : Machine} {input : Input}
    {taken : List UInt8} {equipment : Machine.Equipment}
    (greets : Greets patience steps (loaded.start start))
    (alike : Machine.Undisturbed input taken loaded.equipment equipment)
    : ∃ later,
        later.input = input
        ∧ later.output.accepted = taken ++ Text.encode "Hello World!\n"
        ∧ later.output.delivered = taken ++ Text.encode "Hello World!\n"
        ∧ (loaded.equippedWith equipment).run patience start
          = some (.ok .halted, (drive patience (loaded.start start)).2.equippedWith later) := by
  have binding : Machine.Binding (Machine.undisturbed input taken).excused
      (drive patience (loaded.start start)).1 := by
    rw [greets.halts]
    exact Machine.binding_ok _ _
  obtain ⟨reached, still, driven⟩ := @Machine.Lockstep.drive (Machine.undisturbed input taken)
    (loaded.start start) equipment patience alike binding
  have written : reached.output.accepted = taken ++ Text.encode "Hello World!\n" :=
    still.accepted.trans (congrArg (taken ++ ·) greets.accepted)
  have flushed := still.alsoAccepts.flush_eq
  refine ⟨{ reached with output := reached.output.flush.2 }, still.unread,
    reached.output.accepted_flush.trans written, (Sink.delivered_flush_ok flushed).trans written,
    ?_⟩
  have started : (loaded.equippedWith equipment).start start
      = (loaded.start start).equippedWith equipment := rfl
  rw [Machine.run_eq_some_iff, Machine.runBounded_eq_finish, started, driven, greets.halts]
  refine ⟨nofun, Prod.ext (Machine.finish_of_flushed ?_) (Machine.finish_snd _ _)⟩
  exact congrArg Prod.fst flushed

/-- Loaded behind the five cells that it computes with, the sample prints its greeting on a new
machine of every size, whatever the input is, if the sink takes everything. It leaves no trace but
in those cells, reads nothing, and always takes as many steps.
-/
theorem sample_greets_anywhere
    : ∃ patience steps, ∀ (requested : Nat) (policy : EofPolicy) (input : Input) {sink : Sink},
        sink.AcceptsAll
        → ∀ {address : Int},
          5 ≤ address
          → address + helloWorld.length < (max requested Tape.minimumSize : Nat)
          → ∃ loaded after,
            ((Machine.create requested input sink).withEofPolicy policy).load helloWorld address
              = (.ok [], loaded)
            ∧ loaded.run patience address = some (.ok .halted, after)
            ∧ after.output.accepted = sink.accepted ++ Text.encode "Hello World!\n"
            ∧ after.output.delivered = sink.accepted ++ Text.encode "Hello World!\n"
            ∧ after.programCounter = address + helloWorld.length + 1
            ∧ (∀ index : Nat,
                5 ≤ index
                → (index : Int) < address ∨ address + helloWorld.length < index
                → after.tape.cell index = .data 0)
            ∧ (∀ index : Nat,
                address ≤ index
                → (index : Int) ≤ address + helloWorld.length
                → after.tape.cell index = loaded.tape.cell index)
            ∧ after.input = input
            ∧ after.steps = steps := by
  obtain ⟨patience, steps, greetsFrom⟩ := greets_anywhere
  refine ⟨patience, steps, fun requested policy input {sink} accepts {address} behind room => ?_⟩
  obtain ⟨start, rfl⟩ : ∃ start : Nat, address = start := ⟨address.toNat, by omega⟩
  have length : (Source.Program.ofString helloWorld).opcodes.length = helloWorld.length := by
    rw [opcodes_helloWorld, length_helloWorld]
  have fits : start + (Source.Program.ofString helloWorld).opcodes.length
      < (dry (max requested Tape.minimumSize)).tape.size := by
    rw [length, dry, Tape.size_zeros]
    omega
  obtain ⟨loaded, loads⟩ : ∃ loaded,
      (dry (max requested Tape.minimumSize)).load helloWorld start = (.ok [], loaded) :=
    ⟨_, diagnostics_helloWorld ▸ Machine.load_eq_of_room fits⟩
  have greets := greetsFrom (by omega) loads
  have unchanged : ∀ index, 5 ≤ index
      → (drive patience (loaded.start start)).2.tape.cell index = loaded.tape.cell index := by
    intro index above
    apply Machine.cell_drive_of_not_mem
    intro stored
    have low := lt_of_staysInFront (staysInFront_of_load loads rfl (by omega) patience) stored
    omega
  obtain ⟨kept, alsoLoads⟩ := (dry (max requested Tape.minimumSize)).load_equippedWith helloWorld
    start ⟨policy, input, sink⟩
  rw [loads] at kept alsoLoads
  have alike : Machine.Undisturbed input sink.accepted loaded.equipment ⟨policy, input, sink⟩ := by
    rw [kept]
    exact ⟨rfl, rfl, Sink.acceptsAll_of_working rfl, rfl, accepts, (List.append_nil _).symm⟩
  obtain ⟨later, unread, accepted, delivered, runs⟩ := greets.run_equippedWith alike
  refine ⟨_, _, alsoLoads, runs, accepted, delivered, ?_, ?_, ?_, unread, greets.taken⟩
  · have counter := programCounter_of_halted loads rfl (by omega) greets.halts
    rwa [length_helloWorld] at counter
  · intro index above outside
    have blank := Machine.cell_load_of_outside loads (length ▸ outside)
    exact (unchanged index above).trans (blank.trans (Tape.cell_zeros _ _))
  · intro index above _
    exact unchanged index (by omega)

/-- The first and the last address behind the five cells of a tape of the least size. -/
theorem sample_greets_anywhere_first_and_last
    : ∃ patience steps, ∀ address ∈ [5, 29888], ∃ loaded after,
        (Machine.create 0 (.values [.ok (some 7)]) (.console (.ofOutlet .working))).load helloWorld
            address
          = (.ok [], loaded)
        ∧ loaded.run patience address = some (.ok .halted, after)
        ∧ after.output.delivered = Text.encode "Hello World!\n"
        ∧ after.programCounter = address + 112
        ∧ after.input = .values [.ok (some 7)]
        ∧ after.steps = steps := by
  obtain ⟨patience, steps, greets⟩ := sample_greets_anywhere
  refine ⟨patience, steps, fun address member => ?_⟩
  have length : helloWorld.length = 111 := by
    rw [← length_helloWorld]
    decide
  have size : max 0 Tape.minimumSize = 30000 := by decide
  have inside : 5 ≤ address ∧ address + helloWorld.length < (max 0 Tape.minimumSize : Nat) := by
    simp only [List.mem_cons, List.not_mem_nil, or_false] at member
    omega
  obtain ⟨loaded, after, loads, runs, _, delivered, counter, _, _, unread, taken⟩ :=
    greets 0 .zero (.values [.ok (some 7)])
      (@Sink.acceptsAll_of_working (.ofOutlet .working) rfl) inside.1 inside.2
  exact ⟨loaded, after, loads, runs, delivered, by omega, unread, taken⟩

end Structured

end TapeMachine
