import TapeMachine.Proofs.BracketScans
import TapeMachine.Proofs.Calls
import TapeMachine.Proofs.Loading
import TapeMachine.Proofs.StepEffects
import TapeMachine.Proofs.Visits

/-! The tape in two layers: the bytes that its cells hold, and beside them the set of the cells that
are marked. Every write goes to both layers. That a cell is either marked or holds a byte, so that
one layer is enough, is what all writes keep: whatever a machine is asked to do, its tape shows at
every cell what the two layers say.
-/

namespace TapeMachine

-----------------------------------------------------------------------------------------
-- Two layers
-----------------------------------------------------------------------------------------

/-- The bytes of the cells, and which cells are marked. -/
structure Layers where
  bytes : Array UInt8
  marks : Nat → Bool

namespace Layers

/-- So many cells that hold zero, none of which is marked. -/
def zeros (size : Nat) : Layers :=
  ⟨Array.replicate size 0, fun _ => false⟩

def size (layers : Layers) : Nat :=
  layers.bytes.size

def byte (layers : Layers) (index : Nat) : UInt8 :=
  layers.bytes.getD index 0

/-- Stores a byte, and takes the cell out of the marked ones. -/
def store (layers : Layers) (index : Nat) (value : UInt8) : Layers where
  bytes := layers.bytes.setIfInBounds index value
  marks other := if other = index then false else layers.marks other

/-- Stores the byte that a mark shows, and puts the cell among the marked ones. -/
def mark (layers : Layers) (index : Nat) : Layers where
  bytes := layers.bytes.setIfInBounds index endOfProgram
  marks other := if other = index then true else layers.marks other

/-- Stores bytes in consecutive cells. -/
def storeAll (layers : Layers) (start : Nat) : List UInt8 → Layers
  | [] => layers
  | value :: rest => (layers.store start value).storeAll (start + 1) rest

def storeIfAny (layers : Layers) : Option (Nat × UInt8) → Layers
  | some (index, value) => layers.store index value
  | none => layers

def locate (layers : Layers) (address : Int) : Except Side Nat :=
  if address < 0 then .error .below
  else if address.toNat < layers.size then .ok address.toNat
  else .error .above

/-- Whether an address is that of a marked cell, which is a question to the second layer alone. -/
def isEnd (layers : Layers) (address : Int) : Bool :=
  decide (0 ≤ address) && layers.marks address.toNat

/-- What the cell at an address asks for: a mark counts more than the byte below it. -/
def fetch (layers : Layers) (address : Int) : Except Fault Machine.Fetched :=
  match layers.locate address with
  | .error side => .error (.program side)
  | .ok index =>
      if layers.marks index then
        .ok .halt
      else
        match Opcode.ofByte? (layers.byte index) with
        | some op => .ok (.instruction index op)
        | none => .error (.invalidOperation (layers.byte index))

/-- The first layer alone, as a tape without marks. -/
def unmarked (layers : Layers) : Tape :=
  ⟨layers.bytes.map Cell.data⟩

/-- Marks are on the tape, and below them is the byte that they show. -/
structure Consistent (layers : Layers) : Prop where
  onTape : ∀ index, layers.marks index = true → index < layers.size
  shown : ∀ index, layers.marks index = true → layers.byte index = endOfProgram

/-- The tape shows what the layers say. -/
structure Carries (layers : Layers) (tape : Tape) : Prop where
  size : layers.size = tape.size
  byte : ∀ index, layers.byte index = tape.byte index
  marked : ∀ index, layers.marks index = (tape.cell index).isEnd

/-- The layers of a tape. -/
def ofTape (tape : Tape) : Layers :=
  ⟨tape.cells.map Cell.byte, fun index => (tape.cell index).isEnd⟩

/-- The tape of two layers, where a mark covers the byte below it. -/
def toTape (layers : Layers) : Tape :=
  ⟨layers.bytes.mapIdx fun index value => if layers.marks index then .endMark else .data value⟩

-----------------------------------------------------------------------------------------
-- Layers and tapes
-----------------------------------------------------------------------------------------

theorem byte_set (layers : Layers) (index other : Nat) (value : UInt8)
    : (layers.bytes.setIfInBounds index value).getD other 0
      = if index = other ∧ index < layers.size then value else layers.byte other :=
  Tape.getD_setIfInBounds layers.bytes index other value 0

theorem ext_of_reads {layers other : Layers} (size : other.size = layers.size)
    (bytes : ∀ index, other.byte index = layers.byte index)
    (marks : ∀ index, other.marks index = layers.marks index)
    : other = layers := by
  rcases layers with ⟨held, marked⟩
  rcases other with ⟨alsoHeld, alsoMarked⟩
  congr 1
  · exact Tape.eq_of_getD size bytes
  · exact funext marks

theorem eq_of_byte_of_isEnd {cell other : Cell} (byte : other.byte = cell.byte)
    (isEnd : other.isEnd = cell.isEnd)
    : other = cell := by
  cases cell <;> cases other <;> simp_all [Cell.byte, Cell.isEnd]

theorem carries_ofTape (tape : Tape)
    : (ofTape tape).Carries tape where
  size := Array.size_map
  byte index := by
    simp only [ofTape, Layers.byte, Tape.byte, Tape.cell, Array.getD_eq_getD_getElem?,
      Array.getElem?_map]
    cases tape.cells[index]? <;> rfl
  marked _ := rfl

theorem cell_toTape (layers : Layers) {index : Nat} (inside : index < layers.size)
    : layers.toTape.cell index
      = if layers.marks index then .endMark else .data (layers.byte index) := by
  simp only [toTape, Tape.cell, byte, Array.getD_eq_getD_getElem?, Array.getElem?_mapIdx,
    Array.getElem?_eq_getElem (show index < layers.bytes.size from inside), Option.map_some,
    Option.getD_some]

theorem size_toTape (layers : Layers)
    : layers.toTape.size = layers.size :=
  Array.size_mapIdx

theorem byte_of_size_le {layers : Layers} {index : Nat} (outside : layers.size ≤ index)
    : layers.byte index = 0 := by
  simp only [byte, Array.getD_eq_getD_getElem?, Array.getElem?_eq_none outside, Option.getD_none]

/-- Consistent layers lose nothing when they become one. -/
theorem Consistent.carries_toTape {layers : Layers} (consistent : layers.Consistent)
    : layers.Carries layers.toTape where
  size := layers.size_toTape.symm
  byte index := by
    by_cases inside : index < layers.size
    · rw [Tape.byte, layers.cell_toTape inside]
      cases marked : layers.marks index with
      | false => rfl
      | true => exact consistent.shown index marked
    · have outside := Nat.not_lt.mp inside
      rw [byte_of_size_le outside, Tape.byte,
        Tape.cell_of_size_le (layers.size_toTape ▸ outside)]
      rfl
  marked index := by
    by_cases inside : index < layers.size
    · rw [layers.cell_toTape inside]
      cases layers.marks index <;> rfl
    · rw [Tape.cell_of_size_le (layers.size_toTape ▸ Nat.not_lt.mp inside)]
      exact Bool.eq_false_iff.mpr fun marked => inside (consistent.onTape index marked)

namespace Carries

variable {layers : Layers} {tape : Tape} (carries : layers.Carries tape)
include carries

theorem consistent
    : layers.Consistent := by
  have endMark {index : Nat} (marked : layers.marks index = true)
      : tape.cell index = .endMark := by
    rw [carries.marked] at marked
    cases held : tape.cell index with
    | data value => simp [held, Cell.isEnd] at marked
    | endMark => rfl
  constructor <;> intro index marked
  · rw [carries.size]
    exact Tape.lt_size_of_endMark (endMark marked)
  · rw [carries.byte, Tape.byte, endMark marked]
    rfl

/-- The layers determine the tape, and the tape determines the layers. -/
theorem unique {other : Layers} {alsoTape : Tape} (also : other.Carries alsoTape)
    : other = layers ↔ alsoTape = tape := by
  constructor
  · rintro rfl
    apply Tape.eq_of_cells (also.size.symm.trans carries.size)
    intro index
    exact eq_of_byte_of_isEnd ((also.byte index).symm.trans (carries.byte index))
      ((also.marked index).symm.trans (carries.marked index))
  · rintro rfl
    apply ext_of_reads (also.size.trans carries.size.symm)
    · exact fun index => (also.byte index).trans (carries.byte index).symm
    · exact fun index => (also.marked index).trans (carries.marked index).symm

theorem bytes
    : layers.bytes.toList = tape.bytes := by
  rw [((carries_ofTape tape).unique carries).mpr rfl]
  exact Array.toList_map

-----------------------------------------------------------------------------------------
-- Reads
-----------------------------------------------------------------------------------------

theorem locate (address : Int)
    : layers.locate address = tape.locate address := by
  simp only [Layers.locate, Tape.locate, carries.size]

theorem isEnd (address : Int)
    : layers.isEnd address = tape.isEnd address := by
  unfold Layers.isEnd Tape.isEnd Tape.locate
  by_cases below : address < 0
  · rw [if_pos below, decide_eq_false (by omega), Bool.false_and]
  · rw [if_neg below, decide_eq_true (by omega), Bool.true_and, carries.marked]
    by_cases inside : address.toNat < tape.size
    · rw [if_pos inside]
    · rw [if_neg inside, Tape.cell_of_size_le (Nat.not_lt.mp inside)]
      rfl

/-- Brackets are looked for in the first layer alone. -/
theorem brackets (index : Nat)
    : layers.unmarked.matchingEnd index = tape.matchingEnd index
      ∧ layers.unmarked.matchingStart index = tape.matchingStart index := by
  have size : layers.unmarked.size = tape.size := Array.size_map.trans carries.size
  have same (index : Nat) : layers.unmarked.byte index = tape.byte index := by
    rw [← carries.byte]
    simp only [unmarked, Tape.byte, Tape.cell, Layers.byte, Array.getD_eq_getD_getElem?,
      Array.getElem?_map]
    cases layers.bytes[index]? <;> rfl
  simp only [Tape.matchingEnd, Tape.matchingStart, size, Tape.closingFrom_congr same,
    Tape.openingBelow_congr same, and_self]

-----------------------------------------------------------------------------------------
-- Writes
-----------------------------------------------------------------------------------------

theorem store (index : Nat) (value : UInt8)
    : (layers.store index value).Carries (tape.store index value) where
  size := by
    rw [Tape.size_store]
    exact Array.size_setIfInBounds.trans carries.size
  byte other := by
    rw [Layers.store, Layers.byte, byte_set, Tape.byte, Tape.cell_store, carries.size]
    split
    · rfl
    · exact carries.byte other
  marked other := by
    simp only [Layers.store, Tape.cell_store]
    by_cases same : other = index
    · subst same
      rw [if_pos rfl]
      by_cases inside : other < tape.size
      · rw [if_pos ⟨rfl, inside⟩]
        rfl
      · rw [if_neg (fun both => inside both.2), Tape.cell_of_size_le (Nat.not_lt.mp inside)]
        rfl
    · rw [if_neg same, if_neg (fun both => same both.1.symm), carries.marked]

theorem mark {index : Nat} (inside : index < tape.size)
    : (layers.mark index).Carries (tape.mark index) where
  size := by
    rw [Tape.size_mark]
    exact Array.size_setIfInBounds.trans carries.size
  byte other := by
    rw [Layers.mark, Layers.byte, byte_set, Tape.byte, Tape.cell_mark, carries.size]
    split
    · rfl
    · exact carries.byte other
  marked other := by
    simp only [Layers.mark, Tape.cell_mark]
    by_cases same : other = index
    · subst same
      rw [if_pos rfl, if_pos ⟨rfl, inside⟩]
      rfl
    · rw [if_neg same, if_neg (fun both => same both.1.symm), carries.marked]

/-- Storing one byte after the other, by induction on their number. -/
theorem storeAll (start : Nat) (values : List UInt8)
    : (layers.storeAll start values).Carries (tape.storeAll start values) := by
  induction values generalizing layers tape start with
  | nil => exact carries
  | cons value rest ih => exact ih (carries.store start value) (start + 1)

theorem storeIfAny (stored : Option (Nat × UInt8))
    : (layers.storeIfAny stored).Carries (tape.storeIfAny stored) := by
  cases stored with
  | none => exact carries
  | some store => exact carries.store store.1 store.2

end Carries

theorem carries_zeros (size : Nat)
    : (zeros size).Carries (.zeros size) where
  size := by simp [zeros, Layers.size]
  byte index := by
    simp only [zeros, Layers.byte, Tape.byte, Tape.cell_zeros, Cell.byte,
      Array.getD_eq_getD_getElem?, Array.getElem?_replicate]
    split <;> rfl
  marked index := by
    rw [Tape.cell_zeros]
    rfl

theorem Carries.fetch {layers : Layers} {machine : Machine}
    (carries : layers.Carries machine.tape)
    : layers.fetch machine.programCounter = machine.fetch := by
  unfold Layers.fetch Machine.fetch
  rw [carries.locate]
  cases machine.tape.locate machine.programCounter with
  | error side => rfl
  | ok index =>
      simp only [carries.marked, carries.byte, Tape.byte]
      cases machine.tape.cell index <;> rfl

-----------------------------------------------------------------------------------------
-- Histories
-----------------------------------------------------------------------------------------

/-- The layers after what the steps of some machines have stored. -/
def afterSteps (layers : Layers) (visited : List Machine) : Layers :=
  visited.foldl (fun layers machine => layers.storeIfAny machine.upcomingStore) layers

/-- The layers after a call: a load and a poke write to both of them, a reset clears both, and a
step or a run stores what its steps store.
-/
def afterCall (patience : Nat) (machine : Machine) (layers : Layers) : Call → Layers
  | .load source address =>
      let opcodes := (Source.Program.ofString source).opcodes
      match layers.locate address, layers.locate (address + opcodes.length) with
      | .ok start, .ok finish => (layers.storeAll start (opcodes.map Opcode.byte)).mark finish
      | _, _ => layers
  | .poke address value =>
      match layers.locate address with
      | .ok index => layers.store index value
      | .error _ => layers
  | .reset => zeros layers.size
  | .step => layers.afterSteps (machine.visitedBy patience .step)
  | .run address => layers.afterSteps (machine.visitedBy patience (.run address))
  | .runBounded address budget =>
      layers.afterSteps (machine.visitedBy patience (.runBounded address budget))
  | .peek _ | .isEnd _ | .dump | .size | .setEofPolicy _ => layers

/-- The layers after calls that are answered one after the other. -/
def afterCalls (patience : Nat) (machine : Machine) (layers : Layers) : List Call → Layers
  | [] => layers
  | call :: calls =>
      match machine.answer patience call with
      | none => layers
      | some (_, after) =>
          (layers.afterCall patience machine call).afterCalls patience after calls

namespace Carries

variable {layers : Layers} {machine : Machine} (carries : layers.Carries machine.tape)
include carries

theorem step
    : (layers.afterSteps [machine]).Carries machine.step.2.tape := by
  rw [machine.tape_step]
  exact carries.storeIfAny machine.upcomingStore

/-- Both layers follow a drive, by induction on its steps. -/
theorem drive (budget : Nat)
    : (layers.afterSteps (machine.visited budget)).Carries (machine.drive budget).2.tape := by
  induction budget generalizing layers machine with
  | zero => exact carries
  | succ budget ih =>
      cases running : machine.running with
      | false =>
          rw [Machine.visited_of_not_running running, Machine.drive_of_not_running running]
          exact carries
      | true =>
          have stored := carries.step
          rcases stepped : machine.step with ⟨fault | _, after⟩ <;> rw [stepped] at stored
          · rw [Machine.visited_succ_of_error running stepped,
              Machine.drive_succ_of_error running stepped]
            exact stored
          · rw [Machine.visited_succ_of_ok running stepped,
              Machine.drive_succ_of_ok running stepped]
            exact ih stored

theorem runBounded (address : Int) (budget : Nat)
    : (layers.afterSteps ((machine.start address).visited budget)).Carries
        (machine.runBounded address budget).2.tape := by
  have started : layers.Carries (machine.start address).tape := carries
  rw [Machine.runBounded_eq_finish, Machine.finish_snd]
  exact started.drive budget

/-- A load checks both ends of its window in the first layer before it writes to any. -/
theorem load (patience : Nat) (source : String) (address : Int)
    : (layers.afterCall patience machine (.load source address)).Carries
        (machine.load source address).2.tape := by
  simp only [afterCall, Machine.load, carries.locate]
  cases machine.tape.locate address with
  | error side => exact carries
  | ok start =>
      cases located : machine.tape.locate
          (address + (Source.Program.ofString source).opcodes.length) with
      | error side => exact carries
      | ok finish =>
          apply (carries.storeAll start _).mark
          rw [Tape.size_storeAll]
          exact (Tape.locate_eq_ok_iff.mp located).2

theorem poke (patience : Nat) (address : Int) (value : UInt8)
    : (layers.afterCall patience machine (.poke address value)).Carries
        (machine.poke address value).2.tape := by
  simp only [afterCall, Machine.poke, carries.locate]
  cases machine.tape.locate address with
  | error side => exact carries
  | ok index => exact carries.store index value

/-- Both layers follow every call, by cases on the call. -/
theorem answer {after : Machine} {patience : Nat} {call : Call} {outcome : Except Fault Answer}
    (answered : machine.answer patience call = some (outcome, after))
    : (layers.afterCall patience machine call).Carries after.tape := by
  cases call with
  | load source address =>
      obtain ⟨_, rfl⟩ := Prod.mk.inj (Option.some.inj answered)
      exact carries.load patience source address
  | step =>
      obtain ⟨_, rfl⟩ := Prod.mk.inj (Option.some.inj answered)
      exact carries.step
  | run address =>
      obtain ⟨_, _, rfl⟩ := Machine.answer_run_eq_some_iff.mp answered
      exact carries.runBounded address patience
  | runBounded address budget =>
      obtain ⟨_, rfl⟩ := Prod.mk.inj (Option.some.inj answered)
      exact carries.runBounded address budget
  | poke address value =>
      obtain ⟨_, rfl⟩ := Prod.mk.inj (Option.some.inj answered)
      exact carries.poke patience address value
  | reset =>
      obtain ⟨_, rfl⟩ := Prod.mk.inj (Option.some.inj answered)
      rw [afterCall, carries.size]
      exact carries_zeros machine.tape.size
  | peek | isEnd | dump | size | setEofPolicy =>
      obtain ⟨_, rfl⟩ := Prod.mk.inj (Option.some.inj answered)
      exact carries

/-- Both layers follow a whole history of calls, by induction on the calls. -/
theorem answerAll {after : Machine} {patience : Nat} {calls : List Call}
    {outcomes : List (Except Fault Answer)}
    (answered : machine.answerAll patience calls = some (outcomes, after))
    : (layers.afterCalls patience machine calls).Carries after.tape := by
  induction calls generalizing machine layers outcomes with
  | nil =>
      obtain ⟨_, rfl⟩ := Prod.mk.inj (Option.some.inj answered)
      exact carries
  | cons call calls ih =>
      obtain ⟨_, reached, _, first, later, _⟩ :=
        Machine.answerAll_cons_eq_some_iff.mp answered
      simp only [afterCalls, first]
      exact ih (carries.answer first) later

end Carries

/-- Layers are those of a tape exactly if their marks stand on the tape and show their byte. -/
theorem consistent_iff {layers : Layers}
    : layers.Consistent ↔ ∃ tape, layers.Carries tape := by
  constructor
  · intro consistent
    exact ⟨layers.toTape, consistent.carries_toTape⟩
  · rintro ⟨tape, carries⟩
    exact carries.consistent

/-- After any history of calls, the bytes and the marks that all the writes have left in two
separate layers are those that the one layer of cells shows: at every address there is the same
byte, the same mark and the same instruction to be fetched, and loops have the same ends.
-/
theorem layers_show_history (requested : Nat) (input : Input) (output : Sink) (patience : Nat)
    (calls : List Call) {outcomes : List (Except Fault Answer)} {machine : Machine}
    (answered : (Machine.create requested input output).answerAll patience calls
      = some (outcomes, machine))
    : ∃ layers,
        layers
          = (zeros (max requested Tape.minimumSize)).afterCalls patience
              (Machine.create requested input output) calls
        ∧ layers.Consistent
        ∧ layers.bytes.toList = machine.tape.bytes
        ∧ (∀ address, layers.isEnd address = machine.isEnd address)
        ∧ (∀ address, layers.fetch address = (machine.start address).fetch)
        ∧ ∀ index,
            layers.unmarked.matchingEnd index = machine.tape.matchingEnd index
            ∧ layers.unmarked.matchingStart index = machine.tape.matchingStart index := by
  have blank : (zeros (max requested Tape.minimumSize)).Carries
      (Machine.create requested input output).tape :=
    carries_zeros _
  have carries := blank.answerAll answered
  refine ⟨_, rfl, carries.consistent, carries.bytes, carries.isEnd, ?_, carries.brackets⟩
  intro address
  have started : Carries _ (machine.start address).tape := carries
  exact started.fetch

end Layers

end TapeMachine
