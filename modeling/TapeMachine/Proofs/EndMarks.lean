import TapeMachine.Proofs.Calls

/-! A cell is marked exactly if the last thing written to it was the mark behind a loaded
program. The history of a machine is kept as a list of writes, and each call is shown to keep
the marks of the tape in step with it.
-/

namespace TapeMachine

-----------------------------------------------------------------------------------------
-- Histories of writes
-----------------------------------------------------------------------------------------

/-- Something that was written to a cell. -/
inductive Write where
  | value (cell : Nat)
  /-- The mark behind so many instructions that were loaded at an address. -/
  | sentinel (address count : Nat)
deriving DecidableEq

def Write.cell : Write → Nat
  | .value cell => cell
  | .sentinel address count => address + count

/-- The most recent write to a cell. Writes are listed in the order in which they were made. -/
def lastWrite (writes : List Write) (cell : Nat) : Option Write :=
  (writes.filter (fun write => write.cell = cell)).getLast?

namespace Machine

/-- A load writes its instructions and then its mark, or nothing if it faults. -/
def loadWrites (machine : Machine) (source : String) (address : Int) : List Write :=
  match (machine.load source address).1 with
  | .error _ => []
  | .ok _ =>
      let count := (Source.Program.ofString source).opcodes.length
      (List.range' address.toNat count).map .value ++ [.sentinel address.toNat count]

def pokeWrites (machine : Machine) (address : Int) (value : UInt8) : List Write :=
  match (machine.poke address value).1 with
  | .error _ => []
  | .ok () => [.value address.toNat]

/-- The writes since the last reset, given those before a call: a call adds its own writes, and
a reset forgets all of them.
-/
def recordCall (patience : Nat) (machine : Machine) (writes : List Write) : Call → List Write
  | .load source address => writes ++ machine.loadWrites source address
  | .poke address value => writes ++ machine.pokeWrites address value
  | .step => writes ++ machine.storedCell.toList.map .value
  | .run address => writes ++ (storedCells patience (machine.start address)).map .value
  | .runBounded address budget =>
      writes ++ (storedCells budget (machine.start address)).map .value
  | .reset => []
  | .peek _ | .isEnd _ | .dump | .size | .setEofPolicy _ => writes

/-- The writes since the last reset after calls that are answered one after the other. -/
def recordCalls (patience : Nat) (machine : Machine) (writes : List Write)
    : List Call → List Write
  | [] => writes
  | call :: calls =>
      match machine.answer patience call with
      | none => writes
      | some (_, after) =>
          after.recordCalls patience (machine.recordCall patience writes call) calls

end Machine

theorem lastWrite_append (earlier later : List Write) (cell : Nat)
    : lastWrite (earlier ++ later) cell = (lastWrite later cell).or (lastWrite earlier cell) := by
  simp only [lastWrite, List.filter_append, List.getLast?_append]

/-- Among values only, the last write to a cell is a value if the cell was written at all. -/
theorem lastWrite_values (cells : List Nat) (cell : Nat)
    : lastWrite (cells.map .value) cell = if cell ∈ cells then some (.value cell) else none := by
  induction cells with
  | nil => rfl
  | cons first rest ih =>
      have split : lastWrite ((first :: rest).map Write.value) cell
          = (lastWrite (rest.map .value) cell).or (lastWrite [.value first] cell) :=
        lastWrite_append [.value first] (rest.map .value) cell
      rw [split, ih]
      by_cases later : cell ∈ rest
      · simp [later]
      · by_cases same : first = cell
        · simp [lastWrite, Write.cell, later, same]
        · simp [lastWrite, Write.cell, later, same, Ne.symm same]

-----------------------------------------------------------------------------------------
-- Marks of a tape against a history
-----------------------------------------------------------------------------------------

/-- The marked cells of a tape are those whose last write was a mark. -/
def Recorded (writes : List Write) (tape : Tape) : Prop :=
  ∀ index,
    tape.cell index = .endMark
    ↔ ∃ address count, lastWrite writes index = some (.sentinel address count)

theorem recorded_zeros (size : Nat)
    : Recorded [] (.zeros size) := by
  intro index
  simp [lastWrite]

/-- Storing values in some cells, and leaving all others, is recorded as so many values. -/
theorem Recorded.values {writes : List Write} {tape later : Tape}
    (recorded : Recorded writes tape) (cells : List Nat)
    (stored : ∀ index ∈ cells, ∃ value, later.cell index = .data value)
    (kept : ∀ index, index ∉ cells → later.cell index = tape.cell index)
    : Recorded (writes ++ cells.map .value) later := by
  intro index
  rw [lastWrite_append, lastWrite_values]
  by_cases member : index ∈ cells
  · obtain ⟨value, held⟩ := stored index member
    simp [member, held]
  · rw [kept index member, recorded index]
    simp [member]

theorem Recorded.sentinel {writes : List Write} {tape : Tape} (recorded : Recorded writes tape)
    {address count : Nat} (inside : address + count < tape.size)
    : Recorded (writes ++ [.sentinel address count]) (tape.mark (address + count)) := by
  intro index
  rw [lastWrite_append, Tape.cell_mark]
  by_cases same : address + count = index
  · subst same
    simp [lastWrite, Write.cell, inside]
  · rw [if_neg (fun both => same both.1), recorded index]
    simp [lastWrite, Write.cell, same]

theorem Recorded.step {writes : List Write} {machine : Machine}
    (recorded : Recorded writes machine.tape)
    : Recorded (writes ++ machine.storedCell.toList.map .value) machine.step.2.tape := by
  apply recorded.values
  · intro index member
    exact Machine.cell_step_of_stored (Option.mem_toList.mp member)
  · intro index absent
    exact Machine.cell_step_of_not_stored (fun stores => absent (Option.mem_toList.mpr stores))

theorem Recorded.drive {writes : List Write} {machine : Machine}
    (recorded : Recorded writes machine.tape) (budget : Nat)
    : Recorded (writes ++ (Machine.storedCells budget machine).map .value)
        (Machine.drive budget machine).2.tape := by
  apply recorded.values
  · intro index member
    exact Machine.cell_drive_of_mem member
  · intro index absent
    exact Machine.cell_drive_of_not_mem absent

/-- A run is recorded by the cells its drive stores in; the flush behind it stores nothing. -/
theorem Recorded.runBounded {writes : List Write} {machine : Machine}
    (recorded : Recorded writes machine.tape) (address : Int) (budget : Nat)
    : Recorded (writes ++ (Machine.storedCells budget (machine.start address)).map .value)
        (machine.runBounded address budget).2.tape := by
  have started : Recorded writes (machine.start address).tape := recorded
  rw [Machine.runBounded_eq_finish, Machine.finish_snd]
  exact started.drive budget

/-- A load first stores its instructions over whatever was marked there, then it marks the
cell behind them.
-/
theorem Recorded.load {writes : List Write} {machine : Machine}
    (recorded : Recorded writes machine.tape) (source : String) (address : Int)
    : Recorded (writes ++ machine.loadWrites source address)
        (machine.load source address).2.tape := by
  unfold Machine.loadWrites
  rcases answered : machine.load source address with ⟨fault | diagnostics, loaded⟩
  · rw [Machine.load_eq_error answered]
    simpa using recorded
  · obtain ⟨start, rfl, room, rfl⟩ := Machine.load_eq_ok answered
    simp only [Int.toNat_natCast, ← List.append_assoc]
    have stored : Recorded
        (writes ++ (List.range' start (Source.Program.ofString source).opcodes.length).map .value)
        (machine.tape.storeAll start
          ((Source.Program.ofString source).opcodes.map Opcode.byte)) := by
      apply recorded.values
      · intro index member
        obtain ⟨offset, inside, rfl⟩ := List.mem_range'.mp member
        rw [Nat.one_mul]
        have found : ∃ value,
            ((Source.Program.ofString source).opcodes.map Opcode.byte)[offset]? = some value := by
          simp [inside]
        obtain ⟨value, found⟩ := found
        exact ⟨value, Tape.cell_storeAll_of_getElem? _ (by simp; omega) found⟩
      · intro index absent
        apply Tape.cell_storeAll_of_outside
        rw [List.mem_range'_1] at absent
        simp only [List.length_map]
        omega
    exact stored.sentinel (by simpa using room)

theorem Recorded.poke {writes : List Write} {machine : Machine}
    (recorded : Recorded writes machine.tape) (address : Int) (value : UInt8)
    : Recorded (writes ++ machine.pokeWrites address value)
        (machine.poke address value).2.tape := by
  unfold Machine.pokeWrites Machine.poke
  cases located : machine.tape.locate address with
  | error side => simpa using recorded
  | ok cell =>
      obtain ⟨rfl, inside⟩ := Tape.locate_eq_ok_iff.mp located
      apply recorded.values [cell]
      · intro index member
        rw [List.mem_singleton.mp member, Tape.cell_store, if_pos ⟨rfl, inside⟩]
        exact ⟨value, rfl⟩
      · intro index absent
        rw [Tape.cell_store, if_neg]
        intro same
        exact absent (List.mem_singleton.mpr same.1.symm)

-----------------------------------------------------------------------------------------
-- Whole histories of calls
-----------------------------------------------------------------------------------------

/-- Every call keeps the marks in step with the history, by cases on the call. -/
theorem Recorded.answer {writes : List Write} {machine after : Machine} {patience : Nat}
    {call : Call} {outcome : Except Fault Answer} (recorded : Recorded writes machine.tape)
    (answered : machine.answer patience call = some (outcome, after))
    : Recorded (machine.recordCall patience writes call) after.tape := by
  cases call with
  | load source address =>
      obtain ⟨_, rfl⟩ := Prod.mk.inj (Option.some.inj answered)
      exact recorded.load source address
  | step =>
      obtain ⟨_, rfl⟩ := Prod.mk.inj (Option.some.inj answered)
      exact recorded.step
  | run address =>
      obtain ⟨_, _, rfl⟩ := Machine.answer_run_eq_some_iff.mp answered
      exact recorded.runBounded address patience
  | runBounded address budget =>
      obtain ⟨_, rfl⟩ := Prod.mk.inj (Option.some.inj answered)
      exact recorded.runBounded address budget
  | poke address value =>
      obtain ⟨_, rfl⟩ := Prod.mk.inj (Option.some.inj answered)
      exact recorded.poke address value
  | reset =>
      obtain ⟨_, rfl⟩ := Prod.mk.inj (Option.some.inj answered)
      exact recorded_zeros machine.tape.size
  | peek | isEnd | dump | size | setEofPolicy =>
      obtain ⟨_, rfl⟩ := Prod.mk.inj (Option.some.inj answered)
      exact recorded

theorem Recorded.answerAll {writes : List Write} {machine after : Machine} {patience : Nat}
    {calls : List Call} {outcomes : List (Except Fault Answer)}
    (recorded : Recorded writes machine.tape)
    (answered : machine.answerAll patience calls = some (outcomes, after))
    : Recorded (machine.recordCalls patience writes calls) after.tape := by
  induction calls generalizing machine writes outcomes with
  | nil =>
      obtain ⟨_, rfl⟩ := Prod.mk.inj (Option.some.inj answered)
      exact recorded
  | cons call calls ih =>
      obtain ⟨_, reached, _, first, later, _⟩ :=
        Machine.answerAll_cons_eq_some_iff.mp answered
      simp only [Machine.recordCalls, first]
      exact ih (recorded.answer first) later

-----------------------------------------------------------------------------------------
-- Marks as they are seen from outside
-----------------------------------------------------------------------------------------

theorem lastWrite_cell {writes : List Write} {cell : Nat} {write : Write}
    (last : lastWrite writes cell = some write)
    : write.cell = cell := by
  have member := List.mem_of_getLast? last
  simpa using (List.mem_filter.mp member).2

namespace Machine

/-- No step puts a mark on a cell. -/
theorem endMark_of_step {machine : Machine} {index : Nat}
    (marked : machine.step.2.tape.cell index = .endMark)
    : machine.tape.cell index = .endMark := by
  by_cases stores : machine.storedCell = some index
  · obtain ⟨value, held⟩ := cell_step_of_stored stores
    rw [held] at marked
    cases marked
  · rwa [cell_step_of_not_stored stores] at marked

theorem isEnd_of_runBounded {machine : Machine} {address index : Int} {budget : Nat}
    (marked : (machine.runBounded address budget).2.isEnd index = true)
    : machine.isEnd index = true := by
  rw [runBounded_eq_finish, finish_snd] at marked
  obtain ⟨cell, rfl, held⟩ := Tape.isEnd_iff.mp marked
  refine Tape.isEnd_iff.mpr ⟨cell, rfl, ?_⟩
  apply drive_preserves
    (fun later => later.tape.cell cell = .endMark → machine.tape.cell cell = .endMark)
    (fun later kept held => kept (endMark_of_step held)) budget _ held
  exact fun held => held

/-- The marks of a machine with any history are exactly the marks of loads that were not
written over, they look like the greatest value, and no step or run adds one. So what stops a
machine is where its program was loaded, and no value that a program computes.
-/
theorem isEnd_iff_lastWrite_sentinel (requested : Nat) (input : Input) (output : Sink)
    (patience : Nat) (calls : List Call) {outcomes : List (Except Fault Answer)}
    {machine : Machine}
    (answered : (create requested input output).answerAll patience calls
      = some (outcomes, machine))
    : (∀ index : Int,
        machine.isEnd index = true
        ↔ ∃ address count : Nat,
            index = address + count
            ∧ lastWrite ((create requested input output).recordCalls patience [] calls)
                (address + count)
              = some (.sentinel address count))
      ∧ (∀ index : Int, machine.isEnd index = true
          → 0 ≤ index ∧ index < machine.tape.size ∧ machine.peek index = .ok 0xFF)
      ∧ (∀ index, machine.step.2.isEnd index = true → machine.isEnd index = true)
      ∧ (∀ address budget index,
          (machine.runBounded address budget).2.isEnd index = true
          → machine.isEnd index = true)
      ∧ (∀ longer address result index,
          machine.run longer address = some result
          → result.2.isEnd index = true
          → machine.isEnd index = true)
      ∧ machine.step.2.running
        = (machine.running && !machine.isEnd machine.programCounter) := by
  have recorded := (recorded_zeros (max requested Tape.minimumSize)).answerAll answered
  refine ⟨?_, ?_, ?_, ?_, ?_, machine.running_step⟩
  · intro index
    constructor
    · intro marked
      obtain ⟨cell, rfl, held⟩ := Tape.isEnd_iff.mp marked
      obtain ⟨address, count, last⟩ := (recorded cell).mp held
      have same : address + count = cell := lastWrite_cell last
      exact ⟨address, count, by omega, same ▸ last⟩
    · rintro ⟨address, count, rfl, last⟩
      exact Tape.isEnd_iff.mpr ⟨address + count, rfl, (recorded _).mpr ⟨address, count, last⟩⟩
  · intro index marked
    obtain ⟨cell, rfl, held⟩ := Tape.isEnd_iff.mp marked
    have inside := Tape.lt_size_of_endMark held
    refine ⟨Int.natCast_nonneg cell, Int.ofNat_lt.mpr inside, ?_⟩
    simp only [peek, Tape.locate_eq_ok_iff.mpr ⟨rfl, inside⟩, Tape.byte, held, Cell.byte,
      endOfProgram]
  · intro index marked
    obtain ⟨cell, rfl, held⟩ := Tape.isEnd_iff.mp marked
    exact Tape.isEnd_iff.mpr ⟨cell, rfl, endMark_of_step held⟩
  · intro address budget index marked
    exact isEnd_of_runBounded marked
  · intro longer address result index finished marked
    obtain ⟨_, rfl⟩ := run_eq_some_iff.mp finished
    exact isEnd_of_runBounded marked

/-- Loading a longer program over a shorter one moves the mark, and storing the value of a mark
makes none.
-/
theorem isEnd_iff_lastWrite_sentinel_reloaded
    : ∃ outcomes machine,
        (create 0 (.values []) (.scripted (.ofReplies [] []))).answerAll 0
            [.load "+" 10, .load "+++" 10, .poke 5 255]
          = some (outcomes, machine)
        ∧ machine.isEnd 13 = true
        ∧ machine.isEnd 11 = false
        ∧ machine.isEnd 5 = false := by
  obtain ⟨outcomes, machine, answered⟩
      : ∃ outcomes machine,
          (create 0 (.values []) (.scripted (.ofReplies [] []))).answerAll 0
              [.load "+" 10, .load "+++" 10, .poke 5 255]
            = some (outcomes, machine) :=
    ⟨_, _, rfl⟩
  have history : (create 0 (.values []) (.scripted (.ofReplies [] []))).recordCalls 0 []
        [.load "+" 10, .load "+++" 10, .poke 5 255]
      = [.value 10, .sentinel 10 1, .value 10, .value 11, .value 12, .sentinel 10 3,
          .value 5] := by
    decide +kernel
  have marks := (isEnd_iff_lastWrite_sentinel 0 _ _ 0 _ answered).1
  rw [history] at marks
  have unmarked {cell : Nat}
      (last : lastWrite [.value 10, .sentinel 10 1, .value 10, .value 11, .value 12,
        .sentinel 10 3, .value 5] cell = some (.value cell))
      : machine.isEnd cell = false := by
    rw [Bool.eq_false_iff]
    intro marked
    obtain ⟨address, count, same, sentinel⟩ := (marks cell).mp marked
    rw [show address + count = cell by omega, last] at sentinel
    cases sentinel
  exact ⟨outcomes, machine, answered, (marks 13).mpr ⟨10, 3, rfl, by decide⟩,
    unmarked (by decide), unmarked (by decide)⟩

end Machine

end TapeMachine
