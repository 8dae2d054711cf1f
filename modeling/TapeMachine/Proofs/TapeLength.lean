import TapeMachine.Proofs.WiderTape

/-! Machines whose tapes differ in length only are in lock step until the one with the shorter
tape overflows.
-/

namespace TapeMachine.Machine

/-- The same machine on another tape. -/
def onTape (machine : Machine) (tape : Tape) : Machine :=
  { machine with tape := tape }

/-- No pointer has run past the end of the tape. -/
def Fits {α : Type} (outcome : Except Fault α) : Prop :=
  outcome ≠ .error (.memory .above) ∧ outcome ≠ .error (.program .above)

/-- The second outcome is the first one, and so is its machine but for a wider tape. -/
def Follows {α : Type} (narrow wide : α × Machine) : Prop :=
  ∃ tape, narrow.2.tape.Wider tape ∧ wide = (narrow.1, narrow.2.onTape tape)

theorem ne_above_of_memory {α : Type} {side : Side}
    (fits : Fits (.error (.memory side) : Except Fault α))
    : side ≠ .above := by
  rintro rfl
  exact fits.1 rfl

theorem ne_above_of_program {α : Type} {side : Side}
    (fits : Fits (.error (.program side) : Except Fault α))
    : side ≠ .above := by
  rintro rfl
  exact fits.2 rfl

-----------------------------------------------------------------------------------------
-- One step
-----------------------------------------------------------------------------------------

section Step

variable {machine : Machine} {wide : Tape} (wider : machine.tape.Wider wide)
include wider

theorem follows_writeCell (cell : Nat)
    : Follows (machine.writeCell cell) ((machine.onTape wide).writeCell cell) := by
  refine ⟨wide, ?_, ?_⟩
  · unfold writeCell
    split <;> exact wider
  · simp only [writeCell, onTape, wider.byte]
    split <;> rfl

theorem follows_readCell {cell : Nat} (inside : cell < machine.tape.size)
    : Follows (machine.readCell cell) ((machine.onTape wide).readCell cell) := by
  simp only [readCell, onTape]
  rcases machine.input.read with ⟨_ | _ | value, later⟩
  · exact ⟨wide, wider, rfl⟩
  · cases machine.eofPolicy with
    | zero => exact ⟨_, wider.store inside 0, rfl⟩
    | unchanged | fault => exact ⟨wide, wider, rfl⟩
  · exact ⟨_, wider.store inside _, rfl⟩

/-- Without its partner the bracket overflows, so a scan that fits has found one. -/
theorem follows_enterLoop {index cell : Nat} (fits : Fits (machine.enterLoop index cell).1)
    : Follows (machine.enterLoop index cell) ((machine.onTape wide).enterLoop index cell) := by
  simp only [enterLoop, onTape, wider.byte] at fits ⊢
  split at fits
  · rename_i zero
    simp only [if_pos zero]
    cases matched : machine.tape.matchingEnd index with
    | none => simp [matched, Fits] at fits
    | some partner =>
        simp only [wider.matchingEnd matched]
        exact ⟨wide, wider, rfl⟩
  · rename_i nonzero
    simp only [if_neg nonzero]
    exact ⟨wide, wider, rfl⟩

theorem follows_repeatLoop (index cell : Nat)
    : Follows (machine.repeatLoop index cell)
        ((machine.onTape wide).repeatLoop index cell) := by
  simp only [repeatLoop, onTape, wider.byte, wider.matchingStart]
  split
  · exact ⟨wide, wider, rfl⟩
  · split <;> exact ⟨wide, wider, rfl⟩

theorem follows_act {index cell : Nat} {op : Opcode} (inside : cell < machine.tape.size)
    (fits : Fits (machine.act index cell op).1)
    : Follows (machine.act index cell op) ((machine.onTape wide).act index cell op) := by
  cases op with
  | moveRight | moveLeft => exact ⟨wide, wider, rfl⟩
  | increment =>
      refine ⟨_, wider.store inside _, ?_⟩
      simp only [act, store, onTape, wider.byte]
  | decrement =>
      refine ⟨_, wider.store inside _, ?_⟩
      simp only [act, store, onTape, wider.byte]
  | write => exact follows_writeCell wider cell
  | read => exact follows_readCell wider inside
  | loopStart => exact follows_enterLoop wider fits
  | loopEnd => exact follows_repeatLoop wider index cell

theorem follows_execute {index : Nat} {op : Opcode} (fits : Fits (machine.execute index op).1)
    : Follows (machine.execute index op) ((machine.onTape wide).execute index op) := by
  have moved : (machine.onTape wide).movePointer op = (machine.movePointer op).onTape wide := by
    cases op <;> rfl
  have wider' : (machine.movePointer op).tape.Wider wide := by
    rwa [movePointer_tape]
  cases located : machine.tape.locate (machine.movePointer op).dataPointer with
  | error side =>
      rw [execute_of_error located] at fits ⊢
      have alsoLocated := wider.locate_error located (ne_above_of_memory fits)
      refine ⟨wide, wider', ?_⟩
      rw [execute_of_error (by rw [moved]; exact alsoLocated), moved]
  | ok cell =>
      have inside := (Tape.locate_eq_ok_iff.mp located).2
      have alsoLocated := wider.locate_ok located
      rw [execute_of_ok located] at fits ⊢
      rw [execute_of_ok (by rw [moved]; exact alsoLocated), moved]
      exact follows_act wider' (by rwa [movePointer_tape]) fits

theorem follows_halt
    : Follows machine.halt (machine.onTape wide).halt := by
  refine ⟨wide, ?_, ?_⟩
  · unfold halt
    split <;> exact wider
  · simp only [halt, onTape]
    split <;> rfl

/-- The same is fetched from both tapes, since a fetch from above the shorter one overflows. -/
theorem fetch_onTape (fits : Fits machine.fetch)
    : (machine.onTape wide).fetch = machine.fetch := by
  simp only [fetch, onTape] at fits ⊢
  cases located : machine.tape.locate machine.programCounter with
  | error side =>
      rw [located] at fits
      rw [wider.locate_error located (ne_above_of_program fits)]
  | ok index => simp only [wider.locate_ok located, wider.cell]

theorem follows_attempt (fits : Fits machine.attempt.1)
    : Follows machine.attempt (machine.onTape wide).attempt := by
  unfold attempt at fits ⊢
  cases fetched : machine.fetch with
  | error fault =>
      rw [fetched] at fits
      have fetchFits : Fits machine.fetch := by
        rw [fetched]
        simpa [Fits] using fits
      rw [fetch_onTape wider fetchFits, fetched]
      exact ⟨wide, wider, rfl⟩
  | ok request =>
      rw [fetch_onTape wider (by simp [fetched, Fits]), fetched]
      rw [fetched] at fits
      cases request with
      | halt => exact follows_halt wider
      | instruction index op => exact follows_execute wider fits

/-- A step that does not overflow is the same step on a wider tape. -/
theorem follows_step (fits : Fits machine.step.1)
    : Follows machine.step (machine.onTape wide).step := by
  rw [step_eq_counted, counted_fst] at fits
  obtain ⟨tape, wider', same⟩ := follows_attempt wider fits
  rw [step_eq_counted, step_eq_counted, same]
  refine ⟨tape, by rwa [counted_tape], ?_⟩
  rcases machine.attempt with ⟨_ | _, after⟩ <;> rfl

end Step

-----------------------------------------------------------------------------------------
-- Runs
-----------------------------------------------------------------------------------------

/-- A drive that does not overflow is the same drive on a wider tape, step by step. -/
theorem follows_drive {budget : Nat} {machine : Machine} {wide : Tape}
    (wider : machine.tape.Wider wide) (fits : Fits (drive budget machine).1)
    : Follows (drive budget machine) (drive budget (machine.onTape wide)) := by
  fun_induction drive budget machine generalizing wide with
  | case1 machine => exact ⟨wide, wider, rfl⟩
  | case2 budget machine running after stepped ih =>
      obtain ⟨tape, wider', same⟩ := follows_step wider (by simp [stepped, Fits])
      rw [stepped] at wider' same
      have alsoRunning : (machine.onTape wide).running = true := running
      rw [drive_succ_of_ok alsoRunning same]
      exact ih wider' fits
  | case3 budget machine running fault after stepped =>
      have stepFits : Fits machine.step.1 := by
        rw [stepped]
        simpa [Fits] using fits
      obtain ⟨tape, wider', same⟩ := follows_step wider stepFits
      rw [stepped] at wider' same
      have alsoRunning : (machine.onTape wide).running = true := running
      rw [drive_succ_of_error alsoRunning same]
      exact ⟨tape, wider', rfl⟩
  | case4 budget machine stopped =>
      rw [drive_of_not_running (Bool.not_eq_true _ ▸ stopped)]
      exact ⟨wide, wider, rfl⟩

/-- A fault of the drive is the fault of the run, so a run that fits has a drive that fits. -/
theorem fits_of_finish {outcome : Except Fault Exit} {machine : Machine}
    (fits : Fits (finish outcome machine).1)
    : Fits outcome := by
  cases outcome with
  | error fault => rwa [finish_error] at fits
  | ok exit => simp [Fits]

theorem follows_runBounded {machine : Machine} {wide : Tape} (wider : machine.tape.Wider wide)
    {address : Int} {budget : Nat} (fits : Fits (machine.runBounded address budget).1)
    : Follows (machine.runBounded address budget)
        ((machine.onTape wide).runBounded address budget) := by
  have driveFits := fits_of_finish fits
  obtain ⟨tape, wider', same⟩ := @follows_drive budget (machine.start address) wide wider driveFits
  have started : (machine.onTape wide).start address = (machine.start address).onTape wide := rfl
  refine ⟨tape, ?_, ?_⟩
  · rwa [runBounded_eq_finish, finish_snd]
  · rw [runBounded_eq_finish, runBounded_eq_finish, started, same]
    simp only [finish, onTape]
    rcases (drive budget (machine.start address)).2.output.flush with ⟨_ | _, later⟩ <;>
      cases (drive budget (machine.start address)).1 <;> rfl

-----------------------------------------------------------------------------------------
-- Calls
-----------------------------------------------------------------------------------------

theorem follows_load {machine : Machine} {wide : Tape} (wider : machine.tape.Wider wide)
    {source : String} {address : Int} (fits : Fits (machine.load source address).1)
    : Follows (machine.load source address) ((machine.onTape wide).load source address) := by
  simp only [load, onTape] at fits ⊢
  cases first : machine.tape.locate address with
  | error side =>
      rw [first] at fits
      rw [wider.locate_error first (ne_above_of_memory fits)]
      exact ⟨wide, wider, rfl⟩
  | ok start =>
      rw [first] at fits
      rw [wider.locate_ok first]
      simp only at fits ⊢
      cases last : machine.tape.locate
          (address + (Source.Program.ofString source).opcodes.length) with
      | error side =>
          rw [last] at fits
          rw [wider.locate_error last (ne_above_of_memory fits)]
          exact ⟨wide, wider, rfl⟩
      | ok finish =>
          rw [wider.locate_ok last]
          obtain ⟨_, _⟩ := Tape.locate_eq_ok_iff.mp first
          obtain ⟨_, room⟩ := Tape.locate_eq_ok_iff.mp last
          refine ⟨_, (wider.storeAll ?_).mark ?_, rfl⟩
          · simp only [List.length_map]
            omega
          · simpa using room

theorem peek_onTape {machine : Machine} {wide : Tape} (wider : machine.tape.Wider wide)
    {address : Int} (fits : Fits (machine.peek address))
    : (machine.onTape wide).peek address = machine.peek address := by
  simp only [peek, onTape] at fits ⊢
  cases located : machine.tape.locate address with
  | error side =>
      rw [located] at fits
      rw [wider.locate_error located (ne_above_of_memory fits)]
  | ok index => simp only [wider.locate_ok located, wider.byte]

theorem follows_poke {machine : Machine} {wide : Tape} (wider : machine.tape.Wider wide)
    {address : Int} {value : UInt8} (fits : Fits (machine.poke address value).1)
    : Follows (machine.poke address value) ((machine.onTape wide).poke address value) := by
  simp only [poke, onTape] at fits ⊢
  cases located : machine.tape.locate address with
  | error side =>
      rw [located] at fits
      rw [wider.locate_error located (ne_above_of_memory fits)]
      exact ⟨wide, wider, rfl⟩
  | ok index =>
      rw [wider.locate_ok located]
      exact ⟨_, wider.store (Tape.locate_eq_ok_iff.mp located).2 value, rfl⟩

/-- What is answered does not matter for whether it fits. -/
theorem fits_of_map {α β : Type} {outcome : Except Fault α} {f : α → β}
    (fits : Fits (outcome.map f))
    : Fits outcome := by
  cases outcome with
  | error fault => simpa [Fits, Except.map] using fits
  | ok value => simp [Fits]

/-- An answer that is no overflow is the answer on a wider tape, unless the call asks for the
tape as a whole.
-/
theorem follows_answer {patience : Nat} {machine after : Machine} {wide : Tape} {call : Call}
    {outcome : Except Fault Answer} (wider : machine.tape.Wider wide)
    (blind : call ≠ .dump ∧ call ≠ .size)
    (answered : machine.answer patience call = some (outcome, after)) (fits : Fits outcome)
    : ∃ tape,
        after.tape.Wider tape
        ∧ (machine.onTape wide).answer patience call = some (outcome, after.onTape tape) := by
  cases call with
  | load source address =>
      rw [answer_load] at answered
      obtain ⟨rfl, rfl⟩ := Prod.mk.inj (Option.some.inj answered)
      obtain ⟨tape, wider', same⟩ := follows_load wider (fits_of_map fits)
      exact ⟨tape, wider', by rw [answer_load, same]⟩
  | step =>
      rw [answer_step] at answered
      obtain ⟨rfl, rfl⟩ := Prod.mk.inj (Option.some.inj answered)
      obtain ⟨tape, wider', same⟩ := follows_step wider (fits_of_map fits)
      exact ⟨tape, wider', by rw [answer_step, same]⟩
  | run address =>
      obtain ⟨ended, rfl, rfl⟩ := answer_run_eq_some_iff.mp answered
      have runFits := fits_of_map fits
      obtain ⟨tape, wider', same⟩ := follows_runBounded wider runFits
      obtain ⟨_, _, driven⟩ :=
        @follows_drive patience (machine.start address) wide wider (fits_of_finish runFits)
      refine ⟨tape, wider', answer_run_eq_some_iff.mpr ⟨?_, by rw [same], by rw [same]⟩⟩
      intro limit
      have alsoLimit := congrArg Prod.fst driven
      exact ended (alsoLimit.symm.trans limit)
  | runBounded address budget =>
      rw [answer_runBounded] at answered
      obtain ⟨rfl, rfl⟩ := Prod.mk.inj (Option.some.inj answered)
      obtain ⟨tape, wider', same⟩ := follows_runBounded wider (fits_of_map fits)
      exact ⟨tape, wider', by rw [answer_runBounded, same]⟩
  | peek address =>
      obtain ⟨rfl, rfl⟩ := Prod.mk.inj (Option.some.inj answered)
      exact ⟨wide, wider, by simp only [answer, peek_onTape wider (fits_of_map fits)]⟩
  | poke address value =>
      rw [answer_poke] at answered
      obtain ⟨rfl, rfl⟩ := Prod.mk.inj (Option.some.inj answered)
      obtain ⟨tape, wider', same⟩ := follows_poke wider (fits_of_map fits)
      exact ⟨tape, wider', by rw [answer_poke, same]⟩
  | isEnd address =>
      obtain ⟨rfl, rfl⟩ := Prod.mk.inj (Option.some.inj answered)
      exact ⟨wide, wider, by simp only [answer, isEnd, onTape, wider.isEnd]⟩
  | dump => exact absurd rfl blind.1
  | size => exact absurd rfl blind.2
  | reset =>
      obtain ⟨rfl, rfl⟩ := Prod.mk.inj (Option.some.inj answered)
      exact ⟨_, Tape.wider_zeros wider.longer, rfl⟩
  | setEofPolicy policy =>
      obtain ⟨rfl, rfl⟩ := Prod.mk.inj (Option.some.inj answered)
      exact ⟨wide, wider, rfl⟩

theorem follows_answerAll {patience : Nat} {machine finished : Machine} {wide : Tape}
    {calls : List Call} {outcomes : List (Except Fault Answer)}
    (wider : machine.tape.Wider wide) (blind : ∀ call ∈ calls, call ≠ .dump ∧ call ≠ .size)
    (answered : machine.answerAll patience calls = some (outcomes, finished))
    (fits : ∀ outcome ∈ outcomes, Fits outcome)
    : ∃ tape,
        finished.tape.Wider tape
        ∧ (machine.onTape wide).answerAll patience calls
          = some (outcomes, finished.onTape tape) := by
  induction calls generalizing machine wide outcomes with
  | nil =>
      obtain ⟨rfl, rfl⟩ := Prod.mk.inj (Option.some.inj answered)
      exact ⟨wide, wider, rfl⟩
  | cons call calls ih =>
      obtain ⟨outcome, after, rest, first, later, rfl⟩ := answerAll_cons_eq_some_iff.mp answered
      obtain ⟨tape, wider', same⟩ :=
        follows_answer wider (blind call (by simp)) first (fits outcome (by simp))
      obtain ⟨last, widest, alsoLater⟩ := ih wider'
        (fun call member => blind call (by simp [member])) later
        (fun outcome member => fits outcome (by simp [member]))
      exact ⟨last, widest, answerAll_cons_eq_some_iff.mpr
        ⟨outcome, after.onTape tape, rest, same, alsoLater, rfl⟩⟩

/-- Growing the tape is conservative: as long as no call on the shorter tape answers with an
overflow, the same calls on a longer one get the same answers and leave the same machine
after each of them, with zeros in the cells that were added.
-/
theorem answerAll_on_longer_tape {requested longer : Nat} (more : requested ≤ longer)
    (input : Input) (output : Sink) (patience : Nat) {calls : List Call}
    {outcomes : List (Except Fault Answer)} {finished : Machine}
    (blind : ∀ call ∈ calls, call ≠ .dump ∧ call ≠ .size)
    (answered : (create requested input output).answerAll patience calls
      = some (outcomes, finished))
    (fits : ∀ fault, .error fault ∈ outcomes → fault ≠ .memory .above ∧ fault ≠ .program .above)
    (count : Nat)
    : ∃ narrow wide,
        (create requested input output).answerAll patience (calls.take count)
          = some (outcomes.take count, narrow)
        ∧ (create longer input output).answerAll patience (calls.take count)
          = some (outcomes.take count, wide)
        ∧ wide.programCounter = narrow.programCounter
        ∧ wide.dataPointer = narrow.dataPointer
        ∧ wide.running = narrow.running
        ∧ wide.steps = narrow.steps
        ∧ wide.eofPolicy = narrow.eofPolicy
        ∧ wide.input = narrow.input
        ∧ wide.output = narrow.output
        ∧ (∀ index, wide.isEnd index = narrow.isEnd index)
        ∧ narrow.tape.size = max requested Tape.minimumSize
        ∧ wide.tape.size = max longer Tape.minimumSize
        ∧ (∀ index, index < narrow.tape.size → wide.tape.cell index = narrow.tape.cell index)
        ∧ (∀ index, narrow.tape.size ≤ index → wide.tape.cell index = .data 0) := by
  have outcomeFits : ∀ outcome ∈ outcomes.take count, Fits outcome := by
    intro outcome member
    have earlier := List.mem_of_mem_take member
    constructor <;> rintro rfl
    · exact (fits _ earlier).1 rfl
    · exact (fits _ earlier).2 rfl
  have stillBlind : ∀ call ∈ calls.take count, call ≠ .dump ∧ call ≠ .size :=
    fun call member => blind call (List.mem_of_mem_take member)
  have wider : (create requested input output).tape.Wider (Tape.blank longer) :=
    Tape.wider_zeros (by omega)
  obtain ⟨narrow, beginning⟩ := answerAll_take answered count
  obtain ⟨tape, wider', same⟩ := follows_answerAll wider stillBlind beginning outcomeFits
  have sizes := size_answerAll beginning
  have longerSizes := size_answerAll same
  refine ⟨narrow, narrow.onTape tape, beginning, same, rfl, rfl, rfl, rfl, rfl, rfl, rfl,
    wider'.isEnd, ?_, ?_, wider'.kept, wider'.blank⟩
  · exact sizes.trans (Tape.size_zeros _)
  · exact longerSizes.trans (Tape.size_zeros _)

/-- Echoing a value, then a poke below the tape: the fault is answered alike on both tapes. -/
theorem answerAll_on_longer_tape_echo
    : ∃ outcomes narrow wide,
        (create 0 (.values [.ok (some 300)]) (.scripted (.ofReplies [] []))).answerAll 3
            [.load ",." 10, .run 10, .peek 0, .poke (-1) 3]
          = some (outcomes, narrow)
        ∧ (create 40000 (.values [.ok (some 300)]) (.scripted (.ofReplies [] []))).answerAll 3
            [.load ",." 10, .run 10, .peek 0, .poke (-1) 3]
          = some (outcomes, wide)
        ∧ wide.output = narrow.output
        ∧ wide.tape.size = 40000 := by
  have noOverflow : ((create 0 (.values [.ok (some 300)])
        (.scripted (.ofReplies [] []))).answerAll 3
          [.load ",." 10, .run 10, .peek 0, .poke (-1) 3]).map
        (fun answered => answered.1.all (fun outcome =>
          match outcome with
          | .ok _ => true
          | .error fault => fault ≠ .memory .above && fault ≠ .program .above))
      = some true := by
    decide +kernel
  obtain ⟨⟨outcomes, finished⟩, answered, small⟩ := Option.map_eq_some_iff.mp noOverflow
  have fits : ∀ fault, .error fault ∈ outcomes
      → fault ≠ .memory .above ∧ fault ≠ .program .above := by
    intro fault member
    simpa using List.all_eq_true.mp small _ member
  have blind : ∀ call ∈ ([.load ",." 10, .run 10, .peek 0, .poke (-1) 3] : List Call),
      call ≠ .dump ∧ call ≠ .size := by
    decide
  obtain ⟨narrow, wide, first, second, _, _, _, _, _, _, output, _, _, size, _⟩ :=
    answerAll_on_longer_tape (Nat.zero_le 40000) _ _ 3 blind answered fits 4
  exact ⟨outcomes.take 4, narrow, wide, first, second, output, size⟩

end TapeMachine.Machine
