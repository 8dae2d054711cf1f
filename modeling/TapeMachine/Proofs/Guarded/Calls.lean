import TapeMachine.Proofs.Calls
import TapeMachine.Proofs.Guarded.Pictures
import TapeMachine.Proofs.Guarded.Steps

/-! Guarded calls. Calls with arguments in range, which attempt few enough steps together, are
answered without any overrun, whatever faults there are among them.
-/

namespace TapeMachine

-----------------------------------------------------------------------------------------
-- The length of a program
-----------------------------------------------------------------------------------------

namespace Source

/-- Every token takes up a character at least, by induction on the text that is left. -/
theorem Lexer.length_locateAll_le (lexer : Lexer) (found : List Located)
    : (lexer.locateAll found).1.length ≤ found.length + lexer.rest.length := by
  fun_induction Lexer.locateAll lexer found with
  | case1 lexer found finished taken => simp
  | case2 lexer found token later taken ih =>
      have shorter := Lexer.length_take_lt taken
      have skipped : lexer.skipSpace.rest.length ≤ lexer.rest.length :=
        lexer.length_dropWhile_le Text.isSpace
      rw [List.length_cons] at ih
      omega

/-- Every character takes up a byte at least. -/
theorem length_le_encodedSize (text : List Char)
    : text.length ≤ text.utf8Encode.size := by
  induction text with
  | nil => simp
  | cons first rest ih =>
      have positive := first.utf8Size_pos
      rw [List.utf8Encode_cons, ByteArray.size_append, List.utf8Encode_singleton,
        List.size_toByteArray, String.length_utf8EncodeChar, List.length_cons]
      omega

/-- A program has no more instructions than its source text has bytes. -/
theorem length_opcodes_le (source : String)
    : (Program.ofString source).opcodes.length ≤ source.utf8ByteSize := by
  have tokens := (Lexer.ofString source).length_locateAll_le []
  have bytes := length_le_encodedSize source.toList
  rw [String.utf8Encode_toList, String.size_toByteArray] at bytes
  calc (Program.ofString source).opcodes.length
      ≤ ((Lexer.ofString source).locateAll []).1.length := List.length_filterMap_le _ _
    _ ≤ 0 + source.toList.length := tokens
    _ = source.toList.length := Nat.zero_add _
    _ ≤ source.utf8ByteSize := bytes

end Source

namespace Guarded

-----------------------------------------------------------------------------------------
-- Calls
-----------------------------------------------------------------------------------------

/-- The value of the cell at an address. -/
def peek (machine : Machine) (address : Int) : Except Overrun (Except Fault UInt8) :=
  match machine.tape.locate address with
  | .ok index => do
      let found ← cellAt machine.tape index
      .ok (.ok found.byte)
  | .error side => .ok (.error (.memory side))

/-- Stores a value in the cell at an address. -/
def poke (machine : Machine) (address : Int) (value : UInt8)
    : Except Overrun (Except Fault Unit × Machine) :=
  match machine.tape.locate address with
  | .ok index => do
      let tape ← store machine.tape index value
      .ok (.ok (), { machine with tape := tape })
  | .error side => .ok (.error (.memory side), machine)

/-- Writes the instructions of a source text from an address on and a mark behind them. -/
def load (machine : Machine) (source : String) (address : Int)
    : Except Overrun (Except Fault (List Source.Diagnostic) × Machine) :=
  let program := Source.Program.ofString source
  match machine.tape.locate address with
  | .error side => .ok (.error (.memory side), machine)
  | .ok start => do
      let length ← signed program.opcodes.length
      match machine.tape.locate (saturatingSum address length) with
      | .error side => .ok (.error (.memory side), machine)
      | .ok finish => do
          let stored ← storeAll machine.tape start finish (program.opcodes.map Opcode.byte)
          let marked ← mark stored finish
          .ok (.ok program.diagnostics, { machine with tape := marked })

/-- Runs from an address for at most so many steps. -/
def runBounded (machine : Machine) (address : Int) (budget : Nat)
    : Except Overrun (Except Fault Machine.Exit × Machine) := do
  let (outcome, after) ← drive budget (machine.start address)
  .ok (Machine.finish outcome after)

/-- Runs from an address to the end of the program, or of the patience. -/
def run (patience : Nat) (machine : Machine) (address : Int)
    : Except Overrun (Option (Except Fault Machine.Exit × Machine)) := do
  match ← drive patience (machine.start address) with
  | (.ok .stepLimit, _) => .ok none
  | (outcome, after) => .ok (some (Machine.finish outcome after))

/-- Answers a call. -/
def answer (patience : Nat) (machine : Machine)
    : Call → Except Overrun (Option (Except Fault Answer × Machine))
  | .load source address => do
      let (outcome, after) ← load machine source address
      .ok (some (outcome.map .diagnostics, after))
  | .step => do
      let (outcome, after) ← step machine
      .ok (some (outcome.map (fun _ => .done), after))
  | .run address => do
      let result ← run patience machine address
      .ok (result.map (fun (outcome, after) => (outcome.map (fun _ => .done), after)))
  | .runBounded address budget => do
      let (outcome, after) ← runBounded machine address budget
      .ok (some (outcome.map .exit, after))
  | .peek address => do
      let outcome ← peek machine address
      .ok (some (outcome.map .byte, machine))
  | .poke address value => do
      let (outcome, after) ← poke machine address value
      .ok (some (outcome.map (fun _ => .done), after))
  | .dump => do
      let picture ← dump machine
      .ok (some (.ok (.text picture), machine))
  -- The other calls neither count nor look at a cell by its index.
  | call => .ok (machine.answer patience call)

/-- Answers calls one after the other. -/
def answerAll (patience : Nat) (machine : Machine)
    : List Call → Except Overrun (Option (List (Except Fault Answer) × Machine))
  | [] => .ok (some ([], machine))
  | call :: calls => do
      match ← answer patience machine call with
      | none => .ok none
      | some (outcome, after) => do
          let rest ← answerAll patience after calls
          .ok (rest.map (fun (outcomes, finished) => (outcome :: outcomes, finished)))

-----------------------------------------------------------------------------------------
-- Guarded calls that move no register
-----------------------------------------------------------------------------------------

theorem peek_eq_ok (machine : Machine) (address : Int)
    : peek machine address = .ok (machine.peek address) := by
  unfold peek Machine.peek
  cases located : machine.tape.locate address with
  | error side => rfl
  | ok index =>
      simp only [cellAt_eq_ok (Tape.locate_eq_ok_iff.mp located).2, ok_bind]
      rfl

theorem poke_eq_ok (machine : Machine) (address : Int) (value : UInt8)
    : poke machine address value = .ok (machine.poke address value) := by
  unfold poke Machine.poke
  cases located : machine.tape.locate address with
  | error side => rfl
  | ok index => simp only [store_eq_ok (Tape.locate_eq_ok_iff.mp located).2, ok_bind]

/-- A sum that passes the range of addresses is off the tape, and so is the end of the range. -/
theorem locate_saturatingSum {tape : Tape} (fits : (tape.size : Int) ≤ Text.greatestSigned)
    {first second : Int} (positive : 0 ≤ first + second)
    : tape.locate (saturatingSum first second) = tape.locate (first + second) := by
  have lowest : Text.leastSigned ≤ 0 := by decide
  unfold saturatingSum
  by_cases small : first + second ≤ Text.greatestSigned
  · have same : max Text.leastSigned (min Text.greatestSigned (first + second))
        = first + second := by
      omega
    rw [same]
  · have same : max Text.leastSigned (min Text.greatestSigned (first + second))
        = Text.greatestSigned := by
      omega
    rw [same, Tape.locate, Tape.locate, if_neg (by omega), if_neg (by omega), if_neg (by omega),
      if_neg (by omega)]

theorem load_eq_ok {machine : Machine} (fits : (machine.tape.size : Int) ≤ Text.greatestSigned)
    {source : String} (short : (source.utf8ByteSize : Int) ≤ Text.greatestSigned) (address : Int)
    : load machine source address = .ok (machine.load source address) := by
  have lowest : Text.leastSigned ≤ 0 := by decide
  have length := Source.length_opcodes_le source
  simp only [load, Machine.load]
  cases located : machine.tape.locate address with
  | error side => rfl
  | ok start =>
      obtain ⟨here, inside⟩ := Tape.locate_eq_ok_iff.mp located
      simp only [signed_eq_ok
        (show Text.leastSigned ≤ ((Source.Program.ofString source).opcodes.length : Int) by omega)
        (by omega), ok_bind]
      rw [locate_saturatingSum fits (by omega)]
      cases ends : machine.tape.locate
        (address + (Source.Program.ofString source).opcodes.length) with
      | error side => rfl
      | ok finish =>
          obtain ⟨there, room⟩ := Tape.locate_eq_ok_iff.mp ends
          simp only
          rw [storeAll_eq_ok (by rw [List.length_map]; omega) (by omega) fits, ok_bind,
            mark_eq_ok (by rwa [Tape.size_storeAll]), ok_bind]

end Guarded

-----------------------------------------------------------------------------------------
-- Arguments in range, and attempts
-----------------------------------------------------------------------------------------

/-- The address is a signed 64-bit number. -/
def InSignedRange (address : Int) : Prop :=
  Text.leastSigned ≤ address ∧ address ≤ Text.greatestSigned

instance (address : Int) : Decidable (InSignedRange address) :=
  inferInstanceAs (Decidable (_ ∧ _))

/-- The arguments of a call are such as a machine with 64-bit addresses can be given: the addresses
and budgets are 64-bit numbers, and a source text takes up no more bytes than there are addresses.
-/
def Call.InRange : Call → Prop
  | .load source address =>
      (source.utf8ByteSize : Int) ≤ Text.greatestSigned ∧ InSignedRange address
  | .runBounded address budget =>
      InSignedRange address ∧ (budget : Int) ≤ Text.greatestUnsigned
  | .run address | .peek address | .poke address _ | .isEnd address => InSignedRange address
  | .step | .dump | .size | .reset | .setEofPolicy _ => True

instance : (call : Call) → Decidable call.InRange
  | .load _ _ | .runBounded _ _ => inferInstanceAs (Decidable (_ ∧ _))
  | .run address | .peek address | .poke address _ | .isEnd address =>
      inferInstanceAs (Decidable (InSignedRange address))
  | .step | .dump | .size | .reset | .setEofPolicy _ => .isTrue trivial

namespace Machine

/-- The steps attempted since the machine was made or reset, when a call has been answered behind
so many of them.
-/
def attemptsBy (patience : Nat) (machine : Machine) (before : Nat) : Call → Nat
  | .reset => 0
  | call => before + (machine.visitedBy patience call).length

/-- The steps attempted since the machine was made or last reset, when calls have been answered
behind so many of them.
-/
def attemptsByAll (patience : Nat) (machine : Machine) (before : Nat) : List Call → Nat
  | [] => before
  | call :: calls =>
      match machine.answer patience call with
      | none => before
      | some (_, after) =>
          after.attemptsByAll patience (machine.attemptsBy patience before call) calls

namespace Within

variable {attempts : Nat} {machine : Machine} (within : machine.Within attempts)

include within

/-- Nothing but the registers and the length of the tape matters. -/
theorem congr {after : Machine} (size : after.tape.size = machine.tape.size)
    (counter : after.programCounter = machine.programCounter)
    (pointer : after.dataPointer = machine.dataPointer) (steps : after.steps = machine.steps)
    : after.Within attempts where
  size := size ▸ within.size
  least := counter ▸ within.least
  greatest := counter ▸ within.greatest
  pointer := pointer ▸ within.pointer
  steps := steps ▸ within.steps

theorem load (source : String) (address : Int)
    : (machine.load source address).2.Within attempts := by
  have size := machine.size_load source address
  rcases loads : machine.load source address with ⟨fault | diagnostics, loaded⟩
  · rw [load_eq_error loads]
    exact within
  · rw [loads] at size
    obtain ⟨_, _, _, rfl⟩ := load_eq_ok loads
    exact within.congr size rfl rfl rfl

theorem poke (address : Int) (value : UInt8)
    : (machine.poke address value).2.Within attempts := by
  have size := machine.size_poke address value
  unfold Machine.poke at size ⊢
  cases located : machine.tape.locate address with
  | error side => exact within
  | ok index =>
      simp only [located] at size ⊢
      exact within.congr size rfl rfl rfl

theorem reset
    : machine.reset.Within 0 where
  size := by
    rw [Machine.reset, Tape.size_zeros]
    exact within.size
  least := (by decide : Text.leastSigned ≤ 0)
  greatest := (by decide : 0 ≤ Text.greatestSigned)
  pointer := Nat.le_refl 0
  steps := Nat.le_refl 0

theorem runBounded {address : Int} (inRange : InSignedRange address) (budget : Nat)
    : (machine.runBounded address budget).2.Within
        (attempts + (visited budget (machine.start address)).length) := by
  rw [runBounded_eq_finish, finish_snd]
  exact ((within.start inRange.1 inRange.2).drive budget).congr rfl rfl rfl rfl

theorem answer {patience : Nat} {call : Call} {outcome : Except Fault Answer} {after : Machine}
    (inRange : call.InRange) (answered : machine.answer patience call = some (outcome, after))
    : after.Within (machine.attemptsBy patience attempts call) := by
  cases call with
  | load source address =>
      obtain ⟨_, rfl⟩ := Prod.mk.inj (Option.some.inj answered)
      exact within.load source address
  | step =>
      obtain ⟨_, rfl⟩ := Prod.mk.inj (Option.some.inj answered)
      exact within.step
  | run address =>
      obtain ⟨_, _, rfl⟩ := answer_run_eq_some_iff.mp answered
      exact within.runBounded inRange patience
  | runBounded address budget =>
      obtain ⟨_, rfl⟩ := Prod.mk.inj (Option.some.inj answered)
      exact within.runBounded inRange.1 budget
  | poke address value =>
      obtain ⟨_, rfl⟩ := Prod.mk.inj (Option.some.inj answered)
      exact within.poke address value
  | reset =>
      obtain ⟨_, rfl⟩ := Prod.mk.inj (Option.some.inj answered)
      exact within.reset
  | peek | isEnd | dump | size | setEofPolicy =>
      obtain ⟨_, rfl⟩ := Prod.mk.inj (Option.some.inj answered)
      exact within.congr rfl rfl rfl rfl

theorem answerAll {patience : Nat} {calls : List Call} {outcomes : List (Except Fault Answer)}
    {finished : Machine} (inRange : ∀ call ∈ calls, call.InRange)
    (answered : machine.answerAll patience calls = some (outcomes, finished))
    : finished.Within (machine.attemptsByAll patience attempts calls) := by
  induction calls generalizing machine attempts outcomes with
  | nil =>
      obtain ⟨_, rfl⟩ := Prod.mk.inj (Option.some.inj answered)
      exact within
  | cons call calls ih =>
      obtain ⟨_, after, _, first, later, _⟩ := answerAll_cons_eq_some_iff.mp answered
      simp only [attemptsByAll, first]
      exact ih (within.answer (inRange call List.mem_cons_self) first)
        (fun other member => inRange other (List.mem_cons_of_mem _ member)) later

end Within

theorem within_create {requested : Nat} (fits : (requested : Int) ≤ Text.greatestSigned)
    (input : Input) (output : Sink)
    : (create requested input output).Within 0 where
  size := by
    have least : (Tape.minimumSize : Int) ≤ Text.greatestSigned := by decide
    rw [create, Tape.blank, Tape.size_zeros]
    omega
  least := (by decide : Text.leastSigned ≤ 0)
  greatest := (by decide : 0 ≤ Text.greatestSigned)
  pointer := Nat.le_refl 0
  steps := Nat.le_refl 0

end Machine

-----------------------------------------------------------------------------------------
-- Guarded calls are calls
-----------------------------------------------------------------------------------------

namespace Guarded

section Calls

variable {patience attempts : Nat} {machine : Machine} (within : machine.Within attempts)

include within

theorem runBounded_eq_ok {address : Int} (inRange : InSignedRange address) {budget : Nat}
    (few : ((attempts + (Machine.visited budget (machine.start address)).length : Nat) : Int)
      ≤ Text.greatestSigned)
    : runBounded machine address budget = .ok (machine.runBounded address budget) := by
  rw [runBounded, drive_eq_ok (within.start inRange.1 inRange.2) few, ok_bind]
  rfl

theorem run_eq_ok {address : Int} (inRange : InSignedRange address)
    (few : ((attempts + (Machine.visited patience (machine.start address)).length : Nat) : Int)
      ≤ Text.greatestSigned)
    : run patience machine address = .ok (machine.run patience address) := by
  rw [run, drive_eq_ok (within.start inRange.1 inRange.2) few, ok_bind, Machine.run,
    Machine.driveToEnd]
  rcases Machine.drive patience (machine.start address) with ⟨_ | _ | _, after⟩ <;> rfl

theorem answer_eq_ok {call : Call} (inRange : call.InRange)
    (few : ((attempts + (machine.visitedBy patience call).length : Nat) : Int)
      ≤ Text.greatestSigned)
    : answer patience machine call = .ok (machine.answer patience call) := by
  cases call with
  | load source address =>
      rw [answer, load_eq_ok within.size inRange.1, ok_bind]
      rfl
  | step =>
      have one : (machine.visitedBy patience .step).length = 1 := rfl
      rw [answer, step_eq_ok within (by omega), ok_bind]
      rfl
  | run address =>
      rw [answer, run_eq_ok within inRange few, ok_bind]
      rfl
  | runBounded address budget =>
      rw [answer, runBounded_eq_ok within inRange.1 few, ok_bind]
      rfl
  | peek address =>
      rw [answer, peek_eq_ok, ok_bind]
      rfl
  | poke address value =>
      rw [answer, poke_eq_ok, ok_bind]
      rfl
  | dump =>
      rw [answer, dump_eq_ok within.size, ok_bind]
      rfl
  | isEnd | size | reset | setEofPolicy => rfl

theorem answerAll_eq_ok {calls : List Call} (inRange : ∀ call ∈ calls, call.InRange)
    (few : ((attempts + (machine.visitedByAll patience calls).length : Nat) : Int)
      ≤ Text.greatestSigned)
    : answerAll patience machine calls = .ok (machine.answerAll patience calls) := by
  induction calls generalizing machine attempts with
  | nil => rfl
  | cons call calls ih =>
      have first := inRange call List.mem_cons_self
      have split : (machine.visitedBy patience call).length
          ≤ (machine.visitedByAll patience (call :: calls)).length := by
        simp [Machine.visitedByAll]
      rw [answerAll, answer_eq_ok within first (by omega), ok_bind, Machine.answerAll]
      cases answered : machine.answer patience call with
      | none => rfl
      | some answer =>
          obtain ⟨outcome, after⟩ := answer
          have rest : machine.attemptsBy patience attempts call
                + (after.visitedByAll patience calls).length
              ≤ attempts + (machine.visitedByAll patience (call :: calls)).length := by
            rw [Machine.visitedByAll_cons answered, List.length_append]
            cases call <;> simp only [Machine.attemptsBy] <;> omega
          simp only
          rw [ih (within.answer first answered)
            (fun other member => inRange other (List.mem_cons_of_mem _ member)) (by omega), ok_bind]

end Calls

/-- A new machine on a tape that can be addressed answers whatever it is asked without an overrun,
as long as it does not attempt more steps than can be counted. Its data pointer is never further
from the start of the tape than it has attempted steps since it was made or reset, not even in the
middle of a run.
-/
theorem calls_never_overrun {requested : Nat} (fits : (requested : Int) ≤ Text.greatestSigned)
    (input : Input) (output : Sink) (patience : Nat) {calls : List Call}
    (inRange : ∀ call ∈ calls, call.InRange)
    (few : (((Machine.create requested input output).visitedByAll patience calls).length : Int)
      ≤ Text.greatestSigned)
    : answerAll patience (.create requested input output) calls
        = .ok ((Machine.create requested input output).answerAll patience calls)
      ∧ ∀ outcomes finished,
          (Machine.create requested input output).answerAll patience calls
            = some (outcomes, finished)
          → finished.Within
              ((Machine.create requested input output).attemptsByAll patience 0 calls)
            ∧ ∀ address budget,
                InSignedRange address
                → ((finished.start address).drive budget).2.Within
                    ((Machine.create requested input output).attemptsByAll patience 0 calls
                      + (Machine.visited budget (finished.start address)).length) := by
  have created := Machine.within_create fits input output
  constructor
  · apply answerAll_eq_ok created inRange
    rwa [Nat.zero_add]
  · intro outcomes finished answered
    have within := created.answerAll inRange answered
    refine ⟨within, fun address budget signed => ?_⟩
    exact (within.start signed.1 signed.2).drive budget

/-- The data pointer has left the tape, and the program counter has been put on both ends of the
range of addresses.
-/
theorem calls_never_overrun_far_off_tape
    : ∃ outcomes finished,
        answerAll 9 (.create 0 (.bytes []) (.scripted (.ofReplies [] [])))
            [.load "<" 0, .runBounded 0 7, .runBounded Text.leastSigned 7, .step,
              .run Text.greatestSigned, .step, .dump]
          = .ok (some (outcomes, finished))
        ∧ finished.programCounter = Text.greatestSigned
        ∧ finished.dataPointer = -1
        ∧ finished.dataPointer.natAbs ≤ 5 := by
  let machine := Machine.create 0 (.bytes []) (.scripted (.ofReplies [] []))
  let calls : List Call := [.load "<" 0, .runBounded 0 7, .runBounded Text.leastSigned 7, .step,
    .run Text.greatestSigned, .step, .dump]
  have inRange : ∀ call ∈ calls, call.InRange := by decide
  have attempts : (machine.visitedByAll 9 calls).length = 5
      ∧ machine.attemptsByAll 9 0 calls = 5 := by
    decide +kernel
  have few : ((machine.visitedByAll 9 calls).length : Int) ≤ Text.greatestSigned := by
    rw [attempts.1]
    decide
  have registers : (machine.answerAll 9 calls).map
        (fun (_, finished) => (finished.programCounter, finished.dataPointer))
      = some (Text.greatestSigned, -1) := by
    decide +kernel
  obtain ⟨⟨outcomes, finished⟩, answered, same⟩ := Option.map_eq_some_iff.mp registers
  obtain ⟨counter, pointer⟩ := Prod.mk.inj same
  obtain ⟨guarded, within⟩ := @calls_never_overrun 0 (by decide) (.bytes [])
    (.scripted (.ofReplies [] [])) 9 calls inRange few
  have near := (within outcomes finished answered).1.pointer
  rw [attempts.2] at near
  exact ⟨outcomes, finished, guarded.trans (congrArg Except.ok answered), counter, pointer, near⟩

end Guarded

end TapeMachine
