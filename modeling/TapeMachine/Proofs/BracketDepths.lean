import TapeMachine.Proofs.BracketScans
import TapeMachine.Proofs.StepEffects
import TapeMachine.Proofs.TapeCells

/-! The partner of a bracket by counting. Going up from a loop that is open, its end is the first
cell with which no more loops are opened than closed; going down from a loop that is closed, its
start is the first cell for which the same holds. The scans find just these cells, and the jumps go
there.
-/

namespace TapeMachine

namespace Tape

-----------------------------------------------------------------------------------------
-- Counting brackets
-----------------------------------------------------------------------------------------

/-- How many of the cells from one index up to another one, which is left out, hold the code of an
instruction.
-/
def occurrences (tape : Tape) (op : Opcode) (start finish : Nat) : Nat :=
  (List.range' start (finish - start)).countP (fun index => tape.byte index = op.byte)

/-- The loops opened in the cells from one index up to another one, less those closed there. -/
def excess (tape : Tape) (start finish : Nat) : Int :=
  tape.occurrences .loopStart start finish - tape.occurrences .loopEnd start finish

/-- Going up from `start` with so many loops open, `index` is the first cell with which all of them
are closed.
-/
structure ClosesAt (tape : Tape) (depth : Int) (start index : Nat) : Prop where
  above : start ≤ index
  inside : index < tape.size
  level : depth + tape.excess start (index + 1) = 0
  first : ∀ earlier, start ≤ earlier → earlier < index
    → depth + tape.excess start (earlier + 1) ≠ 0

/-- Going down from below `finish` with so many loops closed, `index` is the first cell with which
all of them are opened.
-/
structure OpensAt (tape : Tape) (depth : Int) (finish index : Nat) : Prop where
  below : index < finish
  level : depth - tape.excess index finish = 0
  first : ∀ later, index < later → later < finish → depth - tape.excess later finish ≠ 0

section Counting

variable {tape : Tape}

theorem occurrences_self (tape : Tape) (op : Opcode) (index : Nat)
    : tape.occurrences op index index = 0 := by
  simp [occurrences]

theorem occurrences_add (tape : Tape) (op : Opcode) {start middle finish : Nat}
    (lower : start ≤ middle) (upper : middle ≤ finish)
    : tape.occurrences op start middle + tape.occurrences op middle finish
      = tape.occurrences op start finish := by
  have split : List.range' start (middle - start) ++ List.range' middle (finish - middle)
      = List.range' start (finish - start) := by
    have joined := @List.range'_append_1 start (middle - start) (finish - middle)
    rw [show start + (middle - start) = middle by omega,
      show middle - start + (finish - middle) = finish - start by omega] at joined
    exact joined
  rw [occurrences, occurrences, occurrences, ← List.countP_append, split]

theorem occurrences_succ (tape : Tape) (op : Opcode) (index : Nat)
    : tape.occurrences op index (index + 1) = if tape.byte index = op.byte then 1 else 0 := by
  simp [occurrences, List.countP_cons]

@[simp]
theorem excess_self (tape : Tape) (index : Nat)
    : tape.excess index index = 0 := by
  simp [excess, occurrences_self]

theorem excess_add (tape : Tape) {start middle finish : Nat} (lower : start ≤ middle)
    (upper : middle ≤ finish)
    : tape.excess start finish = tape.excess start middle + tape.excess middle finish := by
  have opened := tape.occurrences_add .loopStart lower upper
  have closed := tape.occurrences_add .loopEnd lower upper
  unfold excess
  omega

theorem excess_of_open {index : Nat} (opens : tape.byte index = Opcode.loopStart.byte)
    : tape.excess index (index + 1) = 1 := by
  simp only [excess, occurrences_succ, opens]
  decide

theorem excess_of_close {index : Nat} (closes : tape.byte index = Opcode.loopEnd.byte)
    : tape.excess index (index + 1) = -1 := by
  simp only [excess, occurrences_succ, closes]
  decide

theorem excess_of_other {index : Nat} (noOpen : tape.byte index ≠ Opcode.loopStart.byte)
    (noClose : tape.byte index ≠ Opcode.loopEnd.byte)
    : tape.excess index (index + 1) = 0 := by
  simp [excess, occurrences_succ, noOpen, noClose]

/-- A cell opens a loop, closes one, or does neither. -/
theorem excess_cases (tape : Tape) (index : Nat)
    : (tape.byte index = Opcode.loopStart.byte ∧ tape.excess index (index + 1) = 1)
      ∨ (tape.byte index = Opcode.loopEnd.byte ∧ tape.excess index (index + 1) = -1)
      ∨ tape.excess index (index + 1) = 0 := by
  by_cases opens : tape.byte index = Opcode.loopStart.byte
  · exact .inl ⟨opens, excess_of_open opens⟩
  · by_cases closes : tape.byte index = Opcode.loopEnd.byte
    · exact .inr (.inl ⟨closes, excess_of_close closes⟩)
    · exact .inr (.inr (excess_of_other opens closes))

end Counting

-----------------------------------------------------------------------------------------
-- Levels between a bracket and its partner
-----------------------------------------------------------------------------------------

section Levels

variable {tape : Tape} {depth : Int} {start finish index : Nat}

/-- The depth changes by one at most from cell to cell, so before it comes to zero it is positive.
By induction on the cells passed.
-/
theorem ClosesAt.open_before (closes : tape.ClosesAt depth start index) (positive : 0 < depth)
    {upTo : Nat} (above : start ≤ upTo) (below : upTo ≤ index)
    : 0 < depth + tape.excess start upTo := by
  induction above with
  | refl => simpa using positive
  | @step upTo above ih =>
      rw [Nat.succ_eq_add_one] at below ⊢
      have before := ih (by omega)
      have passed := tape.excess_add above (Nat.le_add_right upTo 1)
      have unbalanced := closes.first upTo above below
      rcases tape.excess_cases upTo with ⟨_, one⟩ | ⟨_, one⟩ | none <;> omega

theorem ClosesAt.byte_eq (closes : tape.ClosesAt depth start index) (positive : 0 < depth)
    : tape.byte index = Opcode.loopEnd.byte ∧ depth + tape.excess start index = 1 := by
  have before := closes.open_before positive closes.above (Nat.le_refl index)
  have level := closes.level
  rw [tape.excess_add closes.above (Nat.le_add_right index 1)] at level
  rcases tape.excess_cases index with ⟨_, one⟩ | ⟨closing, one⟩ | none
  · omega
  · exact ⟨closing, by omega⟩
  · omega

/-- The same going down, by induction on the cells passed. -/
theorem OpensAt.closed_above (opens : tape.OpensAt depth finish index) (positive : 0 < depth)
    {downTo passed : Nat} (reached : downTo + passed = finish) (above : index < downTo)
    : 0 < depth - tape.excess downTo finish := by
  induction passed generalizing downTo with
  | zero =>
      obtain rfl : downTo = finish := by omega
      simpa using positive
  | succ passed ih =>
      have before := @ih (downTo + 1) (by omega) (by omega)
      have split := tape.excess_add (Nat.le_add_right downTo 1) (show downTo + 1 ≤ finish by omega)
      have unbalanced := opens.first downTo above (by omega)
      rcases tape.excess_cases downTo with ⟨_, one⟩ | ⟨_, one⟩ | none <;> omega

theorem OpensAt.byte_eq (opens : tape.OpensAt depth finish index) (positive : 0 < depth)
    : tape.byte index = Opcode.loopStart.byte ∧ depth - tape.excess (index + 1) finish = 1 := by
  have below := opens.below
  have before := @opens.closed_above _ _ _ _ positive (index + 1) (finish - (index + 1)) (by omega)
    (Nat.lt_succ_self index)
  have level := opens.level
  rw [tape.excess_add (Nat.le_add_right index 1) below] at level
  rcases tape.excess_cases index with ⟨opening, one⟩ | ⟨_, one⟩ | none
  · exact ⟨opening, by omega⟩
  · omega
  · omega

end Levels

-----------------------------------------------------------------------------------------
-- The scans
-----------------------------------------------------------------------------------------

section Forwards

variable {tape : Tape} {start index : Nat} {depth : Int} (inside : start < tape.size)

include inside

/-- Going up, the search is over with the first cell if that closes everything. -/
theorem closesAt_iff_of_closed (closed : depth + tape.excess start (start + 1) = 0)
    : tape.ClosesAt depth start index ↔ index = start := by
  constructor
  · intro closes
    apply Decidable.byContradiction
    intro elsewhere
    have above : start < index := Nat.lt_of_le_of_ne closes.above (Ne.symm elsewhere)
    exact closes.first start (Nat.le_refl start) above closed
  · rintro rfl
    exact ⟨Nat.le_refl index, inside, closed, fun earlier above below => by omega⟩

/-- Going up, the search goes on above a cell that leaves something open. -/
theorem closesAt_iff_of_open {later : Int} (passed : depth + tape.excess start (start + 1) = later)
    (stillOpen : later ≠ 0)
    : tape.ClosesAt depth start index ↔ tape.ClosesAt later (start + 1) index := by
  have onwards (upTo : Nat) (above : start + 1 ≤ upTo)
      : depth + tape.excess start upTo = later + tape.excess (start + 1) upTo := by
    rw [tape.excess_add (Nat.le_add_right start 1) above, ← Int.add_assoc, passed]
  constructor
  · intro closes
    have elsewhere : index ≠ start := by
      rintro rfl
      exact stillOpen (passed.symm.trans closes.level)
    have above : start < index := Nat.lt_of_le_of_ne closes.above (Ne.symm elsewhere)
    refine ⟨above, closes.inside, ?_, ?_⟩
    · rw [← onwards (index + 1) (by omega)]
      exact closes.level
    · intro earlier above below
      rw [← onwards (earlier + 1) (by omega)]
      exact closes.first earlier (by omega) below
  · intro closes
    have above := closes.above
    refine ⟨by omega, closes.inside, ?_, ?_⟩
    · rw [onwards (index + 1) (by omega)]
      exact closes.level
    · intro earlier above below
      rw [onwards (earlier + 1) (by omega)]
      by_cases here : earlier = start
      · subst here
        simpa using stillOpen
      · exact closes.first earlier (by omega) below

end Forwards

section Backwards

variable {tape : Tape} {finish index : Nat} {depth : Int}

/-- Going down, the search is over with the first cell if that opens everything. -/
theorem opensAt_iff_of_opened (opened : depth - tape.excess finish (finish + 1) = 0)
    : tape.OpensAt depth (finish + 1) index ↔ index = finish := by
  constructor
  · intro opens
    apply Decidable.byContradiction
    intro elsewhere
    have below := opens.below
    exact opens.first finish (by omega) (Nat.lt_succ_self finish) opened
  · rintro rfl
    exact ⟨Nat.lt_succ_self index, opened, fun later above below => by omega⟩

/-- Going down, the search goes on below a cell that leaves something closed. -/
theorem opensAt_iff_of_closed {later : Int}
    (passed : depth - tape.excess finish (finish + 1) = later) (stillClosed : later ≠ 0)
    : tape.OpensAt depth (finish + 1) index ↔ tape.OpensAt later finish index := by
  have onwards (downTo : Nat) (below : downTo ≤ finish)
      : depth - tape.excess downTo (finish + 1) = later - tape.excess downTo finish := by
    rw [tape.excess_add below (Nat.le_add_right finish 1), ← passed]
    omega
  constructor
  · intro opens
    have elsewhere : index ≠ finish := by
      rintro rfl
      exact stillClosed (passed.symm.trans opens.level)
    have below : index < finish := Nat.lt_of_le_of_ne (Nat.le_of_lt_succ opens.below) elsewhere
    refine ⟨below, ?_, ?_⟩
    · rw [← onwards index (by omega)]
      exact opens.level
    · intro later above below
      rw [← onwards later (by omega)]
      exact opens.first later above (by omega)
  · intro opens
    have below := opens.below
    refine ⟨by omega, ?_, ?_⟩
    · rw [onwards index (by omega)]
      exact opens.level
    · intro later above below
      rw [onwards later (by omega)]
      by_cases here : later = finish
      · subst here
        simpa using stillClosed
      · exact opens.first later above (by omega)

end Backwards

section Scans

variable {tape : Tape}

/-- A forward scan of the rest of the tape finds the cell that closes one loop more than those it
was told of, by induction on the cells that are left.
-/
theorem closingFrom_eq_some_iff {count index depth found : Nat} (rest : count = tape.size - index)
    : tape.closingFrom count index depth = some found
      ↔ tape.ClosesAt (depth + 1) index found := by
  fun_induction closingFrom tape count index depth with
  | case1 index depth =>
      constructor
      · intro scanned
        cases scanned
      · intro closes
        have above := closes.above
        have inside := closes.inside
        omega
  | case2 count index closes =>
      have closed := excess_of_close closes
      rw [closesAt_iff_of_closed (by omega) (by omega), Option.some.injEq, eq_comm]
  | case3 count index closes depth ih =>
      have closed := excess_of_close closes
      exact (ih (by omega)).trans (closesAt_iff_of_open (by omega) (by omega) (by omega)).symm
  | case4 count index depth noClose opens ih =>
      have opened := excess_of_open opens
      exact (ih (by omega)).trans (closesAt_iff_of_open (by omega) (by omega) (by omega)).symm
  | case5 count index depth noClose noOpen ih =>
      have passed := excess_of_other noOpen noClose
      exact (ih (by omega)).trans (closesAt_iff_of_open (by omega) (by omega) (by omega)).symm

/-- A backward scan finds the cell that opens one loop more than those it was told of, by
induction on the index.
-/
theorem openingBelow_eq_some_iff {index depth found : Nat}
    : tape.openingBelow index depth = some found ↔ tape.OpensAt (depth + 1) index found := by
  fun_induction openingBelow tape index depth with
  | case1 depth =>
      constructor
      · intro scanned
        cases scanned
      · intro opens
        exact absurd opens.below (Nat.not_lt_zero found)
  | case2 index opens =>
      have opened := excess_of_open opens
      rw [opensAt_iff_of_opened (by omega), Option.some.injEq, eq_comm]
  | case3 index opens depth ih =>
      have opened := excess_of_open opens
      exact ih.trans (opensAt_iff_of_closed (by omega) (by omega)).symm
  | case4 index depth noOpen closes ih =>
      have closed := excess_of_close closes
      exact ih.trans (opensAt_iff_of_closed (by omega) (by omega)).symm
  | case5 index depth noOpen noClose ih =>
      have passed := excess_of_other noOpen noClose
      exact ih.trans (opensAt_iff_of_closed (by omega) (by omega)).symm

theorem matchingEnd_eq_some_iff {start index : Nat}
    : tape.matchingEnd start = some index
      ↔ tape.ClosesAt 1 (start + 1) index ∧ index + 1 < tape.size := by
  have scan (found : Nat)
      : tape.closingFrom (tape.size - (start + 1)) (start + 1) 0 = some found
        ↔ tape.ClosesAt 1 (start + 1) found :=
    closingFrom_eq_some_iff rfl
  unfold matchingEnd
  cases scanned : tape.closingFrom (tape.size - (start + 1)) (start + 1) 0 with
  | none =>
      have absent : ¬ tape.ClosesAt 1 (start + 1) index := by
        rw [← scan, scanned]
        exact nofun
      simp [absent]
  | some found =>
      rw [← scan, scanned]
      by_cases last : found + 1 < tape.size
      · simp only [if_pos last, Option.some.injEq]
        constructor
        · rintro rfl
          exact ⟨rfl, last⟩
        · exact And.left
      · simp only [if_neg last, reduceCtorEq, Option.some.injEq, false_iff, not_and]
        rintro rfl
        exact last

theorem matchingStart_eq_some_iff {finish index : Nat}
    : tape.matchingStart finish = some index ↔ tape.OpensAt 1 finish index :=
  openingBelow_eq_some_iff

end Scans

end Tape

-----------------------------------------------------------------------------------------
-- Jumps
-----------------------------------------------------------------------------------------

namespace Machine

/-- A step that goes on behind the partner of a bracket, which is before the last cell, and that
faults without doing anything if there is no partner.
-/
def JumpsBehind (machine : Machine) (isPartner : Nat → Prop) (fault : Fault) : Prop :=
  (∀ index, isPartner index
    → index + 1 < machine.tape.size
      ∧ machine.step
        = (.ok (), { machine with
            programCounter := index + 1
            steps := machine.steps + 1 }))
  ∧ ((∀ index, ¬ isPartner index) → machine.step = (.error fault, machine))

/-- Goes to a partner, or faults if there is none. -/
def jumpTo (machine : Machine) (fault : Fault) : Option Nat → Except Fault Unit × Machine
  | some partner => (.ok (), { machine with programCounter := partner })
  | none => (.error fault, machine)

section Jumps

variable {machine : Machine} {index cell : Nat}

/-- A scan that finds just the partners makes such a step. -/
theorem jumpsBehind_of_scan {isPartner : Nat → Prop} {found : Option Nat} {fault : Fault}
    (finds : ∀ partner, found = some partner ↔ isPartner partner)
    (room : ∀ partner, isPartner partner → partner + 1 < machine.tape.size)
    (stepped : machine.step = counted (machine.jumpTo fault found))
    : machine.JumpsBehind isPartner fault := by
  constructor
  · intro partner matched
    rw [(finds partner).mpr matched] at stepped
    exact ⟨room partner matched, stepped⟩
  · intro nowhere
    have nothing : found = none :=
      Option.eq_none_iff_forall_ne_some.mpr
        (fun partner matched => nowhere partner ((finds partner).mp matched))
    rw [nothing] at stepped
    exact stepped

variable (located : machine.tape.locate machine.programCounter = .ok index)
  (current : machine.tape.locate machine.dataPointer = .ok cell)

include located current

/-- On zero, a loop that is entered is left again behind its end. -/
theorem jumpsBehind_loopStart (holds : machine.tape.cell index = .data Opcode.loopStart.byte)
    (zero : machine.tape.byte cell = 0)
    : machine.JumpsBehind
        (fun partner =>
          machine.tape.ClosesAt 1 (index + 1) partner ∧ partner + 1 < machine.tape.size)
        (.program .above) := by
  have executed : machine.execute index .loopStart = machine.enterLoop index cell :=
    execute_of_ok current
  apply jumpsBehind_of_scan (fun _ => Tape.matchingEnd_eq_some_iff) (fun _ => And.right)
  rw [step_eq_counted, attempt, fetch_of_cell located holds]
  simp only [perform, executed, enterLoop, if_pos zero]
  cases machine.tape.matchingEnd index <;> rfl

/-- On anything but zero, a loop that ends is begun again behind its start. -/
theorem jumpsBehind_loopEnd (holds : machine.tape.cell index = .data Opcode.loopEnd.byte)
    (nonzero : machine.tape.byte cell ≠ 0)
    : machine.JumpsBehind (machine.tape.OpensAt 1 index) (.program .below) := by
  have executed : machine.execute index .loopEnd = machine.repeatLoop index cell :=
    execute_of_ok current
  have room (partner : Nat) (opens : machine.tape.OpensAt 1 index partner)
      : partner + 1 < machine.tape.size :=
    Nat.lt_of_le_of_lt opens.below (Tape.locate_eq_ok_iff.mp located).2
  apply jumpsBehind_of_scan (fun _ => Tape.matchingStart_eq_some_iff) room
  rw [step_eq_counted, attempt, fetch_of_cell located holds]
  simp only [perform, executed, repeatLoop, if_neg nonzero]
  cases machine.tape.matchingStart index <;> rfl

end Jumps

/-- From any cell, the forward scan finds the first cell above with which one loop more is closed
than opened, unless that is the last cell of the tape; the backward scan finds the first cell below
with which one loop more is opened than closed. What they find are brackets, and what they look at
are values and no marks. So a bracket that jumps goes on behind the partner that the count gives it,
or it faults at the end of the tape that the scan has come to.
-/
theorem scans_find_counted_partners (tape : Tape) (origin : Nat)
    : (∀ index,
        tape.matchingEnd origin = some index
        ↔ tape.ClosesAt 1 (origin + 1) index ∧ index + 1 < tape.size)
      ∧ (tape.matchingEnd origin = none
        ↔ ∀ index, tape.ClosesAt 1 (origin + 1) index → index + 1 = tape.size)
      ∧ (∀ index, tape.matchingStart origin = some index ↔ tape.OpensAt 1 origin index)
      ∧ (tape.matchingStart origin = none ↔ ∀ index, ¬ tape.OpensAt 1 origin index)
      ∧ (∀ index, tape.matchingEnd origin = some index → tape.byte index = Opcode.loopEnd.byte)
      ∧ (∀ index,
          tape.matchingStart origin = some index → tape.byte index = Opcode.loopStart.byte)
      ∧ (∀ other : Tape,
          other.bytes = tape.bytes
          → other.matchingEnd origin = tape.matchingEnd origin
            ∧ other.matchingStart origin = tape.matchingStart origin)
      ∧ ∀ (machine : Machine) (cell : Nat),
          machine.tape = tape
          → machine.programCounter = origin
          → origin < tape.size
          → machine.dataPointer = cell
          → cell < tape.size
          → (tape.cell origin = .data Opcode.loopStart.byte
              → tape.byte cell = 0
              → machine.JumpsBehind
                  (fun index => tape.ClosesAt 1 (origin + 1) index ∧ index + 1 < tape.size)
                  (.program .above))
            ∧ (tape.cell origin = .data Opcode.loopEnd.byte
              → tape.byte cell ≠ 0
              → machine.JumpsBehind (tape.OpensAt 1 origin) (.program .below)) := by
  have ends (index : Nat) := @Tape.matchingEnd_eq_some_iff tape origin index
  have starts (index : Nat) := @Tape.matchingStart_eq_some_iff tape origin index
  refine ⟨ends, ?_, starts, ?_, ?_, ?_, ?_, ?_⟩
  · rw [Option.eq_none_iff_forall_ne_some]
    constructor
    · intro nowhere index closes
      have inside := closes.inside
      apply Decidable.byContradiction
      intro notLast
      exact nowhere index ((ends index).mpr ⟨closes, by omega⟩)
    · intro last index matched
      obtain ⟨closes, room⟩ := (ends index).mp matched
      have atEnd := last index closes
      omega
  · rw [Option.eq_none_iff_forall_ne_some]
    exact forall_congr' (fun index => not_congr (starts index))
  · intro index matched
    exact (((ends index).mp matched).1.byte_eq Int.one_pos).1
  · intro index matched
    exact (((starts index).mp matched).byte_eq Int.one_pos).1
  · intro other same
    have values := Tape.byte_of_bytes same
    constructor
    · simp only [Tape.matchingEnd, Tape.closingFrom_congr values, Tape.size_of_bytes same]
    · exact Tape.openingBelow_congr values origin 0
  · rintro machine cell rfl counter inside pointer onTape
    have located := Tape.locate_eq_ok_iff.mpr ⟨counter, inside⟩
    have current := Tape.locate_eq_ok_iff.mpr ⟨pointer, onTape⟩
    exact ⟨jumpsBehind_loopStart located current, jumpsBehind_loopEnd located current⟩

/-- A loop around a loop and a mark is left on zero. -/
theorem scans_find_counted_partners_nested
    : ∃ machine : Machine,
        machine.tape.cells
          = #[.data 0x5B, .data 0x5B, .data 0x5D, .endMark, .data 0x5D, .data 0]
        ∧ machine.programCounter = 0
        ∧ machine.dataPointer = 5
        ∧ machine.tape.ClosesAt 1 1 4
        ∧ machine.step
          = (.ok (), { machine with
              programCounter := 5
              steps := machine.steps + 1 }) := by
  let tape : Tape := ⟨#[.data 0x5B, .data 0x5B, .data 0x5D, .endMark, .data 0x5D, .data 0]⟩
  let machine : Machine :=
    { create 0 (.bytes []) (.scripted (.ofReplies [] [])) with
      tape := tape
      dataPointer := 5 }
  obtain ⟨ends, _, _, _, _, _, _, jumps⟩ := scans_find_counted_partners tape 0
  have closes := (ends 4).mp (by decide)
  have behind := (jumps machine 5 rfl rfl (by decide) rfl (by decide)).1 rfl rfl
  exact ⟨machine, rfl, rfl, rfl, closes.1, (behind.1 4 closes).2⟩

end Machine

end TapeMachine
