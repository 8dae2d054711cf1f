import TapeMachine.Proofs.BracketDepths

/-! The two bracket scans pair the same cells. Either scan finds a partner exactly if the brackets
between the two cells are balanced, which reads the same from both ends; and pairs of this kind lie
inside each other or apart.
-/

namespace TapeMachine.Tape

/-- A loop on the tape as it is: an opening and a closing bracket, and in between no more loops
closed than opened at any point, and as many in the end.
-/
structure Loop (tape : Tape) (start finish : Nat) : Prop where
  opens : tape.byte start = Opcode.loopStart.byte
  closes : tape.byte finish = Opcode.loopEnd.byte
  order : start + 1 ≤ finish
  balanced : tape.excess (start + 1) finish = 0
  nested : ∀ index, start < index → index ≤ finish → 0 ≤ tape.excess (start + 1) index

/-- One of the two scans finds one of the two brackets from the other one. -/
def Paired (tape : Tape) (start finish : Nat) : Prop :=
  (tape.byte start = Opcode.loopStart.byte ∧ tape.matchingEnd start = some finish)
  ∨ (tape.byte finish = Opcode.loopEnd.byte ∧ tape.matchingStart finish = some start)

variable {tape : Tape} {start finish : Nat}

/-- Beyond the tape there are only zeros, so a bracket is on it. -/
theorem lt_size_of_loopEnd {index : Nat} (closes : tape.byte index = Opcode.loopEnd.byte)
    : index < tape.size := by
  apply Decidable.byContradiction
  intro outside
  rw [byte, cell_of_size_le (Nat.not_lt.mp outside)] at closes
  exact absurd closes (by decide)

-----------------------------------------------------------------------------------------
-- Loops from either end
-----------------------------------------------------------------------------------------

/-- Going up from an opening bracket, a loop is what ends with the first cell that closes it. -/
theorem closesAt_iff_loop (opens : tape.byte start = Opcode.loopStart.byte)
    : tape.ClosesAt 1 (start + 1) finish ↔ tape.Loop start finish := by
  constructor
  · intro ends
    obtain ⟨closes, level⟩ := ends.byte_eq Int.one_pos
    refine ⟨opens, closes, ends.above, by omega, ?_⟩
    intro index above below
    have positive := ends.open_before Int.one_pos (show start + 1 ≤ index from above) below
    omega
  · intro loop
    refine ⟨loop.order, lt_size_of_loopEnd loop.closes, ?_, ?_⟩
    · have last := excess_of_close loop.closes
      have balanced := loop.balanced
      rw [tape.excess_add loop.order (Nat.le_add_right finish 1)]
      omega
    · intro earlier above below
      have nested := loop.nested (earlier + 1) (by omega) below
      omega

/-- Going down from a closing bracket, a loop is what begins with the first cell that opens it. -/
theorem opensAt_iff_loop (closes : tape.byte finish = Opcode.loopEnd.byte)
    : tape.OpensAt 1 finish start ↔ tape.Loop start finish := by
  constructor
  · intro begins
    obtain ⟨opens, level⟩ := begins.byte_eq Int.one_pos
    refine ⟨opens, closes, begins.below, by omega, ?_⟩
    intro index above below
    have positive := @begins.closed_above _ _ _ _ Int.one_pos index (finish - index) (by omega)
      above
    have split := tape.excess_add (show start + 1 ≤ index from above) below
    omega
  · intro loop
    refine ⟨loop.order, ?_, ?_⟩
    · have first := excess_of_open loop.opens
      have balanced := loop.balanced
      rw [tape.excess_add (Nat.le_add_right start 1) loop.order]
      omega
    · intro later above below
      have nested := loop.nested later above (by omega)
      have balanced := loop.balanced
      rw [tape.excess_add (show start + 1 ≤ later from above) (Nat.le_of_lt below)] at balanced
      omega

theorem matchingEnd_eq_some_iff_loop (opens : tape.byte start = Opcode.loopStart.byte)
    : tape.matchingEnd start = some finish
      ↔ tape.Loop start finish ∧ finish + 1 < tape.size := by
  rw [matchingEnd_eq_some_iff, closesAt_iff_loop opens]

theorem matchingStart_eq_some_iff_loop (closes : tape.byte finish = Opcode.loopEnd.byte)
    : tape.matchingStart finish = some start ↔ tape.Loop start finish := by
  rw [matchingStart_eq_some_iff, opensAt_iff_loop closes]

theorem Paired.loop (paired : tape.Paired start finish)
    : tape.Loop start finish := by
  rcases paired with ⟨opens, matched⟩ | ⟨closes, matched⟩
  · exact ((matchingEnd_eq_some_iff_loop opens).mp matched).1
  · exact (matchingStart_eq_some_iff_loop closes).mp matched

-----------------------------------------------------------------------------------------
-- Loops beside each other
-----------------------------------------------------------------------------------------

/-- A loop has no more than one end, since behind an end there are more loops closed than opened. -/
theorem Loop.finish_le {last : Nat} (loop : tape.Loop start finish) (other : tape.Loop start last)
    : finish ≤ last := by
  apply Decidable.byContradiction
  intro shorter
  have nested := loop.nested (last + 1) (Nat.le_succ_of_le other.order) (by omega)
  rw [tape.excess_add other.order (Nat.le_add_right last 1), other.balanced,
    excess_of_close other.closes] at nested
  omega

/-- Of two loops, the one that starts later ends before the other one does, unless it starts
behind it.
-/
theorem Loop.apart_or_inside {laterStart laterFinish : Nat} (loop : tape.Loop start finish)
    (later : tape.Loop laterStart laterFinish) (order : start < laterStart)
    : finish < laterStart ∨ laterFinish < finish := by
  apply Decidable.byContradiction
  intro crossing
  have differs : laterStart ≠ finish := by
    intro same
    have bothBrackets := later.opens.symm.trans (same ▸ loop.closes)
    exact absurd bothBrackets (by decide)
  -- The later loop is still open at the end of the other one, which would then not be balanced.
  have before := loop.nested laterStart order (by omega)
  have inside := later.nested finish (by omega) (by omega)
  have opened := excess_of_open later.opens
  have balanced := loop.balanced
  rw [tape.excess_add (show start + 1 ≤ laterStart from order) (show laterStart ≤ finish by omega),
    tape.excess_add (Nat.le_add_right laterStart 1) (show laterStart + 1 ≤ finish by omega)]
    at balanced
  omega

/-- The scans are inverse to each other on brackets, but for an end in the last cell of the tape,
which only the backward scan accepts. Pairs of brackets never cross.
-/
theorem scans_invert_each_other (tape : Tape)
    : (∀ start finish,
        tape.byte start = Opcode.loopStart.byte
        → tape.matchingEnd start = some finish
        → tape.matchingStart finish = some start)
      ∧ (∀ start finish,
          tape.byte finish = Opcode.loopEnd.byte
          → tape.matchingStart finish = some start
          → (finish + 1 < tape.size → tape.matchingEnd start = some finish)
            ∧ (finish + 1 = tape.size → tape.matchingEnd start = none)
            ∧ finish < tape.size)
      ∧ ∀ start finish laterStart laterFinish,
          tape.Paired start finish
          → tape.Paired laterStart laterFinish
          → start < laterStart
          → finish < laterStart ∨ laterFinish < finish := by
  refine ⟨?_, ?_, ?_⟩
  · intro start finish opens matched
    obtain ⟨loop, _⟩ := (matchingEnd_eq_some_iff_loop opens).mp matched
    exact (matchingStart_eq_some_iff_loop loop.closes).mpr loop
  · intro start finish closes matched
    have loop := (matchingStart_eq_some_iff_loop closes).mp matched
    have ends (index : Nat) := @matchingEnd_eq_some_iff_loop tape start index loop.opens
    refine ⟨fun room => (ends finish).mpr ⟨loop, room⟩, ?_, lt_size_of_loopEnd closes⟩
    intro last
    apply Option.eq_none_iff_forall_ne_some.mpr
    intro index found
    obtain ⟨shorter, room⟩ := (ends index).mp found
    have below := loop.finish_le shorter
    omega
  · intro start finish laterStart laterFinish first second order
    exact first.loop.apart_or_inside second.loop order

/-- A loop inside a loop that ends in the last cell, behind a bracket without a partner. -/
theorem scans_invert_each_other_last_cell
    : ∃ tape : Tape,
        tape.cells = #[.data 0x5D, .data 0x5B, .data 0x5B, .data 0x5D, .data 0x5D]
        ∧ tape.matchingEnd 2 = some 3
        ∧ tape.matchingStart 3 = some 2
        ∧ tape.matchingStart 4 = some 1
        ∧ tape.matchingEnd 1 = none
        ∧ (4 < 2 ∨ 3 < 4) := by
  let tape : Tape := ⟨#[.data 0x5D, .data 0x5B, .data 0x5B, .data 0x5D, .data 0x5D]⟩
  obtain ⟨backward, forward, nested⟩ := scans_invert_each_other tape
  have inner : tape.matchingEnd 2 = some 3 := by decide
  have outer : tape.matchingStart 4 = some 1 := by decide
  exact ⟨tape, rfl, inner, backward 2 3 rfl inner, outer, (forward 1 4 rfl outer).2.1 rfl,
    nested 1 4 2 3 (.inr ⟨rfl, outer⟩) (.inl ⟨rfl, inner⟩) (by decide)⟩

end TapeMachine.Tape
