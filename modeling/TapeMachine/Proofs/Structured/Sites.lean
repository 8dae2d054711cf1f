import TapeMachine.Proofs.Structured.Steps

/-! The places of a well-nested program. At every offset of its instructions there is a command or
one of the two brackets of a loop, and behind the last of them there is the mark; where the
program lies on the tape, a step at such a place does what the program says.
-/

namespace TapeMachine

theorem Tape.Holds.getElem? {tape : Tape} {start offset : Nat} {ops : List Opcode} {op : Opcode}
    (holds : tape.Holds start ops) (held : ops[offset]? = some op)
    : tape.cell (start + offset) = .data op.byte := by
  induction ops generalizing start offset with
  | nil => simp at held
  | cons first rest ih =>
      cases offset with
      | zero =>
          obtain rfl : first = op := by simpa using held
          exact holds.1
      | succ offset =>
          rw [List.getElem?_cons_succ] at held
          have later := ih holds.2 held
          rwa [Nat.add_right_comm] at later

namespace Structured

-----------------------------------------------------------------------------------------
-- Pieces of a program and their offsets
-----------------------------------------------------------------------------------------

/-- A piece of a program, and the offset of its instructions among those of the program. -/
inductive Block.Piece (program : Block) : Nat → Block → Prop
  | whole : Piece program 0 program
  | behindCommand {offset : Nat} {first : Command} {rest : Block}
    (piece : Piece program offset (.command first rest))
    : Piece program (offset + 1) rest
  | insideLoop {offset : Nat} {body rest : Block}
    (piece : Piece program offset (.loop body rest))
    : Piece program (offset + 1) body
  | behindLoop {offset : Nat} {body rest : Block}
    (piece : Piece program offset (.loop body rest))
    : Piece program (offset + 1 + body.opcodes.length + 1) rest

/-- The brackets of a loop of the program have these offsets. -/
def Block.HasLoop (program : Block) (first last : Nat) : Prop :=
  ∃ body rest, program.Piece first (.loop body rest) ∧ last = first + 1 + body.opcodes.length

/-- The instructions of a piece are those at its offset, by induction on the way to the piece. -/
theorem Block.Piece.split {program block : Block} {offset : Nat}
    (piece : program.Piece offset block)
    : ∃ before behind,
        program.opcodes = before ++ (block.opcodes ++ behind) ∧ before.length = offset := by
  induction piece with
  | whole => exact ⟨[], [], by simp, rfl⟩
  | @behindCommand offset first rest _ ih =>
      obtain ⟨before, behind, whole, count⟩ := ih
      exact ⟨before ++ [first.opcode], behind, by simp [whole, opcodes], by simp [count]⟩
  | @insideLoop offset body rest _ ih =>
      obtain ⟨before, behind, whole, count⟩ := ih
      exact ⟨before ++ [.loopStart], .loopEnd :: (rest.opcodes ++ behind),
        by simp [whole, opcodes], by simp [count]⟩
  | @behindLoop offset body rest _ ih =>
      obtain ⟨before, behind, whole, count⟩ := ih
      refine ⟨before ++ .loopStart :: (body.opcodes ++ [.loopEnd]), behind,
        by simp [whole, opcodes], ?_⟩
      simp only [List.length_append, List.length_cons, List.length_nil, count]
      omega

theorem Block.Piece.getElem? {program block : Block} {offset : Nat}
    (piece : program.Piece offset block) {index : Nat} {op : Opcode}
    (held : block.opcodes[index]? = some op)
    : program.opcodes[offset + index]? = some op := by
  obtain ⟨before, behind, whole, rfl⟩ := piece.split
  have inside := (List.getElem?_eq_some_iff.mp held).1
  rw [whole, List.getElem?_append_right (Nat.le_add_right _ _), Nat.add_sub_cancel_left,
    List.getElem?_append_left inside, held]

theorem Block.Piece.length_le {program block : Block} {offset : Nat}
    (piece : program.Piece offset block)
    : offset + block.opcodes.length ≤ program.opcodes.length := by
  obtain ⟨before, behind, whole, count⟩ := piece.split
  rw [whole, List.length_append, List.length_append]
  omega

/-- The brackets of a loop stand where it says, by looking them up in its piece. -/
theorem Block.HasLoop.brackets {program : Block} {first last : Nat}
    (loop : program.HasLoop first last)
    : program.opcodes[first]? = some .loopStart ∧ program.opcodes[last]? = some .loopEnd := by
  obtain ⟨body, rest, piece, rfl⟩ := loop
  have opening : (Block.loop body rest).opcodes[0]? = some .loopStart := rfl
  have closing : (Block.loop body rest).opcodes[1 + body.opcodes.length]? = some .loopEnd := by
    simp [opcodes, Nat.add_comm 1]
  exact ⟨piece.getElem? opening, by rw [Nat.add_assoc]; exact piece.getElem? closing⟩

/-- A loop ends within the program. -/
theorem Block.HasLoop.lt_length {program : Block} {first last : Nat}
    (loop : program.HasLoop first last)
    : first < last ∧ last < program.opcodes.length := by
  obtain ⟨body, rest, piece, rfl⟩ := loop
  have bound := piece.length_le
  simp only [opcodes, List.length_cons, List.length_append] at bound
  omega

/-- What is found at an offset of a program: a command, one of the brackets that make the test of
a loop, or the mark behind the program.
-/
inductive Block.Site (program : Block) (offset : Nat) : Prop
  | command {command : Command} (held : program.opcodes[offset]? = some command.opcode)
  | test {start : Nat} {body rest : Block} (piece : program.Piece start (.loop body rest))
    (bracket : offset = start ∨ offset = start + 1 + body.opcodes.length)
  | mark (behind : offset = program.opcodes.length)

/-- Inside a piece there is no mark, by induction on the piece. -/
theorem Block.Piece.site {program block : Block} {start offset : Nat}
    (piece : program.Piece start block) (inside : offset < block.opcodes.length)
    : program.Site (start + offset) := by
  induction block generalizing start offset with
  | done => simp [opcodes] at inside
  | command first rest ih =>
      cases offset with
      | zero =>
          have held : (Block.command first rest).opcodes[0]? = some first.opcode := rfl
          exact .command (piece.getElem? held)
      | succ offset =>
          rw [opcodes, List.length_cons] at inside
          have later := ih piece.behindCommand (Nat.lt_of_succ_lt_succ inside)
          rwa [Nat.add_right_comm] at later
  | loop body rest inner ih =>
      simp only [opcodes, List.length_cons, List.length_append] at inside
      -- The offset is that of the first bracket, in the body, of the last bracket, or behind it.
      rcases Nat.lt_trichotomy offset (body.opcodes.length + 1) with before | last | behind
      · cases offset with
        | zero => exact .test piece (Or.inl rfl)
        | succ offset =>
            have within := inner piece.insideLoop (Nat.lt_of_succ_lt_succ before)
            rwa [Nat.add_right_comm] at within
      · exact .test piece (Or.inr (by omega))
      · have later := ih piece.behindLoop
          (show offset - (body.opcodes.length + 2) < rest.opcodes.length by omega)
        rwa [show start + 1 + body.opcodes.length + 1 + (offset - (body.opcodes.length + 2))
          = start + offset by omega] at later

/-- There is something at every offset up to the mark. -/
theorem Block.site (program : Block) {offset : Nat} (within : offset ≤ program.opcodes.length)
    : program.Site offset := by
  rcases Nat.lt_or_eq_of_le within with inside | last
  · have site := Piece.whole.site inside
    rwa [Nat.zero_add] at site
  · exact .mark last

-----------------------------------------------------------------------------------------
-- Programs in place
-----------------------------------------------------------------------------------------

/-- A program lies on a tape from an index on, with a mark behind it. -/
structure InPlace (program : Block) (start : Nat) (tape : Tape) : Prop where
  holds : tape.Holds start program.opcodes
  marked : tape.cell (start + program.opcodes.length) = .endMark

/-- Only the cells of the program and its mark matter. -/
theorem InPlace.congr {program : Block} {start : Nat} {tape other : Tape}
    (placed : InPlace program start tape)
    (same : ∀ index, start ≤ index → index ≤ start + program.opcodes.length
      → other.cell index = tape.cell index)
    : InPlace program start other := by
  refine ⟨placed.holds.congr ?_, ?_⟩
  · intro index above below
    exact same index above (Nat.le_of_lt below)
  · exact (same _ (Nat.le_add_right _ _) (Nat.le_refl _)).trans placed.marked

theorem InPlace.room {program : Block} {start : Nat} {tape : Tape}
    (placed : InPlace program start tape)
    : start + program.opcodes.length < tape.size :=
  Tape.lt_size_of_endMark placed.marked

theorem InPlace.holds_piece {program block : Block} {start offset : Nat} {tape : Tape}
    (placed : InPlace program start tape) (piece : program.Piece offset block)
    : tape.Holds (start + offset) block.opcodes := by
  obtain ⟨before, behind, whole, rfl⟩ := piece.split
  have holds := placed.holds
  rw [whole] at holds
  exact holds.append_right.append_left

/-- A load puts a program in place. -/
theorem inPlace_of_load {machine loaded : Machine} {source : String} {address : Int}
    {diagnostics : List Source.Diagnostic} {program : Block}
    (lexed : (Source.Program.ofString source).opcodes = program.opcodes)
    (loads : machine.load source address = (.ok diagnostics, loaded))
    : ∃ start : Nat, address = start ∧ InPlace program start loaded.tape := by
  obtain ⟨start, located, room, rfl⟩ := Machine.load_eq_ok loads
  rw [lexed] at room ⊢
  refine ⟨start, located, ?_, ?_⟩
  · apply (Tape.holds_storeAll machine.tape (Nat.le_of_lt room)).congr
    intro index _ below
    exact (Tape.cell_mark _ _ _).trans (if_neg (by omega))
  · rw [← Tape.size_storeAll] at room
    exact (Tape.cell_mark _ _ _).trans (if_pos ⟨rfl, room⟩)

end Structured

-----------------------------------------------------------------------------------------
-- Steps at the places of a program
-----------------------------------------------------------------------------------------

/-- The test of a loop with brackets at these indices: the current cell decides whether the
machine goes on behind the loop or in its body.
-/
def Machine.testLoop (machine : Machine) (first last : Nat) : Except Fault Unit × Machine :=
  match machine.tape.locate machine.dataPointer with
  | .error side => (.error (.memory side), machine)
  | .ok cell =>
      (.ok (), machine.goTo (if machine.tape.byte cell = 0 then last + 1 else first + 1))

namespace Structured

section Steps

variable {program : Block} {start : Nat} {machine : Machine}
  (placed : InPlace program start machine.tape)
include placed

theorem InPlace.fetch_of_instruction {offset : Nat} {op : Opcode}
    (held : program.opcodes[offset]? = some op)
    (here : machine.programCounter = (start + offset : Nat))
    : machine.fetch = .ok (.instruction (start + offset) op) := by
  have bound := (List.getElem?_eq_some_iff.mp held).1
  have room := placed.room
  exact Machine.fetch_of_cell (Tape.locate_eq_ok_iff.mpr ⟨here, by omega⟩)
    (placed.holds.getElem? held)

theorem InPlace.fetch_of_mark
    (here : machine.programCounter = (start + program.opcodes.length : Nat))
    : machine.fetch = .ok .halt :=
  Machine.fetch_of_endMark (Tape.locate_eq_ok_iff.mpr ⟨here, placed.room⟩) placed.marked

/-- Both brackets of a loop make its test. -/
theorem InPlace.step_of_test {first : Nat} {body rest : Block}
    (piece : program.Piece first (.loop body rest))
    (here : machine.programCounter = (start + first : Nat)
      ∨ machine.programCounter = (start + (first + 1 + body.opcodes.length) : Nat))
    : machine.step
      = machine.testLoop (start + first) (start + (first + 1 + body.opcodes.length)) := by
  have holds := placed.holds_piece piece
  have room : start + first + 1 + body.opcodes.length + 1 < machine.tape.size := by
    have bound := piece.length_le
    have room := placed.room
    simp only [Block.opcodes, List.length_cons, List.length_append] at bound
    omega
  have entry : machine.programCounter = (start + first : Nat)
      ∨ machine.programCounter = (start + first : Nat) + 1 + body.opcodes.length := by
    omega
  unfold Machine.testLoop
  cases located : machine.tape.locate machine.dataPointer with
  | error side => exact step_of_test_off_tape holds room entry located
  | ok cell =>
      rw [Structured.step_of_test holds room entry located]
      simp only [Nat.add_assoc]

end Steps

end Structured

end TapeMachine
