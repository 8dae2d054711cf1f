import TapeMachine.Proofs.LoadWindows

/-! Loads that do not overlap can be made in either order. A load settles what is seen in its
window, whatever was there before, and keeps what is seen elsewhere; so two loads of disjoint
windows are no concern of each other's, whether or not they find room.
-/

namespace TapeMachine.Machine

open Source (symbols)

/-- An address that a text takes up from an address on: there is one for every symbol, and one for
the mark behind them.
-/
def InWindow (text : List Char) (address place : Int) : Prop :=
  address ≤ place ∧ place ≤ address + text.length

/-- The windows of two texts have no address in common. -/
def WindowsApart (first : List Char) (here : Int) (second : List Char) (there : Int) : Prop :=
  ∀ place, InWindow first here place → ¬ InWindow second there place

/-- A program lies on the tape from an address on. Its codes are there, none of them under a mark,
and its mark is behind them.
-/
structure IntactAt (machine : Machine) (address : Int) (text : List Char) : Prop where
  code : ∀ (offset : Nat) c, text[offset]? = some c
    → machine.seenAt (address + offset) = (.ok c.toUInt8, false)
  mark : machine.seenAt (address + text.length) = (.ok 0xFF, true)

-----------------------------------------------------------------------------------------
-- Programs on the tape
-----------------------------------------------------------------------------------------

theorem inWindow_iff {text : List Char} {address place : Int}
    : InWindow text address place
      ↔ ∃ offset : Nat, offset ≤ text.length ∧ place = address + offset := by
  constructor
  · rintro ⟨above, below⟩
    exact ⟨(place - address).toNat, by omega, by omega⟩
  · rintro ⟨offset, within, rfl⟩
    exact ⟨by omega, by omega⟩

theorem WindowsApart.symm {first second : List Char} {here there : Int}
    (apart : WindowsApart first here second there)
    : WindowsApart second there first here :=
  fun place inside alsoInside => apart place alsoInside inside

/-- Windows are apart if one of them ends before the other one begins. -/
theorem windowsApart_iff {first second : List Char} {here there : Int}
    : WindowsApart first here second there
      ↔ here + first.length < there ∨ there + second.length < here := by
  constructor
  · intro apart
    -- The window that begins later has its first address outside of the other one.
    have atHere : ¬ InWindow second there here := apart here ⟨by omega, by omega⟩
    have atThere : ¬ InWindow first here there :=
      fun inside => apart there inside ⟨by omega, by omega⟩
    unfold InWindow at atHere atThere
    omega
  · rintro before place ⟨above, below⟩ ⟨alsoAbove, alsoBelow⟩
    omega

section Programs

variable {machine after : Machine} {address : Int} {text : List Char}

/-- A program stays where it is if nothing else is seen in its window. -/
theorem IntactAt.congr (intact : machine.IntactAt address text)
    (same : ∀ place, InWindow text address place → after.seenAt place = machine.seenAt place)
    : after.IntactAt address text where
  code offset c found := by
    have within : offset ≤ text.length := Nat.le_of_lt (List.getElem?_eq_some_iff.mp found).1
    rw [same _ (inWindow_iff.mpr ⟨offset, within, rfl⟩)]
    exact intact.code offset c found
  mark := by
    rw [same _ (inWindow_iff.mpr ⟨text.length, Nat.le_refl _, rfl⟩)]
    exact intact.mark

/-- Where the same program lies, the same is seen, by cases on what stands at an offset. -/
theorem IntactAt.seenAt_eq (intact : machine.IntactAt address text)
    (alsoIntact : after.IntactAt address text) {place : Int} (inside : InWindow text address place)
    : after.seenAt place = machine.seenAt place := by
  obtain ⟨offset, within, rfl⟩ := inWindow_iff.mp inside
  cases found : text[offset]? with
  | some c => rw [intact.code offset c found, alsoIntact.code offset c found]
  | none =>
      have last : offset = text.length :=
        Nat.le_antisymm within (List.getElem?_eq_none_iff.mp found)
      rw [last, intact.mark, alsoIntact.mark]

theorem LoadedAt.intactAt (loaded : machine.LoadedAt address text after)
    : after.IntactAt address text where
  code offset c found := by
    have inside : offset < text.length := (List.getElem?_eq_some_iff.mp found).1
    have unmarked : after.isEnd (address + offset) = false := by
      rw [Bool.eq_false_iff]
      intro marked
      rcases (loaded.marks _).mp marked with last | ⟨_, outside⟩ <;> omega
    exact Prod.ext (loaded.code offset c found) unmarked
  mark := Prod.ext loaded.sentinel ((loaded.marks _).mpr (.inl rfl))

theorem LoadedAt.seenAt_eq (loaded : machine.LoadedAt address text after) {place : Int}
    (outside : ¬ InWindow text address place)
    : after.seenAt place = machine.seenAt place := by
  have apart : place < address ∨ address + text.length < place := by
    unfold InWindow at outside
    omega
  have marks : after.isEnd place = machine.isEnd place := by
    rw [Bool.eq_iff_iff, loaded.marks]
    constructor
    · rintro (rfl | ⟨marked, _⟩)
      · omega
      · exact marked
    · intro marked
      exact .inr ⟨marked, by omega⟩
  exact Prod.ext (loaded.frame place apart) marks

end Programs

-----------------------------------------------------------------------------------------
-- One load
-----------------------------------------------------------------------------------------

section Loads

variable {machine other loaded : Machine} {source : String} {address : Int}
  {diagnostics : List Source.Diagnostic}

theorem loadedAt_of_load (answered : machine.load source address = (.ok diagnostics, loaded))
    : machine.LoadedAt address (symbols source.toList) loaded := by
  obtain ⟨start, rfl, room, _⟩ := load_eq_ok answered
  rw [length_opcodes] at room
  have fits : (start : Int) + (symbols source.toList).length < machine.tape.size := by omega
  obtain ⟨_, again, window⟩ := load_of_fitting (Int.natCast_nonneg start) fits
  rw [answered] at again
  rwa [(Prod.mk.inj again).2]

/-- Whether a load finds room is a matter of how long the tape is. -/
theorem load_fst_congr (size : other.tape.size = machine.tape.size) (source : String)
    (address : Int)
    : (other.load source address).1 = (machine.load source address).1 := by
  simp only [load, Tape.locate_congr size]
  split
  · rfl
  · split <;> rfl

theorem load_registers (machine : Machine) (source : String) (address : Int)
    : (machine.load source address).2
      = { machine with tape := (machine.load source address).2.tape } := by
  rcases answered : machine.load source address with ⟨fault | diagnostics, loaded⟩
  · rw [load_eq_error answered]
  · exact (loadedAt_of_load answered).registers

/-- A load keeps what is seen outside of its window, also if it faults. -/
theorem seenAt_load_of_outside {place : Int}
    (outside : ¬ InWindow (symbols source.toList) address place)
    : (machine.load source address).2.seenAt place = machine.seenAt place := by
  rcases answered : machine.load source address with ⟨fault | diagnostics, loaded⟩
  · rw [load_eq_error answered]
  · exact (loadedAt_of_load answered).seenAt_eq outside

/-- What is seen at an address after a load depends on what was seen there before, and on nothing
else on the tape.
-/
theorem seenAt_load_congr (size : other.tape.size = machine.tape.size) {place : Int}
    (same : other.seenAt place = machine.seenAt place)
    : (other.load source address).2.seenAt place
      = (machine.load source address).2.seenAt place := by
  by_cases inside : InWindow (symbols source.toList) address place
  · have outcomes := load_fst_congr size source address
    rcases answered : machine.load source address with ⟨fault | diagnostics, loaded⟩ <;>
      rcases alsoAnswered : other.load source address with ⟨_, alsoLoaded⟩ <;>
      rw [answered, alsoAnswered] at outcomes <;>
      cases outcomes
    · rw [load_eq_error answered, load_eq_error alsoAnswered, same]
    · exact (loadedAt_of_load answered).intactAt.seenAt_eq
        (loadedAt_of_load alsoAnswered).intactAt inside
  · rw [seenAt_load_of_outside inside, seenAt_load_of_outside inside, same]

/-- A load that is made again finds everything as it is to leave it. -/
theorem load_load (machine : Machine) (source : String) (address : Int)
    : (machine.load source address).2.load source address = machine.load source address := by
  have outcomes := load_fst_congr (machine.size_load source address) source address
  rcases answered : machine.load source address with ⟨fault | diagnostics, loaded⟩
  · obtain rfl := load_eq_error answered
    exact answered
  · rcases again : loaded.load source address with ⟨_, reloaded⟩
    rw [answered, again] at outcomes
    cases outcomes
    have first := loadedAt_of_load answered
    have second := loadedAt_of_load again
    obtain rfl : reloaded = loaded := by
      apply eq_of_seenAt rfl second.registers second.size
      intro place
      by_cases inside : InWindow (symbols source.toList) address place
      · exact first.intactAt.seenAt_eq second.intactAt inside
      · exact second.seenAt_eq inside
    rfl

end Loads

-----------------------------------------------------------------------------------------
-- Two loads
-----------------------------------------------------------------------------------------

section TwoLoads

variable (machine : Machine) (first second : String) (here there : Int)

/-- The outcome of a load is the same after another load. -/
theorem load_fst_of_load
    : ((machine.load first here).2.load second there).1 = (machine.load second there).1 :=
  load_fst_congr (machine.size_load first here) second there

theorem load_load_registers
    : ((machine.load first here).2.load second there).2
      = { machine with tape := ((machine.load first here).2.load second there).2.tape } := by
  let both := ((machine.load first here).2.load second there).2
  have kept : { (machine.load first here).2 with tape := both.tape }
      = { machine with tape := both.tape } :=
    congrArg (fun before : Machine => { before with tape := both.tape })
      (machine.load_registers first here)
  exact (load_registers _ second there).trans kept

variable {first second here there}
  (apart : WindowsApart (symbols first.toList) here (symbols second.toList) there)

include apart

/-- Every address is outside of one of the windows, and there the load of that window does nothing
before or after the other one.
-/
theorem load_comm
    : ((machine.load first here).2.load second there).2
      = ((machine.load second there).2.load first here).2 := by
  have size : ((machine.load first here).2.load second there).2.tape.size
      = ((machine.load second there).2.load first here).2.tape.size := by
    simp only [size_load]
  apply eq_of_seenAt (machine.load_load_registers second first there here)
    (machine.load_load_registers first second here there) size
  intro place
  by_cases inside : InWindow (symbols first.toList) here place
  · have outside := apart place inside
    rw [seenAt_load_of_outside outside]
    exact (seenAt_load_congr (machine.size_load second there)
      (seenAt_load_of_outside outside)).symm
  · rw [seenAt_load_of_outside inside]
    exact seenAt_load_congr (machine.size_load first here) (seenAt_load_of_outside inside)

/-- A program that was loaded is still there after a load elsewhere. -/
theorem intactAt_of_load_of_load {machine : Machine} {diagnostics : List Source.Diagnostic}
    (answered : (machine.load first here).1 = .ok diagnostics)
    : ((machine.load first here).2.load second there).2.IntactAt here (symbols first.toList) := by
  have loaded := loadedAt_of_load (Prod.ext answered rfl)
  apply loaded.intactAt.congr
  intro place inside
  exact seenAt_load_of_outside (apart place inside)

end TwoLoads

/-- Loads into windows that have no address in common commute. In either order each of them has the
outcome that it has alone, diagnostics or fault, and the same machine is left in the end, on which
every program that found room is intact, mark included. A load that is made twice in a row is as
good as one.
-/
theorem disjoint_loads_commute (machine : Machine)
    : (∀ (first second : String) (here there : Int),
        WindowsApart (symbols first.toList) here (symbols second.toList) there
        → ∃ firstOutcome secondOutcome afterFirst afterSecond both,
            machine.load first here = (firstOutcome, afterFirst)
            ∧ afterFirst.load second there = (secondOutcome, both)
            ∧ machine.load second there = (secondOutcome, afterSecond)
            ∧ afterSecond.load first here = (firstOutcome, both)
            ∧ (∀ diagnostics, firstOutcome = .ok diagnostics
              → both.IntactAt here (symbols first.toList))
            ∧ (∀ diagnostics, secondOutcome = .ok diagnostics
              → both.IntactAt there (symbols second.toList)))
      ∧ ∀ (source : String) (address : Int),
          (machine.load source address).2.load source address = machine.load source address := by
  refine ⟨?_, machine.load_load⟩
  intro first second here there apart
  have commutes := machine.load_comm apart
  refine ⟨(machine.load first here).1, (machine.load second there).1,
    (machine.load first here).2, (machine.load second there).2,
    ((machine.load first here).2.load second there).2, rfl,
    Prod.ext (machine.load_fst_of_load first second here there) rfl, rfl,
    Prod.ext (machine.load_fst_of_load second first there here) commutes.symm,
    fun _ => intactAt_of_load_of_load apart, ?_⟩
  intro _ answered
  rw [commutes]
  exact intactAt_of_load_of_load apart.symm answered

/-- Two programs side by side, the second one over an old mark; and one that finds no room there. -/
theorem disjoint_loads_commute_side_by_side
    : ∃ machine both : Machine,
        machine.tape.cells = #[.data 7, .endMark, .data 7, .endMark, .data 7, .data 7]
        ∧ (machine.load "+!-" 0).1 = .ok (Source.Program.ofString "+!-").diagnostics
        ∧ (machine.load "+!-" 0).2.load "[" 3
          = (.ok (Source.Program.ofString "[").diagnostics, both)
        ∧ (machine.load "[" 3).2.load "+!-" 0
          = (.ok (Source.Program.ofString "+!-").diagnostics, both)
        ∧ both.seenAt 2 = (.ok 255, true)
        ∧ both.seenAt 3 = (.ok 91, false)
        ∧ (machine.load "+!-" 0).2.load "<>." 3
          = (.error (.memory .above), ((machine.load "<>." 3).2.load "+!-" 0).2) := by
  let machine : Machine :=
    { create 0 (.bytes []) (.scripted (.ofReplies [] [])) with
      tape := ⟨#[.data 7, .endMark, .data 7, .endMark, .data 7, .data 7]⟩ }
  have firstRead : symbols "+!-".toList = ['+', '-'] := by decide
  have secondRead : symbols "[".toList = ['['] := by decide
  have thirdRead : symbols "<>.".toList = ['<', '>', '.'] := by decide
  have firstFits : (0 : Int) + (symbols "+!-".toList).length < machine.tape.size := by
    rw [firstRead]
    decide
  have secondFits : (3 : Int) + (symbols "[".toList).length < machine.tape.size := by
    rw [secondRead]
    decide
  have thirdPasses : machine.tape.size ≤ (3 : Int) + (symbols "<>.".toList).length := by
    rw [thirdRead]
    decide
  obtain ⟨_, firstLoads, _⟩ := load_of_fitting (by decide) firstFits
  obtain ⟨_, secondLoads, _⟩ := load_of_fitting (by decide) secondFits
  have thirdFaults := load_of_above (by decide) thirdPasses
  have commute := (disjoint_loads_commute machine).1
  obtain ⟨_, _, _, _, both, loads, loadsBehind, loadsFirst, loadsBefore, intact, alsoIntact⟩ :=
    commute "+!-" "[" 0 3 (windowsApart_iff.mpr (by rw [firstRead]; decide))
  obtain ⟨_, _, _, _, _, alsoLoads, faultsBehind, faultsFirst, alsoBefore, _⟩ :=
    commute "+!-" "<>." 0 3 (windowsApart_iff.mpr (by rw [firstRead]; decide))
  obtain ⟨rfl, rfl⟩ := Prod.mk.inj (loads.symm.trans firstLoads)
  obtain ⟨rfl, rfl⟩ := Prod.mk.inj (loadsFirst.symm.trans secondLoads)
  obtain ⟨rfl, rfl⟩ := Prod.mk.inj (faultsFirst.symm.trans thirdFaults)
  refine ⟨machine, both, rfl, ?_, ?_, ?_, ?_, ?_, ?_⟩
  · rw [loads]
  · rw [loads, loadsBehind]
  · rw [loadsFirst, loadsBefore]
  · have found := (intact _ rfl).mark
    rwa [firstRead] at found
  · exact (alsoIntact _ rfl).code 0 '[' (by rw [secondRead]; rfl)
  · rw [alsoLoads, faultsBehind, faultsFirst, alsoBefore]

end TapeMachine.Machine
